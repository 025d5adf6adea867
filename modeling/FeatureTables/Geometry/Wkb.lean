import FeatureTables.Geometry.Basic

namespace FeatureTables.Wkb

inductive ByteOrder where
  | big
  | little
  deriving DecidableEq, Repr

-- Where reading stands. The byte order is part of it: a header with an unknown order
-- mark keeps the order of the header before.
structure Cursor where
  order : ByteOrder
  rest : List UInt8

def Cursor.start (bytes : List UInt8) : Cursor := ⟨.little, bytes⟩

def bigEndian (bytes : List UInt8) : Nat := bytes.foldl (fun value byte => 256 * value + byte.toNat) 0

def ByteOrder.number : ByteOrder → List UInt8 → Nat
  | .big, bytes => bigEndian bytes
  | .little, bytes => bigEndian bytes.reverse

abbrev Reader (α : Type) := Cursor → Option (α × Cursor)

def front? : Nat → List UInt8 → Option (List UInt8 × List UInt8)
  | 0, bytes => some ([], bytes)
  | _ + 1, [] => none
  | width + 1, byte :: bytes => (front? width bytes).map fun parts => (byte :: parts.1, parts.2)

def word (width : Nat) : Reader Nat := fun c => do
  let (bytes, rest) ← front? width c.rest
  return (c.order.number bytes, { c with rest })

def ordinate : Reader Binary64 := fun c => do
  let (bits, c) ← word 8 c
  return (⟨UInt64.ofNat bits⟩, c)

-- One item after another. A count beyond what the bytes can hold fails at their end.
def many (read : Reader α) : Nat → Reader (List α)
  | 0, c => some ([], c)
  | count + 1, c => do
    let (first, c) ← read c
    let (rest, c) ← many read count c
    return (first :: rest, c)

def counted (read : Reader α) : Reader (List α) := fun c => do
  let (count, c) ← word 4 c
  many read count c

inductive Kind where
  | point
  | lineString
  | polygon
  | multi (kind : MultiKind)
  | curved (kind : CurveKind)
  deriving DecidableEq, Repr

def Kind.ofNumber? : Nat → Option Kind
  | 1 => some .point
  | 2 => some .lineString
  | 3 => some .polygon
  | 4 => some (.multi .points)
  | 5 => some (.multi .lineStrings)
  | 6 => some (.multi .polygons)
  | 7 => some (.multi .mixed)
  | 8 => some (.curved .circularString)
  | 9 => some (.curved .compoundCurve)
  | 10 => some (.curved .curvePolygon)
  | 11 => some (.curved .multiCurve)
  | 12 => some (.curved .multiSurface)
  | _ => none

def Kind.isPath (kind : Kind) : Bool := kind = .lineString ∨ kind = .curved .circularString

def Kind.admits : Kind → Kind → Bool
  | .multi .points, part => part = .point
  | .multi .lineStrings, part => part = .lineString
  | .multi .polygons, part => part = .polygon
  | .multi .mixed, _ => true
  | .curved .compoundCurve, part => part.isPath
  | .curved .curvePolygon, part | .curved .multiCurve, part =>
    part.isPath || part = .curved .compoundCurve
  | .curved .multiSurface, part => part = .polygon ∨ part = .curved .curvePolygon
  | _, _ => false

structure Header where
  kind : Kind
  dimensions : Dimensions
  srid : Int

def signed32 (n : Nat) : Int := if n < 0x80000000 then n else (n : Int) - 0x100000000

-- Extra ordinates are announced by flag bits or by the thousands of the kind.
def typeWord? (n : Nat) : Option (Kind × Dimensions) := do
  let plain := n % 0x10000
  let kind ← Kind.ofNumber? (plain % 1000)
  let thousands := plain / 1000
  return (kind, ⟨n.testBit 31 || thousands = 1 || thousands = 3,
    n.testBit 30 || thousands = 2 || thousands = 3⟩)

def orderMark (mark : Nat) (last : ByteOrder) : ByteOrder :=
  if mark = 0 then .big else if mark = 1 then .little else last

def header : Reader Header := fun c => do
  let (mark, c) ← word 1 c
  let (n, c) ← word 4 { c with order := orderMark mark c.order }
  let (kind, dimensions) ← typeWord? n
  if n.testBit 29 then
    let (srid, c) ← word 4 c
    return (⟨kind, dimensions, signed32 srid⟩, c)
  else return (⟨kind, dimensions, 0⟩, c)

def vertex (d : Dimensions) : Reader Vertex := fun c => do
  let (x, c) ← ordinate c
  let (y, c) ← ordinate c
  let (further, c) ← many ordinate (d.elevation.toNat + d.measure.toNat) c
  return (⟨x, y, further⟩, c)

-- A ring has no vertex, or at least three with the last where the first is.
def closed (ring : Ring) : Bool :=
  match ring.head?, ring.getLast? with
  | some first, some last => 3 ≤ ring.length && first.coincides last
  | _, _ => true

def polygonRings? (rings : List Ring) : Option (List Ring) :=
  if !rings.all closed then none
  else match rings with
    | [] :: holes => if holes.all (· = []) then some [] else none
    | rings => some rings

structure Ends where
  first : Vertex
  last : Vertex

def Ends.of? (vertices : List Vertex) : Option Ends := do
  let first ← vertices.head?
  let last ← vertices.getLast?
  return ⟨first, last⟩

-- What was read. Curved geometries are read to their end, so that damage inside them
-- is found. Only a path with vertices has ends.
structure Piece where
  header : Header
  geometry : Geometry
  ends? : Option Ends

-- A compound curve is one path: each section has vertices and begins where the section
-- before it ends. Only the plane counts, so extra ordinates may jump.
def connected : List Piece → Bool
  | [] => true
  | [last] => last.ends?.isSome
  | first :: second :: rest =>
    match first.ends?, second.ends? with
    | some before, some after => before.last.coincides after.first && connected (second :: rest)
    | _, _ => false

def pathEnds? (sections : List Piece) : Option Ends := do
  let first ← sections.head?
  let last ← sections.getLast?
  return ⟨(← first.ends?).first, (← last.ends?).last⟩

def pointOf (d : Dimensions) (v : Vertex) : Geometry :=
  .point d (if v.x.isNaN && v.y.isNaN then none else some v)

def partsFit (kind : Kind) (parts : List Piece) : Bool :=
  parts.all (fun part => kind.admits part.header.kind) &&
    match kind, parts with
    | .curved .compoundCurve, sections => connected sections
    | .curved .curvePolygon, shell :: holes => shell.ends?.isSome || holes.all (·.ends?.isNone)
    | _, _ => true

def partsOf (part : Reader Piece) (kind : Kind) : Reader (List Piece) := fun c => do
  let (parts, c) ← counted part c
  if partsFit kind parts then return (parts, c) else none

def body (part : Reader Piece) (h : Header) : Reader Piece := fun c =>
  match h.kind with
  | .point => do
    let (v, c) ← vertex h.dimensions c
    return (⟨h, pointOf h.dimensions v, none⟩, c)
  | .lineString => do
    let (vertices, c) ← counted (vertex h.dimensions) c
    if vertices.length = 1 then none
    else return (⟨h, .lineString h.dimensions vertices, Ends.of? vertices⟩, c)
  | .polygon => do
    let (rings, c) ← counted (counted (vertex h.dimensions)) c
    let rings ← polygonRings? rings
    return (⟨h, .polygon h.dimensions rings, none⟩, c)
  | .multi kind => do
    let (parts, c) ← partsOf part (.multi kind) c
    return (⟨h, .multi kind (parts.map Piece.geometry), none⟩, c)
  | .curved .circularString => do
    let (vertices, c) ← counted (vertex h.dimensions) c
    if vertices.length = 2 then none
    else return (⟨h, .curved .circularString h.dimensions, Ends.of? vertices⟩, c)
  | .curved kind => do
    let (parts, c) ← partsOf part (.curved kind) c
    let ends? := if kind = .compoundCurve then pathEnds? parts else none
    return (⟨h, .curved kind h.dimensions, ends?⟩, c)

-- Nesting takes at least one header for each level, so the number of bytes bounds it.
def piece : Nat → Reader Piece
  | 0, _ => none
  | depth + 1, c => do
    let (h, c) ← header c
    body (piece depth) h c

def read (bytes : List UInt8) : Option Piece :=
  (piece bytes.length (.start bytes)).map (·.1)

end FeatureTables.Wkb
