import FeatureTables.Datum
import FeatureTables.Fault
import FeatureTables.Geometry.Box
import FeatureTables.Geometry.Hex
import FeatureTables.Geometry.Parts
import FeatureTables.Geometry.Wkb

namespace FeatureTables

def utf8 (text : String) : List UInt8 := text.toList.flatMap String.utf8EncodeChar

namespace Cell

-- Views and mutable buffers are copied into plain bytes before they are read.
def copied : Cell → Cell
  | .buffer .view content => .buffer .bytes content
  | .buffer .mutable content => .buffer .bytes content
  | cell => cell

-- What the geometry reader takes: plain bytes, and text. A list, which it would read
-- item by item, is left out.
def bytes? : Cell → Option (List UInt8)
  | .buffer .bytes content => some content
  | .buffer _ _ => none
  | .datum (.text value) => some (utf8 value)
  | .datum _ => none

end Cell

namespace Wkb

-- Bytes that begin with the digit 0 or 1 are hexadecimal text: no byte order mark is
-- a digit.
def binary? : List UInt8 → Option (List UInt8)
  | [] => some []
  | first :: rest =>
    if first = 48 ∨ first = 49 then Hex.decode (first :: rest) else some (first :: rest)

def readCell? (cell : Cell) : Option Piece := do
  let bytes ← cell.copied.bytes?
  let bytes ← binary? bytes
  read bytes

-- What both decoders share. Damage is a fault of the given reading; a geometry that is
-- itself curved is a fault of its own, one that holds curved parts is not.
def decode (reading : Reading) (cell : Cell) : Except Fault PlacedGeometry :=
  match readCell? cell with
  | none => .error (.undecodable reading)
  | some piece =>
    if piece.geometry.isCurved then .error .nonlinear else .ok ⟨piece.header.srid, piece.geometry⟩

end Wkb

def decodeValue (cell : Cell) : Except Fault (Option PlacedGeometry) :=
  if cell = .null then .ok none else (Wkb.decode .value cell).map some

def boxOf : Geometry → Except Fault Box
  | .polygon _ rings => .ok (.ofRings rings)
  | other => .error (.notPolygon other.typeName)

def decodeEnvelope (cell : Cell) : Except Fault (Option Box) :=
  if cell = .null then .ok none
  else do
    let placed ← Wkb.decode .envelope cell
    return some (← boxOf placed.geometry)

end FeatureTables
