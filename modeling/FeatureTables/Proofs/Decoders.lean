import FeatureTables.Proofs.Bounds
import FeatureTables.Proofs.Reporting

namespace FeatureTables

open Binary64

variable {cell : Cell} {placed : PlacedGeometry} {ring : Ring}

namespace Fault

-- By what a caller can tell one fault from another. A failure of a connection keeps its
-- kind when it passes through.
inductive Category where
  | execution
  | decoding
  | catalog
  | failure (kind : FailureKind)
  | operand
  | position
  | attribute
  deriving DecidableEq, Repr

def category : Fault → Category
  | statement .. | metadata _ => .execution
  | undecodable _ | notPolygon _ => .decoding
  | catalog _ => .catalog
  | passed cause => .failure cause.kind
  | nonlinear => .failure .unsupported
  | unknownBackend _ => .failure .value
  | rowWidth | notKey | notSearchable => .operand
  | emptyRow => .position
  | missingOperation => .attribute

end Fault

namespace Box

structure Bounds (box : Box) (ring : Ring) : Prop where
  west : Least box.minX (ring.map Vertex.x)
  south : Least box.minY (ring.map Vertex.y)
  east : Greatest box.maxX (ring.map Vertex.x)
  north : Greatest box.maxY (ring.map Vertex.y)

theorem ofRing_bounds (solid : ring ≠ []) (numbers : ∀ v ∈ ring, v.x.Number ∧ v.y.Number) :
    (ofRing ring).Bounds ring := by
  cases ring with
  | nil => exact absurd rfl solid
  | cons first rest =>
    have numeric : ∀ b ∈ (first :: rest).map ofVertex, b.Numeric := by
      refine List.forall_mem_map.mpr fun v member => ?_
      obtain ⟨x, y⟩ := numbers v member
      exact ⟨x, y, x, y⟩
    have smallest := foldl_merge_smallest numeric
    rw [List.foldl_map] at smallest
    obtain ⟨west, south, east, north⟩ := smallest
    simp only [List.map_cons, List.map_map] at west south east north
    exact ⟨west, south, east, north⟩

end Box

theorem Wkb.decode_reread (reading other : Reading) (cell : Cell) : match Wkb.decode reading cell with
    | .ok placed => Wkb.decode other cell = .ok placed
    | .error fault => ∃ met, Wkb.decode other cell = .error met ∧ met.category = fault.category := by
  unfold Wkb.decode
  cases readCell? cell with
  | none => exact ⟨_, rfl, rfl⟩
  | some piece =>
    cases curved : piece.geometry.isCurved with
    | true => simp [curved]
    | false => simp [curved]

theorem decoders_exact (cell : Cell) : match decodeValue cell with
    | .ok none => cell = .null ∧ decodeEnvelope cell = .ok none
    | .ok (some placed) => decodeEnvelope cell = (boxOf placed.geometry).map some
    | .error fault => ∃ other, decodeEnvelope cell = .error other ∧ other.category = fault.category := by
  by_cases null : cell = .null
  · subst null
    exact ⟨rfl, rfl⟩
  · have reread := Wkb.decode_reread .value .envelope cell
    rw [decodeEnvelope_value null, decodeValue, if_neg null]
    cases read : Wkb.decode .value cell with
    | error fault =>
      rw [read] at reread
      obtain ⟨other, failed, same⟩ := reread
      rw [failed]
      exact ⟨other, rfl, same⟩
    | ok placed =>
      rw [read] at reread
      rw [reread]
      rfl

-- The envelope of a cell fails wherever its geometry does, with a fault of one category,
-- and where the geometry is no polygon. That of a polygon goes around the vertices of the
-- shell, and has no number for a side where there are none.
theorem decoders_agree (cell : Cell) :
    (decodeEnvelope cell = .ok none ↔ cell = .null) ∧
      (∀ fault, decodeValue cell = .error fault →
        ∃ other, decodeEnvelope cell = .error other ∧ other.category = fault.category) ∧
      (∀ placed, decodeValue cell = .ok (some placed) → (∀ d rings, placed.geometry ≠ .polygon d rings) →
        ∃ fault, decodeEnvelope cell = .error fault ∧ fault.isDecoding = true) ∧
      ∀ srid d rings, decodeValue cell = .ok (some ⟨srid, .polygon d rings⟩) →
        let shell := rings.head?.getD []
        ∃ box, decodeEnvelope cell = .ok (some box) ∧
          (shell ≠ [] → (∀ v ∈ shell, v.x.Number ∧ v.y.Number) → box.Bounds shell) ∧
          (shell = [] → ∀ side ∈ [box.minX, box.minY, box.maxX, box.maxY], side.isNaN = true) := by
  have exactly := decoders_exact cell
  refine ⟨decodeEnvelope_null, ?_, ?_, ?_⟩
  · intro fault failed
    rwa [failed] at exactly
  · intro placed decoded other
    rw [decoded] at exactly
    cases shape : placed.geometry with
    | polygon d rings => exact absurd shape (other d rings)
    | point | lineString | multi | curved =>
      rw [exactly, shape]
      exact ⟨_, rfl, rfl⟩
  · intro srid d rings decoded shell
    rw [decoded] at exactly
    refine ⟨.ofRing shell, exactly, Box.ofRing_bounds, ?_⟩
    intro bare
    rw [bare]
    decide

def Cell.arc : Cell := .buffer .bytes [1, 8, 0, 0, 0, 0, 0, 0, 0]

theorem decoders_agree_sample :
    let corner (x y : UInt64) : Vertex := ⟨⟨x⟩, ⟨y⟩, []⟩
    let low : UInt64 := 0xbff0000000000000
    let high : UInt64 := 0x3ff0000000000000
    let corners := [corner low low, corner high low, corner high high, corner low high, corner low low]
    let square := Cell.square (0xbf, 0xf0) (0x3f, 0xf0)
    let line : Cell := .buffer .bytes [1, 2, 0, 0, 0, 0, 0, 0, 0]
    decodeValue .arc = .error .nonlinear ∧
      (∃ other, decodeEnvelope .arc = .error other ∧ other.category = .failure .unsupported) ∧
      decodeValue line = .ok (some ⟨0, .lineString ⟨false, false⟩ []⟩) ∧
      (∃ fault, decodeEnvelope line = .error fault ∧ fault.isDecoding = true) ∧
      decodeValue square = .ok (some ⟨0, .polygon ⟨false, false⟩ [corners]⟩) ∧
      (∃ box, decodeEnvelope square = .ok (some box) ∧ box.Bounds corners) ∧
      decodeValue .emptyPolygon = .ok (some ⟨0, .polygon ⟨false, false⟩ []⟩) ∧
      ∃ box, decodeEnvelope .emptyPolygon = .ok (some box) ∧ box.minX.isNaN = true := by
  intro corner low high corners square line
  have numbers : ∀ v ∈ corners, v.x.isNaN = false ∧ v.y.isNaN = false := by decide
  have curved := (decoders_agree .arc).2.1 .nonlinear rfl
  have refused := (decoders_agree line).2.2.1 ⟨0, .lineString ⟨false, false⟩ []⟩ rfl nofun
  obtain ⟨box, made, bounds, _⟩ := (decoders_agree square).2.2.2 0 ⟨false, false⟩ [corners] rfl
  obtain ⟨none, nothing, _, blank⟩ := (decoders_agree .emptyPolygon).2.2.2 0 ⟨false, false⟩ [] rfl
  exact ⟨rfl, curved, rfl, refused, rfl, ⟨box, made, bounds nofun numbers⟩, rfl, none, nothing,
    blank rfl _ List.mem_cons_self⟩

end FeatureTables
