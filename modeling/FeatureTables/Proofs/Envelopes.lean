import FeatureTables.Geometry.Decode
import FeatureTables.Proofs.Extremes

namespace FeatureTables

namespace Wkb

variable {part : Reader Piece} {h : Header} {c after : Cursor} {found : Piece} {rings given : List Ring}

theorem polygonRings?_closed (kept : polygonRings? given = some rings) : ∀ ring ∈ rings, closed ring = true := by
  unfold polygonRings? at kept
  cases whole : given.all closed with
  | false =>
    rw [whole] at kept
    cases kept
  | true =>
    rw [whole, Bool.not_true, if_neg Bool.false_ne_true] at kept
    split at kept
    · split at kept <;> cases kept
      exact List.forall_mem_nil _
    · cases kept
      exact List.all_eq_true.mp whole

theorem body_closed (decoded : body part h c = some (found, after))
    (shape : found.geometry = .polygon d rings) : ∀ ring ∈ rings, closed ring = true := by
  unfold body at decoded
  cases kind : h.kind with
  | polygon =>
    simp only [kind, Option.bind_eq_bind, Option.bind_eq_some_iff] at decoded
    obtain ⟨_, _, _, kept, same⟩ := decoded
    cases same
    cases shape
    exact polygonRings?_closed kept
  | point | multi =>
    simp only [kind, Option.bind_eq_bind, Option.bind_eq_some_iff] at decoded
    obtain ⟨_, _, same⟩ := decoded
    cases same
    cases shape
  | lineString =>
    simp only [kind, Option.bind_eq_bind, Option.bind_eq_some_iff] at decoded
    obtain ⟨_, _, same⟩ := decoded
    split at same <;> cases same
    cases shape
  | curved curve =>
    cases curve with
    | circularString =>
      simp only [kind, Option.bind_eq_bind, Option.bind_eq_some_iff] at decoded
      obtain ⟨_, _, same⟩ := decoded
      split at same <;> cases same
      cases shape
    | compoundCurve | curvePolygon | multiCurve | multiSurface =>
      simp only [kind, Option.bind_eq_bind, Option.bind_eq_some_iff] at decoded
      obtain ⟨_, _, same⟩ := decoded
      cases same
      cases shape

theorem read_closed (decoded : read bytes = some found) (shape : found.geometry = .polygon d rings) :
    ∀ ring ∈ rings, closed ring = true := by
  unfold Wkb.read at decoded
  obtain ⟨⟨_, after⟩, whole, rfl⟩ := Option.map_eq_some_iff.mp decoded
  cases depth : bytes.length with
  | zero => simp [depth, piece] at whole
  | succ depth =>
    simp only [depth, piece, Option.bind_eq_bind, Option.bind_eq_some_iff] at whole
    obtain ⟨_, _, inside⟩ := whole
    exact body_closed inside shape

end Wkb

-- The first vertex of a closed ring equals the last, so it has two numbers.
theorem Box.ofRing_numeric (closed : Wkb.closed (first :: rest) = true) : (ofRing (first :: rest)).Numeric := by
  obtain ⟨last, final⟩ : ∃ last, (first :: rest).getLast? = some last :=
    ⟨_, List.getLast?_eq_some_getLast (List.cons_ne_nil _ _)⟩
  simp only [Wkb.closed, List.head?_cons, final, Bool.and_eq_true] at closed
  obtain ⟨_, meets⟩ := closed
  simp only [Vertex.coincides, Bool.and_eq_true] at meets
  have west := (Binary64.equal_iff.mp meets.1).1
  have south := (Binary64.equal_iff.mp meets.2).1
  rw [ofRing, ← List.foldl_map]
  exact foldl_merge_numeric ⟨west, south, west, south⟩

theorem Wkb.decode_parts (decoded : Wkb.decode reading cell = .ok placed) :
    ∃ piece, readCell? cell = some piece ∧ placed = ⟨piece.header.srid, piece.geometry⟩ := by
  unfold Wkb.decode at decoded
  cases found : readCell? cell with
  | none => simp [found] at decoded
  | some piece =>
    cases curved : piece.geometry.isCurved with
    | true => simp [found, curved] at decoded
    | false =>
      simp only [found, curved, Bool.false_eq_true, if_false, Except.ok.injEq] at decoded
      exact ⟨piece, rfl, decoded.symm⟩

theorem boxOf_parts (boxed : boxOf geometry = .ok box) :
    ∃ d rings, geometry = .polygon d rings ∧ box = .ofRings rings := by
  cases geometry with
  | polygon d rings =>
    cases boxed
    exact ⟨d, rings, rfl, rfl⟩
  | point | lineString | multi | curved => cases boxed

theorem decodeEnvelope_value (value : cell ≠ .null) : decodeEnvelope cell =
    (Wkb.decode .envelope cell >>= fun placed => (boxOf placed.geometry).map some) := by
  unfold decodeEnvelope
  rw [if_neg value]
  rfl

theorem decodeEnvelope_null : decodeEnvelope cell = .ok none ↔ cell = .null := by
  constructor
  · intro decoded
    refine Decidable.byContradiction fun value => ?_
    rw [decodeEnvelope_value value] at decoded
    cases made : Wkb.decode .envelope cell with
    | error => simp [made, bind, Except.bind] at decoded
    | ok placed => cases boxed : boxOf placed.geometry <;> simp [made, boxed, bind, Except.bind, Except.map] at decoded
  · rintro rfl
    rfl

theorem decodeEnvelope_parts (decoded : decodeEnvelope cell = .ok (some box)) :
    ∃ piece d rings, Wkb.readCell? cell = some piece ∧ piece.geometry = .polygon d rings ∧
      box = .ofRings rings := by
  have value : cell ≠ .null := by
    rintro rfl
    cases decoded
  rw [decodeEnvelope_value value] at decoded
  cases made : Wkb.decode .envelope cell with
  | error => simp [made, bind, Except.bind] at decoded
  | ok placed =>
    obtain ⟨piece, found, rfl⟩ := Wkb.decode_parts made
    cases boxed : boxOf piece.geometry with
    | error => simp [made, boxed, bind, Except.bind, Except.map] at decoded
    | ok bounds =>
      obtain ⟨d, rings, shape, rfl⟩ := boxOf_parts boxed
      simp only [made, boxed, bind, Except.bind, Except.map, Except.ok.injEq, Option.some.injEq] at decoded
      exact ⟨piece, d, rings, found, shape, decoded.symm⟩

theorem decodeEnvelope_box (decoded : decodeEnvelope cell = .ok (some box)) : box = .empty ∨ box.Numeric := by
  obtain ⟨piece, d, rings, found, shape, rfl⟩ := decodeEnvelope_parts decoded
  simp only [Wkb.readCell?, Option.bind_eq_bind, Option.bind_eq_some_iff] at found
  obtain ⟨_, _, bytes, _, found⟩ := found
  have closed := Wkb.read_closed found shape
  cases rings with
  | nil => exact .inl rfl
  | cons shell holes =>
    cases shell with
    | nil => exact .inl rfl
    | cons first rest => exact .inr (Box.ofRing_numeric (closed _ List.mem_cons_self))

end FeatureTables
