import FeatureTables.Operation.Query

namespace FeatureTables

def Cell.HoldsCurve (cell : Cell) : Prop :=
  ∃ piece, Wkb.readCell? cell = some piece ∧ piece.geometry.isCurved = true

def Fault.OfRow (row : List Cell) : Fault → Prop
  | .undecodable _ | .notPolygon _ => True
  | .nonlinear => ∃ cell ∈ row, cell.HoldsCurve
  | .emptyRow => row = []
  | _ => False

theorem mapM_error_iff {act : α → Except ε β} {items : List α} :
    items.mapM act = .error fault ↔ ∃ earlier item later, items = earlier ++ item :: later ∧
      (∀ other ∈ earlier, ∃ value, act other = .ok value) ∧ act item = .error fault := by
  constructor
  · intro failed
    induction items with
    | nil => cases failed
    | cons item rest ih =>
      rw [List.mapM_cons] at failed
      cases first : act item with
      | error other =>
        rw [first] at failed
        cases failed
        exact ⟨[], item, rest, rfl, List.forall_mem_nil _, first⟩
      | ok value =>
        rw [first] at failed
        cases others : rest.mapM act with
        | error other =>
          simp only [others] at failed
          cases failed
          obtain ⟨earlier, bad, later, rfl, good, met⟩ := ih others
          exact ⟨item :: earlier, bad, later, rfl, List.forall_mem_cons.mpr ⟨⟨value, first⟩, good⟩, met⟩
        | ok values =>
          simp only [others] at failed
          cases failed
  · rintro ⟨earlier, item, later, rfl, good, met⟩
    induction earlier with
    | nil =>
      rw [List.nil_append, List.mapM_cons, met]
      rfl
    | cons other earlier ih =>
      obtain ⟨⟨value, made⟩, others⟩ := List.forall_mem_cons.mp good
      rw [List.cons_append, List.mapM_cons, made, ih others]
      rfl

theorem mapM_error {act : α → Except ε β} {items : List α} (failed : items.mapM act = .error fault) :
    ∃ item ∈ items, act item = .error fault := by
  obtain ⟨earlier, item, later, rfl, _, met⟩ := mapM_error_iff.mp failed
  exact ⟨item, List.mem_append_right _ List.mem_cons_self, met⟩

theorem mapM_eq_some_iff {read : α → Option β} {items : List α} {values : List β} :
    items.mapM read = some values ↔ items.map read = values.map some := by
  induction items generalizing values with
  | nil => cases values <;> simp
  | cons item rest ih =>
    rw [List.mapM_cons, List.map_cons]
    cases first : read item with
    | none => cases values <;> simp
    | some value =>
      cases values with
      | nil => cases others : rest.mapM read <;> simp
      | cons head tail =>
        have others : rest.mapM read = some tail ↔ rest.map read = tail.map some := ih
        rw [List.map_cons, List.cons.injEq, ← others, Option.some.injEq]
        cases rest.mapM read <;> simp

theorem foldlM_error_iff {step : β → α → Except ε β} {items : List α} {start : β} :
    items.foldlM step start = .error fault ↔ ∃ earlier item later reached, items = earlier ++ item :: later ∧
      earlier.foldlM step start = .ok reached ∧ step reached item = .error fault := by
  constructor
  · intro failed
    induction items generalizing start with
    | nil => cases failed
    | cons item rest ih =>
      rw [List.foldlM_cons] at failed
      cases first : step start item with
      | error other =>
        rw [first] at failed
        cases failed
        exact ⟨[], item, rest, start, rfl, rfl, first⟩
      | ok next =>
        rw [first] at failed
        obtain ⟨earlier, bad, later, reached, rfl, came, met⟩ := ih failed
        refine ⟨item :: earlier, bad, later, reached, rfl, ?_, met⟩
        rw [List.foldlM_cons, first]
        exact came
  · rintro ⟨earlier, item, later, reached, rfl, came, met⟩
    rw [List.foldlM_append, came]
    simp only [bind, Except.bind, List.foldlM_cons, met]

theorem foldlM_kept {step : β → α → Except ε β} {items : List α} {kept : β → Prop}
    (keeps : ∀ value item next, kept value → step value item = .ok next → kept next)
    (start : kept value) (came : items.foldlM step value = .ok reached) : kept reached := by
  induction items generalizing value with
  | nil =>
    cases came
    exact start
  | cons item rest ih =>
    rw [List.foldlM_cons] at came
    cases first : step value item with
    | error =>
      rw [first] at came
      cases came
    | ok next =>
      rw [first] at came
      exact ih (keeps _ _ _ start first) came

theorem foldlM_error {step : β → α → Except ε β} {items : List α} (kept : β → Prop)
    (keeps : ∀ value item next, kept value → step value item = .ok next → kept next)
    (start : kept value) (failed : items.foldlM step value = .error fault) :
    ∃ item ∈ items, ∃ reached, kept reached ∧ step reached item = .error fault := by
  obtain ⟨earlier, item, later, reached, rfl, came, met⟩ := foldlM_error_iff.mp failed
  exact ⟨item, List.mem_append_right _ List.mem_cons_self, reached, foldlM_kept keeps start came, met⟩

theorem Wkb.decode_error (failed : Wkb.decode reading cell = .error fault) :
    fault = .undecodable reading ∨ fault = .nonlinear ∧ cell.HoldsCurve := by
  unfold Wkb.decode at failed
  cases found : Wkb.readCell? cell with
  | none =>
    simp only [found, Except.error.injEq] at failed
    exact .inl failed.symm
  | some piece =>
    cases curved : piece.geometry.isCurved with
    | false => simp [found, curved] at failed
    | true =>
      simp only [found, curved, if_true, Except.error.injEq] at failed
      exact .inr ⟨failed.symm, piece, found, curved⟩

theorem decodeValue_error (failed : decodeValue cell = .error fault) :
    fault = .undecodable .value ∨ fault = .nonlinear ∧ cell.HoldsCurve := by
  unfold decodeValue at failed
  split at failed
  · cases failed
  · cases decoded : Wkb.decode .value cell with
    | ok placed => simp [decoded, Except.map] at failed
    | error other =>
      simp only [decoded, Except.map, Except.error.injEq] at failed
      exact failed ▸ Wkb.decode_error decoded

theorem boxOf_error (failed : boxOf geometry = .error fault) : ∃ found, fault = .notPolygon found := by
  cases geometry with
  | polygon => cases failed
  | point | lineString | multi | curved =>
    cases failed
    exact ⟨_, rfl⟩

theorem decodeEnvelope_error (failed : decodeEnvelope cell = .error fault) :
    fault = .undecodable .envelope ∨ (∃ found, fault = .notPolygon found) ∨
      fault = .nonlinear ∧ cell.HoldsCurve := by
  unfold decodeEnvelope at failed
  split at failed
  · cases failed
  · cases decoded : Wkb.decode .envelope cell with
    | error other =>
      rw [decoded] at failed
      cases failed
      exact (Wkb.decode_error decoded).imp_right .inr
    | ok placed =>
      rw [decoded] at failed
      cases shape : boxOf placed.geometry with
      | error other =>
        simp only [bind, Except.bind, shape] at failed
        cases failed
        exact .inr (.inl (boxOf_error shape))
      | ok box =>
        simp only [bind, Except.bind, shape] at failed
        cases failed

theorem FieldValue.decode_cell {field : FieldValue} {left : Cell} (decoded : field.decode = .ok (.cell left)) :
    left = .null := by
  cases field with
  | geometry => cases decoded
  | cell came =>
    simp only [decode] at decoded
    cases read : decodeValue came with
    | error => simp [read, bind, Except.bind] at decoded
    | ok placed? =>
      rw [read] at decoded
      cases placed? with
      | none =>
        cases decoded
        rfl
      | some placed => cases decoded

theorem FieldValue.decode_error {field : FieldValue} (failed : field.decode = .error fault) :
    fault = .undecodable .value ∨ fault = .nonlinear ∧ ∃ came, field = .cell came ∧ came.HoldsCurve := by
  cases field with
  | geometry =>
    cases failed
    exact .inl rfl
  | cell came =>
    simp only [decode] at failed
    cases read : decodeValue came with
    | error other =>
      rw [read] at failed
      cases failed
      exact (decodeValue_error read).imp_right fun curve => ⟨curve.1, came, rfl, curve.2⟩
    | ok placed? =>
      rw [read] at failed
      cases placed? <;> cases failed

namespace Feature

variable {f : Feature} {field : FieldValue} {row : List Cell}

def Of (row : List Cell) (f : Feature) : Prop :=
  ∀ named ∈ f, ∀ cell, named.2 = .cell cell → cell ∈ row ∨ cell = .null

theorem of_put (of : f.Of row) (fresh : ∀ cell, field = .cell cell → cell ∈ row ∨ cell = .null) :
    Of row (f.put name field) := by
  induction f with
  | nil =>
    intro named member
    cases List.mem_singleton.mp member
    exact fresh
  | cons first rest ih =>
    have others : Of row rest := fun named member => of named (List.mem_cons_of_mem _ member)
    intro named member
    by_cases same : first.1 = name
    · simp only [put, same, if_true, List.mem_cons] at member
      rcases member with rfl | member
      · exact fresh
      · exact others named member
    · simp only [put, same, if_false, List.mem_cons] at member
      rcases member with rfl | member
      · exact of _ List.mem_cons_self
      · exact ih others named member

theorem of_ofRow (columns : List String) (row : List Cell) : Of row (ofRow columns row) := by
  have fold (fields : List (String × Cell)) : ∀ f : Feature, f.Of row → (∀ named ∈ fields, named.2 ∈ row) →
      Of row (fields.foldl (fun f named => f.put named.1 (.cell named.2)) f) := by
    induction fields with
    | nil => exact fun f of _ => of
    | cons named rest ih =>
      intro f of within
      refine ih _ (of_put of ?_) fun other member => within other (List.mem_cons_of_mem _ member)
      rintro cell ⟨⟩
      exact .inl (within named List.mem_cons_self)
  exact fold _ [] nofun fun named member => (List.of_mem_zip member).2

theorem of_value (of : f.Of row) (found : f.value name = .cell cell) : cell ∈ row ∨ cell = .null := by
  unfold value at found
  cases listed : f.lookup name with
  | none =>
    simp only [listed, Option.getD_none, FieldValue.cell.injEq] at found
    exact .inr found.symm
  | some field =>
    simp only [listed, Option.getD_some] at found
    obtain ⟨front, back, rfl, _⟩ := List.lookup_eq_some_iff.mp listed
    exact of (name, field) (by simp) cell found

theorem of_decodeField (of : f.Of row) (decoded : f.decodeField name = .ok next) : next.Of row := by
  unfold decodeField at decoded
  cases made : (f.value name).decode with
  | error =>
    rw [made] at decoded
    cases decoded
  | ok field =>
    rw [made] at decoded
    cases decoded
    refine of_put of ?_
    rintro cell rfl
    exact .inr (FieldValue.decode_cell made)

theorem decodeField_error (of : f.Of row) (failed : f.decodeField name = .error fault) : fault.OfRow row := by
  unfold decodeField at failed
  cases made : (f.value name).decode with
  | ok =>
    rw [made] at failed
    cases failed
  | error other =>
    rw [made] at failed
    cases failed
    rcases FieldValue.decode_error made with rfl | ⟨rfl, cell, found, curve⟩
    · trivial
    · rcases of_value of found with member | rfl
      · exact ⟨cell, member, curve⟩
      · obtain ⟨piece, read, _⟩ := curve
        cases read

end Feature

theorem readFeatureRows_error (failed : readFeatureRows t result = .error fault) :
    ∃ row ∈ result.rows, fault.OfRow row := by
  obtain ⟨row, member, bad⟩ := mapM_error failed
  obtain ⟨c, _, reached, of, met⟩ := foldlM_error (Feature.Of row) (fun _ _ _ => Feature.of_decodeField)
    (Feature.of_ofRow result.columns row) bad
  exact ⟨row, member, Feature.decodeField_error of met⟩

theorem rowBox_error (failed : rowBox row = .error fault) : fault.OfRow row := by
  cases row with
  | nil =>
    cases failed
    exact rfl
  | cons first rest =>
    rcases decodeEnvelope_error failed with rfl | ⟨found, rfl⟩ | ⟨rfl, curve⟩
    · trivial
    · trivial
    · exact ⟨first, List.mem_cons_self, curve⟩

theorem readBoundsRows_error (failed : readBoundsRows rows = .error fault) : ∃ row ∈ rows, fault.OfRow row := by
  obtain ⟨row, member, soFar?, _, met⟩ := foldlM_error (fun _ => True) (fun _ _ _ _ _ => trivial) trivial failed
  refine ⟨row, member, ?_⟩
  cases made : rowBox row with
  | error other =>
    rw [made] at met
    cases met
    exact rowBox_error made
  | ok box? =>
    rw [made] at met
    cases met

end FeatureTables
