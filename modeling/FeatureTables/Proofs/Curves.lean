import FeatureTables.Proofs.Decoders

namespace FeatureTables

open Session

variable {State : Type} {cell : Cell} {row : List Cell} {rows : List (List Cell)} {t : FeatureType} {f : Feature}
  {result : ResultSet}

def Reported (result : Except Fault α) : Prop := ∀ fault, result = .error fault → fault.isDecoding = true

theorem reported_error : Reported (.error fault : Except Fault α) ↔ fault.isDecoding = true := by
  constructor
  · exact fun reported => reported fault rfl
  · rintro decoding other ⟨⟩
    exact decoding

theorem reported_ok {value : α} : Reported (.ok value) := by
  rintro fault ⟨⟩

theorem Wkb.decode_curve (curve : cell.HoldsCurve) : Wkb.decode reading cell = .error .nonlinear := by
  obtain ⟨piece, found, curved⟩ := curve
  simp [Wkb.decode, found, curved]

theorem Cell.HoldsCurve.ne_null (curve : cell.HoldsCurve) : cell ≠ .null := by
  rintro rfl
  obtain ⟨piece, found, _⟩ := curve
  cases found

theorem decodeValue_curve (curve : cell.HoldsCurve) : decodeValue cell = .error .nonlinear := by
  rw [decodeValue, if_neg curve.ne_null, Wkb.decode_curve curve]
  rfl

theorem decodeEnvelope_curve (curve : cell.HoldsCurve) : decodeEnvelope cell = .error .nonlinear := by
  rw [decodeEnvelope_value curve.ne_null, Wkb.decode_curve curve]
  rfl

theorem decodeValue_reported : Reported (decodeValue cell) ↔ ¬ cell.HoldsCurve := by
  constructor
  · intro reported curve
    cases reported _ (decodeValue_curve curve)
  · intro plain fault failed
    rcases decodeValue_error failed with rfl | ⟨_, curve⟩
    · rfl
    · exact absurd curve plain

theorem decodeEnvelope_reported : Reported (decodeEnvelope cell) ↔ ¬ cell.HoldsCurve := by
  constructor
  · intro reported curve
    cases reported _ (decodeEnvelope_curve curve)
  · intro plain fault failed
    rcases decodeEnvelope_error failed with rfl | ⟨_, rfl⟩ | ⟨_, curve⟩
    · rfl
    · rfl
    · exact absurd curve plain

theorem reported_mapM {act : α → Except Fault β} {items : List α} :
    Reported (items.mapM act) ↔ ∀ earlier item later, items = earlier ++ item :: later →
      (∀ other ∈ earlier, ∃ value, act other = .ok value) → Reported (act item) := by
  constructor
  · intro reported earlier item later split good fault met
    exact reported fault (mapM_error_iff.mpr ⟨earlier, item, later, split, good, met⟩)
  · intro each fault failed
    obtain ⟨earlier, item, later, split, good, met⟩ := mapM_error_iff.mp failed
    exact each earlier item later split good fault met

theorem reported_foldlM {step : β → α → Except Fault β} {items : List α} {start : β} :
    Reported (items.foldlM step start) ↔ ∀ earlier item later reached, items = earlier ++ item :: later →
      earlier.foldlM step start = .ok reached → Reported (step reached item) := by
  constructor
  · intro reported earlier item later reached split came fault met
    exact reported fault (foldlM_error_iff.mpr ⟨earlier, item, later, reached, split, came, met⟩)
  · intro each fault failed
    obtain ⟨earlier, item, later, reached, split, came, met⟩ := foldlM_error_iff.mp failed
    exact each earlier item later reached split came fault met

theorem reported_made {result : Except Fault α} {make : α → β} :
    Reported (do return make (← result)) ↔ Reported result := by
  cases result with
  | ok value => exact iff_of_true reported_ok reported_ok
  | error fault => exact reported_error.trans reported_error.symm

theorem FieldValue.decode_reported {field : FieldValue} :
    Reported field.decode ↔ ∀ cell, field = .cell cell → ¬ cell.HoldsCurve := by
  cases field with
  | geometry =>
    refine iff_of_true (reported_error.mpr rfl) ?_
    rintro cell ⟨⟩
  | cell came =>
    have only : (∀ cell, FieldValue.cell came = .cell cell → ¬ cell.HoldsCurve) ↔ ¬ came.HoldsCurve := by simp
    rw [only, ← decodeValue_reported]
    simp only [FieldValue.decode]
    cases read : decodeValue came with
    | error fault => exact reported_error.trans reported_error.symm
    | ok placed? => cases placed? <;> exact iff_of_true reported_ok reported_ok

-- Whether the columns of a feature can be decoded up to one that holds a curve.
def Feature.MeetsCurve (t : FeatureType) (f : Feature) : Prop :=
  ∃ earlier c later reached, t.geometryColumns = earlier ++ c :: later ∧
    earlier.foldlM (fun f c => f.decodeField c.name) f = .ok reached ∧
      ∃ cell, reached.value c.name = .cell cell ∧ cell.HoldsCurve

theorem Feature.decode_reported : Reported (f.decode t) ↔ ¬ f.MeetsCurve t := by
  rw [Feature.decode, reported_foldlM]
  simp only [Feature.decodeField, reported_made, FieldValue.decode_reported, Feature.MeetsCurve, not_exists, not_and]

theorem rowBox_reported : Reported (rowBox row) ↔ ¬ (row = [] ∨ ∃ cell, row.head? = some cell ∧ cell.HoldsCurve) := by
  cases row with
  | nil => exact iff_of_false (fun reported => nomatch reported _ rfl) (not_not_intro (.inl rfl))
  | cons first rest => simp [rowBox, decodeEnvelope_reported]

theorem readBoundsRows_ok : (∃ bounds?, readBoundsRows rows = .ok bounds?) ↔ ∀ row ∈ rows, ∃ box?, rowBox row = .ok box? := by
  rw [readBoundsRows_exact, ← findSome?_rowFault?]
  cases rows.findSome? rowFault? <;> simp [unlessFault]

theorem Session.run_calm {connection : Connection State} {read : ResultSet → Except Fault α}
    (answered : (connection.answer (.execute sql parameters?) state).1 = .ok result) (calm : result.failure? = none) :
    ((query sql parameters? wrap read).run connection state).result = read result := by
  simp only [run_read, answered, calm]
  cases read result <;> rfl

def ResultSet.MeetsCurve (t : FeatureType) (result : ResultSet) : Prop :=
  ∃ earlier row later, result.rows = earlier ++ row :: later ∧
    (∀ other ∈ earlier, ∃ f, (Feature.ofRow result.columns other).decode t = .ok f) ∧
      (Feature.ofRow result.columns row).MeetsCurve t

def ResultSet.LacksEnvelope (result : ResultSet) : Prop :=
  ∃ earlier row later, result.rows = earlier ++ row :: later ∧ (∀ other ∈ earlier, ∃ box?, rowBox other = .ok box?) ∧
    (row = [] ∨ ∃ cell, row.head? = some cell ∧ cell.HoldsCurve)

theorem readFeatureRows_reported : Reported (readFeatureRows t result) ↔ ¬ result.MeetsCurve t := by
  rw [readFeatureRows, reported_mapM]
  simp only [Feature.decode_reported, ResultSet.MeetsCurve, not_exists, not_and]

theorem readBoundsRows_reported : Reported (readBoundsRows result.rows) ↔ ¬ result.LacksEnvelope := by
  rw [readBoundsRows, reported_foldlM]
  simp only [reported_made, rowBox_reported, ResultSet.LacksEnvelope, not_exists, not_and]
  constructor
  · intro reported earlier row later split good
    obtain ⟨reached, came⟩ := readBoundsRows_ok.mpr good
    exact reported earlier row later reached split came
  · intro reported earlier row later reached split came
    exact reported earlier row later split (readBoundsRows_ok.mp ⟨reached, came⟩)

-- Data that can not be decoded is reported as such, with two exceptions: a cell that holds
-- a curve, and a row of bounds without any cell. Each makes a query fail otherwise unless
-- something before it can not be decoded.
theorem decoding_reported_iff (d : Dialect) (t : FeatureType) :
    (∀ cell : Cell, (Reported (decodeValue cell) ↔ ¬ cell.HoldsCurve) ∧
      (Reported (decodeEnvelope cell) ↔ ¬ cell.HoldsCurve)) ∧
      ∀ {State : Type} (connection : Connection State) state result, result.failure? = none →
        (∀ limit offset, (connection.answer (.execute (d.select t limit offset) none) state).1 = .ok result →
          (Reported ((readFeatures d t limit offset).run connection state).result ↔ ¬ result.MeetsCurve t)) ∧
        ∀ column, (connection.answer (.execute (d.bounds t column) none) state).1 = .ok result →
          (Reported ((readBounds d t column).run connection state).result ↔ ¬ result.LacksEnvelope) := by
  refine ⟨fun cell => ⟨decodeValue_reported, decodeEnvelope_reported⟩, ?_⟩
  intro State connection state result calm
  constructor
  · intro limit offset answered
    have read : ((readFeatures d t limit offset).run connection state).result = readFeatureRows t result :=
      run_calm answered calm
    rw [read, readFeatureRows_reported]
  · intro column answered
    have read : ((readBounds d t column).run connection state).result = readBoundsRows result.rows :=
      run_calm answered calm
    rw [read, readBoundsRows_reported]

def Script.giving (result : ResultSet) : Script := ⟨⟨[], .null, none⟩, [.ok result], [], []⟩

theorem decoding_reported_iff_sample :
    let roads := FeatureType.sample "roads" "geom"
    let number : Cell := .datum (.integer 7)
    let listed := fun rows => ResultSet.mk ["geom"] rows none
    let features := fun rows => ((readFeatures .phoenix roads (-1) 0).run Script.connection (.giving (listed rows))).result
    let bounds := fun rows => ((readBounds .phoenix roads "geom").run Script.connection (.giving (listed rows))).result
    Reported (decodeValue number) ∧ ¬ number.HoldsCurve ∧
      Reported (features [[.null], [number], [.arc]]) ∧ ¬ (listed [[.null], [number], [.arc]]).MeetsCurve roads ∧
      Reported (bounds [[.null], [number], [.arc]]) ∧ ¬ (listed [[.null], [number], [.arc]]).LacksEnvelope ∧
      ¬ Reported (features [[.null], [.arc], [number]]) ∧ (listed [[.null], [.arc], [number]]).MeetsCurve roads ∧
      ¬ Reported (bounds [[.null], [], [number]]) ∧ (listed [[.null], [], [number]]).LacksEnvelope := by
  intro roads number listed features bounds
  obtain ⟨cells, queries⟩ := decoding_reported_iff .phoenix roads
  have exactly (rows : List (List Cell)) := queries Script.connection (.giving (listed rows)) (listed rows) rfl
  have read : Reported (decodeValue number) := reported_error.mpr rfl
  have named : Reported (features [[.null], [number], [.arc]]) := reported_error.mpr rfl
  have placed : Reported (bounds [[.null], [number], [.arc]]) := reported_error.mpr rfl
  have unnamed : ¬ Reported (features [[.null], [.arc], [number]]) := mt reported_error.mp nofun
  have unplaced : ¬ Reported (bounds [[.null], [], [number]]) := mt reported_error.mp nofun
  exact ⟨read, (cells number).1.mp read, named, ((exactly _).1 (-1) 0 rfl).mp named, placed,
    ((exactly _).2 "geom" rfl).mp placed, unnamed, not_imp_comm.mp ((exactly _).1 (-1) 0 rfl).mpr unnamed, unplaced,
    not_imp_comm.mp ((exactly _).2 "geom" rfl).mpr unplaced⟩

theorem arc_unreported :
    let roads := FeatureType.sample "roads" "geom"
    let script := Script.giving ⟨["geom"], [[.arc]], none⟩
    decodeValue .arc = .error .nonlinear ∧ decodeEnvelope .arc = .error .nonlinear ∧
      ((readFeatures .phoenix roads (-1) 0).run Script.connection script).result = .error .nonlinear ∧
      ((readBounds .phoenix roads "geom").run Script.connection script).result = .error .nonlinear ∧
      ¬ Reported (decodeValue .arc) := by
  intro roads script
  exact ⟨rfl, rfl, rfl, rfl, fun reported => nomatch reported _ rfl⟩

end FeatureTables
