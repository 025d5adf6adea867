import FeatureTables.Proofs.Envelopes
import FeatureTables.Proofs.Features

namespace FeatureTables

variable {State : Type} {rows shuffled : List (List Cell)}

theorem foldlM_exact {act : α → Except ε β} {fault? : α → Option ε} {value : α → β}
    {collect : γ → β → γ} (exactly : ∀ item, act item = unlessFault (fault? item) (value item))
    (items : List α) (soFar : γ) :
    (items.foldlM (fun soFar item => return collect soFar (← act item)) soFar : Except ε γ) =
      unlessFault (items.findSome? fault?) (items.foldl (fun soFar item => collect soFar (value item)) soFar) := by
  induction items generalizing soFar with
  | nil => rfl
  | cons item rest ih =>
    rw [List.foldlM_cons, exactly item, List.findSome?_cons]
    cases fault? item with
    | some fault => rfl
    | none => exact ih (collect soFar (value item))

def rowFault? (row : List Cell) : Option Fault :=
  match rowBox row with
  | .error fault => some fault
  | .ok _ => none

def rowEnvelope? (row : List Cell) : Option Box :=
  match rowBox row with
  | .error _ => none
  | .ok box? => box?

theorem rowBox_exact (row : List Cell) : rowBox row = unlessFault (rowFault? row) (rowEnvelope? row) := by
  unfold rowFault? rowEnvelope?
  cases rowBox row <;> rfl

def envelopes (rows : List (List Cell)) : List Box := rows.filterMap rowEnvelope?

def Box.joined? : List Box → Option Box
  | [] => none
  | first :: rest => some (rest.foldl merge first)

theorem Box.joined?_eq_none_iff : joined? boxes = none ↔ boxes = [] := by
  cases boxes <;> simp [joined?]

theorem foldl_joinBox (rows : List (List Cell)) (soFar? : Option Box) :
    rows.foldl (fun soFar? row => joinBox soFar? (rowEnvelope? row)) soFar? =
      Box.joined? (soFar?.toList ++ envelopes rows) := by
  induction rows generalizing soFar? with
  | nil => cases soFar? <;> rfl
  | cons row rest ih =>
    simp only [List.foldl_cons, ih, envelopes, List.filterMap_cons]
    cases rowEnvelope? row with
    | none => cases soFar? <;> rfl
    | some box => cases soFar? <;> rfl

theorem readBoundsRows_exact (rows : List (List Cell)) :
    readBoundsRows rows = unlessFault (rows.findSome? rowFault?) (Box.joined? (envelopes rows)) := by
  rw [readBoundsRows, foldlM_exact rowBox_exact, foldl_joinBox]
  rfl

theorem readBounds_answered {connection : Connection State} {state : State} {result : ResultSet}
    (answered : (connection.answer (.execute (d.bounds t column) none) state).1 = .ok result) :
    ((readBounds d t column).run connection state).result =
      unlessFault ((result.rows.findSome? rowFault?).or
        (result.failure?.map (Session.faultOf (.statement .bounds (d.bounds t column)))))
        (Box.joined? (envelopes result.rows)) := by
  have queried : ((readBounds d t column).run connection state).result = _ :=
    Session.run_query fun result => readBoundsRows_exact result.rows
  rw [queried, answered]

section

variable {row : List Cell}

theorem rowFault?_eq_some_iff : rowFault? row = some fault ↔ rowBox row = .error fault := by
  unfold rowFault?
  cases rowBox row <;> simp

theorem rowFault?_eq_none_iff : rowFault? row = none ↔ ∃ box?, rowBox row = .ok box? := by
  unfold rowFault?
  cases rowBox row <;> simp

theorem findSome?_rowFault? :
    rows.findSome? rowFault? = none ↔ ∀ row ∈ rows, ∃ box?, rowBox row = .ok box? := by
  simp only [List.findSome?_eq_none_iff, rowFault?_eq_none_iff]

theorem rowEnvelope?_of_ok (boxed : rowBox row = .ok box?) : rowEnvelope? row = box? := by
  simp [rowEnvelope?, boxed]

theorem rowBox_null : rowBox row = .ok none ↔ row.head? = some .null := by
  cases row with
  | nil => simp [rowBox]
  | cons first rest => simp [rowBox, decodeEnvelope_null]

theorem rowEnvelope?_box (offered : rowEnvelope? row = some box) : box = .empty ∨ box.Numeric := by
  unfold rowEnvelope? at offered
  cases row with
  | nil => cases offered
  | cons first rest =>
    cases decoded : rowBox (first :: rest) with
    | error => simp [decoded] at offered
    | ok box? =>
      rw [decoded] at offered
      subst offered
      exact decodeEnvelope_box decoded

theorem envelopes_box (member : box ∈ envelopes rows) : box = .empty ∨ box.Numeric := by
  obtain ⟨row, _, offered⟩ := List.mem_filterMap.mp member
  exact rowEnvelope?_box offered

end

-- Bounds are the smallest box around the envelopes of all rows, and there are none only
-- where every row is null. The first row without an envelope is what fails, and a failure
-- of the database after the rows counts only where there is no such row.
theorem bounds_exact (d : Dialect) (t : FeatureType) (column : String) {connection : Connection State} {state : State}
    {result : ResultSet} (answered : (connection.answer (.execute (d.bounds t column) none) state).1 = .ok result) :
    let read := ((readBounds d t column).run connection state).result
    (∀ earlier row later fault, result.rows = earlier ++ row :: later →
        (∀ other ∈ earlier, ∃ box?, rowBox other = .ok box?) → rowBox row = .error fault →
        read = .error fault) ∧
      ((∀ row ∈ result.rows, ∃ box?, rowBox row = .ok box?) →
        ∀ f, result.failure? = some f → f.isDatabase = true →
        read = .error (.statement .bounds (d.bounds t column) f)) ∧
      ((∀ row ∈ result.rows, ∃ box?, rowBox row = .ok box? ∧ ∀ box ∈ box?, box.Numeric) →
        result.failure? = none →
        ∃ bounds?, read = .ok bounds? ∧ (bounds? = none ↔ ∀ row ∈ result.rows, row.head? = some .null) ∧
          ∀ bounds ∈ bounds?, bounds.Smallest (envelopes result.rows)) := by
  intro read
  have whole : read = _ := readBounds_answered answered
  refine ⟨?_, ?_, ?_⟩
  · intro earlier row later fault split good bad
    have found : result.rows.findSome? rowFault? = some fault := by
      rw [split, List.findSome?_append, findSome?_rowFault?.mpr good, List.findSome?_cons,
        rowFault?_eq_some_iff.mpr bad]
      rfl
    rw [whole, found]
    rfl
  · intro good f ended database
    rw [whole, findSome?_rowFault?.mpr good, ended, Option.none_or, Option.map_some, Session.faultOf, if_pos database]
    rfl
  · intro good ended
    have boxed : ∀ row ∈ result.rows, ∃ box?, rowBox row = .ok box? :=
      fun row member => (good row member).imp fun _ => And.left
    have numeric : ∀ box ∈ envelopes result.rows, box.Numeric := by
      intro box member
      obtain ⟨row, among, offered⟩ := List.mem_filterMap.mp member
      obtain ⟨box?, made, numbers⟩ := good row among
      exact numbers box ((rowEnvelope?_of_ok made).symm.trans offered)
    refine ⟨Box.joined? (envelopes result.rows), ?_, ?_, ?_⟩
    · rw [whole, findSome?_rowFault?.mpr boxed, ended]
      rfl
    · rw [Box.joined?_eq_none_iff, envelopes, List.filterMap_eq_nil_iff]
      refine forall₂_congr fun row member => ?_
      obtain ⟨box?, made⟩ := boxed row member
      rw [rowEnvelope?_of_ok made, ← rowBox_null, made, Except.ok.injEq]
    · intro bounds joined
      cases offered : envelopes result.rows with
      | nil =>
        rw [offered] at joined
        cases joined
      | cons first rest =>
        rw [offered] at joined numeric
        cases joined
        exact Box.foldl_merge_smallest numeric

def Script.serving (failure? : Option Failure) (rows : List (List Cell)) : Script :=
  ⟨⟨[], .null, none⟩, [.ok ⟨[], rows, failure?⟩], [], []⟩

-- The envelope between two corners on the diagonal; of an ordinate the two leading bytes
-- are given.
def Cell.square (low high : UInt8 × UInt8) : Cell :=
  let corners := [low, low, high, low, high, high, low, high, low, low]
  .buffer .bytes ([0, 0, 0, 0, 3, 0, 0, 0, 1, 0, 0, 0, 5] ++
    corners.flatMap fun ordinate => [ordinate.1, ordinate.2, 0, 0, 0, 0, 0, 0])

def Cell.emptyPolygon : Cell := .buffer .bytes [0, 0, 0, 0, 3, 0, 0, 0, 0]

theorem bounds_exact_sample :
    let roads := FeatureType.sample "roads" "geom"
    let sql := Dialect.phoenix.bounds roads "geom"
    let lost : Failure := ⟨.database, "connection lost"⟩
    let unit := Cell.square (0, 0) (0x3f, 0xf0)
    let beyond := Cell.square (0xbf, 0xf0) (0x7f, 0xf0)
    let rows := [[.null], [unit], [beyond]]
    let read := fun failure? rows =>
      ((readBounds .phoenix roads "geom").run Script.connection (.serving failure? rows)).result
    read (some lost) [[unit], [.datum (.integer 7)], []] = .error (.undecodable .envelope) ∧
      read (some lost) [[unit]] = .error (.statement .bounds sql lost) ∧
      ∃ bounds?, read none rows = .ok bounds? ∧ bounds? ≠ none ∧
        ∀ bounds ∈ bounds?, bounds.Smallest (envelopes rows) := by
  intro roads sql lost unit beyond rows read
  have numeric : ∀ row ∈ rows, ∃ box?, rowBox row = .ok box? ∧ ∀ box ∈ box?, box.Numeric := by
    intro row member
    obtain rfl | rfl | rfl : row = [.null] ∨ row = [unit] ∨ row = [beyond] := by simpa [rows] using member
    · exact ⟨none, rfl, nofun⟩
    · exact ⟨some _, rfl, fun box same => Option.some.inj same ▸ ⟨rfl, rfl, rfl, rfl⟩⟩
    · exact ⟨some _, rfl, fun box same => Option.some.inj same ▸ ⟨rfl, rfl, rfl, rfl⟩⟩
  have solid : ¬ ∀ row ∈ rows, row.head? = some Cell.null := by decide
  have square : ∀ row ∈ [[unit]], ∃ box?, rowBox row = .ok box? := List.forall_mem_singleton.mpr ⟨some _, rfl⟩
  have answered (failure? : Option Failure) (rows : List (List Cell)) :
      (Script.connection.answer (.execute sql none) (.serving failure? rows)).1 = .ok ⟨[], rows, failure?⟩ := rfl
  have broken := (bounds_exact .phoenix roads "geom"
    (answered (some lost) [[unit], [.datum (.integer 7)], []])).1 [[unit]] _ _ _ rfl square rfl
  have ended := (bounds_exact .phoenix roads "geom" (answered (some lost) [[unit]])).2.1 square lost rfl rfl
  obtain ⟨bounds?, made, absent, smallest⟩ :=
    (bounds_exact .phoenix roads "geom" (answered none rows)).2.2 numeric rfl
  exact ⟨broken, ended, bounds?, made, mt absent.mp solid, smallest⟩

inductive SameBounds : Except Fault (Option Box) → Except Fault (Option Box) → Prop where
  | failed : SameBounds (.error fault) (.error fault)
  | absent : SameBounds (.ok none) (.ok none)
  | placed : a.Same b → SameBounds (.ok (some a)) (.ok (some b))

namespace Box

variable {a b first : Box} {boxes others rest : List Box}

theorem empty_same : empty.Same empty := by
  have strange : Binary64.nan.Same Binary64.nan := .inr (by decide)
  exact ⟨strange, strange, strange, strange⟩

theorem not_same_empty (numeric : a.Numeric) : ¬ a.Same empty := by
  intro same
  rcases same.west with equal | strange
  · exact absurd (Binary64.equal_iff.mp equal).2.1 (by unfold Binary64.Number; decide)
  · exact absurd strange.1 (Bool.eq_false_iff.mp numeric.west)

theorem joined_cases (kinds : ∀ b ∈ first :: rest, b = empty ∨ b.Numeric) :
    first = empty ∧ rest.foldl merge first = empty ∨ first ≠ empty ∧ (rest.foldl merge first).Numeric ∧
      (rest.foldl merge first).Smallest ((first :: rest).filter (· ≠ empty)) := by
  by_cases bare : first = empty
  · subst bare
    exact .inl ⟨rfl, foldl_merge_empty⟩
  · have numeric := (kinds first List.mem_cons_self).resolve_left bare
    refine .inr ⟨bare, foldl_merge_numeric numeric, ?_⟩
    rw [← foldl_merge_filter, List.filter_cons, if_pos (by simpa using bare)]
    refine foldl_merge_smallest (List.forall_mem_cons.mpr ⟨numeric, fun b member => ?_⟩)
    obtain ⟨later, solid⟩ := List.mem_filter.mp member
    exact (kinds b (List.mem_cons_of_mem _ later)).resolve_left (by simpa using solid)

theorem joined_same_iff (shuffled : boxes.Perm others) (kinds : ∀ b ∈ boxes, b = empty ∨ b.Numeric) :
    SameBounds (.ok (joined? boxes)) (.ok (joined? others)) ↔
      (boxes.head? = some empty ↔ others.head? = some empty) := by
  have other : ∀ b ∈ others, b = empty ∨ b.Numeric := fun b member => kinds b (shuffled.mem_iff.mpr member)
  cases boxes with
  | nil =>
    cases shuffled.nil_eq
    exact iff_of_true .absent Iff.rfl
  | cons first rest =>
    cases others with
    | nil => cases shuffled.eq_nil
    | cons second tail =>
      simp only [joined?, List.head?_cons, Option.some.injEq]
      rcases joined_cases kinds with ⟨left, one⟩ | ⟨left, number, one⟩ <;>
        rcases joined_cases other with ⟨right, two⟩ | ⟨right, found, two⟩
      · rw [one, two]
        exact iff_of_true (.placed empty_same) (iff_of_true left right)
      · refine iff_of_false ?_ fun agree => right (agree.mp left)
        rintro ⟨⟩
        rename_i same
        exact not_same_empty found (one ▸ same.symm)
      · refine iff_of_false ?_ fun agree => left (agree.mpr right)
        rintro ⟨⟩
        rename_i same
        exact not_same_empty number (two ▸ same)
      · exact iff_of_true (.placed (one.same two (shuffled.filter _))) (iff_of_false left right)

end Box

def LedByEmpty (rows : List (List Cell)) : Prop := (envelopes rows).head? = some .empty

def Mixed (rows : List (List Cell)) : Prop := .empty ∈ envelopes rows ∧ ∃ box ∈ envelopes rows, box ≠ .empty

theorem LedByEmpty.perm (led : LedByEmpty shuffled) (same : shuffled.Perm rows) (pure : ¬ Mixed rows) :
    LedByEmpty rows := by
  have member : .empty ∈ envelopes rows := (same.filterMap _).mem_iff.mp (List.mem_of_mem_head? led)
  cases offered : envelopes rows with
  | nil =>
    rw [offered] at member
    cases member
  | cons first rest =>
    have bare : first = .empty := Decidable.byContradiction fun solid =>
      pure ⟨member, first, offered ▸ List.mem_cons_self, solid⟩
    rw [LedByEmpty, offered, bare]
    rfl

theorem Mixed.perm (mixed : Mixed shuffled) (same : shuffled.Perm rows) : Mixed rows := by
  obtain ⟨bare, box, member, solid⟩ := mixed
  have members {box : Box} : box ∈ envelopes shuffled ↔ box ∈ envelopes rows := (same.filterMap _).mem_iff
  exact ⟨members.mp bare, box, members.mp member, solid⟩

theorem envelopes_led (member : box ∈ envelopes rows) :
    ∃ shuffled, shuffled.Perm rows ∧ (envelopes shuffled).head? = some box := by
  obtain ⟨row, among, offered⟩ := List.mem_filterMap.mp member
  obtain ⟨earlier, later, rfl⟩ := List.append_of_mem among
  refine ⟨row :: (earlier ++ later), List.perm_middle.symm, ?_⟩
  rw [envelopes, List.filterMap_cons, offered]
  rfl

-- The order of the rows matters where geometries are empty: an empty envelope is passed
-- over after another one, but kept where it is the first.
theorem bounds_unordered_iff (d : Dialect) (t : FeatureType) (column : String) {connection : Connection State}
    {serving : List (List Cell) → State} {failure? : Option Failure}
    (serves : ∀ rows, (connection.answer (.execute (d.bounds t column) none) (serving rows)).1 =
      .ok ⟨columns, rows, failure?⟩)
    (enveloped : ∀ row ∈ rows, ∃ box?, rowBox row = .ok box?) :
    let read := fun rows => ((readBounds d t column).run connection (serving rows)).result
    (∀ shuffled, shuffled.Perm rows →
        (SameBounds (read shuffled) (read rows) ↔ failure?.isSome ∨ (LedByEmpty shuffled ↔ LedByEmpty rows))) ∧
      ((∀ shuffled, shuffled.Perm rows → SameBounds (read shuffled) (read rows)) ↔
        failure?.isSome ∨ ¬ Mixed rows) := by
  intro read
  have pairwise : ∀ shuffled, shuffled.Perm rows →
      (SameBounds (read shuffled) (read rows) ↔ failure?.isSome ∨ (LedByEmpty shuffled ↔ LedByEmpty rows)) := by
    intro shuffled same
    have before : read rows = _ := readBounds_answered (serves rows)
    have after : read shuffled = _ := readBounds_answered (serves shuffled)
    have still : ∀ row ∈ shuffled, ∃ box?, rowBox row = .ok box? :=
      fun row member => enveloped row (same.mem_iff.mp member)
    rw [before, after, findSome?_rowFault?.mpr enveloped, findSome?_rowFault?.mpr still, Option.none_or]
    cases failure? with
    | some f => exact iff_of_true .failed (.inl rfl)
    | none =>
      refine (Box.joined_same_iff (same.filterMap rowEnvelope?) fun _ => envelopes_box).trans ?_
      exact (or_iff_right Bool.false_ne_true).symm
  refine ⟨pairwise, ?_⟩
  constructor
  · intro same
    cases broken : failure?.isSome with
    | true => exact .inl rfl
    | false =>
      have led : ∀ shuffled, shuffled.Perm rows → (LedByEmpty shuffled ↔ LedByEmpty rows) := fun shuffled perm =>
        ((pairwise shuffled perm).mp (same shuffled perm)).resolve_left (by simp [broken])
      -- Where some boxes are empty and others are not, either kind may come first.
      refine .inr fun ⟨bare, box, member, solid⟩ => ?_
      obtain ⟨first, one, empty⟩ := envelopes_led bare
      obtain ⟨second, two, full⟩ := envelopes_led member
      have kept : LedByEmpty second := (led second two).mpr ((led first one).mp empty)
      exact solid (Option.some.inj (full.symm.trans kept))
  · rintro holds shuffled same
    refine (pairwise shuffled same).mpr (holds.imp_right fun pure => ?_)
    exact ⟨fun led => led.perm same pure, fun led => led.perm same.symm fun mixed => pure (mixed.perm same)⟩

theorem bounds_unordered_iff_sample :
    let roads := FeatureType.sample "roads" "geom"
    let unit := Cell.square (0, 0) (0x3f, 0xf0)
    let read := fun rows => ((readBounds .phoenix roads "geom").run Script.connection (.serving none rows)).result
    (∀ row ∈ [[unit], [.null], [.emptyPolygon]], ∃ box?, rowBox row = .ok box?) ∧
      SameBounds (read [[.null], [unit], [.emptyPolygon]]) (read [[unit], [.null], [.emptyPolygon]]) := by
  intro roads unit read
  have enveloped : ∀ row ∈ [[unit], [.null], [.emptyPolygon]], ∃ box?, rowBox row = .ok box? := by
    intro row member
    obtain rfl | rfl | rfl : row = [unit] ∨ row = [.null] ∨ row = [.emptyPolygon] := by simpa using member
    · exact ⟨some _, rfl⟩
    · exact ⟨none, rfl⟩
    · exact ⟨some _, rfl⟩
  have shuffled : [[.null], [unit], [.emptyPolygon]].Perm [[unit], [.null], [.emptyPolygon]] := .swap _ _ _
  have serves : ∀ rows, (Script.connection.answer (.execute (Dialect.phoenix.bounds roads "geom") none)
      (.serving none rows)).1 = .ok ⟨[], rows, none⟩ := fun _ => rfl
  have unordered := bounds_unordered_iff .phoenix roads "geom" serves enveloped
  exact ⟨enveloped, (unordered.1 _ shuffled).mpr (.inr Iff.rfl)⟩

theorem bounds_lost :
    let roads := FeatureType.sample "roads" "geom"
    let unit := Cell.square (0, 0) (0x3f, 0xf0)
    let box : Box := ⟨⟨0⟩, ⟨0⟩, ⟨0x3ff0000000000000⟩, ⟨0x3ff0000000000000⟩⟩
    let read := fun rows => ((readBounds .phoenix roads "geom").run Script.connection (.serving none rows)).result
    [[.emptyPolygon], [unit]].Perm [[unit], [.emptyPolygon]] ∧ read [[unit], [.emptyPolygon]] = .ok (some box) ∧
      read [[.emptyPolygon], [unit]] = .ok (some .empty) ∧
      ¬ SameBounds (read [[.emptyPolygon], [unit]]) (read [[unit], [.emptyPolygon]]) := by
  intro roads unit box read
  have one : read [[unit], [.emptyPolygon]] = .ok (some box) := rfl
  have two : read [[.emptyPolygon], [unit]] = .ok (some .empty) := rfl
  have numeric : box.Numeric := ⟨rfl, rfl, rfl, rfl⟩
  refine ⟨.swap _ _ _, one, two, ?_⟩
  rw [one, two]
  rintro ⟨⟩
  rename_i same
  exact Box.not_same_empty numeric same.symm

end FeatureTables
