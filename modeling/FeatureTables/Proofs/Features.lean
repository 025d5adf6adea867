import FeatureTables.Proofs.Paths
import FeatureTables.Proofs.Reading
import Mathlib.Data.List.Nodup

namespace FeatureTables

def unlessFault (fault? : Option ε) (value : α) : Except ε α :=
  match fault? with
  | some fault => .error fault
  | none => .ok value

theorem unlessFault_map (fault? : Option ε) (value : α) {wrap : α → β} :
    (unlessFault fault? value).map wrap = unlessFault fault? (wrap value) := by
  cases fault? <;> rfl

theorem mapM_exact {act : α → Except ε β} {fault? : α → Option ε} {value : α → β}
    (exactly : ∀ item, act item = unlessFault (fault? item) (value item)) (items : List α) :
    items.mapM act = unlessFault (items.findSome? fault?) (items.map value) := by
  induction items with
  | nil => rfl
  | cons item rest ih =>
    rw [List.mapM_cons, exactly item, ih, List.findSome?_cons]
    cases fault? item with
    | some fault => rfl
    | none => cases rest.findSome? fault? <;> rfl

namespace FieldValue

def fault? (field : FieldValue) : Option Fault :=
  match field.decode with
  | .error fault => some fault
  | .ok _ => none

def decoded (field : FieldValue) : FieldValue :=
  match field.decode with
  | .ok value => value
  | .error _ => field

theorem decode_exact (field : FieldValue) : field.decode = unlessFault field.fault? field.decoded := by
  unfold fault? decoded
  cases field.decode <;> rfl

end FieldValue

namespace Feature

def names (f : Feature) : List String := f.map Prod.fst

-- What a row becomes: fields of these names are decoded in place, and names it does not
-- have are added without a value.
def decodedAt (geometries : List String) (f : Feature) : Feature :=
  f.map (fun field => (field.1, if field.1 ∈ geometries then field.2.decoded else field.2)) ++
    (geometries.filter (· ∉ f.names)).map fun name => (name, .cell .null)

def faultAt? (geometries : List String) (f : Feature) : Option Fault :=
  geometries.findSome? fun name => (f.value name).fault?

variable {f : Feature} {name : String} {value : FieldValue}

theorem put_known (distinct : f.names.Nodup) (known : name ∈ f.names) :
    f.put name value = f.map fun field => (field.1, if field.1 = name then value else field.2) := by
  induction f with
  | nil => cases known
  | cons field rest ih =>
    obtain ⟨fresh, apart⟩ := List.nodup_cons.mp distinct
    by_cases here : field.1 = name
    · have kept : (rest.map fun field => (field.1, if field.1 = name then value else field.2)) = rest := by
        refine (List.map_congr_left fun later member => ?_).trans (List.map_id rest)
        have other : later.1 ≠ name := fun same => fresh (here ▸ same ▸ List.mem_map_of_mem member)
        rw [if_neg other]
        rfl
      rw [put, if_pos here, List.map_cons, kept, if_pos here, here]
    · have later : name ∈ names rest := (List.mem_cons.mp known).resolve_left (Ne.symm here)
      rw [put, if_neg here, ih apart later, List.map_cons, if_neg here]

theorem put_new (fresh : name ∉ f.names) : f.put name value = f ++ [(name, value)] := by
  induction f with
  | nil => rfl
  | cons field rest ih =>
    have other : field.1 ≠ name := fun same => fresh (same ▸ List.mem_cons_self)
    rw [put, if_neg other, ih fun later => fresh (List.mem_cons_of_mem _ later), List.cons_append]

theorem names_known (distinct : f.names.Nodup) (known : name ∈ f.names) : (f.put name value).names = f.names := by
  rw [put_known distinct known, names, List.map_map]
  rfl

theorem names_new (fresh : name ∉ f.names) : (f.put name value).names = f.names ++ [name] := by
  rw [put_new fresh, names, List.map_append]
  rfl

theorem nodup_put (distinct : f.names.Nodup) : (f.put name value).names.Nodup := by
  by_cases known : name ∈ f.names
  · rwa [names_known distinct known]
  · rw [names_new known, ← List.concat_eq_append]
    exact distinct.concat known

theorem value_put_other (other : key ≠ name) : (f.put key value).value name = f.value name := by
  have apart : (name == key) = false := beq_false_of_ne (Ne.symm other)
  unfold Feature.value
  congr 1
  induction f with
  | nil => simp [put, List.lookup_cons, apart]
  | cons field rest ih =>
    obtain ⟨first, came⟩ := field
    by_cases here : first = key
    · simp [put, here, List.lookup_cons, apart]
    · simp [put, here, List.lookup_cons, ih]

theorem value_known (distinct : f.names.Nodup) (member : (name, value) ∈ f) : f.value name = value := by
  obtain ⟨front, back, rfl⟩ := List.append_of_mem member
  have earlier : name ∉ names front := by
    rw [names, List.map_append, List.map_cons, List.nodup_append] at distinct
    exact fun inside => distinct.2.2 name inside name List.mem_cons_self rfl
  have found : (front ++ (name, value) :: back).lookup name = some value :=
    List.lookup_eq_some_iff.mpr ⟨front, back, rfl, fun field member =>
      bne_iff_ne.mpr fun same => earlier (same ▸ List.mem_map_of_mem member)⟩
  rw [Feature.value, found]
  rfl

theorem value_absent (absent : name ∉ f.names) : f.value name = .cell .null := by
  have missing : f.lookup name = none :=
    List.lookup_eq_none_iff.mpr fun field member =>
      bne_iff_ne.mpr fun same => absent (same ▸ List.mem_map_of_mem member)
  rw [Feature.value, missing]
  rfl

theorem decodedAt_cons (distinct : f.names.Nodup) (fresh : name ∉ geometries) :
    decodedAt geometries (f.put name (f.value name).decoded) = decodedAt (name :: geometries) f := by
  by_cases known : name ∈ f.names
  · unfold decodedAt
    rw [names_known distinct known, put_known distinct known, List.map_map, List.filter_cons,
      if_neg (by simpa using known)]
    congr 1
    refine List.map_congr_left fun field member => ?_
    by_cases here : field.1 = name
    · subst here
      simp [fresh, value_known distinct member]
    · simp [here]
  · have others : geometries.filter (· ∉ f.names ++ [name]) = geometries.filter (· ∉ f.names) := by
      refine List.filter_congr fun other member => ?_
      have apart : other ≠ name := fun same => fresh (same ▸ member)
      simp [apart]
    have kept : ∀ field ∈ f, field.1 ≠ name := fun field member same => known (same ▸ List.mem_map_of_mem member)
    unfold decodedAt
    rw [names_new known, others, put_new known, value_absent known, List.filter_cons, if_pos (by simpa using known)]
    have same : f.map (fun field => (field.1, if field.1 ∈ name :: geometries then field.2.decoded else field.2)) =
        f.map fun field => (field.1, if field.1 ∈ geometries then field.2.decoded else field.2) :=
      List.map_congr_left fun field member => by simp [kept field member]
    rw [same, List.map_append, List.append_assoc, List.map_singleton, if_neg fresh]
    rfl

theorem faultAt?_put (fresh : name ∉ geometries) : faultAt? geometries (f.put name value) = faultAt? geometries f := by
  unfold faultAt?
  induction geometries with
  | nil => rfl
  | cons first rest ih =>
    rw [List.findSome?_cons, List.findSome?_cons, value_put_other (List.ne_of_not_mem_cons fresh),
      ih (List.not_mem_of_not_mem_cons fresh)]

theorem decode_names (geometries : List String) (apart : geometries.Nodup) (distinct : f.names.Nodup) :
    geometries.foldlM decodeField f = unlessFault (f.faultAt? geometries) (f.decodedAt geometries) := by
  induction geometries generalizing f with
  | nil =>
    have kept : f.decodedAt [] = f := by simp [decodedAt]
    rw [kept]
    rfl
  | cons name rest ih =>
    obtain ⟨fresh, apart⟩ := List.nodup_cons.mp apart
    rw [List.foldlM_cons, decodeField, FieldValue.decode_exact, faultAt?, List.findSome?_cons]
    cases failed : (f.value name).fault? with
    | some fault => rfl
    | none =>
      -- The names that follow are others, so they neither see nor change the field put here.
      have placed : (f.put name (f.value name).decoded).names.Nodup := nodup_put distinct
      have after := ih apart placed
      rw [faultAt?_put fresh, decodedAt_cons distinct fresh] at after
      exact after

theorem decode_exact (apart : (t.geometryColumns.map Column.name).Nodup) (distinct : f.names.Nodup) :
    f.decode t = unlessFault (f.faultAt? (t.geometryColumns.map Column.name))
      (f.decodedAt (t.geometryColumns.map Column.name)) := by
  rw [← decode_names _ apart distinct, List.foldlM_map]
  rfl

theorem ofRow_nodup (columns : List String) (cells : List Cell) : (ofRow columns cells).names.Nodup := by
  have fold (fields : List (String × Cell)) : ∀ f : Feature, f.names.Nodup →
      (names (fields.foldl (fun f field => f.put field.1 (.cell field.2)) f)).Nodup := by
    induction fields with
    | nil => exact fun _ distinct => distinct
    | cons field rest ih => exact fun f distinct => ih _ (nodup_put distinct)
  exact fold _ [] List.nodup_nil

theorem ofRow_exact (distinct : columns.Nodup) (cells : List Cell) :
    ofRow columns cells = (columns.zip cells).map fun field => (field.1, .cell field.2) := by
  have fold (columns : List String) : ∀ (cells : List Cell) (f : Feature), (f.names ++ columns).Nodup →
      (columns.zip cells).foldl (fun f field => f.put field.1 (.cell field.2)) f =
        f ++ (columns.zip cells).map fun field => (field.1, .cell field.2) := by
    induction columns with
    | nil => simp
    | cons name rest ih =>
      intro cells f distinct
      cases cells with
      | nil => simp
      | cons cell cells =>
        have fresh : name ∉ f.names := fun member =>
          (List.nodup_append.mp distinct).2.2 name member name List.mem_cons_self rfl
        have next : (names (f ++ [(name, .cell cell)]) ++ rest).Nodup := by
          rw [← put_new fresh, names_new fresh]
          simpa using distinct
        rw [List.zip_cons_cons, List.foldl_cons, put_new fresh, ih cells _ next, List.map_cons, List.append_assoc]
        rfl
  exact fold columns cells [] distinct

end Feature

theorem readFeatureRows_exact {t : FeatureType} (apart : (t.geometryColumns.map Column.name).Nodup)
    (result : ResultSet) : readFeatureRows t result =
      unlessFault
        (result.rows.findSome? fun cells =>
          (Feature.ofRow result.columns cells).faultAt? (t.geometryColumns.map Column.name))
        (result.rows.map fun cells =>
          (Feature.ofRow result.columns cells).decodedAt (t.geometryColumns.map Column.name)) :=
  mapM_exact (fun cells => Feature.decode_exact apart (Feature.ofRow_nodup result.columns cells)) result.rows

theorem Session.run_read {connection : Connection State} {wrap : Failure → Fault} {read : ResultSet → Except Fault α} :
    ((query sql parameters? wrap read).run connection state).result =
      match (connection.answer (.execute sql parameters?) state).1 with
      | .error f => .error (faultOf wrap f)
      | .ok result => (read result).bind (unlessFault (result.failure?.map (faultOf wrap))) := by
  simp only [query, ask, bind, andThen, run, Outcome.after]
  cases (connection.answer (.execute sql parameters?) state).1 with
  | error f => rfl
  | ok result =>
    simp only [close, ask, andThen, run, Outcome.after]
    cases read result with
    | error fault => rfl
    | ok value => cases result.failure? <;> rfl

theorem Session.run_query {connection : Connection State} {wrap : Failure → Fault}
    {read : ResultSet → Except Fault α} {fault? : ResultSet → Option Fault} {value : ResultSet → α}
    (reads : ∀ result, read result = unlessFault (fault? result) (value result)) :
    ((query sql parameters? wrap read).run connection state).result =
      match (connection.answer (.execute sql parameters?) state).1 with
      | .error f => .error (faultOf wrap f)
      | .ok result => unlessFault ((fault? result).or (result.failure?.map (faultOf wrap))) (value result) := by
  rw [run_read]
  cases (connection.answer (.execute sql parameters?) state).1 with
  | error f => rfl
  | ok result =>
    simp only [reads]
    cases fault? result with
    | some fault => rfl
    | none => rw [Option.none_or]; rfl

theorem Session.run_wrapped {session : Session α} {wrap : α → β} {connection : Connection State} :
    ((session >>= fun value => pure (wrap value)).run connection state).result =
      (session.run connection state).result.map wrap := by
  have parts : (session >>= fun value => pure (wrap value)).run connection state = _ :=
    run_andThen connection session (fun value => done (wrap value)) state
  rw [parts, Outcome.andThen]
  cases (session.run connection state).result <;> rfl

namespace Operation

-- Features are the rows of the answer, each with its geometries decoded, and all of them
-- or none: the first cell that can not be decoded is what fails, and a failure of the
-- database after the rows counts only where there is no such cell.
theorem features_exact (d : Dialect) {t : FeatureType} (apart : (t.geometryColumns.map Column.name).Nodup)
    (limit offset : Int) (connection : Connection State) (state : State) :
    let sql := d.select t limit offset
    let names := t.geometryColumns.map Column.name
    let read := (((Operation.readFeatures t limit offset).session d).run connection state).result
    match (connection.answer (.execute sql none) state).1 with
    | .error f => read = .error (Session.faultOf (.statement .features sql) f)
    | .ok result =>
      read = unlessFault
        ((result.rows.findSome? fun cells => (Feature.ofRow result.columns cells).faultAt? names).or
          (result.failure?.map (Session.faultOf (.statement .features sql))))
        (.features (result.rows.map fun cells => (Feature.ofRow result.columns cells).decodedAt names)) ∧
      (result.columns.Nodup → ∀ cells, Feature.ofRow result.columns cells =
        (result.columns.zip cells).map fun field => (field.1, .cell field.2)) := by
  intro sql names read
  have queried : ((FeatureTables.readFeatures d t limit offset).run connection state).result = _ :=
    Session.run_query (readFeatureRows_exact apart)
  have whole : read = ((FeatureTables.readFeatures d t limit offset).run connection state).result.map .features :=
    Session.run_wrapped
  rw [whole, queried]
  cases (connection.answer (.execute sql none) state).1 with
  | error f => rfl
  | ok result => exact ⟨unlessFault_map _ _, fun distinct => Feature.ofRow_exact distinct⟩

theorem features_exact_sample :
    let roads := FeatureType.sample "roads" "geom"
    let line : Cell := .buffer .bytes [1, 2, 0, 0, 0, 0, 0, 0, 0]
    let script : Script := ⟨⟨[], .null, none⟩, [.ok ⟨["geom", "fid"],
      [[line, .datum (.integer 1)], [.null, .datum (.integer 2)]], none⟩], [], []⟩
    (((readFeatures roads (-1) 0).session .phoenix).run Script.connection script).result = .ok (.features
      [[("geom", .geometry ⟨0, .lineString ⟨false, false⟩ []⟩), ("fid", .cell (.datum (.integer 1))),
          ("area", .cell .null)],
        [("geom", .cell .null), ("fid", .cell (.datum (.integer 2))), ("area", .cell .null)]]) := by
  intro roads line script
  have apart : (roads.geometryColumns.map Column.name).Nodup := by decide
  exact (features_exact .phoenix apart (-1) 0 Script.connection script).1.trans rfl

end Operation

end FeatureTables
