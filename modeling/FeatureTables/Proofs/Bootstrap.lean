import FeatureTables.Proofs.Rows

namespace FeatureTables

open Session

def Passing (columns : List Column) (holds : List Column → Database → Prop) (db : Database) : Prop :=
  ∃ done, done <+: columns ∧ holds done db

namespace Table

theorem indexed_geometry (t : FeatureType) : t.geometryColumns.filter Column.isIndexed = t.indexedColumns := by
  rw [FeatureType.geometryColumns, FeatureType.indexedColumns, List.filter_filter]
  refine List.filter_congr fun c _ => ?_
  cases geometry : c.isGeometry <;> simp [Column.isIndexed, geometry]

variable {d : Dialect} {t : FeatureType} {assumed : Memory → Request → Prop}
  {kept : Database → Prop} {m : Memory} {indexing recording : List Column → Database → Prop}

-- What a creation may do after its table, one statement at a time, to what holds of the
-- database while the first indexes are made and then while the first columns are recorded.
structure Completion (d : Dialect) (t : FeatureType)
    (indexing recording : List Column → Database → Prop) : Prop where
  catalog : ∀ {db}, indexing [] db → Catalog.qualified d t.schema? ∉ db.tables →
    indexing [] (db.addTable (Catalog.qualified d t.schema?))
  index : ∀ {done c rest db}, t.indexedColumns = done ++ c :: rest → indexing done db →
    t.qualified ∈ db.tables → ¬ db.Used (d.indexName c.name) →
    indexing (done ++ [c]) (db.addIndex t.qualified (d.indexName c.name))
  turn : ∀ {db}, indexing t.indexedColumns db → recording [] db
  row : ∀ {done c rest db}, t.geometryColumns = done ++ c :: rest → recording done db →
    Catalog.qualified d t.schema? ∈ db.tables → recording (done ++ [c]) (db.addRow (Catalog.row d t c))

theorem present_addTable {db : Database} {table : String} (present : Index.Present schema? table index db) :
    Index.Present schema? table index (db.addTable added) :=
  ⟨List.mem_append_left _ present.1, present.2⟩

theorem present_addIndex {db : Database} {table : String} (present : Index.Present schema? table index db) :
    Index.Present schema? table index (db.addIndex owner added) :=
  ⟨present.1, List.mem_append_left _ present.2⟩

theorem completion_present (holds : List Column → Database → Prop)
    (table : ∀ {db}, holds [] db → holds [] (db.addTable (Catalog.qualified d t.schema?)))
    (index : ∀ {c db}, c ∈ t.indexedColumns → holds [] db →
      holds [] (db.addIndex t.qualified (d.indexName c.name)))
    (row : ∀ {done c rest db}, t.geometryColumns = done ++ c :: rest → holds done db →
      Catalog.qualified d t.schema? ∈ db.tables →
      (c.isIndexed → Index.Present t.schema? t.typeName (d.indexName c.name) db) →
      holds (done ++ [c]) (db.addRow (Catalog.row d t c))) :
    Completion d t
      (fun done db => holds [] db ∧ ∀ c ∈ done, Index.Present t.schema? t.typeName (d.indexName c.name) db)
      (fun done db => holds done db ∧
        ∀ c ∈ t.indexedColumns, Index.Present t.schema? t.typeName (d.indexName c.name) db) where
  catalog := fun ⟨held, made⟩ _ => ⟨table held, fun c earlier => present_addTable (made c earlier)⟩
  index := by
    intro done c rest db split indexing known _
    obtain ⟨held, made⟩ := indexing
    refine ⟨index (show c ∈ t.indexedColumns by simp [split]) held, fun other earlier => ?_⟩
    rcases List.mem_append.mp earlier with earlier | last
    · exact present_addIndex (made other earlier)
    · cases List.mem_singleton.mp last
      exact ⟨known, List.mem_append_right _ List.mem_cons_self⟩
  turn := id
  row := by
    intro done c rest db split recording known
    obtain ⟨held, made⟩ := recording
    have column : c ∈ t.columns := List.mem_of_mem_filter (show c ∈ t.geometryColumns by simp [split])
    exact ⟨row split held known fun needed => made c (List.mem_filter.mpr ⟨column, needed⟩), made⟩

def Stopped (d : Dialect) (t : FeatureType) (indexing : List Column → Database → Prop) (m : Memory) : Prop :=
  (∃ n, m.faults n ≠ none) ∨ ∃ done c rest, t.indexedColumns = done ++ c :: rest ∧
    indexing done m.database ∧ (t.qualified ∉ m.database.tables ∨ m.database.Used (d.indexName c.name))

def Ended (d : Dialect) (t : FeatureType) (indexing recording : List Column → Database → Prop) (m : Memory)
    (result : Except Fault Unit) (after : Memory) : Prop :=
  after.faults = m.faults ∧
    match result with
    | .ok _ => recording t.geometryColumns after.database ∧
        Catalog.qualified d t.schema? ∈ after.database.tables
    | .error _ => Stopped d t indexing after

theorem keeps_recording (plain : d.Plain) (typed : t.Plain d) (completion : Completion d t indexing recording)
    (within : ∀ db, Passing t.geometryColumns recording db → kept db) (start : recording [] m.database)
    (known : Catalog.qualified d t.schema? ∈ m.database.tables) :
    Memory.Keeps assumed kept (Ended d t indexing recording m)
      (each (Catalog.record d t.schema? t.typeName) t.geometryColumns >>= fun _ => pure ()) m := by
  refine keeps_bind (keeps_each (fun done now => recording done now.database ∧
    Catalog.qualified d t.schema? ∈ now.database.tables ∧ now.faults = m.faults) ?_ ?_ ⟨start, known, rfl⟩)
  · intro done c rest split now reached
    obtain ⟨held, present, same⟩ := reached
    have here : kept now.database := within _ ⟨done, ⟨c :: rest, split.symm⟩, held⟩
    refine Catalog.keeps_record plain typed.schema here ?_ ?_
    · intro refused _
      have hit : now.Hit := refused.resolve_right (not_not.mpr present)
      exact ⟨same, .inl ⟨_, hit⟩⟩
    · intro _ _
      have written := completion.row split held present
      exact ⟨within _ ⟨done ++ [c], ⟨rest, by simp [split]⟩, written⟩, written, present, same⟩
  · intro _ now reached
    obtain ⟨held, present, same⟩ := reached
    have here : kept now.database := within _ ⟨_, List.prefix_refl _, held⟩
    exact ⟨here, here, same, held, present⟩

theorem keeps_indexing (plain : d.Plain) (typed : t.Plain d) (completion : Completion d t indexing recording)
    (before : ∀ db, Passing t.indexedColumns indexing db → kept db)
    (within : ∀ db, Passing t.geometryColumns recording db → kept db) (start : indexing [] m.database)
    (known : Catalog.qualified d t.schema? ∈ m.database.tables) :
    Memory.Keeps assumed kept (Ended d t indexing recording m)
      (Index.createGeometryIndexes d t.schema? t >>= fun _ =>
        each (Catalog.record d t.schema? t.typeName) t.geometryColumns >>= fun _ => pure ()) m := by
  refine keeps_bind (keeps_each (fun done now => indexing done now.database ∧
    Catalog.qualified d t.schema? ∈ now.database.tables ∧ now.faults = m.faults) ?_ ?_ ⟨start, known, rfl⟩)
  · intro done c rest split now reached
    obtain ⟨held, present, same⟩ := reached
    have here : kept now.database := before _ ⟨done, ⟨c :: rest, split.symm⟩, held⟩
    refine Index.keeps_createFor (plain.read_index (typed.named (by simp [split]))) here ?_ ?_
    · intro refused _ _
      refine ⟨same, ?_⟩
      rcases refused with hit | blocked
      · exact .inl ⟨_, hit⟩
      · exact .inr ⟨done, c, rest, split, held, blocked⟩
    · intro _ owned free
      have made := completion.index split held owned free
      exact ⟨before _ ⟨done ++ [c], ⟨rest, by simp [split]⟩, made⟩, made, present, same⟩
  · intro _ now reached
    obtain ⟨held, present, same⟩ := reached
    refine ⟨before _ ⟨_, List.prefix_refl _, held⟩,
      (keeps_recording plain typed completion within (completion.turn held) present).imp ?_⟩
    intro result after _ ended
    exact ⟨ended.1.trans same, ended.2⟩

theorem keeps_complete (plain : d.Plain) (typed : t.Plain d) (completion : Completion d t indexing recording)
    (before : ∀ db, Passing t.indexedColumns indexing db → kept db)
    (within : ∀ db, Passing t.geometryColumns recording db → kept db)
    (start : indexing [] m.database) :
    Memory.Keeps assumed kept (Ended d t indexing recording m) (complete d t.schema? t) m := by
  have here : kept m.database := before _ ⟨[], List.nil_prefix, start⟩
  unfold complete
  simp only [plain.backend]
  refine keeps_bind (Catalog.keeps_ensure plain typed.schema here ?_ ?_ ?_)
  · exact keeps_indexing plain typed completion before within start
  · intro absent _
    have made := completion.catalog start absent
    have known : Catalog.qualified d t.schema? ∈ (m.database.addTable (Catalog.qualified d t.schema?)).tables := by
      simp [Database.addTable]
    refine ⟨before _ ⟨[], List.nil_prefix, made⟩, ?_⟩
    exact keeps_indexing (m := m.next _) plain typed completion before within made known
  · exact fun _ hit _ => ⟨rfl, .inl ⟨_, hit⟩⟩

theorem keeps_create (plain : d.Plain) (typed : t.Plain d) {ended : Except Fault Unit → Memory → Prop}
    (here : kept m.database)
    (refused : m.Hit ∨ t.qualified ∈ m.database.tables → ∀ fault, ended (.error fault) (m.next m.database))
    (made : ¬ m.Hit → t.qualified ∉ m.database.tables → kept (m.database.addTable t.qualified) ∧
      Memory.Keeps assumed kept ended (complete d t.schema? t) (m.next (m.database.addTable t.qualified))) :
    Memory.Keeps assumed kept ended (create d t) m := by
  unfold create
  refine keeps_bind (Memory.keeps_send_table (plain.read_createTable typed.schema typed.table) here ?_ made)
  exact fun cause _ => refused cause _

-- What the repair of these columns may do, one statement at a time, to what holds of the
-- database once the first of them are done.
structure Restoration (d : Dialect) (t : FeatureType) (columns : List Column)
    (repairing : List Column → Database → Prop) : Prop where
  index : ∀ {done c rest db}, columns = done ++ c :: rest → repairing done db → c.isIndexed →
    ¬ db.Used (d.indexName c.name) → repairing done (db.addIndex t.qualified (d.indexName c.name))
  row : ∀ {done c rest db}, columns = done ++ c :: rest → repairing done db →
    (c.isIndexed → Index.Present t.schema? t.typeName (d.indexName c.name) db) →
    repairing (done ++ [c]) (db.addRow (Catalog.row d t c))

theorem repairColumn_geometry (typed : t.Plain d) (member : c ∈ t.geometryColumns) :
    repairColumn d t.schema? t c.name = do
      info ("Recording missing catalog row for " ++ t.typeName ++ "." ++ c.name)
      if c.isIndexed then
        let _ ← Index.ensureFor d t.schema? t.typeName c.name
      let _ ← Catalog.record d t.schema? t.typeName c
      return () := by
  obtain ⟨listed, geometry⟩ := List.mem_filter.mp member
  have needed : c.isIndexed = !c.nillable := by simp [Column.isIndexed, geometry]
  rw [repairColumn, typed.column? listed, needed]

theorem keeps_repairColumn (plain : d.Plain) (typed : t.Plain d) (c : Column) (member : c ∈ t.geometryColumns)
    (holds next : Database → Prop) (within : ∀ db, holds db → kept db) (after : ∀ db, next db → kept db)
    (index : ∀ db, holds db → c.isIndexed → ¬ db.Used (d.indexName c.name) →
      holds (db.addIndex t.qualified (d.indexName c.name)))
    (row : ∀ db, holds db → (c.isIndexed → Index.Present t.schema? t.typeName (d.indexName c.name) db) →
      next (db.addRow (Catalog.row d t c)))
    (start : holds m.database) :
    Memory.Keeps assumed kept (fun result after =>
      match result with
      | .ok _ => next after.database
      | .error _ => True) (repairColumn d t.schema? t c.name) m := by
  have record (now : Memory) (held : holds now.database)
      (indexed : c.isIndexed → Index.Present t.schema? t.typeName (d.indexName c.name) now.database) :
      Memory.Keeps assumed kept (fun result after =>
        match result with
        | .ok _ => next after.database
        | .error _ => True)
        (Catalog.record d t.schema? t.typeName c >>= fun _ => pure ()) now := by
    refine keeps_bind (Catalog.keeps_record plain typed.schema (within _ held) ?_ ?_)
    · exact fun _ _ => trivial
    · intro _ _
      have written := row _ held indexed
      exact ⟨after _ written, after _ written, written⟩
  rw [repairColumn_geometry typed member]
  refine keeps_info_bind ?_
  by_cases needed : c.isIndexed
  · have listed : c ∈ t.indexedColumns := List.mem_filter.mpr ⟨List.mem_of_mem_filter member, needed⟩
    simp only [needed, if_true]
    refine keeps_bind (Index.keeps_ensureFor (plain.read_index (typed.named listed)) (within _ start) ?_ ?_ ?_)
    · intro _ known free
      have made := index _ start needed free
      exact ⟨within _ made, record _ made fun _ => ⟨known, List.mem_append_right _ List.mem_cons_self⟩⟩
    · exact fun _ present => record _ start fun _ => present
    · exact fun _ _ _ => trivial
  · simp only [needed]
    exact record m start fun indexed => absurd indexed needed

def recordingAt (c : Column) (m : Memory) : Memory := if c.isIndexed then m.next m.database else m

theorem keeps_repairColumn_again (plain : d.Plain) (typed : t.Plain d) (member : c ∈ t.geometryColumns)
    {ended : Except Fault Unit → Memory → Prop} (here : kept m.database)
    (known : Catalog.qualified d t.schema? ∈ m.database.tables)
    (indexed : c.isIndexed → Index.Present t.schema? t.typeName (d.indexName c.name) m.database)
    (lost : (recordingAt c m).Hit → ∀ fault now, now.database = m.database → ended (.error fault) now)
    (written : ¬ (recordingAt c m).Hit → ∀ now, now.database = m.database.addRow (Catalog.row d t c) →
      kept now.database ∧ ended (.ok ()) now) :
    Memory.Keeps assumed kept ended (repairColumn d t.schema? t c.name) m := by
  have record (now : Memory) (ready : now = recordingAt c m) (same : now.database = m.database) :
      Memory.Keeps assumed kept ended (Catalog.record d t.schema? t.typeName c >>= fun _ => pure ()) now := by
    subst ready
    rw [← same] at here known
    refine keeps_bind (Catalog.keeps_record plain typed.schema here ?_ ?_)
    · exact fun refused fault => lost (refused.resolve_right (not_not.mpr known)) fault _ same
    · intro clear _
      have after := written clear ((recordingAt c m).next ((recordingAt c m).database.addRow (Catalog.row d t c)))
        (by simp [Memory.next, same])
      exact ⟨after.1, after⟩
  rw [repairColumn_geometry typed member]
  refine keeps_info_bind ?_
  by_cases needed : c.isIndexed
  · have listed : c ∈ t.indexedColumns := List.mem_filter.mpr ⟨List.mem_of_mem_filter member, needed⟩
    have used : m.database.Used (d.indexName c.name) := List.mem_map_of_mem (indexed needed).2
    simp only [needed, if_true]
    refine keeps_bind (Index.keeps_ensureFor (plain.read_index (typed.named listed)) here ?_ ?_ ?_)
    · exact fun _ _ free => absurd used free
    · exact fun _ _ => record _ (by simp [recordingAt, needed]) rfl
    · exact fun _ absent => absurd (indexed needed) absent
  · simp only [needed]
    exact record m (by simp [recordingAt, needed]) rfl

theorem keeps_repairColumns (plain : d.Plain) (typed : t.Plain d) {columns : List Column}
    {repairing : List Column → Database → Prop} (geometry : ∀ c ∈ columns, c ∈ t.geometryColumns)
    (restoration : Restoration d t columns repairing) (within : ∀ db, Passing columns repairing db → kept db)
    (start : repairing [] m.database) :
    Memory.Keeps assumed kept (fun result after =>
      match result with
      | .ok _ => repairing columns after.database
      | .error _ => True)
      (each (repairColumn d t.schema? t) (columns.map Column.name)) m := by
  have passing {done rest : List Column} (split : columns = done ++ rest) (db : Database)
      (held : repairing done db) : Passing columns repairing db := ⟨done, ⟨rest, split.symm⟩, held⟩
  rw [each_map]
  refine keeps_each (fun done m => repairing done m.database) ?_ ?_ start
  · intro done c rest split m held
    have onwards : columns = (done ++ [c]) ++ rest := by simp [split]
    refine (keeps_repairColumn plain typed c (geometry c (by simp [split])) (repairing done)
      (repairing (done ++ [c])) (fun db held => within db (passing split db held))
      (fun db held => within db (passing onwards db held))
      (fun db held => restoration.index split held) (fun db held => restoration.row split held) held).imp ?_
    intro result after _ ended
    cases result with
    | ok _ => exact ended
    | error _ => trivial
  · exact fun _ m held => ⟨within _ (passing (List.append_nil _).symm _ held), held⟩

-- What a repair takes for missing. Where its query is lost, that is every column.
inductive Found (d : Dialect) (t : FeatureType) (assumed : Memory → Request → Prop) (m : Memory) :
    List Column → Prop where
  | answered (clear : ¬ m.Hit) : Found d t assumed m (unrecordedColumns d t.schema? t m.database)
  | lost (hit : m.Hit) (met : assumed m (Catalog.rowsRequest d t.schema? t.typeName)) :
    Found d t assumed m t.geometryColumns

theorem Found.geometry (found : Found d t assumed m columns) : ∀ c ∈ columns, c ∈ t.geometryColumns := by
  cases found with
  | answered _ => exact fun _ member => List.mem_of_mem_filter member
  | lost _ _ => exact fun _ member => member

inductive Ensured (d : Dialect) (t : FeatureType) (m : Memory) : Memory → Prop where
  | known (present : Catalog.qualified d t.schema? ∈ m.database.tables) : Ensured d t m m
  | made (absent : Catalog.qualified d t.schema? ∉ m.database.tables) (clear : ¬ m.Hit) :
    Ensured d t m (m.next (m.database.addTable (Catalog.qualified d t.schema?)))

theorem Ensured.present (ensured : Ensured d t m now) : Catalog.qualified d t.schema? ∈ now.database.tables := by
  cases ensured with
  | known present => exact present
  | made _ _ => simp [Memory.next, Database.addTable]

theorem keeps_repair (plain : d.Plain) (typed : t.Plain d) {ended : Except Fault (List String) → Memory → Prop}
    (here : kept m.database) (within : ∀ now, Ensured d t m now → kept now.database)
    (failed : ∀ fault now, kept now.database → ended (.error fault) now)
    (resumed : ∀ now columns, Ensured d t m now → Found d t assumed now columns →
      Memory.Keeps assumed kept (fun result after =>
        match result with
        | .ok _ => ended (.ok (columns.map Column.name)) after
        | .error _ => True)
        (each (repairColumn d t.schema? t) (columns.map Column.name)) (now.next now.database)) :
    Memory.Keeps assumed kept ended (repair d t.schema? t) m := by
  have resume (now : Memory) (ensured : Ensured d t m now) :
      Memory.Keeps assumed kept ended (do
        let names ← missing d t.schema? t
        let _ ← each (repairColumn d t.schema? t) names
        return names) now := by
    have onwards (columns : List Column) (found : Found d t assumed now columns) :
        Memory.Keeps assumed kept ended (do
          let _ ← each (repairColumn d t.schema? t) (columns.map Column.name)
          return columns.map Column.name) (now.next now.database) := by
      refine keeps_bind ((resumed now columns ensured found).imp ?_)
      intro result after here ended
      cases result with
      | ok _ => exact ⟨here, ended⟩
      | error fault => exact failed fault after here
    refine keeps_bind (keeps_missing plain typed.schema (within now ensured) ?_ ?_ ?_)
    · intro met unread
      exact onwards _ (.lost (unread.resolve_right (not_not.mpr ensured.present)) met)
    · exact fun clear _ _ => onwards _ (.answered clear)
    · exact fun _ _ => failed _ _ (within now ensured)
  unfold repair
  simp only [plain.backend]
  refine keeps_bind (Catalog.keeps_ensure plain typed.schema here ?_ ?_ ?_)
  · exact fun present => resume m (.known present)
  · exact fun absent clear => ⟨within _ (.made absent clear), resume _ (.made absent clear)⟩
  · exact fun _ _ fault => failed fault _ here

variable {ended : Except Fault Reply → Memory → Prop}

theorem keeps_createTable (keeps : Memory.Keeps assumed kept (fun result after =>
      match result with
      | .ok _ => ended (.ok .nothing) after
      | .error fault => ended (.error fault) after) (create d t) m) :
    Memory.Keeps assumed kept ended ((Operation.createTable t).session d) m :=
  Memory.keeps_reply (keeps.imp fun result _ _ final => by cases result <;> exact final)

theorem keeps_repairTable (keeps : Memory.Keeps assumed kept (fun result after =>
      match result with
      | .ok names => ended (.ok (.names names)) after
      | .error fault => ended (.error fault) after) (repair d t.schema? t) m) :
    Memory.Keeps assumed kept ended ((Operation.repairTable t.schema? t).session d) m :=
  Memory.keeps_reply (keeps.imp fun result _ _ final => by cases result <;> exact final)

structure Lasting (d : Dialect) (t : FeatureType) (kept : Database → Prop) : Prop where
  table : ∀ {db}, kept db → kept (db.addTable t.qualified)
  catalog : ∀ {db}, kept db → kept (db.addTable (Catalog.qualified d t.schema?))
  index : ∀ {c db}, c ∈ t.indexedColumns → kept db → kept (db.addIndex t.qualified (d.indexName c.name))
  row : ∀ {c db}, c ∈ t.geometryColumns → kept db →
    (c.isIndexed → Index.Present t.schema? t.typeName (d.indexName c.name) db) →
    kept (db.addRow (Catalog.row d t c))

theorem keeps_lasting (plain : d.Plain) (typed : t.Plain d) (lasting : Lasting d t kept) {call : Operation}
    (bootstraps : call = .createTable t ∨ call = .repairTable t.schema? t) (here : kept m.database) :
    Memory.Keeps assumed kept (fun _ _ => True) (call.session d) m := by
  rcases bootstraps with rfl | rfl
  · have completion := completion_present (d := d) (t := t) (fun _ => kept) lasting.catalog lasting.index
      fun split held _ present => lasting.row (by simp [split]) held present
    refine keeps_createTable (keeps_create plain typed here (fun _ _ => trivial) fun _ _ => ?_)
    have made := lasting.table here
    refine ⟨made, (keeps_complete plain typed completion ?_ ?_ ⟨made, by simp⟩).imp ?_⟩
    · exact fun _ ⟨_, _, held⟩ => held.1
    · exact fun _ ⟨_, _, held⟩ => held.1
    · intro result _ _ _
      cases result <;> trivial
  · have still {now : Memory} (ensured : Ensured d t m now) : kept now.database := by
      cases ensured with
      | known _ => exact here
      | made _ _ => exact lasting.catalog here
    refine keeps_repairTable (keeps_repair plain typed here (fun _ => still) (fun _ _ _ => trivial) ?_)
    intro now columns ensured found
    have restoration : Restoration d t columns fun _ => kept :=
      { index := fun split held needed _ =>
          have listed := List.mem_of_mem_filter (found.geometry _ (by simp [split]))
          lasting.index (List.mem_filter.mpr ⟨listed, needed⟩) held
        row := fun split held present => lasting.row (found.geometry _ (by simp [split])) held present }
    have held := still ensured
    refine (keeps_repairColumns plain typed found.geometry restoration ?_ ?_).imp ?_
    · exact fun _ ⟨_, _, held⟩ => held
    · exact held
    · intro result _ _ _
      cases result <;> trivial

end Table

def FeatureType.within (t : FeatureType) (schema? : Option String) : FeatureType := { t with schema? }

theorem FeatureType.Plain.within {t : FeatureType} {schema? : Option String} (typed : t.Plain d)
    (schema : Schema.Plain schema?) : (t.within schema?).Plain d := ⟨schema, typed.table, typed.index, typed.distinct⟩

theorem Table.repairTable_within {d : Dialect} {t : FeatureType} :
    (Operation.repairTable schema? t).session d =
      (Operation.repairTable (t.within schema?).schema? (t.within schema?)).session d := rfl

end FeatureTables
