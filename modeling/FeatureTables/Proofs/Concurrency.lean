import FeatureTables.Proofs.Bootstrap
import FeatureTables.Proofs.Interference
import Mathlib.Data.List.Nodup

namespace FeatureTables

open Session Memory

def Statement.table? : Statement → Option String
  | createTable name => some name
  | _ => none

def Statement.index? : Statement → Option String
  | createIndex index _ => some index
  | _ => none

def Event.created? (made : Statement → Option String) : Event → Option String
  | .call (.execute sql _) (.ok _) => made (Statement.read sql)
  | _ => none

theorem created_applied {made : Statement → Option String}
    (created : Event.created? made (.call request (Memory.connection.answer request m).1) = some name) :
    ∃ parameters statement db result, made statement = some name ∧
      m.database.apply parameters statement = .ok (db, result) ∧
      (Memory.connection.answer request m).2.database = db := by
  cases request with
  | execute sql parameters? =>
    by_cases hit : m.faults (m.executed + 1) = none
    · cases applied : m.database.apply (parameters?.getD []) (Statement.read sql) with
      | error message =>
        simp [Memory.connection, Memory.answer, Memory.execute, hit, applied, Event.created?] at created
      | ok reply =>
        refine ⟨_, _, reply.1, reply.2, ?_, applied, ?_⟩
        · simpa [Memory.connection, Memory.answer, Memory.execute, hit, applied, Event.created?] using created
        · simp [Memory.connection, Memory.answer, Memory.execute, hit, applied]
    · obtain ⟨message, lost⟩ := Option.ne_none_iff_exists'.mp hit
      simp [Memory.connection, Memory.answer, Memory.execute, lost, Event.created?] at created
  | _ => cases created

theorem makes_tables (holds : Database → Prop) : Crowd.Makes Memory.connection (accord holds)
    (Event.created? Statement.table?) fun name m => name ∈ m.database.tables where
  quiet := fun _ _ => rfl
  lasting := fun moved present => moved.tables present
  fresh := by
    intro request m name created
    obtain ⟨parameters, statement, db, result, made, applied, same⟩ := created_applied created
    rw [same]
    cases statement with
    | createTable =>
      cases made
      obtain ⟨absent, rfl⟩ := Database.createTable_accepted applied
      exact ⟨absent, List.mem_append_right _ List.mem_cons_self⟩
    | _ => cases made

theorem makes_indexes (holds : Database → Prop) : Crowd.Makes Memory.connection (accord holds)
    (Event.created? Statement.index?) fun index m => m.database.Used index where
  quiet := fun _ _ => rfl
  lasting := fun moved used => List.map_subset _ moved.indexes used
  fresh := by
    intro request m index created
    obtain ⟨parameters, statement, db, result, made, applied, same⟩ := created_applied created
    rw [same]
    cases statement with
    | createIndex _ table =>
      cases made
      obtain ⟨_, free, rfl⟩ := Database.createIndex_accepted applied
      exact ⟨free, by simp [Database.Used, Database.addIndex]⟩
    | _ => cases made

namespace Table

variable {d : Dialect} {t : FeatureType} {c : Column} {start db : Database} {m : Memory}

def Owned (d : Dialect) (t : FeatureType) (db : Database) : Prop :=
  ∀ c ∈ t.indexedColumns, ∀ owner, (owner, d.indexName c.name) ∈ db.indexes → owner = t.qualified

-- What clients leave to each other while they repair one table.
structure Shared (d : Dialect) (t : FeatureType) (start db : Database) : Prop where
  known : t.qualified ∈ db.tables
  owned : Owned d t db
  keyed : Keyed d t.schema? t start → Keyed d t.schema? t db
  indexed : ∀ c ∈ t.indexedColumns, Catalog.Recorded d t.schema? t.typeName c.name db →
    Catalog.Recorded d t.schema? t.typeName c.name start ∨
      Index.Present t.schema? t.typeName (d.indexName c.name) db

namespace Shared

theorem first (known : t.qualified ∈ db.tables) (owned : Owned d t db) : Shared d t db db :=
  ⟨known, owned, id, fun _ _ recorded => .inl recorded⟩

theorem addTable (shared : Shared d t start db) : Shared d t start (db.addTable name) where
  known := List.mem_append_left _ shared.known
  owned := shared.owned
  keyed := shared.keyed
  indexed := fun c member recorded => (shared.indexed c member recorded).imp_right present_addTable

theorem addIndex (shared : Shared d t start db) : Shared d t start (db.addIndex t.qualified name) where
  known := shared.known
  owned := by
    intro c member owner listed
    rcases List.mem_append.mp listed with before | last
    · exact shared.owned c member owner before
    · exact (Prod.mk.inj (List.mem_singleton.mp last)).1
  keyed := shared.keyed
  indexed := fun c member recorded => (shared.indexed c member recorded).imp_right present_addIndex

theorem addRow (typed : t.Plain d) (member : c ∈ t.geometryColumns)
    (present : c.isIndexed → Index.Present t.schema? t.typeName (d.indexName c.name) db)
    (shared : Shared d t start db) : Shared d t start (db.addRow (Catalog.row d t c)) where
  known := shared.known
  owned := shared.owned
  keyed := fun keyed => (shared.keyed keyed).addRow rfl
  indexed := by
    intro other needed recorded
    obtain ⟨row, written, described, named⟩ := recorded
    rcases List.mem_append.mp written with before | last
    · exact shared.indexed other needed ⟨row, before, described, named⟩
    · cases List.mem_singleton.mp last
      have called : c.name = other.name := Datum.text.inj named
      cases List.inj_on_of_nodup_map typed.distinct (List.mem_of_mem_filter member)
        (List.mem_of_mem_filter needed) called
      exact .inr (present (List.mem_filter.mp needed).2)

end Shared

theorem abides_missing (plain : d.Plain) (typed : t.Plain d) (sound : (accord (Shared d t start)).sound m)
    (known : Henceforth (Shared d t start) m fun now => Catalog.qualified d t.schema? ∈ now.database.tables) :
    Memory.Abides (Shared d t start) (fun result now =>
      match result with
      | .ok names => ∃ columns : List Column, names = columns.map Column.name ∧ (∀ c ∈ columns, c ∈ t.geometryColumns) ∧
          ∀ c ∈ t.geometryColumns, c ∈ columns ∨ Catalog.Recorded d t.schema? t.typeName c.name now.database
      | .error _ => ¬ Keyed d t.schema? t start)
      (missing d t.schema? t) m := by
  unfold missing
  simp only [plain.backend]
  refine abides_bind sound (Catalog.abides_rows plain typed.schema sound known) ?_ ?_
  · intro fault now _ always later further kept
    obtain ⟨_, _, _, _, impossible⟩ := always later further kept
    cases impossible
  · intro rows now _ here always
    obtain ⟨seen, kept, _, further, found⟩ := always.now here
    cases found
    simp only [unrecorded_rows]
    by_cases keyed : Keyed d t.schema? t seen.database
    · rw [if_pos keyed]
      intro later onwards _
      refine ⟨unrecordedColumns d t.schema? t seen.database, rfl, fun _ member => List.mem_of_mem_filter member, ?_⟩
      intro c member
      by_cases recorded : Catalog.Recorded d t.schema? t.typeName c.name seen.database
      · exact .inr (recorded.later (further.trans onwards).rows)
      · exact .inl (List.mem_filter.mpr ⟨member, by simpa using recorded⟩)
    · rw [if_neg keyed]
      exact fun _ _ _ started => keyed (kept.2.keyed started)

theorem abides_repairColumn (plain : d.Plain) (typed : t.Plain d) (member : c ∈ t.geometryColumns)
    (sound : (accord (Shared d t start)).sound m)
    (known : Henceforth (Shared d t start) m fun now => Catalog.qualified d t.schema? ∈ now.database.tables) :
    Memory.Abides (Shared d t start) (fun result now =>
        result.isOk ∧ Catalog.Recorded d t.schema? t.typeName c.name now.database)
      (repairColumn d t.schema? t c.name) m := by
  have record {now : Memory} (here : (accord (Shared d t start)).sound now)
      (known : Henceforth (Shared d t start) now fun now => Catalog.qualified d t.schema? ∈ now.database.tables)
      (present : Henceforth (Shared d t start) now fun now =>
        c.isIndexed → Index.Present t.schema? t.typeName (d.indexName c.name) now.database) :
      Memory.Abides (Shared d t start) (fun result now =>
          result.isOk ∧ Catalog.Recorded d t.schema? t.typeName c.name now.database)
        (Catalog.record d t.schema? t.typeName c >>= fun _ => pure ()) now := by
    refine abides_bind here (Catalog.abides_record plain typed.schema here known ?_) ?_ ?_
    · exact fun later further kept => kept.2.addRow typed member (present later further kept)
    · intro fault _ _ always later further kept
      cases (always later further kept).1
    · intro _ _ _ _ always later further kept
      exact ⟨rfl, Catalog.recorded_row plain typed (always later further kept).2⟩
  rw [repairColumn_geometry typed member]
  refine abides_info_bind ?_
  by_cases needed : c.isIndexed
  · have listed : c ∈ t.indexedColumns := List.mem_filter.mpr ⟨List.mem_of_mem_filter member, needed⟩
    simp only [needed, if_true]
    refine abides_bind sound (Index.abides_ensureFor plain (typed.named listed) (fun _ shared => shared.known)
      ?_ (fun _ shared => shared.addIndex) sound) ?_ ?_
    · intro db shared used
      obtain ⟨⟨owner, index⟩, made, rfl⟩ := List.mem_map.mp used
      cases shared.owned c listed owner made
      exact made
    · intro fault _ _ always later further kept
      cases (always later further kept).1
    · intro _ now moved here always
      exact record here (known.later moved) fun later further kept _ => (always later further kept).2
  · simp only [needed]
    exact record sound known fun _ _ _ indexed => absurd indexed needed

def Finished (d : Dialect) (t : FeatureType) (start : Database) (result : Except Fault α) (now : Memory) : Prop :=
  match result with
  | .ok _ => Catalog.qualified d t.schema? ∈ now.database.tables ∧
      ∀ c ∈ t.geometryColumns, Catalog.Recorded d t.schema? t.typeName c.name now.database
  | .error _ => ¬ Keyed d t.schema? t start

theorem abides_repair (plain : d.Plain) (typed : t.Plain d) (sound : (accord (Shared d t start)).sound m) :
    Memory.Abides (Shared d t start) (Finished d t start) (repair d t.schema? t) m := by
  unfold repair
  simp only [plain.backend]
  refine abides_bind sound (Catalog.abides_ensure plain typed.schema fun _ shared => shared.addTable) ?_ ?_
  · intro fault _ _ always later further kept
    cases (always later further kept).1
  · intro _ now _ here ensured
    have known : Henceforth (Shared d t start) now fun later =>
        Catalog.qualified d t.schema? ∈ later.database.tables :=
      fun later further kept => (ensured later further kept).2
    refine abides_bind here (abides_missing plain typed here known) ?_ ?_
    · exact fun _ _ _ always => always
    · intro names seen moved quiet looked
      obtain ⟨columns, rfl, geometry, every⟩ := looked.now quiet
      rw [each_map]
      have restored : Memory.Abides (Shared d t start) (fun result last =>
          result.isOk ∧ ∀ c ∈ columns, Catalog.Recorded d t.schema? t.typeName c.name last.database)
          (each (fun c => repairColumn d t.schema? t c.name) columns) seen := by
        refine abides_each quiet ?_
        intro c member later further kept
        exact abides_repairColumn plain typed (geometry c member) kept
          (known.later (Database.Grows.trans moved further))
      refine abides_bind quiet restored ?_ ?_
      · intro _ _ _ always last onwards kept
        cases (always last onwards kept).1
      · intro _ later further _ always last onwards kept
        refine ⟨known last (Database.Grows.trans moved (further.trans onwards)) kept, ?_⟩
        intro c member
        rcases every c member with fixed | recorded
        · exact (always last onwards kept).2 c fixed
        · exact recorded.later (further.trans onwards).rows

theorem abides_repairTable (plain : d.Plain) (typed : t.Plain d) (sound : (accord (Shared d t start)).sound m) :
    Memory.Abides (Shared d t start) (Finished d t start) ((Operation.repairTable t.schema? t).session d) m := by
  refine abides_bind sound (abides_repair plain typed sound) ?_ ?_
  · exact fun _ _ _ always => always
  · exact fun _ _ _ _ always => always

def repairers (d : Dialect) (schema? : Option String) (t : FeatureType) (clients : Nat) (m : Memory) :
    Crowd Memory Reply :=
  .start (List.replicate clients ((Operation.repairTable schema? t).session d)) m

theorem repairers_abide (plain : d.Plain) (schema : Schema.Plain schema?) (typed : t.Plain d)
    (sound : (accord (Shared d (t.within schema?) start)).sound m) (clients : Nat) :
    (repairers d schema? t clients m).Abides Memory.connection (accord (Shared d (t.within schema?) start))
      (Finished d (t.within schema?) start) where
  sound := sound
  clients := by
    intro session member
    rw [repairers, repairTable_within] at member
    cases List.eq_of_mem_replicate member
    exact abides_repairTable plain (typed.within schema) sound

-- Any number of repairs of one table, in any order of their single steps. Only rows that
-- can not be looked up make one fail.
theorem repairs_share (plain : d.Plain) (schema : Schema.Plain schema?) (typed : t.Plain d)
    (clear : ∀ n, m.faults n = none) (known : (t.within schema?).qualified ∈ m.database.tables)
    (owned : Owned d (t.within schema?) m.database) (clients : Nat) (order : List Nat) :
    let crowd := (repairers d schema? t clients m).turns Memory.connection order
    let db := crowd.state.database
    (Keyed d schema? t m.database → ∀ session ∈ crowd.clients, ¬ session.isFailed) ∧
      (crowd.events.filterMap (Event.created? Statement.table?)).Nodup ∧
      (crowd.events.filterMap (Event.created? Statement.index?)).Nodup ∧
      ((∃ session ∈ crowd.clients, session.isDone) →
        Catalog.qualified d schema? ∈ db.tables ∧
        (∀ c ∈ t.geometryColumns, Catalog.Recorded d schema? t.typeName c.name db) ∧
        ∀ c ∈ t.indexedColumns, ¬ Catalog.Recorded d schema? t.typeName c.name m.database →
          Index.Present schema? t.typeName (d.indexName c.name) db) := by
  intro crowd db
  have abides := repairers_abide plain schema typed ⟨clear, .first known owned⟩ clients
  obtain ⟨reached, _⟩ := Crowd.turns_abide abides order
  have once {made : Statement → Option String} {held : String → Memory → Prop}
      (makes : Crowd.Makes Memory.connection (accord (Shared d (t.within schema?) m.database))
        (Event.created? made) held) : (crowd.events.filterMap (Event.created? made)).Nodup :=
    (Crowd.turns_once makes abides ⟨List.nodup_nil, nofun⟩ order).distinct
  refine ⟨?_, once (makes_tables _), once (makes_indexes _), ?_⟩
  · intro keyed session member failed
    cases session with
    | fail fault => exact reached.failed member keyed
    | done | note | call => cases failed
  · rintro ⟨session, member, finished⟩
    cases session with
    | done value =>
      obtain ⟨present, recorded⟩ := reached.done member
      refine ⟨present, recorded, ?_⟩
      intro c needed fresh
      have listed : c ∈ t.geometryColumns := by
        rw [← indexed_geometry] at needed
        exact List.mem_of_mem_filter needed
      -- No row is written ahead of its index.
      exact (reached.sound.2.indexed c needed (recorded c listed)).resolve_left fresh
    | fail | note | call => cases finished

theorem repairs_share_sample :
    let roads := FeatureType.sample "roads" "geom"
    let m := { Memory.losing [] with database := ⟨["roads"], [], []⟩ }
    let crowd := (repairers .phoenix none roads 2 m).turns Memory.connection (0 :: List.replicate 22 1 ++ [0, 0])
    (∀ session ∈ crowd.clients, ¬ session.isFailed) ∧
      (∀ c ∈ roads.geometryColumns, Catalog.Recorded .phoenix none roads.typeName c.name crowd.state.database) ∧
      ∀ c ∈ roads.indexedColumns,
        Index.Present none roads.typeName (Dialect.phoenix.indexName c.name) crowd.state.database := by
  intro roads m
  dsimp only
  have schema : Schema.Plain none := FeatureType.roads_plain.schema
  have owned : Owned .phoenix (roads.within none) m.database := fun _ _ _ => nofun
  have keyed : Keyed .phoenix none roads m.database := by decide
  obtain ⟨kept, _, _, complete⟩ := repairs_share (t := roads) (m := m) Dialect.phoenix_plain schema
    FeatureType.roads_plain (fun _ => rfl) List.mem_cons_self owned 2 (0 :: List.replicate 22 1 ++ [0, 0])
  obtain ⟨_, recorded, present⟩ := complete (List.any_eq_true.mp (by decide +kernel))
  refine ⟨kept keyed, recorded, ?_⟩
  intro c needed
  refine present c needed ?_
  rintro ⟨_, written, _⟩
  exact List.not_mem_nil written

theorem repairs_unkeyed :
    let roads := FeatureType.sample "roads" "geom"
    let listed := ("geometry_columns", [("f_table_name", .text "roads"), ("f_geometry_column", .list [.text "geom"])])
    let m := { Memory.losing [] with database := ⟨["roads", "geometry_columns"], [], [listed]⟩ }
    roads.Plain .phoenix ∧ (∀ n, m.faults n = none) ∧ roads.qualified ∈ m.database.tables ∧
      Owned .phoenix roads m.database ∧
      ∃ session ∈ ((repairers .phoenix none roads 1 m).turns Memory.connection (List.replicate 6 0)).clients,
        session.isFailed := by
  intro roads listed m
  have failed : ((repairers .phoenix none roads 1 m).turns Memory.connection (List.replicate 6 0)).clients.any
      Session.isFailed := by decide +kernel
  exact ⟨FeatureType.roads_plain, fun _ => rfl, List.mem_cons_self, fun _ _ _ => nofun, List.any_eq_true.mp failed⟩

end Table

end FeatureTables
