import FeatureTables.Proofs.Bootstrap
import Mathlib.Data.List.Nodup

namespace FeatureTables

open Session

namespace Catalog

def keys (d : Dialect) (schema? : Option String) (rows : List (String × Parameters)) :
    List (Datum × Datum × Datum) :=
  (rows.filter fun row => Statement.unquoted row.1.toList = (qualified d schema?).toList).map fun row =>
    (row.2.read "f_table_schema", row.2.read "f_table_name", row.2.read "f_geometry_column")

theorem keys_append {rows more : List (String × Parameters)} :
    keys d schema? (rows ++ more) = keys d schema? rows ++ keys d schema? more := by
  simp [keys]

theorem keys_recorded (plain : d.Plain) (typed : FeatureType.Plain d t) (recorded : List Column) :
    keys d t.schema? (recorded.map (row d t)) =
      recorded.map fun c => (.ofText? t.schema?, .text t.typeName, .text c.name) := by
  have held (c : Column) : Statement.unquoted (row d t c).1.toList = (qualified d t.schema?).toList :=
    ((describes_row plain typed).mpr ⟨rfl, rfl⟩).1
  have all : (recorded.map (row d t)).filter (fun row =>
      Statement.unquoted row.1.toList = (qualified d t.schema?).toList) = recorded.map (row d t) := by
    simp [held]
  rw [keys, all, List.map_map]
  rfl

end Catalog

namespace Table

def upkeep (d : Dialect) (t : FeatureType) : Nat → Session (Except Fault Reply)
  | 0 => ((Operation.createTable t).session d).attempt
  | repairs + 1 => do
    let _ ← upkeep d t repairs
    ((Operation.repairTable t.schema? t).session d).attempt

-- A repair that loses its query takes every column for unrecorded. Where there are rows
-- already, the first statement that gets through after that writes one a second time.
structure Lapse (d : Dialect) (t : FeatureType) (m : Memory) : Prop where
  recorded : ∃ row ∈ m.database.rows, Catalog.Describes d t.schema? t.typeName row
  lost : m.Hit
  written : m.faults (m.executed + if t.geometryColumns.head?.any Column.isIndexed then 3 else 2) = none

structure Tidy (d : Dialect) (t : FeatureType) (rows : List (String × Parameters)) (recorded : List Column)
    (db : Database) : Prop where
  shorter : recorded <+: t.geometryColumns
  rows : db.rows = rows ++ recorded.map (Catalog.row d t)
  indexed : ∀ c ∈ recorded, c.isIndexed → Index.Present t.schema? t.typeName (d.indexName c.name) db
  known : recorded ≠ [] → Catalog.qualified d t.schema? ∈ db.tables

variable {d : Dialect} {t : FeatureType} {rows : List (String × Parameters)} {recorded : List Column}
  {db : Database} {m : Memory}

theorem fresh_of_keys (empty : Catalog.keys d t.schema? db.rows = []) : Fresh d t db := by
  intro row member described
  have none : db.rows.filter (fun row =>
      Statement.unquoted row.1.toList = (Catalog.qualified d t.schema?).toList) = [] := by
    simpa [Catalog.keys] using empty
  have listed : row ∈ db.rows.filter (fun row =>
      Statement.unquoted row.1.toList = (Catalog.qualified d t.schema?).toList) :=
    List.mem_filter.mpr ⟨member, decide_eq_true described.1⟩
  rw [none] at listed
  cases listed

namespace Tidy

theorem keys (plain : d.Plain) (typed : t.Plain d) (tidy : Tidy d t rows recorded db)
    (empty : Catalog.keys d t.schema? rows = []) :
    Catalog.keys d t.schema? db.rows =
      recorded.map fun c => (.ofText? t.schema?, .text t.typeName, .text c.name) := by
  rw [tidy.rows, Catalog.keys_append, empty, List.nil_append, Catalog.keys_recorded plain typed]

theorem nodup (plain : d.Plain) (typed : t.Plain d) (tidy : Tidy d t rows recorded db)
    (empty : Catalog.keys d t.schema? rows = []) : (Catalog.keys d t.schema? db.rows).Nodup := by
  have names : (recorded.map Column.name).Nodup :=
    typed.distinct.sublist ((tidy.shorter.sublist.trans List.filter_sublist).map _)
  have keys : (recorded.map fun c => (Datum.ofText? t.schema?, Datum.text t.typeName, Datum.text c.name)) =
      (recorded.map Column.name).map fun name => (.ofText? t.schema?, .text t.typeName, .text name) := by
    simp
  rw [tidy.keys plain typed empty, keys]
  refine names.map fun one other same => ?_
  simpa using same

theorem addTable (tidy : Tidy d t rows recorded db) : Tidy d t rows recorded (db.addTable added) :=
  ⟨tidy.shorter, tidy.rows, fun c member needed => present_addTable (tidy.indexed c member needed),
    fun some => List.mem_append_left _ (tidy.known some)⟩

theorem addIndex (tidy : Tidy d t rows recorded db) : Tidy d t rows recorded (db.addIndex owner added) :=
  ⟨tidy.shorter, tidy.rows, fun c member needed => present_addIndex (tidy.indexed c member needed), tidy.known⟩

theorem addRow (tidy : Tidy d t rows recorded db) (split : t.geometryColumns = recorded ++ c :: rest)
    (known : Catalog.qualified d t.schema? ∈ db.tables)
    (present : c.isIndexed → Index.Present t.schema? t.typeName (d.indexName c.name) db) :
    Tidy d t rows (recorded ++ [c]) (db.addRow (Catalog.row d t c)) := by
  refine ⟨⟨rest, by simp [split]⟩, by simp [Database.addRow, tidy.rows], ?_, fun _ => known⟩
  intro other member needed
  rcases List.mem_append.mp member with before | last
  · exact tidy.indexed other before needed
  · cases List.mem_singleton.mp last
    exact present needed

end Tidy

theorem completion_tidy :
    Completion d t
      (fun done db => Tidy d t rows [] db ∧
        ∀ c ∈ done, Index.Present t.schema? t.typeName (d.indexName c.name) db)
      (fun done db => Tidy d t rows done db ∧
        ∀ c ∈ t.indexedColumns, Index.Present t.schema? t.typeName (d.indexName c.name) db) :=
  completion_present (Tidy d t rows) (fun tidy => tidy.addTable) (fun _ tidy => tidy.addIndex)
    (fun split tidy known present => tidy.addRow split known present)

theorem restoration_tidy (rows : List (String × Parameters)) (split : t.geometryColumns = recorded ++ columns) :
    Restoration d t columns fun done db =>
      Tidy d t rows (recorded ++ done) db ∧ Catalog.qualified d t.schema? ∈ db.tables where
  index := fun _ ⟨tidy, known⟩ _ _ => ⟨tidy.addIndex, known⟩
  row := by
    intro done c rest db whole held present
    obtain ⟨tidy, known⟩ := held
    rw [← List.append_assoc]
    exact ⟨tidy.addRow (by rw [split, whole, List.append_assoc]) known present, known⟩

def Orderly (d : Dialect) (t : FeatureType) (rows : List (String × Parameters)) (db : Database) : Prop :=
  ∃ recorded, Tidy d t rows recorded db

theorem keeps_create_orderly (plain : d.Plain) (typed : t.Plain d) (fresh : m.database.rows = rows) :
    Memory.Keeps (fun _ _ => True) (Orderly d t rows) (fun _ _ => True) (create d t) m := by
  have start {db : Database} (same : db.rows = rows) : Tidy d t rows [] db :=
    ⟨List.nil_prefix, by simp [same], nofun, fun some => absurd rfl some⟩
  refine keeps_create plain typed ⟨[], start fresh⟩ (fun _ _ => trivial) fun _ _ => ?_
  have made : Tidy d t rows [] (m.database.addTable t.qualified) := start fresh
  refine ⟨⟨[], made⟩, (keeps_complete plain typed completion_tidy ?_ ?_ ⟨made, by simp⟩).imp ?_⟩
  · exact fun _ ⟨_, _, held⟩ => ⟨[], held.1⟩
  · exact fun _ ⟨begun, _, held⟩ => ⟨begun, held.1⟩
  · exact fun _ _ _ _ => trivial

theorem Tidy.described (plain : d.Plain) (typed : t.Plain d) (tidy : Tidy d t rows recorded db)
    (fresh : ∀ row ∈ rows, ¬ Catalog.Describes d t.schema? t.typeName row) :
    (∃ row ∈ db.rows, Catalog.Describes d t.schema? t.typeName row) ↔ recorded ≠ [] := by
  rw [tidy.rows]
  constructor
  · intro listed nothing
    subst nothing
    obtain ⟨row, member, described⟩ := listed
    exact fresh row (by simpa using member) described
  · intro some
    obtain ⟨c, rest, rfl⟩ := List.exists_cons_of_ne_nil some
    exact ⟨Catalog.row d t c, by simp, (Catalog.describes_row plain typed).mpr ⟨rfl, rfl⟩⟩

theorem written_first (geometry : t.geometryColumns = first :: rest) :
    m.faults (m.executed + if t.geometryColumns.head?.any Column.isIndexed then 3 else 2) = none ↔
      ¬ (recordingAt first (m.next m.database)).Hit := by
  rw [geometry, Memory.Hit, not_not]
  by_cases needed : first.isIndexed <;> simp [recordingAt, needed, Memory.next]

theorem keeps_rest (plain : d.Plain) (typed : t.Plain d) (tidy : Tidy d t rows recorded m.database)
    (known : Catalog.qualified d t.schema? ∈ m.database.tables) (split : t.geometryColumns = recorded ++ rest) :
    Memory.Keeps (fun _ _ => True) (Orderly d t rows) (fun _ _ => True)
      (each (repairColumn d t.schema? t) (rest.map Column.name)) m := by
  refine (keeps_repairColumns plain typed (fun c member => by simp [split, member])
    (restoration_tidy rows split) ?_ ?_).imp ?_
  · intro db passing
    obtain ⟨begun, _, held⟩ := passing
    exact ⟨recorded ++ begun, held.1⟩
  · rw [List.append_nil]
    exact ⟨tidy, known⟩
  · exact fun _ _ _ _ => trivial

-- Where a repair that lost its query does not lapse, it has nothing to write twice or
-- fails ahead of the first row.
theorem keeps_lost (plain : d.Plain) (typed : t.Plain d)
    (fresh : ∀ row ∈ rows, ¬ Catalog.Describes d t.schema? t.typeName row)
    (tidy : Tidy d t rows recorded m.database) (sound : ¬ Lapse d t m) (hit : now.Hit) (ensured : Ensured d t m now)
    (still : Tidy d t rows recorded now.database) :
    Memory.Keeps (fun _ _ => True) (Orderly d t rows) (fun _ _ => True)
      (each (repairColumn d t.schema? t) (t.geometryColumns.map Column.name)) (now.next now.database) := by
  cases recorded with
  | nil => exact keeps_rest (m := now.next now.database) plain typed still ensured.present rfl
  | cons first others =>
    have known := tidy.known (List.cons_ne_nil _ _)
    cases ensured with
    | made absent _ => exact absurd known absent
    | known _ =>
      obtain ⟨rest, split⟩ := tidy.shorter
      have geometry : t.geometryColumns = first :: (others ++ rest) := split.symm
      have again : (recordingAt first (m.next m.database)).Hit := by
        by_contra clear
        exact sound ⟨(tidy.described plain typed fresh).mpr (List.cons_ne_nil _ _), hit,
          (written_first geometry).mpr clear⟩
      rw [geometry, List.map_cons, each]
      refine keeps_bind (keeps_repairColumn_again plain typed (by simp [geometry]) ⟨_, tidy⟩ known
        (tidy.indexed first List.mem_cons_self) (fun _ _ _ _ => trivial) ?_)
      exact fun clear => absurd again clear

theorem keeps_repair_orderly (plain : d.Plain) (typed : t.Plain d)
    (fresh : ∀ row ∈ rows, ¬ Catalog.Describes d t.schema? t.typeName row)
    (orderly : Orderly d t rows m.database) (sound : ¬ Lapse d t m) :
    Memory.Keeps (fun _ _ => True) (Orderly d t rows) (fun _ _ => True) (repair d t.schema? t) m := by
  obtain ⟨recorded, tidy⟩ := orderly
  have still {now : Memory} (ensured : Ensured d t m now) : Tidy d t rows recorded now.database := by
    cases ensured with
    | known _ => exact tidy
    | made _ _ => exact tidy.addTable
  refine keeps_repair plain typed ⟨recorded, tidy⟩ (fun _ ensured => ⟨recorded, still ensured⟩)
    (fun _ _ _ => trivial) ?_
  intro now columns ensured found
  have held := still ensured
  have resumed : Memory.Keeps (fun _ _ => True) (Orderly d t rows) (fun _ _ => True)
      (each (repairColumn d t.schema? t) (columns.map Column.name)) (now.next now.database) := by
    cases found with
    | answered _ =>
      obtain ⟨rest, split⟩ := tidy.shorter
      rw [unrecorded_rest plain typed fresh held.rows split.symm]
      exact keeps_rest (m := now.next now.database) plain typed held ensured.present split.symm
    | lost hit _ => exact keeps_lost plain typed fresh tidy sound hit ensured held
  exact resumed.imp fun result _ _ _ => by cases result <;> trivial

def Doubled (d : Dialect) (t : FeatureType) (db : Database) : Prop :=
  ¬ (Catalog.keys d t.schema? db.rows).Nodup

theorem Doubled.addRow (doubled : Doubled d t db) : Doubled d t (db.addRow row) := by
  intro distinct
  rw [Database.addRow, Catalog.keys_append] at distinct
  exact doubled (distinct.sublist (List.sublist_append_left _ _))

theorem Tidy.doubled (plain : d.Plain) (typed : t.Plain d) (tidy : Tidy d t rows recorded db)
    (member : c ∈ recorded) : Doubled d t (db.addRow (Catalog.row d t c)) := by
  intro distinct
  have again : Catalog.keys d t.schema? [Catalog.row d t c] =
      [(.ofText? t.schema?, .text t.typeName, .text c.name)] := Catalog.keys_recorded plain typed [c]
  rw [Database.addRow, tidy.rows, Catalog.keys_append, Catalog.keys_append, Catalog.keys_recorded plain typed,
    again, List.nodup_append] at distinct
  refine distinct.2.2 _ (List.mem_append_right _ (List.mem_map_of_mem member)) _ List.mem_cons_self rfl

theorem keeps_doubled (plain : d.Plain) (typed : t.Plain d) {columns : List Column}
    (geometry : ∀ c ∈ columns, c ∈ t.geometryColumns)
    (doubled : Doubled d t m.database) :
    Memory.Keeps (fun _ _ => True) (fun _ => True) (fun _ after => Doubled d t after.database)
      (each (repairColumn d t.schema? t) (columns.map Column.name)) m := by
  have restoration : Restoration d t columns fun _ db => Doubled d t db :=
    ⟨fun _ doubled _ _ => doubled, fun _ doubled _ => doubled.addRow⟩
  have repaired : Memory.Keeps (fun _ _ => True) (Doubled d t) _ _ m :=
    keeps_repairColumns plain typed geometry restoration (fun _ ⟨_, _, held⟩ => held) doubled
  exact (repaired.imp fun _ _ here _ => here).widen fun _ _ => trivial

theorem keeps_again (plain : d.Plain) (typed : t.Plain d) (tidy : Tidy d t rows (first :: others) m.database)
    (geometry : t.geometryColumns = first :: rest) (clear : ¬ (recordingAt first m).Hit) :
    Memory.Keeps (fun _ _ => True) (fun _ => True) (fun _ after => Doubled d t after.database)
      (each (repairColumn d t.schema? t) (t.geometryColumns.map Column.name)) m := by
  rw [geometry, List.map_cons, each]
  refine Memory.keeps_then (keeps_repairColumn_again plain typed (by simp [geometry]) trivial
    (tidy.known (List.cons_ne_nil _ _)) (tidy.indexed first List.mem_cons_self) (fun hit => absurd hit clear) ?_)
  intro _ now written
  have doubled : Doubled d t now.database := by
    rw [written]
    exact tidy.doubled plain typed List.mem_cons_self
  have later : ∀ c ∈ rest, c ∈ t.geometryColumns := fun c member => by simp [geometry, member]
  refine ⟨trivial, Memory.keeps_then ((keeps_doubled plain typed later doubled).imp ?_)⟩
  intro result after _ doubled
  cases result with
  | ok _ => exact ⟨trivial, doubled⟩
  | error _ => exact doubled

theorem keeps_repair_doubled (plain : d.Plain) (typed : t.Plain d)
    (fresh : ∀ row ∈ rows, ¬ Catalog.Describes d t.schema? t.typeName row)
    (orderly : Orderly d t rows m.database) (lapse : Lapse d t m) :
    Memory.Keeps (fun _ _ => True) (fun _ => True) (fun _ after => Doubled d t after.database)
      (repair d t.schema? t) m := by
  obtain ⟨recorded, tidy⟩ := orderly
  obtain ⟨first, others, rfl⟩ := List.exists_cons_of_ne_nil ((tidy.described plain typed fresh).mp lapse.recorded)
  obtain ⟨rest, split⟩ := tidy.shorter
  have known := tidy.known (List.cons_ne_nil _ _)
  have clear := (written_first split.symm).mp lapse.written
  have again := keeps_again (m := m.next m.database) plain typed tidy split.symm clear
  unfold repair
  simp only [plain.backend]
  refine Memory.keeps_then (Catalog.keeps_ensure plain typed.schema trivial ?_ ?_ ?_)
  · intro _
    refine Memory.keeps_then (keeps_missing plain typed.schema trivial ?_ ?_ ?_)
    · intro _ _
      refine Memory.keeps_then (again.imp ?_)
      intro result after _ doubled
      cases result with
      | ok _ => exact ⟨trivial, doubled⟩
      | error _ => exact doubled
    · exact fun clear => absurd lapse.lost clear
    · exact fun clear => absurd lapse.lost clear
  · exact fun absent => absurd known absent
  · exact fun absent => absurd known absent

theorem upkeep_finished (repairs : Nat) :
    ∃ reply, ((upkeep d t repairs).run Memory.connection m).result = .ok reply := by
  induction repairs with
  | zero => exact ⟨_, run_attempt.1⟩
  | succ repairs ih =>
    obtain ⟨reply, finished⟩ := ih
    exact ⟨_, (run_bind finished).1.trans run_attempt.1⟩

theorem upkeep_passed (repairs : Nat) : passed ∈ (upkeep d t (repairs + 1)).states Memory.connection m ↔
    passed ∈ (upkeep d t repairs).states Memory.connection m ∨
      passed ∈ ((Operation.repairTable t.schema? t).session d).states Memory.connection
        ((upkeep d t repairs).run Memory.connection m).state := by
  obtain ⟨reply, finished⟩ := upkeep_finished (m := m) repairs
  refine (passed_bind finished).trans ?_
  rw [states_attempt]

theorem upkeep_last (repairs : Nat) : ((upkeep d t (repairs + 1)).run Memory.connection m).state =
    (((Operation.repairTable t.schema? t).session d).run Memory.connection
      ((upkeep d t repairs).run Memory.connection m).state).state := by
  obtain ⟨reply, finished⟩ := upkeep_finished (m := m) repairs
  exact (run_bind finished).2.trans run_attempt.2

theorem upkeep_earlier (sooner : repairs ≤ later)
    (member : passed ∈ (upkeep d t repairs).states Memory.connection m) :
    passed ∈ (upkeep d t later).states Memory.connection m := by
  induction sooner with
  | refl => exact member
  | step _ ih => exact (upkeep_passed _).mpr (.inl ih)

theorem upkeep_orderly (plain : d.Plain) (typed : t.Plain d) (fresh : Fresh d t m.database) (repairs : Nat)
    (sound : ∀ earlier < repairs, ¬ Lapse d t ((upkeep d t earlier).run Memory.connection m).state) :
    ∀ passed ∈ (upkeep d t repairs).states Memory.connection m, Orderly d t m.database.rows passed.database := by
  induction repairs with
  | zero =>
    have created : Memory.Keeps (fun _ _ => True) (Orderly d t m.database.rows) (fun _ _ => True)
        ((Operation.createTable t).session d) m :=
      keeps_createTable ((keeps_create_orderly plain typed rfl).imp fun result _ _ _ => by cases result <;> trivial)
    rw [upkeep, states_attempt]
    exact (keeps_sound created fun _ _ => trivial).1
  | succ repairs ih =>
    have before := ih fun earlier sooner => sound earlier (Nat.lt_succ_of_lt sooner)
    intro passed member
    rcases (upkeep_passed repairs).mp member with earlier | within
    · exact before passed earlier
    · have start := before _ last_passed
      have repaired : Memory.Keeps (fun _ _ => True) (Orderly d t m.database.rows) (fun _ _ => True)
          ((Operation.repairTable t.schema? t).session d) ((upkeep d t repairs).run Memory.connection m).state :=
        keeps_repairTable ((keeps_repair_orderly plain typed fresh start (sound repairs (Nat.lt_succ_self _))).imp
          fun result _ _ _ => by cases result <;> trivial)
      exact (keeps_sound repaired fun _ _ => trivial).1 passed within

-- Rows are written twice exactly when a repair lapses.
theorem unduplicated_iff (plain : d.Plain) (typed : t.Plain d)
    (empty : Catalog.keys d t.schema? m.database.rows = []) (repairs : Nat) :
    (∀ passed ∈ (upkeep d t repairs).states Memory.connection m,
        (Catalog.keys d t.schema? passed.database.rows).Nodup) ↔
      ∀ earlier < repairs, ¬ Lapse d t ((upkeep d t earlier).run Memory.connection m).state := by
  have fresh := fresh_of_keys empty
  constructor
  · intro distinct earlier
    -- Up to the first lapse all is in order, and what it writes twice stays to the end.
    induction earlier using Nat.strong_induction_on with
    | _ earlier ih =>
      intro sooner lapse
      have orderly := upkeep_orderly plain typed fresh earlier
        (fun k before => ih k before (before.trans sooner)) _ last_passed
      have repaired : Memory.Keeps (fun _ _ => True) (fun _ => True) (fun _ after => Doubled d t after.database)
          ((Operation.repairTable t.schema? t).session d) ((upkeep d t earlier).run Memory.connection m).state :=
        keeps_repairTable ((keeps_repair_doubled plain typed fresh orderly lapse).imp
          fun result _ _ doubled => by cases result <;> exact doubled)
      have doubled := (keeps_sound repaired fun _ _ => trivial).2
      rw [← upkeep_last] at doubled
      exact doubled (distinct _ (upkeep_earlier sooner last_passed))
  · intro sound passed member
    obtain ⟨recorded, tidy⟩ := upkeep_orderly plain typed fresh repairs sound passed member
    exact tidy.nodup plain typed empty

theorem unduplicated_iff_sample :
    let roads := FeatureType.sample "roads" "geom"
    (∀ passed ∈ (upkeep .phoenix roads 2).states Memory.connection (.losing [4, 6]),
        (Catalog.keys .phoenix none passed.database.rows).Nodup) ↔
      ∀ earlier < 2, ¬ Lapse .phoenix roads ((upkeep .phoenix roads earlier).run Memory.connection
        (.losing [4, 6])).state := by
  exact unduplicated_iff Dialect.phoenix_plain FeatureType.roads_plain rfl 2

theorem repair_duplicates :
    let roads := FeatureType.sample "roads" "geom"
    roads.Plain .phoenix ∧ Catalog.keys .phoenix none (Memory.losing [6]).database.rows = [] ∧
      ¬ ∀ passed ∈ (upkeep .phoenix roads 1).states Memory.connection (.losing [6]),
        (Catalog.keys .phoenix none passed.database.rows).Nodup := by
  exact ⟨FeatureType.roads_plain, rfl, by decide +kernel⟩

end Table

end FeatureTables
