import FeatureTables.Proofs.Rows
import FeatureTables.Proofs.Sharing

namespace FeatureTables

open Session Memory

namespace Database

structure Grows (before after : Database) : Prop where
  tables : before.tables ⊆ after.tables
  indexes : before.indexes ⊆ after.indexes
  rows : before.rows ⊆ after.rows

theorem Grows.refl (db : Database) : Grows db db := ⟨fun _ => id, fun _ => id, fun _ => id⟩

theorem Grows.trans {first second third : Database} (one : Grows first second) (two : Grows second third) :
    Grows first third :=
  ⟨List.Subset.trans one.tables two.tables, List.Subset.trans one.indexes two.indexes,
    List.Subset.trans one.rows two.rows⟩

theorem grows_addTable {db : Database} : Grows db (db.addTable name) :=
  ⟨List.subset_append_left _ _, fun _ => id, fun _ => id⟩

theorem grows_addIndex {db : Database} : Grows db (db.addIndex table index) :=
  ⟨fun _ => id, List.subset_append_left _ _, fun _ => id⟩

theorem grows_addRow {db : Database} : Grows db (db.addRow row) :=
  ⟨fun _ => id, fun _ => id, List.subset_append_left _ _⟩

end Database

namespace Memory

def accord (holds : Database → Prop) : Accord Memory where
  sound := fun m => (∀ n, m.faults n = none) ∧ holds m.database
  onwards := fun before after => before.database.Grows after.database
  refl := fun m => Database.Grows.refl m.database
  trans := Database.Grows.trans

abbrev Abides (holds : Database → Prop) (ended : Except Fault α → Memory → Prop) (session : Session α)
    (m : Memory) : Prop := session.Abides connection (accord holds) ended m

abbrev Henceforth (holds : Database → Prop) (m : Memory) (fact : Memory → Prop) : Prop :=
  (accord holds).Henceforth m fact

variable {holds : Database → Prop} {m : Memory}

theorem abides_send {ended : Except Fault Unit → Memory → Prop} (understood : Statement.read sql = statement)
    (accepted : Henceforth holds m fun now => ∀ db result,
      now.database.apply parameters statement = .ok (db, result) →
      holds db ∧ now.database.Grows db ∧ Henceforth holds (now.next db) (ended (.ok ())))
    (refused : Henceforth holds m fun now => ∀ message,
      now.database.apply parameters statement = .error message →
      Henceforth holds now (ended (.error (.statement .execution sql ⟨.database, message⟩)))) :
    Abides holds ended (send sql parameters) m := by
  unfold send
  refine abides_debug_bind (abides_noted_bind (abides_ask_bind ?_))
  intro now moved here
  have clear : ¬ now.Hit := not_not.mpr (here.1 _)
  cases applied : now.database.apply parameters statement with
  | error message =>
    rw [answer_refused clear understood applied]
    exact ⟨here, Database.Grows.refl _, refused now moved here message applied⟩
  | ok reply =>
    rw [answer_accepted clear understood applied]
    obtain ⟨kept, grown, final⟩ := accepted now moved here reply.1 reply.2 applied
    refine ⟨⟨here.1, kept⟩, grown, ?_⟩
    intro later further quiet
    exact ⟨quiet, Database.Grows.refl _, final.later further⟩

def Refused (sql : String) (result : Except Fault α) : Prop :=
  ∀ fault, result = .error fault → ∃ cause, fault = .statement .execution sql cause

theorem abides_send_table (understood : Statement.read sql = .createTable name)
    (keeps : ∀ db, holds db → holds (db.addTable name)) :
    Abides holds (fun result now => Refused sql result ∧ name ∈ now.database.tables) (send sql parameters) m := by
  refine abides_send understood ?_ ?_
  · intro now _ here db result applied
    obtain ⟨_, rfl⟩ := Database.createTable_accepted applied
    refine ⟨keeps _ here.2, Database.grows_addTable, ?_⟩
    intro later further _
    exact ⟨nofun, further.tables (List.mem_append_right _ List.mem_cons_self)⟩
  · intro now _ _ message applied later further _
    refine ⟨?_, further.tables (Database.createTable_refused applied)⟩
    rintro _ ⟨⟩
    exact ⟨_, rfl⟩

theorem abides_send_index (understood : Statement.read sql = .createIndex index table)
    (known : ∀ db, holds db → table ∈ db.tables)
    (owned : ∀ db, holds db → db.Used index → (table, index) ∈ db.indexes)
    (keeps : ∀ db, holds db → holds (db.addIndex table index)) :
    Abides holds (fun result now => Refused sql result ∧ (table, index) ∈ now.database.indexes)
      (send sql parameters) m := by
  refine abides_send understood ?_ ?_
  · intro now _ here db result applied
    obtain ⟨_, _, rfl⟩ := Database.createIndex_accepted applied
    refine ⟨keeps _ here.2, Database.grows_addIndex, ?_⟩
    intro later further _
    exact ⟨nofun, further.indexes (List.mem_append_right _ List.mem_cons_self)⟩
  · intro now _ here message applied later further _
    have used := (Database.createIndex_refused applied).resolve_left (not_not.mpr (known now.database here.2))
    refine ⟨?_, further.indexes (owned now.database here.2 used)⟩
    rintro _ ⟨⟩
    exact ⟨_, rfl⟩

theorem abides_send_row (understood : Statement.read sql = .insert table)
    (known : Henceforth holds m fun now => table ∈ now.database.tables)
    (keeps : Henceforth holds m fun now => holds (now.database.addRow (table, parameters))) :
    Abides holds (fun result now => result = .ok () ∧ (table, parameters) ∈ now.database.rows)
      (send sql parameters) m := by
  refine abides_send understood ?_ ?_
  · intro now moved here db result applied
    obtain ⟨_, rfl⟩ := Database.insert_accepted applied
    refine ⟨keeps now moved here, Database.grows_addRow, ?_⟩
    intro later further _
    exact ⟨rfl, further.rows (List.mem_append_right _ List.mem_cons_self)⟩
  · exact fun now moved here message applied =>
      absurd (known now moved here) (Database.insert_refused applied).1

end Memory

variable {d : Dialect} {holds : Database → Prop} {m : Memory}

namespace Catalog

theorem abides_isPresent_bind {ended : Except Fault α → Memory → Prop} {next : Bool → Session α}
    (step : Henceforth holds m fun now =>
      Abides holds ended (next (decide (qualified d schema? ∈ now.database.tables))) now) :
    Abides holds ended (isPresent d schema? >>= next) m :=
  fun now moved here => ⟨here, Database.Grows.refl _, step now moved here⟩

theorem abides_ensure (plain : d.Plain) (schema : Schema.Plain schema?)
    (keeps : ∀ db, holds db → holds (db.addTable (qualified d schema?))) :
    Abides holds (fun result now => result.isOk ∧ qualified d schema? ∈ now.database.tables)
      (ensure d schema?) m := by
  unfold ensure
  refine abides_isPresent_bind ?_
  intro now moved here
  by_cases present : qualified d schema? ∈ now.database.tables
  · simp only [present, decide_true, if_true]
    exact fun later further _ => ⟨rfl, further.tables present⟩
  · simp only [present, decide_false, Bool.false_eq_true, if_false]
    refine abides_attempt_bind here (abides_send_table (plain.read_catalog schema) keeps) ?_
    intro result later _ sound always
    cases result with
    | ok _ => exact fun last further kept => ⟨rfl, (always last further kept).2⟩
    | error fault =>
      obtain ⟨cause, rfl⟩ := (always.now sound).1 fault rfl
      refine abides_isPresent_bind ?_
      intro last further kept
      have found := (always last further kept).2
      simp only [found, decide_true, if_true]
      exact abides_info_bind fun final onwards _ => ⟨rfl, onwards.tables found⟩

theorem abides_resolve_bind {ended : Except Fault α → Memory → Prop} {next : Datum → Session α}
    (abides : Abides holds ended (next (code d crs)) m) : Abides holds ended (resolve d crs >>= next) m := by
  obtain resolved | ⟨message, resolved⟩ := resolve_exact d crs
  · rw [resolved]
    exact abides
  · rw [resolved]
    exact abides

theorem abides_record {table : String} {c : Column} (plain : d.Plain) (schema : Schema.Plain schema?)
    (sound : (accord holds).sound m)
    (known : Henceforth holds m fun now => qualified d schema? ∈ now.database.tables)
    (keeps : Henceforth holds m fun now =>
      holds (now.database.addRow (qualified d schema?, (described d schema? table c).parameters))) :
    Abides holds (fun result now => result.isOk ∧
      (qualified d schema?, (described d schema? table c).parameters) ∈ now.database.rows)
      (record d schema? table c) m := by
  unfold record
  refine abides_resolve_bind (abides_bind sound (abides_send_row (plain.read_insert schema) known keeps) ?_ ?_)
  · intro fault now _ always later further kept
    cases (always later further kept).1
  · intro _ now _ _ always
    exact fun later further kept => ⟨rfl, (always later further kept).2⟩

theorem abides_query {table : String} {column? : Option String} (plain : d.Plain) (schema : Schema.Plain schema?) (selectable : Selectable selected)
    (known : Henceforth holds m fun now => qualified d schema? ∈ now.database.tables) :
    Abides holds (fun result now => (accord holds).Seen m now fun seen =>
        result = .ok (seen.database.select (selection d selected schema? column?)
          (selectParameters schema? table column?)).rows)
      (query d selected schema? table column?) m := by
  have understood : Statement.read (select d selected schema? column?) =
      .select (qualified d schema?) (selection d selected schema? column?) := plain.read_select schema selectable
  unfold query
  refine abides_debug_bind (abides_debug_bind ?_)
  unfold Session.query
  refine abides_ask_bind ?_
  intro seen moved here
  have accepted : seen.database.apply (selectParameters schema? table column?)
      (.select (qualified d schema?) (selection d selected schema? column?)) =
      .ok (seen.database, seen.database.select (selection d selected schema? column?)
        (selectParameters schema? table column?)) := by
    simp [Database.apply, known seen moved here]
  rw [answer_accepted (not_not.mpr (here.1 _)) understood accepted]
  refine ⟨here, Database.Grows.refl _, ?_⟩
  intro now further quiet
  refine ⟨quiet, Database.Grows.refl _, ?_⟩
  exact fun last onwards _ => ⟨seen, here, moved, further.trans onwards, rfl⟩

theorem abides_rows {table : String} (plain : d.Plain) (schema : Schema.Plain schema?) (sound : (accord holds).sound m)
    (known : Henceforth holds m fun now => qualified d schema? ∈ now.database.tables) :
    Abides holds (fun result now => (accord holds).Seen m now fun seen =>
        result = .ok ((rowsOf d schema? table seen.database).map readBack))
      (rows d schema? table) m := by
  unfold rows
  refine abides_attempt_bind sound (abides_query plain schema columnNames_selectable known) ?_
  intro result now _ here always
  obtain ⟨seen, kept, moved, further, rfl⟩ := always.now here
  rw [select_table]
  simp only [readRows_width]
  exact fun last onwards _ => ⟨seen, kept, moved, further.trans onwards, rfl⟩

end Catalog

namespace Index

theorem abides_isPresent_bind {table : String} {ended : Except Fault α → Memory → Prop} {next : Bool → Session α}
    (known : ∀ db, holds db → Database.qualified table schema? ∈ db.tables)
    (step : Henceforth holds m fun now =>
      Abides holds ended (next (decide (Present schema? table index now.database))) now) :
    Abides holds ended (isPresent schema? table index >>= next) m := by
  intro now moved here
  obtain ⟨names, listed, same⟩ := answer_indexNames index (known now.database here.2)
  have found : Memory.Abides holds ended (next (decide (Present schema? table index now.database))) now :=
    step now moved here
  rw [← same] at found
  rw [listed]
  exact ⟨here, Database.Grows.refl _, found⟩

theorem abides_ensureFor {table : String} (plain : d.Plain) (named : Named d schema? table column)
    (known : ∀ db, holds db → Database.qualified table schema? ∈ db.tables)
    (owned : ∀ db, holds db → db.Used (d.indexName column) →
      (Database.qualified table schema?, d.indexName column) ∈ db.indexes)
    (keeps : ∀ db, holds db → holds (db.addIndex (Database.qualified table schema?) (d.indexName column)))
    (sound : (accord holds).sound m) :
    Abides holds (fun result now => result.isOk ∧ Present schema? table (d.indexName column) now.database)
      (ensureFor d schema? table column) m := by
  have created : Abides holds (fun result now =>
      Refused (createSql d schema? table (d.indexName column) column) result ∧
        (Database.qualified table schema?, d.indexName column) ∈ now.database.indexes)
      (createFor d schema? table column) m := by
    unfold createFor create
    refine abides_bind sound (abides_send_index (plain.read_index named) known owned keeps) ?_ ?_
    · intro fault now _ always later further kept
      obtain ⟨refused, made⟩ := always later further kept
      refine ⟨?_, made⟩
      rintro _ ⟨⟩
      exact refused fault rfl
    · exact fun _ now _ _ always later further kept => ⟨nofun, (always later further kept).2⟩
  unfold ensureFor
  refine abides_attempt_bind sound created ?_
  intro result now _ here always
  cases result with
  | ok _ =>
    exact fun later further kept => ⟨rfl, known later.database kept.2, (always later further kept).2⟩
  | error fault =>
    obtain ⟨cause, rfl⟩ := (always.now here).1 fault rfl
    refine abides_isPresent_bind known ?_
    intro later further kept
    have found : Present schema? table (d.indexName column) later.database :=
      ⟨known later.database kept.2, (always later further kept).2⟩
    simp only [found, decide_true, if_true]
    exact abides_info_bind fun last onwards quiet => ⟨rfl, known last.database quiet.2, onwards.indexes found.2⟩

end Index

end FeatureTables
