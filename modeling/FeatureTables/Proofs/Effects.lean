import FeatureTables.Proofs.Passage
import FeatureTables.Proofs.Reading

namespace FeatureTables

open Session

namespace Database

def addTable (name : String) (db : Database) : Database := { db with tables := db.tables ++ [name] }

def addIndex (table index : String) (db : Database) : Database :=
  { db with indexes := db.indexes ++ [(table, index)] }

def addRow (row : String × Parameters) (db : Database) : Database := { db with rows := db.rows ++ [row] }

-- An index name serves one table only, whichever that is.
def Used (index : String) (db : Database) : Prop := index ∈ db.indexes.map (·.2)

instance : Decidable (Used index db) := inferInstanceAs (Decidable (index ∈ db.indexes.map (·.2)))

variable {db after : Database} {parameters : Parameters}

theorem createTable_accepted (applied : db.apply parameters (.createTable name) = .ok (after, result)) :
    name ∉ db.tables ∧ db.addTable name = after := by
  by_cases present : name ∈ db.tables
  · simp [apply, present] at applied
  · simp only [apply, present, if_false, Except.ok.injEq, Prod.mk.injEq] at applied
    exact ⟨present, applied.1⟩

theorem createTable_refused (applied : db.apply parameters (.createTable name) = .error message) :
    name ∈ db.tables := by
  by_contra absent
  simp [apply, absent] at applied

theorem createIndex_accepted (applied : db.apply parameters (.createIndex index table) = .ok (after, result)) :
    table ∈ db.tables ∧ ¬ db.Used index ∧ db.addIndex table index = after := by
  by_cases known : table ∈ db.tables
  · by_cases used : index ∈ db.indexes.map (·.2)
    · simp [apply, known, used] at applied
    · simp only [apply, known, used, not_true_eq_false, if_false, Except.ok.injEq, Prod.mk.injEq] at applied
      exact ⟨known, used, applied.1⟩
  · simp [apply, known] at applied

theorem createIndex_refused (applied : db.apply parameters (.createIndex index table) = .error message) :
    table ∉ db.tables ∨ db.Used index := by
  by_contra ready
  rw [not_or, not_not] at ready
  simp [apply, ready.1, show index ∉ db.indexes.map (·.2) from ready.2] at applied

theorem insert_accepted (applied : db.apply parameters (.insert table) = .ok (after, result)) :
    table ∈ db.tables ∧ db.addRow (table, parameters) = after := by
  by_cases known : table ∈ db.tables
  · simp only [apply, known, if_true, Except.ok.injEq, Prod.mk.injEq] at applied
    exact ⟨known, applied.1⟩
  · simp [apply, known] at applied

theorem insert_refused (applied : db.apply parameters (.insert table) = .error message) :
    table ∉ db.tables ∧ "no such table: " ++ table = message := by
  by_cases known : table ∈ db.tables
  · simp [apply, known] at applied
  · simp only [apply, known, if_false, Except.error.injEq] at applied
    exact ⟨known, applied⟩

end Database

namespace Memory

def Hit (m : Memory) : Prop := m.faults (m.executed + 1) ≠ none

instance : Decidable (Hit m) := inferInstanceAs (Decidable (_ ≠ _))

def losing (lost : List Nat) : Memory where
  settings := ⟨[], .null, none⟩
  faults := fun n => if n ∈ lost then some "connection lost" else none
  executed := 0
  database := ⟨[], [], []⟩

def calm (m : Memory) : Memory := { m with faults := fun _ => none }

def next (m : Memory) (db : Database) : Memory := { m with executed := m.executed + 1, database := db }

theorem next_database (m : Memory) (db : Database) : (m.next db).database = db := rfl

abbrev Keeps (assumed : Memory → Request → Prop) (kept : Database → Prop)
    (ended : Except Fault α → Memory → Prop) (session : Session α) (m : Memory) : Prop :=
  session.Keeps connection assumed (fun m => kept m.database) ended m

variable {assumed : Memory → Request → Prop} {kept : Database → Prop} {m : Memory}

theorem keeps_then {ended : Except Fault β → Memory → Prop} {session : Session α} {next : α → Session β}
    (keeps : Keeps assumed kept (fun result m =>
      match result with
      | .ok value => Keeps assumed kept ended (next value) m
      | .error fault => ended (.error fault) m) session m) :
    Keeps assumed kept ended (session >>= next) m := Session.keeps_bind keeps

theorem keeps_reply {ended : Except Fault β → Memory → Prop} {session : Session α} {wrap : α → β}
    (keeps : Keeps assumed kept (fun result m =>
      match result with
      | .ok value => ended (.ok (wrap value)) m
      | .error fault => ended (.error fault) m) session m) :
    Keeps assumed kept ended (session >>= fun value => pure (wrap value)) m := by
  refine keeps_then (keeps.imp fun result after here final => ?_)
  cases result with
  | ok _ => exact ⟨here, final⟩
  | error _ => exact final

theorem answer_hit (hit : m.Hit) : ∃ message,
    connection.answer (.execute sql (some parameters)) m = (.error ⟨.database, message⟩, m.next m.database) := by
  obtain ⟨message, found⟩ := Option.ne_none_iff_exists'.mp hit
  exact ⟨message, by simp [connection, answer, execute, found, next]⟩

theorem answer_refused (clear : ¬ m.Hit) (understood : Statement.read sql = statement)
    (refused : m.database.apply parameters statement = .error message) :
    connection.answer (.execute sql (some parameters)) m = (.error ⟨.database, message⟩, m.next m.database) := by
  have found : m.faults (m.executed + 1) = none := not_not.mp clear
  simp [connection, answer, execute, found, understood, refused, next]

theorem answer_accepted (clear : ¬ m.Hit) (understood : Statement.read sql = statement)
    (accepted : m.database.apply parameters statement = .ok (db, result)) :
    connection.answer (.execute sql (some parameters)) m = (.ok result, m.next db) := by
  have found : m.faults (m.executed + 1) = none := not_not.mp clear
  simp [connection, answer, execute, found, understood, accepted, next]

variable {ended : Except Fault Unit → Memory → Prop}

theorem keeps_send (understood : Statement.read sql = statement) (here : kept m.database)
    (failed : ∀ message, m.Hit ∨ m.database.apply parameters statement = .error message →
      ended (.error (.statement .execution sql ⟨.database, message⟩)) (m.next m.database))
    (accepted : ∀ db result, ¬ m.Hit → m.database.apply parameters statement = .ok (db, result) →
      kept db ∧ ended (.ok ()) (m.next db)) :
    Keeps assumed kept ended (send sql parameters) m := by
  unfold send
  refine keeps_debug_bind (keeps_noted_bind (keeps_ask_bind here fun _ => ?_))
  by_cases hit : m.Hit
  · obtain ⟨message, lost⟩ := answer_hit hit
    rw [lost]
    exact ⟨here, failed message (.inl hit)⟩
  · cases applied : m.database.apply parameters statement with
    | error message =>
      rw [answer_refused hit understood applied]
      exact ⟨here, failed message (.inr applied)⟩
    | ok reply =>
      rw [answer_accepted hit understood applied]
      have after := accepted reply.1 reply.2 hit applied
      exact ⟨after.1, fun _ => after⟩

theorem keeps_send_table (understood : Statement.read sql = .createTable name) (here : kept m.database)
    (refused : m.Hit ∨ name ∈ m.database.tables →
      ∀ cause, ended (.error (.statement .execution sql cause)) (m.next m.database))
    (made : ¬ m.Hit → name ∉ m.database.tables →
      kept (m.database.addTable name) ∧ ended (.ok ()) (m.next (m.database.addTable name))) :
    Memory.Keeps assumed kept ended (send sql parameters) m := by
  refine keeps_send understood here ?_ ?_
  · exact fun message cause => refused (cause.imp_right Database.createTable_refused) _
  · intro db result clear applied
    obtain ⟨absent, rfl⟩ := Database.createTable_accepted applied
    exact made clear absent

theorem keeps_send_index (understood : Statement.read sql = .createIndex index table)
    (here : kept m.database)
    (refused : m.Hit ∨ table ∉ m.database.tables ∨ m.database.Used index →
      ∀ cause, ended (.error (.statement .execution sql cause)) (m.next m.database))
    (made : ¬ m.Hit → table ∈ m.database.tables → ¬ m.database.Used index →
      kept (m.database.addIndex table index) ∧
        ended (.ok ()) (m.next (m.database.addIndex table index))) :
    Memory.Keeps assumed kept ended (send sql parameters) m := by
  refine keeps_send understood here ?_ ?_
  · exact fun message cause => refused (cause.imp_right Database.createIndex_refused) _
  · intro db result clear applied
    obtain ⟨known, free, rfl⟩ := Database.createIndex_accepted applied
    exact made clear known free

theorem keeps_send_row (understood : Statement.read sql = .insert table) (here : kept m.database)
    (refused : m.Hit ∨ table ∉ m.database.tables →
      ∀ cause, ended (.error (.statement .execution sql cause)) (m.next m.database))
    (made : ¬ m.Hit → table ∈ m.database.tables →
      kept (m.database.addRow (table, parameters)) ∧
        ended (.ok ()) (m.next (m.database.addRow (table, parameters)))) :
    Memory.Keeps assumed kept ended (send sql parameters) m := by
  refine keeps_send understood here ?_ ?_
  · exact fun message cause => refused (cause.imp_right fun applied => (Database.insert_refused applied).1) _
  · intro db result clear applied
    obtain ⟨known, rfl⟩ := Database.insert_accepted applied
    exact made clear known

end Memory


variable {d : Dialect} {assumed : Memory → Request → Prop} {kept : Database → Prop} {m : Memory}

open Memory

namespace Catalog

theorem keeps_isPresent {ended : Except Fault Bool → Memory → Prop} (here : kept m.database)
    (found : ended (.ok (decide (qualified d schema? ∈ m.database.tables))) m) :
    Memory.Keeps assumed kept ended (isPresent d schema?) m :=
  keeps_ask_bind here fun _ => ⟨here, found⟩

theorem keeps_ensure {ended : Except Fault Bool → Memory → Prop} (plain : d.Plain)
    (schema : Schema.Plain schema?) (here : kept m.database)
    (present : qualified d schema? ∈ m.database.tables → ended (.ok false) m)
    (made : qualified d schema? ∉ m.database.tables → ¬ m.Hit →
      kept (m.database.addTable (qualified d schema?)) ∧
        ended (.ok true) (m.next (m.database.addTable (qualified d schema?))))
    (failed : qualified d schema? ∉ m.database.tables → m.Hit →
      ∀ fault, ended (.error fault) (m.next m.database)) :
    Memory.Keeps assumed kept ended (ensure d schema?) m := by
  unfold ensure
  refine keeps_bind (keeps_isPresent here ?_)
  by_cases exists? : qualified d schema? ∈ m.database.tables
  · simpa [exists?] using ⟨here, present exists?⟩
  · simp only [exists?, decide_false, Bool.false_eq_true, if_false]
    refine keeps_bind (keeps_attempt (keeps_send_table (plain.read_catalog schema) here ?_ ?_))
    · intro refused cause
      have hit : m.Hit := refused.resolve_right exists?
      refine keeps_bind (keeps_isPresent here ?_)
      have still : qualified d schema? ∉ (m.next m.database).database.tables := exists?
      simp only [still, decide_false, Bool.false_eq_true, if_false]
      exact ⟨here, failed exists? hit _⟩
    · intro clear _
      have after := made exists? clear
      exact ⟨after.1, after⟩

theorem resolve_exact (d : Dialect) (crs : Datum) : resolve d crs = pure (code d crs) ∨
    ∃ message, resolve d crs = debug message >>= fun _ => pure (code d crs) := by
  unfold resolve code
  by_cases missing : crs = .null
  · simp [missing]
  · simp only [missing, if_false]
    cases d.registry crs with
    | ok found => exact .inl rfl
    | error f => exact .inr ⟨_, rfl⟩

theorem keeps_resolve_bind {ended : Except Fault α → Memory → Prop} {next : Datum → Session α}
    (keeps : Memory.Keeps assumed kept ended (next (code d crs)) m) :
    Memory.Keeps assumed kept ended (resolve d crs >>= next) m := by
  obtain resolved | ⟨message, resolved⟩ := resolve_exact d crs
  · rw [resolved]
    exact keeps
  · rw [resolved]
    exact keeps

theorem keeps_record {table : String} {c : Column} {ended : Except Fault CatalogEntry → Memory → Prop}
    (plain : d.Plain)
    (schema : Schema.Plain schema?) (here : kept m.database)
    (refused : m.Hit ∨ qualified d schema? ∉ m.database.tables →
      ∀ fault, ended (.error fault) (m.next m.database))
    (written : ¬ m.Hit → qualified d schema? ∈ m.database.tables →
      let db := m.database.addRow (qualified d schema?, (described d schema? table c).parameters)
      kept db ∧ ended (.ok (described d schema? table c)) (m.next db)) :
    Memory.Keeps assumed kept ended (record d schema? table c) m := by
  unfold record
  refine keeps_resolve_bind (keeps_bind (keeps_send_row (plain.read_insert schema) here ?_ ?_))
  · exact fun cause _ => refused cause _
  · intro clear present
    have after := written clear present
    exact ⟨after.1, after⟩

end Catalog

namespace Index

def Present (schema? : Option String) (table index : String) (db : Database) : Prop :=
  Database.qualified table schema? ∈ db.tables ∧ (Database.qualified table schema?, index) ∈ db.indexes

instance : Decidable (Present schema? table index db) := inferInstanceAs (Decidable (_ ∧ _))

theorem answer_indexNames (index : String) (known : Database.qualified table schema? ∈ m.database.tables) :
    ∃ names, connection.answer (.indexNames table schema?) m = (.ok names, m) ∧
      names.contains (some index) = decide (Present schema? table index m.database) := by
  refine ⟨(m.database.indexes.filter (·.1 = Database.qualified table schema?)).map fun index => some index.2, ?_, ?_⟩
  · simp [connection, answer, indexNames, known]
  · rw [Bool.eq_iff_iff]
    simp [Present, known]

theorem keeps_isPresent {ended : Except Fault Bool → Memory → Prop} (here : kept m.database)
    (found : ended (.ok (decide (Present schema? table index m.database))) m) :
    Memory.Keeps assumed kept ended (isPresent schema? table index) m := by
  unfold isPresent
  refine keeps_ask_bind here fun _ => ?_
  by_cases known : Database.qualified table schema? ∈ m.database.tables
  · obtain ⟨names, listed, same⟩ := answer_indexNames index known
    rw [listed]
    exact ⟨here, by simpa only [same] using found⟩
  · have unlisted : connection.answer (.indexNames table schema?) m =
        (.error ⟨.noSuchTable, Database.qualified table schema?⟩, m) := by
      simp [connection, answer, indexNames, known]
    rw [unlisted]
    exact ⟨here, by simpa [Present, known] using found⟩

theorem keeps_createFor {ended : Except Fault String → Memory → Prop}
    (understood : Statement.read (createSql d schema? table (d.indexName column) column) =
      .createIndex written (Database.qualified table schema?))
    (here : kept m.database)
    (refused : m.Hit ∨ Database.qualified table schema? ∉ m.database.tables ∨ m.database.Used written →
      ∀ sql cause, ended (.error (.statement .execution sql cause)) (m.next m.database))
    (made : ¬ m.Hit → Database.qualified table schema? ∈ m.database.tables → ¬ m.database.Used written →
      let db := m.database.addIndex (Database.qualified table schema?) written
      kept db ∧ ended (.ok (d.indexName column)) (m.next db)) :
    Memory.Keeps assumed kept ended (createFor d schema? table column) m := by
  unfold createFor create
  refine keeps_bind (keeps_send_index understood here ?_ ?_)
  · exact fun cause failure => refused cause _ failure
  · intro clear known free
    have after := made clear known free
    exact ⟨after.1, after⟩

theorem keeps_ensureFor {ended : Except Fault String → Memory → Prop}
    (understood : Statement.read (createSql d schema? table (d.indexName column) column) =
      .createIndex written (Database.qualified table schema?))
    (here : kept m.database)
    (made : ¬ m.Hit → Database.qualified table schema? ∈ m.database.tables → ¬ m.database.Used written →
      let db := m.database.addIndex (Database.qualified table schema?) written
      kept db ∧ ended (.ok (d.indexName column)) (m.next db))
    (found : m.Hit ∨ Database.qualified table schema? ∉ m.database.tables ∨ m.database.Used written →
      Present schema? table (d.indexName column) m.database →
      ended (.ok (d.indexName column)) (m.next m.database))
    (failed : m.Hit ∨ Database.qualified table schema? ∉ m.database.tables ∨ m.database.Used written →
      ¬ Present schema? table (d.indexName column) m.database →
      ∀ fault, ended (.error fault) (m.next m.database)) :
    Memory.Keeps assumed kept ended (ensureFor d schema? table column) m := by
  unfold ensureFor
  refine keeps_bind (keeps_attempt (keeps_createFor understood here ?_ ?_))
  · intro cause sql failure
    refine keeps_bind (keeps_isPresent here ?_)
    by_cases present : Present schema? table (d.indexName column) m.database
    · have still : Present schema? table (d.indexName column) (m.next m.database).database := present
      simp only [still, decide_true, if_true]
      exact keeps_info_bind ⟨here, found cause present⟩
    · have still : ¬ Present schema? table (d.indexName column) (m.next m.database).database := present
      simp only [still, decide_false, Bool.false_eq_true, if_false]
      exact ⟨here, failed cause present _⟩
  · intro clear known free
    have after := made clear known free
    exact ⟨after.1, after⟩

end Index

end FeatureTables
