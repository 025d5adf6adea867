import FeatureTables.Proofs.IndexNames
import FeatureTables.Proofs.Reporting

namespace FeatureTables

open Session Memory

theorem Statement.read_dropIndex (solid : ' ' ∉ index.toList) :
    read ("DROP INDEX " ++ (index ++ (" ON " ++ rest))) = .dropIndex index := by
  have found : Text.upTo " ON ".toList (index.toList ++ " ON ".toList ++ rest.toList) = index.toList :=
    Text.upTo_first solid
  rw [read_starting "DROP INDEX " readDropIndex (by simp [starts]), readDropIndex, String.toList_append,
    String.toList_append, ← List.append_assoc, found, String.ofList_toList]

namespace Database

def dropIndex (index : String) (db : Database) : Database := { db with indexes := db.indexes.filter (·.2 ≠ index) }

variable {db after : Database} {parameters : Parameters} {table index : String}

theorem dropIndex_accepted (applied : db.apply parameters (.dropIndex index) = .ok (after, result)) :
    db.Used index ∧ db.dropIndex index = after := by
  by_cases used : index ∈ db.indexes.map (·.2)
  · simp only [apply, used, if_true, Except.ok.injEq, Prod.mk.injEq] at applied
    exact ⟨used, applied.1⟩
  · simp [apply, used] at applied

theorem dropIndex_refused (applied : db.apply parameters (.dropIndex index) = .error message) : ¬ db.Used index := by
  intro used
  simp [apply, show index ∈ db.indexes.map (·.2) from used] at applied

theorem used_addIndex : (db.addIndex table index).Used index := by simp [Used, addIndex]

theorem dropIndex_addIndex (free : ¬ db.Used index) : (db.addIndex table index).dropIndex index = db := by
  have others : (db.indexes ++ [(table, index)]).filter (·.2 ≠ index) = db.indexes := by
    have kept : db.indexes.filter (·.2 ≠ index) = db.indexes := by
      refine List.filter_eq_self.mpr fun entry listed => ?_
      have other : entry.2 ≠ index := fun same => free (same ▸ List.mem_map_of_mem listed)
      simpa using other
    rw [List.filter_append, kept]
    simp
  rw [dropIndex, addIndex, others]

end Database

namespace Index

variable {d : Dialect} {schema? : Option String} {table index : String} {m : Memory}
  {assumed : Memory → Request → Prop} {kept : Database → Prop}

theorem read_drop (plain : d.Plain) (schema : ∀ name ∈ schema?, Name.Plain name) (named : Name.Plain index) :
    Statement.read (dropSql d schema? table index) = .dropIndex (written index) := by
  rw [dropSql, plain.escaped, statement_spelled plain schema named "DROP INDEX".toList (by decide) (by decide) rfl]
  simp only [String.append_assoc]
  exact Statement.read_dropIndex ((written_plain named).absent rfl)

theorem keeps_isAutocommit {ended : Except Fault Bool → Memory → Prop} (here : kept m.database)
    (told : ∀ safe, ended (.ok safe) m) : Memory.Keeps assumed kept ended isAutocommit m := by
  unfold isAutocommit
  refine keeps_ask_bind here fun _ => ?_
  split
  · exact ⟨here, told true⟩
  · exact keeps_ask_bind here fun _ => ⟨here, told _⟩

theorem keeps_drop {ended : Except Fault Unit → Memory → Prop}
    (understood : Statement.read (dropSql d schema? table index) = statement) (here : kept m.database)
    (failed : ∀ message, m.Hit ∨ m.database.apply [] statement = .error message →
      ended (.error (.statement .execution (dropSql d schema? table index) ⟨.database, message⟩)) (m.next m.database))
    (accepted : ∀ db result, ¬ m.Hit → m.database.apply [] statement = .ok (db, result) →
      kept db ∧ ended (.ok ()) (m.next db) ∧
        ∀ f ∈ m.settings.commitFailure?, ended (.error (.passed f)) (m.next db)) :
    Memory.Keeps assumed kept ended (drop d schema? table index) m := by
  unfold drop
  refine keeps_bind (keeps_send understood here failed fun db result clear applied => ?_)
  obtain ⟨after, finished, refused⟩ := accepted db result clear applied
  refine ⟨after, keeps_bind (keeps_isAutocommit after fun safe => ?_)⟩
  cases safe with
  | true => exact ⟨after, finished⟩
  | false =>
    refine keeps_ask_bind after fun _ => ?_
    have answer : (connection.answer .commit (m.next db)) = (m.settings.commit, m.next db) := rfl
    rw [answer]
    cases commit : m.settings.commit with
    | ok => exact ⟨after, finished⟩
    | error f => exact ⟨after, refused f (Settings.commit_error.mp commit)⟩

inductive Makes (d : Dialect) (schema? : Option String) (table index : String) : Operation → Prop where
  | manager (column : String) : Makes d schema? table index (.indexCreate schema? table index column)
  | hook (t : FeatureType) (index? : Option String) (column : String) (tabled : t.typeName = table)
      (named : index?.getD (d.indexName column) = index) :
      Makes d schema? table index (.createIndex schema? t index? column)

inductive Drops (schema? : Option String) (table index : String) : Operation → Prop where
  | manager : Drops schema? table index (.indexDrop schema? table index)
  | hook (t : FeatureType) (tabled : t.typeName = table) : Drops schema? table index (.dropIndex schema? t index)

variable {call : Operation}

theorem Makes.session (phoenix : d.backend = .phoenix) (makes : Makes d schema? table index call) :
    ∃ column, call.session d = (create d schema? table index column >>= fun _ => pure .nothing) := by
  cases makes with
  | manager column => exact ⟨column, rfl⟩
  | hook t index? column tabled named =>
    subst tabled named
    refine ⟨column, ?_⟩
    simp only [Operation.session, createNamed, phoenix]

theorem Drops.session (phoenix : d.backend = .phoenix) (drops : Drops schema? table index call) :
    call.session d = (drop d schema? table index >>= fun _ => pure .nothing) := by
  cases drops with
  | manager => rfl
  | hook t tabled =>
    subst tabled
    simp only [Operation.session, dropNamed, phoenix]

structure Spelled (schema? : Option String) (table index : String) : Prop where
  schema : ∀ name ∈ schema?, Name.Plain name
  table : Name.Plain table
  index : Name.Plain index

def Free (schema? : Option String) (table index : String) (db : Database) : Prop :=
  owner schema? table index ∈ db.tables ∧ ¬ db.Used (written index)

instance : Decidable (Free schema? table index db) := inferInstanceAs (Decidable (_ ∧ _))

theorem run_make (plain : d.Plain) (spelled : Spelled schema? table index) (clear : ∀ n, m.faults n = none)
    (makes : Makes d schema? table index call) :
    let made := (call.session d).run connection m
    (Free schema? table index m.database → made.result = .ok .nothing ∧
      made.state = m.next (m.database.addIndex (owner schema? table index) (written index))) ∧
    (¬ Free schema? table index m.database →
      (∃ sql cause, made.result = .error (.statement .execution sql cause)) ∧ made.state = m.next m.database) := by
  obtain ⟨column, same⟩ := makes.session plain.backend
  have keeps : Memory.Keeps (fun _ _ => True) (fun _ => True) (fun result after =>
      (Free schema? table index m.database → result = .ok .nothing ∧
        after = m.next (m.database.addIndex (owner schema? table index) (written index))) ∧
      (¬ Free schema? table index m.database →
        (∃ sql cause, result = .error (.statement .execution sql cause)) ∧ after = m.next m.database))
      (call.session d) m := by
    rw [same]
    refine keeps_reply (keeps_send_index (read_create plain spelled.schema spelled.table spelled.index) trivial ?_ ?_)
    · intro refused cause
      refine ⟨fun free => ?_, fun _ => ⟨⟨_, _, rfl⟩, rfl⟩⟩
      rcases refused with hit | unknown | used
      · exact absurd hit (not_hit clear)
      · exact absurd free.1 unknown
      · exact absurd used free.2
    · exact fun _ known free => ⟨trivial, fun _ => ⟨rfl, rfl⟩, fun other => absurd ⟨known, free⟩ other⟩
  exact (keeps_sound keeps fun _ _ => trivial).2

theorem run_drop (plain : d.Plain) (spelled : Spelled schema? table index) (clear : ∀ n, m.faults n = none)
    (commits : m.settings.commitFailure? = none) (used : m.database.Used (written index))
    (drops : Drops schema? table index call) :
    let dropped := (call.session d).run connection m
    dropped.result = .ok .nothing ∧ dropped.state = m.next (m.database.dropIndex (written index)) := by
  have keeps : Memory.Keeps (fun _ _ => True) (fun _ => True) (fun result after =>
      result = .ok .nothing ∧ after = m.next (m.database.dropIndex (written index))) (call.session d) m := by
    rw [drops.session plain.backend]
    refine keeps_reply (keeps_drop (read_drop plain spelled.schema spelled.index) trivial ?_ ?_)
    · intro message refused
      rcases refused with hit | applied
      · exact absurd hit (not_hit clear)
      · exact absurd used (Database.dropIndex_refused applied)
    · intro db result _ applied
      obtain ⟨_, rfl⟩ := Database.dropIndex_accepted applied
      refine ⟨trivial, ⟨rfl, rfl⟩, fun f refused => ?_⟩
      rw [commits] at refused
      cases refused
  exact (keeps_sound keeps fun _ _ => trivial).2

-- A drop that fails for its statement has done nothing: the failure of a commit, which
-- comes after the statement, is not wrapped.
theorem run_drop_failed (phoenix : d.backend = .phoenix) (drops : Drops schema? table index call) (m : Memory)
    (failed : ((call.session d).run connection m).result = .error fault) (execution : fault.isExecution = true) :
    ((call.session d).run connection m).state.database = m.database ∧
      ∀ event ∈ ((call.session d).run connection m).events, event.isCommit = false := by
  constructor
  · have keeps : Memory.Keeps (fun _ _ => True) (fun _ => True) (fun result after =>
        ∀ fault, result = .error fault → fault.isExecution = true → after.database = m.database)
        (call.session d) m := by
      rw [drops.session phoenix]
      refine keeps_reply (keeps_drop rfl trivial (fun _ _ _ _ _ => rfl) fun db result _ _ => ?_)
      exact ⟨trivial, nofun, fun f _ _ same wrapped => by cases same; cases wrapped⟩
    exact (keeps_sound keeps fun _ _ => trivial).2 fault failed execution
  · have course : Operation.Course d call _ _ := Operation.session_path (run_path connection (call.session d) m)
    rcases course.parts with clean | ⟨_, answer, _, _, ended⟩
    · exact clean.uncommitted
    · rw [ended] at failed
      cases answer with
      | ok => cases failed
      | error f =>
        cases failed
        cases execution

-- Making an index adds one entry or fails without a trace, and dropping it then takes the
-- entry away: the verb is replaced in the statements of both at the same place.
theorem drop_undoes (plain : d.Plain) {make drop : Operation} (makes : Makes d schema? table index make)
    (drops : Drops schema? table index drop) :
    (Spelled schema? table index → ∀ m : Memory, (∀ n, m.faults n = none) → m.settings.commitFailure? = none →
      let made := (make.session d).run connection m
      let dropped := (drop.session d).run connection made.state
      (∃ sql cause, made.result = .error (.statement .execution sql cause)) ∧ made.state = m.next m.database ∨
        made.result = .ok .nothing ∧
          (∃ entry, made.state = m.next { m.database with indexes := m.database.indexes ++ [entry] }) ∧
          dropped.result = .ok .nothing ∧ dropped.state = made.state.next m.database) ∧
    ∀ (m : Memory) (fault : Fault), ((drop.session d).run connection m).result = .error fault →
      fault.isExecution = true → ((drop.session d).run connection m).state.database = m.database ∧
        ∀ event ∈ ((drop.session d).run connection m).events, event.isCommit = false := by
  constructor
  · intro spelled m clear commits made dropped
    obtain ⟨accepted, refused⟩ := run_make plain spelled clear makes
    -- What can not be made is refused and leaves nothing to drop.
    by_cases free : Free schema? table index m.database
    · obtain ⟨returned, state⟩ := accepted free
      have after : made.state = m.next (m.database.addIndex (owner schema? table index) (written index)) := state
      have gone := run_drop plain spelled (m := made.state) (by rw [after]; exact clear) (by rw [after]; exact commits)
        (by rw [after]; exact Database.used_addIndex) drops
      refine .inr ⟨returned, ⟨_, state⟩, gone.1, gone.2.trans ?_⟩
      rw [after]
      exact congrArg _ (Database.dropIndex_addIndex free.2)
    · exact .inl (refused free)
  · exact fun m _ => run_drop_failed plain.backend drops m

theorem drop_undoes_sample :
    let m : Memory := { Memory.losing [] with database := ⟨["UPSERT_s.roads"], [], []⟩ }
    let make : Operation := .indexCreate (some "insert_s") "roads" "geom_idx" "geom"
    let drop : Operation := .dropIndex (some "insert_s") (FeatureType.sample "roads" "geom") "geom_idx"
    let made := (make.session .phoenix).run connection m
    let dropped := (drop.session .phoenix).run connection made.state
    made.state.database.indexes = [("UPSERT_s.roads", "geom_idx")] ∧ dropped.result = .ok .nothing ∧
      dropped.state.database = m.database ∧
      ∀ event ∈ ((drop.session .phoenix).run connection (Memory.losing [1])).events, event.isCommit = false := by
  intro m make drop made dropped
  have spelled : Spelled (some "insert_s") "roads" "geom_idx" :=
    ⟨by simpa using (by decide +kernel : Name.Plain "insert_s"), by decide +kernel, by decide +kernel⟩
  have returned : made.result = .ok .nothing := by rfl
  have lost : ((drop.session .phoenix).run connection (Memory.losing [1])).result =
      .error (.statement .execution (dropSql .phoenix (some "insert_s") "roads" "geom_idx")
        ⟨.database, "connection lost"⟩) := rfl
  obtain ⟨undone, harmless⟩ := drop_undoes Dialect.phoenix_plain (.manager "geom")
    (.hook (FeatureType.sample "roads" "geom") rfl : Drops (some "insert_s") "roads" "geom_idx" drop)
  refine ⟨by decide +kernel, ?_⟩
  rcases undone spelled m (fun _ => rfl) rfl with ⟨⟨_, _, failed⟩, _⟩ | ⟨_, _, gone, state⟩
  · cases returned.symm.trans failed
  · have ended : dropped.state = made.state.next m.database := state
    have restored : dropped.state.database = m.database := by rw [ended, Memory.next_database]
    exact ⟨gone, restored, (harmless (Memory.losing [1]) _ lost rfl).2⟩

end Index

end FeatureTables
