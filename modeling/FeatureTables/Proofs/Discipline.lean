import FeatureTables.Proofs.Attribution

namespace FeatureTables

open Session

variable {α : Type} {asked? : Option Query} {d : Dialect} {op : Operation} {script : Script}

def Settings.Autocommits (s : Settings) : Prop :=
  s.options.read "isolation_level" = Index.autocommit ∨ s.isolation = Index.autocommit

namespace Index

inductive Looked : List Event → Bool → Prop where
  | options (said : options.read "isolation_level" = autocommit) : Looked [.call .options options] true
  | connection (unsaid : options.read "isolation_level" ≠ autocommit) (isolation : Datum) :
      Looked [.call .options options, .call .isolation isolation] (decide (isolation = autocommit))

theorem Looked.clean (looked : Looked events flag) : Clean events := by
  refine .idle ?_
  cases looked with
  | options => exact List.forall_mem_singleton.mpr ⟨⟨rfl, rfl⟩, rfl⟩
  | connection => exact List.forall_mem_cons.mpr ⟨⟨⟨rfl, rfl⟩, rfl⟩, List.forall_mem_singleton.mpr ⟨⟨rfl, rfl⟩, rfl⟩⟩

theorem Looked.exact (looked : Looked events flag) (answered : ∀ event ∈ events, script.Answers event) :
    flag = true ↔ script.settings.Autocommits := by
  cases looked with
  | options said =>
    have same : _ = script.settings.options := answered _ List.mem_cons_self
    exact iff_of_true rfl (.inl (same ▸ said))
  | connection unsaid =>
    have options : _ = script.settings.options := answered _ List.mem_cons_self
    have isolation : _ = script.settings.isolation := answered _ (List.mem_cons_of_mem _ List.mem_cons_self)
    rw [options] at unsaid
    simp [Settings.Autocommits, unsaid, isolation]

theorem isAutocommit_path {result : Except Fault Bool} (path : isAutocommit.Path events result) :
    ∃ flag, Looked events flag ∧ result = .ok flag := by
  obtain ⟨options, later, tail, rfl⟩ := path.ask_bind_parts
  by_cases said : options.read "isolation_level" = autocommit
  · simp only [said, if_true] at tail
    obtain ⟨rfl, rfl⟩ := tail.done_parts
    exact ⟨true, .options said, rfl⟩
  · simp only [said, if_false] at tail
    obtain ⟨isolation, rest, last, rfl⟩ := tail.ask_bind_parts
    obtain ⟨rfl, rfl⟩ := last.done_parts
    exact ⟨_, .connection said isolation, rfl⟩

theorem accounted_isAutocommit : isAutocommit.Accounted asked? := by
  intro events result path
  obtain ⟨flag, looked, rfl⟩ := isAutocommit_path path
  exact .ok looked.clean

inductive Dropped (sql : String) : List Event → Except Fault Unit → Prop where
  | refused (sent : Sent sql [] sending (.error fault)) : Dropped sql sending (.error fault)
  | kept (sent : Sent sql [] sending (.ok ())) (looked : Looked looking true) :
      Dropped sql (sending ++ looking) (.ok ())
  | committed (sent : Sent sql [] sending (.ok ())) (looked : Looked looking false) (answer : Except Failure Unit) :
      Dropped sql ((sending ++ looking) ++ [.call .commit answer]) (answer.mapError Fault.passed)

theorem drop_path {result : Except Fault Unit} (path : (drop d schema? table index).Path events result) :
    Dropped (dropSql d schema? table index) events result := by
  rcases path.bind_parts with ⟨fault, failed, rfl⟩ | ⟨_, sending, later, sent, rest, rfl⟩
  · exact .refused (send_path failed)
  rcases rest.bind_parts with ⟨fault, failed, rfl⟩ | ⟨safe, looking, last, look, ended, rfl⟩
  · obtain ⟨flag, _, same⟩ := isAutocommit_path failed
    cases same
  obtain ⟨flag, looked, same⟩ := isAutocommit_path look
  cases same
  cases safe with
  | true =>
    obtain ⟨rfl, rfl⟩ := ended.done_parts
    rw [List.append_nil]
    exact .kept (send_path sent) looked
  | false =>
    obtain ⟨answer, none, finish, rfl⟩ := ended.ask_bind_parts
    rw [← List.append_assoc]
    cases answer with
    | ok =>
      obtain ⟨rfl, rfl⟩ := finish.done_parts
      exact .committed (send_path sent) looked (.ok ())
    | error f =>
      obtain ⟨rfl, rfl⟩ := finish.fail_parts
      exact .committed (send_path sent) looked (.error f)

end Index

namespace Operation

def query? (d : Dialect) : Operation → Option Query
  | missingColumns schema? _ | repairTable schema? _ | catalogRows schema? _ =>
    some (Catalog.asking d Catalog.columnNames schema? none)
  | geometrySrid schema? _ column? | catalogSrid schema? _ column? =>
    some (Catalog.asking d ["srid"] schema? column?)
  | readFeatures t limit offset =>
    some ⟨d.select t limit offset, t.primaryKey :: t.ordinaryColumns.map Column.name⟩
  | readBounds t column => some ⟨d.bounds t column, [column]⟩
  | _ => none

def dropped? (d : Dialect) : Operation → Option String
  | dropIndex schema? t index =>
    match d.backend with
    | .phoenix => some (Index.dropSql d schema? t.typeName index)
    | .standard => none
  | indexDrop schema? table index => some (Index.dropSql d schema? table index)
  | _ => none

def Offered (d : Dialect) : Operation → Prop
  | missingColumns .. | repairTable .. => d.backend = .phoenix
  | _ => True

-- All that an operation can come to.
inductive Course (d : Dialect) (op : Operation) : List Event → Except Fault Reply → Prop where
  | regular (kept : op.dropped? d = none) (account : Account (op.query? d) events result) :
      Course d op events result
  | drop (drops : op.dropped? d = some sql) (dropped : Index.Dropped sql events ending) :
      Course d op events (ending.map fun _ => .nothing)
  | missing (absent : ¬ op.Offered d) : Course d op [] (.error .missingOperation)

theorem accounted_answer {session : Session α} {answer : α → Reply} (accounted : session.Accounted asked?) :
    (session >>= fun value => pure (answer value)).Accounted asked? :=
  accounted_bind accounted fun _ => accounted_done _

theorem drop_course {session : Session Unit} {result : Except Fault Reply} (drops : op.dropped? d = some sql)
    (dropped : ∀ events result, session.Path events result → Index.Dropped sql events result)
    (path : (session >>= fun _ => pure .nothing).Path events result) : op.Course d events result := by
  rcases path.bind_parts with ⟨fault, failed, rfl⟩ | ⟨value, earlier, later, before, after, rfl⟩
  · exact .drop drops (dropped _ _ failed)
  · obtain ⟨rfl, rfl⟩ := after.done_parts
    rw [List.append_nil]
    exact .drop drops (dropped _ _ before)

theorem session_path {result : Except Fault Reply} (path : (op.session d).Path events result) :
    op.Course d events result := by
  cases op with
  | execute => exact .regular rfl (accounted_answer accounted_send _ _ path)
  | createTable => exact .regular rfl (accounted_answer Table.accounted_create _ _ path)
  | completeTable => exact .regular rfl (accounted_answer Table.accounted_complete _ _ path)
  | readFeatures => exact .regular rfl (accounted_answer accounted_readFeatures _ _ path)
  | readBounds => exact .regular rfl (accounted_answer accounted_readBounds _ _ path)
  | missingColumns =>
    cases backend : d.backend with
    | phoenix => exact .regular rfl (accounted_answer (Table.accounted_missing backend) _ _ path)
    | standard =>
      simp only [session, Table.missing, backend] at path
      obtain ⟨rfl, rfl⟩ := path.fail_parts
      exact .missing (by simp [Offered, backend])
  | repairTable =>
    cases backend : d.backend with
    | phoenix => exact .regular rfl (accounted_answer (Table.accounted_repair backend) _ _ path)
    | standard =>
      simp only [session, Table.repair, backend] at path
      obtain ⟨rfl, rfl⟩ := path.fail_parts
      exact .missing (by simp [Offered, backend])
  | geometrySrid => exact .regular rfl (accounted_answer Table.accounted_srid _ _ path)
  | createIndex => exact .regular rfl (accounted_answer Index.accounted_createNamed _ _ path)
  | dropIndex schema? t index =>
    simp only [session, Index.dropNamed] at path
    cases backend : d.backend with
    | phoenix =>
      simp only [backend] at path
      exact drop_course (by simp [dropped?, backend]) (fun _ _ => Index.drop_path) path
    | standard =>
      simp only [backend] at path
      exact .regular (by simp [dropped?, backend]) (accounted_answer accounted_send _ _ path)
  | catalogPresent => exact .regular rfl (accounted_answer Catalog.accounted_isPresent _ _ path)
  | ensureCatalog => exact .regular rfl (accounted_answer Catalog.accounted_ensure _ _ path)
  | resolveCrs => exact .regular rfl (accounted_answer Catalog.accounted_resolve _ _ path)
  | recordColumn => exact .regular rfl (accounted_answer Catalog.accounted_record _ _ path)
  | catalogSrid => exact .regular rfl (accounted_answer Catalog.accounted_srid _ _ path)
  | catalogRows => exact .regular rfl (accounted_answer Catalog.accounted_rows _ _ path)
  | indexCreate => exact .regular rfl (accounted_answer Index.accounted_create _ _ path)
  | indexCreateFor => exact .regular rfl (accounted_answer Index.accounted_createFor _ _ path)
  | indexEnsure => exact .regular rfl (accounted_answer Index.accounted_ensureFor _ _ path)
  | indexPresent => exact .regular rfl (accounted_answer Index.accounted_isPresent _ _ path)
  | indexCreateGeometry =>
    exact .regular rfl (accounted_answer Index.accounted_createGeometryIndexes _ _ path)
  | indexDrop => exact drop_course rfl (fun _ _ => Index.drop_path) path
  | autocommit => exact .regular rfl (accounted_answer Index.accounted_isAutocommit _ _ path)

def Commits (op : Operation) (d : Dialect) (settings : Settings) (events : List Event) : Prop :=
  (∃ sql ∈ op.dropped? d, ∃ reply, .call (.execute sql (some [])) (.ok reply) ∈ events) ∧ ¬ settings.Autocommits

theorem Course.parts (course : op.Course d events result) :
    Clean events ∨ ∃ earlier answer, Clean earlier ∧ events = earlier ++ [.call .commit answer] ∧
      result = (answer.mapError Fault.passed).map fun _ => .nothing := by
  cases course with
  | regular _ account => exact .inl account.clean
  | missing => exact .inl .nil
  | drop _ dropped =>
    cases dropped with
    | refused sent => exact .inl sent.clean
    | kept sent looked => exact .inl (sent.clean.append looked.clean)
    | committed sent looked answer => exact .inr ⟨_, answer, sent.clean.append looked.clean, rfl, rfl⟩

theorem Course.commits_iff (course : op.Course d events result)
    (answered : ∀ event ∈ events, script.Answers event) :
    (∃ event ∈ events, event.isCommit = true) ↔ op.Commits d script.settings events := by
  cases course with
  | regular kept account =>
    refine iff_of_false account.clean.commitless ?_
    rintro ⟨⟨sql, drops, _⟩, _⟩
    simp [kept] at drops
  | missing => exact iff_of_false Clean.nil.commitless fun ⟨⟨_, _, _, member⟩, _⟩ => nomatch member
  | drop drops dropped =>
    cases dropped with
    | refused sent =>
      refine iff_of_false sent.clean.commitless ?_
      rintro ⟨⟨sql, _, reply, member⟩, _⟩
      exact sent.unanswered member
    | kept sent looked =>
      refine iff_of_false (sent.clean.append looked.clean).commitless fun commits => commits.2 ?_
      exact (looked.exact fun event member => answered event (List.mem_append_right _ member)).mp rfl
    | committed sent looked answer =>
      obtain ⟨reply, member⟩ := sent.returned
      refine iff_of_true ⟨.call .commit answer, by simp, rfl⟩ ⟨⟨_, drops, reply, by simp [member]⟩, fun safe => ?_⟩
      have looks := looked.exact fun event member => answered event (by simp [member])
      cases looks.mpr safe

-- Results are given back whatever happens, and a commit is made once, at the end, where a
-- dropped index needs it.
theorem disciplined (d : Dialect) (op : Operation) (script : Script) :
    let events := ((op.session d).run Script.connection script).events
    Released events ∧
      ((∃ event ∈ events, event.isCommit = true) ↔ op.Commits d script.settings events) ∧
      ∀ before answer after, events = before ++ .call .commit answer :: after →
        (∀ event ∈ before, event.isCommit = false) ∧ ∀ event ∈ after, event.isCall = false := by
  intro events
  have course : op.Course d events _ := session_path (run_path Script.connection (op.session d) script)
  refine ⟨?_, course.commits_iff (Script.run_answered _ script), ?_⟩
  · rcases course.parts with clean | ⟨earlier, answer, clean, ended, _⟩
    · exact clean.released
    · rw [ended]
      exact clean.released.append (.idle (List.forall_mem_singleton.mpr ⟨rfl, rfl⟩))
  · intro before answer after here
    rcases course.parts with clean | ⟨earlier, last, clean, ended, _⟩
    · cases clean.uncommitted (.call .commit answer) (by simp [here])
    -- The one commit is the last event of all, so the one met here is that.
    · rcases split_append (ended.symm.trans here) with ⟨rest, within, _⟩ | ⟨rest, rfl, within⟩
      · cases clean.uncommitted (.call .commit answer) (by simp [within])
      · cases rest with
        | nil =>
          cases within
          exact ⟨by simpa using clean.uncommitted, List.forall_mem_nil _⟩
        | cons => simp at within

end Operation

end FeatureTables
