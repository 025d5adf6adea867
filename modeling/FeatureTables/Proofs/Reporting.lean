import FeatureTables.Proofs.Discipline

namespace FeatureTables

open Session

variable {State : Type} {d : Dialect} {op : Operation} {script : Script}

namespace Fault

def isExecution : Fault → Bool
  | statement .. | metadata _ => true
  | _ => false

def isDecoding : Fault → Bool
  | undecodable _ | notPolygon _ => true
  | _ => false

end Fault

namespace Script

structure OnlyDatabase (script : Script) : Prop where
  executions : ∀ f, .error f ∈ script.executions → f.isDatabase = true
  endings : ∀ reply, .ok reply ∈ script.executions → ∀ f ∈ reply.failure?, f.isDatabase = true
  tables : ∀ f, .error f ∈ script.tables → f.isDatabase = true
  indexes : ∀ f, .error f ∈ script.indexes → f.isDatabase = true
  commit : ∀ f ∈ script.settings.commitFailure?, f.isDatabase = true

end Script

theorem Settings.commit_error {s : Settings} : s.commit = .error cause ↔ s.commitFailure? = some cause := by
  unfold commit
  cases s.commitFailure? <;> simp

theorem Script.OnlyDatabase.met (only : script.OnlyDatabase) (answered : script.Answers event)
    (met : event.failure? = some f) : f.isDatabase = true := by
  rcases event with _ | ⟨request, answer⟩
  · cases met
  cases request with
  | execute sql parameters? =>
    cases answer with
    | error other =>
      cases met
      exact only.executions f (answered.resolve_left nofun)
    | ok reply =>
      rcases answered with same | listed
      · cases same
        cases met
      · exact only.endings reply listed f met
  | hasTable =>
    cases answer with
    | error other =>
      cases met
      exact only.tables f (answered.resolve_left nofun)
    | ok => cases met
  | indexNames =>
    cases answer with
    | error other =>
      cases met
      exact only.indexes f (answered.resolve_left nofun)
    | ok => cases met
  | commit =>
    cases answer with
    | error other =>
      cases met
      exact only.commit f (Settings.commit_error.mp (Eq.symm answered))
    | ok => cases met
  | close | options | isolation => cases met

namespace Operation

theorem Course.stems {fault : Fault} (course : op.Course d events result) (failed : result = .error fault) :
    fault.Stems (op.query? d) events ∨ fault = .missingOperation ∧ ¬ op.Offered d ∨
      ∃ cause, fault = .passed cause ∧ .call .commit (.error cause) ∈ events := by
  cases course with
  | regular _ account => exact .inl (account.stems fault failed)
  | missing absent =>
    cases failed
    exact .inr (.inl ⟨rfl, absent⟩)
  | drop _ dropped =>
    cases dropped with
    | refused sent =>
      cases failed
      exact .inl (sent.account.stems _ rfl)
    | kept => cases failed
    | committed sent looked answer =>
      cases answer with
      | ok => cases failed
      | error cause =>
        cases failed
        exact .inr (.inr ⟨cause, rfl, by simp⟩)

-- A failed commit is the one failure of the database that is passed on as it is.
theorem Course.passed_iff (course : op.Course d events result)
    (answered : ∀ event ∈ events, script.Answers event) (only : script.OnlyDatabase) :
    result = .error (.passed cause) ↔
      op.Commits d script.settings events ∧ script.settings.commitFailure? = some cause := by
  constructor
  · intro failed
    rcases course.stems failed with ⟨other, event, member, met⟩ | ⟨missing, _⟩ | ⟨_, same, member⟩
    · simp [only.met (answered event member) met] at other
    · cases missing
    · cases same
      exact ⟨(course.commits_iff answered).mp ⟨_, member, rfl⟩, Settings.commit_error.mp (answered _ member).symm⟩
  · rintro ⟨commits, refused⟩
    obtain ⟨event, member, commit⟩ := (course.commits_iff answered).mpr commits
    rcases course.parts with clean | ⟨earlier, answer, clean, rfl, rfl⟩
    · simp [clean.uncommitted event member] at commit
    · have same : answer = script.settings.commit := answered (.call .commit answer) (by simp)
      rw [same, Settings.commit_error.mpr refused]
      rfl

-- Where only the database fails and rows fit their queries, every fault is one of a
-- statement or of a geometry, save for a commit, a curve, and a name that is no key.
theorem faults_reported (d : Dialect) (op : Operation) (script : Script) (offered : op.Offered d)
    (only : script.OnlyDatabase)
    (fits : ∀ query ∈ op.query? d, ∀ row,
      Delivered query row ((op.session d).run Script.connection script).events → row.length = query.columns.length) :
    let outcome := (op.session d).run Script.connection script
    (∀ cause, outcome.result = .error (.passed cause) ↔
      op.Commits d script.settings outcome.events ∧ script.settings.commitFailure? = some cause) ∧
    ∀ fault, outcome.result = .error fault → fault.isExecution = true ∨ fault.isDecoding = true ∨
      (∃ cause, fault = .passed cause) ∨
      ∃ query ∈ op.query? d, ∃ row, Delivered query row outcome.events ∧
        (fault = .nonlinear ∧ (∃ cell ∈ row, cell.HoldsCurve) ∨
          fault = .notKey ∧ ∃ cell ∈ row[2]?, cell.isKey = false) := by
  intro outcome
  have course : op.Course d outcome.events outcome.result := session_path (run_path _ _ _)
  refine ⟨fun cause => course.passed_iff (Script.run_answered _ script) only, ?_⟩
  intro fault failed
  rcases course.stems failed with stems | ⟨rfl, absent⟩ | ⟨cause, rfl, _⟩
  · cases fault with
    | statement | metadata => exact .inl rfl
    | undecodable | notPolygon => exact .inr (.inl rfl)
    | passed cause => exact .inr (.inr (.inl ⟨cause, rfl⟩))
    | nonlinear =>
      obtain ⟨query, asked, row, delivered, curve⟩ := stems
      exact .inr (.inr (.inr ⟨query, asked, row, delivered, .inl ⟨rfl, curve⟩⟩))
    | notKey =>
      obtain ⟨query, asked, row, delivered, unkeyed⟩ := stems
      exact .inr (.inr (.inr ⟨query, asked, row, delivered, .inr ⟨rfl, unkeyed⟩⟩))
    | rowWidth | emptyRow =>
      obtain ⟨query, asked, row, delivered, misfit⟩ := stems
      exact absurd (fits query asked row delivered) misfit
    | catalog | notSearchable | unknownBackend | missingOperation => cases stems
  · exact absurd offered absent
  · exact .inr (.inr (.inl ⟨cause, rfl⟩))

theorem faults_reported_bounds :
    let roads : FeatureType := ⟨"roads", [], none, .null, "fid"⟩
    let lost : Failure := ⟨.database, "connection lost"⟩
    let reply : ResultSet := ⟨["geom"], [[.null], [.null]], some lost⟩
    let script : Script := ⟨⟨[], .text "READ COMMITTED", some lost⟩, [.ok reply], [], []⟩
    let op : Operation := .readBounds roads "geom"
    let outcome := (op.session .phoenix).run Script.connection script
    script.OnlyDatabase ∧
      (∃ query ∈ op.query? .phoenix, Delivered query [.null] outcome.events ∧
        outcome.result = .error (.statement .bounds query.sql lost)) ∧
      ∀ cause, outcome.result ≠ .error (.passed cause) := by
  intro roads lost reply script op outcome
  have only : script.OnlyDatabase := ⟨by simp [script], by simp [script, reply, lost, Failure.isDatabase], nofun,
    nofun, by simp [script, lost, Failure.isDatabase]⟩
  have fits : ∀ query ∈ op.query? .phoenix, ∀ row, Delivered query row outcome.events →
      row.length = query.columns.length := by
    rintro _ ⟨⟩ row ⟨parameters?, given, member, listed⟩
    rcases Script.run_answered _ _ _ member with same | same
    · cases same
      cases listed
    · cases List.mem_singleton.mp same
      simp only [reply, List.mem_cons, List.not_mem_nil, or_false, or_self] at listed
      exact listed ▸ rfl
  refine ⟨only, ⟨_, rfl, ?_, rfl⟩, ?_⟩
  · exact ⟨none, reply, List.mem_cons_of_mem _ List.mem_cons_self, List.mem_cons_self⟩
  · intro cause failed
    obtain ⟨⟨⟨_, drops, _⟩, _⟩, _⟩ := ((faults_reported .phoenix op script trivial only fits).1 cause).mp failed
    cases drops

theorem commit_unwrapped :
    let roads : FeatureType := ⟨"roads", [], none, .null, "fid"⟩
    let lost : Failure := ⟨.database, "connection lost"⟩
    let script : Script := ⟨⟨[], .text "READ COMMITTED", some lost⟩, [], [], []⟩
    let op : Operation := .dropIndex none roads "geom_idx"
    script.OnlyDatabase ∧ op.query? .phoenix = none ∧ lost.isDatabase = true ∧
      ((op.session .phoenix).run Script.connection script).result = .error (.passed lost) := by
  intro roads lost script op
  exact ⟨⟨nofun, nofun, nofun, nofun, by simp [script, lost, Failure.isDatabase]⟩, rfl, rfl, rfl⟩

-- A fault of a statement names the statement that was sent last and failed; one without a
-- statement comes of the look at the tables that ended the operation.
theorem faults_attributed (connection : Connection State) (d : Dialect) (op : Operation) (state : State)
    {fault : Fault} (failed : ((op.session d).run connection state).result = .error fault)
    (execution : fault.isExecution = true) :
    let events := ((op.session d).run connection state).events
    (∀ sql, fault.sql? = some sql → ∃ before parameters? answer after cause,
      events = before ++ .call (.execute sql parameters?) answer :: after ∧
      Event.failure? (.call (.execute sql parameters?) answer) = some cause ∧ cause.isDatabase = true ∧
      ∀ event ∈ after, event.isExecute = false) ∧
    (fault.sql? = none → ∃ before name schema? after cause,
      events = before ++ .call (.hasTable name schema?) (.error cause) :: after ∧ cause.isDatabase = true ∧
      ∀ event ∈ after, event.isCall = false) := by
  intro events
  have course : op.Course d events _ := session_path (run_path connection (op.session d) state)
  rcases course.stems failed with stems | ⟨rfl, _⟩ | ⟨_, rfl, _⟩
  · cases fault with
    | statement purpose text cause =>
      obtain ⟨database, before, parameters?, answer, after, same, met, quiet⟩ := stems
      refine ⟨?_, nofun⟩
      rintro sql ⟨⟩
      refine ⟨before, parameters?, answer, after, cause, same, ?_, database, quiet⟩
      rcases met with rfl | ⟨reply, rfl, ended⟩
      · rfl
      · exact ended
    | metadata cause =>
      obtain ⟨database, before, name, schema?, after, same, quiet⟩ := stems
      exact ⟨nofun, fun _ => ⟨before, name, schema?, after, cause, same, database, quiet⟩⟩
    | _ => cases execution
  · cases execution
  · cases execution

theorem faults_attributed_ensure :
    let refused : Failure := ⟨.database, "name is taken"⟩
    let script : Script := ⟨⟨[], .text "READ COMMITTED", none⟩, [.error refused], [], [.ok [some "other_idx"]]⟩
    let outcome := ((indexEnsure none "roads" "geom").session .phoenix).run Script.connection script
    let sql := Index.createSql .phoenix none "roads" (Dialect.phoenix.indexName "geom") "geom"
    outcome.result = .error (.statement .execution sql refused) ∧
      outcome.events.getLast? = some (.call (.indexNames "roads" none) (.ok [some "other_idx"])) ∧
      ∃ before parameters? answer after cause,
        outcome.events = before ++ .call (.execute sql parameters?) answer :: after ∧
        Event.failure? (.call (.execute sql parameters?) answer) = some cause ∧ cause.isDatabase = true ∧
        ∀ event ∈ after, event.isExecute = false := by
  intro refused script outcome sql
  have failed : outcome.result = .error (.statement .execution sql refused) := rfl
  exact ⟨failed, rfl, (faults_attributed Script.connection .phoenix _ script failed rfl).1 sql rfl⟩

end Operation

end FeatureTables
