import FeatureTables.Connection.Scripted
import FeatureTables.Operation.Execution

namespace FeatureTables

variable {State α β : Type}

namespace Event

def isCall : Event → Bool
  | note .. => false
  | call .. => true

def isExecute : Event → Bool
  | call (.execute ..) _ => true
  | _ => false

def isClose : Event → Bool
  | call .close _ => true
  | _ => false

def isCommit : Event → Bool
  | call .commit _ => true
  | _ => false

def failure? : Event → Option Failure
  | call (.execute ..) (.error f) => some f
  | call (.execute ..) (.ok result) => result.failure?
  | call .commit (.error f) => some f
  | call (.hasTable ..) (.error f) => some f
  | call (.indexNames ..) (.error f) => some f
  | _ => none

end Event

namespace Session

-- One way through a session, whatever it is answered: what happens, and how it ends.
inductive Path : Session α → List Event → Except Fault α → Prop where
  | done : Path (.done value) [] (.ok value)
  | fail : Path (.fail fault) [] (.error fault)
  | note : Path rest events result → Path (.note level message rest) (.note level message :: events) result
  | call {resume : request.Answer → Session α} {answer : request.Answer} : Path (resume answer) events result →
      Path (.call request resume) (.call request answer :: events) result

theorem run_path (connection : Connection State) (session : Session α) (state : State) :
    session.Path (session.run connection state).events (session.run connection state).result := by
  induction session generalizing state with
  | done => exact .done
  | fail => exact .fail
  | note _ _ _ ih => exact .note (ih state)
  | call request _ ih => exact .call (ih _ _)

variable {session : Session α} {next : α → Session β} {events : List Event}

theorem Path.done_parts {result : Except Fault α} (path : (pure value : Session α).Path events result) :
    events = [] ∧ result = .ok value := by
  cases path
  exact ⟨rfl, rfl⟩

theorem Path.fail_parts {result : Except Fault α} (path : (Session.fail fault).Path events result) :
    events = [] ∧ result = .error fault := by
  cases path
  exact ⟨rfl, rfl⟩

theorem Path.ofExcept_parts {made result : Except Fault α} (path : (ofExcept made).Path events result) :
    events = [] ∧ result = made := by
  cases made with
  | ok => exact path.done_parts
  | error => exact path.fail_parts

theorem Path.bind_parts {result : Except Fault β} (path : (session >>= next).Path events result) :
    (∃ fault, session.Path events (.error fault) ∧ result = .error fault) ∨
      ∃ value earlier later, session.Path earlier (.ok value) ∧ (next value).Path later result ∧
        events = earlier ++ later := by
  induction session generalizing events with
  | done value => exact .inr ⟨value, [], events, .done, path, rfl⟩
  | fail fault =>
    cases path with
    | fail => exact .inl ⟨fault, .fail, rfl⟩
  | note level message rest ih =>
    cases path with
    | note path =>
      rcases ih path with ⟨fault, failed, same⟩ | ⟨value, earlier, later, first, second, rfl⟩
      · exact .inl ⟨fault, .note failed, same⟩
      · exact .inr ⟨value, _, later, .note first, second, rfl⟩
  | call request resume ih =>
    cases path with
    | call path =>
      rcases ih _ path with ⟨fault, failed, same⟩ | ⟨value, earlier, later, first, second, rfl⟩
      · exact .inl ⟨fault, .call failed, same⟩
      · exact .inr ⟨value, _, later, .call first, second, rfl⟩

theorem Path.attempt_parts {result : Except Fault (Except Fault α)} (path : session.attempt.Path events result) :
    ∃ inner, session.Path events inner ∧ result = .ok inner := by
  induction session generalizing events with
  | done value =>
    cases path
    exact ⟨.ok value, .done, rfl⟩
  | fail fault =>
    cases path
    exact ⟨.error fault, .fail, rfl⟩
  | note _ _ _ ih =>
    cases path with
    | note path =>
      obtain ⟨inner, within, same⟩ := ih path
      exact ⟨inner, .note within, same⟩
  | call _ _ ih =>
    cases path with
    | call path =>
      obtain ⟨inner, within, same⟩ := ih _ path
      exact ⟨inner, .call within, same⟩

theorem Path.attempt_bind_parts {next : Except Fault α → Session β} {result : Except Fault β}
    (path : (session.attempt >>= next).Path events result) :
    ∃ inner earlier later, session.Path earlier inner ∧ (next inner).Path later result ∧
      events = earlier ++ later := by
  rcases path.bind_parts with ⟨fault, failed, _⟩ | ⟨value, earlier, later, first, second, rfl⟩
  · obtain ⟨inner, _, same⟩ := failed.attempt_parts
    cases same
  · obtain ⟨inner, within, same⟩ := first.attempt_parts
    cases same
    exact ⟨value, earlier, later, within, second, rfl⟩

theorem Path.ask_bind_parts {next : request.Answer → Session β} {result : Except Fault β}
    (path : (ask request >>= next).Path events result) :
    ∃ answer later, (next answer).Path later result ∧ events = .call request answer :: later := by
  cases path with
  | call path => exact ⟨_, _, path, rfl⟩

theorem Path.debug_bind_parts {next : Unit → Session β} {result : Except Fault β}
    (path : (debug message >>= next).Path events result) :
    ∃ later, (next ()).Path later result ∧ events = .note .debug message :: later := by
  cases path with
  | note path => exact ⟨_, path, rfl⟩

theorem Path.info_bind_parts {next : Unit → Session β} {result : Except Fault β}
    (path : (info message >>= next).Path events result) :
    ∃ later, (next ()).Path later result ∧ events = .note .info message :: later := by
  cases path with
  | note path => exact ⟨_, path, rfl⟩

def faultOf (wrap : Failure → Fault) (f : Failure) : Fault := if f.isDatabase then wrap f else .passed f

inductive Sent (sql : String) (parameters : Parameters) : List Event → Except Fault Unit → Prop where
  | refused (notes : List Event) (quiet : ∀ event ∈ notes, event.isCall = false) :
      Sent sql parameters (notes ++ [.call (.execute sql (some parameters)) (.error f)])
        (.error (faultOf (.statement .execution sql) f))
  | released (notes : List Event) (quiet : ∀ event ∈ notes, event.isCall = false) :
      Sent sql parameters (notes ++ [.call (.execute sql (some parameters)) (.ok reply), .call .close ()]) (.ok ())

theorem Sent.noted {result : Except Fault Unit} (sent : Sent sql parameters events result) :
    Sent sql parameters (.note level message :: events) result := by
  cases sent with
  | refused notes quiet => exact .refused (.note level message :: notes) (List.forall_mem_cons.mpr ⟨rfl, quiet⟩)
  | released notes quiet => exact .released (.note level message :: notes) (List.forall_mem_cons.mpr ⟨rfl, quiet⟩)

theorem Sent.returned (sent : Sent sql parameters events (.ok ())) :
    ∃ reply, .call (.execute sql (some parameters)) (.ok reply) ∈ events := by
  cases sent with
  | released => exact ⟨_, List.mem_append_right _ List.mem_cons_self⟩

theorem Sent.unanswered (sent : Sent sql parameters events (.error fault)) :
    .call (.execute text given?) (.ok reply) ∉ events := by
  cases sent with
  | refused notes quiet =>
    intro member
    rcases List.mem_append.mp member with early | last
    · cases quiet _ early
    · cases List.mem_singleton.mp last

theorem execution_path {result : Except Fault Unit} (path : (ask (.execute sql (some parameters)) >>= fun answer =>
      match answer with
      | .error f => failure (.statement .execution sql) f
      | .ok _ => close).Path events result) : Sent sql parameters events result := by
  obtain ⟨answer, later, tail, rfl⟩ := path.ask_bind_parts
  cases answer with
  | error f =>
    obtain ⟨rfl, rfl⟩ := tail.fail_parts
    exact .refused [] (List.forall_mem_nil _)
  | ok reply =>
    cases tail with
    | call last =>
      cases last
      exact .released [] (List.forall_mem_nil _)

theorem send_path {result : Except Fault Unit} (path : (send sql parameters).Path events result) :
    Sent sql parameters events result := by
  obtain ⟨later, tail, rfl⟩ := path.debug_bind_parts
  refine Sent.noted ?_
  by_cases empty : parameters = []
  · subst empty
    exact execution_path tail
  · simp only [empty, ne_eq, not_false_eq_true, if_true] at tail
    obtain ⟨rest, asked, rfl⟩ := tail.debug_bind_parts
    exact (execution_path asked).noted

inductive Queried (sql : String) (parameters? : Option Parameters) (wrap : Failure → Fault)
    (read : ResultSet → Except Fault α) : List Event → Except Fault α → Prop where
  | refused : Queried sql parameters? wrap read [.call (.execute sql parameters?) (.error f)]
      (.error (faultOf wrap f))
  | broken (reply : ResultSet) (ended : reply.failure? = some f) :
      Queried sql parameters? wrap read [.call (.execute sql parameters?) (.ok reply), .call .close ()]
        (.error (faultOf wrap f))
  | unread (reply : ResultSet) (bad : read reply = .error fault) :
      Queried sql parameters? wrap read [.call (.execute sql parameters?) (.ok reply), .call .close ()]
        (.error fault)
  | answered (reply : ResultSet) (good : read reply = .ok value) :
      Queried sql parameters? wrap read [.call (.execute sql parameters?) (.ok reply), .call .close ()]
        (.ok value)

theorem query_path {wrap : Failure → Fault} {read : ResultSet → Except Fault α} {result : Except Fault α}
    (path : (query sql parameters? wrap read).Path events result) :
    Queried sql parameters? wrap read events result := by
  obtain ⟨answer, later, tail, rfl⟩ := path.ask_bind_parts
  cases answer with
  | error f =>
    obtain ⟨rfl, rfl⟩ := tail.fail_parts
    exact .refused
  | ok reply =>
    obtain ⟨_, rest, last, rfl⟩ := tail.ask_bind_parts
    cases good : read reply with
    | error fault =>
      simp only [good] at last
      obtain ⟨rfl, rfl⟩ := last.fail_parts
      exact .unread reply good
    | ok value =>
      cases ended : reply.failure? with
      | none =>
        simp only [good, ended] at last
        obtain ⟨rfl, rfl⟩ := last.done_parts
        exact .answered reply good
      | some f =>
        simp only [good, ended] at last
        obtain ⟨rfl, rfl⟩ := last.fail_parts
        exact .broken reply ended

end Session

namespace Script

def Answers (script : Script) : Event → Prop
  | .note .. => True
  | .call (.execute ..) answer => answer = .ok .nothing ∨ answer ∈ script.executions
  | .call (.hasTable ..) answer => answer = .ok false ∨ answer ∈ script.tables
  | .call (.indexNames ..) answer => answer = .ok [] ∨ answer ∈ script.indexes
  | .call .close _ => True
  | .call .commit answer => answer = script.settings.commit
  | .call .options answer => answer = script.settings.options
  | .call .isolation answer => answer = script.settings.isolation

theorem headD_mem (entries : List α) (rest : α) : entries.headD rest = rest ∨ entries.headD rest ∈ entries := by
  cases entries with
  | nil => exact .inl rfl
  | cons => exact .inr List.mem_cons_self

theorem answer_answers (request : Request) (script : Script) :
    script.Answers (.call request (connection.answer request script).1) := by
  cases request with
  | execute | hasTable | indexNames => exact headD_mem _ _
  | close => trivial
  | commit | options | isolation => rfl

theorem answer_earlier (request : Request) {script : Script} {event : Event}
    (later : (connection.answer request script).2.Answers event) : script.Answers event := by
  cases request <;> rcases event with _ | ⟨_ | _ | _ | _ | _ | _ | _, _⟩ <;>
    first | exact later | exact later.imp_right List.mem_of_mem_tail

theorem run_answered (session : Session α) (script : Script) :
    ∀ event ∈ (session.run connection script).events, script.Answers event := by
  induction session generalizing script with
  | done | fail => exact List.forall_mem_nil _
  | note _ _ _ ih =>
    intro event member
    rcases List.mem_cons.mp member with rfl | later
    · trivial
    · exact ih script event later
  | call request resume ih =>
    intro event member
    rcases List.mem_cons.mp member with rfl | later
    · exact answer_answers request script
    · exact answer_earlier request (ih _ _ event later)

end Script

end FeatureTables
