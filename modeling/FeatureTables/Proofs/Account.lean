import FeatureTables.Operation
import FeatureTables.Proofs.Decoding
import FeatureTables.Proofs.Release

namespace FeatureTables

structure Query where
  sql : String
  columns : List String

variable {α β : Type} {query? : Option Query} {events earlier later : List Event} {result : Except Fault α}

structure Clean (events : List Event) : Prop where
  released : Released events
  uncommitted : ∀ event ∈ events, event.isCommit = false

namespace Clean

theorem append (first : Clean earlier) (second : Clean later) : Clean (earlier ++ later) where
  released := first.released.append second.released
  uncommitted := List.forall_mem_append.mpr ⟨first.uncommitted, second.uncommitted⟩

theorem idle (quiet : ∀ event ∈ events, event.Idle ∧ event.isCommit = false) : Clean events :=
  ⟨.idle fun event member => (quiet event member).1, fun event member => (quiet event member).2⟩

theorem nil : Clean [] := idle (List.forall_mem_nil _)

theorem notes (quiet : ∀ event ∈ events, event.isCall = false) : Clean events := by
  refine idle fun event member => ?_
  cases event with
  | note => exact ⟨⟨rfl, rfl⟩, rfl⟩
  | call => cases quiet _ member

theorem refused : Clean [.call (.execute sql parameters?) (.error f)] :=
  ⟨.refused, List.forall_mem_singleton.mpr rfl⟩

theorem returned : Clean [.call (.execute sql parameters?) (.ok reply), .call .close ()] :=
  ⟨.returned, List.forall_mem_cons.mpr ⟨rfl, List.forall_mem_singleton.mpr rfl⟩⟩

theorem note (clean : Clean events) : Clean (.note level message :: events) :=
  append (idle (List.forall_mem_singleton.mpr ⟨⟨rfl, rfl⟩, rfl⟩)) clean

theorem commitless (clean : Clean events) : ¬ ∃ event ∈ events, event.isCommit = true := by
  rintro ⟨event, member, commit⟩
  simp [clean.uncommitted event member] at commit

end Clean

theorem Session.Sent.clean {result : Except Fault Unit} (sent : Sent sql parameters events result) :
    Clean events := by
  cases sent with
  | refused notes quiet => exact (Clean.notes quiet).append .refused
  | released notes quiet => exact (Clean.notes quiet).append .returned

def Delivered (query : Query) (row : List Cell) (events : List Event) : Prop :=
  ∃ parameters? result, .call (.execute query.sql parameters?) (.ok result) ∈ events ∧ row ∈ result.rows

-- What a fault goes back to: the statement sent last, the look taken last, a failure of
-- another kind, or a row that the operation's query was answered with.
def Fault.Stems (query? : Option Query) (events : List Event) : Fault → Prop
  | .statement _ sql cause => cause.isDatabase = true ∧ ∃ before parameters? answer after,
      events = before ++ .call (.execute sql parameters?) answer :: after ∧
      (answer = .error cause ∨ ∃ result, answer = .ok result ∧ result.failure? = some cause) ∧
      ∀ event ∈ after, event.isExecute = false
  | .metadata cause => cause.isDatabase = true ∧ ∃ before name schema? after,
      events = before ++ .call (.hasTable name schema?) (.error cause) :: after ∧
      ∀ event ∈ after, event.isCall = false
  | .passed cause => cause.isDatabase = false ∧ ∃ event ∈ events, event.failure? = some cause
  | .undecodable _ | .notPolygon _ => True
  | .nonlinear => ∃ query ∈ query?, ∃ row, Delivered query row events ∧ ∃ cell ∈ row, cell.HoldsCurve
  | .rowWidth | .emptyRow => ∃ query ∈ query?, ∃ row, Delivered query row events ∧
      row.length ≠ query.columns.length
  | .notKey => ∃ query ∈ query?, ∃ row, Delivered query row events ∧ ∃ cell ∈ row[2]?, cell.isKey = false
  | _ => False

theorem Delivered.within (delivered : Delivered query row later) (within : later ⊆ events) :
    Delivered query row events := by
  obtain ⟨parameters?, result, member, listed⟩ := delivered
  exact ⟨parameters?, result, within member, listed⟩

theorem Fault.Stems.after {fault : Fault} (stems : fault.Stems query? later) :
    fault.Stems query? (earlier ++ later) := by
  have within : later ⊆ earlier ++ later := List.subset_append_right earlier later
  cases fault with
  | statement =>
    obtain ⟨database, before, parameters?, answer, rest, rfl, cause, quiet⟩ := stems
    exact ⟨database, earlier ++ before, parameters?, answer, rest, by simp, cause, quiet⟩
  | metadata =>
    obtain ⟨database, before, name, schema?, rest, rfl, quiet⟩ := stems
    exact ⟨database, earlier ++ before, name, schema?, rest, by simp, quiet⟩
  | passed =>
    obtain ⟨other, event, member, met⟩ := stems
    exact ⟨other, event, within member, met⟩
  | undecodable | notPolygon => trivial
  | nonlinear | rowWidth | emptyRow | notKey =>
    obtain ⟨query, asked, row, delivered, bad⟩ := stems
    exact ⟨query, asked, row, delivered.within within, bad⟩
  | catalog | notSearchable | unknownBackend | missingOperation => cases stems

theorem Fault.Stems.before {fault : Fault} (stems : fault.Stems query? earlier) (statement : fault.sql?.isSome)
    (quiet : ∀ event ∈ later, event.isExecute = false) : fault.Stems query? (earlier ++ later) := by
  cases fault with
  | statement =>
    obtain ⟨database, before, parameters?, answer, rest, rfl, met, none⟩ := stems
    refine ⟨database, before, parameters?, answer, rest ++ later, by simp, met, ?_⟩
    exact List.forall_mem_append.mpr ⟨none, quiet⟩
  | _ => cases statement

structure Account (query? : Option Query) (events : List Event) (result : Except Fault α) : Prop where
  clean : Clean events
  stems : ∀ fault, result = .error fault → fault.Stems query? events

def Session.Accounted (query? : Option Query) (session : Session α) : Prop :=
  ∀ events result, session.Path events result → Account query? events result

theorem Account.ok (clean : Clean events) : Account query? events (.ok value : Except Fault α) := ⟨clean, nofun⟩

theorem Account.after (first : Clean earlier) (second : Account query? later result) :
    Account query? (earlier ++ later) result :=
  ⟨first.append second.clean, fun fault failed => (second.stems fault failed).after⟩

theorem Account.note (account : Account query? events result) : Account query? (.note level message :: events) result :=
  .after (Clean.note .nil) account

namespace Session

theorem accounted_done (value : α) : (pure value : Session α).Accounted query? := by
  intro events result path
  obtain ⟨rfl, rfl⟩ := path.done_parts
  exact .ok .nil

theorem accounted_bind {session : Session α} {next : α → Session β} (first : session.Accounted query?)
    (second : ∀ value, (next value).Accounted query?) : (session >>= next).Accounted query? := by
  intro events result path
  rcases path.bind_parts with ⟨fault, failed, rfl⟩ | ⟨value, earlier, later, before, after, rfl⟩
  · have account := first _ _ failed
    exact ⟨account.clean, fun other same => account.stems other (by cases same; rfl)⟩
  · exact .after (first _ _ before).clean (second value _ _ after)

theorem accounted_debug_bind {next : Unit → Session α} (accounted : (next ()).Accounted query?) :
    (debug message >>= next).Accounted query? := by
  intro events result path
  obtain ⟨later, tail, rfl⟩ := path.debug_bind_parts
  exact (accounted _ _ tail).note

theorem accounted_info_bind {next : Unit → Session α} (accounted : (next ()).Accounted query?) :
    (info message >>= next).Accounted query? := by
  intro events result path
  obtain ⟨later, tail, rfl⟩ := path.info_bind_parts
  exact (accounted _ _ tail).note

theorem accounted_each {act : α → Session β} {items : List α}
    (one : ∀ item ∈ items, (act item).Accounted query?) :
    (each act items).Accounted query? := by
  induction items with
  | nil => exact accounted_done _
  | cons item rest ih =>
    refine accounted_bind (one item List.mem_cons_self) fun _ => ?_
    exact accounted_bind (ih fun other member => one other (List.mem_cons_of_mem _ member)) fun _ => accounted_done _

theorem accounted_attempt_bind {session : Session α} {next : Except Fault α → Session β}
    (first : session.Accounted query?) (succeeded : ∀ value, (next (.ok value)).Accounted query?)
    (failed : ∀ fault later result, (next (.error fault)).Path later result → Account query? later result ∨
      result = .error fault ∧ Clean later ∧
        (later = [] ∨ fault.sql?.isSome ∧ ∀ event ∈ later, event.isExecute = false)) :
    (session.attempt >>= next).Accounted query? := by
  intro events result path
  obtain ⟨inner, earlier, later, before, after, rfl⟩ := path.attempt_bind_parts
  have account := first _ _ before
  cases inner with
  | ok value => exact .after account.clean (succeeded value _ _ after)
  | error fault =>
    rcases failed fault _ _ after with recovered | ⟨rfl, clean, repeated⟩
    · exact .after account.clean recovered
    · refine ⟨account.clean.append clean, ?_⟩
      rintro _ ⟨⟩
      have stems := account.stems fault rfl
      rcases repeated with rfl | ⟨statement, quiet⟩
      · exact (List.append_nil earlier).symm ▸ stems
      · exact stems.before statement quiet

theorem stems_faultOf {wrap : Failure → Fault} (met : event.failure? = some f) (here : event ∈ events)
    (wrapped : f.isDatabase = true → (wrap f).Stems query? events) : (faultOf wrap f).Stems query? events := by
  cases database : f.isDatabase with
  | true => simpa [faultOf, database] using wrapped database
  | false =>
    simp only [faultOf, database]
    exact ⟨database, event, here, met⟩

theorem Sent.account {result : Except Fault Unit} (sent : Sent sql parameters events result) :
    Account query? events result := by
  refine ⟨sent.clean, ?_⟩
  cases sent with
  | released => exact nofun
  | refused =>
    rintro _ ⟨⟩
    refine Fault.Stems.after ?_
    refine stems_faultOf rfl List.mem_cons_self fun database => ?_
    exact ⟨database, [], _, _, [], rfl, .inl rfl, List.forall_mem_nil _⟩

theorem accounted_send : (send sql parameters).Accounted query? := fun _ _ path => (send_path path).account

theorem accounted_query {read : ResultSet → Except Fault α} (selecting : columns ≠ [])
    (bad : ∀ reply fault, read reply = .error fault → ∃ row ∈ reply.rows, fault.OfRow row) :
    (query sql parameters? (.statement purpose sql) read).Accounted (some ⟨sql, columns⟩) := by
  intro events result path
  cases query_path path with
  | answered => exact .ok .returned
  | refused =>
    refine ⟨.refused, ?_⟩
    rintro _ ⟨⟩
    refine stems_faultOf rfl List.mem_cons_self fun database => ?_
    exact ⟨database, [], _, _, [], rfl, .inl rfl, List.forall_mem_nil _⟩
  | broken reply ended =>
    refine ⟨.returned, ?_⟩
    rintro _ ⟨⟩
    have met : (Event.call (.execute sql parameters?) (.ok reply)).failure? = some _ := ended
    refine stems_faultOf met List.mem_cons_self fun database => ?_
    exact ⟨database, [], _, _, _, rfl, .inr ⟨reply, rfl, ended⟩, List.forall_mem_singleton.mpr rfl⟩
  | unread reply failed =>
    refine ⟨.returned, ?_⟩
    rintro _ ⟨⟩
    obtain ⟨row, listed, reason⟩ := bad reply _ failed
    have delivered : Delivered ⟨sql, columns⟩ row [.call (.execute sql parameters?) (.ok reply), .call .close ()] :=
      ⟨parameters?, reply, List.mem_cons_self, listed⟩
    rename_i fault
    cases fault with
    | undecodable | notPolygon => trivial
    | nonlinear => exact ⟨_, rfl, row, delivered, reason⟩
    | emptyRow =>
      cases (reason : row = [])
      exact ⟨_, rfl, [], delivered, fun width => selecting (List.length_eq_zero_iff.mp width.symm)⟩
    | _ => cases reason

end Session

end FeatureTables
