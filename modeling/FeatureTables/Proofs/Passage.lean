import FeatureTables.Operation.Execution

namespace FeatureTables

variable {State α β : Type}

def Session.requests (connection : Connection State) : Session α → State → List (State × Request)
  | done _, _ => []
  | fail _, _ => []
  | note _ _ rest, state => rest.requests connection state
  | call request resume, state =>
    let reply := connection.answer request state
    (state, request) :: (resume reply.1).requests connection reply.2

def Session.states (connection : Connection State) (session : Session α) (state : State) : List State :=
  (session.requests connection state).map (·.1) ++ [(session.run connection state).state]

-- What a session guarantees where each request meets what is assumed of it: no state it
-- passes is outside `kept`, and result and last state are as `ended` says.
def Session.Keeps (connection : Connection State) (assumed : State → Request → Prop)
    (kept : State → Prop) (ended : Except Fault α → State → Prop) : Session α → State → Prop
  | done value, state => kept state ∧ ended (.ok value) state
  | fail fault, state => kept state ∧ ended (.error fault) state
  | note _ _ rest, state => rest.Keeps connection assumed kept ended state
  | call request resume, state =>
    kept state ∧ (assumed state request →
      (resume (connection.answer request state).1).Keeps connection assumed kept ended
        (connection.answer request state).2)

namespace Session

variable {connection : Connection State} {assumed : State → Request → Prop} {kept : State → Prop}
  {ended : Except Fault α → State → Prop} {state : State} {session : Session α}

theorem keeps_sound (keeps : session.Keeps connection assumed kept ended state)
    (met : ∀ asked ∈ session.requests connection state, assumed asked.1 asked.2) :
    (∀ passed ∈ session.states connection state, kept passed) ∧
      ended (session.run connection state).result (session.run connection state).state := by
  induction session generalizing state with
  | done value => exact ⟨by simpa [states, requests, run] using keeps.1, keeps.2⟩
  | fail fault => exact ⟨by simpa [states, requests, run] using keeps.1, keeps.2⟩
  | note _ _ _ ih => exact ih keeps met
  | call request resume ih =>
    have first : assumed state request := met (state, request) List.mem_cons_self
    obtain ⟨passed, final⟩ := ih _ (keeps.2 first) fun asked later => met asked (List.mem_cons_of_mem _ later)
    refine ⟨?_, final⟩
    intro reached member
    rcases List.mem_cons.mp member with rfl | later
    · exact keeps.1
    · exact passed reached later

theorem start_passed : state ∈ session.states connection state := by
  induction session with
  | done | fail => exact List.mem_cons_self
  | note _ _ _ ih => exact ih
  | call => exact List.mem_cons_self

theorem last_passed : (session.run connection state).state ∈ session.states connection state :=
  List.mem_append_right _ List.mem_cons_self

theorem returned_of_isOk {result : Except Fault α} (succeeded : result.isOk) : ∃ value, result = .ok value := by
  cases result with
  | ok value => exact ⟨value, rfl⟩
  | error _ => simp [Except.isOk, Except.toBool] at succeeded

theorem run_attempt : (session.attempt.run connection state).result = .ok (session.run connection state).result ∧
    (session.attempt.run connection state).state = (session.run connection state).state := by
  induction session generalizing state with
  | done | fail => exact ⟨rfl, rfl⟩
  | note _ _ _ ih => exact ih
  | call _ _ ih => exact ih _

theorem run_bind {next : α → Session β} (finished : (session.run connection state).result = .ok value) :
    ((session >>= next).run connection state).result =
        ((next value).run connection (session.run connection state).state).result ∧
      ((session >>= next).run connection state).state =
        ((next value).run connection (session.run connection state).state).state := by
  have parts : (session >>= next).run connection state = _ := run_andThen connection session next state
  rw [parts, Outcome.andThen, finished]
  exact ⟨rfl, rfl⟩

theorem passed_bind {next : α → Session β} (finished : (session.run connection state).result = .ok value) :
    passed ∈ (session >>= next).states connection state ↔ passed ∈ session.states connection state ∨
      passed ∈ (next value).states connection (session.run connection state).state := by
  induction session generalizing state with
  | done =>
    cases finished
    have first : state ∈ (next value).states connection state := start_passed
    constructor
    · exact .inr
    · intro member
      rcases member with here | later
      · cases List.mem_singleton.mp here
        exact first
      · exact later
  | fail => cases finished
  | note _ _ _ ih => exact ih finished
  | call request resume ih =>
    have rest := ih (connection.answer request state).1 finished
    constructor
    · intro member
      rcases List.mem_cons.mp member with rfl | later
      · exact .inl List.mem_cons_self
      · exact (rest.mp later).imp_left (List.mem_cons_of_mem _)
    · intro either
      rcases either with member | later
      · rcases List.mem_cons.mp member with rfl | within
        · exact List.mem_cons_self
        · exact List.mem_cons_of_mem _ (rest.mpr (.inl within))
      · exact List.mem_cons_of_mem _ (rest.mpr (.inr later))

theorem states_attempt : session.attempt.states connection state = session.states connection state := by
  induction session generalizing state with
  | done | fail => rfl
  | note _ _ _ ih => exact ih
  | call _ _ ih => exact congrArg (List.cons state) (ih _)

theorem Keeps.imp {other : Except Fault α → State → Prop}
    (keeps : session.Keeps connection assumed kept ended state)
    (weaker : ∀ result state, kept state → ended result state → other result state) :
    session.Keeps connection assumed kept other state := by
  induction session generalizing state with
  | done | fail => exact ⟨keeps.1, weaker _ _ keeps.1 keeps.2⟩
  | note _ _ _ ih => exact ih keeps
  | call _ _ ih => exact ⟨keeps.1, fun met => ih _ (keeps.2 met)⟩

theorem Keeps.widen {reached : State → Prop} (keeps : session.Keeps connection assumed kept ended state)
    (wider : ∀ state, kept state → reached state) : session.Keeps connection assumed reached ended state := by
  induction session generalizing state with
  | done | fail => exact ⟨wider _ keeps.1, keeps.2⟩
  | note _ _ _ ih => exact ih keeps
  | call _ _ ih => exact ⟨wider _ keeps.1, fun met => ih _ (keeps.2 met)⟩

theorem keeps_bind {ended : Except Fault β → State → Prop} {next : α → Session β}
    (keeps : session.Keeps connection assumed kept (fun result state =>
      match result with
      | .ok value => (next value).Keeps connection assumed kept ended state
      | .error fault => ended (.error fault) state) state) :
    (session >>= next).Keeps connection assumed kept ended state := by
  induction session generalizing state with
  | done => exact keeps.2
  | fail => exact keeps
  | note _ _ _ ih => exact ih keeps
  | call _ _ ih => exact ⟨keeps.1, fun met => ih _ (keeps.2 met)⟩

theorem keeps_debug_bind {next : Unit → Session α}
    (keeps : (next ()).Keeps connection assumed kept ended state) :
    (debug message >>= next).Keeps connection assumed kept ended state := keeps

theorem keeps_info_bind {next : Unit → Session α}
    (keeps : (next ()).Keeps connection assumed kept ended state) :
    (info message >>= next).Keeps connection assumed kept ended state := keeps

theorem keeps_noted_bind {noted : Prop} [Decidable noted] {next : Session α}
    (keeps : next.Keeps connection assumed kept ended state) :
    (if noted then debug message >>= fun _ => next else next).Keeps connection assumed kept ended state := by
  split
  · exact keeps
  · exact keeps

theorem keeps_ask_bind {next : request.Answer → Session α} (here : kept state)
    (keeps : assumed state request → (next (connection.answer request state).1).Keeps connection
      assumed kept ended (connection.answer request state).2) :
    (ask request >>= next).Keeps connection assumed kept ended state := ⟨here, keeps⟩

theorem keeps_attempt {ended : Except Fault (Except Fault α) → State → Prop}
    (keeps : session.Keeps connection assumed kept (fun result state => ended (.ok result) state) state) :
    session.attempt.Keeps connection assumed kept ended state := by
  induction session generalizing state with
  | done | fail => exact keeps
  | note _ _ _ ih => exact ih keeps
  | call _ _ ih => exact ⟨keeps.1, fun met => ih _ (keeps.2 met)⟩

theorem each_map {act : β → Session α} {f : γ → β} {items : List γ} :
    each act (items.map f) = each (fun item => act (f item)) items := by
  induction items with
  | nil => rfl
  | cons item rest ih => simp only [List.map_cons, each, ih]

theorem keeps_each {act : β → Session α} {ended : Except Fault (List α) → State → Prop}
    (holds : List β → State → Prop)
    (step : ∀ finished item rest, items = finished ++ item :: rest → ∀ state, holds finished state →
      (act item).Keeps connection assumed kept (fun result state =>
        match result with
        | .ok _ => holds (finished ++ [item]) state
        | .error fault => ended (.error fault) state) state)
    (last : ∀ values state, holds items state → kept state ∧ ended (.ok values) state)
    (start : holds [] state) :
    (each act items).Keeps connection assumed kept ended state := by
  -- By induction on the items still to come, from whatever the finished ones have left.
  have loop (rest : List β) : ∀ finished state, items = finished ++ rest → holds finished state →
      (each act rest).Keeps connection assumed kept (fun result state =>
        match result with
        | .ok _ => holds items state
        | .error fault => ended (.error fault) state) state := by
    induction rest with
    | nil =>
      intro finished state whole held
      rw [List.append_nil] at whole
      subst whole
      exact ⟨(last [] state held).1, held⟩
    | cons item rest ih =>
      intro finished state whole held
      refine keeps_bind ((step finished item rest whole state held).imp fun result state _ after => ?_)
      cases result with
      | error fault => exact after
      | ok value =>
        refine keeps_bind ((ih (finished ++ [item]) state (by simp [whole]) after).imp
          fun result state here after => ?_)
        cases result with
        | error fault => exact after
        | ok values => exact ⟨here, after⟩
  refine (loop items [] state rfl start).imp fun result state _ after => ?_
  cases result with
  | error fault => exact after
  | ok values => exact (last values state after).2

end Session

end FeatureTables
