import FeatureTables.Connection.Session

namespace FeatureTables

variable {State α β : Type}

namespace Session

def advance (connection : Connection State) (session : Session α) (state : State) :
    Session α × State × List Event :=
  match session with
  | done value => (done value, state, [])
  | fail fault => (fail fault, state, [])
  | note level message rest => (rest, state, [.note level message])
  | call request resume =>
    let reply := connection.answer request state
    (resume reply.1, reply.2, [.call request reply.1])

def isDone : Session α → Bool
  | done _ => true
  | _ => false

def isFailed : Session α → Bool
  | fail _ => true
  | _ => false

end Session

structure Crowd (State α : Type) where
  clients : List (Session α)
  state : State
  events : List Event

namespace Crowd

def start (clients : List (Session α)) (state : State) : Crowd State α := ⟨clients, state, []⟩

def turn (connection : Connection State) (crowd : Crowd State α) (client : Nat) : Crowd State α :=
  match crowd.clients[client]? with
  | none => crowd
  | some session =>
    let after := session.advance connection crowd.state
    ⟨crowd.clients.set client after.1, after.2.1, crowd.events ++ after.2.2⟩

def turns (connection : Connection State) (crowd : Crowd State α) (order : List Nat) : Crowd State α :=
  order.foldl (turn connection) crowd

-- A client that has the connection to itself ends as its session runs.
theorem turns_alone (connection : Connection State) (session : Session α) (state : State) :
    ∃ count, (start [session] state).turns connection (List.replicate count 0) =
      ⟨[.ofExcept (session.run connection state).result], (session.run connection state).state,
        (session.run connection state).events⟩ := by
  have behind (past : List Event) : ∃ count,
      (Crowd.mk [session] state past).turns connection (List.replicate count 0) =
        ⟨[.ofExcept (session.run connection state).result], (session.run connection state).state,
          past ++ (session.run connection state).events⟩ := by
    induction session generalizing state past with
    | done | fail => exact ⟨0, by simp [turns, Session.run, Session.ofExcept]⟩
    | note level message rest ih =>
      obtain ⟨count, reached⟩ := ih state (past ++ [.note level message])
      refine ⟨count + 1, reached.trans ?_⟩
      simp [Session.run, Outcome.after]
    | call request resume ih =>
      obtain ⟨count, reached⟩ := ih (connection.answer request state).1 (connection.answer request state).2
        (past ++ [.call request (connection.answer request state).1])
      refine ⟨count + 1, reached.trans ?_⟩
      simp [Session.run, Outcome.after]
  exact behind []

end Crowd

-- What sessions may count on while others use the connection too: every state is sound,
-- and states only move onwards.
structure Accord (State : Type) where
  sound : State → Prop
  onwards : State → State → Prop
  refl : ∀ state, onwards state state
  trans : ∀ {first second third}, onwards first second → onwards second third → onwards first third

namespace Accord

def Henceforth (accord : Accord State) (state : State) (holds : State → Prop) : Prop :=
  ∀ later, accord.onwards state later → accord.sound later → holds later

variable {accord : Accord State} {state reached : State} {holds : State → Prop}

theorem Henceforth.now (always : accord.Henceforth state holds) (sound : accord.sound state) : holds state :=
  always state (accord.refl state) sound

theorem Henceforth.later (always : accord.Henceforth state holds) (moved : accord.onwards state reached) :
    accord.Henceforth reached holds :=
  fun last further sound => always last (accord.trans moved further) sound

def Seen (accord : Accord State) (state now : State) (holds : State → Prop) : Prop :=
  ∃ seen, accord.sound seen ∧ accord.onwards state seen ∧ accord.onwards seen now ∧ holds seen

end Accord

namespace Session

-- A session that keeps to the accord wherever the others take the state between its
-- requests, and whose end stays as `ended` says.
def Abides (connection : Connection State) (accord : Accord State) (ended : Except Fault α → State → Prop) :
    Session α → State → Prop
  | done value, state => accord.Henceforth state (ended (.ok value))
  | fail fault, state => accord.Henceforth state (ended (.error fault))
  | note _ _ rest, state => rest.Abides connection accord ended state
  | call request resume, state => accord.Henceforth state fun now =>
    let reply := connection.answer request now
    accord.sound reply.2 ∧ accord.onwards now reply.2 ∧ (resume reply.1).Abides connection accord ended reply.2

variable {connection : Connection State} {accord : Accord State} {ended : Except Fault α → State → Prop}
  {state reached : State} {session : Session α}

theorem Abides.later (abides : session.Abides connection accord ended state)
    (moved : accord.onwards state reached) : session.Abides connection accord ended reached := by
  induction session with
  | done | fail | call => exact Accord.Henceforth.later abides moved
  | note _ _ _ ih => exact ih abides

theorem abides_bind {settled : Except Fault α → State → Prop} {ended : Except Fault β → State → Prop}
    {next : α → Session β} (sound : accord.sound state)
    (first : session.Abides connection accord settled state)
    (failed : ∀ fault now, accord.onwards state now → accord.Henceforth now (settled (.error fault)) →
      accord.Henceforth now (ended (.error fault)))
    (second : ∀ value now, accord.onwards state now → accord.sound now →
      accord.Henceforth now (settled (.ok value)) → (next value).Abides connection accord ended now) :
    (session >>= next).Abides connection accord ended state := by
  induction session generalizing state with
  | done value => exact second value state (accord.refl state) sound first
  | fail fault => exact failed fault state (accord.refl state) first
  | note _ _ _ ih => exact ih sound first failed second
  | call request resume ih =>
    -- The others may have moved the state by the time the request is answered.
    intro now moved here
    obtain ⟨kept, step, rest⟩ := first now moved here
    have reached := accord.trans moved step
    refine ⟨kept, step, ih _ kept rest ?_ ?_⟩
    · exact fun fault last further => failed fault last (accord.trans reached further)
    · exact fun value last further => second value last (accord.trans reached further)

theorem abides_attempt_bind {settled : Except Fault α → State → Prop} {ended : Except Fault β → State → Prop}
    {next : Except Fault α → Session β} (sound : accord.sound state)
    (first : session.Abides connection accord settled state)
    (second : ∀ result now, accord.onwards state now → accord.sound now →
      accord.Henceforth now (settled result) → (next result).Abides connection accord ended now) :
    (session.attempt >>= next).Abides connection accord ended state := by
  induction session generalizing state with
  | done value => exact second (.ok value) state (accord.refl state) sound first
  | fail fault => exact second (.error fault) state (accord.refl state) sound first
  | note _ _ _ ih => exact ih sound first second
  | call request resume ih =>
    intro now moved here
    obtain ⟨kept, step, rest⟩ := first now moved here
    have reached := accord.trans moved step
    exact ⟨kept, step, ih _ kept rest fun result last further => second result last (accord.trans reached further)⟩

theorem abides_debug_bind {next : Unit → Session α} (abides : (next ()).Abides connection accord ended state) :
    (debug message >>= next).Abides connection accord ended state := abides

theorem abides_info_bind {next : Unit → Session α} (abides : (next ()).Abides connection accord ended state) :
    (info message >>= next).Abides connection accord ended state := abides

theorem abides_noted_bind {noted : Prop} [Decidable noted] {next : Session α}
    (abides : next.Abides connection accord ended state) :
    (if noted then debug message >>= fun _ => next else next).Abides connection accord ended state := by
  split
  · exact abides
  · exact abides

theorem abides_ask_bind {next : request.Answer → Session α} (step : accord.Henceforth state fun now =>
      let reply := connection.answer request now
      accord.sound reply.2 ∧ accord.onwards now reply.2 ∧ (next reply.1).Abides connection accord ended reply.2) :
    (ask request >>= next).Abides connection accord ended state := step

theorem abides_each {act : β → Session α} {items : List β} {fact : β → State → Prop} (sound : accord.sound state)
    (step : ∀ item ∈ items, ∀ now, accord.onwards state now → accord.sound now →
      (act item).Abides connection accord (fun result last => result.isOk ∧ fact item last) now) :
    (each act items).Abides connection accord (fun result last => result.isOk ∧ ∀ item ∈ items, fact item last)
      state := by
  induction items generalizing state with
  | nil => exact fun _ _ _ => ⟨rfl, nofun⟩
  | cons item rest ih =>
    refine abides_bind sound (step item List.mem_cons_self state (accord.refl state) sound) ?_ ?_
    · intro _ now _ always last onwards kept
      cases (always last onwards kept).1
    · intro _ now moved here first
      have others := ih here fun other member last further =>
        step other (List.mem_cons_of_mem _ member) last (accord.trans moved further)
      refine abides_bind here others ?_ ?_
      · intro _ _ _ always last onwards kept
        cases (always last onwards kept).1
      · intro _ last further _ always final onwards kept
        have one := (first final (accord.trans further onwards) kept).2
        exact ⟨rfl, List.forall_mem_cons.mpr ⟨one, (always final onwards kept).2⟩⟩

theorem advance_abides (sound : accord.sound state) (abides : session.Abides connection accord ended state) :
    accord.sound (session.advance connection state).2.1 ∧
      accord.onwards state (session.advance connection state).2.1 ∧
      (session.advance connection state).1.Abides connection accord ended (session.advance connection state).2.1 := by
  cases session with
  | done | fail | note => exact ⟨sound, accord.refl state, abides⟩
  | call => exact abides state (accord.refl state) sound

end Session

namespace Crowd

variable {connection : Connection State} {accord : Accord State} {ended : Except Fault α → State → Prop}
  {crowd : Crowd State α}

structure Abides (connection : Connection State) (accord : Accord State)
    (ended : Except Fault α → State → Prop) (crowd : Crowd State α) : Prop where
  sound : accord.sound crowd.state
  clients : ∀ session ∈ crowd.clients, session.Abides connection accord ended crowd.state

theorem turn_abides (abides : crowd.Abides connection accord ended) (client : Nat) :
    (crowd.turn connection client).Abides connection accord ended ∧
      accord.onwards crowd.state (crowd.turn connection client).state := by
  unfold turn
  cases found : crowd.clients[client]? with
  | none => exact ⟨abides, accord.refl _⟩
  | some session =>
    obtain ⟨kept, moved, rest⟩ := Session.advance_abides abides.sound
      (abides.clients session (List.mem_of_getElem? found))
    refine ⟨⟨kept, ?_⟩, moved⟩
    intro other member
    rcases List.mem_or_eq_of_mem_set member with before | rfl
    · exact (abides.clients other before).later moved
    · exact rest

theorem turns_abide (abides : crowd.Abides connection accord ended) (order : List Nat) :
    (crowd.turns connection order).Abides connection accord ended ∧
      accord.onwards crowd.state (crowd.turns connection order).state := by
  induction order generalizing crowd with
  | nil => exact ⟨abides, accord.refl _⟩
  | cons client rest ih =>
    obtain ⟨next, moved⟩ := turn_abides abides client
    obtain ⟨last, further⟩ := ih next
    exact ⟨last, accord.trans moved further⟩

structure Once (made : Event → Option β) (held : β → State → Prop) (crowd : Crowd State α) : Prop where
  distinct : (crowd.events.filterMap made).Nodup
  held : ∀ thing ∈ crowd.events.filterMap made, held thing crowd.state

structure Makes (connection : Connection State) (accord : Accord State) (made : Event → Option β)
    (held : β → State → Prop) : Prop where
  quiet : ∀ level message, made (.note level message) = none
  lasting : ∀ {thing before after}, accord.onwards before after → held thing before → held thing after
  fresh : ∀ {request state thing}, made (.call request (connection.answer request state).1) = some thing →
    ¬ held thing state ∧ held thing (connection.answer request state).2

theorem advance_fresh {made : Event → Option β} {held : β → State → Prop}
    (makes : Makes connection accord made held) (session : Session α) (state : State) :
    ((session.advance connection state).2.2.filterMap made).Nodup ∧
      ∀ thing ∈ (session.advance connection state).2.2.filterMap made,
        ¬ held thing state ∧ held thing (session.advance connection state).2.1 := by
  cases session with
  | done | fail => exact ⟨List.nodup_nil, nofun⟩
  | note level message rest => simp [Session.advance, makes.quiet]
  | call request resume =>
    cases created : made (.call request (connection.answer request state).1) with
    | none => simp [Session.advance, created]
    | some thing => simpa [Session.advance, created] using makes.fresh created

theorem turn_once {made : Event → Option β} {held : β → State → Prop} (makes : Makes connection accord made held)
    (abides : crowd.Abides connection accord ended) (once : crowd.Once made held) (client : Nat) :
    (crowd.turn connection client).Once made held := by
  have moved := (turn_abides abides client).2
  unfold turn at moved ⊢
  cases found : crowd.clients[client]? with
  | none => exact once
  | some session =>
    simp only [found] at moved
    obtain ⟨distinct, fresh⟩ := advance_fresh makes session crowd.state
    refine ⟨?_, ?_⟩
    · rw [List.filterMap_append, List.nodup_append]
      refine ⟨once.distinct, distinct, ?_⟩
      -- What a turn makes was not held before it, and all that was made earlier was.
      rintro earlier before thing new rfl
      exact (fresh earlier new).1 (once.held earlier before)
    · intro thing member
      rw [List.filterMap_append] at member
      rcases List.mem_append.mp member with before | new
      · exact makes.lasting moved (once.held thing before)
      · exact (fresh thing new).2

theorem turns_once {made : Event → Option β} {held : β → State → Prop} (makes : Makes connection accord made held)
    (abides : crowd.Abides connection accord ended) (once : crowd.Once made held) (order : List Nat) :
    (crowd.turns connection order).Once made held := by
  induction order generalizing crowd with
  | nil => exact once
  | cons client rest ih => exact ih (turn_abides abides client).1 (turn_once makes abides once client)

theorem Abides.done (abides : crowd.Abides connection accord ended) (member : .done value ∈ crowd.clients) :
    ended (.ok value) crowd.state := (abides.clients _ member).now abides.sound

theorem Abides.failed (abides : crowd.Abides connection accord ended) (member : .fail fault ∈ crowd.clients) :
    ended (.error fault) crowd.state := (abides.clients _ member).now abides.sound

end Crowd

end FeatureTables
