import FeatureTables.Proofs.Effects
import FeatureTables.Proofs.Paths
import Mathlib.Data.List.Forall2

namespace FeatureTables

variable {State α β : Type}

def Parameters.Alike : Parameters → Parameters → Prop :=
  List.Forall₂ fun one other => one.1 = other.1 ∧ (one.1 = "srid" ∨ one.2 = other.2)

theorem Parameters.Alike.refl (parameters : Parameters) : Alike parameters parameters :=
  List.forall₂_same.mpr fun _ _ => ⟨rfl, .inr rfl⟩

def Statement.Rowless (statement : Statement) : Prop := ∀ written selection, statement ≠ .select written selection

def Request.Rowless : Request → Prop
  | .execute sql _ => (Statement.read sql).Rowless
  | _ => True

inductive Event.Alike : Event → Event → Prop where
  | same : Alike event event
  | stored (alike : parameters.Alike others) : Alike (.call (.execute sql (some parameters)) answer)
      (.call (.execute sql (some others)) answer)

namespace Session

def calls (connection : Connection State) (session : Session α) (state : State) : List Event :=
  (session.run connection state).events.filter Event.isCall

-- Sessions that ask no more for rows, and the same but for reference systems they store.
-- Notes may differ.
inductive Alike (related : α → β → Prop) : Session α → Session β → Prop where
  | done (same : related value other) : Alike related (.done value) (.done other)
  | fail : Alike related (.fail fault) (.fail fault)
  | left : Alike related session other → Alike related (.note level message session) other
  | right : Alike related session other → Alike related session (.note level message other)
  | call {resume : request.Answer → Session α} {others : request.Answer → Session β} (rowless : request.Rowless) :
      (∀ answer, Alike related (resume answer) (others answer)) →
      Alike related (.call request resume) (.call request others)
  | store {resume : Except Failure ResultSet → Session α} {others : Except Failure ResultSet → Session β}
      (rowless : (Statement.read sql).Rowless) (parameters : given.Alike replaced) :
      (∀ answer, Alike related (resume answer) (others answer)) →
      Alike related (.call (.execute sql (some given)) resume) (.call (.execute sql (some replaced)) others)

inductive SameEnd (related : α → β → Prop) : Except Fault α → Except Fault β → Prop where
  | ok (same : related value other) : SameEnd related (.ok value) (.ok other)
  | error : SameEnd related (.error fault) (.error fault)

theorem SameEnd.eq {result other : Except Fault α} (same : SameEnd Eq result other) : result = other := by
  cases same with
  | ok same => rw [same]
  | error => rfl

namespace Alike

variable {α' β' : Type} {related : α → α' → Prop} {session : Session α} {other : Session α'}

theorem bind {after : β → β' → Prop} {next : α → Session β} {others : α' → Session β'}
    (alike : Alike related session other)
    (onwards : ∀ value second, related value second → Alike after (next value) (others second)) :
    Alike after (session >>= next) (other >>= others) := by
  induction alike with
  | done same => exact onwards _ _ same
  | fail => exact .fail
  | left _ ih => exact .left ih
  | right _ ih => exact .right ih
  | call rowless _ ih => exact .call rowless ih
  | store rowless parameters _ ih => exact .store rowless parameters ih

theorem attempt {session other : Session α} (alike : Alike Eq session other) :
    Alike Eq session.attempt other.attempt := by
  induction alike with
  | done same => exact .done (congrArg Except.ok same)
  | fail => exact .done rfl
  | left _ ih => exact .left ih
  | right _ ih => exact .right ih
  | call rowless _ ih => exact .call rowless ih
  | store rowless parameters _ ih => exact .store rowless parameters ih

theorem each {act : γ → Session α} {others : γ → Session α'} {items : List γ}
    (turn : ∀ item ∈ items, Alike (fun _ _ => True) (act item) (others item)) :
    Alike (fun _ _ => True) (Session.each act items) (Session.each others items) := by
  induction items with
  | nil => exact .done trivial
  | cons item rest ih =>
    refine (turn item List.mem_cons_self).bind fun _ _ _ => ?_
    refine (ih fun later member => turn later (List.mem_cons_of_mem _ member)).bind fun _ _ _ => ?_
    exact .done trivial

theorem ask (rowless : request.Rowless) : Alike Eq (Session.ask request) (Session.ask request) :=
  .call rowless fun _ => .done rfl

theorem debug (alike : Alike related session other) :
    Alike related (Session.debug message >>= fun _ => session) (Session.debug text >>= fun _ => other) :=
  .left (.right alike)

theorem info (alike : Alike related session other) :
    Alike related (Session.info message >>= fun _ => session) (Session.info text >>= fun _ => other) :=
  .left (.right alike)

theorem noted {first second : Prop} [Decidable first] [Decidable second] (alike : Alike related session other) :
    Alike related (if first then Session.debug message >>= fun _ => session else session)
      (if second then Session.debug text >>= fun _ => other else other) := by
  split
  · split
    · exact .debug alike
    · exact .left alike
  · split
    · exact .right alike
    · exact alike

theorem send {parameters others : Parameters} (rowless : (Statement.read sql).Rowless)
    (alike : parameters.Alike others) : Alike Eq (Session.send sql parameters) (Session.send sql others) := by
  unfold Session.send
  refine .debug (.noted (.store rowless alike fun answer => ?_))
  cases answer with
  | error f => exact .fail
  | ok _ => exact .ask (show Request.close.Rowless from trivial)

end Alike

end Session

-- A connection to which stored reference systems make no difference, as long as nobody
-- asks for rows: states that are close answer alike and stay close.
structure Connection.Heedless (connection : Connection State) (close : State → State → Prop) : Prop where
  request : ∀ {request one two}, request.Rowless → close one two →
    (connection.answer request one).1 = (connection.answer request two).1 ∧
      close (connection.answer request one).2 (connection.answer request two).2
  stored : ∀ {sql given replaced one two}, (Statement.read sql).Rowless → given.Alike replaced → close one two →
    (connection.answer (.execute sql (some given)) one).1 =
        (connection.answer (.execute sql (some replaced)) two).1 ∧
      close (connection.answer (.execute sql (some given)) one).2
        (connection.answer (.execute sql (some replaced)) two).2

namespace Session

variable {connection : Connection State} {close : State → State → Prop}

theorem Alike.run {related : α → β → Prop} {session : Session α} {other : Session β}
    (alike : Alike related session other) (heedless : connection.Heedless close)
    (start : close one two) :
    SameEnd related (session.run connection one).result (other.run connection two).result ∧
      List.Forall₂ Event.Alike (session.calls connection one) (other.calls connection two) ∧
      close (session.run connection one).state (other.run connection two).state := by
  induction alike generalizing one two with
  | done same => exact ⟨.ok same, .nil, start⟩
  | fail => exact ⟨.error, .nil, start⟩
  | left _ ih => exact ih start
  | right _ ih => exact ih start
  | @call request resume others rowless _ ih =>
    obtain ⟨answered, near⟩ := heedless.request rowless start
    obtain ⟨result, asked, final⟩ := ih (connection.answer request one).1 near
    simp only [Session.run, Session.calls, Outcome.after, ← answered]
    exact ⟨result, .cons .same asked, final⟩
  -- The one request that may differ stores a row; its answer and what it leaves are close.
  | @store sql given replaced resume others rowless parameters _ ih =>
    obtain ⟨answered, near⟩ := heedless.stored rowless parameters start
    obtain ⟨result, asked, final⟩ := ih (connection.answer (.execute sql (some given)) one).1 near
    simp only [Session.run, Session.calls, Outcome.after, ← answered]
    exact ⟨result, .cons (.stored parameters) asked, final⟩

-- Nothing that a connection sees tells which of two sessions it was, but the reference
-- systems that are stored.
structure Indistinct (connection : Connection State) (close : State → State → Prop)
    (session other : Session α) (state : State) : Prop where
  result : (session.run connection state).result = (other.run connection state).result
  calls : List.Forall₂ Event.Alike (session.calls connection state) (other.calls connection state)
  state : close (session.run connection state).state (other.run connection state).state

theorem indistinct_parted {first : Session α} {next others : α → Session β}
    (heedless : connection.Heedless close)
    (near : close (first.run connection state).state (first.run connection state).state)
    (parted : ∀ value, Alike Eq (next value) (others value)) :
    Indistinct connection close (first >>= next) (first >>= others) state := by
  have one : (first >>= next).run connection state = _ := run_andThen connection first next state
  have two : (first >>= others).run connection state = _ := run_andThen connection first others state
  have early : List.Forall₂ Event.Alike (first.calls connection state) (first.calls connection state) :=
    List.forall₂_same.mpr fun _ _ => .same
  cases ended : (first.run connection state).result with
  | error fault =>
    simp only [Outcome.andThen, ended] at one two
    refine ⟨?_, ?_, ?_⟩
    · rw [one, two]
    · rw [Session.calls, Session.calls, one, two]
      exact early
    · rw [one, two]
      exact near
  | ok value =>
    simp only [Outcome.andThen, ended] at one two
    obtain ⟨result, asked, final⟩ := (parted value).run heedless near
    refine ⟨?_, ?_, ?_⟩
    · rw [one, two]
      exact result.eq
    · rw [Session.calls, Session.calls, one, two, List.filter_append, List.filter_append]
      exact List.rel_append early asked
    · rw [one, two]
      exact final

end Session

theorem Script.heedless : Script.connection.Heedless Eq where
  request := by
    intro request one two _ same
    subst same
    exact ⟨rfl, rfl⟩
  stored := by
    intro sql given replaced one two _ _ same
    subst same
    exact ⟨rfl, rfl⟩

structure Database.Alike (old : List (String × Parameters)) (one two : Database) : Prop where
  tables : one.tables = two.tables
  indexes : one.indexes = two.indexes
  rows : ∃ added others, one.rows = old ++ added ∧ two.rows = old ++ others ∧
    List.Forall₂ (fun row other => row.1 = other.1 ∧ row.2.Alike other.2) added others

inductive Database.SameEffect (old : List (String × Parameters)) :
    Except String (Database × ResultSet) → Except String (Database × ResultSet) → Prop where
  | refused : SameEffect old (.error message) (.error message)
  | accepted (alike : Alike old one two) : SameEffect old (.ok (one, reply)) (.ok (two, reply))

variable {old : List (String × Parameters)} {one two : Database}

theorem Database.Alike.refl (grown : old <+: one.rows) : Alike old one one := by
  obtain ⟨added, whole⟩ := grown
  refine ⟨rfl, rfl, added, added, whole.symm, whole.symm, ?_⟩
  exact List.forall₂_same.mpr fun _ _ => ⟨rfl, .refl _⟩

theorem Database.Alike.apply (alike : Alike old one two) (stored : given.Alike replaced)
    (rowless : statement.Rowless) :
    SameEffect old (one.apply given statement) (two.apply replaced statement) := by
  obtain ⟨tables, indexes, rows⟩ := one
  obtain ⟨_, _, otherRows⟩ := two
  obtain ⟨rfl, rfl, grown⟩ := alike
  unfold Database.apply
  cases statement with
  | createTable name =>
    dsimp only
    split
    · exact .refused
    · exact .accepted ⟨rfl, rfl, grown⟩
  | createIndex index table =>
    dsimp only
    split
    · exact .refused
    · split
      · exact .refused
      · exact .accepted ⟨rfl, rfl, grown⟩
  | dropIndex index =>
    dsimp only
    split
    · exact .accepted ⟨rfl, rfl, grown⟩
    · exact .refused
  | insert table =>
    dsimp only
    split
    · obtain ⟨added, others, rfl, rfl, alike⟩ := grown
      refine .accepted ⟨rfl, rfl, added ++ [(table, given)], others ++ [(table, replaced)], ?_, ?_, ?_⟩
      · exact List.append_assoc ..
      · exact List.append_assoc ..
      · exact List.rel_append alike (.cons ⟨rfl, stored⟩ .nil)
    · exact .refused
  | select written selection => exact absurd rfl (rowless written selection)
  | unreadable => exact .refused

structure Memory.Alike (old : List (String × Parameters)) (one two : Memory) : Prop where
  settings : one.settings = two.settings
  faults : one.faults = two.faults
  executed : one.executed = two.executed
  database : one.database.Alike old two.database

theorem Memory.Alike.execute {one two : Memory} (alike : Alike old one two) (stored : given.Alike replaced)
    (rowless : (Statement.read sql).Rowless) :
    (one.execute sql given).1 = (two.execute sql replaced).1 ∧
      Alike old (one.execute sql given).2 (two.execute sql replaced).2 := by
  obtain ⟨settings, faults, executed, database⟩ := one
  obtain ⟨_, _, _, other⟩ := two
  obtain ⟨rfl, rfl, rfl, near⟩ := alike
  unfold Memory.execute
  dsimp only
  cases faults (executed + 1) with
  | some message => exact ⟨rfl, rfl, rfl, rfl, near⟩
  | none =>
    have effect := near.apply stored rowless
    dsimp only at effect ⊢
    revert effect
    generalize database.apply given (Statement.read sql) = first, other.apply replaced (Statement.read sql) = second
    intro effect
    cases effect with
    | refused => exact ⟨rfl, rfl, rfl, rfl, near⟩
    | accepted after => exact ⟨rfl, rfl, rfl, rfl, after⟩

theorem Memory.heedless : Memory.connection.Heedless (Memory.Alike old) where
  request := by
    intro request one two rowless alike
    cases request with
    | execute sql parameters? => exact alike.execute (.refl _) rowless
    | close => exact ⟨rfl, alike⟩
    | commit => exact ⟨congrArg Settings.commit alike.settings, alike⟩
    | options => exact ⟨congrArg Settings.options alike.settings, alike⟩
    | isolation => exact ⟨congrArg Settings.isolation alike.settings, alike⟩
    | hasTable name schema? =>
      refine ⟨?_, alike⟩
      simp only [Memory.connection, Memory.answer, alike.database.tables]
    | indexNames table schema? =>
      refine ⟨?_, alike⟩
      simp only [Memory.connection, Memory.answer, Memory.indexNames, alike.database.tables, alike.database.indexes]
  stored := fun rowless stored alike => alike.execute stored rowless

theorem Database.apply_rows {db : Database} (applied : db.apply parameters statement = .ok (after, reply)) :
    db.rows <+: after.rows := by
  cases statement with
  | createTable name =>
    obtain ⟨_, rfl⟩ := createTable_accepted applied
    exact List.prefix_refl _
  | createIndex index table =>
    obtain ⟨_, _, rfl⟩ := createIndex_accepted applied
    exact List.prefix_refl _
  | dropIndex index =>
    simp only [Database.apply] at applied
    split at applied
    · cases applied
      exact List.prefix_refl _
    · cases applied
  | insert table =>
    obtain ⟨_, rfl⟩ := insert_accepted applied
    exact List.prefix_append _ _
  | select written selection =>
    simp only [Database.apply] at applied
    split at applied
    · cases applied
      exact List.prefix_refl _
    · cases applied
  | unreadable => cases applied

theorem Memory.answer_rows (request : Request) (m : Memory) :
    m.database.rows <+: (Memory.connection.answer request m).2.database.rows := by
  cases request with
  | execute sql parameters? =>
    simp only [Memory.connection, Memory.answer, Memory.execute]
    split
    · exact List.prefix_refl _
    · split
      · exact List.prefix_refl _
      · exact Database.apply_rows ‹_›
  | close | commit | options | isolation | hasTable | indexNames => exact List.prefix_refl _

theorem Memory.run_rows (session : Session α) (m : Memory) :
    m.database.rows <+: (session.run Memory.connection m).state.database.rows := by
  induction session generalizing m with
  | done | fail => exact List.prefix_refl _
  | note _ _ _ ih => exact ih m
  | call request _ ih => exact (answer_rows request m).trans (ih _ _)

end FeatureTables
