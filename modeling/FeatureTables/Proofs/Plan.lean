import FeatureTables.Proofs.Discipline
import FeatureTables.Proofs.Effects
import FeatureTables.Proofs.Verbs

namespace FeatureTables

open Session

variable {α β State : Type} {d : Dialect} {t : FeatureType} {schema? : Option String}

namespace Event

def sending? : Event → Option (String × Option Parameters)
  | call (.execute sql parameters?) _ => some (sql, parameters?)
  | _ => none

def look? : Event → Option (Except Failure Bool)
  | call (.hasTable ..) answer => some answer
  | _ => none

def isRefused : Event → Bool
  | call (.execute ..) (.error _) => true
  | call (.hasTable ..) (.error _) => true
  | call (.indexNames ..) (.error _) => true
  | call .commit (.error _) => true
  | _ => false

end Event

def sendings (events : List Event) : List (String × Option Parameters) := events.filterMap Event.sending?

namespace Catalog

-- The database refuses to make the catalog, and the next request finds it there all the same.
def Excused (d : Dialect) (schema? : Option String) (event : Event) (after : List Event) : Prop :=
  ∃ parameters? f, event = .call (.execute (createTable d schema?) parameters?) (.error f) ∧ f.isDatabase = true ∧
    after.find? Event.isCall = some (.call (.hasTable d.catalogTable schema?) (.ok true))

def Fatal (d : Dialect) (schema? : Option String) (event : Event) (after : List Event) : Prop :=
  event.isRefused = true ∧ ¬ Excused d schema? event after

theorem Fatal.sooner (fatal : Fatal d schema? event (after ++ later)) : Fatal d schema? event after := by
  refine ⟨fatal.1, fun excused => fatal.2 ?_⟩
  obtain ⟨parameters?, f, same, database, found⟩ := excused
  exact ⟨parameters?, f, same, database, by rw [List.find?_append, found]; rfl⟩

theorem calm_safe (calm : event.isRefused = false) : ¬ Fatal d schema? event after := by
  rintro ⟨refused, _⟩
  simp [calm] at refused

end Catalog

theorem suffix_append {earlier later : List Event} (place : event :: after <:+ earlier ++ later) :
    event :: after <:+ later ∨ ∃ rest, event :: rest <:+ earlier ∧ after = rest ++ later := by
  obtain ⟨before, whole⟩ := place
  rcases split_append whole.symm with ⟨rest, within, same⟩ | ⟨rest, _, within⟩
  · exact .inr ⟨rest, ⟨before, within.symm⟩, same⟩
  · exact .inl ⟨rest, within.symm⟩

theorem refusal_last {last : Event} (calm : ∀ event ∈ earlier, event.isRefused = false)
    (place : event :: after <:+ earlier ++ [last]) (refused : event.isRefused = true) :
    event = last ∧ after = [] := by
  rcases suffix_append place with within | ⟨rest, within, _⟩
  · rcases List.suffix_cons_iff.mp within with same | within
    · exact List.cons.inj same
    · cases List.suffix_nil.mp within
  · simp [calm event (within.subset List.mem_cons_self)] at refused

-- How far a history came with its statements: through all of them with every failure
-- excused, or up to a failure that was not.
inductive Followed (d : Dialect) (schema? : Option String) (plan : List (String × Option Parameters)) :
    List Event → Except Fault α → Prop where
  | through (value : α) (safe : ∀ event after, event :: after <:+ events → ¬ Catalog.Fatal d schema? event after)
      (whole : sendings events = plan) : Followed d schema? plan events (.ok value)
  | broken (fault : Fault) (met : ∃ event after, event :: after <:+ events ∧ Catalog.Fatal d schema? event after)
      (stopped : ∀ event after, event :: after <:+ events → Catalog.Fatal d schema? event after →
        sendings after = [])
      (part : sendings events <+: plan) : Followed d schema? plan events (.error fault)

namespace Followed

variable {plan first second : List (String × Option Parameters)} {events earlier later : List Event}

theorem append {value : β} {result : Except Fault α} (front : Followed d schema? first earlier (.ok value))
    (back : Followed d schema? second later result) :
    Followed d schema? (first ++ second) (earlier ++ later) result := by
  cases front with | through _ clear whole =>
  have joined : sendings (earlier ++ later) = first ++ sendings later := by
    rw [sendings, List.filterMap_append]
    exact congrArg (· ++ _) whole
  cases back with
  | through value safe rest =>
    refine .through value ?_ (rest ▸ joined)
    intro event after place fatal
    rcases suffix_append place with within | ⟨rest, within, rfl⟩
    · exact safe _ _ within fatal
    · exact clear _ _ within fatal.sooner
  | broken fault met stopped part =>
    refine .broken fault ?_ ?_ (joined ▸ (List.prefix_append_right_inj first).mpr part)
    · obtain ⟨event, after, place, fatal⟩ := met
      exact ⟨event, after, place.trans (List.suffix_append _ _), fatal⟩
    · intro event after place fatal
      rcases suffix_append place with within | ⟨rest, within, rfl⟩
      · exact stopped _ _ within fatal
      · exact absurd fatal.sooner (clear _ _ within)

theorem widen {fault : Fault} (followed : Followed d schema? first events (.error fault : Except Fault α)) :
    Followed d schema? (first ++ second) events (.error fault : Except Fault β) := by
  cases followed with
  | broken _ met stopped part => exact .broken fault met stopped (part.trans (List.prefix_append _ _))

theorem sent {result : Except Fault α} (followed : Followed d schema? plan events result) :
    sendings events <+: plan := by
  cases followed with
  | through _ _ whole => exact whole ▸ List.prefix_refl _
  | broken _ _ _ part => exact part

theorem answered {value : α} {other : β} (followed : Followed d schema? plan events (.ok value)) :
    Followed d schema? plan events (.ok other) := by
  cases followed with
  | through _ safe whole => exact .through other safe whole

theorem quiet {value : α} (quiet : ∀ event ∈ events, event.isRefused = false ∧ event.sending? = none) :
    Followed d schema? [] events (.ok value) := by
  refine .through value ?_ (List.filterMap_eq_nil_iff.mpr fun event member => (quiet event member).2)
  exact fun event after place => Catalog.calm_safe (quiet event (place.subset List.mem_cons_self)).1

theorem refused {fault : Fault} (quiet : ∀ event ∈ earlier, event.isRefused = false)
    (last : event.isRefused = true) (sent : sendings (earlier ++ [event]) = plan) :
    Followed d schema? plan (earlier ++ [event]) (.error fault : Except Fault α) := by
  refine .broken fault ⟨event, [], List.suffix_append _ _, last, ?_⟩ ?_ (sent ▸ List.prefix_refl _)
  · rintro ⟨_, _, _, _, found⟩
    cases found
  · intro other after place fatal
    exact (refusal_last quiet place fatal.1).2 ▸ rfl

end Followed

theorem calm_notes {notes : List Event} (quiet : ∀ event ∈ notes, event.isCall = false) :
    ∀ event ∈ notes, event.isRefused = false ∧ event.sending? = none := by
  intro event member
  cases event with
  | note => exact ⟨rfl, rfl⟩
  | call => cases quiet _ member

theorem sendings_notes {notes rest : List Event} (quiet : ∀ event ∈ notes, event.isCall = false) :
    sendings (notes ++ rest) = sendings rest := by
  rw [sendings, List.filterMap_append, List.filterMap_eq_nil_iff.mpr fun event member =>
    (calm_notes quiet event member).2]
  rfl

theorem Session.Sent.followed {result : Except Fault Unit} (sent : Sent sql parameters events result) :
    Followed d schema? [(sql, some parameters)] events result := by
  cases sent with
  | refused notes quiet =>
    exact .refused (fun event member => (calm_notes quiet event member).1) rfl (sendings_notes quiet)
  | released notes quiet =>
    refine .through () ?_ (sendings_notes quiet)
    intro event after place
    refine Catalog.calm_safe ?_
    rcases List.mem_append.mp (place.subset List.mem_cons_self) with early | late
    · exact (calm_notes quiet event early).1
    · simp only [List.mem_cons, List.not_mem_nil, or_false] at late
      rcases late with rfl | rfl <;> rfl

theorem Session.Sent.sendings {result : Except Fault Unit} (sent : Sent sql parameters events result) :
    sendings events = [(sql, some parameters)] := by
  cases sent with
  | refused notes quiet | released notes quiet => exact sendings_notes quiet

theorem Session.Sent.unseen {result : Except Fault Unit} (sent : Sent sql parameters events result) :
    events.findSome? Event.look? = none := by
  have calm {notes : List Event} (quiet : ∀ event ∈ notes, event.isCall = false) :
      notes.findSome? Event.look? = none :=
    List.findSome?_eq_none_iff.mpr fun event member => by
      cases event with
      | note => rfl
      | call => cases quiet _ member
  cases sent with
  | refused notes quiet | released notes quiet =>
    rw [List.findSome?_append, calm quiet]
    rfl

def Session.Follows (d : Dialect) (schema? : Option String) (plan : List (String × Option Parameters))
    (session : Session α) : Prop :=
  ∀ events result, session.Path events result → Followed d schema? plan events result

namespace Session

theorem follows_done (value : α) : (pure value : Session α).Follows d schema? [] := by
  intro events result path
  obtain ⟨rfl, rfl⟩ := path.done_parts
  exact .quiet (List.forall_mem_nil _)

theorem follows_bind {session : Session α} {next : α → Session β} (one : session.Follows d schema? first)
    (others : ∀ value, (next value).Follows d schema? second) :
    (session >>= next).Follows d schema? (first ++ second) := by
  intro events result path
  rcases path.bind_parts with ⟨fault, failed, rfl⟩ | ⟨value, earlier, later, before, after, rfl⟩
  · exact (one _ _ failed).widen
  · exact (one _ _ before).append (others value _ _ after)

theorem follows_answer {session : Session α} {answer : α → β} (follows : session.Follows d schema? plan) :
    (session >>= fun value => pure (answer value)).Follows d schema? plan := by
  rw [← List.append_nil plan]
  exact follows_bind follows fun value => follows_done (answer value)

theorem follows_send : (send sql parameters).Follows d schema? [(sql, some parameters)] :=
  fun _ _ path => (send_path path).followed

theorem follows_each {act : α → Session β} {write : α → String × Option Parameters} {items : List α}
    (one : ∀ item ∈ items, (act item).Follows d schema? [write item]) :
    (each act items).Follows d schema? (items.map write) := by
  induction items with
  | nil => exact follows_done _
  | cons item rest ih =>
    refine follows_bind (one item List.mem_cons_self) fun _ => follows_answer ?_
    exact ih fun other member => one other (List.mem_cons_of_mem _ member)

end Session

namespace Catalog

theorem resolve_path {result : Except Fault Datum} (path : (resolve d crs).Path events result) :
    (∀ event ∈ events, event.isCall = false) ∧ result = .ok (code d crs) := by
  rcases resolve_exact d crs with resolved | ⟨message, resolved⟩
  · rw [resolved] at path
    obtain ⟨rfl, rfl⟩ := path.done_parts
    exact ⟨List.forall_mem_nil _, rfl⟩
  · rw [resolved] at path
    obtain ⟨later, tail, rfl⟩ := path.debug_bind_parts
    obtain ⟨rfl, rfl⟩ := tail.done_parts
    exact ⟨List.forall_mem_singleton.mpr rfl, rfl⟩

theorem follows_record {table : String} : (record d schema? table c).Follows d schema?
    [(insert d schema?, some (described d schema? table c).parameters)] := by
  intro events result path
  rcases path.bind_parts with ⟨fault, failed, rfl⟩ | ⟨value, earlier, later, before, after, rfl⟩
  · cases (resolve_path failed).2
  · obtain ⟨quiet, same⟩ := resolve_path before
    cases same
    have noted : Followed d schema? [] earlier (.ok (code d c.crs)) := .quiet (calm_notes quiet)
    exact noted.append (follows_answer follows_send _ _ after)

theorem record_sendings {table : String} {result : Except Fault CatalogEntry}
    (path : (record d schema? table c).Path events result) :
    sendings events = [(insert d schema?, some (described d schema? table c).parameters)] := by
  rcases path.bind_parts with ⟨fault, failed, rfl⟩ | ⟨value, earlier, later, before, after, rfl⟩
  · cases (resolve_path failed).2
  · obtain ⟨quiet, same⟩ := resolve_path before
    cases same
    rw [sendings_notes quiet]
    rcases after.bind_parts with ⟨fault, failed, rfl⟩ | ⟨value, earlier, later, sent, last, rfl⟩
    · exact (send_path failed).sendings
    · obtain ⟨rfl, rfl⟩ := last.done_parts
      rw [List.append_nil]
      exact (send_path sent).sendings

def ensurePlan (d : Dialect) (schema? : Option String) : Except Failure Bool → List (String × Option Parameters)
  | .ok false => [(createTable d schema?, some [])]
  | _ => []

section

variable {notes rest : List Event} {f : Failure}

theorem followed_recovered {value : α} (quiet : ∀ event ∈ notes, event.isCall = false)
    (database : f.isDatabase = true) (calm : ∀ event ∈ rest, event.isCall = false) :
    Followed d schema? [(createTable d schema?, some [])]
      ((notes ++ [refusal d schema? f]) ++ lookedFor d schema? (.ok true) :: rest) (.ok value) := by
  have unsent : sendings rest = [] :=
    List.filterMap_eq_nil_iff.mpr fun event member => (calm_notes calm event member).2
  refine .through value ?_ ?_
  · intro event after place fatal
    rcases suffix_append place with within | ⟨more, within, rfl⟩
    · refine absurd fatal (calm_safe ?_)
      rcases List.mem_cons.mp (within.subset List.mem_cons_self) with rfl | member
      · rfl
      · exact (calm_notes calm event member).1
    · obtain ⟨rfl, rfl⟩ := refusal_last (fun event member => (calm_notes quiet event member).1) within fatal.1
      exact fatal.2 ⟨some [], f, rfl, database, rfl⟩
  · rw [List.append_assoc, sendings_notes quiet]
    exact congrArg (_ :: ·) unsent

theorem followed_abandoned {answer : Except Failure Bool} {fault : Fault}
    (quiet : ∀ event ∈ notes, event.isCall = false) (missing : answer ≠ .ok true) :
    Followed d schema? [(createTable d schema?, some [])]
      ((notes ++ [refusal d schema? f]) ++ [lookedFor d schema? answer]) (.error fault : Except Fault α) := by
  refine .broken fault ?_ ?_ ?_
  · refine ⟨refusal d schema? f, [lookedFor d schema? answer], ⟨notes, by simp⟩, rfl, ?_⟩
    rintro ⟨_, _, _, _, found⟩
    cases found
    exact missing rfl
  · intro event after place fatal
    rcases suffix_append place with within | ⟨more, within, rfl⟩
    · rcases List.suffix_cons_iff.mp within with same | within
      · exact (List.cons.inj same).2 ▸ rfl
      · cases List.suffix_nil.mp within
    · obtain ⟨rfl, rfl⟩ := refusal_last (fun event member => (calm_notes quiet event member).1) within fatal.1
      rfl
  · rw [List.append_assoc, sendings_notes quiet]
    exact List.prefix_refl _

end

theorem Ensured.followed {result : Except Fault Bool} (ensured : Ensured d schema? events result) :
    ∃ answer, events.findSome? Event.look? = some answer ∧
      Followed d schema? (ensurePlan d schema? answer) events result := by
  have looked (present : Bool) :
      Followed d schema? [] [lookedFor d schema? (.ok present)] (.ok present) :=
    .quiet (List.forall_mem_singleton.mpr ⟨rfl, rfl⟩)
  cases ensured with
  | unread f =>
    have refused : Followed d schema? [] ([] ++ [lookedFor d schema? (.error f)])
        (.error (faultOf .metadata f) : Except Fault Bool) := .refused (List.forall_mem_nil _) rfl rfl
    exact ⟨.error f, rfl, refused⟩
  | known => exact ⟨.ok true, rfl, .quiet (List.forall_mem_singleton.mpr ⟨rfl, rfl⟩)⟩
  | made sent => exact ⟨.ok false, rfl, (looked false).append sent.followed.answered⟩
  | stopped quiet other =>
    refine ⟨.ok false, rfl, (looked false).append (.refused ?_ rfl (sendings_notes quiet))⟩
    exact fun event member => (calm_notes quiet event member).1
  | recovered quiet database message =>
    refine ⟨.ok false, rfl, (looked false).append (followed_recovered quiet database ?_)⟩
    exact List.forall_mem_singleton.mpr rfl
  | missing quiet database => exact ⟨.ok false, rfl, (looked false).append (followed_abandoned quiet (by simp))⟩
  | unreadAgain quiet database other =>
    exact ⟨.ok false, rfl, (looked false).append (followed_abandoned quiet (by simp))⟩

end Catalog

namespace Table

inductive Step where
  | table
  | catalog
  | index (c : Column)
  | row (c : Column)

namespace Step

def verb : Step → String
  | table | catalog => "CREATE TABLE "
  | index _ => "CREATE INDEX "
  | row _ => "UPSERT INTO "

def sending (d : Dialect) (t : FeatureType) : Step → String × Option Parameters
  | table => (d.createTable t, some [])
  | catalog => (Catalog.createTable d t.schema?, some [])
  | index c => (Index.createSql d t.schema? t.typeName (d.indexName c.name) c.name, some [])
  | row c => (Catalog.insert d t.schema?, some (Catalog.described d t.schema? t.typeName c).parameters)

end Step

theorem Step.sending_verb (phoenix : d.backend = .phoenix) (step : Step) :
    step.verb.toList <+: (step.sending d t).1.toList := by
  cases step with
  | table => exact Dialect.createTable_starts phoenix
  | catalog => exact Catalog.createTable_starts phoenix
  | index => exact Index.createSql_starts phoenix
  | row => exact Catalog.insert_starts phoenix

def steps (t : FeatureType) (look? : Option (Except Failure Bool)) : List Step :=
  .table :: (match look? with | some (.ok false) => [.catalog] | _ => []) ++
    t.indexedColumns.map .index ++ t.geometryColumns.map .row

theorem sendings_steps : (steps t look?).map (Step.sending d t) = [(d.createTable t, some [])] ++
    ((look?.toList.flatMap (Catalog.ensurePlan d t.schema?)) ++
      (t.indexedColumns.map (fun c => Step.sending d t (.index c)) ++
        t.geometryColumns.map (fun c => Step.sending d t (.row c)))) := by
  rcases look? with _ | _ | _ | _ <;> simp [steps, Catalog.ensurePlan, Step.sending, Function.comp_def]

def completion (d : Dialect) (schema? : Option String) (t : FeatureType) : List (String × Option Parameters) :=
  t.indexedColumns.map (fun c => (Index.createSql d schema? t.typeName (d.indexName c.name) c.name, some [])) ++
    t.geometryColumns.map fun c => (Catalog.insert d schema?, some (Catalog.described d schema? t.typeName c).parameters)

theorem complete_followed (phoenix : d.backend = .phoenix) {result : Except Fault Unit}
    (path : (complete d schema? t).Path events result) :
    Followed d schema? ((events.findSome? Event.look?).toList.flatMap (Catalog.ensurePlan d schema?) ++
      completion d schema? t) events result := by
  have follows : (do
      let _ ← Index.createGeometryIndexes d schema? t
      let _ ← each (Catalog.record d schema? t.typeName) t.geometryColumns
      return ()).Follows d schema? (completion d schema? t) :=
    follows_bind (follows_each fun _ _ => follows_answer follows_send) fun _ =>
      follows_answer (follows_each fun _ _ => Catalog.follows_record)
  unfold complete at path
  simp only [phoenix] at path
  rcases path.bind_parts with ⟨fault, failed, rfl⟩ | ⟨made, earlier, later, ensured, others, rfl⟩
  · obtain ⟨answer, seen, followed⟩ := (Catalog.ensure_path failed).followed
    rw [seen]
    simpa using followed.widen
  · obtain ⟨answer, seen, followed⟩ := (Catalog.ensure_path ensured).followed
    rw [List.findSome?_append, seen]
    simpa using followed.append (follows _ _ others)

theorem create_followed (phoenix : d.backend = .phoenix) {result : Except Fault Unit}
    (path : (create d t).Path events result) :
    Followed d t.schema? ((steps t (events.findSome? Event.look?)).map (Step.sending d t)) events result := by
  rw [sendings_steps]
  rcases path.bind_parts with ⟨fault, failed, rfl⟩ | ⟨_, earlier, later, before, rest, rfl⟩
  · exact (send_path failed).followed.widen
  rw [List.findSome?_append, (send_path before).unseen, Option.none_or]
  exact (send_path before).followed.append (complete_followed phoenix rest)

-- A creation sends its statements in order and stops where one fails for good.
theorem creation_planned (d : Dialect) (phoenix : d.backend = .phoenix) (t : FeatureType)
    (connection : Connection State) (state : State) :
    let outcome := ((Operation.createTable t).session d).run connection state
    let plan := steps t (outcome.events.findSome? Event.look?)
    (∀ step ∈ plan, step.verb.toList <+: (step.sending d t).1.toList) ∧
      sendings outcome.events <+: plan.map (Step.sending d t) ∧
      (outcome.result = .ok .nothing ∧ sendings outcome.events = plan.map (Step.sending d t) ∧
          (∀ event after, event :: after <:+ outcome.events → ¬ Catalog.Fatal d t.schema? event after) ∨
        (∃ fault, outcome.result = .error fault) ∧
          (∃ event after, event :: after <:+ outcome.events ∧ Catalog.Fatal d t.schema? event after) ∧
          ∀ event after, event :: after <:+ outcome.events → Catalog.Fatal d t.schema? event after →
            sendings after = []) := by
  intro outcome plan
  refine ⟨fun step _ => step.sending_verb phoenix, ?_⟩
  have path : (create d t >>= fun _ => pure Reply.nothing).Path outcome.events outcome.result := run_path _ _ _
  rcases path.bind_parts with ⟨fault, failed, same⟩ | ⟨_, earlier, later, before, rest, whole⟩
  · cases create_followed phoenix failed with
    | broken _ met stopped part => exact ⟨part, .inr ⟨⟨fault, same⟩, met, stopped⟩⟩
  · obtain ⟨rfl, same⟩ := rest.done_parts
    rw [List.append_nil] at whole
    subst whole
    cases create_followed phoenix before with
    | through _ safe whole => exact ⟨whole ▸ List.prefix_refl _, .inl ⟨same, whole, safe⟩⟩

theorem creation_planned_race :
    let roads := FeatureType.sample "roads" "geom"
    let taken : Failure := ⟨.database, "table geometry_columns already exists"⟩
    let settings : Settings := ⟨[], .text "READ COMMITTED", none⟩
    let script : Script := ⟨settings, [.ok .nothing, .error taken], [.ok false, .ok true], []⟩
    let outcome := ((Operation.createTable roads).session .phoenix).run Script.connection script
    outcome.result = .ok .nothing ∧
      sendings outcome.events = (steps roads (some (.ok false))).map (Step.sending .phoenix roads) := by
  intro roads taken settings script outcome
  obtain ⟨_, _, ⟨finished, whole, _⟩ | ⟨⟨fault, failed⟩, _⟩⟩ :=
    creation_planned .phoenix rfl roads Script.connection script
  · exact ⟨finished, whole⟩
  · cases failed

end Table

end FeatureTables
