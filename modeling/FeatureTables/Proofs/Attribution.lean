import FeatureTables.Proofs.Account

namespace FeatureTables

open Session

variable {query? : Option Query} {events earlier later : List Event} {d : Dialect} {table : String} {c : Column}

namespace Catalog

def lookedFor (d : Dialect) (schema? : Option String) (answer : Except Failure Bool) : Event :=
  .call (.hasTable d.catalogTable schema?) answer

def refusal (d : Dialect) (schema? : Option String) (f : Failure) : Event :=
  .call (.execute (createTable d schema?) (some [])) (.error f)

theorem isPresent_path {result : Except Fault Bool} (path : (isPresent d schema?).Path events result) :
    ∃ answer, events = [lookedFor d schema? answer] ∧
      result = match answer with
        | .ok present => .ok present
        | .error f => .error (faultOf .metadata f) := by
  obtain ⟨answer, later, tail, rfl⟩ := path.ask_bind_parts
  cases answer with
  | ok =>
    obtain ⟨rfl, rfl⟩ := tail.done_parts
    exact ⟨_, rfl, rfl⟩
  | error =>
    obtain ⟨rfl, rfl⟩ := tail.fail_parts
    exact ⟨_, rfl, rfl⟩

theorem clean_lookedFor : Clean [lookedFor d schema? answer] :=
  .idle (List.forall_mem_singleton.mpr ⟨⟨rfl, rfl⟩, rfl⟩)

theorem stems_lookedFor : (faultOf .metadata f).Stems query? [lookedFor d schema? (.error f)] :=
  stems_faultOf rfl List.mem_cons_self fun database => ⟨database, [], _, _, [], rfl, List.forall_mem_nil _⟩

theorem accounted_isPresent : (isPresent d schema?).Accounted query? := by
  intro events result path
  obtain ⟨answer, rfl, rfl⟩ := isPresent_path path
  refine ⟨clean_lookedFor, ?_⟩
  cases answer with
  | ok => exact fun _ failed => nomatch failed
  | error f =>
    rintro _ ⟨⟩
    exact stems_lookedFor

-- All that making sure of the catalog can come to. A second look follows where the
-- database refuses, and only there.
inductive Ensured (d : Dialect) (schema? : Option String) : List Event → Except Fault Bool → Prop where
  | unread (f : Failure) : Ensured d schema? [lookedFor d schema? (.error f)] (.error (faultOf .metadata f))
  | known : Ensured d schema? [lookedFor d schema? (.ok true)] (.ok false)
  | made (sent : Sent (createTable d schema?) [] sending (.ok ())) :
      Ensured d schema? (lookedFor d schema? (.ok false) :: sending) (.ok true)
  | stopped (quiet : ∀ event ∈ notes, event.isCall = false) (other : f.isDatabase = false) :
      Ensured d schema? (lookedFor d schema? (.ok false) :: (notes ++ [refusal d schema? f])) (.error (.passed f))
  | recovered (quiet : ∀ event ∈ notes, event.isCall = false) (database : f.isDatabase = true) (message : String) :
      Ensured d schema? (lookedFor d schema? (.ok false) :: ((notes ++ [refusal d schema? f]) ++
        [lookedFor d schema? (.ok true), .note .info message])) (.ok false)
  | missing (quiet : ∀ event ∈ notes, event.isCall = false) (database : f.isDatabase = true) :
      Ensured d schema? (lookedFor d schema? (.ok false) :: ((notes ++ [refusal d schema? f]) ++
        [lookedFor d schema? (.ok false)])) (.error (.statement .execution (createTable d schema?) f))
  | unreadAgain (quiet : ∀ event ∈ notes, event.isCall = false) (database : f.isDatabase = true) (other : Failure) :
      Ensured d schema? (lookedFor d schema? (.ok false) :: ((notes ++ [refusal d schema? f]) ++
        [lookedFor d schema? (.error other)])) (.error (faultOf .metadata other))

theorem ensure_path {result : Except Fault Bool} (path : (ensure d schema?).Path events result) :
    Ensured d schema? events result := by
  rcases path.bind_parts with ⟨fault, failed, rfl⟩ | ⟨present, earlier, later, look, rest, rfl⟩
  · obtain ⟨answer, rfl, same⟩ := isPresent_path failed
    cases answer with
    | ok => cases same
    | error f =>
      cases same
      exact .unread f
  obtain ⟨answer, rfl, same⟩ := isPresent_path look
  cases answer with
  | error => cases same
  | ok =>
    cases same
    cases present with
    | true =>
      obtain ⟨rfl, rfl⟩ := rest.done_parts
      exact .known
    | false =>
      obtain ⟨inner, sending, last, sent, after, rfl⟩ := rest.attempt_bind_parts
      cases send_path sent with
      | released notes quiet =>
        obtain ⟨rfl, rfl⟩ := after.done_parts
        rw [List.append_nil]
        exact .made (.released notes quiet)
      | refused notes quiet =>
        rename_i f
        cases database : f.isDatabase with
        | false =>
          simp only [faultOf, database] at after
          obtain ⟨rfl, rfl⟩ := after.fail_parts
          rw [List.append_nil]
          exact .stopped quiet database
        | true =>
          simp only [faultOf, database, if_true] at after
          rcases after.bind_parts with ⟨fault, failed, rfl⟩ | ⟨again, looked, final, look, tail, rfl⟩
          · obtain ⟨answer, rfl, same⟩ := isPresent_path failed
            cases answer with
            | ok => cases same
            | error other =>
              cases same
              exact .unreadAgain quiet database other
          · obtain ⟨answer, rfl, same⟩ := isPresent_path look
            cases answer with
            | error => cases same
            | ok =>
              cases same
              cases again with
              | true =>
                obtain ⟨more, ended, rfl⟩ := tail.info_bind_parts
                obtain ⟨rfl, rfl⟩ := ended.done_parts
                exact .recovered quiet database _
              | false =>
                obtain ⟨rfl, rfl⟩ := tail.fail_parts
                exact .missing quiet database

theorem accounted_ensure : (ensure d schema?).Accounted query? := by
  intro events result path
  cases ensure_path path with
  | unread f =>
    refine ⟨clean_lookedFor, ?_⟩
    rintro _ ⟨⟩
    exact stems_lookedFor
  | known => exact .ok clean_lookedFor
  | made sent => exact .ok (clean_lookedFor.append sent.clean)
  | stopped quiet other =>
    refine .after clean_lookedFor ⟨(Clean.notes quiet).append .refused, ?_⟩
    rintro _ ⟨⟩
    exact ⟨other, _, List.mem_append_right _ List.mem_cons_self, rfl⟩
  | recovered quiet database message =>
    have again : Clean [lookedFor d schema? (.ok true), .note .info message] := clean_lookedFor.append (.note .nil)
    exact .ok (clean_lookedFor.append (((Clean.notes quiet).append .refused).append again))
  | missing quiet database =>
    refine .after clean_lookedFor ⟨((Clean.notes quiet).append .refused).append clean_lookedFor, ?_⟩
    rintro _ ⟨⟩
    refine ⟨database, _, some [], _, [lookedFor d schema? (.ok false)], List.append_assoc _ _ _, .inl rfl, ?_⟩
    exact List.forall_mem_singleton.mpr rfl
  | unreadAgain quiet database other =>
    refine .after clean_lookedFor ⟨((Clean.notes quiet).append .refused).append clean_lookedFor, ?_⟩
    rintro _ ⟨⟩
    exact .after stems_lookedFor

theorem accounted_resolve : (resolve d crs).Accounted query? := by
  unfold resolve
  split
  · exact accounted_done _
  · split
    · exact accounted_done _
    · exact accounted_debug_bind (accounted_done _)

theorem accounted_record : (record d schema? table c).Accounted query? :=
  accounted_bind accounted_resolve fun _ => accounted_bind accounted_send fun _ => accounted_done _

def asking (d : Dialect) (selected : List String) (schema? column? : Option String) : Query :=
  ⟨select d selected schema? column?, selected⟩

structure Asked (query : Query) (events : List Event) (result : Except Fault (List (List Cell))) : Prop where
  clean : Clean events
  failed : ∀ fault, result = .error fault → (∃ cause, fault = .catalog cause) ∨ fault.Stems (some query) events
  rows : ∀ rows, result = .ok rows → ∀ row ∈ rows, Delivered query row events

theorem Asked.noted {query : Query} {result : Except Fault (List (List Cell))}
    (asked : Asked query events result) :
    Asked query (.note level message :: events) result where
  clean := asked.clean.note
  failed := fun fault failed => (asked.failed fault failed).imp_right fun stems =>
    (Fault.Stems.after stems : fault.Stems (some query) ([.note level message] ++ events))
  rows := fun rows answered row listed => (asked.rows rows answered row listed).within (List.subset_cons_self _ _)

theorem asked_query {query : Query} {result : Except Fault (List (List Cell))}
    (path : (Session.query query.sql parameters? .catalog fun reply => .ok reply.rows).Path events result) :
    Asked query events result := by
  have blamed {event : Event} {f : Failure} (met : event.failure? = some f) (here : event ∈ events) :
      (∃ cause, faultOf .catalog f = .catalog cause) ∨ (faultOf .catalog f).Stems (some query) events := by
    cases database : f.isDatabase with
    | true => exact .inl ⟨f, by simp [faultOf, database]⟩
    | false => exact .inr (stems_faultOf met here fun other => by simp [database] at other)
  cases Session.query_path path with
  | refused =>
    refine ⟨.refused, ?_, by rintro _ ⟨⟩⟩
    rintro _ ⟨⟩
    exact blamed rfl List.mem_cons_self
  | broken reply ended =>
    refine ⟨.returned, ?_, by rintro _ ⟨⟩⟩
    rintro _ ⟨⟩
    have met : (Event.call (.execute query.sql parameters?) (.ok reply)).failure? = some _ := ended
    exact blamed met List.mem_cons_self
  | unread _ bad => cases bad
  | answered reply good =>
    cases good
    refine ⟨.returned, by rintro _ ⟨⟩, ?_⟩
    rintro _ ⟨⟩ row listed
    exact ⟨parameters?, reply, List.mem_cons_self, listed⟩

theorem query_path {result : Except Fault (List (List Cell))}
    (path : (query d selected schema? table column?).Path events result) :
    Asked (asking d selected schema? column?) events result := by
  obtain ⟨_, noted, rfl⟩ := path.debug_bind_parts
  obtain ⟨_, asked, rfl⟩ := noted.debug_bind_parts
  exact (asked_query asked).noted.noted

theorem mapM_some {read : β → Option γ} {items : List β} (all : items.mapM read = some values) :
    ∀ value ∈ values, ∃ item ∈ items, read item = some value := by
  intro value member
  have listed : some value ∈ items.map read := mapM_eq_some_iff.mp all ▸ List.mem_map_of_mem member
  exact List.mem_map.mp listed

theorem mapM_none {read : β → Option γ} {items : List β} (some : items.mapM read = none) :
    ∃ item ∈ items, read item = none := by
  induction items with
  | nil => cases some
  | cons item rest ih =>
    rw [List.mapM_cons] at some
    cases first : read item with
    | none => exact ⟨item, List.mem_cons_self, first⟩
    | some value =>
      cases others : rest.mapM read with
      | none =>
        obtain ⟨bad, listed, met⟩ := ih others
        exact ⟨bad, List.mem_cons_of_mem _ listed, met⟩
      | some more => simp [first, others] at some

theorem ofCells_none (unfit : CatalogRow.ofCells? given = none) : given.length ≠ columnNames.length := by
  intro width
  rcases given with _ | ⟨_, _ | ⟨_, _ | ⟨_, _ | ⟨_, _ | ⟨_, _ | ⟨_, _ | ⟨_, _⟩⟩⟩⟩⟩⟩⟩ <;>
    simp [CatalogRow.ofCells?, columnNames, columns] at unfit width

theorem ofCells_column {entry : CatalogRow} (fit : CatalogRow.ofCells? given = some entry) :
    given[2]? = some entry.column := by
  unfold CatalogRow.ofCells? at fit
  split at fit
  · cases fit
    rfl
  · cases fit

theorem readRows_ok {entries : List CatalogRow} (read : readRows cells = .ok entries) :
    ∀ entry ∈ entries, ∃ given ∈ cells, CatalogRow.ofCells? given = some entry := by
  unfold readRows at read
  cases fits : cells.mapM CatalogRow.ofCells? with
  | none => simp [fits] at read
  | some made =>
    simp only [fits, Except.ok.injEq] at read
    exact read ▸ mapM_some fits

theorem readRows_error (failed : readRows cells = .error fault) :
    fault = .rowWidth ∧ ∃ given ∈ cells, given.length ≠ columnNames.length := by
  unfold readRows at failed
  cases fits : cells.mapM CatalogRow.ofCells? with
  | some made => simp [fits] at failed
  | none =>
    simp only [fits, Except.error.injEq] at failed
    obtain ⟨given, listed, unfit⟩ := mapM_none fits
    exact ⟨failed.symm, given, listed, ofCells_none unfit⟩

theorem rows_path {result : Except Fault (List CatalogRow)} (path : (rows d schema? table).Path events result) :
    Account (some (asking d columnNames schema? none)) events result ∧
      ∀ entries, result = .ok entries → ∀ entry ∈ entries, ∃ given,
        Delivered (asking d columnNames schema? none) given events ∧
          CatalogRow.ofCells? given = some entry := by
  obtain ⟨inner, earlier, later, before, after, rfl⟩ := path.attempt_bind_parts
  have asked := query_path before
  cases inner with
  | ok cells =>
    obtain ⟨rfl, rfl⟩ := after.ofExcept_parts
    rw [List.append_nil]
    refine ⟨⟨asked.clean, ?_⟩, ?_⟩
    · intro fault failed
      obtain ⟨rfl, given, listed, width⟩ := readRows_error failed
      exact ⟨_, rfl, given, asked.rows cells rfl given listed, width⟩
    · intro entries read entry member
      obtain ⟨given, listed, same⟩ := readRows_ok read entry member
      exact ⟨given, asked.rows cells rfl given listed, same⟩
  | error fault =>
    rcases asked.failed fault rfl with ⟨cause, rfl⟩ | stems
    · obtain ⟨last, ended, rfl⟩ := after.debug_bind_parts
      obtain ⟨rfl, rfl⟩ := ended.done_parts
      refine ⟨.ok (asked.clean.append (.note .nil)), ?_⟩
      rintro _ ⟨⟩ entry member
      cases member
    · cases fault with
      | catalog => cases stems
      | _ =>
        obtain ⟨rfl, rfl⟩ := after.fail_parts
        rw [List.append_nil]
        refine ⟨⟨asked.clean, ?_⟩, nofun⟩
        rintro _ ⟨⟩
        exact stems

theorem accounted_rows : (rows d schema? table).Accounted (some (asking d columnNames schema? none)) :=
  fun _ _ path => (rows_path path).1

theorem accounted_srid : (srid d schema? table column?).Accounted (some (asking d ["srid"] schema? column?)) := by
  intro events result path
  obtain ⟨inner, earlier, later, before, after, rfl⟩ := path.attempt_bind_parts
  have asked := query_path before
  cases inner with
  | ok cells =>
    rcases cells with _ | ⟨_ | ⟨srid, others⟩, rest⟩
    · obtain ⟨rfl, rfl⟩ := after.done_parts
      exact .ok (asked.clean.append .nil)
    · obtain ⟨rfl, rfl⟩ := after.fail_parts
      rw [List.append_nil]
      refine ⟨asked.clean, ?_⟩
      rintro _ ⟨⟩
      exact ⟨_, rfl, [], asked.rows _ rfl [] List.mem_cons_self, nofun⟩
    · obtain ⟨rfl, rfl⟩ := after.done_parts
      exact .ok (asked.clean.append .nil)
  | error fault =>
    rcases asked.failed fault rfl with ⟨cause, rfl⟩ | stems
    · obtain ⟨last, ended, rfl⟩ := after.debug_bind_parts
      obtain ⟨rfl, rfl⟩ := ended.done_parts
      exact .ok (asked.clean.append (.note .nil))
    · cases fault with
      | catalog => cases stems
      | _ =>
        obtain ⟨rfl, rfl⟩ := after.fail_parts
        rw [List.append_nil]
        refine ⟨asked.clean, ?_⟩
        rintro _ ⟨⟩
        exact stems

end Catalog

namespace Index

theorem accounted_create : (create d schema? table index column).Accounted query? := accounted_send

theorem accounted_createFor : (createFor d schema? table column).Accounted query? :=
  accounted_bind accounted_create fun _ => accounted_done _

theorem isPresent_path {result : Except Fault Bool} (path : (isPresent schema? table index).Path events result) :
    Account query? events result ∧ ∀ event ∈ events, event.isExecute = false := by
  obtain ⟨answer, later, tail, rfl⟩ := path.ask_bind_parts
  have clean : Clean [.call (.indexNames table schema?) answer] :=
    .idle (List.forall_mem_singleton.mpr ⟨⟨rfl, rfl⟩, rfl⟩)
  cases answer with
  | ok names =>
    obtain ⟨rfl, rfl⟩ := tail.done_parts
    exact ⟨.ok clean, List.forall_mem_singleton.mpr rfl⟩
  | error f =>
    by_cases known : (f.isDatabase || f.kind = .unsupported) = true
    · simp only [known, if_true] at tail
      obtain ⟨last, ended, rfl⟩ := tail.debug_bind_parts
      obtain ⟨rfl, rfl⟩ := ended.done_parts
      refine ⟨.ok (clean.append (.note .nil)), ?_⟩
      exact List.forall_mem_cons.mpr ⟨rfl, List.forall_mem_singleton.mpr rfl⟩
    · simp only [known] at tail
      obtain ⟨rfl, rfl⟩ := tail.fail_parts
      refine ⟨⟨clean, ?_⟩, List.forall_mem_singleton.mpr rfl⟩
      rintro _ ⟨⟩
      simp only [Bool.or_eq_true, not_or, Bool.not_eq_true] at known
      exact ⟨known.1, _, List.mem_cons_self, rfl⟩

theorem accounted_isPresent : (isPresent schema? table index).Accounted query? :=
  fun _ _ path => (isPresent_path path).1

theorem accounted_ensureFor : (ensureFor d schema? table column).Accounted query? := by
  refine accounted_attempt_bind accounted_createFor (fun _ => accounted_done _) ?_
  intro fault later result path
  cases fault with
  | statement purpose sql cause =>
    rcases path.bind_parts with ⟨other, failed, rfl⟩ | ⟨found, looked, rest, look, tail, rfl⟩
    · have account : Account query? later (.error other : Except Fault Bool) := accounted_isPresent _ _ failed
      refine .inl ⟨account.clean, ?_⟩
      rintro _ ⟨⟩
      exact account.stems _ rfl
    · obtain ⟨account, quiet⟩ : Account query? looked (.ok found) ∧ ∀ event ∈ looked, event.isExecute = false :=
        isPresent_path look
      cases found with
      | true =>
        obtain ⟨last, ended, rfl⟩ := tail.info_bind_parts
        obtain ⟨rfl, rfl⟩ := ended.done_parts
        exact .inl (.after account.clean (.ok (.note .nil)))
      | false =>
        obtain ⟨rfl, rfl⟩ := tail.fail_parts
        rw [List.append_nil]
        exact .inr ⟨rfl, account.clean, .inr ⟨rfl, quiet⟩⟩
  | _ =>
    obtain ⟨rfl, rfl⟩ := path.fail_parts
    exact .inr ⟨rfl, .nil, .inl rfl⟩

theorem accounted_createGeometryIndexes : (createGeometryIndexes d schema? t).Accounted query? :=
  accounted_each fun _ _ => accounted_createFor

theorem accounted_createNamed : (createNamed d schema? t index? column).Accounted query? := by
  unfold createNamed
  cases d.backend with
  | phoenix => exact accounted_create
  | standard => exact accounted_send

end Index

namespace Table

theorem accounted_complete : (complete d schema? t).Accounted query? := by
  unfold complete
  cases d.backend with
  | standard => exact accounted_done _
  | phoenix =>
    refine accounted_bind Catalog.accounted_ensure fun _ => ?_
    refine accounted_bind Index.accounted_createGeometryIndexes fun _ => ?_
    exact accounted_bind (accounted_each fun _ _ => Catalog.accounted_record) fun _ => accounted_done _

theorem accounted_create : (create d t).Accounted query? :=
  accounted_bind accounted_send fun _ => accounted_complete

theorem unrecorded_error (failed : unrecorded t entries = .error fault) :
    fault = .notKey ∧ ∃ entry ∈ entries, entry.column.isKey = false := by
  unfold unrecorded at failed
  split at failed
  · cases failed
  · rename_i bad
    cases failed
    simpa using bad

theorem accounted_missing (phoenix : d.backend = .phoenix) :
    (missing d schema? t).Accounted (some (Catalog.asking d Catalog.columnNames schema? none)) := by
  intro events result path
  unfold missing at path
  simp only [phoenix] at path
  rcases path.bind_parts with ⟨fault, failed, rfl⟩ | ⟨entries, earlier, later, before, after, rfl⟩
  · have account := Catalog.accounted_rows _ _ failed
    refine ⟨account.clean, ?_⟩
    rintro _ ⟨⟩
    exact account.stems _ rfl
  · obtain ⟨account, given⟩ := Catalog.rows_path before
    obtain ⟨rfl, rfl⟩ := after.ofExcept_parts
    rw [List.append_nil]
    refine ⟨account.clean, ?_⟩
    intro fault failed
    obtain ⟨rfl, entry, listed, unkeyed⟩ := unrecorded_error failed
    obtain ⟨row, delivered, same⟩ := given entries rfl entry listed
    exact ⟨_, rfl, row, delivered, entry.column, Catalog.ofCells_column same, unkeyed⟩

theorem accounted_repairColumn : (repairColumn d schema? t name).Accounted query? := by
  refine accounted_info_bind ?_
  cases t.column? name with
  | none => exact accounted_done _
  | some c =>
    have record : (Catalog.record d schema? t.typeName c >>= fun _ => pure ()).Accounted query? :=
      accounted_bind Catalog.accounted_record fun _ => accounted_done _
    cases nulls : c.nillable with
    | true =>
      simp only [nulls]
      exact record
    | false =>
      simp only [nulls]
      exact accounted_bind Index.accounted_ensureFor fun _ => record

theorem accounted_srid :
    (srid d schema? table column?).Accounted (some (Catalog.asking d ["srid"] schema? column?)) := by
  unfold srid
  cases d.backend with
  | phoenix => exact Catalog.accounted_srid
  | standard => exact accounted_done _

theorem accounted_repair (phoenix : d.backend = .phoenix) :
    (repair d schema? t).Accounted (some (Catalog.asking d Catalog.columnNames schema? none)) := by
  unfold repair
  simp only [phoenix]
  refine accounted_bind Catalog.accounted_ensure fun _ => ?_
  refine accounted_bind (accounted_missing phoenix) fun names => ?_
  exact accounted_bind (accounted_each fun _ _ => accounted_repairColumn) fun _ => accounted_done _

end Table

theorem accounted_readFeatures : (readFeatures d t limit offset).Accounted
    (some ⟨d.select t limit offset, t.primaryKey :: t.ordinaryColumns.map Column.name⟩) :=
  accounted_debug_bind (accounted_query (List.cons_ne_nil _ _) fun _ _ => readFeatureRows_error)

theorem accounted_readBounds : (readBounds d t column).Accounted (some ⟨d.bounds t column, [column]⟩) :=
  accounted_debug_bind (accounted_query (List.cons_ne_nil _ _) fun _ _ => readBoundsRows_error)

end FeatureTables
