import FeatureTables.Proofs.Effects
import FeatureTables.Proofs.Verbs

namespace FeatureTables

open Session Memory

variable {d : Dialect} {schema? : Option String} {table : String} {t : FeatureType} {c : Column}
  {assumed : Memory → Request → Prop} {kept : Database → Prop} {m : Memory}

namespace Catalog

def Describes (d : Dialect) (schema? : Option String) (table : String) (row : String × Parameters) : Prop :=
  Statement.unquoted row.1.toList = (qualified d schema?).toList ∧
    row.2.read "f_table_schema" = .ofText? schema? ∧ row.2.read "f_table_name" = .text table

instance : Decidable (Describes d schema? table row) :=
  inferInstanceAs (Decidable (_ ∧ _ ∧ _))

def rowsOf (d : Dialect) (schema? : Option String) (table : String) (db : Database) : List Parameters :=
  (db.rows.filter fun row => Describes d schema? table row).map (·.2)

theorem equals_holds {row parameters : Parameters} (given : parameters.read parameter = .text value) :
    (Condition.equals column parameter).holds row parameters = decide (row.read column = .text value) := by
  by_cases same : row.read column = .text value <;> simp [Condition.holds, given, same]

theorem conditions_hold {row : Parameters} :
    (conditions schema? column?).all (·.holds row (selectParameters schema? table column?)) =
      (decide (row.read "f_table_schema" = .ofText? schema? ∧ row.read "f_table_name" = .text table) &&
        column?.all (row.read "f_geometry_column" = .text ·)) := by
  have name : (selectParameters schema? table column?).read "f_table_name" = .text table := by
    simp [selectParameters, Parameters.read]
  have owned : (if schema?.isSome then Condition.equals "f_table_schema" "f_table_schema"
      else .isNull "f_table_schema").holds row (selectParameters schema? table column?) =
      decide (row.read "f_table_schema" = .ofText? schema?) := by
    cases schema? with
    | none => rfl
    | some schema => exact equals_holds rfl
  cases column? with
  | none => simp only [conditions, Option.isSome_none, Bool.false_eq_true, if_false, List.append_nil,
      List.all_cons, owned, equals_holds name, List.all_nil, Bool.and_true, Bool.decide_and, Option.all_none]
  | some column =>
    have wanted : (selectParameters schema? table (some column)).read "f_geometry_column" = .text column := by
      cases schema? <;> rfl
    simp only [conditions, Option.isSome_some, if_true, List.cons_append, List.nil_append, List.all_cons, owned,
      equals_holds name, equals_holds wanted, List.all_nil, Bool.and_true, Bool.decide_and, Option.all_some,
      Bool.and_assoc]

def readBack (row : Parameters) : CatalogRow :=
  ⟨.datum (row.read "f_table_schema"), .datum (row.read "f_table_name"),
    .datum (row.read "f_geometry_column"), .datum (row.read "coord_dimension"),
    .datum (row.read "srid"), .datum (row.read "type")⟩

def rowsRequest (d : Dialect) (schema? : Option String) (table : String) : Request :=
  .execute (select d columnNames schema? none) (some (selectParameters schema? table none))

def selection (d : Dialect) (selected : List String) (schema? column? : Option String) : Selection :=
  ⟨selected, qualified d schema?, conditions schema? column?⟩

theorem select_rows {db : Database} :
    db.select (selection d selected schema? column?) (selectParameters schema? table column?) =
      ⟨selected, ((rowsOf d schema? table db).filter fun row =>
        column?.all (row.read "f_geometry_column" = .text ·)).map fun row => selected.map fun name =>
          .datum (row.read name), none⟩ := by
  have same : (fun row : String × Parameters =>
      decide (Statement.unquoted row.1.toList = (qualified d schema?).toList) &&
        (conditions schema? column?).all (·.holds row.2 (selectParameters schema? table column?))) =
      fun row => column?.all (row.2.read "f_geometry_column" = .text ·) &&
        decide (Describes d schema? table row) := by
    funext row
    rw [conditions_hold, ← Bool.and_assoc, ← Bool.decide_and, Bool.and_comm]
    rfl
  unfold selection
  simp only [Database.select, same, rowsOf, List.filter_map, List.filter_filter, List.map_map]
  rfl

theorem select_table {db : Database} :
    db.select (selection d selected schema? none) (selectParameters schema? table none) =
      ⟨selected, (rowsOf d schema? table db).map fun row => selected.map fun name => .datum (row.read name),
        none⟩ := by
  simp [select_rows]

theorem readRows_width (rows : List Parameters) :
    readRows (rows.map fun row => columnNames.map fun name => .datum (row.read name)) =
      .ok (rows.map readBack) := by
  have width : (rows.map fun row => columnNames.map fun name => Cell.datum (row.read name)).mapM
      CatalogRow.ofCells? = some (rows.map readBack) := by
    induction rows with
    | nil => rfl
    | cons row rows ih =>
      rw [List.map_cons, List.mapM_cons, ih]
      rfl
  rw [readRows, width]

theorem keeps_query {ended : Except Fault (List (List Cell)) → Memory → Prop}
    (plain : d.Plain) (schema : Schema.Plain schema?) (selectable : Selectable selected) (here : kept m.database)
    (unanswered : assumed m (.execute (select d selected schema? column?)
        (some (selectParameters schema? table column?))) →
      m.Hit ∨ qualified d schema? ∉ m.database.tables →
      ∀ cause, ended (.error (.catalog cause)) (m.next m.database))
    (answered : ¬ m.Hit → qualified d schema? ∈ m.database.tables →
      ended (.ok (m.database.select (selection d selected schema? column?)
        (selectParameters schema? table column?)).rows) (m.next m.database)) :
    Memory.Keeps assumed kept ended (query d selected schema? table column?) m := by
  have understood : Statement.read (select d selected schema? column?) =
      .select (qualified d schema?) (selection d selected schema? column?) := plain.read_select schema selectable
  unfold query
  refine keeps_debug_bind (keeps_debug_bind ?_)
  unfold Session.query
  refine keeps_ask_bind here fun met => ?_
  by_cases hit : m.Hit
  · obtain ⟨message, lost⟩ := answer_hit hit
    rw [lost]
    exact ⟨here, unanswered met (.inl hit) _⟩
  · by_cases present : qualified d schema? ∈ m.database.tables
    · have accepted : m.database.apply (selectParameters schema? table column?)
          (.select (qualified d schema?) (selection d selected schema? column?)) =
          .ok (m.database, m.database.select (selection d selected schema? column?)
            (selectParameters schema? table column?)) := by
        simp [Database.apply, present]
      rw [answer_accepted hit understood accepted]
      exact ⟨here, fun _ => ⟨here, answered hit present⟩⟩
    · have refused : m.database.apply (selectParameters schema? table column?)
          (.select (qualified d schema?) (selection d selected schema? column?)) =
          .error ("no such table: " ++ qualified d schema?) := by
        simp [Database.apply, present]
      rw [answer_refused hit understood refused]
      exact ⟨here, unanswered met (.inr present) _⟩

theorem keeps_rows {ended : Except Fault (List CatalogRow) → Memory → Prop}
    (plain : d.Plain) (schema : Schema.Plain schema?) (here : kept m.database)
    (unanswered : assumed m (rowsRequest d schema? table) →
      m.Hit ∨ qualified d schema? ∉ m.database.tables → ended (.ok []) (m.next m.database))
    (answered : ¬ m.Hit → qualified d schema? ∈ m.database.tables →
      ended (.ok ((rowsOf d schema? table m.database).map readBack)) (m.next m.database)) :
    Memory.Keeps assumed kept ended (rows d schema? table) m := by
  unfold rows
  refine keeps_bind (keeps_attempt (keeps_query plain schema columnNames_selectable here ?_ ?_))
  · exact fun met unread _ => ⟨here, unanswered met unread⟩
  · intro clear present
    rw [select_table]
    simp only [readRows_width]
    exact ⟨here, answered clear present⟩

theorem srid_selectable : Selectable ["srid"] :=
  ⟨by decide, by decide, by decide +kernel, by decide +kernel, by decide +kernel⟩

def firstSrid (column? : Option String) (rows : List Parameters) : Cell :=
  match rows.find? fun row => column?.all (row.read "f_geometry_column" = .text ·) with
  | some row => .datum (row.read "srid")
  | none => .null

theorem keeps_srid {ended : Except Fault Cell → Memory → Prop}
    (plain : d.Plain) (schema : Schema.Plain schema?) (here : kept m.database)
    (unanswered : m.Hit ∨ qualified d schema? ∉ m.database.tables → ended (.ok .null) (m.next m.database))
    (answered : ¬ m.Hit → qualified d schema? ∈ m.database.tables →
      ended (.ok (firstSrid column? (rowsOf d schema? table m.database))) (m.next m.database)) :
    Memory.Keeps assumed kept ended (srid d schema? table column?) m := by
  unfold srid
  refine keeps_bind (keeps_attempt (keeps_query plain schema srid_selectable here ?_ ?_))
  · exact fun _ unread _ => ⟨here, unanswered unread⟩
  · intro clear present
    have told := answered clear present
    rw [select_rows]
    unfold firstSrid at told
    rw [← List.head?_filter] at told
    cases matching : (rowsOf d schema? table m.database).filter fun row =>
        column?.all (row.read "f_geometry_column" = .text ·) with
    | nil =>
      rw [matching] at told
      exact ⟨here, told⟩
    | cons first rest =>
      rw [matching] at told
      exact ⟨here, told⟩

def Recorded (d : Dialect) (schema? : Option String) (table column : String) (db : Database) : Prop :=
  ∃ row ∈ db.rows, Describes d schema? table row ∧ row.2.read "f_geometry_column" = .text column

instance {column : String} : Decidable (Recorded d schema? table column db) :=
  List.decidableBEx (fun row => Describes d schema? table row ∧
    row.2.read "f_geometry_column" = .text column) db.rows

def row (d : Dialect) (t : FeatureType) (c : Column) : String × Parameters :=
  (qualified d t.schema?, (described d t.schema? t.typeName c).parameters)

theorem described_column : (described d schema? table c).parameters.read "f_geometry_column" = .text c.name := rfl

theorem describes_entry {e : CatalogEntry} (plain : d.Plain) (schema : Schema.Plain e.schema?) :
    Describes d schema? table (qualified d e.schema?, e.parameters) ↔ schema? = e.schema? ∧ table = e.table := by
  have unquoted : Statement.unquoted (qualified d e.schema?).toList = (qualified d e.schema?).toList := by
    refine List.filter_eq_self.mpr fun c present => ?_
    have other : c ≠ '"' := by
      rintro rfl
      exact Database.qualified_absent schema.name plain.catalog rfl (by decide) present
    simpa using other
  have same {one two : Option String} : Datum.ofText? one = Datum.ofText? two ↔ one = two := by
    cases one <;> cases two <;> simp [Datum.ofText?]
  have owner : e.parameters.read "f_table_schema" = .ofText? e.schema? := rfl
  have name : e.parameters.read "f_table_name" = .text e.table := rfl
  unfold Describes
  rw [unquoted, owner, name, same, Datum.text.injEq]
  constructor
  · intro described
    obtain ⟨_, owner, name⟩ := described
    exact ⟨owner.symm, name.symm⟩
  · intro same
    obtain ⟨rfl, rfl⟩ := same
    exact ⟨rfl, rfl, rfl⟩

theorem describes_row (plain : d.Plain) (typed : t.Plain d) :
    Describes d schema? table (row d t c) ↔ schema? = t.schema? ∧ table = t.typeName :=
  describes_entry (e := described d t.schema? t.typeName c) plain typed.schema

theorem rowsOf_recorded (plain : d.Plain) (typed : t.Plain d) {db : Database} {recorded : List Column}
    {rows : List (String × Parameters)}
    (fresh : ∀ row ∈ rows, ¬ Describes d t.schema? t.typeName row)
    (written : db.rows = rows ++ recorded.map (row d t)) :
    rowsOf d t.schema? t.typeName db = recorded.map fun c => (row d t c).2 := by
  have before : rows.filter (fun row => Describes d t.schema? t.typeName row) = [] := by
    simpa using fresh
  have since : (recorded.map (row d t)).filter (fun row => Describes d t.schema? t.typeName row) =
      recorded.map (row d t) := by
    simp [describes_row plain typed]
  rw [rowsOf, written, List.filter_append, before, since, List.nil_append, List.map_map]
  rfl

theorem recorded_row (plain : d.Plain) (typed : t.Plain d) {db : Database} (written : row d t c ∈ db.rows) :
    Recorded d t.schema? t.typeName c.name db :=
  ⟨row d t c, written, (describes_row plain typed).mpr ⟨rfl, rfl⟩, described_column⟩

theorem Recorded.later {before after : Database} (recorded : Recorded d schema? table column before)
    (kept : before.rows ⊆ after.rows) : Recorded d schema? table column after := by
  obtain ⟨row, written, described⟩ := recorded
  exact ⟨row, kept written, described⟩

theorem recorded_iff : Recorded d schema? table column db ↔
    ∃ row ∈ rowsOf d schema? table db, row.read "f_geometry_column" = .text column := by
  simp only [Recorded, rowsOf, List.mem_map, List.mem_filter, decide_eq_true_eq]
  constructor
  · intro recorded
    obtain ⟨row, present, described, same⟩ := recorded
    exact ⟨row.2, ⟨row, ⟨present, described⟩, rfl⟩, same⟩
  · intro listed
    obtain ⟨_, ⟨row, ⟨present, described⟩, rfl⟩, same⟩ := listed
    exact ⟨row, present, described, same⟩

end Catalog

namespace Table

def Fresh (d : Dialect) (t : FeatureType) (db : Database) : Prop :=
  ∀ row ∈ db.rows, ¬ Catalog.Describes d t.schema? t.typeName row

instance : Decidable (Fresh d t db) :=
  List.decidableBAll (fun row => ¬ Catalog.Describes d t.schema? t.typeName row) db.rows

def unrecordedColumns (d : Dialect) (schema? : Option String) (t : FeatureType) (db : Database) : List Column :=
  t.geometryColumns.filter fun c => ¬ Catalog.Recorded d schema? t.typeName c.name db

theorem unrecorded_rest (plain : d.Plain) (typed : t.Plain d) {db : Database} {recorded rest : List Column}
    {rows : List (String × Parameters)}
    (fresh : ∀ row ∈ rows, ¬ Catalog.Describes d t.schema? t.typeName row)
    (written : db.rows = rows ++ recorded.map (Catalog.row d t)) (split : t.geometryColumns = recorded ++ rest) :
    unrecordedColumns d t.schema? t db = rest := by
  have known (name : String) : Catalog.Recorded d t.schema? t.typeName name db ↔ name ∈ recorded.map Column.name := by
    rw [Catalog.recorded_iff, Catalog.rowsOf_recorded plain typed fresh written]
    simp [Catalog.row, Catalog.described_column]
  have distinct : ((recorded ++ rest).map Column.name).Nodup :=
    split ▸ typed.distinct.sublist (List.filter_sublist.map _)
  rw [List.map_append, List.nodup_append] at distinct
  have done : recorded.filter (fun c => ¬ Catalog.Recorded d t.schema? t.typeName c.name db) = [] := by
    simp only [List.filter_eq_nil_iff, known]
    intro c member
    simpa using List.mem_map_of_mem member
  have left : rest.filter (fun c => ¬ Catalog.Recorded d t.schema? t.typeName c.name db) = rest := by
    simp only [List.filter_eq_self, known]
    intro c member
    simpa using fun earlier => distinct.2.2 c.name earlier c.name (List.mem_map_of_mem member) rfl
  rw [unrecordedColumns, split, List.filter_append, done, left, List.nil_append]

def Keyed (d : Dialect) (schema? : Option String) (t : FeatureType) (db : Database) : Prop :=
  ∀ row ∈ Catalog.rowsOf d schema? t.typeName db, (row.read "f_geometry_column").isKey

instance : Decidable (Keyed d schema? t db) :=
  List.decidableBAll (fun row : Parameters => (row.read "f_geometry_column").isKey = true)
    (Catalog.rowsOf d schema? t.typeName db)

theorem keyed_iff {db : Database} : Keyed d schema? t db ↔
    ∀ row ∈ db.rows, Catalog.Describes d schema? t.typeName row → (row.2.read "f_geometry_column").isKey := by
  simp only [Keyed, Catalog.rowsOf, List.forall_mem_map, List.mem_filter, decide_eq_true_eq, and_imp]

theorem Keyed.addRow (keyed : Keyed d schema? t db) (key : (row.2.read "f_geometry_column").isKey) :
    Keyed d schema? t (db.addRow row) := by
  rw [keyed_iff] at keyed ⊢
  intro other written described
  rcases List.mem_append.mp written with before | last
  · exact keyed other before described
  · cases List.mem_singleton.mp last
    exact key

theorem unrecorded_rows {db : Database} :
    unrecorded t ((Catalog.rowsOf d schema? t.typeName db).map Catalog.readBack) =
      if Keyed d schema? t db then .ok ((unrecordedColumns d schema? t db).map Column.name)
      else .error .notKey := by
  have keys : ((Catalog.rowsOf d schema? t.typeName db).map Catalog.readBack).all (·.column.isKey) =
      decide (Keyed d schema? t db) := by
    rw [Bool.eq_iff_iff, decide_eq_true_iff]
    simp [Keyed, Catalog.readBack, Cell.isKey]
  have found (name : String) :
      (((Catalog.rowsOf d schema? t.typeName db).map Catalog.readBack).map CatalogRow.column).contains
        (.datum (.text name)) = decide (Catalog.Recorded d schema? t.typeName name db) := by
    rw [Bool.eq_iff_iff, List.contains_iff_mem, decide_eq_true_iff, Catalog.recorded_iff, List.map_map]
    constructor
    · intro inside
      obtain ⟨row, listed, same⟩ := List.mem_map.mp inside
      exact ⟨row, listed, Cell.datum.inj same⟩
    · intro recorded
      obtain ⟨row, listed, same⟩ := recorded
      exact List.mem_map.mpr ⟨row, listed, congrArg Cell.datum same⟩
  rw [unrecorded, keys, List.filter_map]
  simp only [found, Function.comp_def, decide_eq_true_eq, unrecordedColumns, decide_not]

theorem keeps_missing {ended : Except Fault (List String) → Memory → Prop} (plain : d.Plain)
    (schema : Schema.Plain schema?) (here : kept m.database)
    (unanswered : assumed m (Catalog.rowsRequest d schema? t.typeName) →
      m.Hit ∨ Catalog.qualified d schema? ∉ m.database.tables →
      ended (.ok (t.geometryColumns.map Column.name)) (m.next m.database))
    (answered : ¬ m.Hit → Catalog.qualified d schema? ∈ m.database.tables → Keyed d schema? t m.database →
      ended (.ok ((unrecordedColumns d schema? t m.database).map Column.name)) (m.next m.database))
    (unreadable : ¬ m.Hit → ¬ Keyed d schema? t m.database → ended (.error .notKey) (m.next m.database)) :
    Memory.Keeps assumed kept ended (missing d schema? t) m := by
  unfold missing
  simp only [plain.backend]
  refine keeps_bind (Catalog.keeps_rows plain schema here ?_ ?_)
  · intro met unread
    have none : unrecorded t [] = .ok (t.geometryColumns.map Column.name) := by
      simp [unrecorded]
    simp only [none]
    exact ⟨here, unanswered met unread⟩
  · intro clear present
    simp only [unrecorded_rows]
    by_cases keyed : Keyed d schema? t m.database
    · rw [if_pos keyed]
      exact ⟨here, answered clear present keyed⟩
    · rw [if_neg keyed]
      exact ⟨here, unreadable clear keyed⟩

end Table

end FeatureTables
