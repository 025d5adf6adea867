import FeatureTables.Proofs.Replacement

namespace FeatureTables

variable {d : Dialect} {t : FeatureType} {measured : List Column} {table key : String} {name : Column → String}

namespace Layout

def terms (d : Dialect) (c : Column) : String :=
  d.columnType c ++ (if c.nillable || c.isGeometry then "" else " NOT NULL") ++
    (if c.isIndexed then " NOT NULL" ++ Dialect.pointComment c else "")

def create (d : Dialect) (t : FeatureType) (table key : String) (name : Column → String) : String :=
  d.tableOptions ("CREATE TABLE " ++ table ++ "(" ++
    Text.joined ", " ((key ++ " INTEGER PRIMARY KEY ASC") ::
      t.ordinaryColumns.map fun c => name c ++ " " ++ terms d c) ++ ")") t.immutableRows

def upsert (table : String) (names : List String) : String :=
  "UPSERT INTO " ++ table ++ "(" ++ Text.joined ", " names ++ ") VALUES (" ++
    Text.joined ", " (names.map fun name => ":" ++ name) ++ ")"

def selected (name : Column → String) (c : Column) : String :=
  if c.isGeometry then "asWKB(" ++ name c ++ ") AS " ++ name c else name c

def select (d : Dialect) (t : FeatureType) (table key : String) (name : Column → String) (limit offset : Int) :
    String :=
  let sql := "SELECT " ++ Text.joined ", " (key :: t.ordinaryColumns.map (selected name)) ++ " FROM " ++ table
  if d.paging then d.paged sql limit offset else sql

def bounds (table name : String) : String := "SELECT asWKB(envelope(" ++ name ++ ")) FROM " ++ table

end Layout

-- All statements about a table have one text for it and one name for each column, the
-- primary key first. Bounds are taken of these columns.
structure Agreement (d : Dialect) (t : FeatureType) (measured : List Column) (table key : String)
    (name : Column → String) : Prop where
  distinct : (key :: t.ordinaryColumns.map name).Nodup
  create : d.createTable t = Layout.create d t table key name
  insert : d.insert t none = Layout.upsert table (key :: t.ordinaryColumns.map name)
  select : ∀ limit offset, d.select t limit offset = Layout.select d t table key name limit offset
  bounds : ∀ c ∈ measured, d.bounds t c.name = Layout.bounds table (name c)

-- A feature type in which only the table itself may spell the verb.
structure FeatureType.Quiet (t : FeatureType) : Prop where
  schema : ∀ name ∈ t.schema?, Verb.Quiet name.toList
  key : Verb.Quiet t.primaryKey.toList
  columns : ∀ c ∈ t.columns, Verb.Quiet c.name.toList

structure FeatureType.Named (t : FeatureType) : Prop where
  schema : ∀ name ∈ t.schema?, Name.Plain name
  table : Name.Plain t.typeName
  key : Name.Plain t.primaryKey
  columns : ∀ c ∈ t.columns, Name.Plain c.name
  distinct : (t.columns.map Column.name).Nodup

namespace Layout

theorem upsert_toList (table : String) (names : List String) :
    (upsert table names).toList = "UPSERT INTO ".toList ++ (table.toList ++ '(' ::
      ((Text.joined ", " names).toList ++ ')' :: (" VALUES (".toList ++
        ((Text.joined ", " (names.map fun name => ":" ++ name)).toList ++ [')'])))) := by
  unfold upsert
  simp only [String.toList_append, List.append_assoc]
  rfl

-- An upsert tells its table and its names: brackets and commas of their own would be
-- too many.
theorem upsert_inj {other : String} {names others : List String} (bracketless : '(' ∉ table.toList)
    (free : ∀ name ∈ names, ∀ c ∈ [',', '(', ')'], c ∉ name.toList) (many : others.length = names.length)
    (same : upsert other others = upsert table names) : other = table ∧ others = names := by
  have absent {c : Char} (mark : c ∈ ['(', ')']) : c ∉ (Text.joined ", " names).toList ∧
      c ∉ (Text.joined ", " (names.map fun name => ":" ++ name)).toList := by
    have foreign : c ∉ ", ".toList ∧ c ∉ ":".toList := by
      simp only [List.mem_cons, List.not_mem_nil, or_false] at mark
      rcases mark with rfl | rfl <;> decide
    have within (name : String) (listed : name ∈ names) : c ∉ name.toList :=
      free name listed c (List.mem_cons_of_mem _ mark)
    refine ⟨Text.joined_absent foreign.1 within, Text.joined_absent foreign.1 ?_⟩
    rintro _ bound member
    obtain ⟨name, listed, rfl⟩ := List.mem_map.mp bound
    rw [String.toList_append, List.mem_append] at member
    exact member.elim foreign.2 (within name listed)
  have whole := congrArg String.toList same
  rw [upsert_toList, upsert_toList, List.append_cancel_left_eq] at whole
  have opened : '(' ∉ other.toList := by
    have brackets := congrArg (List.count '(') whole
    have none := absent (c := '(') (by decide)
    simp only [List.count_append, List.count_cons, List.count_eq_zero.mpr bracketless,
      List.count_eq_zero.mpr none.1, List.count_eq_zero.mpr none.2] at brackets
    exact List.count_eq_zero.mp (by omega)
  obtain ⟨named, rest⟩ := Text.first_inj opened bracketless whole
  have closed : ')' ∉ (Text.joined ", " others).toList := by
    have brackets := congrArg (List.count ')') rest
    have none := absent (c := ')') (by decide)
    simp only [List.count_append, List.count_cons, List.count_eq_zero.mpr none.1,
      List.count_eq_zero.mpr none.2] at brackets
    exact List.count_eq_zero.mp (by omega)
  have listed := (Text.first_inj closed (absent (by decide)).1 rest).1
  refine ⟨String.toList_inj.mp named, Text.joined_inj ?_ many (String.toList_inj.mp listed)⟩
  exact fun name member => free name member ',' (by decide)

end Layout

namespace Dialect.Plain

variable (plain : d.Plain)

include plain

theorem insert_layout : d.insert t none = Layout.upsert t.qualified (defaultColumns t) := by
  have names : (defaultColumns t).map d.column = defaultColumns t :=
    (List.map_congr_left fun _ _ => plain.column).trans (List.map_id _)
  have start : d.featureTable t "INSERT INTO " = "UPSERT INTO " ++ t.qualified := plain.qualifiedTable_insert
  unfold insert Layout.upsert
  simp only [Option.getD_none, names, start]

theorem columnDefinition_layout : d.columnDefinition c = c.name ++ " " ++ Layout.terms d c := by
  unfold columnDefinition columnConstraints Layout.terms
  simp only [plain.backend, plain.column]
  cases c.nillable || c.isGeometry <;> cases c.isIndexed <;>
    simp only [if_true, if_false, Bool.false_eq_true, String.append_assoc, String.append_empty]

theorem createTable_layout (schema : ∀ name ∈ t.schema?, Verb.Quiet name.toList) :
    d.createTable t = Layout.create d t t.qualified t.primaryKey Column.name := by
  have start : d.featureTable t "CREATE TABLE " = "CREATE TABLE " ++ t.qualified :=
    plain.qualifiedTable_create schema
  have key : d.primaryKey t.primaryKey "" = t.primaryKey ++ " INTEGER PRIMARY KEY ASC" := by
    simp [primaryKey, plain.backend, columnName, plain.escaped]
  have columns : t.ordinaryColumns.map d.columnDefinition =
      t.ordinaryColumns.map fun c => c.name ++ " " ++ Layout.terms d c :=
    List.map_congr_left fun _ _ => plain.columnDefinition_layout
  simp only [createTable, tableDefinition, Layout.create, start, key, columns, String.append_assoc]

theorem selectedColumn_layout : d.selectedColumn c = Layout.selected Column.name c := by
  unfold selectedColumn Layout.selected
  split
  · have closed : ") AS " = ")" ++ " AS " := by decide
    simp only [columnName, geometryColumn, Backend.asBinary, plain.backend, plain.escaped, closed,
      String.append_assoc, String.empty_append]
  · exact plain.column

theorem tableName_iff (ascii : Text.Ascii sql.toList) :
    d.tableName table sql = sql ++ table ↔ Verb.Quiet sql.toList := by
  constructor
  · intro written
    have letters := congrArg String.toList written
    simp only [Dialect.tableName, plain.backend, plain.escaped, String.toList_append, String.toList_ofList,
      List.append_cancel_right_eq] at letters
    exact Verb.quiet_of_fixed ascii.steady letters
  · exact plain.tableName

theorem qualifiedTable_iff {schema? : Option String} {words : List Char} (ascii : Text.Ascii words)
    (schema : ∀ name ∈ schema?, Name.Plain name) (spelled : sql.toList = words ++ [' ']) :
    d.qualifiedTable schema? table sql = sql ++ Database.qualified table schema? ↔
      Verb.Quiet words ∧ ∀ name ∈ schema?, Verb.Quiet name.toList := by
  cases schema? with
  | none =>
    have before : Text.Ascii sql.toList := by
      rw [spelled]
      exact Text.ascii_append.mpr ⟨ascii, by decide⟩
    rw [show d.qualifiedTable none table sql = d.tableName table sql from rfl, Database.qualified,
      plain.tableName_iff before, spelled, Verb.quiet_blank]
    simp [Verb.quiet_nil]
  | some name =>
    have text : (d.schemaName name sql ++ ".").toList = words ++ ' ' :: (name.toList ++ '.' :: []) :=
      plain.schemaName_toList spelled
    have before : Text.Ascii (d.schemaName name sql ++ ".").toList := by
      have letters : Text.Ascii (name.toList ++ ['.']) :=
        Text.ascii_append.mpr ⟨fun c member => Text.isPlain_ascii (schema name rfl c member), by decide⟩
      rw [text]
      exact Text.ascii_append.mpr ⟨ascii, Text.ascii_cons.mpr ⟨by decide, letters⟩⟩
    have whole : sql ++ Database.qualified table (some name) = d.schemaName name sql ++ "." ++ table := by
      simp [schemaName, plain.escaped, Database.qualified, String.append_assoc]
    rw [show d.qualifiedTable (some name) table sql = d.tableName table (d.schemaName name sql ++ ".") from rfl,
      whole, plain.tableName_iff before, text, Verb.quiet_blank, Verb.quiet_dot]
    simp [Verb.quiet_nil]

end Dialect.Plain

namespace Layout

variable {c : Column}

theorem selected_toList (geometry : c.isGeometry = true) : (selected name c).toList =
    "asWKB".toList ++ '(' :: ((name c).toList ++ ')' :: ([] ++ ' ' :: ("AS".toList ++ ' ' :: (name c).toList))) := by
  simp [selected, geometry]

theorem selected_ascii (ascii : Text.Ascii (name c).toList) : Text.Ascii (selected name c).toList := by
  cases geometry : c.isGeometry with
  | true =>
    rw [selected_toList geometry]
    simp only [Text.ascii_append, Text.ascii_cons]
    exact ⟨by decide, by decide, ascii, by decide, by decide, by decide, by decide, by decide, ascii⟩
  | false =>
    rw [selected, if_neg (by simp [geometry])]
    exact ascii

theorem selected_quiet : Verb.Quiet (selected name c).toList ↔ Verb.Quiet (name c).toList := by
  cases geometry : c.isGeometry with
  | true =>
    rw [selected_toList geometry, Verb.quiet_around rfl (by decide), Verb.quiet_around rfl (by decide),
      Verb.quiet_blank, Verb.quiet_blank]
    have words : Verb.Quiet "asWKB".toList ∧ Verb.Quiet "AS".toList := by decide
    exact ⟨fun quiet => quiet.2.1, fun quiet => ⟨words.1, quiet, Verb.quiet_nil, words.2, quiet⟩⟩
  | false => rw [selected, if_neg (by simp [geometry])]

def selection (t : FeatureType) : List Char :=
  "SELECT".toList ++ ' ' ::
    ((Text.joined ", " (t.primaryKey :: t.ordinaryColumns.map (selected Column.name))).toList ++ ' ' :: "FROM".toList)

theorem selection_ascii (named : t.Named) : Text.Ascii (selection t) := by
  have listed : Text.Ascii (Text.joined ", " (t.primaryKey :: t.ordinaryColumns.map (selected Column.name))).toList := by
    refine Text.joined_forall (show Text.Ascii ", ".toList by decide) (List.forall_mem_cons.mpr ⟨?_, ?_⟩)
    · exact fun c member => Text.isPlain_ascii (named.key c member)
    · refine List.forall_mem_map.mpr fun c member => selected_ascii fun letter within => ?_
      exact Text.isPlain_ascii (named.columns c (List.mem_of_mem_filter member) letter within)
  unfold selection
  simp only [Text.ascii_append, Text.ascii_cons]
  exact ⟨by decide, by decide, listed, by decide, by decide⟩

theorem selection_quiet : Verb.Quiet (selection t) ↔
    Verb.Quiet t.primaryKey.toList ∧ ∀ c ∈ t.ordinaryColumns, Verb.Quiet c.name.toList := by
  have words : Verb.Quiet "SELECT".toList ∧ Verb.Quiet "FROM".toList := by decide
  unfold selection
  rw [Verb.quiet_blank, Verb.quiet_blank]
  constructor
  · intro quiet
    have part (text : String) (listed : text ∈ t.primaryKey :: t.ordinaryColumns.map (selected Column.name)) :
        Verb.Quiet text.toList := quiet.2.1.part (Text.infix_joined listed)
    refine ⟨part _ List.mem_cons_self, fun c member => selected_quiet.mp (part _ ?_)⟩
    exact List.mem_cons_of_mem _ (List.mem_map_of_mem member)
  · intro quiet
    refine ⟨words.1, Verb.quiet_joined (List.forall_mem_cons.mpr ⟨quiet.1, ?_⟩), words.2⟩
    exact List.forall_mem_map.mpr fun c member => selected_quiet.mpr (quiet.2 c member)

def selectionText (t : FeatureType) : String :=
  "SELECT " ++ Text.joined ", " (t.primaryKey :: t.ordinaryColumns.map (selected Column.name)) ++ " FROM "

theorem selectionText_toList (t : FeatureType) : (selectionText t).toList = selection t ++ [' '] := by
  unfold selectionText selection
  simp

end Layout

theorem Dialect.Plain.select_layout (plain : d.Plain) : d.select t limit offset =
    let sql := d.featureTable t (Layout.selectionText t)
    if d.paging then d.paged sql limit offset else sql := by
  have columns : t.ordinaryColumns.map d.selectedColumn = t.ordinaryColumns.map (Layout.selected Column.name) :=
    List.map_congr_left fun _ _ => plain.selectedColumn_layout
  simp only [Dialect.select, plain.column, columns, Layout.selectionText]

-- A selection is the one statement in which the verb is looked for in all names.
theorem Dialect.Plain.selection_iff (plain : d.Plain) (named : t.Named) :
    d.featureTable t (Layout.selectionText t) = Layout.selectionText t ++ t.qualified ↔ t.Quiet := by
  have shown : d.featureTable t (Layout.selectionText t) = Layout.selectionText t ++ t.qualified ↔
      Verb.Quiet (Layout.selection t) ∧ ∀ name ∈ t.schema?, Verb.Quiet name.toList :=
    plain.qualifiedTable_iff (Layout.selection_ascii named) named.schema (Layout.selectionText_toList t)
  rw [shown, Layout.selection_quiet]
  constructor
  · intro quiet
    obtain ⟨⟨key, ordinary⟩, schema⟩ := quiet
    refine ⟨schema, key, fun c member => ?_⟩
    by_cases same : c.name = t.primaryKey
    · rw [same]
      exact key
    · exact ordinary c (List.mem_filter.mpr ⟨member, decide_eq_true same⟩)
  · exact fun quiet => ⟨⟨quiet.key, fun c member => quiet.columns c (List.mem_of_mem_filter member)⟩, quiet.schema⟩

theorem Dialect.Plain.bounds_layout {column : String} (plain : d.Plain) (schema : ∀ name ∈ t.schema?, Verb.Quiet name.toList)
    (quiet : Verb.Quiet column.toList) : d.bounds t column = Layout.bounds t.qualified column := by
  have words : Verb.Quiet ("SELECT".toList ++ ' ' :: ("asWKB".toList ++ '(' :: ("envelope".toList ++ '(' ::
      (column.toList ++ ')' :: ([] ++ ')' :: ([] ++ ' ' :: "FROM".toList)))))) := by
    rw [Verb.quiet_blank, Verb.quiet_around rfl (by decide), Verb.quiet_around rfl (by decide),
      Verb.quiet_around rfl (by decide), Verb.quiet_around rfl (by decide), Verb.quiet_blank]
    exact ⟨by decide, by decide, by decide, quiet, Verb.quiet_nil, Verb.quiet_nil, by decide⟩
  have before : d.geometryEnvelope column "SELECT " ++ " FROM " = "SELECT asWKB(envelope(" ++ column ++ ")) FROM " := by
    have opened : "SELECT asWKB(envelope(" = "SELECT " ++ ("asWKB(" ++ "envelope(") := by decide
    have closed : ")) FROM " = ")" ++ (")" ++ " FROM ") := by decide
    simp only [geometryEnvelope, Backend.envelopeAsBinary, Backend.asBinary, Backend.envelope, plain.backend,
      plain.column, opened, closed, String.append_assoc]
  rw [Dialect.bounds, before]
  exact plain.qualifiedTable schema _ words (by simp)

theorem FeatureType.nodup_columns (distinct : (t.columns.map Column.name).Nodup) :
    (t.primaryKey :: t.ordinaryColumns.map Column.name).Nodup := by
  refine List.nodup_cons.mpr ⟨fun member => ?_, distinct.sublist (List.filter_sublist.map _)⟩
  obtain ⟨c, ordinary, same⟩ := List.mem_map.mp member
  simpa [same] using (List.mem_filter.mp ordinary).2

theorem FeatureType.Quiet.agreement (plain : d.Plain) (named : t.Named) (quiet : t.Quiet)
    (listed : ∀ c ∈ measured, c ∈ t.columns) : Agreement d t measured t.qualified t.primaryKey Column.name where
  distinct := nodup_columns named.distinct
  create := plain.createTable_layout quiet.schema
  insert := plain.insert_layout
  select := by
    intro limit offset
    rw [plain.select_layout, (plain.selection_iff named).mpr quiet]
    rfl
  bounds := fun c member => plain.bounds_layout quiet.schema (quiet.columns c (listed c member))

theorem Agreement.pinned (plain : d.Plain) (named : t.Named) (agreement : Agreement d t measured table key name) :
    table = t.qualified ∧ key = t.primaryKey ∧ ∀ c ∈ t.ordinaryColumns, name c = c.name := by
  have bracketless : '(' ∉ t.qualified.toList := Database.qualified_absent named.schema named.table rfl (by decide)
  have free : ∀ name ∈ Dialect.defaultColumns t, ∀ c ∈ [',', '(', ')'], c ∉ name.toList := by
    intro name listed c mark
    have foreign : Text.isPlain c = false := by
      simp only [List.mem_cons, List.not_mem_nil, or_false] at mark
      rcases mark with rfl | rfl | rfl <;> rfl
    rcases List.mem_cons.mp listed with rfl | ordinary
    · exact named.key.absent foreign
    · obtain ⟨column, member, rfl⟩ := List.mem_map.mp ordinary
      exact (named.columns column (List.mem_of_mem_filter member)).absent foreign
  have same := agreement.insert.symm.trans plain.insert_layout
  obtain ⟨known, names⟩ := Layout.upsert_inj bracketless free (by simp [Dialect.defaultColumns]) same
  obtain ⟨first, rest⟩ := List.cons.inj names
  exact ⟨known, first, List.map_inj_left.mp rest⟩

theorem Agreement.quiet (plain : d.Plain) (named : t.Named) (agreement : Agreement d t measured table key name) :
    t.Quiet := by
  obtain ⟨rfl, rfl, names⟩ := agreement.pinned plain named
  have columns : t.ordinaryColumns.map (Layout.selected name) = t.ordinaryColumns.map (Layout.selected Column.name) := by
    refine List.map_congr_left fun c member => ?_
    simp only [Layout.selected, names c member]
  have unpaged (sql : String) : (if d.paging then d.paged sql (-1) 0 else sql) = sql := by
    have page : Page.of? (-1) 0 = none := by decide
    simp [Dialect.paged, page]
  have read := agreement.select (-1) 0
  simp only [plain.select_layout, Layout.select, columns, unpaged] at read
  exact (plain.selection_iff named).mp read

theorem agreement_iff_quiet (plain : d.Plain) (named : t.Named) (listed : ∀ c ∈ measured, c ∈ t.columns) :
    ((∃ table key name, Agreement d t measured table key name) ↔ t.Quiet) ∧
      ∀ table key name, Agreement d t measured table key name →
        table = t.qualified ∧ key = t.primaryKey ∧ ∀ c ∈ t.ordinaryColumns, name c = c.name := by
  refine ⟨⟨?_, ?_⟩, fun table key name agreement => agreement.pinned plain named⟩
  · intro agreed
    obtain ⟨table, key, name, agreement⟩ := agreed
    exact agreement.quiet plain named
  · exact fun quiet => ⟨_, _, _, quiet.agreement plain named listed⟩

theorem agreement_iff_quiet_sample :
    let inserts := { FeatureType.sample "inserts" "geom" with schema? := some "gis" }
    let roads := FeatureType.sample "roads" "inserted"
    (inserts.Named ∧ roads.Named) ∧
      (∃ table key name, Agreement .phoenix inserts inserts.geometryColumns table key name) ∧
      ¬ ∃ table key name, Agreement .phoenix roads roads.geometryColumns table key name := by
  intro inserts roads
  have first : inserts.Named :=
    ⟨by decide +kernel, by decide +kernel, by decide +kernel, by decide +kernel, by decide⟩
  have second : roads.Named :=
    ⟨nofun, by decide +kernel, by decide +kernel, by decide +kernel, by decide⟩
  have quiet : inserts.Quiet := ⟨by decide +kernel, by decide +kernel, by decide +kernel⟩
  have spelled : ¬ roads.Quiet := fun quiet => absurd quiet.columns (by decide +kernel)
  exact ⟨⟨first, second⟩,
    (agreement_iff_quiet Dialect.phoenix_plain first fun _ => List.mem_of_mem_filter).1.mpr quiet,
    fun agreed => spelled ((agreement_iff_quiet Dialect.phoenix_plain second fun _ => List.mem_of_mem_filter).1.mp agreed)⟩

end FeatureTables
