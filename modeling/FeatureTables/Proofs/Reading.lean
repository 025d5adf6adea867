import FeatureTables.Operation
import FeatureTables.Proofs.Names
import Mathlib.Data.List.TakeWhile

namespace FeatureTables

def FeatureType.qualified (t : FeatureType) : String := Database.qualified t.typeName t.schema?

namespace Catalog

def qualified (d : Dialect) (schema? : Option String) : String :=
  Database.qualified d.catalogTable schema?

def code (d : Dialect) (crs : Datum) : Datum :=
  if crs = .null then .null
  else match d.registry crs with
    | .ok code => code
    | .error _ => .null

def described (d : Dialect) (schema? : Option String) (table : String) (c : Column) : CatalogEntry :=
  entry schema? table c (code d c.crs)

def conditions (schema? column? : Option String) : List Condition :=
  [if schema?.isSome then .equals "f_table_schema" "f_table_schema" else .isNull "f_table_schema",
    .equals "f_table_name" "f_table_name"] ++
    (if column?.isSome then [.equals "f_geometry_column" "f_geometry_column"] else [])

-- Columns that a query can name: neither the next part of the query nor the verb is seen
-- in the list of them.
structure Selectable (selected : List String) : Prop where
  named : selected ≠ []
  pieces : ∀ name ∈ selected, ¬ ", ".toList <:+: name.toList ++ ",".toList
  ends : ¬ " FROM ".toList <:+: (Text.joined ", " selected).toList ++ " FROM".toList
  quiet : Verb.Quiet ("SELECT " ++ Text.joined ", " selected ++ " FROM").toList
  bare : '"' ∉ (Text.joined ", " selected).toList

theorem columnNames_selectable : Selectable columnNames :=
  ⟨by decide, by decide, by decide +kernel, by decide +kernel, by decide +kernel⟩

end Catalog

namespace Text

theorem upTo_first (absent : first ∉ left) :
    upTo (first :: word) (left ++ first :: word ++ right) = left := by
  simp only [upTo, cut?_first absent, Option.map_some, Option.getD_some]

theorem past_first (absent : first ∉ left) :
    past (first :: word) (left ++ first :: word ++ right) = right := by
  simp only [past, cut?_first absent, Option.map_some, Option.getD_some]

theorem dropWhile_ends {left right text : List Char} {blank : Char → Bool} (before : ∀ c ∈ left, blank c = true)
    (after : ∀ c ∈ right, blank c = true) (solid : ∀ c ∈ text, blank c = false) :
    (((left ++ text ++ right).dropWhile blank).reverse.dropWhile blank).reverse = text := by
  have kept {text : List Char} (solid : ∀ c ∈ text, blank c = false) : text.dropWhile blank = text := by
    cases text with
    | nil => rfl
    | cons c text => simp [solid c List.mem_cons_self]
  rw [List.append_assoc, List.dropWhile_append_of_pos before]
  cases text with
  | nil =>
    rw [List.nil_append, List.dropWhile_eq_nil_iff.mpr after]
    rfl
  | cons c text =>
    have first : (c :: text ++ right).dropWhile blank = c :: text ++ right :=
      List.dropWhile_cons_of_neg (Bool.eq_false_iff.mp (solid c List.mem_cons_self))
    rw [first, List.reverse_append, List.dropWhile_append_of_pos fun c member => after c (List.mem_reverse.mp member),
      kept fun c member => solid c (List.mem_reverse.mp member), List.reverse_reverse]

theorem trim_blankless (solid : ∀ c ∈ text, isBlank c = false) : trim text = text := by
  have ends := dropWhile_ends (List.forall_mem_nil _) (List.forall_mem_nil _) solid
  rwa [List.nil_append, List.append_nil] at ends

end Text

namespace Text

theorem toList_joined (separator : String) (first second : String) (rest : List String) :
    (joined separator (first :: second :: rest)).toList =
      first.toList ++ separator.toList ++ (joined separator (second :: rest)).toList := by
  simp [joined]

theorem piecesWithin_joined (spelled : separator.toList = word ++ [last])
    (fresh : ∀ text ∈ first :: rest, ¬ word ++ [last] <:+: text.toList ++ word)
    (enough : (joined separator (first :: rest)).toList.length ≤ cuts) :
    piecesWithin cuts (word ++ [last]) (joined separator (first :: rest)).toList =
      (first :: rest).map String.toList := by
  induction rest generalizing first cuts with
  | nil =>
    have whole : cut? (word ++ [last]) first.toList = none :=
      cut?_eq_none_iff.mpr fun inside =>
        fresh first List.mem_cons_self (List.infix_append_of_infix_left inside)
    cases cuts <;> simp [joined, piecesWithin, whole]
  | cons second rest ih =>
    rw [toList_joined, spelled] at enough ⊢
    cases cuts with
    | zero => simp at enough
    | succ cuts =>
      -- The first cut is at the first separator, which is a letter long at least.
      have short : (joined separator (second :: rest)).toList.length ≤ cuts := by
        simp only [List.length_append, List.length_singleton] at enough
        omega
      have later := ih (fun text member => fresh text (List.mem_cons_of_mem _ member)) short
      rw [piecesWithin, cut?_here (fresh first List.mem_cons_self)]
      simp [later]

theorem pieces_joined (word : List Char) (spelled : separator.toList = word ++ [last]) (some : texts ≠ [])
    (fresh : ∀ text ∈ texts, ¬ separator.toList <:+: text.toList ++ word) :
    pieces separator.toList (joined separator texts).toList = texts.map String.toList := by
  rw [spelled] at fresh ⊢
  cases texts with
  | nil => exact absurd rfl some
  | cons first rest =>
    rw [pieces, if_neg (by simp), piecesWithin_joined spelled fresh (Nat.le_refl _)]

end Text

namespace Statement

theorem read_starting (word : String) (reader : List Char → Statement)
    (listed : (word, reader) ∈ starts) (text : String) :
    read (word ++ text) = reader text.toList := by
  simp only [starts, List.mem_cons, Prod.mk.injEq, List.not_mem_nil, or_false] at listed
  rcases listed with ⟨rfl, rfl⟩ | ⟨rfl, rfl⟩ | ⟨rfl, rfl⟩ | ⟨rfl, rfl⟩ | ⟨rfl, rfl⟩ | ⟨rfl, rfl⟩ <;>
    simp [read, starts, Text.after?]

theorem read_createTable (bracketless : '(' ∉ name.toList) :
    read ("CREATE TABLE " ++ (name ++ ("(" ++ rest))) = .createTable name := by
  have found : upToBracket (name.toList ++ "(".toList ++ rest.toList) = name.toList :=
    Text.upTo_first bracketless
  rw [read_starting "CREATE TABLE " readCreateTable (by simp [starts]), readCreateTable,
    String.toList_append, String.toList_append, ← List.append_assoc, found, String.ofList_toList]

theorem read_createIndex (solid : ' ' ∉ index.toList) (bracketless : '(' ∉ table.toList) :
    read ("CREATE INDEX " ++ (index ++ (" ON " ++ (table ++ ("(" ++ rest))))) =
      .createIndex index table := by
  have before : Text.upTo " ON ".toList (index.toList ++ " ON ".toList ++ (table ++ ("(" ++ rest)).toList) =
      index.toList := Text.upTo_first solid
  have after : Text.past " ON ".toList (index.toList ++ " ON ".toList ++ (table ++ ("(" ++ rest)).toList) =
      (table ++ ("(" ++ rest)).toList := Text.past_first solid
  have found : upToBracket (table.toList ++ "(".toList ++ rest.toList) = table.toList :=
    Text.upTo_first bracketless
  rw [read_starting "CREATE INDEX " readCreateIndex (by simp [starts]), readCreateIndex,
    String.toList_append, String.toList_append, ← List.append_assoc, before, after,
    String.toList_append, String.toList_append, ← List.append_assoc, found,
    String.ofList_toList, String.ofList_toList]

theorem read_upsert (bracketless : '(' ∉ table.toList) (solid : ∀ c ∈ table.toList, Text.isBlank c = false) :
    read ("UPSERT INTO " ++ (table ++ (" VALUES (" ++ rest))) = .insert table := by
  have front : upToBracket (table.toList ++ " VALUES ".toList ++ "(".toList ++ rest.toList) =
      table.toList ++ " VALUES ".toList :=
    Text.upTo_first (by simp [bracketless])
  have spaceless : ' ' ∉ table.toList := fun present =>
    absurd (solid ' ' present) (by decide)
  have found : Text.upTo " VALUES".toList (table.toList ++ " VALUES".toList ++ " ".toList) = table.toList :=
    Text.upTo_first spaceless
  have whole : (table ++ (" VALUES (" ++ rest)).toList =
      table.toList ++ " VALUES ".toList ++ "(".toList ++ rest.toList := by
    simp
  have ending : table.toList ++ " VALUES ".toList = table.toList ++ " VALUES".toList ++ " ".toList := by
    simp
  rw [read_starting "UPSERT INTO " readInsert (by simp [starts]), readInsert, whole, front, ending, found,
    Text.trim_blankless solid, String.ofList_toList]

end Statement

theorem Selection.read?_parts {listed table clauses : String}
    (ends : ¬ " FROM ".toList <:+: listed.toList ++ " FROM".toList) (solid : ' ' ∉ table.toList) :
    Selection.read? (listed ++ (" FROM " ++ (table ++ (" WHERE " ++ clauses)))).toList =
      some ⟨(Text.pieces ", ".toList listed.toList).map String.ofList, table,
        (Text.pieces " AND ".toList clauses.toList).map Condition.read⟩ := by
  have front : Text.cut? (" FROM".toList ++ [' '])
      (listed.toList ++ (" FROM".toList ++ [' ']) ++ (table ++ (" WHERE " ++ clauses)).toList) =
      some (listed.toList, (table ++ (" WHERE " ++ clauses)).toList) := Text.cut?_here ends
  have back : Text.cut? " WHERE ".toList (table.toList ++ " WHERE ".toList ++ clauses.toList) =
      some (table.toList, clauses.toList) := Text.cut?_first solid
  have spelled : " FROM ".toList = " FROM".toList ++ [' '] := rfl
  rw [String.toList_append, String.toList_append, ← List.append_assoc, Selection.read?, spelled, front]
  rw [String.toList_append, String.toList_append, ← List.append_assoc]
  simp only [Option.bind_eq_bind, Option.bind_some, back, String.ofList_toList]
  rfl


theorem Statement.readSelect_bare {text : List Char} (bare : '"' ∉ text)
    (parts : Selection.read? text = some ⟨selected, table, conditions⟩) :
    Statement.readSelect text = .select table ⟨selected, table, conditions⟩ := by
  have same : Statement.unquoted text = text := by
    refine List.filter_eq_self.mpr fun c present => ?_
    have other : c ≠ '"' := fun quote => bare (quote ▸ present)
    simpa using other
  rw [Statement.readSelect, same, parts]

def Schema.Plain (schema? : Option String) : Prop :=
  ∀ name ∈ schema?, Name.Plain name ∧ Verb.Quiet name.toList

theorem Schema.Plain.name (plain : Schema.Plain schema?) : ∀ name ∈ schema?, Name.Plain name :=
  fun name given => (plain name given).1

theorem Schema.Plain.quiet (plain : Schema.Plain schema?) : ∀ name ∈ schema?, Verb.Quiet name.toList :=
  fun name given => (plain name given).2

structure Index.Named (d : Dialect) (schema? : Option String) (table column : String) : Prop where
  schema : Schema.Plain schema?
  table : Name.Plain table
  index : Name.Plain (d.indexName column)
  quiet : Verb.Quiet (d.indexName column).toList

structure FeatureType.Plain (d : Dialect) (t : FeatureType) : Prop where
  schema : Schema.Plain t.schema?
  table : Name.Plain t.typeName
  index : ∀ c ∈ t.indexedColumns, Name.Plain (d.indexName c.name) ∧ Verb.Quiet (d.indexName c.name).toList
  distinct : (t.columns.map Column.name).Nodup

def FeatureType.sample (name column : String) : FeatureType where
  typeName := name
  columns := [⟨column, .ofClass (.base .point), false, .null, none⟩,
    ⟨"area", .ofClass (.base .polygon), true, .null, none⟩]
  schema? := none
  immutableRows := .null
  primaryKey := "fid"

theorem FeatureType.sample_plain (table : Name.Plain name) (index : Name.Plain (column ++ "_idx"))
    (quiet : Verb.Quiet (column ++ "_idx").toList) (other : column ≠ "area") :
    FeatureType.Plain .phoenix (.sample name column) := by
  refine ⟨nofun, table, ?_, by simpa [sample] using other⟩
  intro c indexed
  have first : (sample name column).indexedColumns =
      [⟨column, .ofClass (.base .point), false, .null, none⟩] := rfl
  rw [first, List.mem_singleton] at indexed
  subst indexed
  exact ⟨index, quiet⟩

theorem FeatureType.roads_plain : FeatureType.Plain .phoenix (.sample "roads" "geom") :=
  sample_plain (by decide +kernel) (by decide +kernel) (by decide +kernel) (by simp)

theorem FeatureType.rivers_plain : FeatureType.Plain .phoenix (.sample "rivers" "course") :=
  sample_plain (by decide +kernel) (by decide +kernel) (by decide +kernel) (by simp)

theorem FeatureType.Plain.named (plain : FeatureType.Plain d t) (indexed : c ∈ t.indexedColumns) :
    Index.Named d t.schema? t.typeName c.name :=
  ⟨plain.schema, plain.table, (plain.index c indexed).1, (plain.index c indexed).2⟩

theorem FeatureType.Plain.column? (plain : FeatureType.Plain d t) (member : c ∈ t.columns) :
    t.column? c.name = some c := by
  have single (columns : List Column) (distinct : (columns.map Column.name).Nodup) (member : c ∈ columns) :
      columns.find? (·.name = c.name) = some c := by
    induction columns with
    | nil => cases member
    | cons first rest ih =>
      rw [List.map_cons, List.nodup_cons] at distinct
      rcases List.mem_cons.mp member with rfl | later
      · simp
      · have other : first.name ≠ c.name := fun same =>
          distinct.1 (same ▸ List.mem_map_of_mem later)
        simpa [other] using ih distinct.2 later
  exact single t.columns plain.distinct member

namespace Dialect.Plain

theorem read_createTable (plain : Plain d) (schema : Schema.Plain t.schema?) (table : Name.Plain t.typeName) :
    Statement.read (d.createTable t) = .createTable t.qualified := by
  have bracketless : '(' ∉ t.qualified.toList := Database.qualified_absent schema.name table rfl (by decide)
  have written : d.featureTable t "CREATE TABLE " = "CREATE TABLE " ++ t.qualified :=
    plain.qualifiedTable_create schema.quiet
  rw [createTable, written, tableDefinition, tableOptions, plain.backend]
  dsimp only
  split
  all_goals
    simp only [String.append_assoc]
    exact Statement.read_createTable bracketless

theorem read_catalog (plain : Plain d) (schema : Schema.Plain schema?) :
    Statement.read (Catalog.createTable d schema?) = .createTable (Catalog.qualified d schema?) := by
  have bracketless : '(' ∉ (Catalog.qualified d schema?).toList :=
    Database.qualified_absent schema.name plain.catalog rfl (by decide)
  have written : Catalog.table d schema? "CREATE TABLE " = "CREATE TABLE " ++ Catalog.qualified d schema? :=
    plain.qualifiedTable_create schema.quiet
  rw [Catalog.createTable, written]
  simp only [String.append_assoc]
  exact Statement.read_createTable bracketless

theorem read_insert (plain : Plain d) (schema : Schema.Plain schema?) :
    Statement.read (Catalog.insert d schema?) = .insert (Catalog.qualified d schema?) := by
  have solid : ∀ c ∈ (Catalog.qualified d schema?).toList, Text.isBlank c = false := by
    intro c present
    rw [Bool.eq_false_iff]
    intro blank
    have foreign : Text.isPlain c = false := by
      rw [Bool.eq_false_iff]
      intro plain
      simp [Text.isBlank_of_isPlain plain] at blank
    have other : c ≠ '.' := by
      rintro rfl
      exact absurd blank (by decide)
    exact Database.qualified_absent schema.name plain.catalog foreign other present
  rw [Catalog.insert, Catalog.table, plain.qualifiedTable_insert]
  simp only [String.append_assoc]
  exact Statement.read_upsert (Database.qualified_absent schema.name plain.catalog rfl (by decide)) solid

theorem clauses_spelled (plain : Plain d) :
    Catalog.clauses d schema? column? =
      [if schema?.isSome then "f_table_schema = :f_table_schema" else "f_table_schema IS NULL",
        "f_table_name = :f_table_name"] ++
      (if column?.isSome then ["f_geometry_column = :f_geometry_column"] else []) := by
  cases schema? <;> simp [Catalog.clauses, Catalog.schemaClause, Catalog.equation, plain.column]

theorem clauses_read (plain : Plain d) :
    (Text.pieces " AND ".toList (Text.joined " AND " (Catalog.clauses d schema? column?)).toList).map
      Condition.read = Catalog.conditions schema? column? := by
  have apart : ∀ clause ∈ Catalog.clauses d schema? column?,
      ¬ " AND ".toList <:+: clause.toList ++ " AND".toList := by
    rw [clauses_spelled plain]
    generalize schema?.isSome = inSchema, column?.isSome = ofColumn
    cases inSchema <;> cases ofColumn <;> decide +kernel
  rw [Text.pieces_joined _ rfl (by simp [Catalog.clauses]) apart, clauses_spelled plain, Catalog.conditions]
  generalize schema?.isSome = inSchema, column?.isSome = ofColumn
  cases inSchema <;> cases ofColumn <;> decide +kernel

theorem clauses_bare (plain : Plain d) :
    '"' ∉ (Text.joined " AND " (Catalog.clauses d schema? column?)).toList := by
  rw [clauses_spelled plain]
  generalize schema?.isSome = inSchema, column?.isSome = ofColumn
  cases inSchema <;> cases ofColumn <;> decide +kernel

theorem read_select (plain : Plain d) (schema : Schema.Plain schema?)
    (selectable : Catalog.Selectable selected) :
    Statement.read (Catalog.select d selected schema? column?) =
      .select (Catalog.qualified d schema?)
        ⟨selected, Catalog.qualified d schema?, Catalog.conditions schema? column?⟩ := by
  have absent {c : Char} (foreign : Text.isPlain c = false) (other : c ≠ '.') :
      c ∉ (Catalog.qualified d schema?).toList :=
    Database.qualified_absent schema.name plain.catalog foreign other
  have spelled : selected.map d.column = selected :=
    (List.map_congr_left fun _ _ => plain.column).trans (List.map_id _)
  have written : Catalog.table d schema? ("SELECT " ++ Text.joined ", " selected ++ " FROM ") =
      "SELECT " ++ Text.joined ", " selected ++ " FROM " ++ Catalog.qualified d schema? :=
    plain.qualifiedTable schema.quiet _ selectable.quiet (by simp)
  have listed : (selected.map String.toList).map String.ofList = selected := by simp
  rw [Catalog.select, spelled, written]
  simp only [String.append_assoc]
  rw [Statement.read_starting "SELECT " Statement.readSelect (by simp [Statement.starts])]
  refine Statement.readSelect_bare ?_ ?_
  · have unquoted : '"' ∉ (Catalog.qualified d schema?).toList := absent rfl (by decide)
    simp [selectable.bare, unquoted, clauses_bare plain]
  · rw [Selection.read?_parts selectable.ends (absent rfl (by decide)), clauses_read plain,
      Text.pieces_joined _ rfl selectable.named selectable.pieces, listed]

end Dialect.Plain

end FeatureTables
