import FeatureTables.Proofs.Declaration
import FeatureTables.Proofs.Numerals
import Mathlib.Data.List.Forall2

namespace FeatureTables

namespace Text

theorem last_inj {left right before after : List Char} (one : mark ∉ right) (two : mark ∉ after)
    (same : left ++ mark :: right = before ++ mark :: after) : left = before ∧ right = after := by
  have turned : right.reverse ++ mark :: left.reverse = after.reverse ++ mark :: before.reverse := by
    simpa using congrArg List.reverse same
  obtain ⟨ends, starts⟩ := first_inj (by simpa using one) (by simpa using two) turned
  exact ⟨List.reverse_inj.mp starts, List.reverse_inj.mp ends⟩

theorem word_inj {word other rest more : List Char} (one : ' ' ∉ word) (two : ' ' ∉ other)
    (ends : ∀ c ∈ rest.head?, c = ' ') (stops : ∀ c ∈ more.head?, c = ' ') (same : word ++ rest = other ++ more) :
    word = other ∧ rest = more := by
  have closed (word : List Char) {rest : List Char} (ends : ∀ c ∈ rest.head?, c = ' ') :
      ∃ tail, word ++ rest ++ [' '] = word ++ ' ' :: tail := by
    cases rest with
    | nil => exact ⟨[], by simp⟩
    | cons c rest =>
      cases ends c rfl
      exact ⟨rest ++ [' '], by simp⟩
  obtain ⟨first, left⟩ := closed word ends
  obtain ⟨second, right⟩ := closed other stops
  rw [same, right] at left
  obtain ⟨rfl, _⟩ := first_inj two one left
  exact ⟨rfl, List.append_cancel_left same⟩

theorem isPlain_upperChar (plain : isPlain c = true) : ∀ capital ∈ upperChar c, isPlain capital = true := by
  have every : ∀ n < 128, isPlain (Char.ofNat n) = true → isPlain (upperAscii (Char.ofNat n)) = true := by decide
  have here := every c.toNat (isPlain_ascii plain)
  rw [Char.ofNat_toNat] at here
  rw [upperChar, if_pos (isPlain_ascii plain)]
  exact List.forall_mem_singleton.mpr (here plain)

theorem integer_letters (n : Int) : ∀ c ∈ (toString n).toList, c.isDigit = true ∨ c = '-' := by
  intro c member
  cases n with
  | ofNat n =>
    have written : (toString (Int.ofNat n)).toList = Nat.toDigits 10 n := Nat.toList_repr
    rw [written] at member
    exact .inl (toDigits_isDigit c member)
  | negSucc n =>
    have written : (toString (Int.negSucc n)).toList = '-' :: Nat.toDigits 10 (n + 1) := by
      have text : toString (Int.negSucc n) = "-" ++ (n + 1).repr := rfl
      rw [text, String.toList_append, Nat.toList_repr]
      rfl
    rw [written] at member
    exact (List.mem_cons.mp member).symm.imp_left (toDigits_isDigit c)

end Text

theorem Name.Plain.capitals (plain : Name.Plain name) : Name.Plain (String.ofList (Text.upper name.toList)) := by
  intro capital member
  rw [String.toList_ofList, Text.upper] at member
  obtain ⟨c, listed, made⟩ := List.mem_flatMap.mp member
  exact Text.isPlain_upperChar (plain c listed) capital made

def SqlType.Letter (c : Char) : Prop := Text.isPlain c = true ∨ c ∈ ['(', ')', '-']

instance : Decidable (SqlType.Letter c) := inferInstanceAs (Decidable (_ ∨ _))

def SqlType.Lettered (text : String) : Prop := ∀ c ∈ text.toList, Letter c

instance : Decidable (SqlType.Lettered text) := List.decidableBAll (fun c => SqlType.Letter c) text.toList

theorem SqlType.name_plain (type : SqlType) : Name.Plain type.name := by
  have every : ∀ type ∈ SqlType.all, Name.Plain type.name := by decide +kernel
  exact every type type.mem_all

theorem SqlType.name_lettered (type : SqlType) : Lettered type.name :=
  fun letter member => .inl (type.name_plain letter member)

theorem Dialect.storageSql_lettered (c : Column) : SqlType.Lettered (storageSql c) := by
  have sized (length : Int) : SqlType.Lettered (toString length) := by
    intro letter member
    rcases Text.integer_letters length letter member with digit | rfl
    · exact .inl (by simp [Text.isPlain, Char.isAlphanum, digit])
    · decide
  unfold storageSql
  split
  · rename_i length _ _
    split
    · exact SqlType.name_lettered .varchar
    · have opens : SqlType.Lettered "(" := by decide
      have closes : SqlType.Lettered ")" := by decide
      simp only [SqlType.Lettered, String.toList_append, List.forall_mem_append]
      exact ⟨⟨⟨SqlType.name_lettered .varchar, opens⟩, sized length⟩, closes⟩
  · exact SqlType.name_lettered _

theorem Dialect.columnType_lettered {d : Dialect} (phoenix : d.backend = .phoenix) (c : Column) :
    SqlType.Lettered (d.columnType c) := by
  unfold columnType
  split
  · rw [phoenix]
    exact SqlType.name_lettered .varbinary
  · exact storageSql_lettered c

-- A feature type whose names need no quotes, those of its classes included.
structure FeatureType.Spelled (t : FeatureType) : Prop where
  schema : Schema.Plain t.schema?
  table : Name.Plain t.typeName
  key : Name.Plain t.primaryKey
  columns : ∀ c ∈ t.columns, Name.Plain c.name
  classes : ∀ c ∈ t.columns, ∀ k ∈ c.binding.class?, Name.Plain k.name

def Column.comment (c : Column) : String := if c.isIndexed then Dialect.pointComment c else ""

structure Column.Alike (d : Dialect) (c other : Column) : Prop where
  name : c.name = other.name
  type : d.columnType c = d.columnType other
  nillable : c.nillable = other.nillable
  comment : c.comment = other.comment

-- A table's own flag says whether its rows stay as they are, or else the dialect's default.
def FeatureType.Immutable (d : Dialect) (t : FeatureType) : Prop :=
  (t.immutableRows ≠ .null ∧ t.immutableRows.truthy = true) ∨ (t.immutableRows = .null ∧ d.immutableRows = true)

theorem FeatureType.keepsRows_iff {d : Dialect} {t : FeatureType} :
    d.keepsRows t.immutableRows = true ↔ t.Immutable d := by
  unfold Dialect.keepsRows Immutable
  by_cases silent : t.immutableRows = .null <;> simp [silent]

theorem FeatureType.keepsRows_eq_iff {d : Dialect} {t u : FeatureType} :
    d.keepsRows t.immutableRows = d.keepsRows u.immutableRows ↔ (t.Immutable d ↔ u.Immutable d) := by
  rw [Bool.eq_iff_iff, keepsRows_iff, keepsRows_iff]

structure FeatureType.Alike (d : Dialect) (t u : FeatureType) : Prop where
  schema : t.schema? = u.schema?
  table : t.typeName = u.typeName
  key : t.primaryKey = u.primaryKey
  immutable : t.Immutable d ↔ u.Immutable d
  columns : List.Forall₂ (Column.Alike d) t.ordinaryColumns u.ordinaryColumns

namespace Declaration

variable {d : Dialect} {c : Column} {e other : Declaration}

structure Regular (e : Declaration) : Prop where
  name : ' ' ∉ e.name.toList
  type : ' ' ∉ e.type.toList
  rest : e.required = false → e.rest = ""

theorem text_toList (e : Declaration) : e.text.toList = e.name.toList ++ ' ' ::
    (e.type.toList ++ ((if e.required then " NOT NULL" else "").toList ++ e.rest.toList)) := by
  simp [text]

theorem Regular.ends (regular : e.Regular) :
    ∀ c ∈ ((if e.required then " NOT NULL" else "").toList ++ e.rest.toList).head?, c = ' ' := by
  intro c first
  cases required : e.required with
  | true =>
    simp only [required, if_true] at first
    exact (Option.some.inj first).symm
  | false => simp [required, regular.rest required] at first

theorem text_inj (one : e.Regular) (two : other.Regular) (same : e.text = other.text) : e = other := by
  have letters := congrArg String.toList same
  rw [text_toList, text_toList] at letters
  obtain ⟨names, described⟩ := Text.first_inj one.name two.name letters
  obtain ⟨types, constraints⟩ := Text.word_inj one.type two.type one.ends two.ends described
  have told : e.required = other.required ∧ e.rest = other.rest := by
    cases needed : e.required <;> cases asked : other.required
    · exact ⟨rfl, by rw [one.rest needed, two.rest asked]⟩
    · simp [needed, asked, one.rest needed] at constraints
    · simp [needed, asked, two.rest asked] at constraints
    · simp only [needed, asked, List.append_cancel_left_eq] at constraints
      exact ⟨rfl, String.toList_inj.mp constraints⟩
  cases e
  cases other
  simp only [mk.injEq]
  exact ⟨String.toList_inj.mp names, String.toList_inj.mp types, told.1, told.2⟩

theorem ofColumn_regular (phoenix : d.backend = .phoenix) (named : Name.Plain c.name) : (ofColumn d c).Regular where
  name := named.absent rfl
  type := fun blank => absurd (d.columnType_lettered phoenix c _ blank) (by decide)
  rest := by
    intro optional
    have nillable : c.nillable = true := by simpa [ofColumn] using optional
    simp [ofColumn, Column.isIndexed, nillable]

theorem rest_ofColumn (spelled : ∀ k ∈ c.binding.class?, Name.Plain k.name) : ',' ∉ (ofColumn d c).rest.toList := by
  unfold ofColumn Dialect.pointComment
  dsimp only
  split
  · split
    · rename_i bound given
      split
      · have free := (spelled bound given).capitals.absent (c := ',') rfl
        simpa using free
      · simp
    · simp
  · simp

theorem text_ofColumn_comma (phoenix : d.backend = .phoenix) (named : Name.Plain c.name)
    (spelled : ∀ k ∈ c.binding.class?, Name.Plain k.name) : ',' ∉ (ofColumn d c).text.toList := by
  have type : ',' ∉ (d.columnType c).toList := fun comma => absurd (d.columnType_lettered phoenix c _ comma) (by decide)
  have constraint : ',' ∉ (if (ofColumn d c).required then " NOT NULL" else "").toList := by
    cases (ofColumn d c).required <;> decide
  rw [text_toList]
  simp only [List.mem_append, List.mem_cons, not_or]
  exact ⟨named.absent rfl, by decide, type, constraint, rest_ofColumn spelled⟩

theorem text_ofKey_comma {key : String} (named : Name.Plain key) : ',' ∉ (ofKey key).text.toList := by
  have free := named.absent (c := ',') rfl
  simp [text_toList, ofKey, free]

theorem ofKey_inj {key other : String} (same : (ofKey key).text = (ofKey other).text) : key = other := by
  simpa [text, ofKey, ← String.append_assoc] using same

theorem ofColumn_eq_iff {other : Column} : ofColumn d c = ofColumn d other ↔ Column.Alike d c other := by
  constructor
  · intro same
    obtain ⟨name, type, required, rest⟩ := Declaration.mk.inj same
    exact ⟨name, type, by simpa using required, rest⟩
  · intro alike
    rw [ofColumn, ofColumn, alike.name, alike.type, alike.nillable]
    exact congrArg _ alike.comment

end Declaration

theorem forall₂_of_map {f : α → β} {relation : α → α → Prop} {first second : List α}
    (related : ∀ x ∈ first, ∀ y ∈ second, f x = f y → relation x y) (same : first.map f = second.map f) :
    List.Forall₂ relation first second := by
  induction first generalizing second with
  | nil =>
    rw [List.map_eq_nil_iff.mp same.symm]
    exact .nil
  | cons x first ih =>
    cases second with
    | nil => cases same
    | cons y second =>
      obtain ⟨heads, tails⟩ := List.cons.inj same
      refine .cons (related x List.mem_cons_self y List.mem_cons_self heads) (ih (fun x member y listed => ?_) tails)
      exact related x (List.mem_cons_of_mem _ member) y (List.mem_cons_of_mem _ listed)

namespace FeatureType

variable {d : Dialect} {t u : FeatureType}

theorem Alike.declarations (alike : t.Alike d u) : t.declarations d = u.declarations d := by
  have columns : t.ordinaryColumns.map (.ofColumn d) = u.ordinaryColumns.map (Declaration.ofColumn d) := by
    rw [← List.forall₂_eq_eq_eq, List.forall₂_map_left_iff, List.forall₂_map_right_iff]
    exact alike.columns.imp fun _ _ => Declaration.ofColumn_eq_iff.mpr
  rw [FeatureType.declarations, FeatureType.declarations, alike.key, columns]

theorem Spelled.column (spelled : t.Spelled) (ordinary : c ∈ t.ordinaryColumns) :
    Name.Plain c.name ∧ ∀ k ∈ c.binding.class?, Name.Plain k.name :=
  ⟨spelled.columns c (List.mem_of_mem_filter ordinary), spelled.classes c (List.mem_of_mem_filter ordinary)⟩

theorem Spelled.comma (phoenix : d.backend = .phoenix) (spelled : t.Spelled) :
    ∀ text ∈ (t.declarations d).map Declaration.text, ',' ∉ text.toList := by
  refine List.forall_mem_map.mpr (List.forall_mem_cons.mpr ⟨Declaration.text_ofKey_comma spelled.key, ?_⟩)
  refine List.forall_mem_map.mpr fun c ordinary => ?_
  obtain ⟨named, classed⟩ := spelled.column ordinary
  exact Declaration.text_ofColumn_comma phoenix named classed

theorem declarations_inj (phoenix : d.backend = .phoenix) (one : t.Spelled) (two : u.Spelled)
    (same : (t.declarations d).map Declaration.text = (u.declarations d).map Declaration.text) :
    t.primaryKey = u.primaryKey ∧ List.Forall₂ (Column.Alike d) t.ordinaryColumns u.ordinaryColumns := by
  simp only [declarations, List.map_cons, List.map_map] at same
  obtain ⟨keys, columns⟩ := List.cons.inj same
  refine ⟨Declaration.ofKey_inj keys, forall₂_of_map (fun c member other listed text => ?_) columns⟩
  refine Declaration.ofColumn_eq_iff.mp (Declaration.text_inj ?_ ?_ text)
  · exact Declaration.ofColumn_regular phoenix (one.column member).1
  · exact Declaration.ofColumn_regular phoenix (two.column listed).1

end FeatureType

namespace Dialect.Plain

variable {d : Dialect} {t u : FeatureType}

def ending (kept : Bool) : String := if kept then " IMMUTABLE_ROWS = true" else ""

theorem ending_eq_empty : ending kept = "" ↔ kept = false := by
  cases kept <;> decide

theorem ending_inj (same : ending kept = ending other) : kept = other := by
  rw [Bool.eq_iff_iff, ← not_iff_not, Bool.not_eq_true, Bool.not_eq_true, ← ending_eq_empty, ← ending_eq_empty, same]

theorem createTable_toList (plain : d.Plain) (spelled : t.Spelled) :
    (d.createTable t).toList = "CREATE TABLE ".toList ++ (t.qualified.toList ++ '(' ::
      ((Text.joined ", " ((t.declarations d).map Declaration.text)).toList ++ ')' ::
        (ending (d.keepsRows t.immutableRows)).toList)) := by
  have start : d.featureTable t "CREATE TABLE " = "CREATE TABLE " ++ t.qualified :=
    plain.qualifiedTable_create spelled.schema.quiet
  rw [plain.createTable_declared, start, tableOptions, plain.backend]
  unfold ending
  dsimp only
  cases d.keepsRows t.immutableRows <;> simp

-- The text of a table's definition tells all that is asked of the table: its first bracket
-- ends the name, its last one the columns, and each column ends at a comma.
theorem createTable_same_iff (plain : d.Plain) (one : t.Spelled) (two : u.Spelled) :
    d.createTable t = d.createTable u ↔ t.Alike d u := by
  constructor
  · intro same
    have letters := congrArg String.toList same
    rw [plain.createTable_toList one, plain.createTable_toList two, List.append_cancel_left_eq] at letters
    have bracketless {t : FeatureType} (spelled : t.Spelled) : '(' ∉ t.qualified.toList :=
      Database.qualified_absent spelled.schema.name spelled.table rfl (by decide)
    obtain ⟨names, rest⟩ := Text.first_inj (bracketless one) (bracketless two) letters
    have clear (kept : Bool) : ')' ∉ (ending kept).toList := by cases kept <;> decide
    obtain ⟨listed, endings⟩ := Text.last_inj (clear _) (clear _) rest
    obtain ⟨table, schema⟩ := Database.qualified_inj one.schema.name one.table two.schema.name two.table
      (String.toList_inj.mp names)
    have texts := Text.texts_inj (by simp [FeatureType.declarations]) (by simp [FeatureType.declarations])
      (one.comma plain.backend) (two.comma plain.backend) (String.toList_inj.mp listed)
    obtain ⟨key, columns⟩ := FeatureType.declarations_inj plain.backend one two texts
    have immutable := FeatureType.keepsRows_eq_iff.mp (ending_inj (String.toList_inj.mp endings))
    exact ⟨schema, table, key, immutable, columns⟩
  · intro alike
    have table : t.qualified = u.qualified := by
      rw [FeatureType.qualified, FeatureType.qualified, alike.schema, alike.table]
    rw [← String.toList_inj, plain.createTable_toList one, plain.createTable_toList two, table, alike.declarations,
      FeatureType.keepsRows_eq_iff.mpr alike.immutable]

theorem createTable_same_iff_sample :
    let roads := FeatureType.sample "roads" "geom"
    let hinted := { roads with immutableRows := .boolean true }
    let titled (length : Int) : FeatureType :=
      { roads with columns := [⟨"title", .ofClass (.base .text), false, .null, some length⟩] }
    (roads.Spelled ∧ hinted.Spelled ∧ (titled 5).Spelled ∧ (titled 50).Spelled) ∧
      phoenix.createTable roads = phoenix.createTable hinted ∧
      phoenix.createTable (titled 5) ≠ phoenix.createTable (titled 50) := by
  intro roads hinted titled
  have first : roads.Spelled := ⟨nofun, by decide +kernel, by decide +kernel, by decide +kernel, by decide +kernel⟩
  have second : hinted.Spelled := ⟨nofun, first.table, first.key, first.columns, first.classes⟩
  have sized (length : Int) : (titled length).Spelled := by
    have bound : ∀ k ∈ some (Class.base .text), Name.Plain k.name := by decide +kernel
    refine ⟨nofun, first.table, first.key, List.forall_mem_singleton.mpr ?_, List.forall_mem_singleton.mpr bound⟩
    show Name.Plain "title"
    decide +kernel
  have alike : roads.Alike phoenix hinted :=
    ⟨rfl, rfl, rfl, FeatureType.keepsRows_eq_iff.mp rfl, List.forall₂_same.mpr fun _ _ => ⟨rfl, rfl, rfl, rfl⟩⟩
  refine ⟨⟨first, second, sized 5, sized 50⟩, (phoenix_plain.createTable_same_iff first second).mpr alike, fun same => ?_⟩
  have columns := ((phoenix_plain.createTable_same_iff (sized 5) (sized 50)).mp same).columns
  cases columns with
  | cons title _ => exact absurd title.type (by decide +kernel)

end Dialect.Plain

end FeatureTables
