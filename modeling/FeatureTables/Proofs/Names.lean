import FeatureTables.Configuration
import FeatureTables.Connection.Memory
import FeatureTables.Dialect.Names
import Mathlib.Data.List.Infix

namespace FeatureTables

namespace Text

def isPlain (c : Char) : Bool := c.isAlphanum || c = '_'

theorem isBlank_of_isPlain (plain : isPlain c = true) : isBlank c = false := by
  rw [Bool.eq_false_iff]
  intro blank
  obtain ⟨range, listed, low, high⟩ := Ranges.holds_iff.mp blank
  delta isPlain Char.isAlphanum Char.isAlpha Char.isUpper Char.isLower Char.isDigit at plain
  simp only [Bool.or_eq_true, Bool.and_eq_true, decide_eq_true_eq, UInt32.le_iff_toNat_le] at plain
  have bound : 48 ≤ c.toNat ∧ c.toNat ≤ 122 := by
    rcases plain with ((letter | letter) | digit) | rfl
    · exact ⟨Nat.le_trans (by decide) letter.1, Nat.le_trans letter.2 (by decide)⟩
    · exact ⟨Nat.le_trans (by decide) letter.1, Nat.le_trans letter.2 (by decide)⟩
    · exact ⟨digit.1, Nat.le_trans digit.2 (by decide)⟩
    · decide
  simp only [blankRanges, List.mem_cons, List.not_mem_nil, or_false] at listed
  rcases listed with rfl | rfl | rfl | rfl | rfl | rfl | rfl | rfl | rfl | rfl <;>
    simp only at low high <;> omega

theorem after?_around (absent : sep ∉ word) :
    after? word (left ++ sep :: right) = (after? word left).map (· ++ sep :: right) := by
  induction word generalizing left with
  | nil => rfl
  | cons w word ih =>
    simp only [List.mem_cons, not_or] at absent
    cases left with
    | nil => exact if_neg (Ne.symm absent.1)
    | cons c left =>
      by_cases same : w = c
      · simp [after?, same, ih absent.2]
      · simp [after?, same]

theorem cut?_around (absent : sep ∉ word) : cut? word (left ++ sep :: right) =
    ((cut? word left).map fun parts => (parts.1, parts.2 ++ sep :: right)).or
      ((cut? word right).map fun parts => (left ++ sep :: parts.1, parts.2)) := by
  induction left with
  | nil =>
    cases word with
    | nil => rfl
    | cons w word =>
      have away : after? (w :: word) (sep :: right) = none := if_neg (Ne.symm (List.ne_of_not_mem_cons absent))
      rw [List.nil_append, cut?.eq_2, away]
      rfl
  | cons c left ih =>
    rw [List.cons_append, cut?, cut?, ← List.cons_append, after?_around absent, ih]
    cases after? word (c :: left) with
    | some rest => rfl
    | none => cases cut? word left <;> cases cut? word right <;> rfl

theorem cut?_eq_none_iff : cut? word text = none ↔ ¬ word <:+: text := by
  induction text with
  | nil => simp [cut?]
  | cons c text ih =>
    rw [List.infix_cons_iff, not_or, ← ih, cut?]
    cases met : after? word (c :: text) with
    | none =>
      have away : ¬ word <+: c :: text := by
        rintro ⟨rest, same⟩
        rw [after?_exact.mpr same.symm] at met
        cases met
      simp [away]
    | some rest => simp [after?_exact.mp met]

theorem infix_around {left right : List Char} (absent : sep ∉ word) :
    word <:+: left ++ sep :: right ↔ word <:+: left ∨ word <:+: right := by
  rw [← not_iff_not, not_or, ← cut?_eq_none_iff, ← cut?_eq_none_iff, ← cut?_eq_none_iff, cut?_around absent]
  simp

theorem cut?_first (absent : first ∉ left) :
    cut? (first :: word) (left ++ first :: word ++ right) = some (left, right) := by
  induction left with
  | nil => simp [cut?, after?_exact.mpr]
  | cons c left ih =>
    simp only [List.mem_cons, not_or] at absent
    rw [List.cons_append, List.cons_append, cut?, ih absent.2]
    simp [after?, absent.1]

-- A word that ends one letter later than all text before it can not have occurred earlier.
theorem cut?_here (fresh : ¬ word ++ [last] <:+: left ++ word) :
    cut? (word ++ [last]) (left ++ (word ++ [last]) ++ right) = some (left, right) := by
  induction left with
  | nil =>
    cases whole : word ++ [last] with
    | nil => simp at whole
    | cons w rest => simp [cut?, after?_exact.mpr]
  | cons c left ih =>
    have later : ¬ word ++ [last] <:+: left ++ word := fun inside =>
      fresh (List.infix_cons inside)
    have away : after? (word ++ [last]) (c :: (left ++ (word ++ [last]) ++ right)) = none := by
      cases met : after? (word ++ [last]) (c :: (left ++ (word ++ [last]) ++ right)) with
      | none => rfl
      | some rest =>
        have same := after?_exact.mp met
        have start : word ++ [last] <+: (c :: left ++ word) ++ (last :: right) := ⟨rest, by simpa using same.symm⟩
        have short : word ++ [last] <+: c :: left ++ word :=
          List.prefix_of_prefix_length_le start (List.prefix_append _ _) (by simp)
        exact absurd short.isInfix fresh
    rw [List.cons_append, List.cons_append, cut?, away, ih later]
    rfl

end Text


def Name.Plain (name : String) : Prop := ∀ c ∈ name.toList, Text.isPlain c = true

instance : Decidable (Name.Plain name) :=
  List.decidableBAll (fun c => Text.isPlain c = true) name.toList

theorem Name.Plain.absent (plain : Name.Plain name) (foreign : Text.isPlain c = false) :
    c ∉ name.toList := by
  intro present
  simp [plain c present] at foreign

namespace Verb

def Quiet (text : List Char) : Prop := ¬ insert <:+: Text.upper text

instance : Decidable (Quiet text) := inferInstanceAs (Decidable (¬ insert <:+: Text.upper text))

theorem quiet_around (capital : Text.upperChar sep = [sep]) (absent : sep ∉ insert) :
    Quiet (left ++ sep :: right) ↔ Quiet left ∧ Quiet right := by
  unfold Quiet
  rw [Text.upper_append, Text.upper_cons, capital, List.singleton_append, Text.infix_around absent,
    not_or]

theorem quiet_nil : Quiet [] := by decide

theorem quiet_blank : Quiet (left ++ ' ' :: right) ↔ Quiet left ∧ Quiet right := quiet_around rfl (by decide)

theorem quiet_dot : Quiet (left ++ '.' :: right) ↔ Quiet left ∧ Quiet right := quiet_around rfl (by decide)

theorem toUpsert_quiet (quiet : Quiet text) : toUpsert text = text := by
  have nowhere : insertPosition? text = none := by
    simp [insertPosition?, Text.position?, Text.cut?_eq_none_iff.mpr quiet]
  simp [toUpsert, nowhere]

theorem toUpsert_insert : toUpsert (insert ++ rest) = upsert ++ rest := by
  have start : insertPosition? (insert ++ rest) = some 0 := by
    rw [insertPosition?, Text.upper_append]
    rfl
  simp [toUpsert, start]

end Verb

namespace Database

theorem qualified_absent (schema : ∀ name ∈ schema?, Name.Plain name) (plain : Name.Plain table)
    (foreign : Text.isPlain c = false) (other : c ≠ '.') :
    c ∉ (qualified table schema?).toList := by
  cases schema? with
  | none => exact plain.absent foreign
  | some name => simp [qualified, (schema name rfl).absent foreign, plain.absent foreign, other]

theorem qualified_inj (first : ∀ name ∈ schema?, Name.Plain name) (one : Name.Plain table)
    (second : ∀ name ∈ otherSchema?, Name.Plain name) (two : Name.Plain other)
    (same : qualified table schema? = qualified other otherSchema?) :
    table = other ∧ schema? = otherSchema? := by
  have dotless {name : String} (plain : Name.Plain name) : '.' ∉ name.toList := plain.absent rfl
  have cut {name rest : String} (plain : Name.Plain name) :
      Text.cut? ['.'] (name ++ "." ++ rest).toList = some (name.toList, rest.toList) := by
    rw [String.toList_append, String.toList_append]
    exact Text.cut?_first (dotless plain)
  have whole {name : String} (plain : Name.Plain name) : Text.cut? ['.'] name.toList = none :=
    Text.cut?_eq_none_iff.mpr fun inside => dotless plain (inside.subset List.mem_cons_self)
  cases schema? with
  | none =>
    cases otherSchema? with
    | none => exact ⟨same, rfl⟩
    | some schema =>
      have apart := whole one
      simp only [qualified] at same
      rw [same, cut (second schema rfl)] at apart
      cases apart
  | some schema =>
    cases otherSchema? with
    | none =>
      have apart := whole two
      simp only [qualified] at same
      rw [← same, cut (first schema rfl)] at apart
      cases apart
    | some otherSchema =>
      simp only [qualified] at same
      have parts : some (otherSchema.toList, other.toList) = some (schema.toList, table.toList) := by
        rw [← cut (second otherSchema rfl), ← same, cut (first schema rfl)]
      simp only [Option.some.injEq, Prod.mk.injEq, String.toList_inj] at parts
      exact ⟨parts.2.symm, by rw [parts.1]⟩

end Database

namespace Dialect

structure Plain (d : Dialect) : Prop where
  backend : d.backend = .phoenix
  quote : d.quote = ""
  catalog : Name.Plain d.catalogTable

theorem configured_plain (configuration : Parameters) (registry : Crs.Registry) :
    Plain (configured .phoenix configuration registry) where
  backend := rfl
  quote := rfl
  catalog := by
    show Name.Plain phoenix.catalogTable
    decide +kernel

theorem phoenix_plain : Plain phoenix := configured_plain [] .standard

theorem Plain.escaped (plain : Plain d) : d.escaped name = name := by
  simp [Dialect.escaped, plain.quote]

theorem Plain.column (plain : Plain d) : d.column name = name := by
  simp [Dialect.column, columnName, plain.escaped]

theorem Plain.tableName (plain : Plain d) (quiet : Verb.Quiet sql.toList) :
    d.tableName name sql = sql ++ name := by
  simp [Dialect.tableName, plain.backend, plain.escaped, Verb.toUpsert_quiet quiet]

theorem Plain.schemaName_toList (plain : Plain d) {words : List Char} (spelled : sql.toList = words ++ [' ']) :
    (d.schemaName name sql ++ ".").toList = words ++ ' ' :: (name.toList ++ '.' :: []) := by
  simp [schemaName, plain.escaped, spelled]

-- The text before a table stays as it is: the verb could only be found in the schema,
-- since the words before it end with a blank.
theorem Plain.qualifiedTable (plain : Plain d) (schema : ∀ name ∈ schema?, Verb.Quiet name.toList)
    (words : List Char) (quiet : Verb.Quiet words) (spelled : sql.toList = words ++ [' ']) :
    d.qualifiedTable schema? table sql = sql ++ Database.qualified table schema? := by
  cases schema? with
  | none =>
    refine plain.tableName ?_
    rw [spelled, Verb.quiet_blank]
    exact ⟨quiet, Verb.quiet_nil⟩
  | some name =>
    have named : Verb.Quiet (d.schemaName name sql ++ ".").toList := by
      rw [plain.schemaName_toList spelled, Verb.quiet_blank, Verb.quiet_dot]
      exact ⟨quiet, schema name rfl, Verb.quiet_nil⟩
    rw [Dialect.qualifiedTable, plain.tableName named]
    simp [schemaName, plain.escaped, Database.qualified, String.append_assoc]

theorem Plain.qualifiedTable_create (plain : Plain d) (schema : ∀ name ∈ schema?, Verb.Quiet name.toList) :
    d.qualifiedTable schema? table "CREATE TABLE " = "CREATE TABLE " ++ Database.qualified table schema? :=
  plain.qualifiedTable schema "CREATE TABLE".toList (by decide) rfl

theorem Plain.tableName_insert (plain : Plain d) (rest : String) :
    d.tableName name ("INSERT INTO " ++ rest) = "UPSERT INTO " ++ rest ++ name := by
  have verb : "INSERT INTO ".toList = Verb.insert ++ " INTO ".toList := by decide
  have replaced : "UPSERT INTO ".toList = Verb.upsert ++ " INTO ".toList := by decide
  have split : ("INSERT INTO " ++ rest).toList = Verb.insert ++ (" INTO " ++ rest).toList := by
    rw [String.toList_append, String.toList_append, verb, List.append_assoc]
  have joined : Verb.upsert ++ (" INTO " ++ rest).toList = ("UPSERT INTO " ++ rest).toList := by
    rw [String.toList_append, String.toList_append, replaced, List.append_assoc]
  simp only [Dialect.tableName, plain.backend, split, Verb.toUpsert_insert, joined, plain.escaped,
    String.ofList_toList]

theorem Plain.qualifiedTable_insert (plain : Plain d) :
    d.qualifiedTable schema? table "INSERT INTO " =
      "UPSERT INTO " ++ Database.qualified table schema? := by
  cases schema? with
  | none => exact plain.tableName_insert ""
  | some name =>
    rw [Dialect.qualifiedTable, schemaName, plain.escaped, String.append_assoc, plain.tableName_insert]
    simp [Database.qualified, String.append_assoc]

end Dialect

end FeatureTables
