import FeatureTables.Crs
import FeatureTables.Proofs.Plan

namespace FeatureTables

open Session

namespace Text

theorem foldl_digits_zero {digits : List Nat} (start : Nat) :
    digits.foldl (fun value digit => 10 * value + digit) start = 0 ↔
      start = 0 ∧ ∀ digit ∈ digits, digit = 0 := by
  induction digits generalizing start with
  | nil => simp
  | cons digit rest ih =>
    rw [List.foldl_cons, ih, List.forall_mem_cons, ← and_assoc]
    refine and_congr_left fun _ => ?_
    omega

theorem digitsValue_zero {digits : List Nat} : digitsValue digits = 0 ↔ ∀ digit ∈ digits, digit = 0 :=
  (foldl_digits_zero 0).trans (and_iff_right rfl)

end Text

namespace Crs

variable {crs : Datum} {text : List Char} {n : Int}

theorem urnCode?_exact : urnCode? text = some n ↔ ∃ digits values, text = urnStart ++ digits ∧
    digits.map Text.digitValue? = values.map some ∧ (1 ≤ digits.length ∧ digits.length ≤ 6) ∧
    n = Text.digitsValue values := by
  unfold urnCode?
  constructor
  · intro named
    obtain ⟨digits, start, named⟩ := Option.bind_eq_some_iff.mp named
    obtain ⟨values, read, named⟩ := Option.bind_eq_some_iff.mp named
    have read := mapM_eq_some_iff.mp read
    have long : digits.length = values.length := by simpa using congrArg List.length read
    split at named
    · rename_i few
      cases named
      exact ⟨digits, values, Text.after?_exact.mp start, read, long ▸ few, rfl⟩
    · cases named
  · rintro ⟨digits, values, rfl, read, few, rfl⟩
    have long : digits.length = values.length := by simpa using congrArg List.length read
    have start : Text.after? urnStart (urnStart ++ digits) = some digits := Text.after?_exact.mpr rfl
    have within : 1 ≤ values.length ∧ values.length ≤ 6 := long ▸ few
    simp [start, mapM_eq_some_iff.mpr read, within]

theorem urnCode?_counts (named : urnCode? text = some n) : 0 ≤ n := by
  obtain ⟨_, values, _, _, _, rfl⟩ := urnCode?_exact.mp named
  exact Int.natCast_nonneg _

theorem urnCode?_zero : urnCode? text = some 0 ↔ ∃ zeros, text = urnStart ++ zeros ∧
    (1 ≤ zeros.length ∧ zeros.length ≤ 6) ∧ ∀ c ∈ zeros, Text.digitValue? c = some 0 := by
  rw [urnCode?_exact]
  constructor
  · rintro ⟨zeros, values, start, read, few, zero⟩
    have none : ∀ value ∈ values, value = 0 := Text.digitsValue_zero.mp (Int.natCast_eq_zero.mp zero.symm)
    refine ⟨zeros, start, few, fun c member => ?_⟩
    obtain ⟨value, listed, same⟩ := List.mem_map.mp (read ▸ List.mem_map_of_mem member)
    rw [← same, none value listed]
  · rintro ⟨zeros, start, few, zero⟩
    refine ⟨zeros, List.replicate zeros.length 0, start, ?_, few, ?_⟩
    · rw [List.map_replicate, List.map_eq_replicate_iff]
      exact zero
    · refine (Int.natCast_eq_zero.mpr (Text.digitsValue_zero.mpr fun digit member => ?_)).symm
      exact List.eq_of_mem_replicate member

theorem prefixedCode?_positive (named : prefixedCode? text = some n) : 0 < n := by
  obtain ⟨_, _, named⟩ := Option.bind_eq_some_iff.mp named
  obtain ⟨code, _, named⟩ := Option.bind_eq_some_iff.mp named
  split at named
  · rename_i positive
    cases named
    exact positive
  · cases named

-- How a reference names a code. A text is read as the long name first.
inductive Named (n : Int) : Datum → Prop where
  | number (positive : 0 < n) : Named n (.integer n)
  | urn (value : String) (read : urnCode? (Text.trim value.toList) = some n) : Named n (.text value)
  | prefixed (value : String) (other : urnCode? (Text.trim value.toList) = none)
      (read : prefixedCode? (Text.trim value.toList) = some n) : Named n (.text value)

theorem code_exact : code crs = .ok n ↔ Named n crs := by
  constructor
  · intro found
    cases crs with
    | integer value =>
      rw [code] at found
      split at found
      · rename_i positive
        cases found
        exact .number positive
      · cases found
    | text value =>
      rw [code, ofText] at found
      split at found
      · rename_i read
        cases found
        exact .urn value read
      · rename_i other
        split at found
        · rename_i read
          cases found
          exact .prefixed value other read
        · cases found
    | _ => cases found
  · intro named
    cases named with
    | number positive => rw [code, if_pos positive]
    | urn value read => rw [code, ofText, read]
    | prefixed value other read => rw [code, ofText, other, read]

def NamesZero (crs : Datum) : Prop :=
  ∃ value zeros, crs = .text value ∧ Text.trim value.toList = urnStart ++ zeros ∧
    (1 ≤ zeros.length ∧ zeros.length ≤ 6) ∧ ∀ c ∈ zeros, Text.digitValue? c = some 0

theorem Named.counts (named : Named n crs) : 0 ≤ n := by
  cases named with
  | number positive => exact Int.le_of_lt positive
  | urn value read => exact urnCode?_counts read
  | prefixed _ _ read => exact Int.le_of_lt (prefixedCode?_positive read)

theorem named_zero : Named 0 crs ↔ NamesZero crs := by
  constructor
  · intro named
    cases named with
    | number positive => exact absurd positive (Int.lt_irrefl 0)
    | urn value read =>
      obtain ⟨zeros, start, few, zero⟩ := urnCode?_zero.mp read
      exact ⟨value, zeros, rfl, start, few, zero⟩
    | prefixed _ _ read => exact absurd (prefixedCode?_positive read) (Int.lt_irrefl 0)
  · rintro ⟨value, zeros, rfl, start, few, zero⟩
    exact .urn value (urnCode?_zero.mpr ⟨zeros, start, few, zero⟩)

theorem code_zero : code crs = .ok 0 ↔ NamesZero crs := code_exact.trans named_zero

theorem code_positive (found : code crs = .ok n) : 0 < n ↔ ¬ NamesZero crs := by
  have counts := (code_exact.mp found).counts
  rw [← code_zero, found, Except.ok.injEq]
  omega

end Crs

namespace Catalog

variable {State : Type} {d : Dialect} {schema? : Option String} {table : String} {c : Column}

def Positive (srid : Datum) : Prop := ∃ n : Int, srid = .integer n ∧ (n = unknownSrid ∨ 0 < n)

theorem srid_positive (standard : d.registry = .standard) (crs : Datum) :
    Positive (if code d crs = .null then .integer unknownSrid else code d crs) ↔ ¬ Crs.NamesZero crs := by
  have unknown : Positive (.integer unknownSrid) := ⟨unknownSrid, rfl, .inl rfl⟩
  have unnamed (missing : ∀ n, Crs.code crs ≠ .ok n) : ¬ Crs.NamesZero crs :=
    fun zero => missing 0 (Crs.code_zero.mpr zero)
  by_cases absent : crs = .null
  · subst absent
    exact iff_of_true unknown (unnamed fun _ found => nomatch found)
  rw [code, if_neg absent, standard, Crs.Registry.standard]
  cases found : Crs.code crs with
  | error problem => exact iff_of_true unknown (unnamed fun _ other => nomatch found.symm.trans other)
  | ok n =>
    rw [← Crs.code_positive found]
    constructor
    · rintro ⟨m, same, rfl | positive⟩
      · cases same
        exact absurd (Crs.code_exact.mp found).counts (by decide)
      · cases same
        exact positive
    · exact fun positive => ⟨n, rfl, .inr positive⟩

theorem record_returned (path : (record d schema? table c).Path events (.ok row)) :
    row = described d schema? table c := by
  obtain ⟨fault, _, same⟩ | ⟨value, earlier, later, before, after, _⟩ := path.bind_parts
  · cases same
  · obtain ⟨_, same⟩ := resolve_path before
    cases same
    obtain ⟨fault, _, same⟩ | ⟨_, _, _, _, done, _⟩ := after.bind_parts
    · cases same
    · obtain ⟨_, same⟩ := done.done_parts
      exact Except.ok.inj same

-- A code that is found is positive unless it is read from a long name of zero, and what
-- the catalog records of a column is unknown or positive with the same exception.
theorem recorded_positive_iff (standard : d.registry = .standard) (connection : Connection State) (state : State) :
    (∀ crs n, Crs.code crs = .ok n → (0 < n ↔ ¬ Crs.NamesZero crs)) ∧
      (∀ crs, Crs.NamesZero crs → Crs.code crs = .ok 0) ∧
      ∀ schema? table c,
        let outcome := (record d schema? table c).run connection state
        ∃ row, sendings outcome.events = [(insert d schema?, some row.parameters)] ∧
          (∀ returned, outcome.result = .ok returned → returned = row) ∧
          (Positive row.srid ↔ ¬ Crs.NamesZero c.crs) := by
  refine ⟨fun _ _ found => Crs.code_positive found, fun _ zero => Crs.code_zero.mpr zero, ?_⟩
  intro schema? table c outcome
  have path : (record d schema? table c).Path outcome.events outcome.result := run_path connection _ state
  refine ⟨described d schema? table c, record_sendings path, ?_, srid_positive standard c.crs⟩
  exact fun returned same => record_returned (same ▸ path)

theorem recorded_positive_iff_sample :
    let course : Column := ⟨"course", .ofClass (.base .lineString), true, .text " epsg:25832 ", none⟩
    let script : Script := ⟨⟨[], .null, none⟩, [], [], []⟩
    let outcome := (record .phoenix none "rivers" course).run Script.connection script
    Dialect.phoenix.registry = .standard ∧ Crs.code course.crs = .ok 25832 ∧
      ∃ row : CatalogEntry, sendings outcome.events = [(insert .phoenix none, some row.parameters)] ∧
        Positive row.srid := by
  intro course script outcome
  have recorded := recorded_positive_iff (d := .phoenix) rfl Script.connection script
  have found : Crs.code course.crs = .ok 25832 := by decide +kernel
  obtain ⟨row, sent, _, sound⟩ := recorded.2.2 none "rivers" course
  exact ⟨rfl, found, row, sent, sound.mpr ((recorded.1 _ _ found).mp (by decide))⟩

theorem recorded_zero :
    let course : Column := ⟨"course", .ofClass (.base .lineString), true, .text "urn:ogc:def:crs:EPSG::0", none⟩
    let script : Script := ⟨⟨[], .null, none⟩, [], [], []⟩
    let outcome := (record .phoenix none "rivers" course).run Script.connection script
    Crs.code course.crs = .ok 0 ∧
      sendings outcome.events = [(insert .phoenix none, some [("f_table_schema", .null),
        ("f_table_name", .text "rivers"), ("f_geometry_column", .text "course"), ("coord_dimension", .integer 2),
        ("srid", .integer 0), ("type", .text "LINESTRING")])] ∧
      ¬ Positive (.integer 0) ∧
      Crs.code (.integer 0) = .error (.notPositive 0) ∧
      Crs.code (.text "EPSG:0") = .error (.unrecognised (.text "EPSG:0")) := by
  intro course script outcome
  refine ⟨by decide +kernel, by decide +kernel, ?_, by decide +kernel, by decide +kernel⟩
  rintro ⟨n, same, rfl | positive⟩
  · cases same
  · cases same
    exact Int.lt_irrefl 0 positive

end Catalog

end FeatureTables
