import FeatureTables.Proofs.Numerals

namespace FeatureTables

namespace Crs

variable {text start : List Char} {value : String} {n : Int}

-- How a text names a code: in the long form by one to six digits of any script, or after
-- the prefix by a numeral that ends at the next colon.
inductive Denotes (text : List Char) (n : Int) : Prop where
  | urn (digits : List Char) (values : List Nat) (whole : text = urnStart ++ digits)
      (read : digits.map Text.digitValue? = values.map some) (few : 1 ≤ digits.length ∧ digits.length ≤ 6)
      (value : n = Text.digitsValue values)
  | prefixed (start numeral rest : List Char) (whole : text = start ++ ':' :: (numeral ++ rest))
      (first : ':' ∉ start) (second : ':' ∉ numeral) (ends : rest = [] ∨ rest.head? = some ':')
      (capitals : Text.upper start = "EPSG".toList) (read : Text.readInteger numeral = some n) (positive : 0 < n)

theorem after_parts (found : Text.after? "EPSG:".toList (Text.upper text) = some capitals) :
    ∃ start rest, text = start ++ ':' :: rest ∧ ':' ∉ start ∧ Text.upper start = "EPSG".toList := by
  have whole : Text.upper text = "EPSG".toList ++ ':' :: capitals := (Text.after?_exact.mp found).trans rfl
  have member : ':' ∈ Text.upper text := whole ▸ List.mem_append_right _ List.mem_cons_self
  obtain ⟨start, rest, rfl, absent⟩ := List.eq_append_cons_of_mem (Text.colon_upper.mp member)
  refine ⟨start, rest, rfl, absent, ?_⟩
  have parts : Text.upper (start ++ ':' :: rest) = Text.upper start ++ ':' :: Text.upper rest := by
    rw [Text.upper_append, Text.upper_cons]
    rfl
  exact (Text.first_inj (mt Text.colon_upper.mp absent) (by decide) (parts.symm.trans whole)).1

theorem after_capitals (capitals : Text.upper start = "EPSG".toList) :
    Text.after? "EPSG:".toList (Text.upper (start ++ ':' :: rest)) = some (Text.upper rest) := by
  rw [Text.after?_exact, Text.upper_append, Text.upper_cons, capitals]
  rfl

theorem prefixedCode?_exact : prefixedCode? text = some n ↔ ∃ start numeral rest,
    text = start ++ ':' :: (numeral ++ rest) ∧ ':' ∉ start ∧ ':' ∉ numeral ∧ (rest = [] ∨ rest.head? = some ':') ∧
      Text.upper start = "EPSG".toList ∧ Text.readInteger numeral = some n ∧ 0 < n := by
  constructor
  · intro named
    obtain ⟨_, found, reading⟩ := Option.bind_eq_some_iff.mp named
    obtain ⟨code, read, checked⟩ := Option.bind_eq_some_iff.mp reading
    obtain ⟨start, tail, rfl, absent, capitals⟩ := after_parts found
    obtain ⟨numeral, rest, rfl, free, ends⟩ := Text.split_mark ':' tail
    rw [Text.past_mark absent, Text.upTo_mark free ends] at read
    split at checked
    · rename_i positive
      cases checked
      exact ⟨start, numeral, rest, rfl, absent, free, ends, capitals, read, positive⟩
    · cases checked
  · rintro ⟨start, numeral, rest, rfl, absent, free, ends, capitals, read, positive⟩
    unfold prefixedCode?
    rw [after_capitals capitals, Text.past_mark absent, Text.upTo_mark free ends, read]
    simp [positive]

theorem urn_unprefixed (whole : urnStart ++ digits = start ++ ':' :: rest) (absent : ':' ∉ start) :
    Text.upper start ≠ "EPSG".toList := by
  have parts : urnStart ++ digits = "urn".toList ++ ':' :: ("ogc:def:crs:EPSG::".toList ++ digits) := rfl
  obtain ⟨rfl, _⟩ := Text.first_inj (by decide) absent (parts.symm.trans whole)
  decide

theorem urnCode?_prefixed (named : prefixedCode? text = some n) : urnCode? text = none := by
  obtain ⟨start, numeral, rest, whole, absent, _, _, capitals, _⟩ := prefixedCode?_exact.mp named
  cases long : urnCode? text with
  | none => rfl
  | some m =>
    obtain ⟨digits, _, other, _⟩ := urnCode?_exact.mp long
    exact absurd capitals (urn_unprefixed (other.symm.trans whole) absent)

theorem code_denotes : code (.text value) = .ok n ↔ Denotes (Text.trim value.toList) n := by
  rw [code_exact]
  constructor
  · rintro (_ | ⟨_, read⟩ | ⟨_, _, read⟩)
    · obtain ⟨digits, values, whole, read, few, same⟩ := urnCode?_exact.mp read
      exact .urn digits values whole read few same
    · obtain ⟨start, numeral, rest, whole, first, second, ends, capitals, read, positive⟩ := prefixedCode?_exact.mp read
      exact .prefixed start numeral rest whole first second ends capitals read positive
  · rintro (⟨digits, values, whole, read, few, same⟩ |
      ⟨start, numeral, rest, whole, first, second, ends, capitals, read, positive⟩)
    · exact .urn value (urnCode?_exact.mpr ⟨digits, values, whole, read, few, same⟩)
    · have named : prefixedCode? (Text.trim value.toList) = some n :=
        prefixedCode?_exact.mpr ⟨start, numeral, rest, whole, first, second, ends, capitals, read, positive⟩
      exact .prefixed value (urnCode?_prefixed named) named

theorem ofText_error (failed : ofText text = .error problem) : problem = .unrecognised (.text (String.ofList text)) := by
  unfold ofText at failed
  split at failed
  · cases failed
  · split at failed <;> cases failed
    rfl

theorem standard_code : Registry.standard crs = .ok (.integer n) ↔ code crs = .ok n := by
  unfold Registry.standard
  cases code crs <;> simp

theorem standard_denotes : Registry.standard (.text value) = .ok (.integer n) ↔ Denotes (Text.trim value.toList) n :=
  standard_code.trans code_denotes

theorem standard_refused (foreign : ∀ n, ¬ Denotes (Text.trim value.toList) n) : Registry.standard (.text value) =
    .error ⟨.lookup, (Problem.unrecognised (.text (String.ofList (Text.trim value.toList)))).message⟩ := by
  have failed : code (.text value) = .error (.unrecognised (.text (String.ofList (Text.trim value.toList)))) := by
    cases found : code (.text value) with
    | ok n => exact absurd (code_denotes.mp found) (foreign n)
    | error problem => rw [ofText_error found]
  rw [Registry.standard, failed]

def prefixedForm (start : List Char) (n : Nat) : List Char := start ++ ':' :: Nat.toDigits 10 n

def urnForm (zeros n : Nat) : List Char := urnStart ++ (List.replicate zeros '0' ++ Nat.toDigits 10 n)

section

variable {zeros n : Nat}

theorem padded_isDigit : ∀ c ∈ List.replicate zeros '0' ++ Nat.toDigits 10 n, c.isDigit = true := by
  refine List.forall_mem_append.mpr ⟨fun c member => ?_, Text.toDigits_isDigit⟩
  rw [List.eq_of_mem_replicate member]
  rfl

theorem prefixedForm_solid (capitals : Text.upper start = "EPSG".toList) :
    ∀ c ∈ prefixedForm start n, Text.isBlank c = false := by
  have letters : ∀ c ∈ Text.upper start, Text.isBlank c = false := by
    rw [capitals]
    exact Text.solid_of_all (by decide)
  refine List.forall_mem_append.mpr ⟨Text.upper_solid letters, List.forall_mem_cons.mpr ⟨by decide, ?_⟩⟩
  exact fun c member => Text.isBlank_isDigit (Text.toDigits_isDigit c member)

theorem urnForm_solid : ∀ c ∈ urnForm zeros n, Text.isBlank c = false :=
  List.forall_mem_append.mpr ⟨Text.solid_of_all (by decide), fun c member => Text.isBlank_isDigit (padded_isDigit c member)⟩

theorem prefixedForm_denotes (capitals : Text.upper start = "EPSG".toList) (positive : 0 < n)
    (few : (Nat.toDigits 10 n).length ≤ Text.longestNumeral) : Denotes (prefixedForm start n) n := by
  have absent : ':' ∉ start := fun member => absurd (capitals ▸ Text.colon_upper.mpr member) (by decide)
  have free : ':' ∉ Nat.toDigits 10 n := fun member => absurd (Text.toDigits_isDigit ':' member) (by decide)
  refine .prefixed start (Nat.toDigits 10 n) [] ?_ absent free (.inl rfl) capitals (Text.readInteger_toDigits few)
    (Int.natCast_pos.mpr positive)
  rw [List.append_nil]
  rfl

theorem urnForm_denotes (few : zeros + (Nat.toDigits 10 n).length ≤ 6) : Denotes (urnForm zeros n) n := by
  have digits : ∀ c ∈ List.replicate zeros '0' ++ Nat.toDigits 10 n, c.isDigit = true := padded_isDigit
  have size : (List.replicate zeros '0' ++ Nat.toDigits 10 n).length = zeros + (Nat.toDigits 10 n).length := by
    rw [List.length_append, List.length_replicate]
  have some : 0 < (Nat.toDigits 10 n).length := Nat.length_toDigits_pos
  refine .urn _ ((List.replicate zeros '0' ++ Nat.toDigits 10 n).map fun c => c.toNat - '0'.toNat) rfl ?_ (by omega) ?_
  · rw [List.map_map]
    exact List.map_congr_left fun c member => Text.digitValue?_isDigit (digits c member)
  · rw [Text.digitsValue_isDigit, Nat.ofDigitChars_append, Nat.ofDigitChars_replicate_zero, Nat.mul_zero,
      Nat.ofDigitChars_ten_toDigits]

theorem urnForm_foreign (many : 6 < zeros + (Nat.toDigits 10 n).length) (m : Int) : ¬ Denotes (urnForm zeros n) m := by
  rintro (⟨digits, values, whole, _, few, _⟩ | ⟨start, numeral, rest, whole, absent, _, _, capitals, _⟩)
  · have same := List.append_cancel_left whole
    rw [← same, List.length_append, List.length_replicate] at few
    omega
  · exact urn_unprefixed whole absent capitals

def Agreed (n : Nat) : Prop :=
  Registry.standard (.integer n) = .ok (.integer n) ∧
    ∀ start value, Text.upper start = "EPSG".toList → Text.Encloses value (prefixedForm start n) →
      Registry.standard (.text value) = .ok (.integer n)

theorem agreed (positive : 0 < n) (few : (Nat.toDigits 10 n).length ≤ Text.longestNumeral) : Agreed n := by
  constructor
  · exact standard_code.mpr (code_exact.mpr (.number (Int.natCast_pos.mpr positive)))
  · intro start value capitals encloses
    rw [standard_denotes, encloses.trim (prefixedForm_solid capitals)]
    exact prefixedForm_denotes capitals positive few

end

-- Texts are read as codes exactly where they are written as such, and all others are
-- refused in the same way. Up to six digits the three forms of a number agree; beyond
-- them the long form is refused.
theorem references_exact :
    (∀ value : String,
      let text := Text.trim value.toList
      (∀ n, Registry.standard (.text value) = .ok (.integer n) ↔ Denotes text n) ∧
        ((∀ n, ¬ Denotes text n) → Registry.standard (.text value) =
          .error ⟨.lookup, (Problem.unrecognised (.text (String.ofList text))).message⟩) ∧
        (Text.after? "EPSG:".toList (Text.upper text) ≠ none →
          (Text.pieces [':'] text)[1]? = some (Text.upTo [':'] (Text.past [':'] text)))) ∧
      (∀ n : Nat, 1 ≤ n → n ≤ 999999 → Agreed n ∧
        ∀ zeros value, zeros + (Nat.toDigits 10 n).length ≤ 6 → Text.Encloses value (urnForm zeros n) →
          Registry.standard (.text value) = .ok (.integer n)) ∧
      ∀ n : Nat, 999999 < n → (Nat.toDigits 10 n).length ≤ 4300 → Agreed n ∧
        ∀ zeros value, Text.Encloses value (urnForm zeros n) →
          ∃ f, Registry.standard (.text value) = .error f ∧ f.kind = .lookup := by
  have short (n : Nat) : (Nat.toDigits 10 n).length ≤ 6 ↔ n < 1000000 := Nat.length_toDigits_le_iff (by decide) (by decide)
  refine ⟨fun value => ⟨fun n => standard_denotes, standard_refused, fun found => ?_⟩, ?_, ?_⟩
  · obtain ⟨capitals, found⟩ := Option.ne_none_iff_exists'.mp found
    obtain ⟨start, rest, whole, absent, _⟩ := after_parts found
    rw [whole, Text.past_mark absent]
    exact Text.pieces_second absent
  · intro n positive small
    refine ⟨agreed positive (Nat.le_trans ((short n).mpr (Nat.lt_succ_of_le small)) (by decide)), ?_⟩
    intro zeros value few encloses
    rw [standard_denotes, encloses.trim urnForm_solid]
    exact urnForm_denotes few
  · intro n large few
    refine ⟨agreed (Nat.zero_lt_of_lt large) few, ?_⟩
    intro zeros value encloses
    have many : 6 < (Nat.toDigits 10 n).length := Nat.lt_of_not_le fun less =>
      absurd ((short n).mp less) (Nat.not_lt.mpr large)
    have foreign : ∀ m, ¬ Denotes (Text.trim value.toList) m := by
      rw [encloses.trim urnForm_solid]
      exact urnForm_foreign (Nat.lt_add_left zeros many)
    exact ⟨_, standard_refused foreign, rfl⟩

theorem references_exact_sample :
    let blank : List Char := ['\t', '\u3000']
    let short := String.ofList (blank ++ prefixedForm "ePſg".toList 25832 ++ blank)
    let long := String.ofList (blank ++ urnForm 1 25832 ++ blank)
    let large := String.ofList (blank ++ urnForm 0 1000000 ++ blank)
    Text.Encloses short (prefixedForm "ePſg".toList 25832) ∧ Text.Encloses long (urnForm 1 25832) ∧
      Text.Encloses large (urnForm 0 1000000) ∧ Registry.standard (.text short) = .ok (.integer 25832) ∧
      Registry.standard (.text long) = .ok (.integer 25832) ∧
      ∃ f, Registry.standard (.text large) = .error f ∧ f.kind = .lookup := by
  intro blank short long large
  have blanks : ∀ c ∈ blank, Text.isBlank c = true := List.all_eq_true.mp (by decide)
  have encloses (core : List Char) : Text.Encloses (String.ofList (blank ++ core ++ blank)) core :=
    ⟨blank, blank, String.toList_ofList, blanks, blanks⟩
  obtain ⟨_, few, many⟩ := references_exact
  obtain ⟨⟨_, agreed⟩, urn⟩ := few 25832 (by decide) (by decide)
  obtain ⟨_, refused⟩ := many 1000000 (by decide) (by decide)
  exact ⟨encloses _, encloses _, encloses _, agreed _ _ (by decide +kernel) (encloses _),
    urn 1 _ (by decide) (encloses _), refused 0 _ (encloses _)⟩

end Crs

end FeatureTables
