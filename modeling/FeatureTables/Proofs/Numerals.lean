import FeatureTables.Proofs.Codes
import FeatureTables.Proofs.Replacement

namespace FeatureTables

namespace Text

variable {text left right code rest : List Char} {c mark : Char} {n : Nat}

theorem colon_ofNat (same : Char.ofNat n = ':') : n = 58 := by
  by_cases valid : n.isValidChar
  · have here : Char.ofNat n = Char.ofNatAux n valid := dif_pos valid
    exact congrArg Char.toNat (here.symm.trans same)
  · have nowhere : Char.ofNat n = '\x00' := dif_neg valid
    cases nowhere.symm.trans same

set_option maxRecDepth 1000 in
theorem colon_moveCase (moved : moveCase upperRuns c = ':') : c = ':' := by
  unfold moveCase at moved
  split at moved
  · rename_i code found
    obtain ⟨run, listed, image⟩ := List.exists_of_findSome?_eq_some found
    have above : ∀ run ∈ upperRuns, 58 < (run.first : Int) + run.shift := by decide
    have high := above run listed
    have place := colon_ofNat moved
    unfold CaseRun.image? at image
    split at image <;> cases image
    omega
  · exact moved

theorem colon_upperChar (capital : ':' ∈ upperChar c) : c = ':' := by
  unfold upperChar at capital
  split at capital
  · rename_i ascii
    have every : ∀ n < 128, ':' ∈ [upperAscii (Char.ofNat n)] → Char.ofNat n = ':' := by decide
    have here := every c.toNat ascii
    rw [Char.ofNat_toNat] at here
    exact here capital
  · split at capital
    · rename_i codes found
      have none : ∀ pair ∈ upperSequences, ':' ∉ pair.2.map Char.ofNat := by decide
      obtain ⟨before, after, listed, _⟩ := List.lookup_eq_some_iff.mp found
      have absent : ':' ∉ codes.map Char.ofNat := none (c.toNat, codes) (by rw [listed]; simp)
      exact absurd capital absent
    · exact colon_moveCase (List.mem_singleton.mp capital).symm

theorem colon_upper : ':' ∈ upper text ↔ ':' ∈ text := by
  unfold upper
  rw [List.mem_flatMap]
  constructor
  · rintro ⟨c, member, capital⟩
    exact colon_upperChar capital ▸ member
  · exact fun member => ⟨':', member, List.mem_singleton.mpr rfl⟩

theorem upperChar_blank (blank : isBlank c = true) : upperChar c = [c] := by
  have every : ∀ range ∈ blankRanges, ∀ code ∈ List.range' range.1 (range.2 + 1 - range.1),
      upperChar (Char.ofNat code) = [Char.ofNat code] := by decide +kernel
  obtain ⟨range, listed, low, high⟩ := Ranges.holds_iff.mp blank
  have here := every range listed c.toNat (List.mem_range'_1.mpr (by omega))
  rwa [Char.ofNat_toNat] at here

theorem upper_solid (solid : ∀ c ∈ upper text, isBlank c = false) : ∀ c ∈ text, isBlank c = false := by
  intro c member
  rw [Bool.eq_false_iff]
  intro blank
  have kept : c ∈ upper text := List.mem_flatMap.mpr ⟨c, member, upperChar_blank blank ▸ List.mem_singleton.mpr rfl⟩
  exact absurd blank (Bool.eq_false_iff.mp (solid c kept))

theorem digitValue?_isDigit (digit : c.isDigit = true) : digitValue? c = some (c.toNat - '0'.toNat) := by
  simp only [Char.isDigit, Bool.and_eq_true, decide_eq_true_eq, UInt32.le_iff_toNat_le] at digit
  have inside : (48 ≤ c.toNat && c.toNat < 48 + 10) = true := by
    rw [Bool.and_eq_true, decide_eq_true_eq, decide_eq_true_eq]
    exact ⟨digit.1, Nat.lt_succ_of_le digit.2⟩
  have found : zeroDigits.find? (fun first => first ≤ c.toNat && c.toNat < first + 10) = some 48 :=
    List.find?_cons_of_pos inside
  rw [digitValue?, found]
  rfl

theorem digitsValue_isDigit (text : List Char) :
    digitsValue (text.map fun c => c.toNat - '0'.toNat) = Nat.ofDigitChars 10 text 0 := by
  rw [digitsValue, List.foldl_map, Nat.ofDigitChars_eq_foldl]

theorem readDigits_isDigit {fresh : Bool} (digits : ∀ c ∈ text, c.isDigit = true) (more : fresh = true → text ≠ []) :
    readDigits fresh text = some (text.map fun c => c.toNat - '0'.toNat) := by
  induction text generalizing fresh with
  | nil =>
    cases fresh with
    | true => exact absurd rfl (more rfl)
    | false => rfl
  | cons c text ih =>
    obtain ⟨digit, others⟩ := List.forall_mem_cons.mp digits
    have plain : c ≠ '_' := by
      rintro rfl
      cases digit
    have later : readDigits false text = some (text.map fun c => c.toNat - '0'.toNat) :=
      ih others fun fresh => absurd fresh Bool.false_ne_true
    rw [readDigits, if_neg plain, digitValue?_isDigit digit, later]
    rfl

theorem isNumeralBlank_isDigit (digit : c.isDigit = true) : isNumeralBlank c = false := by
  simp only [Char.isDigit, Bool.and_eq_true, decide_eq_true_eq, UInt32.le_iff_toNat_le] at digit
  have low : 48 ≤ c.toNat := digit.1
  have high : c.toNat ≤ 57 := digit.2
  have other : c ≠ ' ' := by
    rintro rfl
    exact absurd low (by decide)
  simp only [isNumeralBlank, other, decide_false, Bool.false_or]
  rw [Bool.or_eq_false_iff, Bool.and_eq_false_iff, Bool.and_eq_false_iff]
  simp
  omega

theorem toDigits_isDigit : ∀ c ∈ Nat.toDigits 10 n, c.isDigit = true := fun _ =>
  Nat.isDigit_of_mem_toDigits (by decide) (by decide)

theorem readInteger_toDigits (few : (Nat.toDigits 10 n).length ≤ longestNumeral) :
    readInteger (Nat.toDigits 10 n) = some (n : Int) := by
  have digits : ∀ c ∈ Nat.toDigits 10 n, c.isDigit = true := toDigits_isDigit
  have bare : trimNumeral (Nat.toDigits 10 n) = Nat.toDigits 10 n := by
    have ends := dropWhile_ends (List.forall_mem_nil _) (List.forall_mem_nil _) fun c member =>
      isNumeralBlank_isDigit (digits c member)
    rwa [List.nil_append, List.append_nil] at ends
  have natural : readNatural (Nat.toDigits 10 n) = some n := by
    rw [readNatural, readDigits_isDigit digits fun _ => Nat.toDigits_ne_nil]
    simp only [Option.bind_eq_bind, Option.bind_some, List.length_map, if_pos few, digitsValue_isDigit,
      Nat.ofDigitChars_ten_toDigits]
  rw [readInteger, bare]
  split
  · rename_i rest spelled
    exact absurd (digits '-' (spelled ▸ List.mem_cons_self)) (by decide)
  · rename_i rest spelled
    exact absurd (digits '+' (spelled ▸ List.mem_cons_self)) (by decide)
  · rw [natural]
    rfl

theorem isBlank_isDigit (digit : c.isDigit = true) : isBlank c = false := by
  refine isBlank_of_isPlain ?_
  rw [isPlain, Char.isAlphanum, digit, Bool.or_true, Bool.true_or]

theorem solid_of_all (all : text.all (fun c => !isBlank c) = true) : ∀ c ∈ text, isBlank c = false := by
  simpa using all

def Encloses (value : String) (core : List Char) : Prop :=
  ∃ left right, value.toList = left ++ core ++ right ∧ (∀ c ∈ left, isBlank c = true) ∧ ∀ c ∈ right, isBlank c = true

theorem Encloses.trim (encloses : Encloses value core) (solid : ∀ c ∈ core, isBlank c = false) :
    Text.trim value.toList = core := by
  obtain ⟨left, right, whole, before, after⟩ := encloses
  rw [whole]
  exact dropWhile_ends before after solid

theorem upTo_mark (absent : mark ∉ code) (ends : rest = [] ∨ rest.head? = some mark) :
    upTo [mark] (code ++ rest) = code := by
  cases rest with
  | nil =>
    have whole : cut? [mark] code = none := cut?_eq_none_iff.mpr fun inside => absent (inside.subset List.mem_cons_self)
    rw [List.append_nil, upTo, whole]
    rfl
  | cons first rest =>
    obtain rfl : first = mark := Option.some.inj (ends.resolve_left (List.cons_ne_nil _ _))
    have cut : upTo [first] (code ++ [first] ++ rest) = code := upTo_first absent
    rwa [List.append_assoc, List.singleton_append] at cut

theorem split_mark (mark : Char) (text : List Char) :
    ∃ code rest, text = code ++ rest ∧ mark ∉ code ∧ (rest = [] ∨ rest.head? = some mark) := by
  by_cases member : mark ∈ text
  · obtain ⟨code, rest, rfl, absent⟩ := List.eq_append_cons_of_mem member
    exact ⟨code, mark :: rest, rfl, absent, .inr rfl⟩
  · exact ⟨text, [], (List.append_nil text).symm, member, .inl rfl⟩

theorem past_mark (absent : mark ∉ left) : past [mark] (left ++ mark :: rest) = rest := by
  have cut : past [mark] (left ++ [mark] ++ rest) = rest := past_first absent
  rwa [List.append_assoc, List.singleton_append] at cut

theorem piecesWithin_head {cuts : Nat} (enough : text.length ≤ cuts) :
    (piecesWithin cuts [mark] text).head? = some (upTo [mark] text) := by
  cases cuts with
  | zero =>
    rw [List.length_eq_zero_iff.mp (Nat.le_zero.mp enough)]
    rfl
  | succ cuts =>
    rw [piecesWithin, upTo]
    cases cut? [mark] text <;> rfl

theorem pieces_second (absent : mark ∉ left) :
    (pieces [mark] (left ++ mark :: rest))[1]? = some (upTo [mark] rest) := by
  have cut : cut? [mark] (left ++ [mark] ++ rest) = some (left, rest) := cut?_first absent
  rw [List.append_assoc, List.singleton_append] at cut
  have long : (left ++ mark :: rest).length = left.length + rest.length + 1 := by
    rw [List.length_append, List.length_cons, Nat.add_assoc]
  rw [pieces, if_neg (List.cons_ne_nil _ _), long, piecesWithin, cut]
  have next : (piecesWithin (left.length + rest.length) [mark] rest)[0]? = some (upTo [mark] rest) := by
    rw [← List.head?_eq_getElem?]
    exact piecesWithin_head (Nat.le_add_left _ _)
  exact next

end Text

end FeatureTables
