import FeatureTables.Proofs.Reading

namespace FeatureTables

namespace Text

def Ascii (text : List Char) : Prop := ∀ c ∈ text, c.toNat < 128

instance : Decidable (Ascii text) := List.decidableBAll (fun c : Char => c.toNat < 128) text

theorem ascii_append : Ascii (left ++ right) ↔ Ascii left ∧ Ascii right := List.forall_mem_append

theorem ascii_cons : Ascii (c :: text) ↔ c.toNat < 128 ∧ Ascii text := List.forall_mem_cons

theorem isPlain_ascii (plain : isPlain c = true) : c.toNat < 128 := by
  delta isPlain Char.isAlphanum Char.isAlpha Char.isUpper Char.isLower Char.isDigit at plain
  simp only [Bool.or_eq_true, Bool.and_eq_true, decide_eq_true_eq, UInt32.le_iff_toNat_le] at plain
  rcases plain with ((letter | letter) | digit) | rfl
  · exact Nat.lt_of_le_of_lt letter.2 (by decide)
  · exact Nat.lt_of_le_of_lt letter.2 (by decide)
  · exact Nat.lt_of_le_of_lt digit.2 (by decide)
  · decide

theorem first_inj {left right other rest : List Char} (one : mark ∉ left) (two : mark ∉ other)
    (same : left ++ mark :: right = other ++ mark :: rest) : left = other ∧ right = rest := by
  have first : cut? [mark] (left ++ [mark] ++ right) = some (left, right) := cut?_first one
  have second : cut? [mark] (other ++ [mark] ++ rest) = some (other, rest) := cut?_first two
  rw [List.append_assoc, List.singleton_append] at first second
  rw [same, second] at first
  simp only [Option.some.injEq, Prod.mk.injEq] at first
  exact ⟨first.1.symm, first.2.symm⟩

section

variable {separator : String} {texts others : List String}

theorem joined_cons (separator : String) (first : String) (more : rest ≠ []) :
    (joined separator (first :: rest)).toList =
      first.toList ++ (separator.toList ++ (joined separator rest).toList) := by
  cases rest with
  | nil => exact absurd rfl more
  | cons second rest => rw [toList_joined, List.append_assoc]

theorem joined_forall {kind : Char → Prop} (between : ∀ c ∈ separator.toList, kind c)
    (inside : ∀ text ∈ texts, ∀ c ∈ text.toList, kind c) : ∀ c ∈ (joined separator texts).toList, kind c := by
  induction texts with
  | nil => exact nofun
  | cons first rest ih =>
    have later := ih fun text member => inside text (List.mem_cons_of_mem _ member)
    by_cases more : rest = []
    · subst more
      exact inside first List.mem_cons_self
    · rw [joined_cons separator first more, List.forall_mem_append, List.forall_mem_append]
      exact ⟨inside first List.mem_cons_self, between, later⟩

theorem joined_absent (between : c ∉ separator.toList) (inside : ∀ text ∈ texts, c ∉ text.toList) :
    c ∉ (joined separator texts).toList := by
  have others : ∀ other ∈ (joined separator texts).toList, other ≠ c :=
    joined_forall (fun _ member same => between (same ▸ member))
      fun text listed _ member same => inside text listed (same ▸ member)
  exact fun member => others c member rfl

theorem infix_joined (member : text ∈ texts) : text.toList <:+: (joined separator texts).toList := by
  induction texts with
  | nil => cases member
  | cons first rest ih =>
    by_cases more : rest = []
    · subst more
      cases List.mem_singleton.mp member
      exact List.infix_refl _
    · rw [joined_cons separator first more]
      rcases List.mem_cons.mp member with rfl | later
      · exact (List.prefix_append _ _).isInfix
      · exact ((ih later).trans (List.suffix_append _ _).isInfix).trans (List.suffix_append _ _).isInfix

theorem count_joined (first : String) (rest : List String) :
    (joined ", " (first :: rest)).toList.count ',' =
      ((first :: rest).flatMap String.toList).count ',' + rest.length := by
  induction rest generalizing first with
  | nil => simp [joined]
  | cons second rest ih =>
    have comma : ", ".toList.count ',' = 1 := by decide
    rw [joined_cons ", " first (List.cons_ne_nil second rest), List.flatMap_cons, List.count_append, List.count_append,
      List.count_append, ih second, comma, List.length_cons]
    omega

theorem count_eq_zero_iff : (texts.flatMap String.toList).count ',' = 0 ↔ ∀ text ∈ texts, ',' ∉ text.toList := by
  simp [List.count_eq_zero]

theorem pieces_comma (some : texts ≠ []) (free : ∀ text ∈ texts, ',' ∉ text.toList) :
    pieces ", ".toList (joined ", " texts).toList = texts.map String.toList := by
  refine pieces_joined [','] rfl some fun text member inside => free text member ?_
  obtain ⟨left, right, whole⟩ := inside
  rcases List.eq_nil_or_concat right with rfl | ⟨front, last, rfl⟩
  · simpa using congrArg List.getLast? whole
  · have shorter := congrArg List.dropLast whole
    rw [List.concat_eq_append, ← List.append_assoc, List.dropLast_concat, List.dropLast_concat] at shorter
    rw [← shorter]
    simp

theorem texts_inj (some : texts ≠ []) (more : others ≠ []) (free : ∀ text ∈ texts, ',' ∉ text.toList)
    (clear : ∀ text ∈ others, ',' ∉ text.toList) (same : joined ", " texts = joined ", " others) : texts = others := by
  have pieces := pieces_comma some free
  rw [same, pieces_comma more clear] at pieces
  exact (List.map_inj_right fun _ _ => String.toList_inj.mp).mp pieces.symm

theorem joined_inj (free : ∀ text ∈ texts, ',' ∉ text.toList) (many : others.length = texts.length)
    (same : joined ", " others = joined ", " texts) : others = texts := by
  cases texts with
  | nil => exact List.length_eq_zero_iff.mp many
  | cons first rest =>
    cases others with
    | nil => cases many
    | cons other more =>
      have commas := count_joined other more
      rw [same, count_joined, count_eq_zero_iff.mpr free, Nat.succ.inj many] at commas
      have otherFree : ∀ text ∈ other :: more, ',' ∉ text.toList := count_eq_zero_iff.mp (by omega)
      exact texts_inj (List.cons_ne_nil other more) (List.cons_ne_nil first rest) otherFree free same

end

end Text

namespace Verb

theorem Quiet.part {text part : List Char} (quiet : Quiet text) (inside : part <:+: text) : Quiet part := by
  obtain ⟨left, right, rfl⟩ := inside
  intro within
  refine quiet (within.trans ?_)
  rw [Text.upper_append, Text.upper_append]
  exact ⟨_, _, rfl⟩

theorem quiet_joined (quiet : ∀ text ∈ texts, Quiet text.toList) : Quiet (Text.joined ", " texts).toList := by
  induction texts with
  | nil => exact quiet_nil
  | cons first rest ih =>
    by_cases more : rest = []
    · subst more
      exact quiet first List.mem_cons_self
    · rw [Text.joined_cons ", " first more]
      refine (quiet_around rfl (by decide)).mpr ⟨quiet first List.mem_cons_self, ?_⟩
      have later := ih fun text member => quiet text (List.mem_cons_of_mem _ member)
      exact quiet_blank.mpr ⟨quiet_nil, later⟩

end Verb

end FeatureTables
