import FeatureTables.Proofs.Spelling

namespace FeatureTables

namespace Text

-- Texts in which every letter has a capital of one letter. In them a place in the capitals
-- is a place in the text.
def Steady (text : List Char) : Prop := ∀ c ∈ text, (upperChar c).length = 1

instance : Decidable (Steady text) := List.decidableBAll (fun c => (upperChar c).length = 1) text

variable {text left right word : List Char}

theorem steady_append : Steady (left ++ right) ↔ Steady left ∧ Steady right := List.forall_mem_append

theorem steady_cons : Steady (c :: text) ↔ (upperChar c).length = 1 ∧ Steady text := List.forall_mem_cons

theorem Ascii.steady (ascii : Ascii text) : Steady text := by
  intro c member
  rw [upperChar, if_pos (ascii c member)]
  rfl

theorem upperChar_ne_nil (c : Char) : upperChar c ≠ [] := by
  unfold upperChar
  split
  · exact List.cons_ne_nil _ _
  · split
    · rename_i codes found
      have some : ∀ pair ∈ upperSequences, pair.2 ≠ [] := by decide
      obtain ⟨before, after, listed, _⟩ := List.lookup_eq_some_iff.mp found
      have present : codes ≠ [] := some (c.toNat, codes) (by rw [listed]; simp)
      simpa using present
    · exact List.cons_ne_nil _ _

theorem length_le_upper (text : List Char) : text.length ≤ (upper text).length := by
  induction text with
  | nil => exact Nat.le_refl _
  | cons c text ih =>
    have some := List.length_pos_iff.mpr (upperChar_ne_nil c)
    rw [upper_cons, List.length_append, List.length_cons]
    omega

theorem steady_of_length (same : (upper text).length = text.length) : Steady text := by
  induction text with
  | nil => exact List.forall_mem_nil _
  | cons c text ih =>
    have some := List.length_pos_iff.mpr (upperChar_ne_nil c)
    have rest := length_le_upper text
    rw [upper_cons, List.length_append, List.length_cons] at same
    exact List.forall_mem_cons.mpr ⟨by omega, ih (by omega)⟩

theorem upper_steady (steady : Steady text) : upper text = text.map fun c => (upperChar c).headD c := by
  induction text with
  | nil => rfl
  | cons c text ih =>
    obtain ⟨capital, single⟩ := List.length_eq_one_iff.mp (steady c List.mem_cons_self)
    rw [upper_cons, ih fun other later => steady other (List.mem_cons_of_mem _ later), List.map_cons, single]
    rfl

theorem length_upper (steady : Steady text) : (upper text).length = text.length := by
  rw [upper_steady steady, List.length_map]

theorem infix_upper (steady : Steady text) (inside : word <:+: upper text) :
    ∃ letters, letters <:+: text ∧ letters.length = word.length ∧ upper letters = word := by
  rw [upper_steady steady] at inside
  obtain ⟨letters, part, rfl⟩ := List.infix_map_iff.mp inside
  refine ⟨letters, part, by rw [List.length_map], upper_steady fun c member => steady c (part.subset member)⟩

theorem cut?_fresh {last : Char} (found : cut? (word ++ [last]) text = some (left, right)) :
    ¬ word ++ [last] <:+: left ++ word := by
  induction text generalizing left with
  | nil => simp [cut?] at found
  | cons c text ih =>
    simp only [cut?] at found
    split at found
    · cases found
      intro inside
      have short := inside.length_le
      simp only [List.length_append, List.length_singleton, List.length_nil, Nat.zero_add] at short
      omega
    · rename_i away
      obtain ⟨parts, met, same⟩ := Option.map_eq_some_iff.mp found
      simp only [Prod.mk.injEq] at same
      obtain ⟨rfl, rfl⟩ := same
      intro inside
      rcases List.infix_cons_iff.mp inside with start | later
      · have whole := cut?_append met
        have first : word ++ [last] <+: c :: text := by
          refine start.trans ⟨last :: parts.2, ?_⟩
          rw [whole]
          simp
        obtain ⟨rest, same⟩ := first
        rw [after?_exact.mpr same.symm] at away
        cases away
      · exact ih met later

end Text

namespace Verb

def Spells (word : List Char) : Prop := word.length = insert.length ∧ Text.upper word = insert

instance : Decidable (Spells word) := inferInstanceAs (Decidable (_ ∧ _))

structure First (text left word right : List Char) : Prop where
  whole : text = left ++ word ++ right
  spells : Spells word
  first : ∀ before other after, text = before ++ other ++ after → Spells other → left.length ≤ before.length

def Unspelled (text : List Char) : Prop := ∀ word, word <:+: text → ¬ Spells word

-- What a text is meant to become: its first letters that spell the verb are replaced,
-- and nothing else is.
inductive Meant (text : List Char) : List Char → Prop where
  | replaced (first : First text left word right) : Meant text (left ++ upsert ++ right)
  | kept (none : Unspelled text) : Meant text text

def CapitalsAt (text : List Char) (n : Nat) : Prop :=
  ∃ front rest, Text.upper text = front ++ insert ++ rest ∧ front.length = n ∧
    ¬ insert <:+: front ++ insert.dropLast

-- A text that spells the verb has it first where its capitals have it first. A text that
-- does not, but whose capitals do, happens to have the other verb there already.
def Level (text : List Char) : Prop :=
  ∀ n, CapitalsAt text n →
    (∃ left word right, First text left word right ∧ left.length = n) ∨
      Unspelled text ∧ ∃ left right, text = left ++ upsert ++ right ∧ left.length = n

variable {text left word right out : List Char} {n : Nat}

theorem insertPosition?_eq_some_iff : insertPosition? text = some n ↔ CapitalsAt text n := by
  unfold insertPosition? Text.position?
  constructor
  · intro found
    obtain ⟨parts, cut, rfl⟩ := Option.map_eq_some_iff.mp found
    have fresh : ¬ insert.dropLast ++ ['T'] <:+: parts.1 ++ insert.dropLast := Text.cut?_fresh cut
    exact ⟨parts.1, parts.2, Text.cut?_append cut, rfl, fresh⟩
  · rintro ⟨front, rest, capitals, rfl, fresh⟩
    have cut : Text.cut? (insert.dropLast ++ ['T']) (front ++ (insert.dropLast ++ ['T']) ++ rest) = some (front, rest) :=
      Text.cut?_here fresh
    have spelled : insert = insert.dropLast ++ ['T'] := rfl
    rw [capitals, spelled, cut]
    rfl

theorem CapitalsAt.unique (one : CapitalsAt text n) (other : CapitalsAt text m) : n = m := by
  rw [← insertPosition?_eq_some_iff] at one other
  exact Option.some.inj (one.symm.trans other)

theorem insertPosition?_eq_none_iff : insertPosition? text = none ↔ Quiet text := by
  simp [insertPosition?, Text.position?, Text.cut?_eq_none_iff, Quiet]

theorem Spells.steady (spells : Spells word) : Text.Steady word :=
  Text.steady_of_length (by rw [spells.2, spells.1])

theorem Spells.inside (spells : Spells word) (inside : word <:+: text) : ¬ Quiet text := by
  intro quiet
  have part : Quiet word := quiet.part inside
  exact part (spells.2 ▸ List.infix_refl _)

theorem quiet_of_unspelled (steady : Text.Steady text) (unspelled : Unspelled text) : Quiet text := by
  intro inside
  obtain ⟨letters, part, size, capitals⟩ := Text.infix_upper steady inside
  exact unspelled letters part ⟨size, capitals⟩

theorem First.inside (first : First text left word right) : word <:+: text := ⟨left, right, first.whole.symm⟩

theorem First.unique (one : First text left word right) (other : First text before spelled after) :
    left = before ∧ right = after := by
  have same : left.length = before.length :=
    Nat.le_antisymm (one.first _ _ _ other.whole other.spells) (other.first _ _ _ one.whole one.spells)
  have whole := one.whole.symm.trans other.whole
  rw [List.append_assoc, List.append_assoc] at whole
  obtain ⟨front, rest⟩ := List.append_inj whole same
  exact ⟨front, (List.append_inj rest (one.spells.1.trans other.spells.1.symm)).2⟩

theorem first_or_unspelled (text : List Char) :
    (∃ left word right, First text left word right) ∨ Unspelled text := by
  induction text with
  | nil =>
    refine .inr fun word inside spells => ?_
    rw [List.infix_nil.mp inside] at spells
    cases spells.1
  | cons c text ih =>
    by_cases start : Spells ((c :: text).take insert.length)
    · refine .inl ⟨[], _, _, (List.take_append_drop insert.length (c :: text)).symm, start, ?_⟩
      exact fun _ _ _ _ _ => Nat.zero_le _
    · have elsewhere {word : List Char} (spells : Spells word) : ¬ word <+: c :: text := by
        intro first
        rw [← spells.1, ← List.prefix_iff_eq_take.mp first] at start
        exact start spells
      rcases ih with ⟨left, word, right, first⟩ | unspelled
      · refine .inl ⟨c :: left, word, right, by rw [first.whole]; rfl, first.spells, ?_⟩
        intro before other after whole spells
        cases before with
        | nil => exact absurd ⟨after, whole.symm⟩ (elsewhere spells)
        | cons b before => exact Nat.succ_le_succ (first.first _ _ _ (List.cons.inj whole).2 spells)
      · refine .inr fun word inside spells => ?_
        rcases List.infix_cons_iff.mp inside with first | later
        · exact elsewhere spells first
        · exact unspelled word later spells

theorem meant_unique (text : List Char) : ∃! out, Meant text out := by
  rcases first_or_unspelled text with ⟨left, word, right, first⟩ | unspelled
  · refine ⟨_, .replaced first, fun other meant => ?_⟩
    cases meant with
    | replaced again =>
      obtain ⟨rfl, rfl⟩ := first.unique again
      rfl
    | kept unspelled => exact absurd first.spells (unspelled _ first.inside)
  · refine ⟨_, .kept unspelled, fun other meant => ?_⟩
    cases meant with
    | replaced first => exact absurd first.spells (unspelled _ first.inside)
    | kept => rfl

theorem toUpsert_at (place : insertPosition? text = some n) :
    toUpsert text = text.take n ++ upsert ++ text.drop (n + insert.length) := by
  rw [toUpsert, place]

theorem toUpsert_first (whole : text = left ++ word ++ right) (size : word.length = insert.length)
    (place : insertPosition? text = some left.length) : toUpsert text = left ++ upsert ++ right := by
  subst whole
  rw [toUpsert_at place, ← size, ← List.length_append, List.drop_left, List.append_assoc left word, List.take_left]

theorem upsert_at (left right : List Char) : (left ++ upsert ++ right)[left.length]? = some 'U' := by
  rw [List.append_assoc, List.getElem?_append_right (Nat.le_refl _), Nat.sub_self]
  rfl

theorem Spells.head (spells : Spells word) : word[0]? ≠ some 'U' := by
  intro first
  cases word with
  | nil => cases first
  | cons c word =>
    cases first
    have capitals := spells.2
    rw [Text.upper_cons] at capitals
    cases capitals

theorem replaced_at (text : List Char) {i : Nat} (short : i < text.length) (other : text[i]? ≠ some 'U')
    (met : (text.take n ++ upsert ++ text.drop (n + insert.length))[i]? = some 'U') : i = n := by
  rcases Nat.lt_or_ge i n with before | reached
  · rw [List.append_assoc, List.getElem?_append_left (by rw [List.length_take]; omega),
      List.getElem?_take_of_lt before] at met
    exact absurd met other
  · have front : (text.take n).length = n := List.length_take_of_le (by omega)
    rw [List.append_assoc, List.getElem?_append_right (by omega), front] at met
    rcases Nat.lt_or_ge (i - n) upsert.length with within | past
    · rw [List.getElem?_append_left within] at met
      have single : ∀ k < upsert.length, upsert[k]? = some 'U' → k = 0 := by decide
      have first := single _ within met
      omega
    · rw [List.getElem?_append_right past, List.getElem?_drop] at met
      have sizes : insert.length = upsert.length := rfl
      rw [sizes, show n + upsert.length + (i - n - upsert.length) = i by omega] at met
      exact absurd met other

theorem First.head (first : First text left word right) :
    left.length < text.length ∧ text[left.length]? ≠ some 'U' := by
  have size : word.length = 6 := first.spells.1
  rw [first.whole, List.append_assoc]
  constructor
  · rw [List.length_append, List.length_append]
    omega
  · rw [List.getElem?_append_right (Nat.le_refl _), Nat.sub_self, List.getElem?_append_left (by omega)]
    exact first.spells.head

theorem First.toUpsert_iff (first : First text left word right) :
    toUpsert text = left ++ upsert ++ right ↔ Level text := by
  constructor
  · intro replaced n capitals
    rw [toUpsert_at (insertPosition?_eq_some_iff.mpr capitals)] at replaced
    refine .inl ⟨left, word, right, first, replaced_at text first.head.1 first.head.2 ?_⟩
    rw [replaced, upsert_at]
  · intro level
    obtain ⟨n, place⟩ := Option.ne_none_iff_exists'.mp fun none =>
      first.spells.inside first.inside (insertPosition?_eq_none_iff.mp none)
    rcases level n (insertPosition?_eq_some_iff.mp place) with ⟨_, _, _, again, rfl⟩ | ⟨unspelled, _⟩
    · rw [← (first.unique again).1] at place
      exact toUpsert_first first.whole first.spells.1 place
    · exact absurd first.spells (unspelled _ first.inside)

theorem Unspelled.toUpsert_iff (unspelled : Unspelled text) : toUpsert text = text ↔ Level text := by
  constructor
  · intro kept n capitals
    rw [toUpsert_at (insertPosition?_eq_some_iff.mpr capitals)] at kept
    refine .inr ⟨unspelled, _, _, kept.symm, ?_⟩
    have size := congrArg List.length kept
    have verbs : insert.length = 6 ∧ upsert.length = 6 := ⟨rfl, rfl⟩
    simp only [List.length_append, List.length_take, List.length_drop] at size
    rw [List.length_take]
    omega
  · intro level
    cases place : insertPosition? text with
    | none => exact toUpsert_quiet (insertPosition?_eq_none_iff.mp place)
    | some n =>
      rcases level n (insertPosition?_eq_some_iff.mp place) with ⟨_, _, _, first, _⟩ | ⟨_, left, right, whole, rfl⟩
      · exact absurd first.spells (unspelled _ first.inside)
      · exact (toUpsert_first whole rfl place).trans whole.symm

theorem toUpsert_meant_iff (meant : Meant text out) : toUpsert text = out ↔ Level text := by
  cases meant with
  | replaced first => exact first.toUpsert_iff
  | kept unspelled => exact unspelled.toUpsert_iff

section

variable {sep : Char} (capital : Text.upperChar sep = [sep]) (absent : sep ∉ insert)
  (steady : Text.Steady left)

include capital absent steady

theorem insertPosition?_around (right : List Char) : insertPosition? (left ++ sep :: right) =
    (insertPosition? left).or ((insertPosition? right).map (left.length + 1 + ·)) := by
  have capitals : Text.upper (left ++ sep :: right) = Text.upper left ++ sep :: Text.upper right := by
    rw [Text.upper_append, Text.upper_cons, capital, List.singleton_append]
  unfold insertPosition? Text.position?
  rw [capitals, Text.cut?_around absent, ← Text.length_upper steady]
  cases Text.cut? insert (Text.upper left) <;> cases Text.cut? insert (Text.upper right) <;>
    simp [Nat.add_right_comm, Nat.add_assoc]

theorem toUpsert_beyond (quiet : Quiet left) : toUpsert (left ++ sep :: right) = left ++ sep :: toUpsert right := by
  have whole := insertPosition?_around capital absent steady right
  rw [insertPosition?_eq_none_iff.mpr quiet, Option.none_or] at whole
  cases place : insertPosition? right with
  | none => simp only [toUpsert, whole, place, Option.map_none]
  | some n =>
    have front : left.length + 1 = (left ++ [sep]).length := by simp
    rw [place, Option.map_some] at whole
    rw [toUpsert_at whole, toUpsert_at place, List.append_cons, front, Nat.add_assoc, List.take_length_add_append,
      List.drop_length_add_append]
    simp

theorem toUpsert_within (loud : ¬ Quiet left) : toUpsert (left ++ sep :: right) = toUpsert left ++ sep :: right := by
  have whole := insertPosition?_around capital absent steady right
  obtain ⟨n, place⟩ := Option.ne_none_iff_exists'.mp (mt insertPosition?_eq_none_iff.mp loud)
  obtain ⟨front, rest, capitals, rfl, _⟩ := insertPosition?_eq_some_iff.mp place
  have size := congrArg List.length capitals
  rw [Text.length_upper steady, List.length_append, List.length_append] at size
  rw [place, Option.some_or] at whole
  rw [toUpsert_at whole, toUpsert_at place, List.take_append_of_le_length (by omega),
    List.drop_append_of_le_length (by omega), List.append_assoc _ _ (sep :: right)]

theorem toUpsert_before (quiet : Quiet right) : toUpsert (left ++ sep :: right) = toUpsert left ++ sep :: right := by
  by_cases calm : Quiet left
  · rw [toUpsert_beyond capital absent steady calm, toUpsert_quiet quiet, toUpsert_quiet calm]
  · exact toUpsert_within capital absent steady calm

end

theorem toUpsert_forall {kind : Char → Prop} (verb : ∀ c ∈ upsert, kind c) (inside : ∀ c ∈ text, kind c) :
    ∀ c ∈ toUpsert text, kind c := by
  unfold toUpsert
  split
  · rw [List.forall_mem_append, List.forall_mem_append]
    exact ⟨⟨fun c member => inside c (List.mem_of_mem_take member), verb⟩,
      fun c member => inside c (List.mem_of_mem_drop member)⟩
  · exact inside

theorem First.capitalsAt (first : First text left word right) (steady : Text.Steady left) :
    CapitalsAt text left.length := by
  refine ⟨Text.upper left, Text.upper right, ?_, Text.length_upper steady, fun inside => ?_⟩
  · rw [first.whole, Text.upper_append, Text.upper_append, first.spells.2]
  · have shorter : Text.Steady word.dropLast := fun c member => first.spells.steady c (List.mem_of_mem_dropLast member)
    have capitals : Text.upper word.dropLast = insert.dropLast := by
      rw [← first.spells.2, Text.upper_steady first.spells.steady, Text.upper_steady shorter, List.map_dropLast]
    rw [← capitals, ← Text.upper_append] at inside
    obtain ⟨letters, ⟨before, after, within⟩, size, spelled⟩ :=
      Text.infix_upper (Text.steady_append.mpr ⟨steady, shorter⟩) inside
    have front : left ++ word.dropLast <+: text := by
      rw [first.whole, List.append_assoc]
      exact (List.prefix_append_right_inj left).mpr ((List.dropLast_prefix word).trans (List.prefix_append _ _))
    obtain ⟨rest, whole⟩ := front
    have later : text = before ++ letters ++ (after ++ rest) := by
      rw [← whole, ← within, List.append_assoc (before ++ letters)]
    have bound := first.first _ _ _ later ⟨size, spelled⟩
    have sizes := congrArg List.length within
    have verb : word.length = 6 ∧ insert.length = 6 := ⟨first.spells.1, rfl⟩
    simp only [List.length_append, List.length_dropLast, size] at sizes
    omega

theorem First.level (first : First text left word right) (steady : Text.Steady left) : Level text := fun _ capitals =>
  .inl ⟨left, word, right, first, (first.capitalsAt steady).unique capitals⟩

theorem level_of_steady (steady : Text.Steady text) : Level text := by
  rcases first_or_unspelled text with ⟨left, word, right, first⟩ | unspelled
  · exact first.level fun c member => steady c (by rw [first.whole]; simp [member])
  · rintro n ⟨front, rest, capitals, _⟩
    exact absurd ⟨front, rest, capitals.symm⟩ (quiet_of_unspelled steady unspelled)

theorem quiet_of_fixed (steady : Text.Steady text) (fixed : toUpsert text = text) : Quiet text := by
  rcases first_or_unspelled text with ⟨left, word, right, first⟩ | unspelled
  · have replaced := first.toUpsert_iff.mpr (level_of_steady steady)
    have verb : text[left.length]? = some 'U' := by rw [← fixed, replaced, upsert_at]
    exact absurd verb first.head.2
  · exact quiet_of_unspelled steady unspelled

theorem First.of_quiet (spells : Spells word) (quiet : Quiet (left ++ word.dropLast)) :
    First (left ++ word ++ right) left word right := by
  refine ⟨rfl, spells, fun before other after whole earlier => Nat.le_of_not_lt fun sooner => ?_⟩
  have one : before ++ other <+: left ++ word ++ right := ⟨after, whole.symm⟩
  have two : left ++ word.dropLast <+: left ++ word ++ right := by
    rw [List.append_assoc]
    exact (List.prefix_append_right_inj left).mpr ((List.dropLast_prefix word).trans (List.prefix_append _ _))
  have within : before ++ other <+: left ++ word.dropLast := by
    refine List.prefix_of_prefix_length_le one two ?_
    rw [List.length_append, List.length_append, List.length_dropLast, spells.1, earlier.1]
    omega
  exact earlier.inside ((List.suffix_append before other).isInfix.trans within.isInfix) quiet

end Verb

namespace Dialect

variable {d : Dialect}

-- The first verb is replaced, and nothing else, exactly in level texts. Longer capitals
-- before the verb move the place; where each letter there has one capital it stays.
theorem tableName_meant_iff (phoenix : d.backend = .phoenix) (bare : d.quote = "") (raw sql : String) :
    (∃! out, Verb.Meant sql.toList out) ∧
      (∀ out, Verb.Meant sql.toList out →
        (d.tableName raw sql = String.ofList out ++ raw ↔ Verb.Level sql.toList)) ∧
      (Text.Steady sql.toList → Verb.Level sql.toList) ∧
      ∀ left word right, Verb.First sql.toList left word right → Text.Steady left → Verb.Level sql.toList := by
  refine ⟨Verb.meant_unique _, fun out meant => ?_, Verb.level_of_steady, fun _ _ _ first => first.level⟩
  have written : d.tableName raw sql = String.ofList (Verb.toUpsert sql.toList) ++ raw := by
    simp [tableName, phoenix, escaped, bare]
  rw [written, ← Verb.toUpsert_meant_iff meant, String.append_left_inj, String.ofList_inj]

theorem tableName_meant_iff_sample :
    phoenix.tableName "roads" "INSERT INTO straße." = "UPSERT INTO straße.roads" := by
  have spells : Verb.Spells "INSERT".toList := by decide
  have fresh : Verb.Quiet ([] ++ "INSERT".toList.dropLast) := by decide
  have first : Verb.First "INSERT INTO straße.".toList [] "INSERT".toList " INTO straße.".toList :=
    .of_quiet spells fresh
  have meant := @tableName_meant_iff phoenix rfl rfl "roads" "INSERT INTO straße."
  exact (meant.2.1 _ (.replaced first)).mpr (meant.2.2.2 _ _ _ first (List.forall_mem_nil _))

theorem tableName_shifted :
    Verb.First "CREATE TABLE straße_insert.".toList "CREATE TABLE straße_".toList "insert".toList ".".toList ∧
      phoenix.tableName "roads" "CREATE TABLE straße_insert." ≠ "CREATE TABLE straße_UPSERT.roads" ∧
      phoenix.tableName "roads" "CREATE TABLE straße_insert." = "CREATE TABLE straße_iUPSERTroads" := by
  have spells : Verb.Spells "insert".toList := by decide
  have fresh : Verb.Quiet ("CREATE TABLE straße_".toList ++ "insert".toList.dropLast) := by decide +kernel
  exact ⟨.of_quiet spells fresh, by decide +kernel, by decide +kernel⟩

end Dialect

end FeatureTables
