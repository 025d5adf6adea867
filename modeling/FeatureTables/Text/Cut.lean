namespace FeatureTables.Text

def after? : List Char → List Char → Option (List Char)
  | [], text => some text
  | _ :: _, [] => none
  | w :: word, c :: text => if w = c then after? word text else none

theorem after?_exact : after? word text = some rest ↔ text = word ++ rest := by
  induction word generalizing text with
  | nil => simp [after?, eq_comm]
  | cons w word ih =>
    cases text with
    | nil => simp [after?]
    | cons c text =>
      by_cases same : w = c
      · simp [after?, same, ih]
      · simp [after?, same, Ne.symm same]

def cut? (word : List Char) : List Char → Option (List Char × List Char)
  | [] => if word = [] then some ([], []) else none
  | c :: text =>
    match after? word (c :: text) with
    | some rest => some ([], rest)
    | none => (cut? word text).map fun parts => (c :: parts.1, parts.2)

theorem cut?_append (found : cut? word text = some (left, right)) : text = left ++ word ++ right := by
  induction text generalizing left with
  | nil =>
    simp only [cut?] at found
    split at found <;> simp_all
  | cons c text ih =>
    simp only [cut?] at found
    split at found
    · rename_i rest met
      simp only [Option.some.injEq, Prod.mk.injEq] at found
      obtain ⟨rfl, rfl⟩ := found
      simpa using after?_exact.mp met
    · obtain ⟨parts, met, same⟩ := Option.map_eq_some_iff.mp found
      simp only [Prod.mk.injEq] at same
      obtain ⟨rfl, rfl⟩ := same
      simp [ih met]

def position? (word text : List Char) : Option Nat := (cut? word text).map (·.1.length)

def upTo (word text : List Char) : List Char := ((cut? word text).map (·.1)).getD text

def past (word text : List Char) : List Char := ((cut? word text).map (·.2)).getD []

-- Pieces between occurrences of a separator. Each cut shortens the text by the
-- separator, so its length bounds the cuts; an empty separator does not cut.
def piecesWithin : Nat → List Char → List Char → List (List Char)
  | 0, _, text => [text]
  | cuts + 1, word, text =>
    match cut? word text with
    | some (left, right) => left :: piecesWithin cuts word right
    | none => [text]

def pieces (word text : List Char) : List (List Char) :=
  if word = [] then [text] else piecesWithin text.length word text

def joined (separator : String) : List String → String
  | [] => ""
  | [last] => last
  | first :: second :: rest => first ++ separator ++ joined separator (second :: rest)

end FeatureTables.Text
