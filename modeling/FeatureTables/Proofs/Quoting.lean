import FeatureTables.Proofs.Reading

namespace FeatureTables

structure Address where
  owner? : Option String
  name : String
  deriving DecidableEq

namespace Address

def seam : String := "\".\""

def letters (a : Address) : String :=
  match a.owner? with
  | some owner => owner ++ seam ++ a.name
  | none => a.name

def quoted (a : Address) : String := "\"" ++ a.letters ++ "\""

-- Two addresses with the same letters and a seam at different places: the one of the first
-- is part of a name of the second, or overlaps it in one quote.
inductive Confused : Address → Address → Prop where
  | whole (owner name : String) : Confused ⟨some owner, name⟩ ⟨none, owner ++ seam ++ name⟩
  | moved (owner middle name : String) :
    Confused ⟨some owner, middle ++ seam ++ name⟩ ⟨some (owner ++ seam ++ middle), name⟩
  | shared (owner name : String) : Confused ⟨some owner, ".\"" ++ name⟩ ⟨some (owner ++ "\"."), name⟩

def Unquoted (a : Address) : Prop := (∀ owner ∈ a.owner?, '"' ∉ owner.toList) ∧ '"' ∉ a.name.toList

instance : Decidable (Unquoted a) := inferInstanceAs (Decidable (_ ∧ _))

variable {a b : Address}

theorem quoted_eq_iff : a.quoted = b.quoted ↔ a.letters = b.letters := by
  simp [quoted]

theorem Confused.letters (confused : Confused a b) : a.letters = b.letters := by
  cases confused with
  | whole => rfl
  | moved => simp [Address.letters, String.append_assoc]
  | shared owner name =>
    have overlap : seam ++ ".\"" = "\"." ++ seam := by decide
    calc owner ++ seam ++ (".\"" ++ name) = owner ++ (seam ++ ".\"") ++ name := by simp [String.append_assoc]
      _ = owner ++ "\"." ++ seam ++ name := by simp [overlap, String.append_assoc]

theorem Confused.quote (confused : Confused a b) : ¬ b.Unquoted := by
  intro unquoted
  cases confused with
  | whole => exact unquoted.2 (by simp [seam])
  | moved => exact unquoted.1 _ rfl (by simp [seam])
  | shared => exact unquoted.1 _ rfl (by simp)

theorem confused_of_later {owner other name after : String} {rest : List Char}
    (longer : other.toList = owner.toList ++ rest)
    (same : seam.toList ++ name.toList = rest ++ (seam.toList ++ after.toList)) :
    (⟨some owner, name⟩ : Address) = ⟨some other, after⟩ ∨ Confused ⟨some owner, name⟩ ⟨some other, after⟩ := by
  match rest with
  | [] =>
    have owners : other = owner := String.toList_inj.mp (by simpa using longer)
    have names : name = after := String.toList_inj.mp (by simpa using same)
    exact .inl (by rw [owners, names])
  | [_] => simp [seam] at same
  | [one, two] =>
    obtain ⟨rfl, rfl, names⟩ : '"' = one ∧ '.' = two ∧ name.toList = '.' :: '"' :: after.toList := by
      simpa [seam] using same
    have owners : other = owner ++ "\"." := String.toList_inj.mp (by simp [longer])
    have names : name = ".\"" ++ after := String.toList_inj.mp (by simp [names])
    subst owners names
    exact .inr (.shared owner after)
  | one :: two :: three :: middle =>
    obtain ⟨rfl, rfl, rfl, names⟩ :
        '"' = one ∧ '.' = two ∧ '"' = three ∧ name.toList = middle ++ '"' :: '.' :: '"' :: after.toList := by
      simpa [seam] using same
    have owners : other = owner ++ seam ++ String.ofList middle := String.toList_inj.mp (by simp [longer, seam])
    have names : name = String.ofList middle ++ seam ++ after := String.toList_inj.mp (by simp [names, seam])
    subst owners names
    exact .inr (.moved owner (String.ofList middle) after)

theorem letters_eq_iff : a.letters = b.letters ↔ a = b ∨ Confused a b ∨ Confused b a := by
  constructor
  · intro same
    obtain ⟨owner?, name⟩ := a
    obtain ⟨other?, after⟩ := b
    match owner?, other? with
    | none, none => exact .inl (congrArg (Address.mk none) same)
    | some owner, none =>
      subst same
      exact .inr (.inl (.whole owner name))
    | none, some other =>
      cases same
      exact .inr (.inr (.whole other after))
    | some owner, some other =>
      have chars := congrArg String.toList same
      simp only [letters, String.toList_append, List.append_assoc] at chars
      rcases List.append_eq_append_iff.mp chars with ⟨rest, longer, later⟩ | ⟨rest, longer, later⟩
      · exact (confused_of_later longer later).imp_right .inl
      · exact (confused_of_later longer later).imp Eq.symm .inr
  · intro either
    rcases either with rfl | confused | confused
    · rfl
    · exact confused.letters
    · exact confused.letters.symm

end Address

def FeatureType.address (t : FeatureType) : Address := ⟨t.schema?, t.typeName⟩

namespace Dialect

structure Quoting (d : Dialect) : Prop where
  backend : d.backend = .standard
  quote : d.quote = "\""

theorem standard_quoting : Quoting standard := ⟨rfl, rfl⟩

variable {d : Dialect}

theorem Quoting.featureTable (quoting : d.Quoting) (t : FeatureType) (sql : String) :
    d.featureTable t sql = sql ++ t.address.quoted := by
  have joint : Address.seam = "\"" ++ ("." ++ "\"") := by decide
  unfold Dialect.featureTable qualifiedTable FeatureType.address Address.quoted Address.letters
  cases t.schema? <;>
    simp only [tableName, schemaName, escaped, quoting.backend, quoting.quote, joint, String.append_assoc]

theorem Quoting.columnName (quoting : d.Quoting) (a : Address) (owned : ∀ owner ∈ a.owner?, owner ≠ "")
    (sql : String) : d.columnName a.owner? a.name sql = sql ++ a.quoted := by
  have joint : Address.seam = "\"" ++ ("." ++ "\"") := by decide
  obtain ⟨owner?, name⟩ := a
  unfold Dialect.columnName Address.quoted Address.letters
  cases owner? with
  | none => simp only [escaped, quoting.quote, String.append_assoc]
  | some owner => simp only [if_neg (owned owner rfl), escaped, quoting.quote, joint, String.append_assoc]

-- Two addresses are written alike only where they are one or a seam of the one is in a name
-- of the other, and for that the name has quotes of its own.
theorem addresses_same_iff (quoting : d.Quoting) (sql : String) :
    (∀ t u : FeatureType, d.featureTable t sql = d.featureTable u sql ↔
      t.address = u.address ∨ Address.Confused t.address u.address ∨ Address.Confused u.address t.address) ∧
    (∀ a b : Address, (∀ owner ∈ a.owner?, owner ≠ "") → (∀ owner ∈ b.owner?, owner ≠ "") →
      (d.columnName a.owner? a.name sql = d.columnName b.owner? b.name sql ↔
        a = b ∨ Address.Confused a b ∨ Address.Confused b a)) ∧
    ∀ a b : Address, Address.Confused a b → ¬ b.Unquoted := by
  have told {a b : Address} : sql ++ a.quoted = sql ++ b.quoted ↔ a = b ∨ Address.Confused a b ∨ Address.Confused b a := by
    rw [String.append_right_inj, Address.quoted_eq_iff, Address.letters_eq_iff]
  refine ⟨fun t u => ?_, fun a b first second => ?_, fun _ _ => Address.Confused.quote⟩
  · rw [quoting.featureTable, quoting.featureTable]
    exact told
  · rw [quoting.columnName a first, quoting.columnName b second]
    exact told

theorem addresses_same_iff_sample :
    let roads := { FeatureType.sample "roads" "geom" with schema? := some "gis" }
    let dotted := FeatureType.sample "gis.roads" "geom"
    standard.featureTable roads "SELECT * FROM " ≠ standard.featureTable dotted "SELECT * FROM " ∧
      standard.columnName (some "roads") "geom" "" ≠ standard.columnName none "roads.geom" "" := by
  intro roads dotted
  obtain ⟨tables, _, quotes⟩ := addresses_same_iff standard_quoting "SELECT * FROM "
  obtain ⟨_, columns, _⟩ := addresses_same_iff standard_quoting ""
  have told {a b : Address} (first : a.Unquoted) (second : b.Unquoted) (other : a ≠ b) :
      ¬ (a = b ∨ Address.Confused a b ∨ Address.Confused b a) := by
    rintro (same | confused | confused)
    · exact other same
    · exact quotes _ _ confused second
    · exact quotes _ _ confused first
  constructor
  · exact mt (tables roads dotted).mp (told (by decide +kernel) (by decide +kernel) (by decide +kernel))
  · refine mt (columns ⟨some "roads", "geom"⟩ ⟨none, "roads.geom"⟩ (by decide) (by decide)).mp ?_
    exact told (by decide +kernel) (by decide +kernel) (by decide)

theorem addresses_confused :
    let roads := { FeatureType.sample "roads" "geom" with schema? := some "gis" }
    let other := FeatureType.sample "gis\".\"roads" "geom"
    roads.address ≠ other.address ∧ standard.featureTable roads "" = standard.featureTable other "" ∧
      standard.featureTable roads "" = "\"gis\".\"roads\"" ∧
      standard.columnName (some "roads") "geom" "" = standard.columnName none "roads\".\"geom" "" := by
  intro roads other
  exact ⟨by decide +kernel, by decide +kernel, by decide +kernel, by decide +kernel⟩

end Dialect

end FeatureTables
