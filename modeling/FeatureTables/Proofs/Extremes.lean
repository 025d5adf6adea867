import FeatureTables.Geometry.Box

namespace FeatureTables

namespace Binary64

variable {x y first : Binary64} {values others rest : List Binary64}

def Number (x : Binary64) : Prop := x.isNaN = false

def Same (x y : Binary64) : Prop := x.equal y = true ∨ x.isNaN = true ∧ y.isNaN = true

theorem equal_iff : x.equal y = true ↔ x.Number ∧ y.Number ∧ x.key = y.key := by
  simp [equal, Number, and_assoc]

theorem Same.symm (same : x.Same y) : y.Same x := by
  rcases same with equals | ⟨left, right⟩
  · obtain ⟨left, right, keys⟩ := equal_iff.mp equals
    exact .inl (equal_iff.mpr ⟨right, left, keys.symm⟩)
  · exact .inr ⟨right, left⟩

theorem below_parts (past : x.below y = true) : x.Number ∧ y.Number ∧ x.key < y.key := by
  simpa [below, Number, and_assoc] using past

theorem below_iff (left : x.Number) (right : y.Number) : x.below y = true ↔ x.key < y.key := by
  refine ⟨fun past => (below_parts past).2.2, fun past => ?_⟩
  simp [below, show x.isNaN = false from left, show y.isNaN = false from right, past]

def depth (x : Binary64) : Int := -x.key

structure Foremost (rank : Binary64 → Int) (bound : Binary64) (values : List Binary64) : Prop where
  reached : bound ∈ values
  unpassed : ∀ v ∈ values, v.Number ∧ rank bound ≤ rank v

abbrev Least : Binary64 → List Binary64 → Prop := Foremost key

abbrev Greatest : Binary64 → List Binary64 → Prop := Foremost depth

def Chooses (rank : Binary64 → Int) (pick : Binary64 → Binary64 → Binary64) : Prop :=
  ∀ {x y}, x.Number → y.Number →
    (pick x y = x ∨ pick x y = y) ∧ rank (pick x y) ≤ rank x ∧ rank (pick x y) ≤ rank y

theorem lesser_chooses : Chooses key lesser := by
  intro x y left right
  unfold lesser
  by_cases past : y.key < x.key
  · rw [if_pos ((below_iff right left).mpr past)]
    exact ⟨.inr rfl, Int.le_of_lt past, Int.le_refl _⟩
  · rw [if_neg (mt (below_iff right left).mp past)]
    exact ⟨.inl rfl, Int.le_refl _, Int.not_lt.mp past⟩

theorem greater_chooses : Chooses depth greater := by
  intro x y left right
  unfold greater depth
  by_cases past : x.key < y.key
  · rw [if_pos ((below_iff left right).mpr past)]
    exact ⟨.inr rfl, by omega, Int.le_refl _⟩
  · rw [if_neg (mt (below_iff left right).mp past)]
    exact ⟨.inl rfl, Int.le_refl _, by omega⟩

theorem foldl_foremost {rank : Binary64 → Int} {pick : Binary64 → Binary64 → Binary64}
    (chooses : Chooses rank pick) (numbers : ∀ v ∈ first :: rest, v.Number) :
    Foremost rank (rest.foldl pick first) (first :: rest) := by
  induction rest generalizing first with
  | nil => exact ⟨List.mem_cons_self, by simpa using numbers⟩
  | cons next rest ih =>
    obtain ⟨left, tail⟩ := List.forall_mem_cons.mp numbers
    obtain ⟨right, others⟩ := List.forall_mem_cons.mp tail
    obtain ⟨one, nearer, farther⟩ := chooses left right
    have picked : (pick first next).Number := by rcases one with same | same <;> rwa [same]
    obtain ⟨reached, unpassed⟩ := ih (List.forall_mem_cons.mpr ⟨picked, others⟩)
    obtain ⟨⟨_, start⟩, later⟩ := List.forall_mem_cons.mp unpassed
    rw [List.foldl_cons]
    refine ⟨?_, ?_⟩
    · rcases List.mem_cons.mp reached with here | later
      · rw [here]
        rcases one with same | same <;> simp [same]
      · exact List.mem_cons_of_mem _ (List.mem_cons_of_mem _ later)
    · rw [List.forall_mem_cons, List.forall_mem_cons]
      exact ⟨⟨left, Int.le_trans start nearer⟩, ⟨right, Int.le_trans start farther⟩, later⟩

theorem Foremost.same {rank : Binary64 → Int} (faithful : ∀ {x y : Binary64}, rank x = rank y → x.key = y.key)
    (one : Foremost rank x values) (two : Foremost rank y others) (shuffled : values.Perm others) : x.Same y := by
  obtain ⟨right, below⟩ := one.unpassed y (shuffled.mem_iff.mpr two.reached)
  obtain ⟨left, above⟩ := two.unpassed x (shuffled.mem_iff.mp one.reached)
  exact .inl (equal_iff.mpr ⟨left, right, faithful (Int.le_antisymm below above)⟩)

theorem lesser_nan (strange : y.isNaN = true) : x.lesser y = x := by simp [lesser, below, strange]

theorem greater_nan (strange : y.isNaN = true) : x.greater y = x := by simp [greater, below, strange]

theorem nan_lesser (strange : x.isNaN = true) : x.lesser y = x := by simp [lesser, below, strange]

theorem nan_greater (strange : x.isNaN = true) : x.greater y = x := by simp [greater, below, strange]

theorem lesser_number (number : x.Number) : (x.lesser y).Number := by
  unfold lesser
  split
  · rename_i past
    exact (below_parts past).1
  · exact number

theorem greater_number (number : x.Number) : (x.greater y).Number := by
  unfold greater
  split
  · rename_i past
    exact (below_parts past).2.1
  · exact number

end Binary64

namespace Box

open Binary64

variable {a b first : Box} {boxes others rest : List Box}

structure Numeric (box : Box) : Prop where
  west : box.minX.Number
  south : box.minY.Number
  east : box.maxX.Number
  north : box.maxY.Number

structure Same (a b : Box) : Prop where
  west : a.minX.Same b.minX
  south : a.minY.Same b.minY
  east : a.maxX.Same b.maxX
  north : a.maxY.Same b.maxY

structure Smallest (box : Box) (boxes : List Box) : Prop where
  west : Least box.minX (boxes.map minX)
  south : Least box.minY (boxes.map minY)
  east : Greatest box.maxX (boxes.map maxX)
  north : Greatest box.maxY (boxes.map maxY)

theorem Same.symm (same : a.Same b) : b.Same a :=
  ⟨same.west.symm, same.south.symm, same.east.symm, same.north.symm⟩

theorem Smallest.same (one : a.Smallest boxes) (two : b.Smallest others) (shuffled : boxes.Perm others) : a.Same b where
  west := one.west.same id two.west (shuffled.map _)
  south := one.south.same id two.south (shuffled.map _)
  east := one.east.same Int.neg_inj.mp two.east (shuffled.map _)
  north := one.north.same Int.neg_inj.mp two.north (shuffled.map _)

theorem foldl_merge_side (side : Box → Binary64) (pick : Binary64 → Binary64 → Binary64)
    (merged : ∀ a b, pick (side a) (side b) = side (a.merge b)) :
    side (rest.foldl merge first) = (rest.map side).foldl pick (side first) := by
  rw [List.foldl_map]
  exact (List.foldl_hom side merged).symm

theorem foldl_merge_smallest (numeric : ∀ b ∈ first :: rest, b.Numeric) :
    (rest.foldl merge first).Smallest (first :: rest) where
  west := by
    rw [foldl_merge_side minX lesser fun _ _ => rfl]
    exact foldl_foremost lesser_chooses (List.forall_mem_map.mpr fun b member => (numeric b member).west)
  south := by
    rw [foldl_merge_side minY lesser fun _ _ => rfl]
    exact foldl_foremost lesser_chooses (List.forall_mem_map.mpr fun b member => (numeric b member).south)
  east := by
    rw [foldl_merge_side maxX greater fun _ _ => rfl]
    exact foldl_foremost greater_chooses (List.forall_mem_map.mpr fun b member => (numeric b member).east)
  north := by
    rw [foldl_merge_side maxY greater fun _ _ => rfl]
    exact foldl_foremost greater_chooses (List.forall_mem_map.mpr fun b member => (numeric b member).north)

theorem merge_numeric (numeric : a.Numeric) : (a.merge b).Numeric where
  west := lesser_number numeric.west
  south := lesser_number numeric.south
  east := greater_number numeric.east
  north := greater_number numeric.north

theorem foldl_merge_numeric (numeric : first.Numeric) : (rest.foldl merge first).Numeric := by
  induction rest generalizing first with
  | nil => exact numeric
  | cons next rest ih => exact ih (merge_numeric numeric)

theorem merge_empty : a.merge empty = a := by
  have strange : nan.isNaN = true := by decide
  simp [merge, empty, lesser_nan strange, greater_nan strange]

theorem empty_merge : empty.merge b = empty := by
  have strange : nan.isNaN = true := by decide
  simp [merge, empty, nan_lesser strange, nan_greater strange]

theorem foldl_merge_empty : rest.foldl merge empty = empty := by
  induction rest with
  | nil => rfl
  | cons next rest ih => rw [List.foldl_cons, empty_merge, ih]

theorem foldl_merge_filter : (rest.filter (· ≠ empty)).foldl merge first = rest.foldl merge first := by
  rw [List.foldl_filter]
  congr 1
  funext box next
  by_cases bare : next = empty <;> simp [bare, merge_empty]

end Box

end FeatureTables
