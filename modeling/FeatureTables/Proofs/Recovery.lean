import FeatureTables.Proofs.Creation

namespace FeatureTables

open Session

deriving instance DecidableEq for Request

namespace Table

def attempts (d : Dialect) (t : FeatureType) : Nat → Session Reply
  | 0 => (Operation.createTable t).session d
  | repairs + 1 => do
    match ← (attempts d t repairs).attempt with
    | .ok reply => return reply
    | .error _ => (Operation.repairTable t.schema? t).session d

-- Every state between two attempts. A creation makes indexes ahead of rows, a repair
-- makes them together, so neither list alone says how far the work has come.
def Midway (d : Dialect) (t : FeatureType) (start db : Database) : Prop :=
  ∃ indexed recorded, Partway d t start indexed recorded db ∧ recorded <+: t.geometryColumns ∧
    indexed <+: t.indexedColumns ∧ recorded.filter Column.isIndexed <+: indexed

variable {d : Dialect} {t : FeatureType} {start db : Database} {m : Memory}

theorem next_within {front between : List α} (longer : front <+: between)
    (shorter : between <+: front ++ next :: rest) : between = front ∨ front ++ [next] <+: between := by
  obtain ⟨more, rfl⟩ := longer
  rw [List.prefix_append_right_inj] at shorter
  cases more with
  | nil => exact .inl (List.append_nil _)
  | cons first more =>
    obtain ⟨rfl, _⟩ := List.cons_prefix_cons.mp shorter
    exact .inr ⟨more, by simp⟩

theorem indexed_parts (split : t.geometryColumns = front ++ c :: rest) (needed : c.isIndexed) :
    t.indexedColumns = front.filter Column.isIndexed ++ c :: rest.filter Column.isIndexed := by
  rw [← indexed_geometry, split]
  simp [needed]

theorem next_index (typed : t.Plain d) (unused : Unused d t start)
    (partway : Partway d t start indexed recorded db) (split : t.geometryColumns = front ++ c :: rest)
    (needed : c.isIndexed) (shorter : indexed <+: t.indexedColumns)
    (longer : front.filter Column.isIndexed <+: indexed) :
    (indexed = front.filter Column.isIndexed ∧ ¬ db.Used (d.indexName c.name)) ∨
      (front.filter Column.isIndexed ++ [c] <+: indexed ∧ db.Used (d.indexName c.name)) := by
  have parts := indexed_parts split needed
  rcases next_within longer (parts ▸ shorter) with same | inside
  · refine .inl ⟨same, fun used => ?_⟩
    rcases partway.used.mp used with before | ⟨other, earlier, named⟩
    · exact unused c (by simp [parts]) before
    · have distinct : (t.geometryColumns.map Column.name).Nodup :=
        typed.distinct.sublist (List.filter_sublist.map _)
      rw [split, List.map_append, List.map_cons, List.nodup_append] at distinct
      rw [same] at earlier
      exact distinct.2.2 other.name (List.mem_map_of_mem (List.mem_of_mem_filter earlier)) c.name
        List.mem_cons_self (indexName_inj.mp named)
  · exact .inr ⟨inside, partway.used.mpr (.inr ⟨c, inside.subset (by simp), rfl⟩)⟩

theorem restoration_midway (typed : t.Plain d) (unused : Unused d t start)
    (split : t.geometryColumns = recorded ++ columns) :
    Restoration d t columns fun done db => Catalog.qualified d t.schema? ∈ db.tables ∧
      ∃ indexed, Partway d t start indexed (recorded ++ done) db ∧
        indexed <+: t.indexedColumns ∧ (recorded ++ done).filter Column.isIndexed <+: indexed where
  index := by
    intro done c rest db whole held needed free
    obtain ⟨known, indexed, partway, shorter, longer⟩ := held
    have front : t.geometryColumns = (recorded ++ done) ++ c :: rest := by
      rw [split, whole, List.append_assoc]
    rcases next_index typed unused partway front needed shorter longer with ⟨rfl, _⟩ | ⟨_, used⟩
    · refine ⟨known, _, partway.addIndex, ?_, List.prefix_append _ _⟩
      rw [indexed_parts front needed]
      exact ⟨rest.filter Column.isIndexed, by simp⟩
    · exact absurd used free
  row := by
    intro done c rest db whole held present
    obtain ⟨known, indexed, partway, shorter, longer⟩ := held
    have front : t.geometryColumns = (recorded ++ done) ++ c :: rest := by
      rw [split, whole, List.append_assoc]
    refine ⟨known, indexed, by simpa using partway.addRow, shorter, ?_⟩
    rw [← List.append_assoc, List.filter_append]
    by_cases needed : c.isIndexed
    · have single : [c].filter Column.isIndexed = [c] := by simp [needed]
      rw [single]
      rcases next_index typed unused partway front needed shorter longer with ⟨_, free⟩ | ⟨inside, _⟩
      · exact absurd (List.mem_map_of_mem (present needed).2) free
      · exact inside
    · have none : [c].filter Column.isIndexed = [] := by simp [needed]
      rwa [none, List.append_nil]

def Answered (d : Dialect) (t : FeatureType) (m : Memory) (request : Request) : Prop :=
  request = Catalog.rowsRequest d t.schema? t.typeName → ¬ m.Hit

instance : Decidable (Answered d t m request) := inferInstanceAs (Decidable (_ → _))

def Recovered (d : Dialect) (t : FeatureType) (start : Database) (result : Except Fault α) (after : Memory) :
    Prop :=
  match result with
  | .ok _ => after.database = completed d t start
  | .error _ => Midway d t start after.database

theorem keeps_repair_midway (plain : d.Plain) (typed : t.Plain d) (fresh : Fresh d t start)
    (unused : Unused d t start) (midway : Midway d t start m.database) :
    Memory.Keeps (Answered d t) (Midway d t start) (Recovered d t start) (repair d t.schema? t) m := by
  have still {now : Memory} (ensured : Ensured d t m now) : Midway d t start now.database := by
    cases ensured with
    | known _ => exact midway
    | made absent _ =>
      obtain ⟨indexed, recorded, partway, parts⟩ := midway
      exact ⟨indexed, recorded, partway.addCatalog absent, parts⟩
  refine keeps_repair plain typed midway (fun _ => still) (fun _ _ held => held) ?_
  · intro now columns ensured found
    have present := ensured.present
    obtain ⟨indexed, recorded, partway, ⟨left, split⟩, shorter, longer⟩ := still ensured
    cases found with
    | lost hit met => exact absurd hit (met rfl)
    | answered _ =>
      have rest := unrecorded_rest plain typed fresh partway.rows split.symm
      rw [rest]
      refine (keeps_repairColumns plain typed (fun c member => by simp [← split, member])
        (restoration_midway typed unused split.symm) ?_ ?_).imp ?_
      · intro db passing
        obtain ⟨done, ⟨later, further⟩, _, indexed, partway, shorter, longer⟩ := passing
        exact ⟨indexed, recorded ++ done, partway, ⟨later, by simp [← split, ← further]⟩, shorter, longer⟩
      · exact ⟨present, indexed, by rwa [List.append_nil], shorter, by rwa [List.append_nil]⟩
      · intro result after _ ended
        cases result with
        | error _ => trivial
        | ok _ =>
          obtain ⟨present, indexed, partway, shorter, longer⟩ := ended
          rw [split, indexed_geometry] at longer
          rw [split, shorter.eq_of_length_le longer.length_le] at partway
          exact partway.completed present

theorem keeps_complete_midway {assumed : Memory → Request → Prop} (plain : d.Plain) (typed : t.Plain d)
    (now : m.database = start) :
    Memory.Keeps assumed (Midway d t start) (Recovered d t start) (complete d t.schema? t) m := by
  subst now
  refine (keeps_complete plain typed partway_completion ?_ ?_ ⟨Partway.self, by simp⟩).imp ?_
  · intro db passing
    obtain ⟨done, shorter, partway, _⟩ := passing
    exact ⟨done, [], partway, List.nil_prefix, shorter, List.nil_prefix⟩
  · intro db passing
    obtain ⟨done, shorter, partway, _⟩ := passing
    exact ⟨_, done, partway, shorter, List.prefix_refl _, indexed_geometry t ▸ shorter.filter _⟩
  · intro result after here final
    obtain ⟨_, ended⟩ := final
    cases result with
    | ok _ => exact ended.1.1.completed ended.2
    | error _ => exact here

theorem keeps_create_midway {assumed : Memory → Request → Prop} (plain : d.Plain) (typed : t.Plain d)
    (spared : ¬ m.Hit) (absent : t.qualified ∉ m.database.tables) :
    Memory.Keeps assumed (fun _ => True)
      (Recovered d t (m.database.addTable t.qualified)) (create d t) m := by
  refine keeps_create plain typed trivial ?_ ?_
  · exact fun refused => absurd refused (not_or.mpr ⟨spared, absent⟩)
  · intro _ _
    refine ⟨trivial, Keeps.widen (keeps_complete_midway plain typed rfl) fun _ _ => trivial⟩

theorem keeps_attempts (plain : d.Plain) (typed : t.Plain d) (spared : ¬ m.Hit)
    (absent : t.qualified ∉ m.database.tables) (unused : Unused d t m.database)
    (fresh : Fresh d t m.database) (repairs : Nat) :
    Memory.Keeps (Answered d t) (fun _ => True)
      (Recovered d t (m.database.addTable t.qualified)) (attempts d t repairs) m := by
  induction repairs with
  | zero =>
    refine keeps_createTable ((keeps_create_midway plain typed spared absent).imp ?_)
    intro result after _ ended
    cases result with
    | ok _ | error _ => exact ended
  | succ repairs ih =>
    refine keeps_bind (keeps_attempt (ih.imp ?_))
    intro result after _ ended
    cases result with
    | ok _ => exact ⟨trivial, ended⟩
    | error _ =>
      -- The repair goes on from what the attempts before it have left half done.
      have known : Fresh d t (m.database.addTable t.qualified) := fresh
      have repaired := keeps_repair_midway plain typed known unused ended
      have again : Memory.Keeps (Answered d t) (fun _ => True) (Recovered d t (m.database.addTable t.qualified))
          ((Operation.repairTable t.schema? t).session d) after := by
        refine keeps_repairTable ((repaired.imp ?_).widen fun _ _ => trivial)
        intro result after _ ended
        cases result with
        | ok _ | error _ => exact ended
      exact again

theorem attempts_exact (plain : d.Plain) (typed : t.Plain d) (absent : t.qualified ∉ m.database.tables)
    (unused : Unused d t m.database) (fresh : Fresh d t m.database) (spared : ¬ m.Hit) (repairs : Nat)
    (answered : ∀ asked ∈ (attempts d t repairs).requests Memory.connection m, Answered d t asked.1 asked.2)
    (succeeded : ((attempts d t repairs).run Memory.connection m).result.isOk) :
    ((attempts d t repairs).run Memory.connection m).state.database =
      (((Operation.createTable t).session d).run Memory.connection m.calm).state.database := by
  have ended := (keeps_sound (keeps_attempts plain typed spared absent unused fresh repairs) answered).2
  obtain ⟨reply, result⟩ := returned_of_isOk succeeded
  rw [result] at ended
  have alone : Memory.Keeps (fun _ _ => True) (fun _ => True)
      (fun _ after => after.database = completed d t (m.database.addTable t.qualified))
      ((Operation.createTable t).session d) m.calm := by
    have still : t.qualified ∉ m.calm.database.tables := absent
    refine keeps_createTable ((keeps_create_clear plain typed (fun _ => rfl) still).imp ?_)
    intro result after _ ended
    obtain ⟨_, final⟩ := ended
    cases result with
    | ok _ => exact final.2
    | error _ => exact absurd unused final
  exact ended.trans (keeps_sound alone fun _ _ => trivial).2.symm

theorem attempts_exact_sample :
    let roads := FeatureType.sample "roads" "geom"
    ((attempts .phoenix roads 1).run Memory.connection (.losing [2])).state.database =
      (((Operation.createTable roads).session .phoenix).run Memory.connection
        (Memory.losing [2]).calm).state.database := by
  intro roads
  have plain : roads.Plain .phoenix := FeatureType.roads_plain
  have checked : (∀ asked ∈ (attempts .phoenix roads 1).requests Memory.connection (.losing [2]),
      Answered .phoenix roads asked.1 asked.2) ∧
      ((attempts .phoenix roads 1).run Memory.connection (.losing [2])).result.isOk := by
    decide +kernel
  exact attempts_exact Dialect.phoenix_plain plain (by decide) (by decide) (by decide) (by decide) 1
    checked.1 checked.2

end Table

end FeatureTables
