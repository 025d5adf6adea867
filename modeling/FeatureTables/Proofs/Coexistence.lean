import FeatureTables.Proofs.Creation

namespace FeatureTables

open Session

namespace Table

def creations (d : Dialect) (family : List FeatureType) : Session (List Reply) :=
  each (fun t => (Operation.createTable t).session d) family

def indexedNames (family : List FeatureType) : List String :=
  family.flatMap fun t => t.indexedColumns.map Column.name

structure Coexisting (d : Dialect) (family : List FeatureType) (db : Database) : Prop where
  known : ∀ name ∈ db.tables, ∃ t ∈ family, name = t.qualified ∨ name = Catalog.qualified d t.schema?
  tables : ∀ t ∈ family, t.qualified ∈ db.tables
  indexes : db.indexes = family.flatMap fun t =>
    t.indexedColumns.map fun c => (t.qualified, d.indexName c.name)
  rows : db.rows = family.flatMap fun t => t.geometryColumns.map (Catalog.row d t)

variable {d : Dialect} {family : List FeatureType} {t : FeatureType} {db : Database} {m : Memory}

namespace Coexisting

theorem used (coexisting : Coexisting d family db) : db.Used (d.indexName name) ↔ name ∈ indexedNames family := by
  unfold Database.Used indexedNames
  rw [coexisting.indexes]
  simp only [List.map_flatMap, List.map_map, List.mem_flatMap, List.mem_map, Function.comp_apply, indexName_inj]

theorem fresh (plain : d.Plain) (typed : t.Plain d) (coexisting : Coexisting d family db)
    (others : ∀ other ∈ family, other.Plain d ∧ other.qualified ≠ t.qualified)
    (named : t.typeName ≠ d.catalogTable) : t.qualified ∉ db.tables := by
  intro present
  obtain ⟨other, member, same | same⟩ := coexisting.known _ present
  · exact (others other member).2 same.symm
  · have names := Database.qualified_inj typed.schema.name typed.table (others other member).1.schema.name
      plain.catalog same
    exact named names.1

theorem add (coexisting : Coexisting d family db) :
    Coexisting d (family ++ [t]) (completed d t (db.addTable t.qualified)) where
  known := by
    intro name present
    rcases mem_completed.mp present with written | catalog
    · rcases List.mem_append.mp written with before | own
      · obtain ⟨other, member, same⟩ := coexisting.known name before
        exact ⟨other, List.mem_append_left _ member, same⟩
      · exact ⟨t, List.mem_append_right _ List.mem_cons_self, .inl (List.mem_singleton.mp own)⟩
    · exact ⟨t, List.mem_append_right _ List.mem_cons_self, .inr catalog⟩
  tables := by
    intro other member
    refine mem_completed.mpr (.inl (List.mem_append.mpr ?_))
    rcases List.mem_append.mp member with before | own
    · exact .inl (coexisting.tables other before)
    · cases List.mem_singleton.mp own
      exact .inr List.mem_cons_self
  indexes := by simp [completed, Database.addTable, coexisting.indexes]
  rows := by simp [completed, Database.addTable, coexisting.rows]

end Coexisting

theorem unused_iff (typed : t.Plain d) (coexisting : Coexisting d family db) (distinct : (indexedNames family).Nodup) :
    (indexedNames (family ++ [t])).Nodup ↔ Unused d t db := by
  have own : (t.indexedColumns.map Column.name).Nodup :=
    typed.distinct.sublist (List.filter_sublist.map _)
  have both : indexedNames (family ++ [t]) = indexedNames family ++ t.indexedColumns.map Column.name := by
    simp [indexedNames]
  rw [both, List.nodup_append]
  constructor
  · intro parts c member used
    obtain ⟨_, _, apart⟩ := parts
    exact apart c.name (coexisting.used.mp used) c.name (List.mem_map_of_mem member) rfl
  · refine fun unused => ⟨distinct, own, ?_⟩
    intro name earlier other member same
    subst same
    obtain ⟨c, indexed, rfl⟩ := List.mem_map.mp member
    exact unused c indexed (coexisting.used.mpr earlier)

theorem keeps_creations (plain : d.Plain) (typed : ∀ t ∈ family, t.Plain d)
    (apart : (family.map FeatureType.qualified).Nodup) (named : ∀ t ∈ family, t.typeName ≠ d.catalogTable)
    (clear : ∀ n, m.faults n = none) (empty : m.database = ⟨[], [], []⟩) :
    Memory.Keeps (fun _ _ => True) (fun _ => True) (fun result after =>
      match result with
      | .ok _ => (indexedNames family).Nodup ∧ Coexisting d family after.database
      | .error _ => ¬ (indexedNames family).Nodup) (creations d family) m := by
  refine keeps_each (fun done now => (∀ n, now.faults n = none) ∧ (indexedNames done).Nodup ∧
    Coexisting d done now.database) ?_ (fun _ _ held => ⟨trivial, held.2⟩) ?_
  · intro done t rest split now held
    obtain ⟨quiet, distinct, coexisting⟩ := held
    have member : t ∈ family := by simp [split]
    have fresh : t.qualified ∉ now.database.tables := by
      refine coexisting.fresh plain (typed t member) ?_ (named t member)
      intro other earlier
      rw [split, List.map_append, List.map_cons, List.nodup_append] at apart
      exact ⟨typed other (by simp [split, earlier]), apart.2.2 _ (List.mem_map_of_mem earlier) _ List.mem_cons_self⟩
    have unused := unused_iff (typed t member) coexisting distinct
    have created : Memory.Keeps (fun _ _ => True) (fun _ => True) (fun result after =>
        match result with
        | .ok _ => (∀ n, after.faults n = none) ∧ (indexedNames (done ++ [t])).Nodup ∧
            Coexisting d (done ++ [t]) after.database
        | .error _ => ¬ (indexedNames family).Nodup) ((Operation.createTable t).session d) now := by
      refine keeps_createTable ((keeps_create_clear plain (typed t member) quiet fresh).imp ?_)
      intro result after _ final
      obtain ⟨same, ended⟩ := final
      cases result with
      | ok _ =>
        obtain ⟨free, database⟩ := ended
        exact ⟨fun n => by rw [same, quiet], unused.mpr free, database ▸ coexisting.add⟩
      | error _ =>
        -- A name that is taken twice by the first tables is taken twice by all of them.
        intro whole
        have part : (indexedNames (done ++ [t])).Nodup := by
          refine whole.sublist ?_
          simp [split, indexedNames]
        exact ended (unused.mp part)
    refine created.imp ?_
    intro result after _ ended
    cases result with
    | ok _ | error _ => exact ended
  · refine ⟨clear, List.nodup_nil, ?_⟩
    rw [empty]
    exact ⟨by simp, by simp, rfl, rfl⟩

-- Distinct tables can be created one after the other as long as no two of them have an
-- indexed column of the same name.
theorem creations_coexist (plain : d.Plain) (typed : ∀ t ∈ family, t.Plain d)
    (apart : (family.map FeatureType.qualified).Nodup) (named : ∀ t ∈ family, t.typeName ≠ d.catalogTable)
    (clear : ∀ n, m.faults n = none) (empty : m.database = ⟨[], [], []⟩) :
    let outcome := (creations d family).run Memory.connection m
    (outcome.result.isOk ↔ (indexedNames family).Nodup) ∧
      (outcome.result.isOk → ∀ t ∈ family,
        (∀ c ∈ t.indexedColumns, Index.Present t.schema? t.typeName (d.indexName c.name) outcome.state.database) ∧
          ∀ c ∈ t.geometryColumns, Catalog.row d t c ∈ outcome.state.database.rows) := by
  intro outcome
  have ended := (keeps_sound (keeps_creations plain typed apart named clear empty) fun _ _ => trivial).2
  change match outcome.result with
    | .ok _ => (indexedNames family).Nodup ∧ Coexisting d family outcome.state.database
    | .error _ => ¬ (indexedNames family).Nodup at ended
  cases result : outcome.result with
  | error _ =>
    rw [result] at ended
    simp [Except.isOk, Except.toBool, ended]
  | ok _ =>
    rw [result] at ended
    obtain ⟨distinct, coexisting⟩ := ended
    refine ⟨by simp [Except.isOk, Except.toBool, distinct], fun _ t member => ⟨?_, ?_⟩⟩
    · intro c indexed
      refine ⟨coexisting.tables t member, ?_⟩
      rw [coexisting.indexes]
      exact List.mem_flatMap.mpr ⟨t, member, List.mem_map_of_mem indexed⟩
    · intro c geometry
      rw [coexisting.rows]
      exact List.mem_flatMap.mpr ⟨t, member, List.mem_map_of_mem geometry⟩

theorem creations_coexist_sample :
    let family := [FeatureType.sample "roads" "geom", .sample "rivers" "course"]
    let outcome := (creations .phoenix family).run Memory.connection (.losing [])
    outcome.result.isOk ∧ ∀ t ∈ family,
      (∀ c ∈ t.indexedColumns, Index.Present t.schema? t.typeName (Dialect.phoenix.indexName c.name)
        outcome.state.database) ∧
        ∀ c ∈ t.geometryColumns, Catalog.row .phoenix t c ∈ outcome.state.database.rows := by
  intro family
  have typed : ∀ t ∈ family, t.Plain .phoenix := by
    simp [family, FeatureType.roads_plain, FeatureType.rivers_plain]
  obtain ⟨succeeds, complete⟩ := creations_coexist Dialect.phoenix_plain typed (by decide) (by decide)
    (fun _ => rfl) (show (Memory.losing []).database = ⟨[], [], []⟩ from rfl)
  have distinct : (indexedNames family).Nodup := by decide
  exact ⟨succeeds.mpr distinct, complete (succeeds.mpr distinct)⟩

theorem creations_collide :
    let family := [FeatureType.sample "roads" "geom", .sample "rivers" "geom"]
    (∀ t ∈ family, t.Plain .phoenix) ∧ (family.map FeatureType.qualified).Nodup ∧
      (∀ t ∈ family, t.typeName ≠ Dialect.phoenix.catalogTable) ∧
      ¬ ((creations .phoenix family).run Memory.connection (.losing [])).result.isOk := by
  have rivers : FeatureType.Plain .phoenix (.sample "rivers" "geom") :=
    FeatureType.sample_plain (by decide +kernel) (by decide +kernel) (by decide +kernel) (by simp)
  exact ⟨by simp [FeatureType.roads_plain, rivers], by decide, by decide, by decide +kernel⟩

end Table

end FeatureTables
