import FeatureTables.Proofs.Bootstrap

namespace FeatureTables

open Session

namespace Table

structure Partway (d : Dialect) (t : FeatureType) (start : Database) (indexed recorded : List Column)
    (db : Database) : Prop where
  tables : db.tables = start.tables ∨ Catalog.qualified d t.schema? ∉ start.tables ∧
    db.tables = start.tables ++ [Catalog.qualified d t.schema?]
  indexes : db.indexes = start.indexes ++ indexed.map fun c => (t.qualified, d.indexName c.name)
  rows : db.rows = start.rows ++ recorded.map (Catalog.row d t)

def completed (d : Dialect) (t : FeatureType) (start : Database) : Database where
  tables := if Catalog.qualified d t.schema? ∈ start.tables then start.tables
    else start.tables ++ [Catalog.qualified d t.schema?]
  indexes := start.indexes ++ t.indexedColumns.map fun c => (t.qualified, d.indexName c.name)
  rows := start.rows ++ t.geometryColumns.map (Catalog.row d t)

theorem mem_completed {start : Database} : name ∈ (completed d t start).tables ↔
    name ∈ start.tables ∨ name = Catalog.qualified d t.schema? := by
  by_cases present : Catalog.qualified d t.schema? ∈ start.tables
  · simp only [completed, present, if_true, iff_self_or]
    intro same
    rw [same]
    exact present
  · simp [completed, present]

variable {d : Dialect} {t : FeatureType} {start db : Database} {indexed recorded : List Column} {m : Memory}

namespace Partway

theorem self : Partway d t start [] [] start := ⟨.inl rfl, by simp, by simp⟩

theorem addCatalog (partway : Partway d t start indexed recorded db)
    (absent : Catalog.qualified d t.schema? ∉ db.tables) :
    Partway d t start indexed recorded (db.addTable (Catalog.qualified d t.schema?)) := by
  refine ⟨.inr ?_, partway.indexes, partway.rows⟩
  rcases partway.tables with same | ⟨_, longer⟩
  · rw [same] at absent
    exact ⟨absent, by simp [Database.addTable, same]⟩
  · simp [longer] at absent

theorem addIndex (partway : Partway d t start indexed recorded db) :
    Partway d t start (indexed ++ [c]) recorded (db.addIndex t.qualified (d.indexName c.name)) :=
  ⟨partway.tables, by simp [Database.addIndex, partway.indexes], partway.rows⟩

theorem addRow (partway : Partway d t start indexed recorded db) :
    Partway d t start indexed (recorded ++ [c]) (db.addRow (Catalog.row d t c)) :=
  ⟨partway.tables, partway.indexes, by simp [Database.addRow, partway.rows]⟩

theorem completed (partway : Partway d t start t.indexedColumns t.geometryColumns db)
    (present : Catalog.qualified d t.schema? ∈ db.tables) : db = completed d t start := by
  have tables : db.tables = (Table.completed d t start).tables := by
    rcases partway.tables with same | ⟨absent, longer⟩
    · rw [same] at present
      simp [Table.completed, present, same]
    · simp [Table.completed, absent, longer]
  obtain ⟨_, _, _⟩ := db
  simp only [Table.completed, Database.mk.injEq]
  exact ⟨tables, partway.indexes, partway.rows⟩

theorem used (partway : Partway d t start indexed recorded db) :
    db.Used index ↔ start.Used index ∨ ∃ c ∈ indexed, d.indexName c.name = index := by
  simp [Database.Used, partway.indexes]

end Partway

def Unused (d : Dialect) (t : FeatureType) (db : Database) : Prop :=
  ∀ c ∈ t.indexedColumns, ¬ db.Used (d.indexName c.name)

instance : Decidable (Unused d t db) :=
  List.decidableBAll (fun c : Column => ¬ db.Used (d.indexName c.name)) t.indexedColumns

theorem partway_completion :
    Completion d t
      (fun done db => Partway d t start done [] db ∧ ∀ c ∈ done, ¬ start.Used (d.indexName c.name))
      (fun done db => Partway d t start t.indexedColumns done db ∧ Unused d t start) where
  catalog := fun ⟨partway, unused⟩ absent => ⟨partway.addCatalog absent, unused⟩
  index := by
    intro done c rest db _ held _ free
    obtain ⟨partway, unused⟩ := held
    refine ⟨partway.addIndex, ?_⟩
    intro other member
    rcases List.mem_append.mp member with earlier | last
    · exact unused other earlier
    · cases List.mem_singleton.mp last
      exact fun used => free (partway.used.mpr (.inl used))
  turn := id
  row := fun _ ⟨partway, unused⟩ _ => ⟨partway.addRow, unused⟩

theorem indexName_inj : d.indexName one = d.indexName other ↔ one = other :=
  String.append_left_inj d.indexSuffix

theorem stopped_clear (typed : t.Plain d) (clear : ∀ n, m.faults n = none) (made : t.qualified ∈ start.tables)
    (stopped : Stopped d t (fun done db => Partway d t start done [] db ∧
      ∀ c ∈ done, ¬ start.Used (d.indexName c.name)) m) : ¬ Unused d t start := by
  rcases stopped with ⟨n, hit⟩ | ⟨done, c, rest, split, ⟨partway, _⟩, absent | used⟩
  · exact absurd (clear n) hit
  · have still : t.qualified ∈ m.database.tables := by
      rcases partway.tables with same | ⟨_, longer⟩ <;> simp [*]
    exact absurd still absent
  · intro unused
    rcases partway.used.mp used with before | ⟨other, earlier, same⟩
    · exact unused c (by simp [split]) before
    · have distinct : (t.indexedColumns.map Column.name).Nodup :=
        typed.distinct.sublist (List.filter_sublist.map _)
      rw [split, List.map_append, List.map_cons, List.nodup_append] at distinct
      exact distinct.2.2 other.name (List.mem_map_of_mem earlier) c.name List.mem_cons_self
        (indexName_inj.mp same)

theorem keeps_create_clear {assumed : Memory → Request → Prop} (plain : d.Plain) (typed : t.Plain d)
    (clear : ∀ n, m.faults n = none) (fresh : t.qualified ∉ m.database.tables) :
    Memory.Keeps assumed (fun _ => True) (fun result after => after.faults = m.faults ∧
      match result with
      | .ok _ => Unused d t m.database ∧ after.database = completed d t (m.database.addTable t.qualified)
      | .error _ => ¬ Unused d t m.database) (create d t) m := by
  refine keeps_create plain typed trivial ?_ ?_
  · intro refused
    rcases refused with hit | present
    · exact absurd (clear _) hit
    · exact absurd present fresh
  · intro _ _
    refine ⟨trivial, (keeps_complete plain typed partway_completion (fun _ _ => trivial)
      (fun _ _ => trivial) ⟨Partway.self, by simp⟩).imp ?_⟩
    intro result after _ final
    obtain ⟨same, ended⟩ := final
    refine ⟨same, ?_⟩
    cases result with
    | ok _ =>
      obtain ⟨⟨partway, unused⟩, present⟩ := ended
      exact ⟨unused, partway.completed present⟩
    | error _ =>
      have quiet : ∀ n, after.faults n = none := by
        rw [same]
        exact clear
      have made : t.qualified ∈ (m.database.addTable t.qualified).tables := by simp [Database.addTable]
      have blocked : ¬ Unused d t (m.database.addTable t.qualified) := stopped_clear typed quiet made ended
      exact blocked

-- All that a creation changes: the table and a missing catalog, an index for each indexed
-- column and a row for each geometry column, each after what was there.
theorem creation_exact (plain : d.Plain) (typed : t.Plain d) (clear : ∀ n, m.faults n = none)
    (absent : t.qualified ∉ m.database.tables) (named : t.typeName ≠ d.catalogTable)
    (unused : Unused d t m.database) :
    let catalog := Catalog.qualified d t.schema?
    let outcome := ((Operation.createTable t).session d).run Memory.connection m
    outcome.result = .ok .nothing ∧ outcome.state.database =
      { tables := m.database.tables ++ [t.qualified] ++ if catalog ∈ m.database.tables then [] else [catalog]
        indexes := m.database.indexes ++ t.indexedColumns.map fun c => (t.qualified, d.indexName c.name)
        rows := m.database.rows ++ t.geometryColumns.map fun c => (catalog,
          [("f_table_schema", .ofText? t.schema?), ("f_table_name", .text t.typeName),
            ("f_geometry_column", .text c.name), ("coord_dimension", .integer 2),
            ("srid", if Catalog.code d c.crs = .null then .integer (-1) else Catalog.code d c.crs),
            ("type", .text (c.binding.geometryName?.getD "GEOMETRY"))]) } := by
  intro catalog outcome
  have created : Memory.Keeps (fun _ _ => True) (fun _ => True)
      (fun result after => result = .ok .nothing ∧ after.database = completed d t (m.database.addTable t.qualified))
      ((Operation.createTable t).session d) m := by
    refine keeps_createTable ((keeps_create_clear plain typed clear absent).imp ?_)
    intro result after _ final
    obtain ⟨_, ended⟩ := final
    cases result with
    | ok _ => exact ⟨rfl, ended.2⟩
    | error _ => exact absurd unused ended
  obtain ⟨finished, written⟩ := (keeps_sound created fun _ _ => trivial).2
  refine ⟨finished, ?_⟩
  -- A table of the catalog's name would count as the catalog itself.
  have apart : catalog ≠ t.qualified := fun same =>
    named (Database.qualified_inj typed.schema.name plain.catalog typed.schema.name typed.table same).1.symm
  have tables : (completed d t (m.database.addTable t.qualified)).tables =
      m.database.tables ++ [t.qualified] ++ if catalog ∈ m.database.tables then [] else [catalog] := by
    by_cases known : catalog ∈ m.database.tables
    · simp [completed, Database.addTable, catalog, known]
    · simp [completed, Database.addTable, catalog, known, apart]
  change outcome.state.database = completed d t (m.database.addTable t.qualified) at written
  rw [written, ← tables]
  rfl

theorem creation_exact_sample :
    let rivers := FeatureType.sample "rivers" "course"
    let before := completed .phoenix rivers ⟨["rivers"], [], []⟩
    let outcome := ((Operation.createTable (.sample "roads" "geom")).session .phoenix).run Memory.connection
      { Memory.losing [] with database := before }
    outcome.result = .ok .nothing ∧ outcome.state.database =
      { tables := ["rivers", "geometry_columns", "roads"]
        indexes := [("rivers", "course_idx"), ("roads", "geom_idx")]
        rows := before.rows ++ [Catalog.row .phoenix (.sample "roads" "geom")
            ⟨"geom", .ofClass (.base .point), false, .null, none⟩,
          Catalog.row .phoenix (.sample "roads" "geom") ⟨"area", .ofClass (.base .polygon), true, .null, none⟩] } := by
  intro rivers before outcome
  obtain ⟨finished, written⟩ := creation_exact (m := { Memory.losing [] with database := before })
    Dialect.phoenix_plain FeatureType.roads_plain (fun _ => rfl) (by decide) (by decide) (by decide)
  exact ⟨finished, written.trans (by decide +kernel)⟩

end Table

end FeatureTables
