import FeatureTables.Proofs.Recovery

namespace FeatureTables

open Session Memory

namespace Table

variable {d : Dialect} {t : FeatureType} {schema? : Option String} {columns : List Column}
  {before after : Database} {assumed : Memory → Request → Prop} {m : Memory}

structure Repaired (d : Dialect) (t : FeatureType) (columns : List Column) (before after : Database) : Prop where
  rows : after.rows = before.rows ++ columns.map (Catalog.row d t)
  known : Catalog.qualified d t.schema? ∈ after.tables

namespace Repaired

theorem recorded (plain : d.Plain) (typed : t.Plain d) (repaired : Repaired d t columns before after)
    (chosen : Catalog.Recorded d t.schema? t.typeName c.name before ∨ c ∈ columns) :
    Catalog.Recorded d t.schema? t.typeName c.name after := by
  rcases chosen with known | fixed
  · exact known.later (repaired.rows ▸ List.subset_append_left _ _)
  · exact Catalog.recorded_row plain typed (repaired.rows ▸ List.mem_append_right _ (List.mem_map_of_mem fixed))

theorem settled (plain : d.Plain) (typed : t.Plain d) (repaired : Repaired d t columns before after)
    (chosen : ∀ c ∈ t.geometryColumns, Catalog.Recorded d t.schema? t.typeName c.name before ∨ c ∈ columns) :
    unrecordedColumns d t.schema? t after = [] := by
  simp only [unrecordedColumns, List.filter_eq_nil_iff, decide_eq_true_eq, not_not]
  exact fun c member => repaired.recorded plain typed (chosen c member)

theorem keyed_iff (repaired : Repaired d t columns before after) :
    Keyed d t.schema? t after ↔ Keyed d t.schema? t before := by
  rw [Table.keyed_iff, Table.keyed_iff, repaired.rows]
  constructor
  · exact fun keyed row written => keyed row (List.mem_append_left _ written)
  · intro keyed row written described
    rcases List.mem_append.mp written with old | new
    · exact keyed row old described
    · obtain ⟨c, _, rfl⟩ := List.mem_map.mp new
      exact rfl

end Repaired

theorem restoration_repaired :
    Restoration d t columns fun done db => Repaired d t done before db where
  index := fun _ repaired _ _ => ⟨repaired.rows, repaired.known⟩
  row := fun _ repaired _ => ⟨by simp [Database.addRow, repaired.rows], repaired.known⟩

inductive Chosen (d : Dialect) (t : FeatureType) (assumed : Memory → Request → Prop) (db : Database) :
    List Column → Prop where
  | unrecorded : Chosen d t assumed db (unrecordedColumns d t.schema? t db)
  | all {now : Memory} (hit : now.Hit) (met : assumed now (Catalog.rowsRequest d t.schema? t.typeName)) :
    Chosen d t assumed db t.geometryColumns

theorem Chosen.covers (chosen : Chosen d t assumed before columns) :
    ∀ c ∈ t.geometryColumns, Catalog.Recorded d t.schema? t.typeName c.name before ∨ c ∈ columns := by
  intro c member
  cases chosen with
  | all => exact .inr member
  | unrecorded =>
    by_cases known : Catalog.Recorded d t.schema? t.typeName c.name before
    · exact .inl known
    · exact .inr (List.mem_filter.mpr ⟨member, by simpa using known⟩)

theorem keeps_repair_repaired (plain : d.Plain) (typed : t.Plain d) :
    Memory.Keeps assumed (fun _ => True) (fun result after =>
      match result with
      | .ok names => ∃ columns, names = columns.map Column.name ∧ Repaired d t columns m.database after.database ∧
          Chosen d t assumed m.database columns
      | .error _ => True) (repair d t.schema? t) m := by
  refine keeps_repair plain typed trivial (fun _ _ => trivial) (fun _ _ _ => trivial) ?_
  intro now columns ensured found
  have same : now.database.rows = m.database.rows := by
    cases ensured with
    | known _ => rfl
    | made _ _ => rfl
  have start : Repaired d t [] m.database now.database := ⟨by simp [same], ensured.present⟩
  refine (keeps_repairColumns (m := now.next now.database) plain typed found.geometry restoration_repaired
    (fun _ _ => trivial) start).imp ?_
  intro result after _ ended
  cases result with
  | error _ => trivial
  | ok _ =>
    refine ⟨columns, rfl, ended, ?_⟩
    cases found with
    | lost hit met => exact .all hit met
    | answered _ =>
      have alike : unrecordedColumns d t.schema? t now.database = unrecordedColumns d t.schema? t m.database := by
        refine List.filter_congr fun c _ => ?_
        rw [decide_eq_decide, Catalog.Recorded, Catalog.Recorded, same]
      exact alike ▸ .unrecorded

structure Settled (d : Dialect) (t : FeatureType) (db : Database) : Prop where
  known : Catalog.qualified d t.schema? ∈ db.tables
  recorded : unrecordedColumns d t.schema? t db = []

-- A look finds nothing missing, exactly where all rows can be looked up.
def Looked (d : Dialect) (t : FeatureType) (m : Memory) (result : Except Fault (List String)) (after : Memory) : Prop :=
  after.database = m.database ∧
    match result with
    | .ok names => Keyed d t.schema? t m.database ∧ names = []
    | .error _ => ¬ Keyed d t.schema? t m.database

theorem keeps_missing_settled (plain : d.Plain) (typed : t.Plain d) (clear : ∀ n, m.faults n = none)
    (settled : Settled d t m.database) :
    Memory.Keeps assumed (fun _ => True) (Looked d t m) (missing d t.schema? t) m := by
  refine keeps_missing plain typed.schema trivial ?_ ?_ ?_
  · exact fun _ unread => absurd (unread.resolve_right (not_not.mpr settled.known)) (not_not.mpr (clear _))
  · exact fun _ _ keyed => ⟨rfl, keyed, by rw [settled.recorded]; rfl⟩
  · exact fun _ unkeyed => ⟨rfl, unkeyed⟩

theorem keeps_repair_settled (plain : d.Plain) (typed : t.Plain d) (clear : ∀ n, m.faults n = none)
    (settled : Settled d t m.database) :
    Memory.Keeps assumed (fun _ => True) (Looked d t m) (repair d t.schema? t) m := by
  unfold repair
  simp only [plain.backend]
  refine keeps_then (Catalog.keeps_ensure plain typed.schema trivial ?_ ?_ ?_)
  · intro _
    refine keeps_then ((keeps_missing_settled plain typed clear settled).imp ?_)
    intro result after _ ended
    obtain ⟨same, ended⟩ := ended
    cases result with
    | error _ => exact ⟨same, ended⟩
    | ok names =>
      obtain ⟨keyed, rfl⟩ := ended
      exact ⟨trivial, same, keyed, rfl⟩
  · exact fun absent => absurd settled.known absent
  · exact fun absent => absurd settled.known absent

-- A repair has nothing to do here: no column is found missing, and a repair changes nothing.
def AtRest (d : Dialect) (schema? : Option String) (t : FeatureType) (m : Memory) : Prop :=
  let looked := ((Operation.missingColumns schema? t).session d).run Memory.connection m
  let again := ((Operation.repairTable schema? t).session d).run Memory.connection m
  looked.result = .ok (.names []) ∧ again.result = .ok (.names []) ∧ again.state.database = m.database

theorem atRest_within : AtRest d schema? t m = AtRest d (t.within schema?).schema? (t.within schema?) m := by
  unfold AtRest
  rw [repairTable_within]
  rfl

theorem missing_settled (plain : d.Plain) (typed : t.Plain d) (clear : ∀ n, m.faults n = none)
    (settled : Settled d t m.database) :
    (((Operation.missingColumns t.schema? t).session d).run Memory.connection m).result = .ok (.names []) ↔
      Keyed d t.schema? t m.database := by
  have looked : Memory.Keeps (fun _ _ => True) (fun _ => True)
      (fun result _ => result = .ok (.names []) ↔ Keyed d t.schema? t m.database)
      ((Operation.missingColumns t.schema? t).session d) m := by
    refine keeps_bind ((keeps_missing_settled plain typed clear settled).imp ?_)
    intro result after _ ended
    obtain ⟨_, ended⟩ := ended
    cases result with
    | error _ => exact ⟨nofun, fun keyed => absurd keyed ended⟩
    | ok names =>
      obtain ⟨keyed, rfl⟩ := ended
      exact ⟨trivial, fun _ => keyed, fun _ => rfl⟩
  exact (keeps_sound looked fun _ _ => trivial).2

theorem repair_settled (plain : d.Plain) (typed : t.Plain d) (clear : ∀ n, m.faults n = none)
    (settled : Settled d t m.database) (keyed : Keyed d t.schema? t m.database) :
    let again := ((Operation.repairTable t.schema? t).session d).run Memory.connection m
    again.result = .ok (.names []) ∧ again.state.database = m.database := by
  intro again
  have repeated : Memory.Keeps (fun _ _ => True) (fun _ => True)
      (fun result after => result = .ok (.names []) ∧ after.database = m.database)
      ((Operation.repairTable t.schema? t).session d) m := by
    refine keeps_repairTable ((keeps_repair_settled plain typed clear settled).imp ?_)
    intro result after _ ended
    obtain ⟨same, ended⟩ := ended
    cases result with
    | error _ => exact absurd keyed ended
    | ok names =>
      obtain ⟨_, rfl⟩ := ended
      exact ⟨rfl, same⟩
  exact (keeps_sound repeated fun _ _ => trivial).2

theorem Settled.atRest_iff (plain : d.Plain) (typed : t.Plain d) (clear : ∀ n, m.faults n = none)
    (settled : Settled d t m.database) : AtRest d t.schema? t m ↔ Keyed d t.schema? t m.database := by
  have looked := missing_settled plain typed clear settled
  constructor
  · exact fun rest => looked.mp rest.1
  · exact fun keyed => ⟨looked.mpr keyed, repair_settled plain typed clear settled keyed⟩

theorem repair_repaired (plain : d.Plain) (typed : t.Plain d) (assumed : Memory → Request → Prop)
    (met : ∀ asked ∈ ((Operation.repairTable t.schema? t).session d).requests Memory.connection m,
      assumed asked.1 asked.2)
    (returned : (((Operation.repairTable t.schema? t).session d).run Memory.connection m).result = .ok reply) :
    ∃ columns, reply = .names (columns.map Column.name) ∧
      Repaired d t columns m.database
        (((Operation.repairTable t.schema? t).session d).run Memory.connection m).state.database ∧
      Chosen d t assumed m.database columns := by
  have whole : Memory.Keeps assumed (fun _ => True) (fun result after => result = .ok reply →
      ∃ columns, reply = .names (columns.map Column.name) ∧ Repaired d t columns m.database after.database ∧
        Chosen d t assumed m.database columns)
      ((Operation.repairTable t.schema? t).session d) m := by
    refine keeps_repairTable ((keeps_repair_repaired plain typed).imp ?_)
    intro result after _ ended
    cases result with
    | error _ => exact nofun
    | ok names =>
      intro same
      cases same
      obtain ⟨columns, rfl, rest⟩ := ended
      exact ⟨columns, rfl, rest⟩
  exact (keeps_sound whole met).2 returned

theorem repair_settles (plain : d.Plain) (typed : t.Plain d)
    (returned : (((Operation.repairTable t.schema? t).session d).run Memory.connection m).result = .ok reply) :
    AtRest d t.schema? t (((Operation.repairTable t.schema? t).session d).run Memory.connection m).state.calm ↔
      Keyed d t.schema? t m.database := by
  obtain ⟨columns, _, repaired, chosen⟩ := repair_repaired plain typed (fun _ _ => True) (fun _ _ => trivial) returned
  have settled : Settled d t
      (((Operation.repairTable t.schema? t).session d).run Memory.connection m).state.calm.database :=
    ⟨repaired.known, repaired.settled plain typed chosen.covers⟩
  exact (settled.atRest_iff plain typed fun _ => rfl).trans repaired.keyed_iff

theorem repair_answered (plain : d.Plain) (typed : t.Plain d)
    (returned : (((Operation.repairTable t.schema? t).session d).run Memory.connection m).result = .ok reply)
    (answered : ∀ asked ∈ ((Operation.repairTable t.schema? t).session d).requests Memory.connection m,
      Answered d t asked.1 asked.2) :
    reply = .names ((unrecordedColumns d t.schema? t m.database).map Column.name) ∧
      (((Operation.repairTable t.schema? t).session d).run Memory.connection m).state.database.rows =
        m.database.rows ++ (unrecordedColumns d t.schema? t m.database).map (Catalog.row d t) := by
  obtain ⟨columns, named, repaired, chosen⟩ := repair_repaired plain typed (Answered d t) answered returned
  cases chosen with
  | unrecorded => exact ⟨named, repaired.rows⟩
  | all hit met => exact absurd hit (met rfl)

-- A repair that returns leaves nothing to repair, as long as the rows that were there can
-- be looked up; and it has repaired what was missing, where it could see that.
theorem repair_converges (plain : d.Plain) (schema : Schema.Plain schema?) (typed : t.Plain d)
    (returned : (((Operation.repairTable schema? t).session d).run Memory.connection m).result = .ok reply) :
    let repair := (Operation.repairTable schema? t).session d
    let after := (repair.run Memory.connection m).state
    (AtRest d schema? t after.calm ↔ Keyed d schema? t m.database) ∧
    ((∀ asked ∈ repair.requests Memory.connection m, Answered d (t.within schema?) asked.1 asked.2) →
      let columns := unrecordedColumns d schema? t m.database
      reply = .names (columns.map Column.name) ∧
        after.database.rows = m.database.rows ++ columns.map (Catalog.row d (t.within schema?))) := by
  intro repair after
  -- A repair reads no schema but the one it is given, so the table is taken there first.
  have moved : (t.within schema?).Plain d := typed.within schema
  rw [repairTable_within] at returned
  constructor
  · have settles := repair_settles plain moved returned
    rw [← repairTable_within, ← atRest_within] at settles
    exact settles
  · intro answered
    have repaired := repair_answered plain moved returned answered
    rw [← repairTable_within] at repaired
    exact repaired

theorem repair_converges_sample :
    let roads := FeatureType.sample "roads" "geom"
    let m := { Memory.losing [2] with database := ⟨["roads"], [("roads", "geom_idx")], []⟩ }
    AtRest .phoenix none roads
      (((Operation.repairTable none roads).session .phoenix).run Memory.connection m).state.calm := by
  intro roads m
  have succeeded : (((Operation.repairTable none roads).session .phoenix).run Memory.connection m).result.isOk := by
    decide +kernel
  have schema : Schema.Plain none := FeatureType.roads_plain.schema
  have keyed : Keyed .phoenix none roads m.database := by decide
  obtain ⟨reply, returned⟩ := returned_of_isOk succeeded
  exact (repair_converges Dialect.phoenix_plain schema FeatureType.roads_plain returned).1.mpr keyed

theorem repair_unsettled :
    let roads := FeatureType.sample "roads" "geom"
    let listed := ("geometry_columns", [("f_table_name", .text "roads"), ("f_geometry_column", .list [.text "geom"])])
    let m := { Memory.losing [1] with database := ⟨["roads", "geometry_columns"], [], [listed]⟩ }
    let repaired := ((Operation.repairTable none roads).session .phoenix).run Memory.connection m
    roads.Plain .phoenix ∧ repaired.result.isOk ∧ ¬ AtRest .phoenix none roads repaired.state.calm := by
  intro roads listed m repaired
  have checked : repaired.result.isOk ∧ ¬ (((Operation.missingColumns none roads).session .phoenix).run
      Memory.connection repaired.state.calm).result.isOk := by decide +kernel
  refine ⟨FeatureType.roads_plain, checked.1, fun rest => checked.2 ?_⟩
  rw [rest.1]
  rfl

end Table

end FeatureTables
