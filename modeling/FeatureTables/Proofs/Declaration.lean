import FeatureTables.Proofs.Agreement
import FeatureTables.Proofs.Plan

namespace FeatureTables

open Session

variable {State : Type} {d : Dialect} {t : FeatureType} {c : Column}

structure Declaration where
  name : String
  type : String
  required : Bool
  rest : String

namespace Declaration

def text (e : Declaration) : String :=
  e.name ++ " " ++ (e.type ++ (if e.required then " NOT NULL" else "") ++ e.rest)

def ofKey (name : String) : Declaration := ⟨name, "INTEGER", false, " PRIMARY KEY ASC"⟩

def ofColumn (d : Dialect) (c : Column) : Declaration :=
  ⟨c.name, d.columnType c, !c.nillable, if c.isIndexed then Dialect.pointComment c else ""⟩

theorem text_ofColumn (plain : d.Plain) : (ofColumn d c).text = d.columnDefinition c := by
  rw [plain.columnDefinition_layout]
  unfold text ofColumn Layout.terms Column.isIndexed
  cases c.nillable <;> cases c.isGeometry <;> simp [String.append_assoc]

theorem text_ofKey (plain : d.Plain) (name : String) : (ofKey name).text = d.primaryKey name "" := by
  simp [text, ofKey, Dialect.primaryKey, plain.backend, Dialect.columnName, plain.escaped, String.append_assoc]

end Declaration

structure Projection where
  name : String
  binary : Bool

namespace Projection

def text (e : Projection) : String :=
  if e.binary then "asWKB(" ++ e.name ++ ") AS " ++ e.name else e.name

def ofColumn (c : Column) : Projection := ⟨c.name, c.isGeometry⟩

end Projection

namespace FeatureType

def declarations (d : Dialect) (t : FeatureType) : List Declaration :=
  .ofKey t.primaryKey :: t.ordinaryColumns.map (.ofColumn d)

def projections (t : FeatureType) : List Projection :=
  ⟨t.primaryKey, false⟩ :: t.ordinaryColumns.map .ofColumn

structure Stores (d : Dialect) (t : FeatureType) (name : String) : Prop where
  declared : ∃ e ∈ t.declarations d, e.name = name ∧ e.type = "VARBINARY"
  read : ∃ e ∈ t.projections, e.name = name ∧ e.binary = true

def Requires (d : Dialect) (t : FeatureType) (name : String) : Prop :=
  ∃ e ∈ t.declarations d, e.name = name ∧ e.required = true

theorem names_declarations (d : Dialect) (t : FeatureType) :
    (t.declarations d).map Declaration.name = t.primaryKey :: t.ordinaryColumns.map Column.name := by
  rw [declarations, List.map_cons, List.map_map]
  rfl

theorem names_projections (t : FeatureType) :
    t.projections.map Projection.name = t.primaryKey :: t.ordinaryColumns.map Column.name := by
  rw [projections, List.map_cons, List.map_map]
  rfl

theorem ordinary_iff (listed : c ∈ t.columns) : c ∈ t.ordinaryColumns ↔ c.name ≠ t.primaryKey := by
  simp [ordinaryColumns, listed]

theorem declared_key (declared : e ∈ t.declarations d) (named : e.name = t.primaryKey) : e = .ofKey t.primaryKey := by
  rcases List.mem_cons.mp declared with key | ordinary
  · exact key
  · obtain ⟨c, member, rfl⟩ := List.mem_map.mp ordinary
    exact absurd named ((ordinary_iff (List.mem_of_mem_filter member)).mp member)

theorem requires_iff (indexed : c ∈ t.indexedColumns) : t.Requires d c.name ↔ c.name ≠ t.primaryKey := by
  obtain ⟨listed, needed⟩ := List.mem_filter.mp indexed
  constructor
  · rintro ⟨e, declared, named, required⟩ same
    rw [declared_key declared (named.trans same)] at required
    cases required
  · intro other
    have filled : (!c.nillable) = true := (Bool.and_eq_true_iff.mp needed).2
    exact ⟨_, List.mem_cons_of_mem _ (List.mem_map_of_mem ((ordinary_iff listed).mpr other)), rfl, filled⟩

theorem stores_iff (phoenix : d.backend = .phoenix) (geometry : c ∈ t.geometryColumns) :
    t.Stores d c.name ↔ c.name ≠ t.primaryKey := by
  obtain ⟨listed, shape⟩ := List.mem_filter.mp geometry
  constructor
  · intro stores same
    obtain ⟨e, declared, named, type⟩ := stores.declared
    rw [declared_key declared (named.trans same)] at type
    simp [Declaration.ofKey] at type
  · intro other
    have ordinary := (ordinary_iff listed).mpr other
    have type : d.columnType c = "VARBINARY" := by
      rw [Dialect.columnType, if_pos shape, phoenix]
      rfl
    exact ⟨⟨_, List.mem_cons_of_mem _ (List.mem_map_of_mem ordinary), rfl, type⟩,
      ⟨_, List.mem_cons_of_mem _ (List.mem_map_of_mem ordinary), rfl, shape⟩⟩

end FeatureType

namespace Dialect.Plain

theorem createTable_declared (plain : d.Plain) (t : FeatureType) : d.createTable t =
    d.tableOptions (d.featureTable t "CREATE TABLE " ++
      ("(" ++ Text.joined ", " ((t.declarations d).map Declaration.text) ++ ")")) t.immutableRows := by
  have columns : t.ordinaryColumns.map d.columnDefinition =
      (t.ordinaryColumns.map (Declaration.ofColumn d)).map Declaration.text := by
    rw [List.map_map]
    exact List.map_congr_left fun _ _ => (Declaration.text_ofColumn plain).symm
  rw [Dialect.createTable, tableDefinition, ← Declaration.text_ofKey plain, columns, FeatureType.declarations,
    List.map_cons]

theorem select_projected (plain : d.Plain) (t : FeatureType) (limit offset : Int) : d.select t limit offset =
    let sql := d.featureTable t ("SELECT " ++ Text.joined ", " (t.projections.map Projection.text) ++ " FROM ")
    if d.paging then d.paged sql limit offset else sql := by
  rw [plain.select_layout, Layout.selectionText, FeatureType.projections, List.map_cons, List.map_map]
  rfl

end Dialect.Plain

namespace Table

theorem sent_complete (phoenix : d.backend = .phoenix) (schema? : Option String) (t : FeatureType)
    (connection : Connection State) (state : State)
    (sent : sending ∈ sendings (((Operation.completeTable schema? t).session d).run connection state).events) :
    sending = (Catalog.createTable d schema?, some []) ∨ sending ∈ completion d schema? t := by
  have path : (complete d schema? t >>= fun _ => pure Reply.nothing).Path
      (((Operation.completeTable schema? t).session d).run connection state).events _ := run_path _ _ _
  have within : ∃ result, (complete d schema? t).Path
      (((Operation.completeTable schema? t).session d).run connection state).events result := by
    rcases path.bind_parts with ⟨fault, failed, _⟩ | ⟨_, earlier, later, before, rest, whole⟩
    · exact ⟨_, failed⟩
    · rw [whole, rest.done_parts.1, List.append_nil]
      exact ⟨_, before⟩
  obtain ⟨result, completed⟩ := within
  rcases List.mem_append.mp ((complete_followed phoenix completed).sent.subset sent) with catalog | later
  · obtain ⟨answer, _, planned⟩ := List.mem_flatMap.mp catalog
    rcases answer with _ | _ | _
    · cases planned
    · exact .inl (List.mem_singleton.mp planned)
    · cases planned
  · exact .inr later

-- Every column that a completion records is one that the table stores as a geometry, and
-- every column it indexes is one without nulls, but for a geometry of the key's name: the
-- statements leave it out, and the completion does not.
theorem completion_described (plain : d.Plain) (distinct : (t.columns.map Column.name).Nodup)
    (schema? : Option String) (connection : Connection State) (state : State) :
    let outcome := ((Operation.completeTable schema? t).session d).run connection state
    d.createTable t = d.tableOptions (d.featureTable t "CREATE TABLE " ++
        ("(" ++ Text.joined ", " ((t.declarations d).map Declaration.text) ++ ")")) t.immutableRows ∧
      (∀ limit offset, d.select t limit offset =
        let sql := d.featureTable t ("SELECT " ++ Text.joined ", " (t.projections.map Projection.text) ++ " FROM ")
        if d.paging then d.paged sql limit offset else sql) ∧
      ((t.declarations d).map Declaration.name).Nodup ∧ (t.projections.map Projection.name).Nodup ∧
      ∀ sending ∈ sendings outcome.events,
        sending = (Catalog.createTable d schema?, some []) ∨
        (∃ c ∈ t.indexedColumns,
          sending = (Index.createSql d schema? t.typeName (d.indexName c.name) c.name, some []) ∧
            (t.Requires d c.name ↔ c.name ≠ t.primaryKey)) ∨
        ∃ c ∈ t.geometryColumns,
          sending = (Catalog.insert d schema?, some (Catalog.described d schema? t.typeName c).parameters) ∧
            (t.Stores d c.name ↔ c.name ≠ t.primaryKey) := by
  intro outcome
  refine ⟨plain.createTable_declared t, plain.select_projected t, ?_, ?_, fun sending sent => ?_⟩
  · rw [FeatureType.names_declarations]
    exact FeatureType.nodup_columns distinct
  · rw [FeatureType.names_projections]
    exact FeatureType.nodup_columns distinct
  · refine (sent_complete plain.backend schema? t connection state sent).imp_right fun planned => ?_
    rcases List.mem_append.mp planned with index | row
    · obtain ⟨c, indexed, rfl⟩ := List.mem_map.mp index
      exact .inl ⟨c, indexed, rfl, FeatureType.requires_iff indexed⟩
    · obtain ⟨c, geometry, rfl⟩ := List.mem_map.mp row
      exact .inr ⟨c, geometry, rfl, FeatureType.stores_iff plain.backend geometry⟩

theorem completion_described_sample :
    let roads := FeatureType.sample "roads" "geom"
    let script : Script := ⟨⟨[], .null, none⟩, [], [], []⟩
    let outcome := ((Operation.completeTable none roads).session .phoenix).run Script.connection script
    ((roads.declarations .phoenix).map Declaration.name).Nodup ∧ (sendings outcome.events).length = 4 ∧
      ∀ sending ∈ sendings outcome.events, sending = (Catalog.createTable .phoenix none, some []) ∨
        ∃ c ∈ roads.columns, roads.Requires .phoenix c.name ∨ roads.Stores .phoenix c.name := by
  intro roads script outcome
  have described := completion_described Dialect.phoenix_plain FeatureType.roads_plain.distinct none Script.connection
    script
  have apart : ∀ c ∈ roads.columns, c.name ≠ roads.primaryKey := by decide
  refine ⟨described.2.2.1, rfl, fun sending sent => ?_⟩
  rcases described.2.2.2.2 sending sent with catalog | ⟨c, indexed, _, required⟩ | ⟨c, geometry, _, stored⟩
  · exact .inl catalog
  · have listed := List.mem_of_mem_filter indexed
    exact .inr ⟨c, listed, .inl (required.mpr (apart c listed))⟩
  · have listed := List.mem_of_mem_filter geometry
    exact .inr ⟨c, listed, .inr (stored.mpr (apart c listed))⟩

theorem completion_keyed :
    let location : Column := ⟨"fid", .ofClass (.base .point), false, .null, none⟩
    let keyed : FeatureType := { FeatureType.sample "roads" "fid" with columns := [location] }
    let script : Script := ⟨⟨[], .null, none⟩, [], [], []⟩
    let outcome := ((Operation.completeTable none keyed).session .phoenix).run Script.connection script
    (keyed.columns.map Column.name).Nodup ∧
      Dialect.phoenix.createTable keyed = "CREATE TABLE roads(fid INTEGER PRIMARY KEY ASC) IMMUTABLE_ROWS = true" ∧
      Dialect.phoenix.select keyed (-1) 0 = "SELECT fid FROM roads" ∧
      sendings outcome.events = [(Catalog.createTable .phoenix none, some []),
        ("CREATE INDEX fid_idx ON roads(fid)", some []),
        (Catalog.insert .phoenix none, some (Catalog.described .phoenix none "roads" location).parameters)] := by
  intro location keyed script outcome
  exact ⟨by decide, by decide +kernel, by decide +kernel, by decide +kernel⟩

end Table

end FeatureTables
