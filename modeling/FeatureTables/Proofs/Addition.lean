import FeatureTables.Proofs.Creation

namespace FeatureTables

open Session

def Adds (kind : α → Prop) (before after : List α) : Prop :=
  ∃ added, after = before ++ added ∧ ∀ item ∈ added, kind item

namespace Adds

variable {kind : α → Prop} {before after : List α} {item : α}

theorem refl (kind : α → Prop) (items : List α) : Adds kind items items :=
  ⟨[], (List.append_nil items).symm, List.forall_mem_nil _⟩

theorem snoc (adds : Adds kind before after) (fits : kind item) : Adds kind before (after ++ [item]) := by
  obtain ⟨added, rfl, fitting⟩ := adds
  refine ⟨added ++ [item], List.append_assoc before added [item], ?_⟩
  intro other member
  rcases List.mem_append.mp member with earlier | last
  · exact fitting other earlier
  · cases List.mem_singleton.mp last
    exact fits

theorem mem (adds : Adds kind before after) (member : item ∈ before) : item ∈ after := by
  obtain ⟨added, rfl, _⟩ := adds
  exact List.mem_append_left added member

theorem filter_eq {seen : α → Bool} (adds : Adds kind before after) (unseen : ∀ item, kind item → seen item = false) :
    after.filter seen = before.filter seen := by
  obtain ⟨added, rfl, fitting⟩ := adds
  have none : added.filter seen = [] := by
    refine List.filter_eq_nil_iff.mpr fun item member => ?_
    simp [unseen item (fitting item member)]
  rw [List.filter_append, none, List.append_nil]

end Adds

namespace Table

structure Extends (d : Dialect) (t : FeatureType) (before after : Database) : Prop where
  tables : Adds (fun name => name = t.qualified ∨ name = Catalog.qualified d t.schema?) before.tables after.tables
  indexes : Adds (fun index => ∃ c ∈ t.indexedColumns, index = (t.qualified, d.indexName c.name))
    before.indexes after.indexes
  rows : Adds (fun row => ∃ c ∈ t.geometryColumns, row = Catalog.row d t c) before.rows after.rows

variable {d : Dialect} {t : FeatureType} {schema? : Option String} {table : String} {m : Memory}
  {before after : Database}

theorem Extends.refl (d : Dialect) (t : FeatureType) (db : Database) : Extends d t db db :=
  ⟨.refl _ _, .refl _ _, .refl _ _⟩

theorem lasting_extends : Lasting d t (Extends d t before) where
  table := fun extended => { extended with tables := extended.tables.snoc (.inl rfl) }
  catalog := fun extended => { extended with tables := extended.tables.snoc (.inr rfl) }
  index := fun listed extended => { extended with indexes := extended.indexes.snoc ⟨_, listed, rfl⟩ }
  row := fun listed extended _ => { extended with rows := extended.rows.snoc ⟨_, listed, rfl⟩ }

-- Rows about a table are no rows about another, also where both share a catalog.
theorem Extends.rowsOf (plain : d.Plain) (typed : t.Plain d) (extended : Extends d t before after)
    (other : ¬ (schema? = t.schema? ∧ table = t.typeName)) :
    Catalog.rowsOf d schema? table after = Catalog.rowsOf d schema? table before := by
  have same : after.rows.filter (fun row => Catalog.Describes d schema? table row) =
      before.rows.filter (fun row => Catalog.Describes d schema? table row) := by
    refine extended.rows.filter_eq ?_
    intro row ⟨c, _, written⟩
    subst written
    exact decide_eq_false fun described => other ((Catalog.describes_row plain typed).mp described)
  rw [Catalog.rowsOf, Catalog.rowsOf, same]

end Table

namespace Catalog

variable {d : Dialect} {schema? column? : Option String} {table : String} {m : Memory} {before after : Database}

def visible (d : Dialect) (schema? : Option String) (table : String) (db : Database) : List Parameters :=
  if qualified d schema? ∈ db.tables then rowsOf d schema? table db else []

def toldRows (d : Dialect) (schema? : Option String) (table : String) (m : Memory) : Except Fault Reply :=
  (((Operation.catalogRows schema? table).session d).run Memory.connection m.calm).result

def toldSrid (d : Dialect) (schema? : Option String) (table : String) (column? : Option String) (m : Memory) :
    Except Fault Reply :=
  (((Operation.catalogSrid schema? table column?).session d).run Memory.connection m.calm).result

theorem not_hit_calm : ¬ m.calm.Hit := not_not.mpr rfl

theorem toldRows_exact (plain : d.Plain) (schema : Schema.Plain schema?) :
    toldRows d schema? table m = .ok (.rows ((visible d schema? table m.database).map readBack)) := by
  have keeps : Memory.Keeps (fun _ _ => True) (fun _ => True)
      (fun result _ => result = .ok (.rows ((visible d schema? table m.database).map readBack)))
      ((Operation.catalogRows schema? table).session d) m.calm := by
    refine Memory.keeps_then (keeps_rows plain schema trivial ?_ ?_)
    · intro _ unread
      have absent : qualified d schema? ∉ m.database.tables := unread.resolve_left not_hit_calm
      exact ⟨trivial, by simp [visible, absent]⟩
    · intro _ present
      have known : qualified d schema? ∈ m.database.tables := present
      exact ⟨trivial, by simp [visible, known, Memory.calm]⟩
  exact (keeps_sound keeps fun _ _ => trivial).2

theorem toldSrid_exact (plain : d.Plain) (schema : Schema.Plain schema?) :
    toldSrid d schema? table column? m = .ok (.cell (firstSrid column? (visible d schema? table m.database))) := by
  have keeps : Memory.Keeps (fun _ _ => True) (fun _ => True)
      (fun result _ => result = .ok (.cell (firstSrid column? (visible d schema? table m.database))))
      ((Operation.catalogSrid schema? table column?).session d) m.calm := by
    refine Memory.keeps_then (keeps_srid plain schema trivial ?_ ?_)
    · intro unread
      have absent : qualified d schema? ∉ m.database.tables := unread.resolve_left not_hit_calm
      exact ⟨trivial, by simp [visible, absent, firstSrid]⟩
    · intro _ present
      have known : qualified d schema? ∈ m.database.tables := present
      exact ⟨trivial, by simp [visible, known, Memory.calm]⟩
  exact (keeps_sound keeps fun _ _ => trivial).2

-- Rows that were out of reach until their catalog was made. They lie in a table whose name
-- is the catalog's but for quotes.
def Unveiled (d : Dialect) (schema? : Option String) (table : String) (before after : Database) : Prop :=
  qualified d schema? ∉ before.tables ∧ qualified d schema? ∈ after.tables ∧
    ∃ row ∈ before.rows, row.1 ≠ qualified d schema? ∧ Describes d schema? table row

theorem visible_covered (owned : ∀ row ∈ before.rows, row.1 ∈ before.tables)
    (grown : ∀ name ∈ before.tables, name ∈ after.tables)
    (same : rowsOf d schema? table after = rowsOf d schema? table before)
    (covered : ¬ Unveiled d schema? table before after) :
    visible d schema? table after = visible d schema? table before := by
  unfold visible
  by_cases known : qualified d schema? ∈ before.tables
  · rw [if_pos known, if_pos (grown _ known), same]
  by_cases made : qualified d schema? ∈ after.tables
  · have none : rowsOf d schema? table before = [] := by
      simp only [rowsOf, List.map_eq_nil_iff, List.filter_eq_nil_iff, decide_eq_true_eq]
      intro row written described
      have unowned : row.1 ≠ qualified d schema? := fun named => known (named ▸ owned row written)
      exact covered ⟨known, made, row, written, unowned, described⟩
    rw [if_pos made, if_neg known, same, none]
  · rw [if_neg made, if_neg known]

theorem visible_unveiled (same : rowsOf d schema? table after = rowsOf d schema? table before)
    (unveiled : Unveiled d schema? table before after) :
    visible d schema? table before = [] ∧ visible d schema? table after ≠ [] := by
  obtain ⟨absent, made, row, written, _, described⟩ := unveiled
  have found : row.2 ∈ rowsOf d schema? table before :=
    List.mem_map_of_mem (List.mem_filter.mpr ⟨written, decide_eq_true described⟩)
  refine ⟨if_neg absent, ?_⟩
  rw [visible, if_pos made, same]
  exact List.ne_nil_of_mem found

end Catalog

namespace Table

variable {d : Dialect} {t : FeatureType} {schema? : Option String} {m : Memory}

theorem additions_confined (plain : d.Plain) (typed : (t.within schema?).Plain d)
    (owned : ∀ row ∈ m.database.rows, row.1 ∈ m.database.tables) (call : Operation)
    (bootstraps : call = .createTable (t.within schema?) ∨ call = .repairTable schema? t) :
    ∀ passed ∈ (call.session d).states Memory.connection m,
      Extends d (t.within schema?) m.database passed.database ∧
        ∀ otherSchema? other, Schema.Plain otherSchema? → ¬ (otherSchema? = schema? ∧ other = t.typeName) →
          (Catalog.toldRows d otherSchema? other passed = Catalog.toldRows d otherSchema? other m ↔
            ¬ Catalog.Unveiled d otherSchema? other m.database passed.database) ∧
          (¬ Catalog.Unveiled d otherSchema? other m.database passed.database → ∀ column?,
            Catalog.toldSrid d otherSchema? other column? passed =
              Catalog.toldSrid d otherSchema? other column? m) := by
  have keeps : Memory.Keeps (fun _ _ => True) (Extends d (t.within schema?) m.database) (fun _ _ => True)
      (call.session d) m := by
    rcases bootstraps with rfl | rfl
    · exact keeps_lasting plain typed lasting_extends (.inl rfl) (.refl _ _ _)
    · rw [repairTable_within]
      exact keeps_lasting plain typed lasting_extends (.inr rfl) (.refl _ _ _)
  intro passed reached
  have extended := (keeps_sound keeps fun _ _ => trivial).1 passed reached
  refine ⟨extended, fun otherSchema? other schema apart => ?_⟩
  have same := extended.rowsOf plain typed apart
  have kept := Catalog.visible_covered owned (fun _ => extended.tables.mem) same
  refine ⟨⟨fun told unveiled => ?_, fun covered => ?_⟩, fun covered column? => ?_⟩
  · obtain ⟨before, after⟩ := Catalog.visible_unveiled same unveiled
    rw [Catalog.toldRows_exact plain schema, Catalog.toldRows_exact plain schema, before] at told
    simp only [Except.ok.injEq, Reply.rows.injEq, List.map_nil, List.map_eq_nil_iff] at told
    exact after told
  · rw [Catalog.toldRows_exact plain schema, Catalog.toldRows_exact plain schema, kept covered]
  · rw [Catalog.toldSrid_exact plain schema, Catalog.toldSrid_exact plain schema, kept covered]

theorem additions_confined_sample :
    let roads := FeatureType.sample "roads" "geom"
    let rivers := (Catalog.qualified .phoenix none,
      (⟨none, "rivers", "course", .integer 4326, "LINESTRING"⟩ : CatalogEntry).parameters)
    let m := { Memory.losing [4] with database := ⟨[rivers.1], [], [rivers]⟩ }
    (roads.within none).Plain .phoenix ∧ (∀ row ∈ m.database.rows, row.1 ∈ m.database.tables) ∧
      ∀ passed ∈ ((Operation.createTable roads).session .phoenix).states Memory.connection m,
        Extends .phoenix roads m.database passed.database ∧
          Catalog.toldRows .phoenix none "rivers" passed = Catalog.toldRows .phoenix none "rivers" m := by
  intro roads rivers m
  have typed : (roads.within none).Plain .phoenix := FeatureType.roads_plain
  have owned : ∀ row ∈ m.database.rows, row.1 ∈ m.database.tables := by decide
  refine ⟨typed, owned, fun passed reached => ?_⟩
  obtain ⟨extended, told⟩ := additions_confined Dialect.phoenix_plain typed owned _ (.inl rfl) passed reached
  have known : Catalog.qualified .phoenix none ∈ m.database.tables := by decide
  exact ⟨extended, (told none "rivers" nofun (by decide)).1.mpr fun unveiled => unveiled.1 known⟩

theorem additions_unveil :
    let roads := FeatureType.sample "roads" "geom"
    let rivers := ("\"geometry_columns\"",
      (⟨none, "rivers", "course", .integer 4326, "LINESTRING"⟩ : CatalogEntry).parameters)
    let m := { Memory.losing [] with database := ⟨[rivers.1], [], [rivers]⟩ }
    let after := (((Operation.createTable roads).session .phoenix).run Memory.connection m).state
    roads.Plain .phoenix ∧ (∀ row ∈ m.database.rows, row.1 ∈ m.database.tables) ∧
      Catalog.toldRows .phoenix none "rivers" m = .ok (.rows []) ∧
      Catalog.toldRows .phoenix none "rivers" after = .ok (.rows [Catalog.readBack rivers.2]) ∧
      Catalog.toldSrid .phoenix none "rivers" (some "course") m = .ok (.cell .null) ∧
      Catalog.toldSrid .phoenix none "rivers" (some "course") after = .ok (.cell (.datum (.integer 4326))) := by
  intro roads rivers m
  have created : Memory.Keeps (fun _ _ => True) (fun _ => True)
      (fun _ after => after.database = completed .phoenix roads (m.database.addTable roads.qualified))
      ((Operation.createTable roads).session .phoenix) m := by
    refine keeps_createTable ((keeps_create_clear Dialect.phoenix_plain FeatureType.roads_plain (fun _ => rfl)
      (by decide)).imp ?_)
    intro result after _ ended
    cases result with
    | ok _ => exact ended.2.2
    | error _ => exact absurd (show Unused .phoenix roads m.database by decide) ended.2
  have written := (keeps_sound created fun _ _ => trivial).2
  have before : Catalog.visible .phoenix none "rivers" m.database = [] := by decide
  have unveiled : Catalog.visible .phoenix none "rivers"
      (completed .phoenix roads (m.database.addTable roads.qualified)) = [rivers.2] := by decide +kernel
  have schema : Schema.Plain none := nofun
  simp only [Catalog.toldRows_exact Dialect.phoenix_plain schema, Catalog.toldSrid_exact Dialect.phoenix_plain schema,
    before, written, unveiled]
  exact ⟨FeatureType.roads_plain, by decide, rfl, rfl, rfl, rfl⟩

end Table

end FeatureTables
