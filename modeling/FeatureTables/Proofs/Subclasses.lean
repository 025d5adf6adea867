import FeatureTables.Proofs.Lineage

namespace FeatureTables

open Session

namespace Class

variable {b parent : Class} {k : BaseClass} {name label : String} {below : List Class}

def parent? : Class → Option Class
  | base c => c.parent?.map base
  | derived _ parent => some parent

theorem geometryName?_unnamed (geometry : b.isGeometry = true) (unnamed : b.ownName? = none) :
    ∃ type : GeometryType, b.geometryName? = some type.name := by
  unfold geometryName?
  rw [if_pos geometry, unnamed]
  rw [isGeometry_code?] at geometry
  cases found : b.code? with
  | none => rw [found] at geometry; cases geometry
  | some code =>
    cases code with
    | geometry type => exact ⟨type, rfl⟩
    | sql | value => rw [found] at geometry; cases geometry

theorem geometryName?_own (geometry : b.isGeometry = true) (own : b.ownName? = some name) :
    b.geometryName? = some name := by
  unfold geometryName?
  rw [if_pos geometry, own]

-- Collections have a name and no code, so what is derived from them goes by the code of
-- all geometries.
theorem derived_named_iff (geometry : parent.isGeometry = true) :
    (derived label parent).geometryName? = parent.geometryName? ↔ parent ≠ base .collection := by
  cases parent with
  | derived => exact iff_of_true rfl nofun
  | base k =>
    cases k with
    | collection =>
      have coded : (derived label (base .collection)).geometryName? = some "GEOMETRY" := rfl
      have named : (base .collection).geometryName? = some "GEOMETRYCOLLECTION" := rfl
      rw [coded, named]
      decide
    | geometry | multipart | point | lineString | linearRing | polygon | multiPoint | multiLineString | multiPolygon =>
      exact iff_of_true rfl nofun
    | _ => cases geometry

theorem parent_named_iff (geometry : b.isGeometry = true) (unnamed : b.ownName? = none) :
    ∃ parent, b.parent? = some parent ∧ b.ancestors = b :: parent.ancestors ∧ parent.isGeometry = true ∧
      (b.geometryName? = parent.geometryName? ↔ parent ≠ base .collection) := by
  cases b with
  | derived label parent =>
    rw [isGeometry_derived] at geometry
    exact ⟨parent, rfl, rfl, geometry, derived_named_iff geometry⟩
  | base k =>
    cases k with
    | linearRing => exact ⟨base .lineString, rfl, rfl, rfl, iff_of_true rfl nofun⟩
    | multipart => exact ⟨base .geometry, rfl, rfl, rfl, iff_of_true rfl nofun⟩
    | geometry | point | lineString | polygon | multiPoint | multiLineString | multiPolygon | collection => cases unnamed
    | _ => cases geometry

-- The first in the line of ancestors that has a name of its own, and the classes before it.
structure FirstNamed (b : Class) (below : List Class) (k : BaseClass) (name : String) : Prop where
  line : ∃ above, b.ancestors = below ++ base k :: above
  unnamed : ∀ c ∈ below, c.ownName? = none
  own : (base k).ownName? = some name

theorem ancestors_head (b : Class) : ∃ above, b.ancestors = b :: above := by
  cases b with
  | base k => exact ⟨_, by rw [ancestors, BaseClass.ancestors_parent, List.map_cons]⟩
  | derived label parent => exact ⟨parent.ancestors, rfl⟩

theorem ownName?_collection : (base k).ownName? = some "GEOMETRYCOLLECTION" ↔ k = .collection := by
  cases k <;> decide

theorem coded_name (type : GeometryType) : type.name ≠ "GEOMETRYCOLLECTION" := by
  cases type <;> decide

-- By induction on the classes before the named one: each goes by the name of the class
-- above it, and that is no collection unless the named one is.
theorem FirstNamed.named_iff (first : FirstNamed b below k name) (geometry : b.isGeometry = true) :
    b.geometryName? = some name ↔ (k = .collection → below = []) := by
  induction below generalizing b with
  | nil =>
    obtain ⟨above, line⟩ := first.line
    obtain ⟨others, head⟩ := ancestors_head b
    obtain rfl : b = base k := (List.cons.inj (head.symm.trans line)).1
    exact iff_of_true (geometryName?_own geometry first.own) fun _ => rfl
  | cons c below ih =>
    obtain ⟨above, line⟩ := first.line
    obtain ⟨others, head⟩ := ancestors_head b
    obtain rfl : b = c := (List.cons.inj (head.symm.trans line)).1
    have unnamed : b.ownName? = none := first.unnamed b List.mem_cons_self
    by_cases collection : k = .collection
    · obtain ⟨type, coded⟩ := geometryName?_unnamed geometry unnamed
      obtain rfl : "GEOMETRYCOLLECTION" = name :=
        Option.some.inj ((ownName?_collection.mpr collection).symm.trans first.own)
      refine iff_of_false ?_ fun all => List.cons_ne_nil _ _ (all collection)
      rw [coded]
      exact fun same => coded_name type (Option.some.inj same)
    · obtain ⟨parent, _, parentLine, parentGeometry, step⟩ := parent_named_iff geometry unnamed
      have rest : FirstNamed parent below k name :=
        ⟨⟨above, (List.cons.inj (parentLine.symm.trans line)).2⟩,
          fun c member => first.unnamed c (List.mem_cons_of_mem _ member), first.own⟩
      have named : parent.geometryName? = some name := (ih rest parentGeometry).mpr fun same => absurd same collection
      have plain : parent ≠ base .collection := by
        rintro rfl
        have own : (base .collection).geometryName? = some "GEOMETRYCOLLECTION" := rfl
        exact collection (ownName?_collection.mp (first.own.trans (named.symm.trans own)))
      exact iff_of_true ((step.mpr plain).trans named) fun same => absurd same collection

-- A class without a name of its own goes by the name of the class that it extends, and so
-- the catalog is told the first name in the line of ancestors. The exception is what is
-- derived from collections, which have a name and no code.
theorem subclass_named_iff {b : Class} (geometry : b.isGeometry = true) :
    (b.ownName? = none →
      ∃ parent, b.parent? = some parent ∧ (b.geometryName? = parent.geometryName? ↔ parent ≠ base .collection)) ∧
      ∀ below k name, FirstNamed b below k name → ∀ d schema? table c, c.binding = .ofClass b →
        ∀ {State : Type} (connection : Connection State) state,
          let recorded := ((Operation.recordColumn schema? table c).session d).run connection state
          ∃ parameters, sendings recorded.events = [(Catalog.insert d schema?, some parameters)] ∧
            (parameters.read "type" = .text name ↔ (k = .collection → below = [])) := by
  constructor
  · intro unnamed
    obtain ⟨parent, extended, _, _, named⟩ := parent_named_iff geometry unnamed
    exact ⟨parent, extended, named⟩
  · intro below k name first d schema? table c bound State connection state recorded
    refine ⟨_, Catalog.recordColumn_sendings connection state, ?_⟩
    obtain ⟨told, _, named, _⟩ := geometryName?_class geometry
    rw [← first.named_iff geometry, Catalog.described_type bound, named, Option.getD_some, Datum.text.injEq,
      Option.some.injEq]

theorem subclass_named_iff_sample :
    let loop := derived "Loop" (derived "Border" (base .linearRing))
    let course : Column := ⟨"course", .ofClass loop, true, .null, none⟩
    let script : Script := ⟨⟨[], .null, none⟩, [], [], []⟩
    let recorded := ((Operation.recordColumn none "rivers" course).session .phoenix).run Script.connection script
    loop.isGeometry = true ∧ loop.ownName? = none ∧
      loop.geometryName? = (derived "Border" (base .linearRing)).geometryName? ∧
      FirstNamed loop [loop, derived "Border" (base .linearRing), base .linearRing] .lineString "LINESTRING" ∧
      ∃ parameters, sendings recorded.events = [(Catalog.insert .phoenix none, some parameters)] ∧
        parameters.read "type" = .text "LINESTRING" := by
  intro loop course script recorded
  have first : FirstNamed loop [loop, derived "Border" (base .linearRing), base .linearRing] .lineString "LINESTRING" :=
    ⟨⟨[base .geometry, base .anything], rfl⟩, by decide, rfl⟩
  have geometry : loop.isGeometry = true := rfl
  obtain ⟨stepped, told⟩ := subclass_named_iff geometry
  obtain ⟨parent, extended, same⟩ := stepped rfl
  cases extended
  obtain ⟨parameters, sent, type⟩ := told _ _ _ first .phoenix none "rivers" course rfl Script.connection script
  exact ⟨rfl, rfl, same.mpr nofun, first, parameters, sent, type.mpr nofun⟩

theorem collection_renamed :
    let parts := derived "Parts" (base .collection)
    let area : Column := ⟨"area", .ofClass parts, true, .null, none⟩
    let script : Script := ⟨⟨[], .null, none⟩, [], [], []⟩
    let recorded := ((Operation.recordColumn none "lakes" area).session .phoenix).run Script.connection script
    parts.isGeometry = true ∧ parts.ownName? = none ∧ parts.parent? = some (base .collection) ∧
      parts.geometryName? = some "GEOMETRY" ∧ (base .collection).geometryName? = some "GEOMETRYCOLLECTION" ∧
      sendings recorded.events = [(Catalog.insert .phoenix none, some [("f_table_schema", .null),
        ("f_table_name", .text "lakes"), ("f_geometry_column", .text "area"), ("coord_dimension", .integer 2),
        ("srid", .integer (-1)), ("type", .text "GEOMETRY")])] := by
  intro parts area script recorded
  exact ⟨rfl, rfl, rfl, rfl, rfl, by decide +kernel⟩

end Class

end FeatureTables
