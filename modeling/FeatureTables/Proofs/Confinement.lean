import FeatureTables.Proofs.Likeness
import FeatureTables.Proofs.Verbs

namespace FeatureTables

open Session

variable {d : Dialect} {schema? : Option String} {table column : String} {t : FeatureType} {c : Column}
  {one two : Crs.Registry}

namespace Statement

theorem rowless_starting (listed : (word, reader) ∈ starts) (rowless : ∀ text, (reader text).Rowless)
    (begins : word.toList <+: sql.toList) : (read sql).Rowless := by
  obtain ⟨rest, whole⟩ := begins
  have split : sql = word ++ String.ofList rest := by
    rw [← String.toList_inj, String.toList_append, String.toList_ofList, whole]
  rw [split, read_starting word reader listed]
  exact rowless _

theorem rowless_index (phoenix : d.backend = .phoenix) :
    (read (Index.createSql d schema? table index column)).Rowless :=
  have listed : ("CREATE INDEX ", readCreateIndex) ∈ starts := by simp [starts]
  rowless_starting listed (fun _ _ _ => nofun) (Index.createSql_starts phoenix)

theorem rowless_insert (phoenix : d.backend = .phoenix) : (read (Catalog.insert d schema?)).Rowless :=
  have listed : ("UPSERT INTO ", readInsert) ∈ starts := by simp [starts]
  rowless_starting listed (fun _ _ _ => nofun) (Catalog.insert_starts phoenix)

end Statement

namespace Catalog

theorem ensure_registry (registry : Crs.Registry) : ensure { d with registry } schema? = ensure d schema? := by
  have looked : isPresent { d with registry } schema? = isPresent d schema? := by
    refine congrArg (ask (.hasTable d.catalogTable schema?) >>= ·) (funext fun answer => ?_)
    cases answer <;> rfl
  have made : createTable { d with registry } schema? = createTable d schema? := rfl
  simp only [ensure, looked, made]

theorem resolve_alike (crs : Datum) :
    Alike (fun _ _ => True) (resolve { d with registry := one } crs) (resolve { d with registry := two } crs) := by
  obtain first | ⟨message, first⟩ := resolve_exact { d with registry := one } crs
  · obtain second | ⟨text, second⟩ := resolve_exact { d with registry := two } crs
    · rw [first, second]
      exact .done trivial
    · rw [first, second]
      exact .right (.done trivial)
  · obtain second | ⟨text, second⟩ := resolve_exact { d with registry := two } crs
    · rw [first, second]
      exact .left (.done trivial)
    · rw [first, second]
      exact .left (.right (.done trivial))

theorem entry_alike (code other : Datum) :
    (entry schema? table c code).parameters.Alike (entry schema? table c other).parameters := by
  simp [Parameters.Alike, CatalogEntry.parameters, entry]

theorem record_alike (phoenix : d.backend = .phoenix) : Alike (fun _ _ => True)
    (record { d with registry := one } schema? table c) (record { d with registry := two } schema? table c) := by
  refine (resolve_alike c.crs).bind fun code other _ => ?_
  refine (Alike.send (Statement.rowless_insert phoenix) (entry_alike code other)).bind fun _ _ _ => ?_
  exact .done trivial

end Catalog

namespace Index

theorem createGeometryIndexes_registry (registry : Crs.Registry) :
    createGeometryIndexes { d with registry } schema? t = createGeometryIndexes d schema? t := by
  have made : createFor { d with registry } schema? = createFor d schema? := rfl
  simp only [createGeometryIndexes, made]

theorem isPresent_alike : Alike Eq (isPresent schema? table index) (isPresent schema? table index) := by
  refine (Alike.ask (show (Request.indexNames table schema?).Rowless from trivial)).bind fun answer other same => ?_
  subst same
  cases answer with
  | ok names => exact .done rfl
  | error f =>
    dsimp only
    split
    · exact .debug (.done rfl)
    · exact .fail

theorem ensureFor_alike (phoenix : d.backend = .phoenix) :
    Alike Eq (ensureFor d schema? table column) (ensureFor d schema? table column) := by
  have made : Alike Eq (createFor d schema? table column) (createFor d schema? table column) :=
    (Alike.send (Statement.rowless_index phoenix) (.refl _)).bind fun _ _ _ => .done rfl
  refine made.attempt.bind fun answer other same => ?_
  subst same
  cases answer with
  | ok name => exact .done rfl
  | error fault =>
    cases fault with
    | statement purpose sql cause =>
      refine isPresent_alike.bind fun present other same => ?_
      subst same
      cases present with
      | false => exact .fail
      | true => exact .info (.done rfl)
    | _ => exact .fail

end Index

namespace Table

theorem complete_phoenix (phoenix : d.backend = .phoenix) : complete d schema? t = do
    let _ ← Catalog.ensure d schema?
    let _ ← Index.createGeometryIndexes d schema? t
    let _ ← each (Catalog.record d schema? t.typeName) t.geometryColumns
    return () := by
  simp only [complete, phoenix]

theorem complete_registry (phoenix : d.backend = .phoenix) (registry : Crs.Registry) :
    complete { d with registry } schema? t =
      (Catalog.ensure d schema? >>= fun _ => Index.createGeometryIndexes d schema? t) >>= fun _ =>
        each (Catalog.record { d with registry } schema? t.typeName) t.geometryColumns >>= fun _ => pure () := by
  have parts : complete { d with registry } schema? t = _ := complete_phoenix phoenix
  simp only [parts, Catalog.ensure_registry, Index.createGeometryIndexes_registry, bind_assoc]

theorem records_alike (phoenix : d.backend = .phoenix) : Alike Eq
    (each (Catalog.record { d with registry := one } schema? t.typeName) t.geometryColumns >>= fun _ => pure ())
    (each (Catalog.record { d with registry := two } schema? t.typeName) t.geometryColumns >>= fun _ => pure ()) :=
  (Alike.each fun _ _ => Catalog.record_alike phoenix).bind fun _ _ _ => .done rfl

theorem repair_phoenix (phoenix : d.backend = .phoenix) : repair d schema? t = do
    let _ ← Catalog.ensure d schema?
    let names ← missing d schema? t
    let _ ← each (repairColumn d schema? t) names
    return names := by
  simp only [repair, phoenix]

theorem repair_registry (phoenix : d.backend = .phoenix) (registry : Crs.Registry) :
    repair { d with registry } schema? t =
      (Catalog.ensure d schema? >>= fun _ => missing d schema? t) >>= fun names =>
        each (repairColumn { d with registry } schema? t) names >>= fun _ => pure names := by
  have same : missing { d with registry } schema? t = missing d schema? t := rfl
  have parts : repair { d with registry } schema? t = _ := repair_phoenix phoenix
  simp only [parts, Catalog.ensure_registry, same, bind_assoc]

theorem repairColumn_alike (phoenix : d.backend = .phoenix) (name : String) : Alike (fun _ _ => True)
    (repairColumn { d with registry := one } schema? t name)
    (repairColumn { d with registry := two } schema? t name) := by
  have record (c : Column) : Alike (fun _ _ => True)
      (Catalog.record { d with registry := one } schema? t.typeName c >>= fun _ => pure ())
      (Catalog.record { d with registry := two } schema? t.typeName c >>= fun _ => pure ()) :=
    (Catalog.record_alike phoenix).bind fun _ _ _ => .done trivial
  unfold repairColumn
  refine .info ?_
  cases t.column? name with
  | none => exact .done trivial
  | some c =>
    dsimp only
    cases c.nillable with
    | false => exact (Index.ensureFor_alike phoenix).bind fun _ _ _ => record c
    | true => exact record c

end Table

namespace Operation

-- What a registry decides of a call, on connections of either kind, is only which
-- reference systems are stored.
def Confined (d : Dialect) (call : Operation) : Prop :=
  ∀ one two : Crs.Registry,
    (∀ script, Indistinct Script.connection Eq (call.session { d with registry := one })
      (call.session { d with registry := two }) script) ∧
    ∀ m, Indistinct Memory.connection (Memory.Alike m.database.rows) (call.session { d with registry := one })
      (call.session { d with registry := two }) m

theorem confined_parted {call : Operation} (first : Session α) (next : Crs.Registry → α → Session Reply)
    (parts : ∀ registry, call.session { d with registry } = first >>= next registry)
    (alike : ∀ one two value, Alike Eq (next one value) (next two value)) : Confined d call := by
  intro one two
  rw [parts one, parts two]
  constructor
  · exact fun script => indistinct_parted Script.heedless rfl (alike one two)
  · intro m
    refine indistinct_parted Memory.heedless ⟨rfl, rfl, rfl, ?_⟩ (alike one two)
    exact .refl (Memory.run_rows first m)

variable (phoenix : d.backend = .phoenix)

include phoenix

theorem confined_create : Confined d (.createTable t) := by
  refine confined_parted (Session.send (d.createTable t) [] >>= fun _ => Catalog.ensure d t.schema? >>= fun _ =>
    Index.createGeometryIndexes d t.schema? t)
    (fun registry _ => (each (Catalog.record { d with registry } t.schema? t.typeName) t.geometryColumns >>=
      fun _ => pure ()) >>= fun _ => pure .nothing) ?_ ?_
  · intro registry
    have same : ({ d with registry } : Dialect).createTable t = d.createTable t := rfl
    simp only [session, Table.create, Table.complete_registry phoenix, same, bind_assoc]
  · exact fun one two _ => (Table.records_alike phoenix).bind fun _ _ _ => .done rfl

theorem confined_complete : Confined d (.completeTable schema? t) := by
  refine confined_parted (Catalog.ensure d schema? >>= fun _ => Index.createGeometryIndexes d schema? t)
    (fun registry _ => (each (Catalog.record { d with registry } schema? t.typeName) t.geometryColumns >>=
      fun _ => pure ()) >>= fun _ => pure .nothing) ?_ ?_
  · intro registry
    simp only [session, Table.complete_registry phoenix, bind_assoc]
  · exact fun one two _ => (Table.records_alike phoenix).bind fun _ _ _ => .done rfl

theorem confined_repair : Confined d (.repairTable schema? t) := by
  refine confined_parted (Catalog.ensure d schema? >>= fun _ => Table.missing d schema? t)
    (fun registry names => each (Table.repairColumn { d with registry } schema? t) names >>=
      fun _ => pure (.names names)) ?_ ?_
  · intro registry
    simp only [session, Table.repair_registry phoenix, bind_assoc, pure_bind]
  · intro one two names
    exact (Alike.each fun name _ => Table.repairColumn_alike phoenix name).bind fun _ _ _ => .done rfl

theorem registry_confined (schema? : Option String) (t : FeatureType) :
    Confined d (.createTable t) ∧ Confined d (.completeTable schema? t) ∧ Confined d (.repairTable schema? t) :=
  ⟨confined_create phoenix, confined_complete phoenix, confined_repair phoenix⟩

omit phoenix

theorem registry_confined_sample :
    let roads := { FeatureType.sample "roads" "geom" with
      columns := [⟨"geom", .ofClass (.base .point), false, .text "EPSG:4326", none⟩,
        ⟨"area", .ofClass (.base .polygon), true, .text "EPSG:25832", none⟩] }
    let known : Crs.Registry := fun _ => .ok (.integer 4326)
    let failing : Crs.Registry := fun _ => .error ⟨.runtime, "no registry"⟩
    let m := Memory.losing [5]
    Dialect.phoenix.backend = .phoenix ∧ Indistinct Memory.connection (Memory.Alike m.database.rows)
      ((createTable roads).session { Dialect.phoenix with registry := known })
      ((createTable roads).session { Dialect.phoenix with registry := failing }) m := by
  intro roads known failing m
  exact ⟨rfl, ((registry_confined (d := .phoenix) rfl none roads).1 known failing).2 m⟩

end Operation

end FeatureTables
