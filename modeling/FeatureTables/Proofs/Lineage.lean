import FeatureTables.Proofs.Plan

namespace FeatureTables

open Session

namespace Class

variable {b parent : Class} {label : String} {k : BaseClass} {code : TypeCode}

def Nearest (b : Class) (k : BaseClass) (code : TypeCode) : Prop :=
  ∃ below above, b.ancestors = below ++ base k :: above ∧ (∀ c ∈ below, c.registered? = none) ∧
    (base k).registered? = some code

theorem code?_eq_some_iff : b.code? = some code ↔ ∃ k, Nearest b k code := by
  unfold code? Nearest
  rw [List.findSome?_eq_some_iff]
  constructor
  · intro found
    obtain ⟨below, c, above, line, registered, without⟩ := found
    cases c with
    | base k => exact ⟨k, below, above, line, without, registered⟩
    | derived => cases registered
  · intro nearest
    obtain ⟨k, below, above, line, without, registered⟩ := nearest
    exact ⟨below, base k, above, line, registered, without⟩

theorem code?_eq_none_iff : b.code? = none ↔ ∀ c ∈ b.ancestors, c.registered? = none :=
  List.findSome?_eq_none_iff

theorem Nearest.ancestor (nearest : Nearest b k code) : base k ∈ b.ancestors := by
  obtain ⟨below, above, line, _⟩ := nearest
  rw [line]
  exact List.mem_append_right _ List.mem_cons_self

theorem registered_class? (registered : (base k).registered? = some code) : code.class? = .ok (some k) := by
  cases k <;> cases registered <;> rfl

theorem registered_code? (registered : (base k).registered? = some code) : (base k).code? = some code := by
  cases k <;> cases registered <;> rfl

theorem registered_sqlName {type : SqlType} (registered : (base k).registered? = some (.sql type)) :
    classForName (.text type.name) = .ok (some k) := by
  cases k <;> cases registered <;> rfl

theorem registered_geometryName {type : GeometryType} (registered : (base k).registered? = some (.geometry type)) :
    classForName (.text type.name) = .ok (some k) := by
  cases k <;> cases registered <;> rfl

theorem registered_value {v : Datum} : (base k).registered? ≠ some (.value v) := by
  cases k <;> exact nofun

theorem Nearest.registered (nearest : Nearest b k code) : (base k).registered? = some code := by
  obtain ⟨_, _, _, _, registered⟩ := nearest
  exact registered

-- A derived class is in no table, so each search goes on with its parent.
theorem code?_derived : (derived label parent).code? = parent.code? := rfl

theorem storage_derived : (derived label parent).storage = parent.storage := rfl

theorem isGeometry_derived : (derived label parent).isGeometry = parent.isGeometry := descendsFrom_derived

-- The two searches along the line agree: what is stored is what the code says, and text
-- where there is no code of a column type.
theorem storage_code? (b : Class) : b.storage =
    match b.code? with
    | some (.sql type) => type
    | _ => .varchar := by
  induction b with
  | base k => cases k <;> rfl
  | derived label parent ih => rw [storage_derived, code?_derived, ih]

theorem isGeometry_code? (b : Class) : b.isGeometry =
    match b.code? with
    | some (.geometry _) => true
    | _ => false := by
  induction b with
  | base k => cases k <;> rfl
  | derived label parent ih => rw [isGeometry_derived, code?_derived, ih]

end Class

def SqlType.sized (type : SqlType) (length? : Option Int) : String :=
  match length? with
  | some length => if type = .varchar ∧ length ≠ 0 then type.name ++ "(" ++ toString length ++ ")" else type.name
  | none => type.name

theorem Dialect.columnType_sized {d : Dialect} {c : Column} {b : Class} (bound : c.binding = .ofClass b)
    (plain : b.isGeometry = false) : d.columnType c = b.storage.sized c.length? := by
  have other : c.isGeometry = false := by
    rw [Column.isGeometry, bound]
    exact plain
  unfold columnType storageSql
  rw [other, bound]
  simp only [Bool.false_eq_true, if_false, Binding.storage]
  generalize b.storage = type
  cases c.length? with
  | none => cases type <;> rfl
  | some length =>
    by_cases zero : length = 0
    · subst zero
      cases type <;> rfl
    · cases type <;> simp [SqlType.sized, zero]

namespace Class

variable {b : Class} {k : BaseClass}

structure StoredAs (b : Class) (type : SqlType) (k : BaseClass) : Prop where
  source : b.code? = none ∧ type = .varchar ∧ k = .text ∨ Nearest b k (.sql type)
  column : ∀ d c, c.binding = .ofClass b → Dialect.columnType d c = type.sized c.length?
  named : classForName (.text type.name) = .ok (some k)

theorem storedAs (plain : b.isGeometry = false) : ∃ type k, StoredAs b type k := by
  have column (d : Dialect) (c : Column) (bound : c.binding = .ofClass b) :
      d.columnType c = b.storage.sized c.length? := Dialect.columnType_sized bound plain
  rw [isGeometry_code?] at plain
  have stored := storage_code? b
  cases found : b.code? with
  | none =>
    rw [found] at stored
    rw [stored] at column
    exact ⟨.varchar, .text, .inl ⟨found, rfl, rfl⟩, column, rfl⟩
  | some code =>
    obtain ⟨k, nearest⟩ := code?_eq_some_iff.mp found
    rw [found] at plain stored
    cases code with
    | geometry type => cases plain
    | sql type =>
      rw [stored] at column
      exact ⟨type, k, .inr nearest, column, registered_sqlName nearest.registered⟩
    | value v => exact absurd nearest.registered registered_value

theorem ownName_class {name : String} (own : b.ownName? = some name) :
    ∃ k, b = base k ∧ classForName (.text name) = .ok (some k) := by
  cases b with
  | base k => exact ⟨k, rfl, by cases k <;> cases own <;> rfl⟩
  | derived => cases own

theorem geometryName?_class (geometry : b.isGeometry = true) :
    ∃ name k, b.geometryName? = some name ∧ classForName (.text name) = .ok (some k) ∧ base k ∈ b.ancestors := by
  unfold geometryName?
  rw [if_pos geometry]
  cases own : b.ownName? with
  | some name =>
    obtain ⟨k, rfl, named⟩ := ownName_class own
    exact ⟨name, k, rfl, named, by cases k <;> exact List.mem_cons_self⟩
  | none =>
    rw [isGeometry_code?] at geometry
    cases found : b.code? with
    | none => rw [found] at geometry; cases geometry
    | some code =>
      obtain ⟨k, nearest⟩ := code?_eq_some_iff.mp found
      rw [found] at geometry
      cases code with
      | geometry type => exact ⟨type.name, k, rfl, registered_geometryName nearest.registered, nearest.ancestor⟩
      | sql | value => cases geometry

theorem named_short {name : String} (named : classForName (.text name) = .ok (some k)) : name.length ≤ 32 := by
  obtain ⟨before, after, listed, _⟩ := List.lookup_eq_some_iff.mp (Except.ok.inj named)
  have short : ∀ pair ∈ Mapping.nameClasses, pair.1.length ≤ 32 := by decide
  exact short (name, k) (by rw [listed]; simp)

end Class

namespace Catalog

variable {d : Dialect} {schema? : Option String} {table : String} {c : Column}

theorem recordColumn_sendings {State : Type} (connection : Connection State) (state : State) :
    sendings (((Operation.recordColumn schema? table c).session d).run connection state).events =
      [(insert d schema?, some (described d schema? table c).parameters)] := by
  have path := run_path connection ((Operation.recordColumn schema? table c).session d) state
  rcases path.bind_parts with ⟨fault, failed, _⟩ | ⟨value, earlier, later, sent, last, whole⟩
  · exact record_sendings failed
  · obtain ⟨rfl, _⟩ := last.done_parts
    rw [List.append_nil] at whole
    exact (congrArg sendings whole).trans (record_sendings sent)

theorem described_type (bound : c.binding = .ofClass b) :
    (described d schema? table c).parameters.read "type" = .text (b.geometryName?.getD "GEOMETRY") := by
  have type : (described d schema? table c).parameters.read "type" =
      .text (c.binding.geometryName?.getD "GEOMETRY") := rfl
  rw [type, bound]
  rfl

end Catalog

namespace Class

variable {b : Class} {k : BaseClass}

structure RecordedAs (b : Class) (name : String) (k : BaseClass) : Prop where
  named : classForName (.text name) = .ok (some k)
  ancestor : base k ∈ b.ancestors
  short : name.length ≤ 32
  sent : ∀ d schema? table c, c.binding = .ofClass b → ∀ {State} (connection : Connection State) state,
    let recorded := ((Operation.recordColumn schema? table c).session d).run connection state
    ∃ parameters, sendings recorded.events = [(Catalog.insert d schema?, some parameters)] ∧
      parameters.read "type" = .text name

theorem recordedAs (geometry : b.isGeometry = true) : ∃ name k, RecordedAs b name k := by
  obtain ⟨name, k, own, named, ancestor⟩ := geometryName?_class geometry
  refine ⟨name, k, named, ancestor, named_short named, ?_⟩
  intro d schema? table c bound State connection state recorded
  refine ⟨_, Catalog.recordColumn_sendings connection state, ?_⟩
  rw [Catalog.described_type bound, own]
  rfl

theorem mappings_agree (b : Class) :
    (b.code? = none ∧ (∀ c ∈ b.ancestors, c.registered? = none) ∨
      ∃ k code, b.code? = some code ∧ Nearest b k code ∧ code.class? = .ok (some k) ∧
        (base k).code? = some code) ∧
      if b.isGeometry then ∃ name k, RecordedAs b name k else ∃ type k, StoredAs b type k := by
  constructor
  · cases found : b.code? with
    | none => exact .inl ⟨rfl, code?_eq_none_iff.mp found⟩
    | some code =>
      obtain ⟨k, nearest⟩ := code?_eq_some_iff.mp found
      exact .inr ⟨k, code, rfl, nearest, registered_class? nearest.registered, registered_code? nearest.registered⟩
  · cases geometry : b.isGeometry with
    | true => exact recordedAs geometry
    | false => exact storedAs geometry

example (label : String) : (derived label (base .linearRing)).code? = some (.geometry .lineString) ∧
    (derived label (base .linearRing)).geometryName? = some "LINESTRING" := ⟨rfl, rfl⟩

end Class

end FeatureTables
