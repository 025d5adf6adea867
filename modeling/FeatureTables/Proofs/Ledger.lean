import FeatureTables.Operation
import FeatureTables.Proofs.Rows

namespace FeatureTables

open Session Memory

structure Ledger where
  catalogs : List (Option String)
  records : List CatalogEntry
  owned : ∀ e ∈ records, e.schema? ∈ catalogs

namespace Ledger

def empty : Ledger := ⟨[], [], nofun⟩

-- A registry need not answer the same each time a column is recorded.
inductive Use where
  | ensure (schema? : Option String)
  | record (registry : Crs.Registry) (schema? : Option String) (table : String) (c : Column)
  | srid (schema? : Option String) (table column : String)
  | rows (schema? : Option String) (table : String)

namespace Use

def schema? : Use → Option String
  | ensure schema? | record _ schema? _ _ | srid schema? _ _ | rows schema? _ => schema?

def session (d : Dialect) : Use → Session Reply
  | ensure schema? => (Operation.ensureCatalog schema?).session d
  | record registry schema? table c => (Operation.recordColumn schema? table c).session { d with registry }
  | srid schema? table column => (Operation.catalogSrid schema? table (some column)).session d
  | rows schema? table => (Operation.catalogRows schema? table).session d

end Use

def resolved (registry : Crs.Registry) (crs : Datum) : Datum :=
  match crs with
  | .null => .integer (-1)
  | crs =>
    match registry crs with
    | .ok .null | .error _ => .integer (-1)
    | .ok code => code

def entry (registry : Crs.Registry) (schema? : Option String) (table : String) (c : Column) : CatalogEntry :=
  ⟨schema?, table, c.name, resolved registry c.crs, c.binding.geometryName?.getD "GEOMETRY"⟩

def add (l : Ledger) (schema? : Option String) : Ledger where
  catalogs := l.catalogs ++ [schema?]
  records := l.records
  owned := fun e member => List.mem_append_left _ (l.owned e member)

def put (l : Ledger) (e : CatalogEntry) (known : e.schema? ∈ l.catalogs) : Ledger where
  catalogs := l.catalogs
  records := l.records ++ [e]
  owned := by
    intro other member
    rcases List.mem_append.mp member with before | last
    · exact l.owned other before
    · exact List.mem_singleton.mp last ▸ known

def recordsOf (l : Ledger) (schema? : Option String) (table : String) : List CatalogEntry :=
  l.records.filter fun e => e.schema? = schema? ∧ e.table = table

def sridOf (l : Ledger) (schema? : Option String) (table column : String) : Datum :=
  match (l.recordsOf schema? table).find? (·.column = column) with
  | some first => first.srid
  | none => .null

def refusal (d : Dialect) (schema? : Option String) : Fault :=
  .statement .execution (Catalog.insert d schema?) ⟨.database, "no such table: " ++ Catalog.qualified d schema?⟩

def answer (d : Dialect) (l : Ledger) : Use → Except Fault Reply × Ledger
  | .ensure schema? =>
    if schema? ∈ l.catalogs then (.ok (.flag false), l) else (.ok (.flag true), l.add schema?)
  | .record registry schema? table c =>
    let e := entry registry schema? table c
    if known : e.schema? ∈ l.catalogs then (.ok (.row e.row), l.put e known)
    else (.error (refusal d schema?), l)
  | .srid schema? table column => (.ok (.cell (.datum (l.sridOf schema? table column))), l)
  | .rows schema? table => (.ok (.rows ((l.recordsOf schema? table).map CatalogEntry.row)), l)

def answers (d : Dialect) (l : Ledger) : List Use → List (Except Fault Reply) × Ledger
  | [] => ([], l)
  | use :: rest =>
    let first := l.answer d use
    let others := first.2.answers d rest
    (first.1 :: others.1, others.2)

def database (d : Dialect) (l : Ledger) : Database where
  tables := l.catalogs.map (Catalog.qualified d)
  indexes := []
  rows := l.records.map fun e => (Catalog.qualified d e.schema?, e.parameters)

-- A memory that holds the catalogs of a ledger and nothing else.
structure Keeping (d : Dialect) (l : Ledger) (m : Memory) : Prop where
  schemas : ∀ schema? ∈ l.catalogs, Schema.Plain schema?
  clear : ∀ n, m.faults n = none
  held : m.database = l.database d

variable {d : Dialect} {l : Ledger} {schema? : Option String} {table : String} {c : Column} {m : Memory}

theorem Keeping.present_iff (plain : d.Plain) (schema : Schema.Plain schema?) (keeping : Keeping d l m) :
    Catalog.qualified d schema? ∈ m.database.tables ↔ schema? ∈ l.catalogs := by
  rw [keeping.held]
  constructor
  · intro present
    obtain ⟨other, known, same⟩ := List.mem_map.mp present
    have names := Database.qualified_inj (keeping.schemas other known).name plain.catalog schema.name
      plain.catalog same
    exact names.2 ▸ known
  · exact List.mem_map_of_mem

theorem Keeping.rowsOf (plain : d.Plain) (keeping : Keeping d l m) :
    Catalog.rowsOf d schema? table m.database = (l.recordsOf schema? table).map CatalogEntry.parameters := by
  rw [keeping.held]
  unfold Catalog.rowsOf database recordsOf
  rw [List.filter_map, List.map_map]
  refine congrArg (List.map _) (List.filter_congr ?_)
  intro e member
  have schema : Schema.Plain e.schema? := keeping.schemas _ (l.owned e member)
  rw [Function.comp_apply, decide_eq_decide, Catalog.describes_entry plain schema]
  exact and_congr eq_comm eq_comm

theorem recordsOf_absent (absent : schema? ∉ l.catalogs) : l.recordsOf schema? table = [] := by
  unfold recordsOf
  refine List.filter_eq_nil_iff.mpr ?_
  intro e member
  have other : e.schema? ≠ schema? := by
    rintro rfl
    exact absent (l.owned e member)
  simp [other]

theorem Keeping.absent (plain : d.Plain) (schema : Schema.Plain schema?) (keeping : Keeping d l m)
    (unread : m.Hit ∨ Catalog.qualified d schema? ∉ m.database.tables) : schema? ∉ l.catalogs :=
  mt (keeping.present_iff plain schema).mpr (unread.resolve_left (not_not.mpr (keeping.clear _)))

theorem resolved_code (registry : Crs.Registry) (crs : Datum) :
    resolved registry crs =
      if Catalog.code { d with registry } crs = .null then .integer unknownSrid
      else Catalog.code { d with registry } crs := by
  unfold resolved Catalog.code
  cases crs with
  | null => rfl
  | _ =>
    simp only [reduceCtorEq, if_false]
    split <;> simp_all [unknownSrid]

theorem entry_described (registry : Crs.Registry) :
    entry registry schema? table c = Catalog.described { d with registry } schema? table c := by
  unfold entry Catalog.described Catalog.entry
  rw [resolved_code]

def Agrees (d : Dialect) (l : Ledger) (use : Use) (result : Except Fault Reply) (after : Memory) : Prop :=
  result = (l.answer d use).1 ∧ Keeping d (l.answer d use).2 after

theorem agrees_answer {later : Ledger} (told : l.answer d use = (result, later)) (keeping : Keeping d later after) :
    Agrees d l use result after := by
  unfold Agrees
  rw [told]
  exact ⟨rfl, keeping⟩

theorem Keeping.next (keeping : Keeping d l m) : Keeping d l (m.next m.database) :=
  ⟨keeping.schemas, keeping.clear, keeping.held⟩

theorem Keeping.add (schema : Schema.Plain schema?) (keeping : Keeping d l m) :
    Keeping d (l.add schema?) (m.next (m.database.addTable (Catalog.qualified d schema?))) where
  schemas := by
    intro other member
    rcases List.mem_append.mp member with before | last
    · exact keeping.schemas other before
    · exact List.mem_singleton.mp last ▸ schema
  clear := keeping.clear
  held := by simp [Memory.next, keeping.held, Database.addTable, database, Ledger.add]

theorem Keeping.put {e : CatalogEntry} (known : e.schema? ∈ l.catalogs) (keeping : Keeping d l m) :
    Keeping d (l.put e known) (m.next (m.database.addRow (Catalog.qualified d e.schema?, e.parameters))) where
  schemas := keeping.schemas
  clear := keeping.clear
  held := by simp [Memory.next, keeping.held, Database.addRow, database, Ledger.put]

theorem keeps_ensure (plain : d.Plain) (schema : Schema.Plain schema?) (keeping : Keeping d l m) :
    Memory.Keeps (fun _ _ => True) (fun _ => True) (Agrees d l (.ensure schema?))
      ((Use.ensure schema?).session d) m := by
  have present := keeping.present_iff plain schema
  refine keeps_then (Catalog.keeps_ensure plain schema trivial ?_ ?_ ?_)
  · intro known
    have told : l.answer d (.ensure schema?) = (.ok (.flag false), l) := if_pos (present.mp known)
    exact ⟨trivial, agrees_answer told keeping⟩
  · intro absent _
    have told : l.answer d (.ensure schema?) = (.ok (.flag true), l.add schema?) :=
      if_neg (mt present.mpr absent)
    exact ⟨trivial, trivial, agrees_answer told (keeping.add schema)⟩
  · exact fun _ hit => absurd (keeping.clear _) hit

theorem keeps_written {ended : Except Fault CatalogEntry → Memory → Prop} (plain : d.Plain)
    (schema : Schema.Plain schema?) (clear : ¬ m.Hit)
    (refused : Catalog.qualified d schema? ∉ m.database.tables → ended (.error (refusal d schema?)) (m.next m.database))
    (written : Catalog.qualified d schema? ∈ m.database.tables →
      ended (.ok (Catalog.described d schema? table c)) (m.next (m.database.addRow
        (Catalog.qualified d schema?, (Catalog.described d schema? table c).parameters)))) :
    Memory.Keeps (fun _ _ => True) (fun _ => True) ended (Catalog.record d schema? table c) m := by
  unfold Catalog.record
  refine Catalog.keeps_resolve_bind (keeps_then (keeps_send (plain.read_insert schema) trivial ?_ ?_))
  · intro message cause
    obtain ⟨absent, rfl⟩ := Database.insert_refused (cause.resolve_left clear)
    exact refused absent
  · intro db _ _ applied
    obtain ⟨known, rfl⟩ := Database.insert_accepted applied
    exact ⟨trivial, trivial, written known⟩

theorem keeps_record (plain : d.Plain) (schema : Schema.Plain schema?) (keeping : Keeping d l m) :
    Memory.Keeps (fun _ _ => True) (fun _ => True) (Agrees d l (.record registry schema? table c))
      ((Use.record registry schema? table c).session d) m := by
  have present := keeping.present_iff plain schema
  have spelled : Dialect.Plain { d with registry } := ⟨plain.backend, plain.quote, plain.catalog⟩
  refine keeps_then (keeps_written spelled schema (not_not.mpr (keeping.clear _)) ?_ ?_)
  · intro absent
    have told : l.answer d (.record registry schema? table c) = (.error (refusal d schema?), l) :=
      dif_neg (mt present.mpr absent)
    exact agrees_answer told keeping.next
  · intro known
    have told : l.answer d (.record registry schema? table c) =
        (.ok (.row (entry registry schema? table c).row),
          l.put (entry registry schema? table c) (present.mp known)) := dif_pos (present.mp known)
    rw [← entry_described]
    exact ⟨trivial, agrees_answer told (keeping.put (present.mp known))⟩

theorem keeps_srid (plain : d.Plain) (schema : Schema.Plain schema?) (keeping : Keeping d l m) :
    Memory.Keeps (fun _ _ => True) (fun _ => True) (Agrees d l (.srid schema? table column))
      ((Use.srid schema? table column).session d) m := by
  refine keeps_then (Catalog.keeps_srid plain schema trivial ?_ ?_)
  · intro unread
    have told : l.answer d (.srid schema? table column) = (.ok (.cell .null), l) := by
      rw [answer, sridOf, recordsOf_absent (keeping.absent plain schema unread)]
      rfl
    exact ⟨trivial, agrees_answer told keeping.next⟩
  · intro _ _
    have named (e : CatalogEntry) : e.parameters.read "f_geometry_column" = .text column ↔ e.column = column :=
      Datum.text.injEq _ _ ▸ Iff.rfl
    have first : Catalog.firstSrid (some column) (Catalog.rowsOf d schema? table m.database) =
        .datum (l.sridOf schema? table column) := by
      rw [keeping.rowsOf plain, Catalog.firstSrid, List.find?_map, sridOf]
      simp only [Function.comp_def, Option.all_some, named]
      cases (l.recordsOf schema? table).find? (·.column = column) <;> rfl
    rw [first]
    exact ⟨trivial, agrees_answer rfl keeping.next⟩

theorem keeps_rows (plain : d.Plain) (schema : Schema.Plain schema?) (keeping : Keeping d l m) :
    Memory.Keeps (fun _ _ => True) (fun _ => True) (Agrees d l (.rows schema? table))
      ((Use.rows schema? table).session d) m := by
  refine keeps_then (Catalog.keeps_rows plain schema trivial ?_ ?_)
  · intro _ unread
    have told : l.answer d (.rows schema? table) = (.ok (.rows []), l) := by
      rw [answer, recordsOf_absent (keeping.absent plain schema unread)]
      rfl
    exact ⟨trivial, agrees_answer told keeping.next⟩
  · intro _ _
    have read : (Catalog.rowsOf d schema? table m.database).map Catalog.readBack =
        (l.recordsOf schema? table).map CatalogEntry.row := by
      rw [keeping.rowsOf plain, List.map_map]
      rfl
    rw [read]
    exact ⟨trivial, agrees_answer rfl keeping.next⟩

theorem keeps_use {use : Use} (plain : d.Plain) (schema : Schema.Plain use.schema?) (keeping : Keeping d l m) :
    Memory.Keeps (fun _ _ => True) (fun _ => True) (Agrees d l use) (use.session d) m := by
  cases use with
  | ensure => exact keeps_ensure plain schema keeping
  | record => exact keeps_record plain schema keeping
  | srid => exact keeps_srid plain schema keeping
  | rows => exact keeps_rows plain schema keeping

theorem keeps_uses {uses : List Use} (plain : d.Plain) (schemas : ∀ use ∈ uses, Schema.Plain use.schema?)
    (keeping : Keeping d l m) :
    Memory.Keeps (fun _ _ => True) (fun _ => True)
      (fun result after => result = .ok (l.answers d uses).1 ∧ Keeping d (l.answers d uses).2 after)
      (each (fun use => (use.session d).attempt) uses) m := by
  induction uses generalizing l m with
  | nil => exact ⟨trivial, rfl, keeping⟩
  | cons use rest ih =>
    refine keeps_then (keeps_attempt ((keeps_use plain (schemas use List.mem_cons_self) keeping).imp ?_))
    intro result after _ agrees
    obtain ⟨told, kept⟩ := agrees
    have others := ih (fun other member => schemas other (List.mem_cons_of_mem _ member)) kept
    refine keeps_then (others.imp ?_)
    intro results last _ ended
    obtain ⟨answered, final⟩ := ended
    subst told answered
    exact ⟨trivial, rfl, final⟩

-- Whatever its users do, they can not tell a catalog from the ledger.
theorem uses_answered (plain : d.Plain) (uses : List Use) (schemas : ∀ use ∈ uses, Schema.Plain use.schema?)
    (clear : ∀ n, m.faults n = none) (start : m.database = ⟨[], [], []⟩) :
    let outcome := (each (fun use => (use.session d).attempt) uses).run Memory.connection m
    outcome.result = .ok (empty.answers d uses).1 ∧
      outcome.state.database = (empty.answers d uses).2.database d := by
  intro outcome
  have keeping : Keeping d empty m := ⟨fun _ member => absurd member List.not_mem_nil, clear, start⟩
  obtain ⟨answered, final⟩ := (keeps_sound (keeps_uses plain schemas keeping) fun _ _ => trivial).2
  exact ⟨answered, final.held⟩

theorem uses_answered_sample :
    let geom : Column := ⟨"geom", .ofClass (.base .point), false, .integer 4326, none⟩
    let uses : List Use := [.record .standard none "roads" geom, .ensure none, .ensure none,
      .record (fun _ => .error ⟨.runtime, "registry is down"⟩) none "roads" geom,
      .record .standard none "roads" geom, .srid none "roads" "geom", .srid (some "s") "roads" "geom",
      .rows none "roads"]
    let outcome := (each (fun use => (use.session .phoenix).attempt) uses).run Memory.connection (.losing [])
    let row (srid : Int) : CatalogRow := ⟨.null, .datum (.text "roads"), .datum (.text "geom"),
      .datum (.integer 2), .datum (.integer srid), .datum (.text "POINT")⟩
    outcome.result = .ok [.error (refusal .phoenix none), .ok (.flag true), .ok (.flag false), .ok (.row (row (-1))),
      .ok (.row (row 4326)), .ok (.cell (.datum (.integer (-1)))), .ok (.cell .null),
      .ok (.rows [row (-1), row 4326])] := by
  intro geom uses outcome row
  have schemas : ∀ use ∈ uses, Schema.Plain use.schema? := by
    have named : Schema.Plain (some "s") := by
      rintro _ ⟨⟩
      exact ⟨by decide +kernel, by decide +kernel⟩
    simp only [uses, List.forall_mem_cons, Use.schema?]
    exact ⟨nofun, nofun, nofun, nofun, nofun, nofun, named, nofun, nofun⟩
  exact (uses_answered Dialect.phoenix_plain uses schemas (fun _ => rfl) rfl).1.trans rfl

end Ledger

end FeatureTables
