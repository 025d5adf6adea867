import FeatureTables.Operation.Table
import FeatureTables.Proofs.Replacement

namespace FeatureTables

variable {d : Dialect} {t : FeatureType} {schema? : Option String}

namespace Verb

theorem toUpsert_past (word : List Char) (steady : Text.Steady word) (quiet : Quiet word) :
    word ++ [' '] <+: toUpsert (word ++ [' '] ++ rest) := by
  rw [List.append_assoc, List.singleton_append, toUpsert_beyond rfl (by decide) steady quiet]
  exact ⟨toUpsert rest, by simp⟩

theorem toUpsert_table : "CREATE TABLE ".toList <+: toUpsert ("CREATE TABLE ".toList ++ rest) :=
  toUpsert_past "CREATE TABLE".toList (by decide) (by decide)

theorem toUpsert_index : "CREATE INDEX ".toList <+: toUpsert ("CREATE INDEX ".toList ++ rest) :=
  toUpsert_past "CREATE INDEX".toList (by decide) (by decide)

end Verb

theorem Dialect.qualifiedTable_starts (phoenix : d.backend = .phoenix) {verb kept : List Char}
    (keeps : ∀ rest, kept <+: Verb.toUpsert (verb ++ rest)) (starts : verb <+: sql.toList) :
    kept <+: (d.qualifiedTable schema? table sql).toList := by
  obtain ⟨rest, whole⟩ := starts
  unfold qualifiedTable
  cases schema? with
  | none =>
    simp only [tableName, phoenix, String.toList_append, String.toList_ofList, ← whole]
    exact (keeps rest).trans (List.prefix_append _ _)
  | some schema =>
    simp only [tableName, schemaName, phoenix, String.toList_append, String.toList_ofList, ← whole, List.append_assoc]
    exact (keeps _).trans (List.prefix_append _ _)

theorem Dialect.createTable_starts (phoenix : d.backend = .phoenix) :
    "CREATE TABLE ".toList <+: (d.createTable t).toList := by
  have named : "CREATE TABLE ".toList <+: (d.featureTable t "CREATE TABLE ").toList :=
    d.qualifiedTable_starts phoenix (fun _ => Verb.toUpsert_table) (List.prefix_refl _)
  unfold Dialect.createTable Dialect.tableOptions
  simp only [phoenix]
  split <;> simp only [String.toList_append, List.append_assoc] <;> exact named.trans (List.prefix_append _ _)

theorem Catalog.createTable_starts (phoenix : d.backend = .phoenix) :
    "CREATE TABLE ".toList <+: (Catalog.createTable d schema?).toList := by
  have named : "CREATE TABLE ".toList <+: (Catalog.table d schema? "CREATE TABLE ").toList :=
    d.qualifiedTable_starts phoenix (fun _ => Verb.toUpsert_table) (List.prefix_refl _)
  simp only [Catalog.createTable, String.toList_append, List.append_assoc]
  exact named.trans (List.prefix_append _ _)

theorem Index.createSql_starts (phoenix : d.backend = .phoenix) :
    "CREATE INDEX ".toList <+: (Index.createSql d schema? table index column).toList := by
  have start : "CREATE INDEX ".toList <+: (d.columnName none index "CREATE INDEX " ++ " ON ").toList := by
    simp only [Dialect.columnName, String.toList_append, List.append_assoc]
    exact List.prefix_append _ _
  have named : "CREATE INDEX ".toList <+:
      (d.qualifiedTable schema? table (d.columnName none index "CREATE INDEX " ++ " ON ")).toList :=
    d.qualifiedTable_starts phoenix (fun _ => Verb.toUpsert_index) start
  simp only [Index.createSql, Dialect.columnName, String.toList_append, List.append_assoc] at named ⊢
  exact named.trans (List.prefix_append _ _)

theorem Catalog.insert_starts (phoenix : d.backend = .phoenix) :
    "UPSERT INTO ".toList <+: (Catalog.insert d schema?).toList := by
  have named : "UPSERT INTO ".toList <+: (Catalog.table d schema? "INSERT INTO ").toList := by
    refine d.qualifiedTable_starts phoenix (fun rest => ?_) (List.prefix_refl _)
    have written : "INSERT INTO ".toList ++ rest = Verb.insert ++ (" INTO ".toList ++ rest) := rfl
    rw [written, Verb.toUpsert_insert]
    exact ⟨rest, rfl⟩
  simp only [Catalog.insert, String.toList_append, List.append_assoc]
  exact named.trans (List.prefix_append _ _)

theorem Name.Plain.ascii (plain : Name.Plain name) : Text.Ascii name.toList := fun c member =>
  Text.isPlain_ascii (plain c member)

theorem Name.Plain.append (one : Name.Plain left) (two : Name.Plain right) : Name.Plain (left ++ right) := by
  rw [Name.Plain, String.toList_append, List.forall_mem_append]
  exact ⟨one, two⟩

namespace Index

def written (index : String) : String := String.ofList (Verb.toUpsert index.toList)

def schemaAfter (words : List Char) (schema? : Option String) : Option String :=
  if Verb.Quiet words then schema?.map written else schema?

variable {index : String}

theorem written_quiet (quiet : Verb.Quiet index.toList) : written index = index := by
  rw [written, Verb.toUpsert_quiet quiet, String.ofList_toList]

theorem written_eq_iff (plain : Name.Plain index) : written index = index ↔ Verb.Quiet index.toList := by
  refine ⟨fun same => Verb.quiet_of_fixed plain.ascii.steady ?_, written_quiet⟩
  simpa [written] using congrArg String.toList same

theorem written_plain (plain : Name.Plain index) : Name.Plain (written index) := by
  have verb : Name.Plain "UPSERT" := by decide +kernel
  rw [Name.Plain, written, String.toList_ofList]
  exact Verb.toUpsert_forall verb plain

theorem toList_written : (written index).toList = Verb.toUpsert index.toList := String.toList_ofList

theorem schemaAfter_quiet (quiet : ∀ name ∈ schema?, Verb.Quiet name.toList) : schemaAfter words schema? = schema? := by
  unfold schemaAfter
  split
  · exact (Option.map_congr fun name given => written_quiet (quiet name given)).trans Option.map_id_apply
  · rfl

theorem schemaAfter_plain (schema : ∀ name ∈ schema?, Name.Plain name) :
    ∀ name ∈ schemaAfter words schema?, Name.Plain name := by
  unfold schemaAfter
  split
  · intro _ given
    obtain ⟨name, named, rfl⟩ := Option.map_eq_some_iff.mp given
    exact written_plain (schema name named)
  · exact schema

end Index

-- The verb is replaced once: in the words before a table, or else in its schema.
theorem Dialect.Plain.qualifiedTable_steady (plain : d.Plain) (schema : ∀ name ∈ schema?, Name.Plain name)
    (words : List Char) (steady : Text.Steady words) (spelled : sql.toList = words ++ [' ']) :
    d.qualifiedTable schema? table sql = String.ofList (Verb.toUpsert words ++ [' ']) ++
      Database.qualified table (Index.schemaAfter words schema?) := by
  cases schema? with
  | none =>
    rw [Dialect.qualifiedTable, Dialect.tableName, plain.backend]
    dsimp only
    rw [spelled, Verb.toUpsert_before rfl (by decide) steady Verb.quiet_nil, plain.escaped]
    simp [Database.qualified, Index.schemaAfter]
  | some name =>
    have named := (schema name rfl).ascii.steady
    rw [Dialect.qualifiedTable, Dialect.tableName, plain.backend]
    dsimp only
    rw [plain.schemaName_toList spelled, plain.escaped, ← String.toList_inj]
    by_cases quiet : Verb.Quiet words
    · rw [Verb.toUpsert_beyond rfl (by decide) steady quiet, Verb.toUpsert_before rfl (by decide) named Verb.quiet_nil,
        Verb.toUpsert_quiet quiet]
      simp [Database.qualified, Index.schemaAfter, quiet, Index.toList_written]
    · rw [Verb.toUpsert_within rfl (by decide) steady quiet]
      simp [Database.qualified, Index.schemaAfter, quiet]

namespace Index

def owner (schema? : Option String) (table index : String) : String :=
  Database.qualified table (schemaAfter index.toList schema?)

theorem owner_quiet (schema : Schema.Plain schema?) : owner schema? table index = Database.qualified table schema? := by
  rw [owner, schemaAfter_quiet schema.quiet]

theorem owner_absent (schema : ∀ name ∈ schema?, Name.Plain name) (tabled : Name.Plain table)
    (foreign : Text.isPlain c = false) (other : c ≠ '.') : c ∉ (owner schema? table index).toList :=
  Database.qualified_absent (schemaAfter_plain schema) tabled foreign other

theorem statement_spelled (plain : d.Plain) (schema : ∀ name ∈ schema?, Name.Plain name) (named : Name.Plain index)
    (verb : List Char) (quiet : Verb.Quiet verb) (steady : Text.Steady verb) (starts : start.toList = verb ++ [' ']) :
    d.qualifiedTable schema? table (start ++ index ++ " ON ") =
      start ++ written index ++ " ON " ++ owner schema? table index := by
  have whole : Text.Steady (verb ++ ' ' :: (index.toList ++ ' ' :: "ON".toList)) := by
    rw [Text.steady_append, Text.steady_cons, Text.steady_append]
    exact ⟨steady, by decide, named.ascii.steady, by decide⟩
  have replaced : Verb.toUpsert (verb ++ ' ' :: (index.toList ++ ' ' :: "ON".toList)) =
      verb ++ ' ' :: ((written index).toList ++ ' ' :: "ON".toList) := by
    rw [Verb.toUpsert_beyond rfl (by decide) steady quiet,
      Verb.toUpsert_before rfl (by decide) named.ascii.steady (by decide), toList_written]
  have loud : Verb.Quiet (verb ++ ' ' :: (index.toList ++ ' ' :: "ON".toList)) ↔ Verb.Quiet index.toList := by
    have last : Verb.Quiet "ON".toList := by decide
    simp only [Verb.quiet_blank, quiet, last, true_and, and_true]
  have after : schemaAfter (verb ++ ' ' :: (index.toList ++ ' ' :: "ON".toList)) schema? =
      schemaAfter index.toList schema? := by simp only [schemaAfter, loud]
  rw [plain.qualifiedTable_steady schema _ whole (by simp [starts]), replaced, after, owner, ← String.toList_inj]
  simp [starts]

theorem read_create (plain : d.Plain) (schema : ∀ name ∈ schema?, Name.Plain name) (tabled : Name.Plain table)
    (named : Name.Plain index) : Statement.read (createSql d schema? table index column) =
      .createIndex (written index) (owner schema? table index) := by
  rw [createSql]
  simp only [Dialect.columnName, plain.escaped]
  rw [statement_spelled plain schema named "CREATE INDEX".toList (by decide) (by decide) rfl]
  simp only [String.append_assoc]
  exact Statement.read_createIndex ((written_plain named).absent rfl) (owner_absent schema tabled rfl (by decide))

theorem read_createSql (plain : d.Plain) (schema : Schema.Plain schema?) (tabled : Name.Plain table)
    (named : Name.Plain index) : Statement.read (createSql d schema? table index column) =
      .createIndex (written index) (Database.qualified table schema?) := by
  rw [read_create plain schema.name tabled named, owner_quiet schema]

end Index

theorem Dialect.Plain.read_index {name : String} (plain : d.Plain) (named : Index.Named d schema? table name) :
    Statement.read (Index.createSql d schema? table (d.indexName name) name) =
      .createIndex (d.indexName name) (Database.qualified table schema?) := by
  rw [Index.read_createSql plain named.schema named.table named.index, Index.written_quiet named.quiet]

end FeatureTables
