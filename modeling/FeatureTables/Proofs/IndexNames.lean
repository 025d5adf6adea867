import FeatureTables.Proofs.Effects
import FeatureTables.Proofs.Verbs

namespace FeatureTables

open Session Memory

namespace Index

variable {d : Dialect} {index : String}

theorem present_added (known : Database.qualified table schema? ∈ db.tables) :
    Present schema? table index (db.addIndex (Database.qualified table schema?) added) ↔
      added = index ∨ Present schema? table index db := by
  simp [Present, Database.addIndex, known, or_comm, eq_comm]

-- What a call that made or found an index leaves: the name of its statement is taken, and
-- its own name is that of an index only if the statement spells it so or it was one before.
structure Settled (d : Dialect) (schema? : Option String) (table column : String) (m after : Memory) : Prop where
  clear : ∀ n, after.faults n = none
  known : Database.qualified table schema? ∈ after.database.tables
  used : after.database.Used (written (d.indexName column))
  present : Present schema? table (d.indexName column) after.database ↔
    written (d.indexName column) = d.indexName column ∨ Present schema? table (d.indexName column) m.database

section

variable {schema? : Option String} {table column : String} {m after : Memory}

theorem settled_made (clear : ∀ n, m.faults n = none) (known : Database.qualified table schema? ∈ m.database.tables) :
    Settled d schema? table column m
      (m.next (m.database.addIndex (Database.qualified table schema?) (written (d.indexName column)))) :=
  ⟨clear, known, by simp [Database.Used, Database.addIndex, next], present_added known⟩

theorem settled_found (clear : ∀ n, m.faults n = none) (present : Present schema? table (d.indexName column) m.database)
    (used : m.database.Used (written (d.indexName column))) :
    Settled d schema? table column m (m.next m.database) :=
  ⟨clear, present.1, used, iff_of_true present (.inr present)⟩

theorem not_hit (clear : ∀ n, m.faults n = none) : ¬ m.Hit := not_not.mpr (clear _)

variable (plain : d.Plain) (schema : Schema.Plain schema?) (tabled : Name.Plain table)
  (named : Name.Plain (d.indexName column))

include plain schema tabled named

theorem ends_settled (clear : ∀ n, m.faults n = none) {call : Operation}
    (makes : call = .indexCreateFor schema? table column ∨ call = .indexEnsure schema? table column)
    (returned : ((call.session d).run connection m).result = .ok reply) :
    reply = .name (d.indexName column) ∧
      Settled d schema? table column m ((call.session d).run connection m).state := by
  have keeps : Memory.Keeps (fun _ _ => True) (fun _ => True) (fun result after =>
      ∀ reply, result = .ok reply → reply = .name (d.indexName column) ∧ Settled d schema? table column m after)
      (call.session d) m := by
    rcases makes with rfl | rfl
    · refine keeps_reply (keeps_createFor (read_createSql plain schema tabled named) trivial ?_ ?_)
      · exact fun _ _ _ _ => nofun
      · refine fun _ known _ => ⟨trivial, ?_⟩
        rintro _ ⟨⟩
        exact ⟨rfl, settled_made clear known⟩
    · refine keeps_reply (keeps_ensureFor (read_createSql plain schema tabled named) trivial ?_ ?_ ?_)
      · refine fun _ known _ => ⟨trivial, ?_⟩
        rintro _ ⟨⟩
        exact ⟨rfl, settled_made clear known⟩
      · rintro (hit | unknown | used) present _ ⟨⟩
        · exact absurd hit (not_hit clear)
        · exact absurd present.1 unknown
        · exact ⟨rfl, settled_found clear present used⟩
      · exact fun _ _ _ _ => nofun
  exact (keeps_sound keeps fun _ _ => trivial).2 reply returned

theorem Settled.again (settled : Settled d schema? table column m after) :
    let again := ((Operation.indexEnsure schema? table column).session d).run connection after
    again.state = after.next after.database ∧
      (Present schema? table (d.indexName column) after.database → again.result = .ok (.name (d.indexName column))) ∧
      (¬ Present schema? table (d.indexName column) after.database → ∃ fault, again.result = .error fault) := by
  have keeps : Memory.Keeps (fun _ _ => True) (fun _ => True) (fun result last => last = after.next after.database ∧
      (Present schema? table (d.indexName column) after.database → result = .ok (.name (d.indexName column))) ∧
      (¬ Present schema? table (d.indexName column) after.database → ∃ fault, result = .error fault))
      ((Operation.indexEnsure schema? table column).session d) after := by
    refine keeps_reply (keeps_ensureFor (read_createSql plain schema tabled named) trivial ?_ ?_ ?_)
    · exact fun _ _ free => absurd settled.used free
    · exact fun _ present => ⟨rfl, fun _ => rfl, fun absent => absurd present absent⟩
    · exact fun _ absent fault => ⟨rfl, fun present => absurd present absent, fun _ => ⟨fault, rfl⟩⟩
  exact (keeps_sound keeps fun _ _ => trivial).2

end

theorem run_indexPresent (after : Memory) (index : String) :
    (((Operation.indexPresent schema? table index).session d).run connection after).result =
      .ok (.flag (decide (Present schema? table index after.database))) := by
  have keeps : Memory.Keeps (fun _ _ => True) (fun _ => True) (fun result _ =>
      result = .ok (.flag (decide (Present schema? table index after.database))))
      ((Operation.indexPresent schema? table index).session d) after := keeps_reply (keeps_isPresent trivial rfl)
  exact (keeps_sound keeps fun _ _ => trivial).2

-- The name that a call returns is that of an index, and is returned again, where no verb
-- stands in it. Where one does the index has another name, unless one of this name was
-- there before, and another attempt fails.
theorem returned_present_iff (plain : d.Plain) (suffix : Name.Plain d.indexSuffix) (schema : Schema.Plain schema?)
    (tabled : Name.Plain table) (named : Name.Plain column) {m : Memory} (clear : ∀ n, m.faults n = none)
    {call : Operation}
    (makes : call = .indexCreateFor schema? table column ∨ call = .indexEnsure schema? table column)
    (returned : ((call.session d).run connection m).result = .ok (.name name)) :
    let after := ((call.session d).run connection m).state
    let looked := ((Operation.indexPresent schema? table name).session d).run connection after
    let again := ((Operation.indexEnsure schema? table column).session d).run connection after
    name = column ++ d.indexSuffix ∧ again.state = after.next after.database ∧
      (Verb.Quiet name.toList ∨ Present schema? table name m.database →
        looked.result = .ok (.flag true) ∧ again.result = .ok (.name name)) ∧
      (¬ Verb.Quiet name.toList ∧ ¬ Present schema? table name m.database →
        looked.result = .ok (.flag false) ∧ ∃ fault, again.result = .error fault) := by
  have whole : Name.Plain (d.indexName column) := named.append suffix
  obtain ⟨same, settled⟩ := ends_settled plain schema tabled whole clear makes returned
  obtain ⟨state, kept, refused⟩ := settled.again plain schema tabled whole
  have found := settled.present
  cases Reply.name.inj same
  rw [written_eq_iff whole] at found
  refine ⟨rfl, state, fun either => ?_, fun neither => ?_⟩
  · have present := found.mpr either
    exact ⟨by rw [run_indexPresent, decide_eq_true present], kept present⟩
  · have absent := mt found.mp (not_or.mpr neither)
    exact ⟨by rw [run_indexPresent, decide_eq_false absent], refused absent⟩

theorem returned_present_iff_sample :
    let m : Memory := { Memory.losing [] with database := ⟨["roads"], [], []⟩ }
    let after := (((Operation.indexEnsure none "roads" "geom").session .phoenix).run connection m).state
    let looked := ((Operation.indexPresent none "roads" "geom_idx").session .phoenix).run connection after
    let again := ((Operation.indexEnsure none "roads" "geom").session .phoenix).run connection after
    looked.result = .ok (.flag true) ∧ again.result = .ok (.name "geom_idx") := by
  intro m after looked again
  have schema : Schema.Plain none := nofun
  have quiet : Verb.Quiet "geom_idx".toList := by decide +kernel
  have returned : (((Operation.indexEnsure none "roads" "geom").session .phoenix).run connection m).result =
      .ok (.name "geom_idx") := rfl
  have ended := returned_present_iff Dialect.phoenix_plain (by decide +kernel) schema (by decide +kernel)
    (by decide +kernel) (fun _ => rfl) (.inr rfl) returned
  exact ended.2.2.1 (.inl quiet)

theorem ensured_renamed :
    let m : Memory := { Memory.losing [] with database := ⟨["roads"], [], []⟩ }
    let made := ((Operation.indexCreateFor none "roads" "insert_geom").session .phoenix).run connection m
    let looked := ((Operation.indexPresent none "roads" "insert_geom_idx").session .phoenix).run connection made.state
    let again := ((Operation.indexEnsure none "roads" "insert_geom").session .phoenix).run connection made.state
    made.result = .ok (.name "insert_geom_idx") ∧ made.state.database.indexes = [("roads", "UPSERT_geom_idx")] ∧
      looked.result = .ok (.flag false) ∧ again.result.isOk = false := by
  intro m made looked again
  exact ⟨rfl, by decide +kernel, rfl, by decide +kernel⟩

end Index

end FeatureTables
