import FeatureTables.Proofs.Bootstrap
import Mathlib.Data.List.Nodup

namespace FeatureTables

open Session

def client (d : Dialect) (calls : List Operation) : Session (List (Except Fault Reply)) :=
  each (fun call => (call.session d).attempt) calls

namespace Table

def Bootstraps (family : List FeatureType) (call : Operation) : Prop :=
  ∃ t ∈ family, call = .createTable t ∨ call = .repairTable t.schema? t

def Indexed (d : Dialect) (family : List FeatureType) (db : Database) : Prop :=
  ∀ t ∈ family, ∀ c ∈ t.indexedColumns, Catalog.Recorded d t.schema? t.typeName c.name db →
    Index.Present t.schema? t.typeName (d.indexName c.name) db

variable {d : Dialect} {family : List FeatureType} {t : FeatureType} {db : Database} {m : Memory}

namespace Indexed

theorem addTable (indexed : Indexed d family db) : Indexed d family (db.addTable added) :=
  fun t member c needed recorded => present_addTable (indexed t member c needed recorded)

theorem addIndex (indexed : Indexed d family db) : Indexed d family (db.addIndex owner added) :=
  fun t member c needed recorded => present_addIndex (indexed t member c needed recorded)

theorem addRow (plain : d.Plain) (typed : ∀ t ∈ family, t.Plain d)
    (apart : (family.map FeatureType.qualified).Nodup) (member : t ∈ family) (listed : c ∈ t.columns)
    (indexed : Indexed d family db)
    (present : c.isIndexed → Index.Present t.schema? t.typeName (d.indexName c.name) db) :
    Indexed d family (db.addRow (Catalog.row d t c)) := by
  intro other among column needed recorded
  obtain ⟨row, written, described, named⟩ := recorded
  rcases List.mem_append.mp written with before | last
  · exact indexed other among column needed ⟨row, before, described, named⟩
  · cases List.mem_singleton.mp last
    obtain ⟨schema, name⟩ := (Catalog.describes_row plain (typed t member)).mp described
    have same : other = t := by
      refine List.inj_on_of_nodup_map apart among member ?_
      simp only [FeatureType.qualified, schema, name]
    subst same
    have called : c.name = column.name := Datum.text.inj named
    cases List.inj_on_of_nodup_map (typed other among).distinct listed (List.mem_of_mem_filter needed) called
    exact present (List.mem_filter.mp needed).2

end Indexed

theorem lasting_indexed (plain : d.Plain) (typed : ∀ t ∈ family, t.Plain d)
    (apart : (family.map FeatureType.qualified).Nodup) (member : t ∈ family) :
    Lasting d t (Indexed d family) where
  table := fun indexed => indexed.addTable
  catalog := fun indexed => indexed.addTable
  index := fun _ indexed => indexed.addIndex
  row := fun listed indexed present =>
    indexed.addRow plain typed apart member (List.mem_of_mem_filter listed) present

theorem keeps_indexed (plain : d.Plain) (typed : ∀ t ∈ family, t.Plain d)
    (apart : (family.map FeatureType.qualified).Nodup) (call : Operation) (bootstraps : Bootstraps family call)
    (indexed : Indexed d family m.database) :
    Memory.Keeps (fun _ _ => True) (Indexed d family) (fun _ _ => True) (call.session d) m := by
  obtain ⟨t, member, called⟩ := bootstraps
  exact keeps_lasting plain (typed t member) (lasting_indexed plain typed apart member) called indexed

-- A repair makes indexes only for columns without a row; this is why it leaves none out.
theorem recorded_indexed (plain : d.Plain) (typed : ∀ t ∈ family, t.Plain d)
    (apart : (family.map FeatureType.qualified).Nodup) (fresh : ∀ t ∈ family, Fresh d t m.database)
    (calls : List Operation) (bootstraps : ∀ call ∈ calls, Bootstraps family call) :
    ∀ passed ∈ (client d calls).states Memory.connection m, Indexed d family passed.database := by
  have start : Indexed d family m.database := by
    intro t member c _ recorded
    obtain ⟨row, written, described, _⟩ := recorded
    exact absurd described (fresh t member row written)
  have whole : Memory.Keeps (fun _ _ => True) (Indexed d family) (fun _ _ => True) (client d calls) m := by
    refine keeps_each (fun _ m => Indexed d family m.database) ?_ (fun _ _ held => ⟨held, trivial⟩) start
    intro done call rest split m held
    refine keeps_attempt ((keeps_indexed plain typed apart call (bootstraps call ?_) held).imp ?_)
    · simp [split]
    · exact fun _ _ here _ => here
  exact (keeps_sound whole fun _ _ => trivial).1

theorem recorded_indexed_sample :
    let roads := FeatureType.sample "roads" "geom"
    let rivers := FeatureType.sample "rivers" "course"
    ∀ passed ∈ (client .phoenix [.createTable roads, .createTable rivers, .repairTable none roads]).states
      Memory.connection (.losing [3, 7]), Indexed .phoenix [roads, rivers] passed.database := by
  intro roads rivers
  refine recorded_indexed Dialect.phoenix_plain ?_ (by decide) (by decide) _ ?_
  · simp [roads, rivers, FeatureType.roads_plain, FeatureType.rivers_plain]
  · intro call member
    simp only [List.mem_cons, List.not_mem_nil, or_false] at member
    rcases member with rfl | rfl | rfl
    · exact ⟨roads, by simp, .inl rfl⟩
    · exact ⟨rivers, by simp, .inl rfl⟩
    · exact ⟨roads, by simp, .inr rfl⟩

end Table

end FeatureTables
