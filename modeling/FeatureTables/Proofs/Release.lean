import FeatureTables.Proofs.Paths

namespace FeatureTables

variable {events earlier later : List Event}

def Event.Idle (event : Event) : Prop := event.isExecute = false ∧ event.isClose = false

-- Every result that a statement returned is given back once: a release follows it before
-- the next statement, and no release stands for any other reason.
structure Released (events : List Event) : Prop where
  given : ∀ before sql parameters? result after,
    events = before ++ .call (.execute sql parameters?) (.ok result) :: after →
    ∃ between rest, after = between ++ .call .close () :: rest ∧ ∀ event ∈ between, event.Idle
  taken : ∀ before after, events = before ++ .call .close () :: after →
    ∃ rest sql parameters? result between,
      before = rest ++ .call (.execute sql parameters?) (.ok result) :: between ∧ ∀ event ∈ between, event.Idle

theorem split_append {before after : List α} (same : front ++ back = before ++ here :: after) :
    (∃ rest, front = before ++ here :: rest ∧ after = rest ++ back) ∨
      ∃ rest, before = front ++ rest ∧ back = rest ++ here :: after := by
  rcases List.append_eq_append_iff.mp same with ⟨rest, whole, tail⟩ | ⟨rest, whole, tail⟩
  · exact .inr ⟨rest, whole, tail⟩
  · cases rest with
    | nil => exact .inr ⟨[], by simpa using whole.symm, by simpa using tail.symm⟩
    | cons first rest =>
      rw [List.cons_append, List.cons.injEq] at tail
      obtain ⟨rfl, rfl⟩ := tail
      exact .inl ⟨rest, whole, rfl⟩

namespace Released

theorem append (first : Released earlier) (second : Released later) : Released (earlier ++ later) where
  given := by
    intro before sql parameters? result after same
    rcases split_append same with ⟨rest, within, rfl⟩ | ⟨rest, rfl, within⟩
    · obtain ⟨between, last, rfl, idle⟩ := first.given _ _ _ _ _ within
      exact ⟨between, last ++ later, by simp, idle⟩
    · exact second.given _ _ _ _ _ within
  taken := by
    intro before after same
    rcases split_append same with ⟨rest, within, _⟩ | ⟨rest, rfl, within⟩
    · exact first.taken _ _ within
    · obtain ⟨front, sql, parameters?, result, between, rfl, idle⟩ := second.taken _ _ within
      exact ⟨earlier ++ front, sql, parameters?, result, between, by simp, idle⟩

theorem idle (quiet : ∀ event ∈ events, event.Idle) : Released events where
  given := by
    rintro before sql parameters? result after rfl
    cases (quiet (.call (.execute sql parameters?) (.ok result)) (by simp)).1
  taken := by
    rintro before after rfl
    cases (quiet (.call .close ()) (by simp)).2

theorem refused : Released [.call (.execute sql parameters?) (.error f)] where
  given := by
    intro before _ _ _ after same
    rcases List.singleton_eq_append_iff.mp same with ⟨_, whole⟩ | ⟨_, whole⟩ <;> simp_all
  taken := by
    intro before after same
    rcases List.singleton_eq_append_iff.mp same with ⟨_, whole⟩ | ⟨_, whole⟩ <;> simp_all

theorem returned : Released [.call (.execute sql parameters?) (.ok result), .call .close ()] where
  given := by
    intro before _ _ _ after same
    rcases List.cons_eq_append_iff.mp same with ⟨rfl, whole⟩ | ⟨rest, rfl, whole⟩
    · obtain ⟨_, rfl⟩ := List.cons.inj whole
      exact ⟨[], [], rfl, List.forall_mem_nil _⟩
    · rcases List.singleton_eq_append_iff.mp whole with ⟨_, whole⟩ | ⟨_, whole⟩ <;> simp_all
  taken := by
    intro before after same
    rcases List.cons_eq_append_iff.mp same with ⟨rfl, whole⟩ | ⟨rest, rfl, whole⟩
    · cases (List.cons.inj whole).1
    · rcases List.singleton_eq_append_iff.mp whole with ⟨rfl, whole⟩ | ⟨_, whole⟩
      · exact ⟨[], sql, parameters?, result, [], rfl, List.forall_mem_nil _⟩
      · simp_all

end Released

end FeatureTables
