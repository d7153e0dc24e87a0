import Mathlib

/-!
# What has happened since

A history is a list of entries, the latest one last.  `Since start stop l` says that some entry of
`l` is a `start` and that no entry behind it is a `stop`: what the last `start` has brought about
has not been undone yet.  `since_concat` says how one more entry changes this, which is all that an
induction over the history needs.
-/

namespace Foundation

variable {α : Type*} {start stop : α → Prop}

/-- Some entry is a `start`, and no later one is a `stop`. -/
def Since (start stop : α → Prop) (l : List α) : Prop :=
  ∃ before a after, l = before ++ a :: after ∧ start a ∧ ∀ b ∈ after, ¬ stop b

/-- Nothing has happened yet. -/
@[simp] lemma not_since_nil : ¬ Since start stop [] := by
  rintro ⟨before, a, after, hsplit, -⟩
  simp at hsplit

/-- Behind one more entry, it is that entry which is a `start`, or an earlier one is and the new
entry is no `stop`. -/
lemma since_concat {l : List α} {a : α} :
    Since start stop (l ++ [a]) ↔ start a ∨ Since start stop l ∧ ¬ stop a := by
  constructor
  · rintro ⟨before, b, after, hsplit, hstart, hafter⟩
    rcases List.eq_nil_or_concat after with rfl | ⟨after, last, rfl⟩
    · obtain ⟨-, hlast⟩ := List.append_inj' hsplit rfl
      cases hlast
      exact .inl hstart
    · rw [List.concat_eq_append, ← List.cons_append, ← List.append_assoc] at hsplit
      obtain ⟨hinit, hlast⟩ := List.append_inj' hsplit rfl
      cases hlast
      refine .inr ⟨⟨before, b, after, hinit, hstart, ?_⟩, hafter a (by simp)⟩
      exact fun c hc => hafter c (by simp [hc])
  · rintro (hstart | ⟨⟨before, b, after, rfl, hstart, hafter⟩, hstop⟩)
    · exact ⟨l, a, [], rfl, hstart, by simp⟩
    · refine ⟨before, b, after ++ [a], by simp, hstart, ?_⟩
      intro c hc
      rcases List.mem_append.mp hc with hin | hlast
      · exact hafter c hin
      · rw [List.mem_singleton.mp hlast]
        exact hstop

end Foundation
