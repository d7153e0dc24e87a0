import Mathlib

/-!
# Reordering a fold

Two orders of the same updates lead to the same state when the updates that do not commute come in
the same order in both (`foldl_eq_of_order`).  That `a` comes before `b` in a list is said by
`[a, b]` being a sublist of it; `pair_sublist_concat` tells what comes before what when a list grows
at its end.
-/

namespace Foundation

open scoped List

variable {α σ : Type*}

/-- The new last element comes behind all others, and nothing else changes. -/
lemma pair_sublist_concat {a b c : α} {l : List α} :
    [a, b] <+ l ++ [c] ↔ [a, b] <+ l ∨ a ∈ l ∧ b = c := by
  constructor
  · intro h
    obtain ⟨l₁, l₂, heq, h₁, h₂⟩ := List.sublist_append_iff.mp h
    rcases l₁ with _ | ⟨x, _ | ⟨y, l₁⟩⟩
    · have hlength := h₂.length_le
      rw [List.nil_append] at heq
      rw [← heq] at hlength
      simp at hlength
    · obtain ⟨rfl, rfl⟩ : a = x ∧ [b] = l₂ := by simpa using heq
      refine .inr ⟨List.singleton_sublist.mp h₁, by simpa using h₂⟩
    · obtain ⟨rfl, rfl, rfl, rfl⟩ : a = x ∧ b = y ∧ l₁ = [] ∧ l₂ = [] := by simpa using heq
      exact .inl h₁
  · rintro (h | ⟨ha, rfl⟩)
    · exact h.trans (List.sublist_append_left _ _)
    · exact (List.singleton_sublist.mpr ha).append (List.Sublist.refl [b])

/-- In a list without repetitions, what comes before an element does not come behind it. -/
lemma not_pair_sublist_append {a x : α} {p q : List α} (hnodup : (p ++ a :: q).Nodup)
    (hx : x ∈ p) : ¬ [a, x] <+ p ++ a :: q := by
  intro h
  have hdisjoint := (List.nodup_append.mp hnodup).2.2
  obtain ⟨l₁, l₂, heq, h₁, h₂⟩ := List.sublist_append_iff.mp h
  cases l₁ with
  | nil =>
    rw [List.nil_append] at heq
    rw [← heq] at h₂
    exact hdisjoint x hx x (h₂.subset (by simp)) rfl
  | cons y l₁ =>
    obtain rfl : a = y := (List.cons.inj heq).1
    exact hdisjoint a (h₁.subset List.mem_cons_self) a List.mem_cons_self rfl

/-- Taking an element out of a list does not change what comes before what among the others. -/
lemma sublist_of_sublist_middle {a : α} {l p q : List α} (h : l <+ p ++ a :: q) (ha : a ∉ l) :
    l <+ p ++ q := by
  obtain ⟨l₁, l₂, rfl, h₁, h₂⟩ := List.sublist_append_iff.mp h
  rcases List.sublist_cons_iff.mp h₂ with hq | ⟨r, rfl, -⟩
  · exact h₁.append hq
  · exact absurd (List.mem_append_right l₁ List.mem_cons_self) ha

variable (act : σ → α → σ) (Conflicts : α → α → Prop)

/-- An update that commutes with those before it may come first. -/
lemma foldl_append_cons {a : α} {p q : List α} (s : σ)
    (hcomm : ∀ x ∈ p, ∀ s, act (act s x) a = act (act s a) x) :
    (p ++ a :: q).foldl act s = (a :: (p ++ q)).foldl act s := by
  induction p generalizing s with
  | nil => rfl
  | cons x p ih =>
    have hrest := ih (act s x) fun y hy => hcomm y (List.mem_cons_of_mem x hy)
    rw [List.cons_append, List.foldl_cons, hrest, List.foldl_cons, hcomm x List.mem_cons_self]
    rfl

/-- Two orders of the same updates lead to the same state when those that conflict come in the same
order. -/
theorem foldl_eq_of_order (hcomm : ∀ a b, ¬ Conflicts a b → ∀ s, act (act s b) a = act (act s a) b)
    {l₁ l₂ : List α} (hperm : l₁.Perm l₂) (hnodup : l₁.Nodup)
    (horder : ∀ a b, Conflicts a b → [a, b] <+ l₁ → [a, b] <+ l₂) (s : σ) :
    l₁.foldl act s = l₂.foldl act s := by
  induction l₁ generalizing l₂ s with
  | nil => rw [List.Perm.nil_eq hperm]
  | cons a l ih =>
    obtain ⟨p, q, rfl⟩ := List.append_of_mem (hperm.subset List.mem_cons_self)
    have hrest : l.Perm (p ++ q) := (List.perm_cons a).mp (hperm.trans List.perm_middle)
    have hnodup₂ : (p ++ a :: q).Nodup := hperm.nodup hnodup
    rw [foldl_append_cons act s fun x hx t => hcomm a x (fun hconflict => ?_) t]
    · refine ih hrest (List.nodup_cons.mp hnodup).2 ?_ (act s a)
      intro x y hconflict hxy
      have ha : a ∉ [x, y] := fun ha => (List.nodup_cons.mp hnodup).1 (hxy.subset ha)
      exact sublist_of_sublist_middle
        (horder x y hconflict (hxy.trans (List.sublist_cons_self a l))) ha
    · have hx' : x ∈ l := hrest.symm.subset (List.mem_append_left q hx)
      exact not_pair_sublist_append hnodup₂ hx (horder a x hconflict
        ((List.singleton_sublist.mpr hx').cons_cons a))

end Foundation
