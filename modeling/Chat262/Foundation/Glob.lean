import Mathlib

/-!
# Glob patterns

A pattern is a list in which one letter, the star, stands for any list, and every other letter for
itself.  `Glob star p t` says that the text `t` can be obtained from the pattern `p` in this way.

A matcher that walks pattern and text from left to right, and compares letters before it looks for
stars, lets a star of the pattern that faces a star of the text stand for this one letter.
`LiteralGlob` is matching by that rule.  It is matching by `Glob` for texts without stars
(`literalGlob_iff_glob`), and asks for more in general.

`literalGlob_exchange` is why such a matcher has to remember one star only: when a star has been
reached behind letters that match, whatever the star before it could still take, the new one can
take as well.
-/

namespace Foundation

variable {α : Type*} {star : α}

/-- The text `t` is the pattern `p` with a list in the place of each star. -/
inductive Glob (star : α) : List α → List α → Prop
  | nil : Glob star [] []
  | letter {a : α} {p t : List α} (ha : a ≠ star) (h : Glob star p t) :
      Glob star (a :: p) (a :: t)
  | star (s : List α) {p t : List α} (h : Glob star p t) : Glob star (star :: p) (s ++ t)

/-- The text `t` is the pattern `p` with a list in the place of each star, where a star of the
pattern that comes to stand at a star of the text is replaced by this letter alone. -/
inductive LiteralGlob (star : α) : List α → List α → Prop
  | nil : LiteralGlob star [] []
  | letter (a : α) {p t : List α} (h : LiteralGlob star p t) : LiteralGlob star (a :: p) (a :: t)
  | star (s : List α) {p t : List α} (hs : ∀ u, s ++ t ≠ star :: u) (h : LiteralGlob star p t) :
      LiteralGlob star (star :: p) (s ++ t)

/-! ## The two ways of matching -/

/-- What matches with literal stars matches. -/
lemma LiteralGlob.glob {p t : List α} (h : LiteralGlob star p t) : Glob star p t := by
  induction h with
  | nil => exact .nil
  | letter a h ih =>
    by_cases ha : a = star
    · subst ha
      exact .star [a] ih
    · exact .letter ha ih
  | star s hs h ih => exact .star s ih

/-- In a text without stars no star of the pattern can face one. -/
lemma Glob.literalGlob {p t : List α} (h : Glob star p t) (ht : star ∉ t) :
    LiteralGlob star p t := by
  induction h with
  | nil => exact .nil
  | letter ha h ih => exact .letter _ (ih fun hmem => ht (List.mem_cons_of_mem _ hmem))
  | @star s p t h ih =>
    have hs : ∀ u, s ++ t ≠ star :: u := by
      intro u heq
      exact ht (heq ▸ List.mem_cons_self)
    exact .star s hs (ih fun hmem => ht (List.mem_append_right s hmem))

/-- For texts without stars the two ways of matching are the same. -/
lemma literalGlob_iff_glob {p t : List α} (ht : star ∉ t) :
    LiteralGlob star p t ↔ Glob star p t :=
  ⟨LiteralGlob.glob, fun h => h.literalGlob ht⟩

/-! ## What is left behind the first letter -/

/-- A letter at the front of pattern and text stands for itself, also when it is the star. -/
lemma literalGlob_cons {a : α} {p t : List α} :
    LiteralGlob star (a :: p) (a :: t) ↔ LiteralGlob star p t := by
  constructor
  · intro h
    generalize hq : a :: p = q, hu : a :: t = u at h
    cases h with
    | nil => cases hq
    | letter b h =>
      cases hq
      cases hu
      exact h
    | star s hs h =>
      cases hq
      exact absurd hu.symm (hs t)
  · exact .letter a

/-- A star of the pattern that does not face one leaves some suffix of the text to the rest. -/
lemma literalGlob_star {p t : List α} (ht : ∀ u, t ≠ star :: u) :
    LiteralGlob star (star :: p) t ↔ ∃ t', t' <:+ t ∧ LiteralGlob star p t' := by
  constructor
  · intro h
    generalize hq : star :: p = q at h
    cases h with
    | nil => cases hq
    | letter b h =>
      cases hq
      exact absurd rfl (ht _)
    | star s hs h =>
      cases hq
      exact ⟨_, List.suffix_append s _, h⟩
  · rintro ⟨t', ⟨s, rfl⟩, h⟩
    exact .star s ht h

/-- A letter that is not the star needs the same letter in the text. -/
lemma not_literalGlob_cons {a b : α} {p t : List α} (ha : a ≠ star) (hab : a ≠ b) :
    ¬ LiteralGlob star (a :: p) (b :: t) := by
  intro h
  generalize hu : b :: t = u at h
  cases h with
  | letter _ h =>
    cases hu
    exact hab rfl
  | star s hs h => exact ha rfl

/-- The empty pattern stands for the empty text. -/
lemma literalGlob_nil_left {t : List α} : LiteralGlob star [] t ↔ t = [] := by
  constructor
  · intro h
    cases h
    rfl
  · rintro rfl
    exact .nil

/-- Only stars stand for the empty text. -/
lemma literalGlob_nil_right {p : List α} : LiteralGlob star p [] ↔ ∀ a ∈ p, a = star := by
  induction p with
  | nil => simp [literalGlob_nil_left]
  | cons a p ih =>
    by_cases ha : a = star
    · subst ha
      rw [literalGlob_star (by simp)]
      simp [ih]
    · have hnot : ¬ LiteralGlob star (a :: p) [] := by
        intro h
        generalize hu : ([] : List α) = u at h
        cases h with
        | letter b h => cases hu
        | star s hs h => exact ha rfl
      simp [hnot, ha]

/-- Letters at the front of pattern and text stand for themselves. -/
lemma literalGlob_append {q p t : List α} :
    LiteralGlob star (q ++ p) (q ++ t) ↔ LiteralGlob star p t := by
  induction q with
  | nil => simp
  | cons a q ih => rw [List.cons_append, List.cons_append, literalGlob_cons, ih]

/-- Whatever the first letter of the pattern stands for, the rest is left a suffix of the text. -/
lemma LiteralGlob.tail {a : α} {p t : List α} (h : LiteralGlob star (a :: p) t) :
    ∃ t', t' <:+ t ∧ LiteralGlob star p t' := by
  cases h with
  | letter _ h => exact ⟨_, List.suffix_cons a _, h⟩
  | star s hs h => exact ⟨_, List.suffix_append s _, h⟩

/-! ## Behind a star

Behind a star the rest of the pattern may match any suffix of the rest of the text. -/

/-- When the letters `q` match at the front of the text, any other place where they match leaves no
more of the text to the rest of the pattern. -/
lemma literalGlob_suffix {q p t u : List α} (hu : u <:+ q ++ t)
    (h : LiteralGlob star (q ++ p) u) : ∃ t', t' <:+ t ∧ LiteralGlob star p t' := by
  induction q generalizing u with
  | nil => exact ⟨u, hu, h⟩
  | cons a q ih =>
    rw [List.cons_append] at hu h
    rcases List.suffix_cons_iff.mp hu with rfl | hu
    · exact ih List.suffix_rfl (literalGlob_cons.mp h)
    · obtain ⟨u', hu', h'⟩ := h.tail
      exact ih (hu'.trans hu) h'

/-- The letters `q` between two stars may be taken to match where they first do. -/
lemma literalGlob_exchange {q p t : List α} (ht : ∀ u, t ≠ star :: u) :
    (∃ u, u <:+ q ++ t ∧ LiteralGlob star (q ++ star :: p) u) ↔
      ∃ t', t' <:+ t ∧ LiteralGlob star p t' := by
  constructor
  · rintro ⟨u, hu, h⟩
    obtain ⟨t', ht', h'⟩ := literalGlob_suffix hu h
    obtain ⟨t'', ht'', h''⟩ := h'.tail
    exact ⟨t'', ht''.trans ht', h''⟩
  · intro h
    exact ⟨q ++ t, List.suffix_rfl, literalGlob_append.mpr ((literalGlob_star ht).mpr h)⟩

/-- When the rest of the pattern does not match here, the star takes one letter more. -/
lemma literalGlob_skip {a : α} {p t : List α} (h : ¬ LiteralGlob star p (a :: t)) :
    (∃ u, u <:+ a :: t ∧ LiteralGlob star p u) ↔ ∃ u, u <:+ t ∧ LiteralGlob star p u := by
  constructor
  · rintro ⟨u, hsuffix, hmatch⟩
    rcases List.suffix_cons_iff.mp hsuffix with rfl | hsuffix
    · exact absurd hmatch h
    · exact ⟨u, hsuffix, hmatch⟩
  · rintro ⟨u, hsuffix, hmatch⟩
    exact ⟨u, hsuffix.trans (List.suffix_cons a t), hmatch⟩

/-- When the text ends behind letters that match, only stars may be left. -/
lemma literalGlob_end {q p : List α} :
    (∃ u, u <:+ q ∧ LiteralGlob star (q ++ p) u) ↔ ∀ a ∈ p, a = star := by
  rw [← literalGlob_nil_right]
  constructor
  · rintro ⟨u, hu, h⟩
    rw [← List.append_nil q] at hu
    obtain ⟨t', ht', h'⟩ := literalGlob_suffix hu h
    rwa [List.suffix_nil.mp ht'] at h'
  · intro h
    refine ⟨q, List.suffix_rfl, ?_⟩
    have hmatch := (literalGlob_append (q := q)).mpr h
    rwa [List.append_nil] at hmatch

end Foundation
