import Mathlib

/-!
# Computations that may be cut off

A `Comp σ α` works on a state of type `σ` and ends with a value of type `α`, or is cut off before
it gets there; what it has done to the state until then remains.  `Comp.attempt` runs a
computation on behalf of somebody who survives its end.

`Comp.wp m Q R` is the weakest precondition: from a state that satisfies it, `m` ends in `Q` with
the value that it returns, or is cut off in `R`.  There is one rule for every way to build a
computation, and `wp_mono` to weaken the conclusions.  `Within R m` says of a preorder `R` that `m`
does not leave it, whether it ends or is cut off; it has the same rules.
-/

namespace Foundation

/-- A computation that ends with a value or is cut off, and changes the state in either case. -/
def Comp (σ α : Type) : Type := σ → Option α × σ

namespace Comp

variable {σ α β : Type}

/-- First one computation, then another that depends on its value. -/
protected def bind (m : Comp σ α) (f : α → Comp σ β) : Comp σ β := fun s =>
  match m s with
  | (some a, t) => f a t
  | (none, t) => (none, t)

instance : Monad (Comp σ) where
  pure a := fun s => (some a, s)
  bind := Comp.bind

/-- Read the state. -/
def get : Comp σ σ := fun s => (some s, s)

/-- Change the state. -/
def modify (f : σ → σ) : Comp σ Unit := fun s => (some (), f s)

/-- Change the state, and go on only if it then satisfies `p`. -/
def proceed (f : σ → σ) (p : σ → Bool) : Comp σ Unit := fun s =>
  (if p (f s) then some () else none, f s)

/-- Run a computation, and go on without its value if it is cut off. -/
def attempt (m : Comp σ α) : Comp σ (Option α) := fun s => (some (m s).1, (m s).2)

/-- When the first computation returns, the second one goes on from there. -/
lemma bind_of_eq_some {m : Comp σ α} {f : α → Comp σ β} {s t : σ} {a : α}
    (h : m s = (some a, t)) : (m >>= f) s = f a t := by
  change Comp.bind m f s = _
  unfold Comp.bind
  rw [h]

/-- What follows two computations that do the same does the same. -/
lemma bind_congr_of_eq {m m' : Comp σ α} {f : α → Comp σ β} {s t : σ} (h : m s = m' t) :
    (m >>= f) s = (m' >>= f) t := by
  change Comp.bind m f s = Comp.bind m' f t
  unfold Comp.bind
  rw [h]

/-! ## Weakest preconditions -/

/-- From `s`, the computation ends in `Q` with its value or is cut off in `R`. -/
def wp (m : Comp σ α) (Q : α → σ → Prop) (R : σ → Prop) (s : σ) : Prop :=
  match m s with
  | (some a, t) => Q a t
  | (none, t) => R t

variable {Q Q' : α → σ → Prop} {R R' : σ → Prop} {s : σ}

/-- A returned value has to satisfy the postcondition. -/
@[simp] lemma wp_pure {a : α} : wp (pure a) Q R s ↔ Q a s := Iff.rfl

/-- The postcondition of the first computation is the precondition of the second. -/
@[simp] lemma wp_bind {m : Comp σ α} {f : α → Comp σ β} {Q : β → σ → Prop} :
    wp (m >>= f) Q R s ↔ wp m (fun a t => wp (f a) Q R t) R s := by
  change wp (Comp.bind m f) Q R s ↔ _
  unfold wp Comp.bind
  rcases m s with ⟨_ | a, t⟩ <;> rfl

/-- Reading returns the state. -/
@[simp] lemma wp_get {Q : σ → σ → Prop} : wp get Q R s ↔ Q s s := Iff.rfl

/-- Changing the state leads to the changed state. -/
@[simp] lemma wp_modify {f : σ → σ} {Q : Unit → σ → Prop} :
    wp (modify f) Q R s ↔ Q () (f s) := Iff.rfl

/-- The changed state satisfies the test and the postcondition, or the computation is cut off
there. -/
lemma wp_proceed {f : σ → σ} {p : σ → Bool} {Q : Unit → σ → Prop}
    (hgo : p (f s) = true → Q () (f s)) (hcut : p (f s) = false → R (f s)) :
    wp (proceed f p) Q R s := by
  unfold wp proceed
  cases h : p (f s)
  · exact hcut h
  · exact hgo h

/-- Whoever attempts a computation sees its end and its being cut off alike. -/
@[simp] lemma wp_attempt {m : Comp σ α} {Q : Option α → σ → Prop} :
    wp (attempt m) Q R s ↔ wp m (fun a t => Q (some a) t) (Q none) s := by
  unfold wp attempt
  rcases m s with ⟨_ | a, t⟩ <;> rfl

/-- The conclusions may be weakened. -/
lemma wp_mono {m : Comp σ α} (h : wp m Q R s) (hQ : ∀ a t, Q a t → Q' a t)
    (hR : ∀ t, R t → R' t) : wp m Q' R' s := by
  unfold wp at h ⊢
  rcases hm : m s with ⟨_ | a, t⟩
  · rw [hm] at h
    exact hR t h
  · rw [hm] at h
    exact hQ a t h

/-- Two specifications of a computation hold together. -/
lemma wp_and {m : Comp σ α} (h : wp m Q R s) (h' : wp m Q' R' s) :
    wp m (fun a t => Q a t ∧ Q' a t) (fun t => R t ∧ R' t) s := by
  unfold wp at h h' ⊢
  rcases hm : m s with ⟨_ | a, t⟩
  · rw [hm] at h h'
    exact ⟨h, h'⟩
  · rw [hm] at h h'
    exact ⟨h, h'⟩

/-- The postcondition may be told where the computation has ended. -/
lemma wp_ended {m : Comp σ α} (h : wp m Q R s) :
    wp m (fun a t => Q a t ∧ m s = (some a, t)) R s := by
  unfold wp at h ⊢
  rcases hm : m s with ⟨_ | a, t⟩
  · rw [hm] at h
    exact h
  · rw [hm] at h
    exact ⟨h, rfl⟩

/-- What a computation returns satisfies the postcondition. -/
lemma of_wp_of_eq_some {m : Comp σ α} (h : wp m Q R s) {a : α} {t : σ}
    (hm : m s = (some a, t)) : Q a t := by
  unfold wp at h
  rw [hm] at h
  exact h

/-- A computation with one possible end ends there. -/
lemma eq_of_wp {m : Comp σ α} {a : α} {t : σ}
    (h : wp m (fun a' t' => a' = a ∧ t' = t) (fun _ => False) s) : m s = (some a, t) := by
  unfold wp at h
  rcases hm : m s with ⟨_ | a', t'⟩
  · rw [hm] at h
    cases h
  · rw [hm] at h
    rw [h.1, h.2]

/-- A computation that does not end where it could have been cut off returns. -/
lemma exists_of_wp {m : Comp σ α} (h : wp m Q R s) (hR : ¬ R (m s).2) :
    ∃ a t, m s = (some a, t) ∧ Q a t := by
  unfold wp at h
  rcases hm : m s with ⟨_ | a, t⟩
  · rw [hm] at h hR
    exact absurd h hR
  · rw [hm] at h
    exact ⟨a, t, rfl, h⟩

/-- Where a computation is cut off, the other postcondition holds. -/
lemma of_wp_of_eq_none {m : Comp σ α} (h : wp m Q R s) {t : σ} (hm : m s = (none, t)) : R t := by
  unfold wp at h
  rw [hm] at h
  exact h

/-! ## Staying within a preorder -/

/-- Wherever the computation ends or is cut off, `R` leads there. -/
def Within (R : σ → σ → Prop) (m : Comp σ α) : Prop := ∀ s, R s (m s).2

section Within

variable {S : σ → σ → Prop}

/-- Returning a value leads nowhere. -/
lemma Within.pure [Std.Refl S] (a : α) : Within S (pure a : Comp σ α) := fun s => Std.Refl.refl s

/-- Two computations after one another stay within what both stay within. -/
lemma Within.bind [IsTrans σ S] {m : Comp σ α} {f : α → Comp σ β} (hm : Within S m)
    (hf : ∀ a, Within S (f a)) : Within S (m >>= f) := by
  intro s
  change S s (Comp.bind m f s).2
  have hfirst := hm s
  unfold Comp.bind
  rcases hrun : m s with ⟨_ | a, t⟩
  · rw [hrun] at hfirst
    exact hfirst
  · rw [hrun] at hfirst
    exact IsTrans.trans s t _ hfirst (hf a t)

/-- Reading leads nowhere. -/
lemma Within.get [Std.Refl S] : Within S (Comp.get : Comp σ σ) := fun s => Std.Refl.refl s

/-- A change stays within what it is in. -/
lemma Within.modify {f : σ → σ} (hf : ∀ s, S s (f s)) : Within S (Comp.modify f) := hf

/-- It does not matter whether the computation goes on. -/
lemma Within.proceed {f : σ → σ} (p : σ → Bool) (hf : ∀ s, S s (f s)) :
    Within S (Comp.proceed f p) := hf

/-- Nor who sees its end. -/
lemma Within.attempt {m : Comp σ α} (hm : Within S m) : Within S (Comp.attempt m) := hm

end Within

end Comp

end Foundation
