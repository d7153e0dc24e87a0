import Mathlib

/-!
# Transfers in pieces

A sequence of `n` items that is transferred in pieces of the sizes `ks`.  A receiver that stores
every piece at the front of its buffer ends up with `deposit ks source buffer`, and a sender that
hands over the front of its message every time produces `restarts ks message`.

Neither is what the transfer is meant for.  `deposit_eq_take_iff` and `restarts_eq_iff` say for
which sizes and which items the result is right all the same; `eq_singleton_of_lastPiecesFit` and
`eq_singleton_of_restarts_eq` say that only a transfer in one piece is right for more than one
value of the first item.
-/

namespace Foundation

variable {α : Type*}

/-! ## Splitting a list of sizes -/

/-- Each of the sizes is at most `i`, or there is a last one that is greater. -/
lemma exists_last_gt (ks : List ℕ) (i : ℕ) :
    (∀ k ∈ ks, k ≤ i) ∨
      ∃ pre k post, ks = pre ++ k :: post ∧ i < k ∧ ∀ k' ∈ post, k' ≤ i := by
  induction ks with
  | nil => exact .inl (by simp)
  | cons k ks ih =>
    rcases ih with hall | ⟨pre, k', post, rfl, hk', hpost⟩
    · by_cases hk : k ≤ i
      · exact .inl (by simpa using ⟨hk, hall⟩)
      · exact .inr ⟨[], k, ks, rfl, Nat.lt_of_not_le hk, hall⟩
    · exact .inr ⟨k :: pre, k', post, rfl, hk', hpost⟩

/-- A sequence of positive sizes has only one beginning with a given sum. -/
lemma append_left_unique {ks rest ks' rest' : List ℕ} (hpos : ∀ k ∈ ks ++ rest, 1 ≤ k)
    (h : ks ++ rest = ks' ++ rest') (hsum : ks.sum = ks'.sum) : ks = ks' := by
  induction ks generalizing ks' with
  | nil =>
    cases ks' with
    | nil => rfl
    | cons k' ks' =>
      have := hpos k' (by rw [h]; simp)
      simp only [List.sum_nil, List.sum_cons] at hsum
      omega
  | cons k ks ih =>
    have := hpos k (by simp)
    cases ks' with
    | nil =>
      simp only [List.sum_nil, List.sum_cons] at hsum
      omega
    | cons k' ks' =>
      obtain ⟨rfl, htail⟩ := List.cons.inj h
      rw [ih (fun k' hk' => hpos k' (List.mem_cons_of_mem k hk')) htail (by simpa using hsum)]

/-- Positive sizes that sum up to nothing are none. -/
lemma eq_nil_of_sum_eq_zero {ks : List ℕ} (hpos : ∀ k ∈ ks, 1 ≤ k) (hsum : ks.sum = 0) :
    ks = [] := by
  cases ks with
  | nil => rfl
  | cons k ks =>
    have := hpos k List.mem_cons_self
    simp only [List.sum_cons] at hsum
    omega

/-! ## Storing every piece at the front -/

/-- The buffer after a piece has been stored at its front. -/
def overwriteFront (piece buffer : List α) : List α := piece ++ buffer.drop piece.length

/-- The buffer after pieces of the sizes `ks`, taken one after the other from `source`, have all
been stored at its front. -/
def deposit : List ℕ → List α → List α → List α
  | [], _, buffer => buffer
  | k :: ks, source, buffer =>
    deposit ks (source.drop k) (overwriteFront (source.take k) buffer)

/-- For every position, the last piece that reaches it brings the item that belongs there; where
none does, `filler` belongs there. -/
structure LastPiecesFit (filler : α) (ks : List ℕ) (source : List α) : Prop where
  /-- The last piece that reaches position `i`. -/
  reached : ∀ pre k post i, ks = pre ++ k :: post → i < k → (∀ k' ∈ post, k' ≤ i) →
    source[pre.sum + i]? = source[i]?
  /-- The positions that no piece reaches. -/
  untouched : ∀ i, i < ks.sum → (∀ k ∈ ks, k ≤ i) → source[i]? = some filler

/-- A position of the front holds the piece, and one behind it what was there. -/
lemma getElem?_overwriteFront (piece buffer : List α) (i : ℕ) :
    (overwriteFront piece buffer)[i]? =
      if i < piece.length then piece[i]? else buffer[i]? := by
  unfold overwriteFront
  split_ifs with hi
  · rw [List.getElem?_append_left hi]
  · rw [List.getElem?_append_right (Nat.le_of_not_lt hi), List.getElem?_drop,
      Nat.add_sub_cancel' (Nat.le_of_not_lt hi)]

/-- Storing pieces that fit does not change the length of the buffer. -/
lemma length_deposit {ks : List ℕ} {source buffer : List α} (hsource : ks.sum ≤ source.length)
    (hbuffer : ∀ k ∈ ks, k ≤ buffer.length) :
    (deposit ks source buffer).length = buffer.length := by
  induction ks generalizing source buffer with
  | nil => rfl
  | cons k ks ih =>
    simp only [List.sum_cons] at hsource
    have hk : k ≤ buffer.length := hbuffer k List.mem_cons_self
    have hfront : (overwriteFront (source.take k) buffer).length = buffer.length := by
      simp only [overwriteFront, List.length_append, List.length_take, List.length_drop]
      omega
    rw [deposit, ih (by simp; omega) fun k' hk' => hfront ▸ hbuffer k' (List.mem_cons_of_mem k hk'),
      hfront]

/-- A position that no piece reaches keeps its item. -/
lemma getElem?_deposit_untouched {ks : List ℕ} {source buffer : List α} {i : ℕ}
    (h : ∀ k ∈ ks, k ≤ i) : (deposit ks source buffer)[i]? = buffer[i]? := by
  induction ks generalizing source buffer with
  | nil => rfl
  | cons k ks ih =>
    have hk : k ≤ i := h k List.mem_cons_self
    rw [deposit, ih fun k' hk' => h k' (List.mem_cons_of_mem k hk'), getElem?_overwriteFront,
      if_neg (by simp; omega)]

/-- A position holds the item that the last piece reaching it brings. -/
lemma getElem?_deposit_reached {pre post : List ℕ} {k i : ℕ} {source : List α} (buffer : List α)
    (hi : i < k) (hpost : ∀ k' ∈ post, k' ≤ i) (hsource : pre.sum + k ≤ source.length) :
    (deposit (pre ++ k :: post) source buffer)[i]? = source[pre.sum + i]? := by
  induction pre generalizing source buffer with
  | nil =>
    simp only [List.sum_nil, Nat.zero_add] at hsource
    rw [List.nil_append, deposit, getElem?_deposit_untouched hpost, getElem?_overwriteFront,
      if_pos (by simp; omega), List.getElem?_take_of_lt hi, List.sum_nil, Nat.zero_add]
  | cons k' pre ih =>
    simp only [List.sum_cons] at hsource
    rw [List.cons_append, deposit, ih _ (by simp; omega), List.getElem?_drop, List.sum_cons]
    congr 1
    omega

/-- The buffer is right exactly when the last pieces fit. -/
theorem deposit_eq_take_iff {filler : α} {ks : List ℕ} {source : List α}
    (hsource : ks.sum ≤ source.length) :
    deposit ks source (List.replicate ks.sum filler) = source.take ks.sum ↔
      LastPiecesFit filler ks source := by
  have hlen : (deposit ks source (List.replicate ks.sum filler)).length = ks.sum := by
    rw [length_deposit hsource (by simpa using fun k hk => List.le_sum_of_mem hk),
      List.length_replicate]
  constructor
  · intro h
    refine ⟨?_, ?_⟩
    · rintro pre k post i rfl hi hpost
      have hsum : pre.sum + k ≤ (pre ++ k :: post).sum := by simp
      rw [← getElem?_deposit_reached (List.replicate (pre ++ k :: post).sum filler) hi hpost
        (hsum.trans hsource), h, List.getElem?_take_of_lt (by omega)]
    · intro i hi hall
      rw [← List.getElem?_take_of_lt hi, ← h, getElem?_deposit_untouched hall]
      simp [hi]
  · rintro ⟨hreached, huntouched⟩
    refine List.ext_getElem? ?_
    intro i
    by_cases hi : i < ks.sum
    · rw [List.getElem?_take_of_lt hi]
      rcases exists_last_gt ks i with hall | ⟨pre, k, post, rfl, hk, hpost⟩
      · rw [getElem?_deposit_untouched hall, huntouched i hi hall]
        simp [hi]
      · have hsum : pre.sum + k ≤ (pre ++ k :: post).sum := by simp
        rw [getElem?_deposit_reached _ hk hpost (hsum.trans hsource)]
        exact hreached pre k post i rfl hk hpost
    · rw [List.getElem?_eq_none (by omega), List.getElem?_eq_none (by simp; omega)]

/-- A transfer in one piece fits. -/
lemma lastPiecesFit_singleton (filler : α) (n : ℕ) (source : List α) :
    LastPiecesFit filler [n] source := by
  constructor
  · intro pre k post i hks _ _
    cases pre with
    | nil => simp
    | cons k' pre => simp at hks
  · intro i hi hall
    have := hall n (by simp)
    simp at hi
    omega

/-- Nothing at all fits into nothing. -/
lemma lastPiecesFit_nil (filler : α) (source : List α) : LastPiecesFit filler [] source :=
  ⟨fun pre k post i hks => by simp at hks, fun i hi => by simp at hi⟩

/-- The first item of a transfer in more than one piece is overwritten by a later one. -/
lemma LastPiecesFit.exists_later_eq {filler : α} {k : ℕ} {ks : List ℕ} {source : List α}
    (h : LastPiecesFit filler (k :: ks) source) (hpos : ∀ k' ∈ k :: ks, 1 ≤ k') (hks : ks ≠ []) :
    source[(k :: ks.dropLast).sum]? = source[0]? := by
  have hsplit : k :: ks = (k :: ks.dropLast) ++ ks.getLast hks :: [] := by
    simp [List.dropLast_append_getLast hks]
  have hlast : 0 < ks.getLast hks := hpos _ (List.mem_cons_of_mem k (List.getLast_mem hks))
  simpa using h.reached _ _ [] 0 hsplit hlast (by simp)

/-- Pieces that fit whichever of two items comes first are one piece. -/
lemma eq_singleton_of_lastPiecesFit {filler x y : α} {ks : List ℕ} {tail : List α} (hxy : x ≠ y)
    (hpos : ∀ k ∈ ks, 1 ≤ k) (hne : ks ≠ []) (hx : LastPiecesFit filler ks (x :: tail))
    (hy : LastPiecesFit filler ks (y :: tail)) : ks = [ks.sum] := by
  cases ks with
  | nil => exact absurd rfl hne
  | cons k ks =>
    by_cases hks : ks = []
    · simp [hks]
    · obtain ⟨m, hm⟩ : ∃ m, (k :: ks.dropLast).sum = m + 1 := by
        have := hpos k List.mem_cons_self
        exact ⟨(k :: ks.dropLast).sum - 1, by simp only [List.sum_cons]; omega⟩
      have h₁ := hx.exists_later_eq hpos hks
      have h₂ := hy.exists_later_eq hpos hks
      rw [hm, List.getElem?_cons_succ] at h₁ h₂
      exact absurd (Option.some.inj (h₁.symm.trans h₂)) hxy

/-! ## Handing over the front every time -/

/-- What pieces of the sizes `ks` amount to when each is taken from the front of `message`. -/
def restarts (ks : List ℕ) (message : List α) : List α := ks.flatMap fun k => message.take k

/-- The pieces taken from the front of `front` make up `message` exactly when their sizes sum up to
its length and each is the stretch of `message` whose place it takes. -/
lemma flatMap_take_eq_iff {ks : List ℕ} {front message : List α}
    (hfront : ∀ k ∈ ks, k ≤ front.length) :
    (ks.flatMap fun k => front.take k) = message ↔
      ks.sum = message.length ∧ ∀ pre k post, ks = pre ++ k :: post →
        (message.drop pre.sum).take k = front.take k := by
  induction ks generalizing message with
  | nil => simp [eq_comm]
  | cons k ks ih =>
    have hk : (front.take k).length = k := by simp [hfront k List.mem_cons_self]
    have hks := @ih (message.drop k) fun k' hk' => hfront k' (List.mem_cons_of_mem k hk')
    rw [List.flatMap_cons]
    constructor
    · rintro rfl
      have hdrop : (front.take k ++ ks.flatMap fun k => front.take k).drop k =
          ks.flatMap fun k => front.take k := List.drop_left' hk
      rw [hdrop] at hks
      obtain ⟨hsum, hpieces⟩ := hks.mp rfl
      refine ⟨by rw [List.sum_cons, List.length_append, hk, hsum], ?_⟩
      intro pre k' post hsplit
      cases pre with
      | nil =>
        obtain ⟨rfl, rfl⟩ := List.cons.inj hsplit
        rw [List.sum_nil, List.drop_zero, List.take_left' hk]
      | cons k'' pre =>
        obtain ⟨rfl, htail⟩ := List.cons.inj hsplit
        rw [List.sum_cons, ← List.drop_drop, hdrop]
        exact hpieces pre k' post htail
    · rintro ⟨hsum, hpieces⟩
      rw [List.sum_cons] at hsum
      have hfirst : message.take k = front.take k := by simpa using hpieces [] k ks rfl
      have hrest : (ks.flatMap fun k => front.take k) = message.drop k := by
        refine hks.mpr ⟨by rw [List.length_drop]; omega, ?_⟩
        intro pre k' post hsplit
        rw [List.drop_drop, ← hpieces (k :: pre) k' post (by rw [hsplit]; rfl), List.sum_cons]
      rw [hrest, ← hfirst, List.take_append_drop]

/-- The result is the message exactly when the sizes sum up to its length and every piece repeats
what the message has at its place. -/
theorem restarts_eq_iff {ks : List ℕ} {message : List α} (h : ∀ k ∈ ks, k ≤ message.length) :
    restarts ks message = message ↔
      ks.sum = message.length ∧ ∀ pre k post, ks = pre ++ k :: post →
        (message.drop pre.sum).take k = message.take k :=
  flatMap_take_eq_iff h

/-- A transfer in one piece is right. -/
lemma restarts_singleton (message : List α) : restarts [message.length] message = message := by
  simp [restarts]

/-- A transfer that is right whichever of two items comes first is in one piece. -/
lemma eq_singleton_of_restarts_eq {x y : α} {ks : List ℕ} (tail : List α) (hxy : x ≠ y)
    (hpos : ∀ k ∈ ks, 1 ≤ k) (hsum : ks.sum = tail.length + 1)
    (hx : restarts ks (x :: tail) = x :: tail) (hy : restarts ks (y :: tail) = y :: tail) :
    ks = [ks.sum] := by
  have hle (z : α) : ∀ k ∈ ks, k ≤ (z :: tail).length := fun k hk => by
    have := List.le_sum_of_mem hk
    rw [List.length_cons]
    omega
  cases ks with
  | nil => simp at hsum
  | cons k ks =>
    cases ks with
    | nil => simp
    | cons k' ks =>
      -- The second piece starts with the first item, in the place of the item number `k`.
      have hsecond (z : α) (hz : restarts (k :: k' :: ks) (z :: tail) = z :: tail) :
          (z :: tail)[k]? = some z := by
        have hpiece := ((restarts_eq_iff (hle z)).mp hz).2 [k] k' ks rfl
        have hk' : 0 < k' := hpos k' (by simp)
        have hget := congrArg (fun l => l[0]?) hpiece
        simpa [List.getElem?_take_of_lt hk'] using hget
      obtain ⟨m, rfl⟩ : ∃ m, k = m + 1 := ⟨k - 1, by have := hpos k (by simp); omega⟩
      have h₁ := hsecond x hx
      have h₂ := hsecond y hy
      rw [List.getElem?_cons_succ] at h₁ h₂
      exact absurd (Option.some.inj (h₁.symm.trans h₂)) hxy

end Foundation
