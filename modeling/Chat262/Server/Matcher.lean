import Chat262.Foundation.Glob
import Chat262.Server.Wildcard

/-!
# The wildcard matcher against glob patterns

The matcher remembers one star.  `MatchState.Tracks` says what its local variables mean: before the
first star, the rest of the pattern has to stand for the rest of the target; after one, the bytes
between the remembered star and the pattern index have matched the same bytes of the target, and
only that star may still take more.  Every iteration keeps this, and `MatchState.remaining` gets
smaller with every iteration, so the loop ends on every input.

The matcher compares bytes before it looks for a star, so it is exact for `LiteralGlob`.  For
targets without stars this is `Glob`.  A target with stars can be one that the pattern stands for
and that the matcher does not accept.
-/

namespace Chat262

open Foundation

/-! ## One iteration -/

/-- What one iteration of the main loop does to its local variables. -/
inductive MatchEffect (pattern target : ByteString) (m : MatchState) : Option MatchState → Prop
  /-- The next pattern byte is the next target byte. -/
  | letter (a : UInt8) (hp : pattern.drop m.patternIdx = a :: pattern.drop (m.patternIdx + 1))
      (ht : target.drop m.targetIdx = a :: target.drop (m.targetIdx + 1)) :
      MatchEffect pattern target m
        (some { m with targetIdx := m.targetIdx + 1, patternIdx := m.patternIdx + 1 })
  /-- The next pattern byte is a star, and the next target byte is not. -/
  | star (hp : pattern.drop m.patternIdx = star :: pattern.drop (m.patternIdx + 1))
      (hne : ∀ t, target.drop m.targetIdx ≠ star :: t) :
      MatchEffect pattern target m (some { m with
        lastStar := some m.patternIdx
        patternIdx := m.patternIdx + 1
        savedTarget := m.targetIdx })
  | backtrack (l : ℕ) (hl : m.lastStar = some l)
      (hne : ∀ a p t, target.drop m.targetIdx = a :: t → pattern.drop m.patternIdx ≠ a :: p)
      (hstar : ∀ p, pattern.drop m.patternIdx ≠ Chat262.star :: p) :
      MatchEffect pattern target m (some { m with
        patternIdx := l + 1
        targetIdx := m.savedTarget + 1
        savedTarget := m.savedTarget + 1 })
  | mismatch (hl : m.lastStar = none)
      (hne : ∀ a p t, target.drop m.targetIdx = a :: t → pattern.drop m.patternIdx ≠ a :: p)
      (hstar : ∀ p, pattern.drop m.patternIdx ≠ Chat262.star :: p) :
      MatchEffect pattern target m none

/-- A byte at an index is the first of the bytes from there on. -/
lemma drop_eq_cons_iff {s t : ByteString} {i : ℕ} {a : UInt8} :
    s.drop i = a :: t ↔ s[i]? = some a ∧ t = s.drop (i + 1) := by
  rw [← List.head?_drop, ← List.tail_drop]
  cases s.drop i with
  | nil => simp
  | cons b u => simp [eq_comm]

/-- Every iteration has one of the effects. -/
lemma matchStep_effect (pattern target : ByteString) {m : MatchState}
    (hlt : m.targetIdx < target.length) :
    MatchEffect pattern target m (matchStep pattern target m) := by
  have ht : target[m.targetIdx]? = some target[m.targetIdx] := List.getElem?_eq_getElem hlt
  unfold matchStep
  split_ifs with hletter hstar
  · have hp := hletter.2.symm.trans ht
    exact .letter _ (drop_eq_cons_iff.mpr ⟨hp, rfl⟩) (drop_eq_cons_iff.mpr ⟨ht, rfl⟩)
  · refine .star (drop_eq_cons_iff.mpr ⟨hstar.2, rfl⟩) ?_
    intro t hstar'
    exact hletter ⟨hstar.1, (drop_eq_cons_iff.mp hstar').1.trans hstar.2.symm⟩
  · have hlen (a : UInt8) (ha : pattern[m.patternIdx]? = some a) :
        m.patternIdx < pattern.length := (List.getElem?_eq_some_iff.mp ha).1
    have hne : ∀ a p t, target.drop m.targetIdx = a :: t →
        pattern.drop m.patternIdx ≠ a :: p := by
      intro a p t ha hp
      have ha' := (drop_eq_cons_iff.mp ha).1
      have hp' := (drop_eq_cons_iff.mp hp).1
      exact hletter ⟨hlen a hp', ha'.trans hp'.symm⟩
    have hnostar : ∀ p, pattern.drop m.patternIdx ≠ Chat262.star :: p := by
      intro p hp
      have hp' := (drop_eq_cons_iff.mp hp).1
      exact hstar ⟨hlen _ hp', hp'⟩
    split
    · rename_i l hl
      exact .backtrack l hl hne hnostar
    · rename_i hl
      exact .mismatch hl hne hnostar

/-! ## The bounds -/

/-- The indices stay inside the pattern and the target. -/
structure MatchState.InRange (pattern target : ByteString) (m : MatchState) : Prop where
  targetIdx_le : m.targetIdx ≤ target.length
  patternIdx_le : m.patternIdx ≤ pattern.length
  savedTarget_le : m.savedTarget ≤ m.targetIdx
  lastStar_lt : ∀ l ∈ m.lastStar, l < pattern.length

/-- A bound on the number of iterations that are left. -/
def MatchState.remaining (pattern target : ByteString) (m : MatchState) : ℕ :=
  (target.length - m.savedTarget) * (pattern.length + 2) + (pattern.length - m.patternIdx)

/-- The first indices are in range. -/
lemma MatchState.inRange_init (pattern target : ByteString) :
    MatchState.InRange pattern target .init := by
  constructor <;> simp [MatchState.init]

/-- What is left behind an index that is not the last shows that the index is in range. -/
lemma lt_length_of_drop_eq_cons {s t : ByteString} {i : ℕ} {a : UInt8} (h : s.drop i = a :: t) :
    i < s.length :=
  (List.getElem?_eq_some_iff.mp (drop_eq_cons_iff.mp h).1).1

/-- Every iteration keeps the indices in range. -/
lemma MatchState.InRange.step {pattern target : ByteString} {m m' : MatchState}
    (h : m.InRange pattern target) (hlt : m.targetIdx < target.length)
    (hstep : matchStep pattern target m = some m') : m'.InRange pattern target := by
  have heffect := matchStep_effect pattern target hlt
  have hsaved := h.savedTarget_le
  rw [hstep] at heffect
  cases heffect with
  | letter a hp ht =>
    have hp' := lt_length_of_drop_eq_cons hp
    exact ⟨hlt, hp', by dsimp only; omega, h.lastStar_lt⟩
  | star hp hne =>
    have hp' := lt_length_of_drop_eq_cons hp
    refine ⟨hlt.le, hp', le_rfl, ?_⟩
    intro l hl
    cases hl
    exact hp'
  | backtrack l hl hne hstar =>
    have hl' := h.lastStar_lt l hl
    exact ⟨by dsimp only; omega, hl', le_rfl, h.lastStar_lt⟩

/-- Every iteration leaves fewer iterations. -/
lemma MatchState.InRange.remaining_lt {pattern target : ByteString} {m m' : MatchState}
    (h : m.InRange pattern target) (hlt : m.targetIdx < target.length)
    (hstep : matchStep pattern target m = some m') :
    m'.remaining pattern target < m.remaining pattern target := by
  have heffect := matchStep_effect pattern target hlt
  have hsaved := h.savedTarget_le
  rw [hstep] at heffect
  unfold MatchState.remaining
  cases heffect with
  | letter a hp ht =>
    have hp' := lt_length_of_drop_eq_cons hp
    dsimp only
    omega
  | star hp hne =>
    have hp' := lt_length_of_drop_eq_cons hp
    have hmul : (target.length - m.targetIdx) * (pattern.length + 2) ≤
        (target.length - m.savedTarget) * (pattern.length + 2) :=
      Nat.mul_le_mul_right _ (by omega)
    dsimp only
    omega
  | backtrack l hl hne hstar =>
    have hone : target.length - m.savedTarget = target.length - (m.savedTarget + 1) + 1 := by
      omega
    dsimp only
    rw [hone, Nat.add_mul]
    omega

/-- The fuel is more than the number of iterations. -/
lemma remaining_init_lt_matchFuel (pattern target : ByteString) :
    MatchState.init.remaining pattern target < matchFuel pattern target := by
  unfold MatchState.remaining matchFuel
  simp only [MatchState.init, Nat.sub_zero]
  have hmul : (pattern.length + 1) * (target.length + 1) ≤
      (pattern.length + 1) * (target.length + 1) * (target.length + 1) :=
    Nat.le_mul_of_pos_right _ (by omega)
  have hfirst : target.length ≤ pattern.length * target.length * target.length + target.length :=
    Nat.le_add_left _ _
  nlinarith [Nat.zero_le (pattern.length * target.length)]

/-! ## What the local variables mean -/

/-- What is left to match.  Before the first star it is the rest of the pattern against the rest of
the target; behind the star `l` it is, against any suffix, what the bytes `q` matched since then
begin. -/
def MatchState.Tracks (pattern target : ByteString) (m : MatchState) : Prop :=
  match m.lastStar with
  | none => LiteralGlob star pattern target ↔
      LiteralGlob star (pattern.drop m.patternIdx) (target.drop m.targetIdx)
  | some l => ∃ q, pattern.drop (l + 1) = q ++ pattern.drop m.patternIdx ∧
      target.drop m.savedTarget = q ++ target.drop m.targetIdx ∧
      (LiteralGlob star pattern target ↔ ∃ t, t <:+ q ++ target.drop m.targetIdx ∧
        LiteralGlob star (q ++ pattern.drop m.patternIdx) t)

/-- At first everything is left. -/
lemma MatchState.tracks_init (pattern target : ByteString) :
    MatchState.Tracks pattern target .init := by
  simp [MatchState.Tracks, MatchState.init]

/-- When the next pattern byte is neither the next target byte nor a star, the rest of the pattern
does not match here. -/
lemma not_literalGlob_of_mismatch {p t : ByteString} {b : UInt8}
    (hne : ∀ p', p ≠ b :: p') (hstar : ∀ p', p ≠ star :: p') : ¬ LiteralGlob star p (b :: t) := by
  cases p with
  | nil => simp [literalGlob_nil_left]
  | cons a p =>
    have ha : a ≠ star := fun ha => hstar p (by rw [ha])
    have hab : a ≠ b := fun hab => hne p (by rw [hab])
    exact not_literalGlob_cons ha hab

/-- Every iteration keeps the meaning. -/
lemma MatchState.Tracks.step {pattern target : ByteString} {m m' : MatchState}
    (h : m.Tracks pattern target) (hlt : m.targetIdx < target.length)
    (hstep : matchStep pattern target m = some m') : m'.Tracks pattern target := by
  have heffect := matchStep_effect pattern target hlt
  rw [hstep] at heffect
  cases heffect with
  | letter a hp ht =>
    unfold MatchState.Tracks at h ⊢
    cases hl : m.lastStar with
    | none =>
      simp only [hl] at h ⊢
      rw [h, hp, ht, literalGlob_cons]
    | some l =>
      simp only [hl] at h ⊢
      obtain ⟨q, hpattern, hsaved, hglob⟩ := h
      refine ⟨q ++ [a], ?_, ?_, ?_⟩
      · rw [hpattern, hp, List.append_assoc, List.singleton_append]
      · rw [hsaved, ht, List.append_assoc, List.singleton_append]
      · rw [hglob, hp, ht, List.append_assoc, List.append_assoc, List.singleton_append,
          List.singleton_append]
  | star hp hne =>
    unfold MatchState.Tracks at h ⊢
    refine ⟨[], by simp, by simp, ?_⟩
    rw [List.nil_append, List.nil_append]
    cases hl : m.lastStar with
    | none =>
      simp only [hl] at h
      rw [h, hp, literalGlob_star hne]
    | some l =>
      simp only [hl] at h
      obtain ⟨q, hpattern, hsaved, hglob⟩ := h
      rw [hglob, hp, literalGlob_exchange hne]
  | backtrack l hl hne hstar =>
    unfold MatchState.Tracks at h ⊢
    simp only [hl] at h ⊢
    obtain ⟨q, hpattern, hsaved, hglob⟩ := h
    refine ⟨[], by simp, by simp, ?_⟩
    obtain ⟨b, t, ht⟩ : ∃ b t, target.drop m.targetIdx = b :: t :=
      ⟨_, _, List.drop_eq_getElem_cons hlt⟩
    have hnot : ¬ LiteralGlob star (q ++ pattern.drop m.patternIdx) (q ++ b :: t) := by
      rw [literalGlob_append]
      exact not_literalGlob_of_mismatch (fun p' => hne b p' t ht) hstar
    -- The bytes from the saved target on are not empty, and the star takes the first of them.
    obtain ⟨c, u, hcu⟩ : ∃ c u, q ++ b :: t = c :: u := by
      cases q with
      | nil => exact ⟨b, t, rfl⟩
      | cons c q => exact ⟨c, q ++ b :: t, rfl⟩
    have hsaved' : target.drop m.savedTarget = c :: u := by
      rw [hsaved, ht, hcu]
    have hu : u = target.drop (m.savedTarget + 1) := (drop_eq_cons_iff.mp hsaved').2
    rw [hcu] at hnot
    rw [hglob, ht, hcu, literalGlob_skip hnot, ← hpattern, hu, List.nil_append, List.nil_append]

/-- Without a star to go back to, a mismatch is final. -/
lemma MatchState.Tracks.mismatch {pattern target : ByteString} {m : MatchState}
    (h : m.Tracks pattern target) (hlt : m.targetIdx < target.length)
    (hstep : matchStep pattern target m = none) : ¬ LiteralGlob star pattern target := by
  have heffect := matchStep_effect pattern target hlt
  rw [hstep] at heffect
  cases heffect with
  | mismatch hl hne hstar =>
    unfold MatchState.Tracks at h
    simp only [hl] at h
    obtain ⟨b, t, ht⟩ : ∃ b t, target.drop m.targetIdx = b :: t :=
      ⟨_, _, List.drop_eq_getElem_cons hlt⟩
    rw [h, ht]
    exact not_literalGlob_of_mismatch (fun p' => hne b p' t ht) hstar

/-- When all target bytes are matched, what is left of the pattern has to be stars. -/
lemma MatchState.Tracks.matched {pattern target : ByteString} {m : MatchState}
    (h : m.Tracks pattern target) (hge : target.length ≤ m.targetIdx) :
    LiteralGlob star pattern target ↔ ∀ a ∈ pattern.drop m.patternIdx, a = star := by
  unfold MatchState.Tracks at h
  have hnil : target.drop m.targetIdx = [] := List.drop_eq_nil_of_le hge
  cases hl : m.lastStar with
  | none =>
    simp only [hl] at h
    rw [h, hnil, literalGlob_nil_right]
  | some l =>
    simp only [hl] at h
    obtain ⟨q, hpattern, hsaved, hglob⟩ := h
    rw [hglob, hnil, List.append_nil, literalGlob_end]

/-- The second loop reaches the end of the pattern exactly when only stars are left. -/
lemma skipStars_eq_length_iff {pattern : ByteString} {i : ℕ} (hi : i ≤ pattern.length) :
    skipStars pattern i = pattern.length ↔ ∀ a ∈ pattern.drop i, a = star := by
  have hlen : ((pattern.drop i).takeWhile (· == star)).length = (pattern.drop i).length ↔
      ∀ a ∈ pattern.drop i, a = star := by
    constructor
    · intro h a ha
      have heq : (pattern.drop i).takeWhile (· == star) = pattern.drop i :=
        (List.takeWhile_prefix _).eq_of_length h
      rw [← heq] at ha
      simpa using List.mem_takeWhile_imp ha
    · intro h
      rw [List.takeWhile_eq_self_iff.mpr (by simpa using h)]
  rw [← hlen, List.length_drop]
  unfold skipStars
  omega

/-! ## The whole matcher -/

/-- The main loop ends, and what it ends with decides the match. -/
lemma matchLoop_correct {pattern target : ByteString} (fuel : ℕ) {m : MatchState}
    (hrange : m.InRange pattern target) (htracks : m.Tracks pattern target)
    (hfuel : m.remaining pattern target < fuel) :
    (matchLoop pattern target fuel m = some .mismatch ∧ ¬ LiteralGlob star pattern target) ∨
      ∃ m', matchLoop pattern target fuel m = some (.matched m') ∧
        (LiteralGlob star pattern target ↔ skipStars pattern m'.patternIdx = pattern.length) := by
  induction fuel generalizing m with
  | zero => omega
  | succ fuel ih =>
    unfold matchLoop
    by_cases hlt : m.targetIdx < target.length
    · rw [if_pos hlt]
      cases hstep : matchStep pattern target m with
      | none => exact .inl ⟨rfl, htracks.mismatch hlt hstep⟩
      | some m' =>
        have hless := hrange.remaining_lt hlt hstep
        exact ih (hrange.step hlt hstep) (htracks.step hlt hstep) (by omega)
    · rw [if_neg hlt]
      refine .inr ⟨m, rfl, ?_⟩
      rw [skipStars_eq_length_iff hrange.patternIdx_le]
      exact htracks.matched (not_lt.mp hlt)

/-- The matcher accepts a target exactly when the pattern stands for it with literal stars. -/
theorem wildcardMatch_iff_literalGlob (pattern target : ByteString) :
    wildcardMatch pattern target = true ↔ LiteralGlob star pattern target := by
  have hloop := matchLoop_correct (matchFuel pattern target)
    (MatchState.inRange_init pattern target) (MatchState.tracks_init pattern target)
    (remaining_init_lt_matchFuel pattern target)
  unfold wildcardMatch
  rcases hloop with ⟨hloop, hnot⟩ | ⟨m', hloop, hglob⟩
  · rw [hloop]
    simp [hnot]
  · rw [hloop, hglob]
    simp

/-- The matcher accepts a target without stars exactly when the pattern stands for it. -/
theorem wildcardMatch_iff_glob {target : ByteString} (htarget : star ∉ target)
    (pattern : ByteString) :
    wildcardMatch pattern target = true ↔ Glob star pattern target := by
  rw [wildcardMatch_iff_literalGlob, literalGlob_iff_glob htarget]

/-- The answer of the matcher is the right one exactly when the pattern stands for the target in no
way, or also in one where every star of the pattern that comes to stand at a star of the target is
replaced by this byte alone. -/
theorem wildcardMatch_exact_iff (pattern target : ByteString) :
    (wildcardMatch pattern target = true ↔ Glob star pattern target) ↔
      (Glob star pattern target → LiteralGlob star pattern target) := by
  rw [wildcardMatch_iff_literalGlob]
  constructor
  · intro h
    exact h.mpr
  · intro h
    exact ⟨LiteralGlob.glob, h⟩

/-- The pattern `*` stands for the target `*a`, and the matcher does not accept it: the star of the
pattern is matched with the star of the target, and is never remembered. -/
theorem wildcardMatch_inexact :
    ¬ (wildcardMatch [42] [42, 97] = true ↔ Glob star [42] [42, 97]) := by
  have hglob : Glob star [42] [42, 97] := .star [42, 97] .nil
  have hmatch : wildcardMatch [42] [42, 97] = false := by decide
  simp [hglob, hmatch]

/-! ## Termination -/

/-- One iteration of the main loop: target bytes remain, and it does not return. -/
def Iterates (pattern target : ByteString) (m m' : MatchState) : Prop :=
  m.targetIdx < target.length ∧ matchStep pattern target m = some m'

/-- The indices are in range after any number of iterations. -/
lemma MatchState.inRange_of_iterates {pattern target : ByteString} {m : MatchState}
    (h : Relation.ReflTransGen (Iterates pattern target) .init m) : m.InRange pattern target := by
  induction h with
  | refl => exact MatchState.inRange_init pattern target
  | tail _ hstep ih => exact ih.step hstep.1 hstep.2

/-- A loop that ends with some fuel ends in the same way with more. -/
lemma matchLoop_mono {pattern target : ByteString} {fuel fuel' : ℕ} (hle : fuel ≤ fuel')
    {m : MatchState} {e : MatchExit} (h : matchLoop pattern target fuel m = some e) :
    matchLoop pattern target fuel' m = some e := by
  induction fuel generalizing fuel' m with
  | zero => cases h
  | succ fuel ih =>
    obtain ⟨fuel', rfl⟩ : ∃ n, fuel' = n + 1 := ⟨fuel' - 1, by omega⟩
    unfold matchLoop at h ⊢
    split_ifs at h ⊢
    · cases hstep : matchStep pattern target m with
      | none =>
        rw [hstep] at h
        exact h
      | some m' =>
        rw [hstep] at h
        exact ih (by omega) h
    · exact h

/-- The main loop ends on every input, after fewer iterations than `matchFuel` counts, and its
indices stay in range all the time. -/
theorem matchLoop_terminates (pattern target : ByteString) :
    (∃ e, ∀ fuel ≥ matchFuel pattern target, matchLoop pattern target fuel .init = some e) ∧
      ∀ m, Relation.ReflTransGen (Iterates pattern target) .init m →
        m.targetIdx ≤ target.length ∧ m.patternIdx ≤ pattern.length ∧
          m.savedTarget ≤ m.targetIdx ∧ ∀ l ∈ m.lastStar, l < pattern.length := by
  constructor
  · obtain ⟨e, he⟩ : ∃ e,
        matchLoop pattern target (matchFuel pattern target) .init = some e := by
      have hloop := matchLoop_correct (matchFuel pattern target)
        (MatchState.inRange_init pattern target) (MatchState.tracks_init pattern target)
        (remaining_init_lt_matchFuel pattern target)
      rcases hloop with ⟨hloop, -⟩ | ⟨m', hloop, -⟩
      · exact ⟨_, hloop⟩
      · exact ⟨_, hloop⟩
    exact ⟨e, fun fuel hfuel => matchLoop_mono hfuel he⟩
  · intro m hm
    have hrange := MatchState.inRange_of_iterates hm
    exact ⟨hrange.targetIdx_le, hrange.patternIdx_le, hrange.savedTarget_le, hrange.lastStar_lt⟩

end Chat262
