import Mathlib

/-!
# The wildcard matcher of the account search

`wildcardMatch` walks a pattern and a target with two indices.  `matchStep` is one iteration of its
main loop, on the four local variables `MatchState`; `matchLoop` repeats it while target bytes
remain, and `skipStars` is the loop that drops the stars at the end of the pattern.
-/

namespace Chat262

/-- A `std::string`: a sequence of bytes. -/
abbrev ByteString := List UInt8

/-- The byte `'*'`. -/
def star : UInt8 := 42

/-- The local variables of `wildcard_match`.  `lastStar` is `none` while `last_star` still holds
`static_cast<size_t>(-1)`. -/
structure MatchState where
  /-- Index of the next target byte to match. -/
  targetIdx : ℕ
  /-- Index of the next pattern byte to match. -/
  patternIdx : ℕ
  lastStar : Option ℕ
  /-- The first target byte that star does not consume yet. -/
  savedTarget : ℕ
deriving DecidableEq, Repr

/-- The local variables before the first iteration. -/
def MatchState.init : MatchState := ⟨0, 0, none, 0⟩

/-- One iteration of the main loop; `none` is the `return false` of its last branch. -/
def matchStep (pattern target : ByteString) (m : MatchState) : Option MatchState :=
  if m.patternIdx < pattern.length ∧ target[m.targetIdx]? = pattern[m.patternIdx]? then
    some { m with targetIdx := m.targetIdx + 1, patternIdx := m.patternIdx + 1 }
  else if m.patternIdx < pattern.length ∧ pattern[m.patternIdx]? = some star then
    some { m with
      lastStar := some m.patternIdx
      patternIdx := m.patternIdx + 1
      savedTarget := m.targetIdx }
  else
    match m.lastStar with
    | some l =>
      some { m with
        patternIdx := l + 1
        targetIdx := m.savedTarget + 1
        savedTarget := m.savedTarget + 1 }
    | none => none

/-- How the main loop is left: by its `return false`, or with all target bytes matched. -/
inductive MatchExit where
  | mismatch
  | matched (m : MatchState)
deriving DecidableEq, Repr

/-- The main loop, for at most `fuel` iterations; `none` if it is still running then. -/
def matchLoop (pattern target : ByteString) : ℕ → MatchState → Option MatchExit
  | 0, _ => none
  | fuel + 1, m =>
    if m.targetIdx < target.length then
      match matchStep pattern target m with
      | some m' => matchLoop pattern target fuel m'
      | none => some .mismatch
    else some (.matched m)

/-- A number of iterations the main loop does not exceed. -/
def matchFuel (pattern target : ByteString) : ℕ :=
  (pattern.length + 1) * (target.length + 1) * (target.length + 1) + 1

/-- The index of the first pattern byte from `i` on that is not a star. -/
def skipStars (pattern : ByteString) (i : ℕ) : ℕ :=
  i + ((pattern.drop i).takeWhile (· == star)).length

/-- `database::wildcard_match`: does `target` match `pattern`, where a star in the pattern stands
for any bytes? -/
def wildcardMatch (pattern target : ByteString) : Bool :=
  match matchLoop pattern target (matchFuel pattern target) .init with
  | some (.matched m) => skipStars pattern m.patternIdx == pattern.length
  | _ => false

end Chat262
