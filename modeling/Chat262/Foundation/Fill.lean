import Chat262.Foundation.ByteBlock

/-!
# Filling a block

A block from `malloc` holds arbitrary bytes until it is written.  `writeAll` performs a list of
writes, and faults at the first one that leaves the block; `fill` is what is in the block after
writes that all stay inside (`writeAll_eq_ok`).  `fill_eq` says what they make of the block: when
every write `Places` its bytes where they stand in some contents, and every position of the contents
is covered by a write, the block holds the contents at the end.  Neither the order of the writes nor
what was in the block matters.
-/

namespace Foundation

/-- The block after a write that falls inside it. -/
def Write.store (w : Write) (block : List UInt8) : List UInt8 :=
  block.take w.off ++ w.bytes ++ block.drop (w.off + w.bytes.length)

/-- The block after some writes that fall inside it, the first one first. -/
def fill (ws : List Write) (block : List UInt8) : List UInt8 :=
  ws.foldl (fun b w => w.store b) block

/-- Perform a write. -/
def writeAt (block : List UInt8) (w : Write) : Except Fault (List UInt8) :=
  if w.Fits block.length then .ok (w.store block) else .error ⟨w.off, w.bytes.length⟩

/-- Perform some writes, the first one first. -/
def writeAll : List Write → List UInt8 → Except Fault (List UInt8)
  | [], block => .ok block
  | w :: ws, block => do
    let block' ← writeAt block w
    writeAll ws block'

/-- The bytes of the write are those of the contents at its place. -/
def Write.Places (contents : List UInt8) (w : Write) : Prop :=
  w.Fits contents.length ∧ (contents.drop w.off).take w.bytes.length = w.bytes

/-- The position `i` is written. -/
def Write.Covers (i : ℕ) (w : Write) : Prop := w.off ≤ i ∧ i < w.off + w.bytes.length

/-- A write inside the block keeps its length. -/
lemma Write.length_store {w : Write} {block : List UInt8} (h : w.Fits block.length) :
    (w.store block).length = block.length := by
  unfold Write.Fits at h
  simp only [Write.store, List.length_append, List.length_take, List.length_drop]
  omega

/-- Writes return exactly when they all stay inside the block, and then fill it. -/
lemma writeAll_eq_ok {ws : List Write} {block block' : List UInt8} :
    writeAll ws block = .ok block' ↔
      (∀ w ∈ ws, w.Fits block.length) ∧ fill ws block = block' := by
  induction ws generalizing block with
  | nil => simp [writeAll, fill]
  | cons w ws ih =>
    by_cases hw : w.Fits block.length
    · have hstep : writeAll (w :: ws) block = writeAll ws (w.store block) := by
        rw [writeAll, writeAt, if_pos hw]
        rfl
      rw [hstep, ih, Write.length_store hw, List.forall_mem_cons]
      exact and_congr_left fun _ => (and_iff_right hw).symm
    · have hstep : writeAll (w :: ws) block = .error ⟨w.off, w.bytes.length⟩ := by
        rw [writeAll, writeAt, if_neg hw]
        rfl
      rw [hstep, List.forall_mem_cons]
      constructor
      · intro h
        cases h
      · rintro ⟨⟨hfits, -⟩, -⟩
        exact absurd hfits hw

/-- Writes that stay inside the block do not fault. -/
lemma writeAll_of_fits {ws : List Write} {block : List UInt8}
    (h : ∀ w ∈ ws, w.Fits block.length) : writeAll ws block = .ok (fill ws block) :=
  writeAll_eq_ok.mpr ⟨h, rfl⟩

/-- A position that a write covers holds what the contents have there. -/
lemma Write.Places.getElem?_of_covers {contents : List UInt8} {w : Write} (h : w.Places contents)
    {block : List UInt8} (hlen : block.length = contents.length) {i : ℕ} (hi : w.Covers i) :
    (w.store block)[i]? = contents[i]? := by
  obtain ⟨hfits, hbytes⟩ := h
  obtain ⟨hle, hlt⟩ := hi
  unfold Write.Fits at hfits
  have htake : (block.take w.off).length = w.off := by
    rw [List.length_take]
    omega
  rw [Write.store, List.append_assoc, List.getElem?_append_right (by omega), htake,
    List.getElem?_append_left (by omega), ← hbytes, List.getElem?_take_of_lt (by omega),
    List.getElem?_drop]
  congr 1
  omega

/-- A position that a write does not cover is left alone. -/
lemma Write.getElem?_of_not_covers {w : Write} {block : List UInt8} (h : w.Fits block.length)
    {i : ℕ} (hi : ¬ w.Covers i) : (w.store block)[i]? = block[i]? := by
  unfold Write.Fits at h
  unfold Write.Covers at hi
  have htake : (block.take w.off).length = w.off := by
    rw [List.length_take]
    omega
  rw [Write.store, List.append_assoc]
  by_cases hlt : i < w.off
  · rw [List.getElem?_append_left (by omega), List.getElem?_take_of_lt hlt]
  · rw [List.getElem?_append_right (by omega), htake, List.getElem?_append_right (by omega),
      List.getElem?_drop]
    congr 1
    omega

/-- A write behind the first `k` bytes leaves them alone. -/
lemma Write.take_store {w : Write} {block : List UInt8} {k : ℕ} (hk : k ≤ w.off)
    (hlen : k ≤ block.length) : (w.store block).take k = block.take k := by
  have htake : k ≤ (block.take w.off).length := by
    rw [List.length_take]
    omega
  rw [Write.store, List.append_assoc, List.take_append_of_le_length htake, List.take_take,
    Nat.min_eq_left hk]

/-- A write does not make the block shorter. -/
lemma Write.le_length_store (w : Write) (block : List UInt8) :
    block.length ≤ (w.store block).length := by
  simp only [Write.store, List.length_append, List.length_take, List.length_drop]
  omega

/-- Writes do not make the block shorter. -/
lemma le_length_fill (ws : List Write) (block : List UInt8) :
    block.length ≤ (fill ws block).length := by
  induction ws generalizing block with
  | nil => exact le_rfl
  | cons w ws ih => exact (w.le_length_store block).trans (ih (w.store block))

/-- Writes inside the block keep its length. -/
lemma length_fill {ws : List Write} {block : List UInt8} (h : ∀ w ∈ ws, w.Fits block.length) :
    (fill ws block).length = block.length := by
  induction ws generalizing block with
  | nil => rfl
  | cons w ws ih =>
    have hw := Write.length_store (h w List.mem_cons_self)
    rw [fill, List.foldl_cons, ← fill, ih, hw]
    intro w' hw'
    rw [hw]
    exact h w' (List.mem_cons_of_mem w hw')

/-- Writes behind the first `k` bytes leave them alone. -/
lemma take_fill {ws : List Write} {block : List UInt8} {k : ℕ} (hws : ∀ w ∈ ws, k ≤ w.off)
    (hlen : k ≤ block.length) : (fill ws block).take k = block.take k := by
  induction ws generalizing block with
  | nil => rfl
  | cons w ws ih =>
    have hfirst := Write.take_store (hws w List.mem_cons_self) hlen
    rw [fill, List.foldl_cons, ← fill,
      ih (fun w' hw' => hws w' (List.mem_cons_of_mem w hw')) (hlen.trans (w.le_length_store block)),
      hfirst]

/-- A write that fits in front of `post` leaves it alone. -/
lemma Write.store_append {w : Write} {block : List UInt8} (h : w.Fits block.length)
    (post : List UInt8) : w.store (block ++ post) = w.store block ++ post := by
  unfold Write.Fits at h
  rw [Write.store, Write.store, List.take_append_of_le_length (by omega),
    List.drop_append_of_le_length h, List.append_assoc, List.append_assoc, List.append_assoc]

/-- Writes that fit in front of `post` leave it alone. -/
lemma fill_append {ws : List Write} {block : List UInt8} (h : ∀ w ∈ ws, w.Fits block.length)
    (post : List UInt8) : fill ws (block ++ post) = fill ws block ++ post := by
  induction ws generalizing block with
  | nil => rfl
  | cons w ws ih =>
    have hw := h w List.mem_cons_self
    have hrest : ∀ w' ∈ ws, w'.Fits (w.store block).length := by
      intro w' hw'
      rw [Write.length_store hw]
      exact h w' (List.mem_cons_of_mem w hw')
    simp only [fill, List.foldl_cons] at ih ⊢
    rw [Write.store_append hw, ih hrest]

/-- Writes that place bytes of the contents leave the contents at every position that one of them
covers. -/
lemma getElem?_fill {contents : List UInt8} {ws : List Write}
    (hplaces : ∀ w ∈ ws, w.Places contents) {block : List UInt8}
    (hlen : block.length = contents.length) {i : ℕ}
    (hi : block[i]? = contents[i]? ∨ ∃ w ∈ ws, w.Covers i) :
    (fill ws block)[i]? = contents[i]? := by
  induction ws generalizing block with
  | nil =>
    rcases hi with hi | ⟨w, hw, -⟩
    · exact hi
    · cases hw
  | cons w ws ih =>
    have hw := hplaces w List.mem_cons_self
    have hfits : w.Fits block.length := hlen ▸ hw.1
    rw [fill, List.foldl_cons, ← fill]
    refine ih (fun w' hw' => hplaces w' (List.mem_cons_of_mem w hw'))
      ((Write.length_store hfits).trans hlen) ?_
    by_cases hcovers : w.Covers i
    · exact .inl (hw.getElem?_of_covers hlen hcovers)
    · rcases hi with hi | ⟨w', hw', hi⟩
      · exact .inl ((Write.getElem?_of_not_covers hfits hcovers).trans hi)
      · rcases List.mem_cons.mp hw' with rfl | hw'
        · exact absurd hi hcovers
        · exact .inr ⟨w', hw', hi⟩

/-- The writes place bytes of the contents and cover all of it. -/
structure Fills (ws : List Write) (contents : List UInt8) : Prop where
  /-- Every write copies what stands at its place. -/
  places : ∀ w ∈ ws, w.Places contents
  /-- Every position is written. -/
  covers : ∀ i < contents.length, ∃ w ∈ ws, w.Covers i

/-- Writes that fill the contents leave it in a block of its length. -/
theorem Fills.fill_eq {ws : List Write} {contents block : List UInt8} (h : Fills ws contents)
    (hlen : block.length = contents.length) : fill ws block = contents := by
  apply List.ext_getElem?
  intro i
  by_cases hi : i < contents.length
  · exact getElem?_fill h.places hlen (.inr (h.covers i hi))
  · refine getElem?_fill h.places hlen (.inl ?_)
    rw [List.getElem?_eq_none (by omega), List.getElem?_eq_none (by omega)]

/-- Writes that fill the front of a block leave their contents there, whatever is written behind the
front. -/
lemma Fills.take_fill_append {ws ws' : List Write} {contents block : List UInt8}
    (h : Fills ws contents) (hlen : contents.length ≤ block.length)
    (hbehind : ∀ w ∈ ws', contents.length ≤ w.off) :
    (fill (ws ++ ws') block).take contents.length = contents := by
  have htake : (block.take contents.length).length = contents.length := by
    rw [List.length_take, Nat.min_eq_left hlen]
  have hfits : ∀ w ∈ ws, w.Fits (block.take contents.length).length := by
    intro w hw
    rw [htake]
    exact (h.places w hw).1
  have hfirst : fill ws block = contents ++ block.drop contents.length := by
    conv_lhs => rw [← List.take_append_drop contents.length block]
    rw [fill_append hfits, h.fill_eq htake]
  have hsplit : fill (ws ++ ws') block = fill ws' (fill ws block) := List.foldl_append ..
  rw [hsplit, take_fill hbehind (hlen.trans (le_length_fill ws block)), hfirst, List.take_left]

/-! ## Contents in parts -/

/-- A shifted write places bytes of what stands that much further in the contents. -/
lemma Write.Places.shift {contents pre : List UInt8} {w : Write} (h : w.Places contents) {k : ℕ}
    (hk : k = pre.length) : (w.shift k).Places (pre ++ contents) := by
  subst hk
  obtain ⟨hfits, hbytes⟩ := h
  refine ⟨?_, ?_⟩
  · rw [List.length_append]
    exact Write.shift_fits.mpr hfits
  · rw [Write.shift, ← List.drop_drop, List.drop_left]
    exact hbytes

/-- A write places bytes of what more contents follow. -/
lemma Write.Places.append {contents : List UInt8} {w : Write} (h : w.Places contents)
    (post : List UInt8) : w.Places (contents ++ post) := by
  obtain ⟨hfits, hbytes⟩ := h
  unfold Write.Fits at hfits
  refine ⟨?_, ?_⟩
  · rw [Write.Fits, List.length_append]
    omega
  · rw [List.drop_append_of_le_length (by omega),
      List.take_append_of_le_length (by rw [List.length_drop]; omega)]
    exact hbytes

/-- A shifted write covers the shifted positions. -/
lemma Write.covers_shift {w : Write} {k i : ℕ} : (w.shift k).Covers (k + i) ↔ w.Covers i := by
  simp only [Write.Covers, Write.shift]
  omega

/-- No write fills nothing. -/
lemma fills_nil : Fills [] [] := by
  constructor <;> simp

/-- Writes that fill the first part, and shifted writes that fill the second part, fill both. -/
lemma Fills.append {ws ws' : List Write} {pre post : List UInt8} (h : Fills ws pre)
    (h' : Fills ws' post) {k : ℕ} (hk : k = pre.length) :
    Fills (ws ++ ws'.map (Write.shift k)) (pre ++ post) := by
  constructor
  case places =>
    intro w hw
    rcases List.mem_append.mp hw with hw | hw
    · exact (h.places w hw).append post
    · obtain ⟨w', hw', rfl⟩ := List.mem_map.mp hw
      exact (h'.places w' hw').shift hk
  case covers =>
    intro i hi
    by_cases hpre : i < pre.length
    · obtain ⟨w, hw, hcovers⟩ := h.covers i hpre
      exact ⟨w, List.mem_append_left _ hw, hcovers⟩
    · rw [List.length_append] at hi
      obtain ⟨w, hw, hcovers⟩ := h'.covers (i - k) (by omega)
      refine ⟨w.shift k, List.mem_append_right _ (List.mem_map_of_mem hw), ?_⟩
      have hshift : (w.shift k).Covers (k + (i - k)) := Write.covers_shift.mpr hcovers
      rwa [Nat.add_sub_of_le (by omega)] at hshift

/-- One write behind what is filled fills one field more. -/
lemma Fills.concat {ws : List Write} {pre : List UInt8} (h : Fills ws pre) (off : ℕ)
    (hoff : off = pre.length) (field : List UInt8) :
    Fills (ws ++ [⟨off, field⟩]) (pre ++ field) := by
  have hfield : Fills [⟨0, field⟩] field := by
    constructor
    case places =>
      intro w hw
      rw [List.mem_singleton.mp hw]
      exact ⟨by simp [Write.Fits], by simp⟩
    case covers =>
      intro i hi
      exact ⟨_, List.mem_singleton_self _, by simpa [Write.Covers] using hi⟩
  simpa [Write.shift] using h.append hfield hoff

/-- The same writes in another order fill the same contents. -/
lemma Fills.of_mem_iff {ws ws' : List Write} {contents : List UInt8} (h : Fills ws contents)
    (hmem : ∀ w, w ∈ ws' ↔ w ∈ ws) : Fills ws' contents := by
  constructor
  case places => exact fun w hw => h.places w ((hmem w).mp hw)
  case covers =>
    intro i hi
    obtain ⟨w, hw, hcovers⟩ := h.covers i hi
    exact ⟨w, (hmem w).mpr hw, hcovers⟩

/-! ## Fields one after the other -/

/-- The writes of some fields, one after the other from the offset `off` on. -/
def consecutive : ℕ → List (List UInt8) → List Write
  | _, [] => []
  | off, field :: fields => ⟨off, field⟩ :: consecutive (off + field.length) fields

/-- Fields written one after the other behind what is filled fill their concatenation more. -/
lemma Fills.consecutive {ws : List Write} {pre : List UInt8} (h : Fills ws pre) (off : ℕ)
    (hoff : off = pre.length) (fields : List (List UInt8)) :
    Fills (ws ++ Foundation.consecutive off fields) (pre ++ fields.flatten) := by
  induction fields generalizing ws pre off with
  | nil => simpa [Foundation.consecutive] using h
  | cons field fields ih =>
    have hrest := ih (h.concat off hoff field) (off + field.length)
      (by rw [List.length_append, hoff])
    simpa [Foundation.consecutive] using hrest

/-- The words that stand one after the other behind `pre` are read back. -/
lemma wordsAt_flatten (pre post : List UInt8) {ns : List ℕ} (hns : ∀ n ∈ ns, n < 2 ^ 32)
    {off : ℕ} (hoff : off = pre.length) :
    wordsAt (pre ++ (ns.map (leBytes 4)).flatten ++ post) ns.length off =
      ns.map UInt32.ofNat := by
  induction ns generalizing pre off with
  | nil => rfl
  | cons n ns ih =>
    have hsplit : pre ++ ((n :: ns).map (leBytes 4)).flatten ++ post =
        pre ++ leBytes 4 n ++ (ns.map (leBytes 4)).flatten ++ post := by
      simp only [List.map_cons, List.flatten_cons, List.append_assoc]
    rw [hsplit, List.length_cons, wordsAt, List.map_cons,
      ih (pre ++ leBytes 4 n) (fun m hm => hns m (List.mem_cons_of_mem n hm)) (by simp [hoff])]
    congr 1
    rw [List.append_assoc (pre ++ leBytes 4 n)]
    exact wordAt_append pre _ hoff (hns n List.mem_cons_self)

end Foundation
