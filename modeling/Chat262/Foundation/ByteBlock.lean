import Mathlib

/-!
# Blocks of bytes

What a program that lays out messages by hand does with memory: little-endian integers, reads from
a block of a known length, and writes into one.

`leBytes` and `leNat` convert between a natural number and its little-endian digits.  An access that
leaves its block is a `Fault`, so that a computation made of accesses returns exactly when all of
them stay inside.  A `Write` is a copy of some bytes to an offset; a list of them, in the order in
which they are made, is all that is kept of a program that fills a block.
-/

namespace Foundation

/-! ## Little-endian integers -/

/-- The `w` low bytes of `n`, the lowest first. -/
def leBytes : ℕ → ℕ → List UInt8
  | 0, _ => []
  | w + 1, n => UInt8.ofNat n :: leBytes w (n / 256)

/-- The number whose bytes are `bs`, the lowest first. -/
def leNat : List UInt8 → ℕ
  | [] => 0
  | b :: bs => b.toNat + 256 * leNat bs

/-- `leBytes w` yields `w` bytes. -/
@[simp] lemma length_leBytes (w n : ℕ) : (leBytes w n).length = w := by
  induction w generalizing n with
  | zero => rfl
  | succ w ih => simp [leBytes, ih]

/-- A number of `w` bytes is less than `256 ^ w`. -/
lemma leNat_lt (bs : List UInt8) : leNat bs < 256 ^ bs.length := by
  induction bs with
  | nil => simp [leNat]
  | cons b bs ih =>
    have hb : b.toNat < 256 := b.toNat_lt
    simp only [leNat, List.length_cons, pow_succ]
    omega

/-- Decoding `w` bytes of `n` gives `n` modulo `256 ^ w`. -/
lemma leNat_leBytes (w n : ℕ) : leNat (leBytes w n) = n % 256 ^ w := by
  induction w generalizing n with
  | zero => simp [leBytes, leNat, Nat.mod_one]
  | succ w ih =>
    have hb : (UInt8.ofNat n).toNat = n % 256 := by simp
    rw [leBytes, leNat, ih, hb, pow_succ, Nat.mul_comm (256 ^ w) 256, Nat.mod_mul]

/-- Decoding the bytes of a number that fits gives it back. -/
lemma leNat_leBytes_of_lt {w n : ℕ} (h : n < 256 ^ w) : leNat (leBytes w n) = n := by
  rw [leNat_leBytes, Nat.mod_eq_of_lt h]

/-- Equally many bytes of the same number are the same bytes. -/
lemma leNat_inj {bs bs' : List UInt8} (hlen : bs.length = bs'.length)
    (h : leNat bs = leNat bs') : bs = bs' := by
  induction bs generalizing bs' with
  | nil => exact (List.length_eq_zero_iff.mp hlen.symm).symm
  | cons b bs ih =>
    cases bs' with
    | nil => simp at hlen
    | cons b' bs' =>
      have hb : b.toNat < 256 := b.toNat_lt
      have hb' : b'.toNat < 256 := b'.toNat_lt
      simp only [leNat] at h
      have hhead : b = b' := UInt8.toNat_inj.mp (by omega)
      rw [hhead, ih (by simpa using hlen) (by omega)]

/-! ## Reads -/

/-- An access to the `len` bytes at offset `off` of a block that does not hold them. -/
structure Fault where
  off : ℕ
  len : ℕ
deriving DecidableEq, Repr

/-- Read `len` bytes at offset `off`. -/
def readAt (data : List UInt8) (off len : ℕ) : Except Fault (List UInt8) :=
  if off + len ≤ data.length then .ok ((data.drop off).take len) else .error ⟨off, len⟩

/-- A read inside the block returns the bytes that are there. -/
lemma readAt_of_le {data : List UInt8} {off len : ℕ} (h : off + len ≤ data.length) :
    readAt data off len = .ok ((data.drop off).take len) := if_pos h

/-- A read that leaves the block is a fault. -/
lemma readAt_of_lt {data : List UInt8} {off len : ℕ} (h : data.length < off + len) :
    readAt data off len = .error ⟨off, len⟩ := if_neg (by omega)

/-- A read that returns stays inside the block. -/
lemma readAt_eq_ok {data : List UInt8} {off len : ℕ} {bs : List UInt8} :
    readAt data off len = .ok bs ↔ off + len ≤ data.length ∧ (data.drop off).take len = bs := by
  by_cases h : off + len ≤ data.length
  · simp [readAt_of_le h, h]
  · simp [readAt_of_lt (Nat.lt_of_not_le h), h]

/-- A read of a field that follows `pre` and is followed by `post` returns the field. -/
lemma readAt_append (pre field post : List UInt8) {off len : ℕ} (hoff : off = pre.length)
    (hlen : len = field.length) : readAt (pre ++ field ++ post) off len = .ok field := by
  subst hoff hlen
  rw [readAt_of_le (by simp), List.append_assoc, List.drop_left, List.take_left]

/-- The 32-bit little-endian word at offset `off`; short of four bytes, of those that are there. -/
def wordAt (data : List UInt8) (off : ℕ) : UInt32 :=
  UInt32.ofNat (leNat ((data.drop off).take 4))

/-- Read the 32-bit little-endian word at offset `off`. -/
def readWord (data : List UInt8) (off : ℕ) : Except Fault UInt32 :=
  (readAt data off 4).map fun bs => UInt32.ofNat (leNat bs)

/-- A word inside the block is read as it stands there. -/
lemma readWord_of_le {data : List UInt8} {off : ℕ} (h : off + 4 ≤ data.length) :
    readWord data off = .ok (wordAt data off) := by
  rw [readWord, readAt_of_le h]
  rfl

/-- A word encoded after `pre` is read back. -/
lemma wordAt_append (pre post : List UInt8) {off n : ℕ} (hoff : off = pre.length)
    (hn : n < 2 ^ 32) : wordAt (pre ++ leBytes 4 n ++ post) off = UInt32.ofNat n := by
  subst hoff
  have h4 : (leBytes 4 n).length = 4 := length_leBytes 4 n
  rw [wordAt, List.append_assoc, List.drop_left, List.take_left' h4,
    leNat_leBytes_of_lt (by omega)]

/-- The `n` words that stand one after the other from offset `off` on. -/
def wordsAt (data : List UInt8) : ℕ → ℕ → List UInt32
  | 0, _ => []
  | n + 1, off => wordAt data off :: wordsAt data n (off + 4)

/-- `wordsAt` yields as many words as it is asked for. -/
@[simp] lemma length_wordsAt (data : List UInt8) (n off : ℕ) :
    (wordsAt data n off).length = n := by
  induction n generalizing off with
  | zero => rfl
  | succ n ih => simp [wordsAt, ih]

/-- The sum of some 32-bit lengths, as a natural number. -/
def totalLength (lens : List UInt32) : ℕ := (lens.map UInt32.toNat).sum

/-- Nothing sums up to zero. -/
@[simp] lemma totalLength_nil : totalLength [] = 0 := rfl

/-- The first length adds to the sum of the others. -/
@[simp] lemma totalLength_cons (len : UInt32) (lens : List UInt32) :
    totalLength (len :: lens) = len.toNat + totalLength lens := by
  simp [totalLength]

/-- Adding the lengths up in 32 bits gives their sum modulo `2 ^ 32`. -/
lemma foldl_add_toNat (lens : List UInt32) (acc : UInt32) :
    (lens.foldl (· + ·) acc).toNat = (acc.toNat + totalLength lens) % 2 ^ 32 := by
  induction lens generalizing acc with
  | nil => simp [Nat.mod_eq_of_lt acc.toNat_lt]
  | cons len lens ih =>
    rw [List.foldl_cons, ih, UInt32.toNat_add, totalLength_cons, Nat.mod_add_mod, Nat.add_assoc]

/-! ## Writes -/

/-- A copy of `bytes` to the offset `off` of a block. -/
structure Write where
  off : ℕ
  bytes : List UInt8
deriving DecidableEq, Repr

/-- The write falls inside a block of `n` bytes. -/
def Write.Fits (n : ℕ) (w : Write) : Prop := w.off + w.bytes.length ≤ n

instance (n : ℕ) (w : Write) : Decidable (w.Fits n) :=
  inferInstanceAs (Decidable (_ ≤ _))

/-- The same write, `k` bytes further. -/
def Write.shift (k : ℕ) (w : Write) : Write := { w with off := k + w.off }

/-- A shifted write fits exactly when the write fits into the rest of the block. -/
lemma Write.shift_fits {k n : ℕ} {w : Write} : (w.shift k).Fits (k + n) ↔ w.Fits n := by
  simp only [Write.shift, Write.Fits]
  omega

/-- The number of bytes that the writes copy. -/
def bytesWritten (ws : List Write) : ℕ := (ws.map fun w => w.bytes.length).sum

/-- No write copies no byte. -/
@[simp] lemma bytesWritten_nil : bytesWritten [] = 0 := rfl

/-- The first write adds its bytes. -/
@[simp] lemma bytesWritten_cons (w : Write) (ws : List Write) :
    bytesWritten (w :: ws) = w.bytes.length + bytesWritten ws := by
  simp [bytesWritten]

end Foundation
