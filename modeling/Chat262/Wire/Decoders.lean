import Chat262.Foundation.PartialRun
import Chat262.Wire.Message

/-!
# Decoders

The `deserialize` functions of `chat262_protocol.cc`.  A decoder gets the body as a byte vector and
the values of its out parameters, and returns its status with the values they are left with.  Every
read of the body is a `Foundation.readAt`, so a decoder that reads past the end of the vector is a
`Foundation.Fault`, where the C++ program has undefined behaviour.

The list decoders trust a sum of 32-bit lengths that is itself kept in 32 bits.
`boundsSafe_iff` says exactly when this is harmless: a body makes them read out of bounds exactly
when its lengths add up to `2 ^ 32` or more and the rest of the body is as long as what is left of
the sum modulo `2 ^ 32`.
-/

namespace Chat262

open Foundation

/-! ## Requests -/

/-- The decoder shared by the requests without a body. -/
def EmptyRequest.deserialize (data : ByteString) : Status :=
  if data.length ≠ 0 then .bodyError else .ok

/-- `logout_request::deserialize`. -/
def LogoutRequest.deserialize : ByteString → Status := EmptyRequest.deserialize

/-- `correspondents_request::deserialize`. -/
def CorrespondentsRequest.deserialize : ByteString → Status := EmptyRequest.deserialize

/-- `delete_request::deserialize`. -/
def DeleteRequest.deserialize : ByteString → Status := EmptyRequest.deserialize

/-- The decoder shared by the requests that carry one string; `s` is the out parameter. -/
def StringRequest.deserialize (data s : ByteString) : Except Fault (Status × ByteString) := do
  if data.length < 4 then return (.bodyError, s)
  let len ← readWord data 0
  if 4 + len.toNat ≠ data.length then return (.bodyError, s)
  let s' ← readAt data 4 len.toNat
  return (.ok, s')

/-- `accounts_request::deserialize`. -/
def AccountsRequest.deserialize : ByteString → ByteString → Except Fault (Status × ByteString) :=
  StringRequest.deserialize

/-- `recv_txt_request::deserialize`. -/
def RecvTxtRequest.deserialize : ByteString → ByteString → Except Fault (Status × ByteString) :=
  StringRequest.deserialize

/-- The decoder shared by the requests that carry two strings; `a` and `b` are the out
parameters. -/
def PairRequest.deserialize (data a b : ByteString) :
    Except Fault (Status × ByteString × ByteString) := do
  if data.length < 8 then return (.bodyError, a, b)
  let aLen ← readWord data 0
  let bLen ← readWord data 4
  if 8 + aLen.toNat + bLen.toNat ≠ data.length then return (.bodyError, a, b)
  let a' ← readAt data 8 aLen.toNat
  let b' ← readAt data (8 + aLen.toNat) bLen.toNat
  return (.ok, a', b')

/-- `registration_request::deserialize`. -/
def RegistrationRequest.deserialize :
    ByteString → ByteString → ByteString → Except Fault (Status × ByteString × ByteString) :=
  PairRequest.deserialize

/-- `login_request::deserialize`. -/
def LoginRequest.deserialize :
    ByteString → ByteString → ByteString → Except Fault (Status × ByteString × ByteString) :=
  PairRequest.deserialize

/-- `send_txt_request::deserialize`. -/
def SendTxtRequest.deserialize :
    ByteString → ByteString → ByteString → Except Fault (Status × ByteString × ByteString) :=
  PairRequest.deserialize

/-- The body of a request that carries the strings `a` and `b`. -/
def pairBody (a b : ByteString) : ByteString :=
  leBytes 4 a.length ++ leBytes 4 b.length ++ a ++ b

/-- Decoding the body of two short strings gives them back. -/
lemma PairRequest.deserialize_pairBody {a b : ByteString} (ha : a.length < 2 ^ 32)
    (hb : b.length < 2 ^ 32) (x y : ByteString) :
    PairRequest.deserialize (pairBody a b) x y = .ok (.ok, a, b) := by
  have hlen : (pairBody a b).length = 8 + a.length + b.length := by
    simp only [pairBody, List.length_append, length_leBytes]
  have haw : readWord (pairBody a b) 0 = .ok (UInt32.ofNat a.length) := by
    rw [readWord_of_le (by omega)]
    have := wordAt_append [] (leBytes 4 b.length ++ a ++ b) rfl ha
    simpa [pairBody] using this
  have hbw : readWord (pairBody a b) 4 = .ok (UInt32.ofNat b.length) := by
    rw [readWord_of_le (by omega)]
    have := wordAt_append (leBytes 4 a.length) (a ++ b) (length_leBytes 4 _).symm hb
    simpa [pairBody] using this
  have haNat : (UInt32.ofNat a.length).toNat = a.length := UInt32.toNat_ofNat_of_lt' ha
  have hbNat : (UInt32.ofNat b.length).toNat = b.length := UInt32.toNat_ofNat_of_lt' hb
  have har : readAt (pairBody a b) 8 a.length = .ok a :=
    readAt_append (leBytes 4 a.length ++ leBytes 4 b.length) a b (by simp) rfl
  have hbr : readAt (pairBody a b) (8 + a.length) b.length = .ok b := by
    have := readAt_append (leBytes 4 a.length ++ leBytes 4 b.length ++ a) b []
      (show 8 + a.length = _ by simp only [List.length_append, length_leBytes]) rfl
    simpa [pairBody] using this
  unfold PairRequest.deserialize
  rw [if_neg (by omega), haw, hbw]
  change (if 8 + (UInt32.ofNat a.length).toNat + (UInt32.ofNat b.length).toNat ≠ _ then _
    else _) = _
  rw [haNat, hbNat, if_neg (by omega), har]
  change (readAt (pairBody a b) (8 + a.length) b.length >>= _) = _
  rw [hbr]
  rfl

/-! ## Responses with a list -/

/-- The loop that stores `n` lengths and adds them up in 32 bits; `off` stands for `msg_body`. -/
def UsernamesResponse.lengthLoop (data : ByteString) :
    ℕ → ℕ → UInt32 → Except Fault (List UInt32 × UInt32)
  | 0, _, total => .ok ([], total)
  | n + 1, off, total => do
    let len ← readWord data off
    let (lens, total') ← UsernamesResponse.lengthLoop data n (off + 4) (total + len)
    return (len :: lens, total')

/-- The loop that copies the strings; `off` stands for `msg_body`. -/
def copyStrings (data : ByteString) : List UInt32 → ℕ → Except Fault (List ByteString)
  | [], _ => .ok []
  | len :: lens, off => do
    let s ← readAt data off len.toNat
    let ss ← copyStrings data lens (off + len.toNat)
    return s :: ss

/-- The decoder shared by the responses that carry a list of usernames; `statCode` and `usernames`
are the out parameters. -/
def UsernamesResponse.deserialize (data : ByteString) (statCode : StatusCode)
    (usernames : List ByteString) : Except Fault (Status × StatusCode × List ByteString) := do
  if data.length < 4 then return (.bodyError, statCode, usernames)
  let statCodeH ← readWord data 0
  if statCodeH ≠ StatusCode.ok then return (.ok, statCodeH, usernames)
  if data.length < 8 then return (.bodyError, statCode, usernames)
  let num ← readWord data 4
  if data.length < 8 + num.toNat * 4 then return (.bodyError, statCode, usernames)
  let (lens, total) ← UsernamesResponse.lengthLoop data num.toNat 8 0
  if data.length ≠ 8 + num.toNat * 4 + total.toNat then return (.bodyError, statCode, usernames)
  let usernames' ← copyStrings data lens (8 + num.toNat * 4)
  return (.ok, statCodeH, usernames')

/-- `accounts_response::deserialize`. -/
def AccountsResponse.deserialize :
    ByteString → StatusCode → List ByteString →
      Except Fault (Status × StatusCode × List ByteString) :=
  UsernamesResponse.deserialize

/-- `correspondents_response::deserialize`. -/
def CorrespondentsResponse.deserialize :
    ByteString → StatusCode → List ByteString →
      Except Fault (Status × StatusCode × List ByteString) :=
  UsernamesResponse.deserialize

/-- The loop that stores `n` senders and lengths and adds the lengths up in 32 bits; the offsets
stand for `sender_ptr` and `txt_lens_ptr`. -/
def RecvTxtResponse.lengthLoop (data : ByteString) :
    ℕ → ℕ → ℕ → UInt32 → Except Fault (List UInt8 × List UInt32 × UInt32)
  | 0, _, _, total => .ok ([], [], total)
  | n + 1, senderOff, lenOff, total => do
    let sender ← readAt data senderOff 1
    let len ← readWord data lenOff
    let (senders, lens, total') ←
      RecvTxtResponse.lengthLoop data n (senderOff + 1) (lenOff + 4) (total + len)
    return (sender ++ senders, len :: lens, total')

/-- `recv_txt_response::deserialize`; `statCode` and `c` are the out parameters. -/
def RecvTxtResponse.deserialize (data : ByteString) (statCode : StatusCode) (c : Chat) :
    Except Fault (Status × StatusCode × Chat) := do
  if data.length < 4 then return (.bodyError, statCode, c)
  let statCodeH ← readWord data 0
  if statCodeH ≠ StatusCode.ok then return (.ok, statCodeH, c)
  if data.length < 8 then return (.bodyError, statCode, c)
  let num ← readWord data 4
  if data.length < 8 + num.toNat * (1 + 4) then return (.bodyError, statCode, c)
  let (senders, lens, total) ←
    RecvTxtResponse.lengthLoop data num.toNat 8 (8 + num.toNat * 1) 0
  if data.length ≠ 8 + num.toNat * (1 + 4) + total.toNat then
    return (.bodyError, statCode, c)
  let contents ← copyStrings data lens (8 + num.toNat * (1 + 4))
  return (.ok, statCodeH, ⟨List.zipWith Text.mk senders contents⟩)

/-! ## What a list decoder reads -/

/-- The number of items that a list response announces. -/
def itemCount (data : ByteString) : ℕ := (wordAt data 4).toNat

/-- The lengths that a response with usernames announces. -/
def UsernamesResponse.lengths (data : ByteString) : List UInt32 := wordsAt data (itemCount data) 8

/-- Where the usernames begin: status code, count and one length for each username. -/
def UsernamesResponse.fixedPart (data : ByteString) : ℕ := 8 + itemCount data * 4

/-- The lengths that a response with a chat announces, which stand behind the senders. -/
def RecvTxtResponse.lengths (data : ByteString) : List UInt32 :=
  wordsAt data (itemCount data) (8 + itemCount data * 1)

/-- Where the texts begin: status code, count, and a sender and a length for each text. -/
def RecvTxtResponse.fixedPart (data : ByteString) : ℕ := 8 + itemCount data * (1 + 4)

/-- The length loop returns the lengths that are there and adds them up modulo `2 ^ 32`. -/
lemma UsernamesResponse.lengthLoop_eq {data : ByteString} {n off : ℕ} {total : UInt32}
    (h : off + n * 4 ≤ data.length) :
    UsernamesResponse.lengthLoop data n off total =
      .ok (wordsAt data n off, (wordsAt data n off).foldl (· + ·) total) := by
  induction n generalizing off total with
  | zero => rfl
  | succ n ih =>
    have hword : readWord data off = .ok (wordAt data off) := readWord_of_le (by omega)
    simp only [UsernamesResponse.lengthLoop, hword, wordsAt, List.foldl_cons]
    change (UsernamesResponse.lengthLoop data n (off + 4) _ >>= _) = _
    rw [ih (by omega)]
    rfl

/-- The loop over senders and lengths returns the senders and the lengths that are there and adds
the lengths up modulo `2 ^ 32`. -/
lemma RecvTxtResponse.lengthLoop_eq {data : ByteString} {n senderOff lenOff : ℕ} {total : UInt32}
    (hsender : senderOff + n ≤ data.length) (hlen : lenOff + n * 4 ≤ data.length) :
    RecvTxtResponse.lengthLoop data n senderOff lenOff total =
      .ok ((data.drop senderOff).take n, wordsAt data n lenOff,
        (wordsAt data n lenOff).foldl (· + ·) total) := by
  induction n generalizing senderOff lenOff total with
  | zero => simp [RecvTxtResponse.lengthLoop, wordsAt]
  | succ n ih =>
    have hread : readAt data senderOff 1 = .ok ((data.drop senderOff).take 1) :=
      readAt_of_le (by omega)
    have hword : readWord data lenOff = .ok (wordAt data lenOff) := readWord_of_le (by omega)
    simp only [RecvTxtResponse.lengthLoop, hread, hword, wordsAt, List.foldl_cons]
    change (RecvTxtResponse.lengthLoop data n (senderOff + 1) (lenOff + 4) _ >>= _) = _
    rw [ih (by omega) (by omega)]
    have htake : (data.drop senderOff).take 1 ++ (data.drop (senderOff + 1)).take n =
        (data.drop senderOff).take (n + 1) := by
      rw [Nat.add_comm n 1, List.take_add, List.drop_drop]
    change Except.ok _ = _
    rw [htake]

/-- The copying loop returns exactly when all strings together fit into the rest of the body. -/
lemma copyStrings_isOk_iff {data : ByteString} {lens : List UInt32} {off : ℕ}
    (hoff : off ≤ data.length) :
    (∃ ss, copyStrings data lens off = .ok ss) ↔ off + totalLength lens ≤ data.length := by
  induction lens generalizing off with
  | nil => simp [copyStrings, hoff]
  | cons len lens ih =>
    rw [totalLength_cons]
    by_cases hlen : off + len.toNat ≤ data.length
    · have hcopy : (∃ ss, copyStrings data (len :: lens) off = .ok ss) ↔
          ∃ ss, copyStrings data lens (off + len.toNat) = .ok ss := by
        simp only [copyStrings, readAt_of_le hlen]
        change (∃ ss, (copyStrings data lens (off + len.toNat) >>= _) = _) ↔ _
        cases copyStrings data lens (off + len.toNat) with
        | error e => simp [bind, Except.bind]
        | ok ss => simp [bind, Except.bind, pure, Except.pure]
      rw [hcopy, ih hlen, Nat.add_assoc]
    · have hcopy : ∀ ss, copyStrings data (len :: lens) off ≠ .ok ss := by
        intro ss
        simp [copyStrings, readAt_of_lt (Nat.lt_of_not_le hlen), bind, Except.bind]
      constructor
      · rintro ⟨ss, hss⟩
        exact absurd hss (hcopy ss)
      · intro hfit
        omega

/-- What a list decoder does, its reads of the fixed part aside: with `lens` the announced lengths
and `fixed` the length of the fixed part, it rejects a body whose length is not `fixed` plus the
sum of the lengths modulo `2 ^ 32`, and otherwise copies the strings and makes a list of them. -/
def decodeList {α : Type} (data : ByteString) (lens : List UInt32) (fixed : ℕ)
    (statCode : StatusCode) (out : α) (make : List ByteString → α) :
    Except Fault (Status × StatusCode × α) :=
  if data.length < 4 then .ok (.bodyError, statCode, out)
  else if wordAt data 0 ≠ StatusCode.ok then .ok (.ok, wordAt data 0, out)
  else if data.length ≠ fixed + totalLength lens % 2 ^ 32 then .ok (.bodyError, statCode, out)
  else (copyStrings data lens fixed).map fun ss => (.ok, StatusCode.ok, make ss)

/-- The decoder of usernames in this form. -/
lemma UsernamesResponse.deserialize_eq (data : ByteString) (statCode : StatusCode)
    (usernames : List ByteString) :
    UsernamesResponse.deserialize data statCode usernames =
      decodeList data (UsernamesResponse.lengths data) (UsernamesResponse.fixedPart data)
        statCode usernames id := by
  unfold UsernamesResponse.deserialize decodeList
  by_cases h4 : data.length < 4
  · rw [if_pos h4, if_pos h4]
    rfl
  rw [if_neg h4, if_neg h4, readWord_of_le (by omega : 0 + 4 ≤ data.length)]
  change (if wordAt data 0 ≠ StatusCode.ok then _ else _) = _
  by_cases hok : wordAt data 0 ≠ StatusCode.ok
  · rw [if_pos hok, if_pos hok]
    rfl
  rw [if_neg hok, if_neg hok]
  have hfixed : UsernamesResponse.fixedPart data = 8 + (wordAt data 4).toNat * 4 := rfl
  by_cases h8 : data.length < 8
  · rw [if_pos h8, if_pos (by omega)]
    rfl
  rw [if_neg h8, readWord_of_le (by omega : 4 + 4 ≤ data.length)]
  change (if data.length < 8 + (wordAt data 4).toNat * 4 then _ else _) = _
  rw [← hfixed]
  by_cases hnum : data.length < UsernamesResponse.fixedPart data
  · rw [if_pos hnum, if_pos (by omega)]
    rfl
  rw [if_neg hnum, UsernamesResponse.lengthLoop_eq (by omega)]
  change (if data.length ≠ UsernamesResponse.fixedPart data +
    ((UsernamesResponse.lengths data).foldl (· + ·) 0).toNat then _ else _) = _
  rw [foldl_add_toNat, UInt32.toNat_zero, Nat.zero_add]
  congr 1
  rw [not_not.mp hok]
  rfl

/-- The senders that a response with a chat announces. -/
def RecvTxtResponse.senders (data : ByteString) : List UInt8 :=
  (data.drop 8).take (itemCount data)

/-- The decoder of a chat in this form. -/
lemma RecvTxtResponse.deserialize_eq (data : ByteString) (statCode : StatusCode) (c : Chat) :
    RecvTxtResponse.deserialize data statCode c =
      decodeList data (RecvTxtResponse.lengths data) (RecvTxtResponse.fixedPart data) statCode c
        fun contents => ⟨List.zipWith Text.mk (RecvTxtResponse.senders data) contents⟩ := by
  unfold RecvTxtResponse.deserialize decodeList
  by_cases h4 : data.length < 4
  · rw [if_pos h4, if_pos h4]
    rfl
  rw [if_neg h4, if_neg h4, readWord_of_le (by omega : 0 + 4 ≤ data.length)]
  change (if wordAt data 0 ≠ StatusCode.ok then _ else _) = _
  by_cases hok : wordAt data 0 ≠ StatusCode.ok
  · rw [if_pos hok, if_pos hok]
    rfl
  rw [if_neg hok, if_neg hok]
  have hfixed : RecvTxtResponse.fixedPart data = 8 + (wordAt data 4).toNat * (1 + 4) := rfl
  by_cases h8 : data.length < 8
  · rw [if_pos h8, if_pos (by omega)]
    rfl
  rw [if_neg h8, readWord_of_le (by omega : 4 + 4 ≤ data.length)]
  change (if data.length < 8 + (wordAt data 4).toNat * (1 + 4) then _ else _) = _
  rw [← hfixed]
  by_cases hnum : data.length < RecvTxtResponse.fixedPart data
  · rw [if_pos hnum, if_pos (by omega)]
    rfl
  rw [if_neg hnum, RecvTxtResponse.lengthLoop_eq (by omega) (by omega)]
  change (if data.length ≠ RecvTxtResponse.fixedPart data +
    ((RecvTxtResponse.lengths data).foldl (· + ·) 0).toNat then _ else _) = _
  rw [foldl_add_toNat, UInt32.toNat_zero, Nat.zero_add]
  congr 1
  rw [not_not.mp hok]
  rfl

/-! ## Bounds of the list decoders -/

/-- A list decoder reads only inside the body, and when it accepts a body whose status code is OK,
the announced lengths add up to what remains after the fixed part. -/
def BoundsSafe {α : Type} (data : ByteString) (lens : List UInt32) (fixed : ℕ)
    (result : Except Fault (Status × StatusCode × α)) : Prop :=
  ∃ r, result = .ok r ∧
    (r.1 = .ok → r.2.1 = StatusCode.ok → fixed + totalLength lens = data.length)

/-- The announced lengths reach `2 ^ 32` and the rest of the body is as long as their sum
modulo `2 ^ 32`. -/
def LengthsWrap (data : ByteString) (lens : List UInt32) (fixed : ℕ) : Prop :=
  wordAt data 0 = StatusCode.ok ∧ 2 ^ 32 ≤ totalLength lens ∧
    data.length = fixed + totalLength lens % 2 ^ 32

instance (data : ByteString) (lens : List UInt32) (fixed : ℕ) :
    Decidable (LengthsWrap data lens fixed) :=
  inferInstanceAs (Decidable (_ ∧ _ ∧ _))

/-- A decoder of this form is safe except on the bodies whose lengths wrap. -/
lemma decodeList_boundsSafe_iff {α : Type} {data : ByteString} {lens : List UInt32} {fixed : ℕ}
    {statCode : StatusCode} {out : α} {make : List ByteString → α} (hfixed : 4 ≤ fixed) :
    BoundsSafe data lens fixed (decodeList data lens fixed statCode out make) ↔
      ¬ LengthsWrap data lens fixed := by
  unfold decodeList
  by_cases h4 : data.length < 4
  · rw [if_pos h4]
    refine iff_of_true ⟨_, rfl, by simp⟩ ?_
    rintro ⟨-, -, hlen⟩
    omega
  by_cases hok : wordAt data 0 ≠ StatusCode.ok
  · rw [if_neg h4, if_pos hok]
    exact iff_of_true ⟨_, rfl, fun _ h => absurd h hok⟩ fun hw => hok hw.1
  by_cases hlen : data.length ≠ fixed + totalLength lens % 2 ^ 32
  · rw [if_neg h4, if_neg hok, if_pos hlen]
    exact iff_of_true ⟨_, rfl, by simp⟩ fun hw => hlen hw.2.2
  rw [if_neg h4, if_neg hok, if_neg hlen]
  -- The size check has passed: all depends on whether the copying loop finds its bytes.
  have hfits : (∃ ss, copyStrings data lens fixed = .ok ss) ↔
      fixed + totalLength lens ≤ data.length := copyStrings_isOk_iff (by omega)
  have hwrap : LengthsWrap data lens fixed ↔ 2 ^ 32 ≤ totalLength lens :=
    ⟨fun hw => hw.2.1, fun hw => ⟨not_not.mp hok, hw, not_not.mp hlen⟩⟩
  rw [hwrap]
  constructor
  · rintro ⟨r, hr, -⟩
    obtain ⟨ss, hss, -⟩ := map_eq_ok.mp hr
    have := hfits.mp ⟨ss, hss⟩
    omega
  · intro hsmall
    have htotal : fixed + totalLength lens = data.length := by omega
    obtain ⟨ss, hss⟩ := hfits.mpr htotal.le
    exact ⟨_, by rw [hss]; rfl, fun _ _ => htotal⟩

/-- The three list decoders read only inside the body, and accept a list only when its lengths add
up to the rest of the body, exactly on the bodies whose lengths do not wrap. -/
theorem boundsSafe_iff (data : ByteString) (statCode : StatusCode) :
    (∀ usernames, BoundsSafe data (UsernamesResponse.lengths data)
        (UsernamesResponse.fixedPart data) (AccountsResponse.deserialize data statCode usernames) ↔
      ¬ LengthsWrap data (UsernamesResponse.lengths data) (UsernamesResponse.fixedPart data)) ∧
    (∀ usernames, BoundsSafe data (UsernamesResponse.lengths data)
        (UsernamesResponse.fixedPart data)
        (CorrespondentsResponse.deserialize data statCode usernames) ↔
      ¬ LengthsWrap data (UsernamesResponse.lengths data) (UsernamesResponse.fixedPart data)) ∧
    (∀ c, BoundsSafe data (RecvTxtResponse.lengths data) (RecvTxtResponse.fixedPart data)
        (RecvTxtResponse.deserialize data statCode c) ↔
      ¬ LengthsWrap data (RecvTxtResponse.lengths data) (RecvTxtResponse.fixedPart data)) := by
  have husernames : 4 ≤ UsernamesResponse.fixedPart data := by
    unfold UsernamesResponse.fixedPart
    omega
  have hchat : 4 ≤ RecvTxtResponse.fixedPart data := by
    unfold RecvTxtResponse.fixedPart
    omega
  refine ⟨?_, ?_, ?_⟩
  · intro usernames
    rw [AccountsResponse.deserialize, UsernamesResponse.deserialize_eq]
    exact decodeList_boundsSafe_iff husernames
  · intro usernames
    rw [CorrespondentsResponse.deserialize, UsernamesResponse.deserialize_eq]
    exact decodeList_boundsSafe_iff husernames
  · intro c
    rw [RecvTxtResponse.deserialize_eq]
    exact decodeList_boundsSafe_iff hchat

/-- A body with status code OK that announces two strings of `2 ^ 31` bytes each, and ends after
the lengths. -/
def wrappingUsernames : ByteString :=
  [0, 0, 0, 0, 2, 0, 0, 0, 0, 0, 0, 128, 0, 0, 0, 128]

/-- The same for a chat: two senders stand before the lengths. -/
def wrappingChat : ByteString :=
  [0, 0, 0, 0, 2, 0, 0, 0, 0, 1, 0, 0, 0, 128, 0, 0, 0, 128]

/-- On these bodies the size check passes and the first copy reads `2 ^ 31` bytes past the end. -/
theorem wrapping_bodies_fault :
    AccountsResponse.deserialize wrappingUsernames 0 [] = .error ⟨16, 2 ^ 31⟩ ∧
      CorrespondentsResponse.deserialize wrappingUsernames 0 [] = .error ⟨16, 2 ^ 31⟩ ∧
      RecvTxtResponse.deserialize wrappingChat 0 ⟨[]⟩ = .error ⟨18, 2 ^ 31⟩ := by
  refine ⟨by decide, by decide, by decide⟩

end Chat262
