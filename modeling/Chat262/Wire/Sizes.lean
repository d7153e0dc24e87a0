import Chat262.Wire.Message

/-!
# Sizes of the list responses

A serializer of a list response computes `body_len` in 32 bits and then copies as many bytes as the
strings have.  `bodySize` is the number of bytes it copies, as a natural number.  `body_len` is
`bodySize` modulo `2 ^ 32`, the copies fill a body of `bodySize` bytes, and hence the message is
well sized exactly when `bodySize` fits into 32 bits, provided that every single string does.
-/

namespace Chat262

open Foundation

/-- The string has a length that fits into 32 bits. -/
def Short (s : ByteString) : Prop := s.length < 2 ^ 32

instance (s : ByteString) : Decidable (Short s) := inferInstanceAs (Decidable (_ < _))

/-- The header announces as many body bytes as are written, and every write falls inside the
block. -/
def Message.WellSized (msg : Message) : Prop :=
  msg.hdr.bodyLen.toNat = bytesWritten msg.bodyWrites ∧ ∀ w ∈ msg.writes, w.Fits msg.totalLen

/-- A message as the serializers build it is well sized when `body_len` is right and the copies
stay inside the body. -/
lemma Message.build_wellSized {type : MessageType} {bodyLen : UInt32} {ws : List Write} :
    (Message.build type bodyLen ws).WellSized ↔
      bodyLen.toNat = bytesWritten ws ∧ ∀ w ∈ ws, w.Fits bodyLen.toNat := by
  have hheader : ∀ n, ∀ w ∈ [(⟨0, leBytes 2 protocolVersion.toNat⟩ : Write),
      ⟨2, leBytes 2 type.toNat⟩, ⟨4, leBytes 4 bodyLen.toNat⟩],
      w.Fits (MessageHeader.size + n) := by
    intro n w hw
    simp only [List.mem_cons, List.not_mem_nil, or_false] at hw
    rcases hw with rfl | rfl | rfl <;>
      simp only [Write.Fits, length_leBytes, MessageHeader.size] <;> omega
  simp only [Message.WellSized, Message.writes, Message.build, List.mem_append, List.mem_map]
  refine and_congr_right fun _ => ⟨fun h w hw => ?_, fun h w hw => ?_⟩
  · exact Write.shift_fits.mp (h _ (.inr ⟨w, hw, rfl⟩))
  · rcases hw with hw | ⟨w', hw', rfl⟩
    · exact hheader _ w hw
    · exact Write.shift_fits.mpr (h w' hw')

/-- When `n` bytes are copied into a body of `n` bytes and `body_len` is `n` modulo `2 ^ 32`, the
message is well sized exactly when `n` fits into 32 bits. -/
lemma Message.build_wellSized_iff {type : MessageType} {bodyLen : UInt32} {ws : List Write} {n : ℕ}
    (hlen : bodyLen.toNat = n % 2 ^ 32) (hbytes : bytesWritten ws = n)
    (hfits : ∀ w ∈ ws, w.Fits n) : (Message.build type bodyLen ws).WellSized ↔ n < 2 ^ 32 := by
  rw [Message.build_wellSized, hlen, hbytes]
  constructor
  · rintro ⟨hn, -⟩
    omega
  · intro hn
    rw [Nat.mod_eq_of_lt hn]
    exact ⟨rfl, hfits⟩

/-- Adding natural numbers up in 32 bits gives their sum modulo `2 ^ 32`. -/
lemma foldl_addLength_toNat {α : Type} (f : α → ℕ) (xs : List α) (acc : ℕ) :
    (xs.foldl (fun len x => UInt32.ofNat (len.toNat + f x)) (UInt32.ofNat acc)).toNat =
      (acc + (xs.map f).sum) % 2 ^ 32 := by
  induction xs generalizing acc with
  | nil => simp
  | cons x xs ih =>
    have hstep : UInt32.ofNat ((UInt32.ofNat acc).toNat + f x) = UInt32.ofNat (acc + f x) := by
      apply UInt32.toNat_inj.mp
      simp
    rw [List.foldl_cons, hstep, ih, List.map_cons, List.sum_cons, Nat.add_assoc]

/-- The length of a short string survives the cast to 32 bits. -/
lemma Short.toNat_ofNat {s : ByteString} (h : Short s) : (UInt32.ofNat s.length).toNat = s.length :=
  UInt32.toNat_ofNat_of_lt' h

/-! ## Responses with usernames -/

/-- The number of bytes copied into the body of a response with usernames. -/
def UsernamesResponse.bodySize (statCode : StatusCode) (usernames : List ByteString) : ℕ :=
  if statCode = StatusCode.ok then
    8 + usernames.length * 4 + (usernames.map List.length).sum
  else 4

/-- `body_len` is the number of bytes copied, modulo `2 ^ 32`. -/
lemma UsernamesResponse.toNat_bodyLen (statCode : StatusCode) (usernames : List ByteString) :
    (UsernamesResponse.bodyLen statCode usernames).toNat =
      UsernamesResponse.bodySize statCode usernames % 2 ^ 32 := by
  unfold UsernamesResponse.bodyLen UsernamesResponse.bodySize
  split_ifs with hok
  · rw [foldl_addLength_toNat List.length]
    congr 1
    omega
  · rfl

/-- The copying loop copies four bytes for each length, and the strings. -/
lemma UsernamesResponse.bytesWritten_copyLoop {us : List ByteString} (h : ∀ u ∈ us, Short u)
    (lenOff nameOff : ℕ) :
    bytesWritten (UsernamesResponse.copyLoop us lenOff nameOff) =
      us.length * 4 + (us.map List.length).sum := by
  induction us generalizing lenOff nameOff with
  | nil => rfl
  | cons u us ih =>
    have hu := (h u List.mem_cons_self).toNat_ofNat
    simp only [UsernamesResponse.copyLoop, bytesWritten_cons, length_leBytes, hu,
      List.take_length, ih fun v hv => h v (List.mem_cons_of_mem u hv), List.length_cons,
      List.map_cons, List.sum_cons]
    omega

/-- The copies into the body of a response with usernames that are short one by one. -/
lemma UsernamesResponse.bytesWritten_serialize (type : MessageType) {statCode : StatusCode}
    {usernames : List ByteString} (h : statCode = StatusCode.ok → ∀ u ∈ usernames, Short u) :
    bytesWritten (UsernamesResponse.serialize type statCode usernames).bodyWrites =
      UsernamesResponse.bodySize statCode usernames := by
  unfold UsernamesResponse.serialize UsernamesResponse.bodySize Message.build
  split_ifs with hok
  · simp only [bytesWritten_cons, length_leBytes, UsernamesResponse.bytesWritten_copyLoop (h hok)]
    omega
  · simp

/-- The copying loop stays below `n` when the lengths and the strings do. -/
lemma UsernamesResponse.copyLoop_fits {us : List ByteString} (h : ∀ u ∈ us, Short u)
    {lenOff nameOff n : ℕ} (hlen : lenOff + us.length * 4 ≤ n)
    (hname : nameOff + (us.map List.length).sum ≤ n) :
    ∀ w ∈ UsernamesResponse.copyLoop us lenOff nameOff, w.Fits n := by
  induction us generalizing lenOff nameOff with
  | nil => simp [UsernamesResponse.copyLoop]
  | cons u us ih =>
    have hu := (h u List.mem_cons_self).toNat_ofNat
    simp only [List.length_cons, List.map_cons, List.sum_cons] at hlen hname
    simp only [UsernamesResponse.copyLoop, hu, List.take_length, List.mem_cons]
    rintro w (rfl | rfl | hw)
    · simp only [Write.Fits, length_leBytes]
      omega
    · simp only [Write.Fits]
      omega
    · exact ih (fun v hv => h v (List.mem_cons_of_mem u hv)) (by omega) (by omega) w hw

/-- A response with usernames that are short one by one is well sized exactly when its body size
fits into 32 bits. -/
theorem UsernamesResponse.serialize_wellSized_iff (type : MessageType) (statCode : StatusCode)
    {usernames : List ByteString} (h : ∀ u ∈ usernames, Short u) :
    (UsernamesResponse.serialize type statCode usernames).WellSized ↔
      UsernamesResponse.bodySize statCode usernames < 2 ^ 32 := by
  have hbodyLen := UsernamesResponse.toNat_bodyLen statCode usernames
  have hbytes := UsernamesResponse.bytesWritten_serialize type fun _ : statCode = StatusCode.ok => h
  refine Message.build_wellSized_iff hbodyLen hbytes ?_
  unfold UsernamesResponse.bodySize
  split_ifs with hok
  · simp only [List.mem_cons]
    rintro w (rfl | rfl | hw)
    · simp only [Write.Fits, length_leBytes]
      omega
    · simp only [Write.Fits, length_leBytes]
      omega
    · exact UsernamesResponse.copyLoop_fits h (by omega) (by omega) w hw
  · simp [Write.Fits]

/-! ## The response with a chat -/

/-- The number of bytes copied into the body of a response with a chat. -/
def RecvTxtResponse.bodySize (statCode : StatusCode) (c : Chat) : ℕ :=
  if statCode = StatusCode.ok then
    8 + c.texts.length * 5 + (c.texts.map fun txt => txt.content.length).sum
  else 4

/-- `body_len` is the number of bytes copied, modulo `2 ^ 32`. -/
lemma RecvTxtResponse.toNat_bodyLen (statCode : StatusCode) (c : Chat) :
    (RecvTxtResponse.bodyLen statCode c).toNat =
      RecvTxtResponse.bodySize statCode c % 2 ^ 32 := by
  unfold RecvTxtResponse.bodyLen RecvTxtResponse.bodySize
  split_ifs with hok
  · rw [foldl_addLength_toNat fun txt : Text => txt.content.length]
    congr 1
    omega
  · rfl

/-- The copying loop copies five bytes for each sender and length, and the contents. -/
lemma RecvTxtResponse.bytesWritten_copyLoop {txts : List Text} (h : ∀ t ∈ txts, Short t.content)
    (senderOff lenOff txtOff : ℕ) :
    bytesWritten (RecvTxtResponse.copyLoop txts senderOff lenOff txtOff) =
      txts.length * 5 + (txts.map fun txt => txt.content.length).sum := by
  induction txts generalizing senderOff lenOff txtOff with
  | nil => rfl
  | cons t txts ih =>
    have ht := (h t List.mem_cons_self).toNat_ofNat
    simp only [RecvTxtResponse.copyLoop, bytesWritten_cons, length_leBytes, ht, List.take_length,
      ih fun t' ht' => h t' (List.mem_cons_of_mem t ht'), List.length_cons, List.map_cons,
      List.sum_cons, List.length_nil]
    omega

/-- The copies into the body of a response with a chat whose texts are short one by one. -/
lemma RecvTxtResponse.bytesWritten_serialize {statCode : StatusCode} {c : Chat}
    (h : statCode = StatusCode.ok → ∀ t ∈ c.texts, Short t.content) :
    bytesWritten (RecvTxtResponse.serialize statCode c).bodyWrites =
      RecvTxtResponse.bodySize statCode c := by
  unfold RecvTxtResponse.serialize RecvTxtResponse.bodySize Message.build
  split_ifs with hok
  · simp only [bytesWritten_cons, length_leBytes, RecvTxtResponse.bytesWritten_copyLoop (h hok)]
    omega
  · simp

/-- The copying loop stays below `n` when the senders, the lengths and the contents do. -/
lemma RecvTxtResponse.copyLoop_fits {txts : List Text} (h : ∀ t ∈ txts, Short t.content)
    {senderOff lenOff txtOff n : ℕ} (hsender : senderOff + txts.length ≤ n)
    (hlen : lenOff + txts.length * 4 ≤ n)
    (htxt : txtOff + (txts.map fun txt => txt.content.length).sum ≤ n) :
    ∀ w ∈ RecvTxtResponse.copyLoop txts senderOff lenOff txtOff, w.Fits n := by
  induction txts generalizing senderOff lenOff txtOff with
  | nil => simp [RecvTxtResponse.copyLoop]
  | cons t txts ih =>
    have ht := (h t List.mem_cons_self).toNat_ofNat
    simp only [List.length_cons, List.map_cons, List.sum_cons] at hsender hlen htxt
    simp only [RecvTxtResponse.copyLoop, ht, List.take_length, List.mem_cons]
    rintro w (rfl | rfl | rfl | hw)
    · simp only [Write.Fits, List.length_cons, List.length_nil]
      omega
    · simp only [Write.Fits, length_leBytes]
      omega
    · simp only [Write.Fits]
      omega
    · exact ih (fun t' ht' => h t' (List.mem_cons_of_mem t ht')) (by omega) (by omega) (by omega)
        w hw

/-- A response with a chat whose texts are short one by one is well sized exactly when its body
size fits into 32 bits. -/
theorem RecvTxtResponse.serialize_wellSized_iff (statCode : StatusCode) {c : Chat}
    (h : ∀ t ∈ c.texts, Short t.content) :
    (RecvTxtResponse.serialize statCode c).WellSized ↔
      RecvTxtResponse.bodySize statCode c < 2 ^ 32 := by
  have hbodyLen := RecvTxtResponse.toNat_bodyLen statCode c
  have hbytes := RecvTxtResponse.bytesWritten_serialize fun _ : statCode = StatusCode.ok => h
  refine Message.build_wellSized_iff hbodyLen hbytes ?_
  unfold RecvTxtResponse.bodySize
  split_ifs with hok
  · simp only [List.mem_cons]
    rintro w (rfl | rfl | hw)
    · simp only [Write.Fits, length_leBytes]
      omega
    · simp only [Write.Fits, length_leBytes]
      omega
    · exact RecvTxtResponse.copyLoop_fits h (by omega) (by omega) (by omega) w hw
  · simp [Write.Fits]

end Chat262
