import Chat262.Wire.RoundTrip

/-!
# What the decoders accept

The converse of the round trips.  A message `HasBody` `data` when its serializer stays inside the
block that it allocates and leaves `data` in it behind the header.

A request decoder accepts exactly the bodies of its serializer (`requests_decode_exactly`): the two
announced lengths and the bytes that they are added to are compared in 64 bits, where the sum cannot
wrap, with the number of bytes that are there.

A list decoder is less strict.  It ignores what follows a status code that is not OK, its sum of
lengths wraps at `2 ^ 32`, and the decoder of a chat takes any byte for a sender.
`decodes_bodies_iff` says that these are the only ways in which a list decoder accepts anything but
the body of its serializer.
-/

namespace Chat262

open Foundation

/-! ## The body of a message -/

/-- The serializer stays inside its block, and leaves `data` in it behind the header, whatever the
block held before. -/
def Message.HasBody (msg : Message) (data : ByteString) : Prop :=
  msg.WellSized ∧ ∀ block : ByteString, block.length = msg.totalLen →
    (msg.store block).map (List.drop MessageHeader.size) = .ok data

/-- A message whose copies fill a body, and which announces the length of that body modulo `2 ^ 32`,
has exactly this body if its length fits into 32 bits, and none otherwise. -/
lemma Message.build_hasBody_iff {type : MessageType} {bodyLen : UInt32} {ws : List Write}
    {body data : ByteString} (hws : Fills ws body) (hbytes : bytesWritten ws = body.length)
    (hlen : bodyLen.toNat = body.length % 2 ^ 32) :
    (Message.build type bodyLen ws).HasBody data ↔ body.length < 2 ^ 32 ∧ data = body := by
  have hsized : (Message.build type bodyLen ws).WellSized ↔ body.length < 2 ^ 32 :=
    Message.build_wellSized_iff hlen hbytes fun w hw => (hws.places w hw).1
  have hstored (hshort : body.length < 2 ^ 32) (block : ByteString)
      (hblock : block.length = (Message.build type bodyLen ws).totalLen) :
      ((Message.build type bodyLen ws).store block).map (List.drop MessageHeader.size) =
        .ok body := by
    rw [Message.store_build hws (by omega) hblock, MessageHeader.size]
    exact congrArg Except.ok (List.drop_left' (MessageHeader.length_bytes _))
  constructor
  · rintro ⟨hwell, hdata⟩
    have hshort := hsized.mp hwell
    have hblock := List.length_replicate (a := (0 : UInt8))
      (n := (Message.build type bodyLen ws).totalLen)
    exact ⟨hshort, Except.ok.inj ((hdata _ hblock).symm.trans (hstored hshort _ hblock))⟩
  · rintro ⟨hshort, rfl⟩
    exact ⟨hsized.mpr hshort, hstored hshort⟩

/-! ## Requests -/

/-- A length that fits into 32 bits is announced as it is. -/
lemma leBytes_toNat_ofNat (n : ℕ) : leBytes 4 (UInt32.ofNat n).toNat = leBytes 4 n := by
  refine leNat_inj (by simp) ?_
  rw [leNat_leBytes, leNat_leBytes, UInt32.toNat_ofNat']
  omega

/-- The request with the string `s` has the body of `s`, if that fits into 32 bits. -/
lemma StringRequest.hasBody_iff (type : MessageType) (s data : ByteString) :
    (StringRequest.serialize type s).HasBody data ↔
      (stringBody s).length < 2 ^ 32 ∧ data = stringBody s := by
  have hlens : Fills [⟨0, leBytes 4 s.length⟩] (leBytes 4 s.length) := fills_nil.concat 0 rfl _
  have hbody := hlens.concat 4 (by simp) s
  rw [StringRequest.serialize, leBytes_toNat_ofNat]
  refine Message.build_hasBody_iff hbody ?_ ?_
  · simp [length_stringBody]
  · rw [UInt32.toNat_ofNat', length_stringBody]

/-- The request with the strings `a` and `b` has their body, if that fits into 32 bits. -/
lemma PairRequest.hasBody_iff (type : MessageType) (a b data : ByteString) :
    (PairRequest.serialize type a b).HasBody data ↔
      (pairBody a b).length < 2 ^ 32 ∧ data = pairBody a b := by
  have hfirst : Fills [⟨0, leBytes 4 a.length⟩] (leBytes 4 a.length) := fills_nil.concat 0 rfl _
  have hlens := hfirst.concat 4 (by simp) (leBytes 4 b.length)
  have hstring := hlens.concat 8 (by simp) a
  have hbody := hstring.concat (8 + a.length)
    (by simp only [List.length_append, length_leBytes]) b
  rw [PairRequest.serialize, leBytes_toNat_ofNat, leBytes_toNat_ofNat]
  refine Message.build_hasBody_iff hbody ?_ ?_
  · simp only [bytesWritten_cons, bytesWritten_nil, length_leBytes, length_pairBody]
    omega
  · rw [UInt32.toNat_ofNat', length_pairBody]

/-- On `data`, a request decoder is the inverse of the serializer: it returns ok with a value
exactly if `data` is the body of the request with that value, rejects all other `data` and then
leaves its out parameters alone, and never reads outside of `data`. -/
structure Inverts {α : Type} (data : ByteString) (decode : α → Except Fault (Status × α))
    (serialize : α → Message) : Prop where
  /-- What is accepted, and as what. -/
  accepts : ∀ out a, decode out = .ok (.ok, a) ↔ (serialize a).HasBody data
  /-- What is rejected. -/
  rejects : ∀ out, (∀ a, ¬ (serialize a).HasBody data) → decode out = .ok (.bodyError, out)
  /-- Nothing outside of `data` is read. -/
  inside : ∀ out, ∃ r, decode out = .ok r

/-- The decoder of one string inverts the serializer on bodies shorter than `2 ^ 32` bytes. -/
lemma StringRequest.inverts {data : ByteString} (hdata : data.length < 2 ^ 32)
    (type : MessageType) :
    Inverts data (StringRequest.deserialize data) (StringRequest.serialize type) := by
  have hbody {s : ByteString} : (StringRequest.serialize type s).HasBody data ↔
      data = stringBody s := by
    rw [StringRequest.hasBody_iff]
    refine and_iff_right_of_imp ?_
    rintro rfl
    exact hdata
  constructor
  case accepts =>
    intro out a
    rw [hbody]
    constructor
    · intro h
      rcases StringRequest.deserialize_cases data out with ⟨s, hs, hsplit, h'⟩ | ⟨-, h'⟩
      · rw [h'] at h
        cases h
        exact hsplit
      · rw [h'] at h
        cases h
    · rintro rfl
      refine StringRequest.deserialize_stringBody ?_ out
      rw [length_stringBody] at hdata
      exact Nat.lt_of_le_of_lt (Nat.le_add_left _ _) hdata
  case rejects =>
    intro out hnone
    rcases StringRequest.deserialize_cases data out with ⟨s, hs, hsplit, h⟩ | ⟨-, h⟩
    · exact absurd (hbody.mpr hsplit) (hnone s)
    · exact h
  case inside =>
    intro out
    rcases StringRequest.deserialize_cases data out with ⟨s, hs, hsplit, h⟩ | ⟨-, h⟩
    · exact ⟨_, h⟩
    · exact ⟨_, h⟩

/-- The decoder of two strings inverts the serializer on bodies shorter than `2 ^ 32` bytes. -/
lemma PairRequest.inverts {data : ByteString} (hdata : data.length < 2 ^ 32)
    (type : MessageType) :
    Inverts data (fun out => PairRequest.deserialize data out.1 out.2)
      (fun s => PairRequest.serialize type s.1 s.2) := by
  have hbody {a b : ByteString} : (PairRequest.serialize type a b).HasBody data ↔
      data = pairBody a b := by
    rw [PairRequest.hasBody_iff]
    refine and_iff_right_of_imp ?_
    rintro rfl
    exact hdata
  constructor
  case accepts =>
    rintro ⟨x, y⟩ ⟨a, b⟩
    rw [hbody]
    constructor
    · intro h
      rcases PairRequest.deserialize_cases data x y with ⟨a', b', ha, hb, hsplit, h'⟩ | ⟨-, h'⟩
      · rw [h'] at h
        cases h
        exact hsplit
      · rw [h'] at h
        cases h
    · rintro rfl
      rw [length_pairBody] at hdata
      exact PairRequest.deserialize_pairBody (by omega) (by omega) x y
  case rejects =>
    rintro ⟨x, y⟩ hnone
    rcases PairRequest.deserialize_cases data x y with ⟨a, b, ha, hb, hsplit, h⟩ | ⟨-, h⟩
    · exact absurd (hbody.mpr hsplit) (hnone (a, b))
    · exact h
  case inside =>
    rintro ⟨x, y⟩
    rcases PairRequest.deserialize_cases data x y with ⟨a, b, ha, hb, hsplit, h⟩ | ⟨-, h⟩
    · exact ⟨_, h⟩
    · exact ⟨_, h⟩

/-- The sum that the size check computes in a 64-bit `size_t` does not wrap, whatever the two
announced lengths are. -/
lemma size_eq_iff (aLen bLen : UInt32) {size : ℕ} (hsize : size < 2 ^ 32) :
    (2 * 4 + aLen.toUInt64 + bLen.toUInt64 : UInt64) = UInt64.ofNat size ↔
      2 * 4 + aLen.toNat + bLen.toNat = size := by
  have ha := aLen.toNat_lt
  have hb := bLen.toNat_lt
  rw [← UInt64.toNat_inj, UInt64.toNat_add, UInt64.toNat_add, UInt32.toNat_toUInt64,
    UInt32.toNat_toUInt64, UInt64.toNat_ofNat']
  change ((8 + aLen.toNat) % 2 ^ 64 + bLen.toNat) % 2 ^ 64 = size % 2 ^ 64 ↔ _
  omega

/-- On every body shorter than `2 ^ 32` bytes, the five decoders of requests with strings are the
inverses of their serializers. -/
theorem requests_decode_exactly {data : ByteString} (hdata : data.length < 2 ^ 32) :
    Inverts data (fun out => RegistrationRequest.deserialize data out.1 out.2)
        (fun s => RegistrationRequest.serialize s.1 s.2) ∧
      Inverts data (fun out => LoginRequest.deserialize data out.1 out.2)
        (fun s => LoginRequest.serialize s.1 s.2) ∧
      Inverts data (fun out => SendTxtRequest.deserialize data out.1 out.2)
        (fun s => SendTxtRequest.serialize s.1 s.2) ∧
      Inverts data (AccountsRequest.deserialize data) AccountsRequest.serialize ∧
      Inverts data (RecvTxtRequest.deserialize data) RecvTxtRequest.serialize ∧
      ∀ aLen bLen : UInt32,
        (2 * 4 + aLen.toUInt64 + bLen.toUInt64 : UInt64) = UInt64.ofNat data.length ↔
          2 * 4 + aLen.toNat + bLen.toNat = data.length :=
  ⟨PairRequest.inverts hdata _, PairRequest.inverts hdata _, PairRequest.inverts hdata _,
    StringRequest.inverts hdata _, StringRequest.inverts hdata _,
    fun aLen bLen => size_eq_iff aLen bLen hdata⟩

/-- The theorem on the body of a login as `ab` with the password `c`. -/
theorem requests_decode_exactly_login :
    (LoginRequest.serialize [97, 98] [99]).HasBody [2, 0, 0, 0, 1, 0, 0, 0, 97, 98, 99] :=
  ((requests_decode_exactly (by decide)).2.1.accepts ([], []) ([97, 98], [99])).mp (by decide)

/-! ## Reassembling a list -/

/-- Two ranges of a body that follow each other make up one. -/
lemma take_append_take (data : ByteString) (off m n : ℕ) :
    (data.drop off).take m ++ (data.drop (off + m)).take n = (data.drop off).take (m + n) := by
  rw [List.take_add, List.drop_drop]

/-- A prefix of a body and the range that follows it make up a longer prefix. -/
lemma take_append_drop_take (data : ByteString) (m n : ℕ) :
    data.take m ++ (data.drop m).take n = data.take (m + n) := by
  rw [List.take_add]

/-- The words that are read one after the other are encoded as the bytes that were there. -/
lemma flatten_wordsAt {data : ByteString} {n off : ℕ} (h : off + n * 4 ≤ data.length) :
    ((wordsAt data n off).map fun len => leBytes 4 len.toNat).flatten =
      (data.drop off).take (n * 4) := by
  induction n generalizing off with
  | zero => simp [wordsAt]
  | succ n ih =>
    rw [wordsAt, List.map_cons, List.flatten_cons, leBytes_toNat_wordAt (by omega),
      ih (by omega), take_append_take]
    congr 1
    omega

/-- The strings that are copied have the announced lengths, and are the bytes that were there. -/
lemma of_copyStrings_eq_ok {data : ByteString} {lens : List UInt32} {off : ℕ}
    {ss : List ByteString} (h : copyStrings data lens off = .ok ss) :
    ss.map List.length = lens.map UInt32.toNat ∧
      ss.flatten = (data.drop off).take (totalLength lens) := by
  induction lens generalizing off ss with
  | nil =>
    cases h
    simp
  | cons len lens ih =>
    obtain ⟨s, hs, h⟩ := bind_eq_ok.mp h
    obtain ⟨rest, hrest, h⟩ := bind_eq_ok.mp h
    cases h
    obtain ⟨hfits, rfl⟩ := readAt_eq_ok.mp hs
    obtain ⟨hlengths, hflatten⟩ := ih hrest
    refine ⟨?_, ?_⟩
    · rw [List.map_cons, List.map_cons, hlengths, List.length_take, List.length_drop]
      congr 1
      omega
    · rw [List.flatten_cons, hflatten, totalLength_cons, take_append_take]

/-- The lengths of the strings that are copied are encoded as those that were announced. -/
lemma lengthFields_of_copyStrings {data : ByteString} {lens : List UInt32} {off : ℕ}
    {ss : List ByteString} (h : copyStrings data lens off = .ok ss) :
    lengthFields ss = lens.map fun len => leBytes 4 len.toNat := by
  have hfields : lengthFields ss = (ss.map List.length).map (leBytes 4) := by
    rw [List.map_map]
    rfl
  rw [hfields, (of_copyStrings_eq_ok h).1, List.map_map]
  rfl

/-- The strings that are copied are short. -/
lemma short_of_copyStrings {data : ByteString} {lens : List UInt32} {off : ℕ}
    {ss : List ByteString} (h : copyStrings data lens off = .ok ss) : ∀ s ∈ ss, Short s := by
  intro s hs
  have hmem : s.length ∈ lens.map UInt32.toNat := by
    rw [← (of_copyStrings_eq_ok h).1]
    exact List.mem_map_of_mem hs
  obtain ⟨len, -, hlen⟩ := List.mem_map.mp hmem
  exact hlen.symm.trans_lt len.toNat_lt

/-- As many strings are copied as lengths were announced. -/
lemma length_of_copyStrings {data : ByteString} {lens : List UInt32} {off : ℕ}
    {ss : List ByteString} (h : copyStrings data lens off = .ok ss) : ss.length = lens.length := by
  have hlengths := congrArg List.length (of_copyStrings_eq_ok h).1
  simpa using hlengths

/-- A body of usernames that is read in full is put together again from what was read. -/
lemma UsernamesResponse.body_of_copyStrings {data : ByteString} {ss : List ByteString}
    (hcode : wordAt data 0 = StatusCode.ok)
    (hlen : data.length = UsernamesResponse.fixedPart data +
      totalLength (UsernamesResponse.lengths data))
    (hcopy : copyStrings data (UsernamesResponse.lengths data)
      (UsernamesResponse.fixedPart data) = .ok ss) :
    UsernamesResponse.body StatusCode.ok ss = data := by
  have hfixed : UsernamesResponse.fixedPart data = 8 + itemCount data * 4 := rfl
  have hcount : ss.length = (wordAt data 4).toNat := by
    rw [length_of_copyStrings hcopy, UsernamesResponse.lengths, length_wordsAt, itemCount]
  have hnames := (of_copyStrings_eq_ok hcopy).2
  rw [UsernamesResponse.body, if_pos rfl, lengthFields_of_copyStrings hcopy, hnames,
    UsernamesResponse.lengths, flatten_wordsAt (by omega), hcount, ← hcode,
    leBytes_toNat_wordAt (by omega), leBytes_toNat_wordAt (by omega),
    ← UsernamesResponse.lengths, List.drop_zero, take_append_drop_take data 4 4,
    take_append_drop_take data 8, ← hfixed, take_append_drop_take, ← hlen, List.take_length]

/-- The senders and the contents that texts are made of are read off the texts again. -/
lemma unzip_texts {senders : List UInt8} {ss : List ByteString}
    (h : senders.length = ss.length) :
    (List.zipWith Text.mk senders ss).map Text.sender = senders ∧
      contentsOf (List.zipWith Text.mk senders ss) = ss := by
  induction senders generalizing ss with
  | nil =>
    obtain rfl : ss = [] := List.length_eq_zero_iff.mp h.symm
    exact ⟨rfl, rfl⟩
  | cons sender senders ih =>
    obtain ⟨s, ss, rfl⟩ := List.exists_cons_of_length_eq_add_one h.symm
    obtain ⟨hsenders, hcontents⟩ := ih (by simpa using h)
    exact ⟨congrArg (sender :: ·) hsenders, congrArg (s :: ·) hcontents⟩

/-- A body with a chat that is read in full is put together again from what was read. -/
lemma RecvTxtResponse.body_of_copyStrings {data : ByteString} {ss : List ByteString}
    (hcode : wordAt data 0 = StatusCode.ok)
    (hlen : data.length = RecvTxtResponse.fixedPart data +
      totalLength (RecvTxtResponse.lengths data))
    (hcopy : copyStrings data (RecvTxtResponse.lengths data)
      (RecvTxtResponse.fixedPart data) = .ok ss) :
    ((List.zipWith Text.mk (RecvTxtResponse.senders data) ss).map Text.sender =
        RecvTxtResponse.senders data ∧
      contentsOf (List.zipWith Text.mk (RecvTxtResponse.senders data) ss) = ss) ∧
      RecvTxtResponse.body StatusCode.ok
        ⟨List.zipWith Text.mk (RecvTxtResponse.senders data) ss⟩ = data := by
  have hfixed : RecvTxtResponse.fixedPart data = 8 + itemCount data * (1 + 4) := rfl
  have hcount : ss.length = itemCount data := by
    rw [length_of_copyStrings hcopy, RecvTxtResponse.lengths, length_wordsAt]
  have hsenders : (RecvTxtResponse.senders data).length = itemCount data := by
    rw [RecvTxtResponse.senders, List.length_take, List.length_drop]
    omega
  have hparts := unzip_texts (hsenders.trans hcount.symm)
  have htexts : (List.zipWith Text.mk (RecvTxtResponse.senders data) ss).length =
      (wordAt data 4).toNat := by
    rw [List.length_zipWith, hsenders, hcount, Nat.min_self, itemCount]
  have hcontents := (of_copyStrings_eq_ok hcopy).2
  refine ⟨hparts, ?_⟩
  rw [RecvTxtResponse.body, if_pos rfl, hparts.1, hparts.2, htexts,
    lengthFields_of_copyStrings hcopy, hcontents, RecvTxtResponse.lengths,
    flatten_wordsAt (by omega), ← hcode, leBytes_toNat_wordAt (by omega),
    leBytes_toNat_wordAt (by omega), ← RecvTxtResponse.lengths, RecvTxtResponse.senders]
  have hend : 8 + itemCount data + itemCount data * 4 = RecvTxtResponse.fixedPart data := by
    omega
  rw [List.drop_zero, take_append_drop_take data 4 4, take_append_drop_take data 8, Nat.mul_one,
    take_append_drop_take data (8 + itemCount data), hend, take_append_drop_take, ← hlen,
    List.take_length]

/-! ## List responses -/

/-- A response with usernames that are short one by one has their body, if that fits into 32
bits. -/
lemma UsernamesResponse.hasBody_iff (type : MessageType) {statCode : StatusCode}
    {usernames : List ByteString} {data : ByteString}
    (h : statCode = StatusCode.ok → ∀ u ∈ usernames, Short u) :
    (UsernamesResponse.serialize type statCode usernames).HasBody data ↔
      (UsernamesResponse.body statCode usernames).length < 2 ^ 32 ∧
        data = UsernamesResponse.body statCode usernames := by
  have hbytes := UsernamesResponse.bytesWritten_serialize type h
  have hlen := UsernamesResponse.toNat_bodyLen statCode usernames
  rw [← UsernamesResponse.length_body] at hbytes hlen
  exact Message.build_hasBody_iff (UsernamesResponse.fills_body type h) hbytes hlen

/-- A response with a chat whose texts are short one by one has its body, if that fits into 32
bits. -/
lemma RecvTxtResponse.hasBody_iff {statCode : StatusCode} {c : Chat} {data : ByteString}
    (h : statCode = StatusCode.ok → ∀ s ∈ contentsOf c.texts, Short s) :
    (RecvTxtResponse.serialize statCode c).HasBody data ↔
      (RecvTxtResponse.body statCode c).length < 2 ^ 32 ∧
        data = RecvTxtResponse.body statCode c := by
  have hbytes := RecvTxtResponse.bytesWritten_serialize (c := c)
    fun hok t ht => h hok t.content (List.mem_map_of_mem ht)
  have hlen := RecvTxtResponse.toNat_bodyLen statCode c
  rw [← RecvTxtResponse.length_body] at hbytes hlen
  exact Message.build_hasBody_iff (RecvTxtResponse.fills_body h) hbytes hlen

/-- On `data`, a list decoder stays inside `data`, and when it returns ok with a status code and, if
that is OK, a value, then `data` is the body that the serializer makes of them, and the value is
valid. -/
def DecodesBodies {α : Type} (data : ByteString)
    (decode : StatusCode → α → Except Fault (Status × StatusCode × α))
    (serialize : StatusCode → α → Message) (valid : α → Prop) : Prop :=
  ∀ prev out, ∃ r, decode prev out = .ok r ∧
    (r.1 = .ok → (serialize r.2.1 r.2.2).HasBody data ∧
      (r.2.1 = StatusCode.ok → valid r.2.2))

/-- The body is too short for a status code, or it is a status code other than OK and nothing else,
or its status code is OK and, unless its size is not the announced one modulo `2 ^ 32`, the
announced size fits into 32 bits and `valid` holds. -/
def Harmless (data : ByteString) (lens : List UInt32) (fixed : ℕ) (valid : Prop) : Prop :=
  data.length < 4 ∨ wordAt data 0 ≠ StatusCode.ok ∧ data.length = 4 ∨
    wordAt data 0 = StatusCode.ok ∧
      (data.length = fixed + totalLength lens % 2 ^ 32 →
        fixed + totalLength lens < 2 ^ 32 ∧ valid)

/-- A decoder of the common form decodes nothing but bodies exactly when the body is harmless. -/
lemma decodesBodies_iff {α : Type} {data : ByteString} {lens : List UInt32} {fixed : ℕ}
    {make : List ByteString → α} {serialize : StatusCode → α → Message} {valid : α → Prop}
    {validData : Prop} (out₀ : α)
    (hcode : ∀ statCode out, statCode ≠ StatusCode.ok →
      ((serialize statCode out).HasBody data ↔ data = leBytes 4 statCode.toNat))
    (hlist : wordAt data 0 = StatusCode.ok → data.length = fixed + totalLength lens →
      ∀ ss, copyStrings data lens fixed = .ok ss →
        ((serialize StatusCode.ok (make ss)).HasBody data ↔ data.length < 2 ^ 32) ∧
          (valid (make ss) ↔ validData)) :
    DecodesBodies data (fun prev out => decodeList data lens fixed prev out make) serialize
        valid ↔ Harmless data lens fixed validData := by
  unfold DecodesBodies Harmless decodeList
  by_cases h4 : data.length < 4
  · simp only [if_pos h4]
    exact iff_of_true (fun _ _ => ⟨_, rfl, by simp⟩) (.inl h4)
  simp only [h4, if_false, false_or]
  by_cases hok : wordAt data 0 ≠ StatusCode.ok
  · simp only [if_pos hok, Except.ok.injEq, exists_eq_left', forall_const]
    have hwhole : data = leBytes 4 (wordAt data 0).toNat ↔ data.length = 4 := by
      rw [leBytes_toNat_wordAt (by omega), List.drop_zero, eq_comm, List.take_eq_self_iff]
      omega
    constructor
    · intro h
      obtain ⟨hbody, -⟩ := h out₀
      exact .inl ⟨hok, hwhole.mp ((hcode _ _ hok).mp hbody)⟩
    · rintro (⟨-, hlen⟩ | ⟨hok', -⟩)
      · exact fun out => ⟨(hcode _ out hok).mpr (hwhole.mpr hlen), fun h => absurd h hok⟩
      · exact absurd hok' hok
  have hok' : wordAt data 0 = StatusCode.ok := not_not.mp hok
  simp only [hok', ne_eq, not_true_eq_false, if_false, false_and, true_and, false_or]
  by_cases hlen : data.length ≠ fixed + totalLength lens % 2 ^ 32
  · simp only [if_pos hlen]
    exact iff_of_true (fun _ _ => ⟨_, rfl, by simp⟩) fun h => absurd h hlen
  -- The size check has passed, so all depends on whether the lengths have wrapped.
  have hlen' : data.length = fixed + totalLength lens % 2 ^ 32 := not_not.mp hlen
  have hfits : (∃ ss, copyStrings data lens fixed = .ok ss) ↔
      fixed + totalLength lens ≤ data.length := copyStrings_isOk_iff (by omega)
  simp only [if_neg hlen]
  constructor
  · rintro h -
    obtain ⟨r, hr, hbody⟩ := h 0 out₀
    obtain ⟨ss, hss, rfl⟩ := map_eq_ok.mp hr
    have htotal : data.length = fixed + totalLength lens := by
      have := hfits.mp ⟨ss, hss⟩
      omega
    obtain ⟨hsize, hvalid⟩ := hlist hok' htotal ss hss
    exact ⟨htotal ▸ hsize.mp (hbody rfl).1, hvalid.mp ((hbody rfl).2 rfl)⟩
  · intro h prev out
    obtain ⟨hsmall, hvalid⟩ := h hlen'
    have htotal : data.length = fixed + totalLength lens := by omega
    obtain ⟨ss, hss⟩ := hfits.mpr htotal.ge
    obtain ⟨hsize, hmake⟩ := hlist hok' htotal ss hss
    refine ⟨(.ok, StatusCode.ok, make ss), by rw [hss]; rfl, fun _ => ?_⟩
    exact ⟨hsize.mpr (htotal ▸ hsmall), fun _ => hmake.mpr hvalid⟩

/-- The decoder of usernames decodes nothing but bodies exactly on harmless `data`. -/
lemma UsernamesResponse.decodesBodies_iff (data : ByteString) (type : MessageType) :
    DecodesBodies data (UsernamesResponse.deserialize data) (UsernamesResponse.serialize type)
        (fun _ => True) ↔
      Harmless data (UsernamesResponse.lengths data) (UsernamesResponse.fixedPart data) True := by
  have hdecode : UsernamesResponse.deserialize data = fun prev out =>
      decodeList data (UsernamesResponse.lengths data) (UsernamesResponse.fixedPart data) prev out
        id := by
    funext prev out
    exact UsernamesResponse.deserialize_eq data prev out
  rw [hdecode]
  refine Chat262.decodesBodies_iff [] ?_ ?_
  · intro statCode out hcode
    rw [UsernamesResponse.hasBody_iff type fun h => absurd h hcode, UsernamesResponse.body,
      if_neg hcode]
    simp
  · intro hcode hlen ss hcopy
    have hbody := UsernamesResponse.body_of_copyStrings hcode hlen hcopy
    rw [id, UsernamesResponse.hasBody_iff type fun _ => short_of_copyStrings hcopy, hbody]
    simp

/-- The decoder of a chat decodes nothing but bodies with valid senders exactly on harmless
`data` in which all senders are valid. -/
lemma RecvTxtResponse.decodesBodies_iff (data : ByteString) :
    DecodesBodies data (RecvTxtResponse.deserialize data) RecvTxtResponse.serialize
        (fun c => ∀ txt ∈ c.texts, txt.sender = Text.senderYou ∨ txt.sender = Text.senderOther) ↔
      Harmless data (RecvTxtResponse.lengths data) (RecvTxtResponse.fixedPart data)
        (∀ sender ∈ RecvTxtResponse.senders data,
          sender = Text.senderYou ∨ sender = Text.senderOther) := by
  have hdecode : RecvTxtResponse.deserialize data = fun prev out =>
      decodeList data (RecvTxtResponse.lengths data) (RecvTxtResponse.fixedPart data) prev out
        fun contents => ⟨List.zipWith Text.mk (RecvTxtResponse.senders data) contents⟩ := by
    funext prev out
    exact RecvTxtResponse.deserialize_eq data prev out
  rw [hdecode]
  refine Chat262.decodesBodies_iff ⟨[]⟩ ?_ ?_
  · intro statCode out hcode
    rw [RecvTxtResponse.hasBody_iff fun h => absurd h hcode, RecvTxtResponse.body, if_neg hcode]
    simp
  · intro hcode hlen ss hcopy
    obtain ⟨⟨hsenders, hcontents⟩, hbody⟩ :=
      RecvTxtResponse.body_of_copyStrings hcode hlen hcopy
    refine ⟨?_, ?_⟩
    · rw [RecvTxtResponse.hasBody_iff fun _ => hcontents.symm ▸ short_of_copyStrings hcopy, hbody]
      simp
    · conv_rhs => rw [← hsenders, List.forall_mem_map]

/-- A list decoder stays inside `data`, and accepts it only as the body of its serializer, with
valid senders in the case of a chat, exactly on harmless `data`. -/
theorem decodes_bodies_iff (data : ByteString) :
    (DecodesBodies data (AccountsResponse.deserialize data) AccountsResponse.serialize
        (fun _ => True) ↔
      Harmless data (UsernamesResponse.lengths data) (UsernamesResponse.fixedPart data) True) ∧
    (DecodesBodies data (CorrespondentsResponse.deserialize data)
        CorrespondentsResponse.serialize (fun _ => True) ↔
      Harmless data (UsernamesResponse.lengths data) (UsernamesResponse.fixedPart data) True) ∧
    (DecodesBodies data (RecvTxtResponse.deserialize data) RecvTxtResponse.serialize
        (fun c => ∀ txt ∈ c.texts, txt.sender = Text.senderYou ∨ txt.sender = Text.senderOther) ↔
      Harmless data (RecvTxtResponse.lengths data) (RecvTxtResponse.fixedPart data)
        (∀ sender ∈ RecvTxtResponse.senders data,
          sender = Text.senderYou ∨ sender = Text.senderOther)) :=
  ⟨UsernamesResponse.decodesBodies_iff data _, UsernamesResponse.decodesBodies_iff data _,
    RecvTxtResponse.decodesBodies_iff data⟩

/-- A byte behind the status code `unauthorized` is ignored, and so is that a sender is neither 0
nor 1. -/
theorem malformed_bodies_accepted :
    AccountsResponse.deserialize [6, 0, 0, 0, 9] 0 [] = .ok (.ok, StatusCode.unauthorized, []) ∧
      ¬ (AccountsResponse.serialize StatusCode.unauthorized []).HasBody [6, 0, 0, 0, 9] ∧
      CorrespondentsResponse.deserialize [6, 0, 0, 0, 9] 0 [] =
        .ok (.ok, StatusCode.unauthorized, []) ∧
      ¬ (CorrespondentsResponse.serialize StatusCode.unauthorized []).HasBody [6, 0, 0, 0, 9] ∧
      RecvTxtResponse.deserialize [6, 0, 0, 0, 9] 0 ⟨[]⟩ =
        .ok (.ok, StatusCode.unauthorized, ⟨[]⟩) ∧
      ¬ (RecvTxtResponse.serialize StatusCode.unauthorized ⟨[]⟩).HasBody [6, 0, 0, 0, 9] ∧
      RecvTxtResponse.deserialize [0, 0, 0, 0, 1, 0, 0, 0, 7, 0, 0, 0, 0] 0 ⟨[]⟩ =
        .ok (.ok, StatusCode.ok, ⟨[⟨7, []⟩]⟩) := by
  have hnames (type : MessageType) :
      ¬ (UsernamesResponse.serialize type StatusCode.unauthorized []).HasBody [6, 0, 0, 0, 9] := by
    rw [UsernamesResponse.hasBody_iff type (by simp)]
    decide
  have hchat :
      ¬ (RecvTxtResponse.serialize StatusCode.unauthorized ⟨[]⟩).HasBody [6, 0, 0, 0, 9] := by
    rw [RecvTxtResponse.hasBody_iff (by simp [contentsOf])]
    decide
  exact ⟨by decide, hnames _, by decide, hnames _, by decide, hchat, by decide⟩

end Chat262
