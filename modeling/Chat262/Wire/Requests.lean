import Chat262.Foundation.Fill
import Chat262.Wire.Decoders
import Chat262.Wire.Sizes

/-!
# Requests on the wire

The request serializers of the client, and the grammar of request bodies.  A block that a
serializer allocates and fills holds the eight bytes of the header and then the body
(`Message.store_build`).  The body of a request is empty, one string behind its length, or two
strings behind their lengths; the request decoders accept exactly the bodies of this form, and
never read outside of a body.
-/

namespace Chat262

open Foundation

/-! ## Stored messages -/

/-- The bytes of a header. -/
def MessageHeader.bytes (hdr : MessageHeader) : ByteString :=
  leBytes 2 hdr.version.toNat ++ leBytes 2 hdr.type.toNat ++ leBytes 4 hdr.bodyLen.toNat

/-- A header has eight bytes. -/
@[simp] lemma MessageHeader.length_bytes (hdr : MessageHeader) : hdr.bytes.length = 8 := by
  simp [MessageHeader.bytes]

/-- The header at the beginning of some bytes is decoded to what was encoded. -/
@[simp] lemma MessageHeader.decode_bytes (hdr : MessageHeader) (body : ByteString) :
    MessageHeader.decode (hdr.bytes ++ body) = hdr := by
  obtain ⟨version, type, bodyLen⟩ := hdr
  have h16 (n : UInt16) : UInt16.ofNat (leNat (leBytes 2 n.toNat)) = n := by
    rw [leNat_leBytes_of_lt (by simpa using n.toNat_lt), UInt16.ofNat_toNat]
  have h2 (n : ℕ) : (leBytes 2 n).length = 2 := length_leBytes 2 n
  simp only [MessageHeader.decode, MessageHeader.bytes, MessageHeader.mk.injEq]
  refine ⟨?_, ?_, ?_⟩
  · rw [List.append_assoc, List.append_assoc, List.take_left' (h2 _), h16]
  · rw [List.append_assoc, List.append_assoc, List.drop_left' (h2 _), List.take_left' (h2 _), h16]
  · rw [wordAt_append (leBytes 2 version.toNat ++ leBytes 2 type.toNat) body (by simp)
      bodyLen.toNat_lt, UInt32.ofNat_toNat]

/-- The writes of a serializer into its block, which held `block` before.  The result is what is in
the block afterwards; a write that leaves the block is a fault. -/
def Message.store (block : ByteString) (msg : Message) : Except Fault ByteString :=
  writeAll msg.writes block

/-- The writes return when they stay inside the block. -/
lemma Message.exists_store {msg : Message} (h : ∀ w ∈ msg.writes, w.Fits msg.totalLen)
    {block : ByteString} (hblock : block.length = msg.totalLen) :
    ∃ data, msg.store block = .ok data := by
  rw [← hblock] at h
  exact ⟨_, writeAll_of_fits h⟩

/-- The assignments to the header fields fill a header. -/
lemma MessageHeader.fills_bytes (hdr : MessageHeader) :
    Fills [⟨0, leBytes 2 hdr.version.toNat⟩, ⟨2, leBytes 2 hdr.type.toNat⟩,
      ⟨4, leBytes 4 hdr.bodyLen.toNat⟩] hdr.bytes := by
  have hversion : Fills [⟨0, leBytes 2 hdr.version.toNat⟩] (leBytes 2 hdr.version.toNat) :=
    fills_nil.concat 0 rfl _
  have htype := hversion.concat 2 (by simp) (leBytes 2 hdr.type.toNat)
  exact htype.concat 4 (by simp) (leBytes 4 hdr.bodyLen.toNat)

/-- A message whose copies fill a body of the announced length is stored as its header and that
body. -/
lemma Message.store_build {type : MessageType} {bodyLen : UInt32} {ws : List Write}
    {body block : ByteString} (hws : Fills ws body) (hlen : body.length = bodyLen.toNat)
    (hblock : block.length = (Message.build type bodyLen ws).totalLen) :
    (Message.build type bodyLen ws).store block =
      .ok ((MessageHeader.mk protocolVersion type bodyLen).bytes ++ body) := by
  have hheader := (MessageHeader.mk protocolVersion type bodyLen).fills_bytes
  have hfills : Fills (Message.build type bodyLen ws).writes
      ((MessageHeader.mk protocolVersion type bodyLen).bytes ++ body) :=
    hheader.append hws (by simp [MessageHeader.size])
  have hcontents : block.length =
      ((MessageHeader.mk protocolVersion type bodyLen).bytes ++ body).length := by
    rw [hblock]
    simp only [Message.build, MessageHeader.size, List.length_append, MessageHeader.length_bytes,
      hlen]
  refine writeAll_eq_ok.mpr ⟨?_, hfills.fill_eq hcontents⟩
  intro w hw
  rw [hcontents]
  exact (hfills.places w hw).1

/-! ## Serializers -/

/-- The serializer shared by the requests without a body. -/
def EmptyRequest.serialize (type : MessageType) : Message := .build type 0 []

/-- `logout_request::serialize`. -/
def LogoutRequest.serialize : Message := EmptyRequest.serialize MessageType.logoutRequest

/-- `correspondents_request::serialize`. -/
def CorrespondentsRequest.serialize : Message :=
  EmptyRequest.serialize MessageType.correspondentsRequest

/-- `delete_request::serialize`. -/
def DeleteRequest.serialize : Message := EmptyRequest.serialize MessageType.deleteRequest

/-- The serializer shared by the requests that carry one string. -/
def StringRequest.serialize (type : MessageType) (s : ByteString) : Message :=
  .build type (UInt32.ofNat (4 + s.length))
    [⟨0, leBytes 4 (UInt32.ofNat s.length).toNat⟩, ⟨4, s⟩]

/-- `accounts_request::serialize`. -/
def AccountsRequest.serialize : ByteString → Message :=
  StringRequest.serialize MessageType.accountsRequest

/-- `recv_txt_request::serialize`. -/
def RecvTxtRequest.serialize : ByteString → Message :=
  StringRequest.serialize MessageType.recvTxtRequest

/-- The serializer shared by the requests that carry two strings. -/
def PairRequest.serialize (type : MessageType) (a b : ByteString) : Message :=
  .build type (UInt32.ofNat (2 * 4 + a.length + b.length))
    [⟨0, leBytes 4 (UInt32.ofNat a.length).toNat⟩, ⟨4, leBytes 4 (UInt32.ofNat b.length).toNat⟩,
      ⟨8, a⟩, ⟨8 + a.length, b⟩]

/-- `registration_request::serialize`. -/
def RegistrationRequest.serialize : ByteString → ByteString → Message :=
  PairRequest.serialize MessageType.registrationRequest

/-- `login_request::serialize`. -/
def LoginRequest.serialize : ByteString → ByteString → Message :=
  PairRequest.serialize MessageType.loginRequest

/-- `send_txt_request::serialize`. -/
def SendTxtRequest.serialize : ByteString → ByteString → Message :=
  PairRequest.serialize MessageType.sendTxtRequest

/-! ## Bodies -/

/-- The body of a request that carries the string `s`. -/
def stringBody (s : ByteString) : ByteString := leBytes 4 s.length ++ s

/-- The length of the body of one string. -/
lemma length_stringBody (s : ByteString) : (stringBody s).length = 4 + s.length := by
  simp [stringBody]

/-- The length of the body of two strings. -/
lemma length_pairBody (a b : ByteString) : (pairBody a b).length = 8 + a.length + b.length := by
  simp only [pairBody, List.length_append, length_leBytes]

/-- A request without a body is stored as its header. -/
lemma EmptyRequest.store_serialize (type : MessageType) {block : ByteString}
    (hblock : block.length = (EmptyRequest.serialize type).totalLen) :
    (EmptyRequest.serialize type).store block =
      .ok (MessageHeader.mk protocolVersion type 0).bytes := by
  rw [EmptyRequest.serialize, Message.store_build fills_nil rfl hblock, List.append_nil]

/-- A request with one string is stored as its header and the body of the string, as long as the
body length fits into 32 bits. -/
lemma StringRequest.store_serialize (type : MessageType) {s block : ByteString}
    (hshort : (stringBody s).length < 2 ^ 32)
    (hblock : block.length = (StringRequest.serialize type s).totalLen) :
    (StringRequest.serialize type s).store block =
      .ok ((MessageHeader.mk protocolVersion type (UInt32.ofNat (stringBody s).length)).bytes ++
        stringBody s) := by
  have hbodyLen : (UInt32.ofNat (stringBody s).length).toNat = (stringBody s).length :=
    UInt32.toNat_ofNat_of_lt' hshort
  have hsize := length_stringBody s
  have hs := Short.toNat_ofNat (show s.length < 2 ^ 32 by omega)
  have hlens : Fills [⟨0, leBytes 4 s.length⟩] (leBytes 4 s.length) := fills_nil.concat 0 rfl _
  have hbody := hlens.concat 4 (by simp) s
  rw [StringRequest.serialize, hs, ← hsize] at hblock ⊢
  exact Message.store_build hbody hbodyLen.symm hblock

/-- A request with two strings is stored as its header and the body of the strings, as long as the
body length fits into 32 bits. -/
lemma PairRequest.store_serialize (type : MessageType) {a b block : ByteString}
    (hshort : (pairBody a b).length < 2 ^ 32)
    (hblock : block.length = (PairRequest.serialize type a b).totalLen) :
    (PairRequest.serialize type a b).store block =
      .ok ((MessageHeader.mk protocolVersion type (UInt32.ofNat (pairBody a b).length)).bytes ++
        pairBody a b) := by
  have hbodyLen : (UInt32.ofNat (pairBody a b).length).toNat = (pairBody a b).length :=
    UInt32.toNat_ofNat_of_lt' hshort
  have hsize := length_pairBody a b
  have ha := Short.toNat_ofNat (show a.length < 2 ^ 32 by omega)
  have hb := Short.toNat_ofNat (show b.length < 2 ^ 32 by omega)
  have hfirst : Fills [⟨0, leBytes 4 a.length⟩] (leBytes 4 a.length) := fills_nil.concat 0 rfl _
  have hlens := hfirst.concat 4 (by simp) (leBytes 4 b.length)
  have hstring := hlens.concat 8 (by simp) a
  have hbody := hstring.concat (8 + a.length)
    (by simp only [List.length_append, length_leBytes]) b
  rw [PairRequest.serialize, ha, hb, show 2 * 4 + a.length + b.length = (pairBody a b).length from
    hsize.symm] at hblock ⊢
  exact Message.store_build hbody hbodyLen.symm hblock

/-! ## What the request decoders accept -/

/-- A word that has been read back is the little-endian encoding of its value. -/
lemma leBytes_toNat_wordAt {data : ByteString} {off : ℕ} (h : off + 4 ≤ data.length) :
    leBytes 4 (wordAt data off).toNat = (data.drop off).take 4 := by
  have hlen : ((data.drop off).take 4).length = 4 := by
    rw [List.length_take, List.length_drop]
    omega
  have hlt := leNat_lt ((data.drop off).take 4)
  rw [hlen] at hlt
  refine leNat_inj (by rw [hlen, length_leBytes]) ?_
  rw [wordAt, UInt32.toNat_ofNat_of_lt' (by simpa [UInt32.size] using hlt),
    leNat_leBytes_of_lt hlt]

/-- The body of a request without strings. -/
def IsEmptyBody (data : ByteString) : Prop := data = []

/-- The body is one string behind its length. -/
def IsStringBody (data : ByteString) : Prop := ∃ s, Short s ∧ data = stringBody s

/-- The body is two strings behind their lengths. -/
def IsPairBody (data : ByteString) : Prop := ∃ a b, Short a ∧ Short b ∧ data = pairBody a b

/-- The decoder of requests without strings accepts the empty body, and rejects all others. -/
lemma EmptyRequest.deserialize_cases (data : ByteString) :
    IsEmptyBody data ∧ EmptyRequest.deserialize data = .ok ∨
      ¬ IsEmptyBody data ∧ EmptyRequest.deserialize data = .bodyError := by
  unfold IsEmptyBody EmptyRequest.deserialize
  cases data with
  | nil => exact .inl ⟨rfl, rfl⟩
  | cons b bs => exact .inr ⟨by simp, rfl⟩

/-- Decoding the body of a short string gives it back. -/
lemma StringRequest.deserialize_stringBody {s : ByteString} (hs : Short s) (out : ByteString) :
    StringRequest.deserialize (stringBody s) out = .ok (.ok, s) := by
  have hlen := length_stringBody s
  have hword : readWord (stringBody s) 0 = .ok (UInt32.ofNat s.length) := by
    rw [readWord_of_le (by omega)]
    have := wordAt_append [] s rfl hs
    simpa [stringBody] using this
  have hread : readAt (stringBody s) 4 s.length = .ok s := by
    have := readAt_append (leBytes 4 s.length) s [] (length_leBytes 4 _).symm rfl
    simpa [stringBody] using this
  unfold StringRequest.deserialize
  rw [if_neg (by omega), hword]
  change (if 4 + (UInt32.ofNat s.length).toNat ≠ _ then _ else _) = _
  rw [hs.toNat_ofNat, if_neg (by omega), hread]
  rfl

/-- The decoder of one string accepts the bodies of a short string, and rejects all others. -/
lemma StringRequest.deserialize_cases (data out : ByteString) :
    (∃ s, Short s ∧ data = stringBody s ∧ StringRequest.deserialize data out = .ok (.ok, s)) ∨
      ¬ IsStringBody data ∧ StringRequest.deserialize data out = .ok (.bodyError, out) := by
  have hreject (h : StringRequest.deserialize data out = .ok (.bodyError, out)) :
      ¬ IsStringBody data ∧ StringRequest.deserialize data out = .ok (.bodyError, out) := by
    refine ⟨?_, h⟩
    rintro ⟨s, hs, rfl⟩
    rw [StringRequest.deserialize_stringBody hs] at h
    cases h
  by_cases h4 : data.length < 4
  · exact .inr (hreject (if_pos h4))
  have hword : readWord data 0 = .ok (wordAt data 0) := readWord_of_le (by omega)
  by_cases hlen : 4 + (wordAt data 0).toNat ≠ data.length
  · refine .inr (hreject ?_)
    unfold StringRequest.deserialize
    rw [if_neg h4, hword]
    exact if_pos hlen
  have hsplit : data = stringBody (data.drop 4) := by
    have hword := leBytes_toNat_wordAt (show 0 + 4 ≤ data.length by omega)
    have hdrop : (data.drop 4).length = (wordAt data 0).toNat := by
      rw [List.length_drop]
      omega
    rw [stringBody, hdrop, hword, List.drop_zero, List.take_append_drop]
  have hshort : Short (data.drop 4) := by
    have hlt := (wordAt data 0).toNat_lt
    rw [Short, List.length_drop]
    omega
  refine .inl ⟨_, hshort, hsplit, ?_⟩
  conv_lhs => rw [hsplit]
  exact StringRequest.deserialize_stringBody hshort out

/-- The decoder of two strings accepts the bodies of two short strings, and rejects all others. -/
lemma PairRequest.deserialize_cases (data x y : ByteString) :
    (∃ a b, Short a ∧ Short b ∧ data = pairBody a b ∧
        PairRequest.deserialize data x y = .ok (.ok, a, b)) ∨
      ¬ IsPairBody data ∧ PairRequest.deserialize data x y = .ok (.bodyError, x, y) := by
  have hreject (h : PairRequest.deserialize data x y = .ok (.bodyError, x, y)) :
      ¬ IsPairBody data ∧ PairRequest.deserialize data x y = .ok (.bodyError, x, y) := by
    refine ⟨?_, h⟩
    rintro ⟨a, b, ha, hb, rfl⟩
    rw [PairRequest.deserialize_pairBody ha hb] at h
    cases h
  by_cases h8 : data.length < 8
  · exact .inr (hreject (if_pos h8))
  have hword : readWord data 0 = .ok (wordAt data 0) := readWord_of_le (by omega)
  have hword' : readWord data 4 = .ok (wordAt data 4) := readWord_of_le (by omega)
  by_cases hlen : 8 + (wordAt data 0).toNat + (wordAt data 4).toNat ≠ data.length
  · refine .inr (hreject ?_)
    unfold PairRequest.deserialize
    rw [if_neg h8, hword, hword']
    exact if_pos hlen
  -- The two lengths cut the rest of the body into the two strings.
  let a := (data.drop 8).take (wordAt data 0).toNat
  let b := (data.drop 8).drop (wordAt data 0).toNat
  have ha : a.length = (wordAt data 0).toNat := by
    simp only [a, List.length_take, List.length_drop]
    omega
  have hb : b.length = (wordAt data 4).toNat := by
    simp only [b, List.length_drop]
    omega
  have hsplit : data = pairBody a b := by
    have hfirst := leBytes_toNat_wordAt (show 0 + 4 ≤ data.length by omega)
    have hsecond := leBytes_toNat_wordAt (show 4 + 4 ≤ data.length by omega)
    rw [pairBody, ha, hb, hfirst, hsecond, List.append_assoc, List.take_append_drop,
      List.drop_zero, ← List.take_add, List.take_append_drop]
  have ha' : Short a := ha.trans_lt (wordAt data 0).toNat_lt
  have hb' : Short b := hb.trans_lt (wordAt data 4).toNat_lt
  refine .inl ⟨a, b, ha', hb', hsplit, ?_⟩
  conv_lhs => rw [hsplit]
  exact PairRequest.deserialize_pairBody ha' hb' x y

end Chat262
