import Chat262.Wire.Requests

/-!
# List responses make the round trip

The serializers of the list responses advance two or three cursors at different rates.  What counts
is only which bytes go where: the copies are those of the lengths one after the other, of the
strings one after the other and, for a chat, of the senders one after the other, and these regions
follow each other without a gap.  The decoders find the beginning of each region from the count, so
they read back what was written (`list_responses_roundTrip`), as long as the size of the body fits
into 32 bits.
-/

namespace Chat262

open Foundation

/-! ## Bodies of usernames -/

/-- The bytes of the lengths of some strings. -/
def lengthFields (ss : List ByteString) : List ByteString :=
  ss.map fun s => leBytes 4 s.length

/-- The body of a response with usernames. -/
def UsernamesResponse.body (statCode : StatusCode) (usernames : List ByteString) : ByteString :=
  if statCode = StatusCode.ok then
    leBytes 4 statCode.toNat ++ leBytes 4 usernames.length ++ (lengthFields usernames).flatten ++
      usernames.flatten
  else leBytes 4 statCode.toNat

/-- The lengths take four bytes each. -/
lemma length_flatten_lengthFields (ss : List ByteString) :
    (lengthFields ss).flatten.length = ss.length * 4 := by
  induction ss with
  | nil => rfl
  | cons s ss ih =>
    rw [lengthFields, List.map_cons, List.flatten_cons, List.length_append, length_leBytes,
      ← lengthFields, ih, List.length_cons]
    omega

/-- The body has the size that the serializer computes. -/
lemma UsernamesResponse.length_body (statCode : StatusCode) (usernames : List ByteString) :
    (UsernamesResponse.body statCode usernames).length =
      UsernamesResponse.bodySize statCode usernames := by
  unfold UsernamesResponse.body UsernamesResponse.bodySize
  split_ifs
  · rw [List.length_append, List.length_append, List.length_append, length_leBytes, length_leBytes,
      length_flatten_lengthFields, List.length_flatten]
  · exact length_leBytes 4 _

/-- One of some strings is not longer than all of them. -/
lemma length_le_sum {ss : List ByteString} {s : ByteString} (hs : s ∈ ss) :
    s.length ≤ (ss.map List.length).sum :=
  List.le_sum_of_mem (List.mem_map_of_mem hs)

/-- The copying loop makes the copies of the lengths and those of the strings, in turn. -/
lemma UsernamesResponse.mem_copyLoop {us : List ByteString} (hus : ∀ u ∈ us, Short u)
    (lenOff nameOff : ℕ) (w : Write) :
    w ∈ UsernamesResponse.copyLoop us lenOff nameOff ↔
      w ∈ consecutive lenOff (lengthFields us) ∨ w ∈ consecutive nameOff us := by
  induction us generalizing lenOff nameOff with
  | nil => simp [UsernamesResponse.copyLoop, consecutive, lengthFields]
  | cons u us ih =>
    have hu := (hus u List.mem_cons_self).toNat_ofNat
    have hrest := ih (fun v hv => hus v (List.mem_cons_of_mem u hv)) (lenOff + 4)
      (nameOff + u.length)
    simp only [UsernamesResponse.copyLoop, hu, List.take_length, List.mem_cons, hrest, lengthFields,
      List.map_cons, consecutive, length_leBytes]
    grind

/-- The serializer fills the body. -/
lemma UsernamesResponse.fills_body (type : MessageType) {statCode : StatusCode}
    {usernames : List ByteString} (hus : statCode = StatusCode.ok → ∀ u ∈ usernames, Short u) :
    Fills (UsernamesResponse.serialize type statCode usernames).bodyWrites
      (UsernamesResponse.body statCode usernames) := by
  have hcode : Fills [⟨0, leBytes 4 statCode.toNat⟩] (leBytes 4 statCode.toNat) :=
    fills_nil.concat 0 rfl _
  unfold UsernamesResponse.serialize UsernamesResponse.body Message.build
  split_ifs with hok
  · have hcount := hcode.concat 4 (by simp) (leBytes 4 usernames.length)
    have hlens := hcount.consecutive 8 (by simp) (lengthFields usernames)
    have hnames := hlens.consecutive (8 + usernames.length * 4)
      (by simp only [List.length_append, length_leBytes, length_flatten_lengthFields]) usernames
    refine hnames.of_mem_iff ?_
    intro w
    simp only [List.mem_cons, List.mem_append, List.not_mem_nil, or_false,
      UsernamesResponse.mem_copyLoop (hus hok)]
    tauto
  · exact hcode

/-! ## Decoding the bodies -/

/-- The words of the lengths of short strings, as the decoders read them. -/
def lengthWords (ss : List ByteString) : List UInt32 := ss.map fun s => UInt32.ofNat s.length

/-- The length words stand one after the other behind `pre`. -/
lemma wordsAt_lengthFields (pre post : ByteString) {ss : List ByteString}
    (hss : ∀ s ∈ ss, Short s) {off : ℕ} (hoff : off = pre.length) :
    wordsAt (pre ++ (lengthFields ss).flatten ++ post) ss.length off = lengthWords ss := by
  have hns : ∀ n ∈ ss.map List.length, n < 2 ^ 32 := by
    intro n hn
    obtain ⟨s, hs, rfl⟩ := List.mem_map.mp hn
    exact hss s hs
  have hwords := wordsAt_flatten pre post hns hoff
  rw [List.length_map, List.map_map, List.map_map] at hwords
  exact hwords

/-- The length words add up to the lengths. -/
lemma totalLength_lengthWords {ss : List ByteString} (hss : ∀ s ∈ ss, Short s) :
    totalLength (lengthWords ss) = (ss.map List.length).sum := by
  induction ss with
  | nil => rfl
  | cons s ss ih =>
    have hs := (hss s List.mem_cons_self).toNat_ofNat
    rw [lengthWords, List.map_cons, totalLength_cons, hs, ← lengthWords,
      ih fun t ht => hss t (List.mem_cons_of_mem s ht), List.map_cons, List.sum_cons]

/-- Short strings that stand one after the other behind `pre` are copied. -/
lemma copyStrings_flatten (pre post : ByteString) {ss : List ByteString} (hss : ∀ s ∈ ss, Short s)
    {off : ℕ} (hoff : off = pre.length) :
    copyStrings (pre ++ ss.flatten ++ post) (lengthWords ss) off = .ok ss := by
  induction ss generalizing pre off with
  | nil => rfl
  | cons s ss ih =>
    have hs := (hss s List.mem_cons_self).toNat_ofNat
    have hsplit : pre ++ (s :: ss).flatten ++ post = pre ++ s ++ ss.flatten ++ post := by
      simp only [List.flatten_cons, List.append_assoc]
    have hread : readAt (pre ++ s ++ ss.flatten ++ post) off s.length = .ok s := by
      rw [List.append_assoc (pre ++ s)]
      exact readAt_append pre s _ hoff rfl
    have hoff' : off + s.length = (pre ++ s).length := by rw [List.length_append, hoff]
    have hrest := ih (pre ++ s) (fun t ht => hss t (List.mem_cons_of_mem s ht)) hoff'
    rw [hsplit, lengthWords, List.map_cons, copyStrings, hs, hread, ← lengthWords]
    change (copyStrings _ (lengthWords ss) (off + s.length) >>= _) = _
    rw [hrest]
    rfl

/-- A list decoder that finds the status code, the lengths and the strings returns them. -/
lemma decodeList_eq {α : Type} {data : ByteString} {lens : List UInt32} {fixed : ℕ}
    {statCode : StatusCode} (prev : StatusCode) (out : α) (ss : List ByteString)
    (make : List ByteString → α) (h4 : 4 ≤ data.length) (hcode : wordAt data 0 = statCode)
    (hlist : statCode = StatusCode.ok → (∀ s ∈ ss, Short s) ∧ lens = lengthWords ss ∧
      data.length = fixed + (ss.map List.length).sum ∧ (ss.map List.length).sum < 2 ^ 32 ∧
      copyStrings data lens fixed = .ok ss) :
    decodeList data lens fixed prev out make =
      .ok (.ok, statCode, if statCode = StatusCode.ok then make ss else out) := by
  unfold decodeList
  rw [if_neg (by omega), hcode]
  by_cases hok : statCode = StatusCode.ok
  · obtain ⟨hss, hlens, hlen, hsum, hcopy⟩ := hlist hok
    have htotal := totalLength_lengthWords hss
    rw [if_neg (not_not.mpr hok), hcopy, hlens, htotal, Nat.mod_eq_of_lt hsum,
      if_neg (not_not.mpr hlen), if_pos hok, hok]
    rfl
  · rw [if_pos hok, if_neg hok]

/-- Decoding a body of usernames gives them back. -/
lemma UsernamesResponse.deserialize_body {statCode : StatusCode} {usernames : List ByteString}
    (hsize : UsernamesResponse.bodySize statCode usernames < 2 ^ 32) (prev : StatusCode)
    (out : List ByteString) :
    UsernamesResponse.deserialize (UsernamesResponse.body statCode usernames) prev out =
      .ok (.ok, statCode, if statCode = StatusCode.ok then usernames else out) := by
  have hlen := UsernamesResponse.length_body statCode usernames
  rw [UsernamesResponse.deserialize_eq]
  refine decodeList_eq prev out _ id ?_ ?_ ?_
  · rw [hlen]
    unfold UsernamesResponse.bodySize
    split_ifs <;> omega
  · have hword (post : ByteString) : wordAt (leBytes 4 statCode.toNat ++ post) 0 = statCode := by
      have h := wordAt_append [] post (show 0 = _ from rfl) statCode.toNat_lt
      rwa [List.nil_append, UInt32.ofNat_toNat] at h
    unfold UsernamesResponse.body
    split_ifs
    · rw [List.append_assoc, List.append_assoc]
      exact hword _
    · rw [← List.append_nil (leBytes 4 _)]
      exact hword []
  · intro hok
    have hbody : UsernamesResponse.body statCode usernames =
        leBytes 4 statCode.toNat ++ leBytes 4 usernames.length ++
          (lengthFields usernames).flatten ++ usernames.flatten := if_pos hok
    rw [UsernamesResponse.bodySize, if_pos hok] at hsize hlen
    have hss : ∀ u ∈ usernames, Short u := by
      intro u hu
      have hle := length_le_sum hu
      rw [Short]
      omega
    have hcount : itemCount (UsernamesResponse.body statCode usernames) = usernames.length := by
      rw [itemCount, hbody, List.append_assoc,
        wordAt_append (leBytes 4 statCode.toNat) _ (length_leBytes 4 _).symm
          (show usernames.length < 2 ^ 32 by omega)]
      exact UInt32.toNat_ofNat_of_lt' (show usernames.length < 2 ^ 32 by omega)
    have hpre : 8 = (leBytes 4 statCode.toNat ++ leBytes 4 usernames.length).length := by simp
    have hfixed : UsernamesResponse.fixedPart (UsernamesResponse.body statCode usernames) =
        (leBytes 4 statCode.toNat ++ leBytes 4 usernames.length ++
          (lengthFields usernames).flatten).length := by
      rw [UsernamesResponse.fixedPart, hcount, List.length_append, ← hpre,
        length_flatten_lengthFields]
    have hlens : UsernamesResponse.lengths (UsernamesResponse.body statCode usernames) =
        lengthWords usernames := by
      rw [UsernamesResponse.lengths, hcount, hbody]
      exact wordsAt_lengthFields _ _ hss hpre
    refine ⟨hss, hlens, ?_, by omega, ?_⟩
    · rw [hlen, UsernamesResponse.fixedPart, hcount]
    · rw [hlens, hfixed, hbody, ← List.append_nil (_ ++ usernames.flatten)]
      exact copyStrings_flatten _ [] hss rfl

/-! ## The body of a chat -/

/-- The contents of some texts. -/
def contentsOf (txts : List Text) : List ByteString := txts.map Text.content

/-- The body of a response with a chat. -/
def RecvTxtResponse.body (statCode : StatusCode) (c : Chat) : ByteString :=
  if statCode = StatusCode.ok then
    leBytes 4 statCode.toNat ++ leBytes 4 c.texts.length ++ c.texts.map Text.sender ++
      (lengthFields (contentsOf c.texts)).flatten ++ (contentsOf c.texts).flatten
  else leBytes 4 statCode.toNat

/-- The body has the size that the serializer computes. -/
lemma RecvTxtResponse.length_body (statCode : StatusCode) (c : Chat) :
    (RecvTxtResponse.body statCode c).length = RecvTxtResponse.bodySize statCode c := by
  unfold RecvTxtResponse.body RecvTxtResponse.bodySize
  split_ifs
  · rw [List.length_append, List.length_append, List.length_append, List.length_append,
      length_leBytes, length_leBytes, length_flatten_lengthFields, List.length_flatten,
      List.length_map, contentsOf, List.length_map, List.map_map]
    change 4 + 4 + c.texts.length + c.texts.length * 4 +
      (c.texts.map fun txt => txt.content.length).sum = _
    omega
  · exact length_leBytes 4 _

/-- The copying loop makes the copies of the senders, of the lengths and of the contents, in
turn. -/
lemma RecvTxtResponse.mem_copyLoop {txts : List Text} (htxts : ∀ s ∈ contentsOf txts, Short s)
    (senderOff lenOff txtOff : ℕ) (w : Write) :
    w ∈ RecvTxtResponse.copyLoop txts senderOff lenOff txtOff ↔
      w ∈ consecutive senderOff (txts.map fun txt => [txt.sender]) ∨
        w ∈ consecutive lenOff (lengthFields (contentsOf txts)) ∨
        w ∈ consecutive txtOff (contentsOf txts) := by
  induction txts generalizing senderOff lenOff txtOff with
  | nil => simp [RecvTxtResponse.copyLoop, consecutive, lengthFields, contentsOf]
  | cons txt txts ih =>
    have htxt := (htxts txt.content (by simp [contentsOf])).toNat_ofNat
    have hrest := ih (fun s hs => htxts s (List.mem_cons_of_mem _ hs)) (senderOff + 1)
      (lenOff + 4) (txtOff + txt.content.length)
    simp only [RecvTxtResponse.copyLoop, htxt, List.take_length, List.mem_cons, hrest, lengthFields,
      contentsOf, List.map_cons, consecutive, length_leBytes, List.length_cons, List.length_nil]
    grind

/-- Lists of one sender each make up the list of the senders. -/
lemma flatten_singletons (txts : List Text) :
    (txts.map fun txt => [txt.sender]).flatten = txts.map Text.sender := by
  induction txts with
  | nil => rfl
  | cons txt txts ih => simp [ih]

/-- The serializer fills the body. -/
lemma RecvTxtResponse.fills_body {statCode : StatusCode} {c : Chat}
    (htxts : statCode = StatusCode.ok → ∀ s ∈ contentsOf c.texts, Short s) :
    Fills (RecvTxtResponse.serialize statCode c).bodyWrites (RecvTxtResponse.body statCode c) := by
  have hcode : Fills [⟨0, leBytes 4 statCode.toNat⟩] (leBytes 4 statCode.toNat) :=
    fills_nil.concat 0 rfl _
  unfold RecvTxtResponse.serialize RecvTxtResponse.body Message.build
  split_ifs with hok
  · have hcount := hcode.concat 4 (by simp) (leBytes 4 c.texts.length)
    have hsenders := hcount.consecutive 8 (by simp) (c.texts.map fun txt => [txt.sender])
    rw [flatten_singletons] at hsenders
    have hlens := hsenders.consecutive (8 + c.texts.length * 1)
      (by simp only [List.length_append, length_leBytes, List.length_map, Nat.mul_one])
      (lengthFields (contentsOf c.texts))
    have hcontents := hlens.consecutive (8 + c.texts.length * 1 + c.texts.length * 4)
      (by simp only [List.length_append, length_leBytes, length_flatten_lengthFields,
        List.length_map, contentsOf, Nat.mul_one]) (contentsOf c.texts)
    refine hcontents.of_mem_iff ?_
    intro w
    simp only [List.mem_cons, List.mem_append, List.not_mem_nil, or_false,
      RecvTxtResponse.mem_copyLoop (htxts hok)]
    tauto
  · exact hcode

/-- Texts are made of their senders and their contents. -/
lemma zipWith_text (txts : List Text) :
    List.zipWith Text.mk (txts.map Text.sender) (contentsOf txts) = txts := by
  induction txts with
  | nil => rfl
  | cons txt txts ih => exact congrArg (txt :: ·) ih

/-- Decoding the body of a chat gives it back. -/
lemma RecvTxtResponse.deserialize_body {statCode : StatusCode} {c : Chat}
    (hsize : RecvTxtResponse.bodySize statCode c < 2 ^ 32) (prev : StatusCode) (out : Chat) :
    RecvTxtResponse.deserialize (RecvTxtResponse.body statCode c) prev out =
      .ok (.ok, statCode, if statCode = StatusCode.ok then c else out) := by
  have hlen := RecvTxtResponse.length_body statCode c
  have hcode : wordAt (RecvTxtResponse.body statCode c) 0 = statCode := by
    have hword (post : ByteString) : wordAt (leBytes 4 statCode.toNat ++ post) 0 = statCode := by
      have h := wordAt_append [] post (show 0 = _ from rfl) statCode.toNat_lt
      rwa [List.nil_append, UInt32.ofNat_toNat] at h
    unfold RecvTxtResponse.body
    split_ifs
    · rw [List.append_assoc, List.append_assoc, List.append_assoc]
      exact hword _
    · rw [← List.append_nil (leBytes 4 _)]
      exact hword []
  have h4 : 4 ≤ (RecvTxtResponse.body statCode c).length := by
    rw [hlen]
    unfold RecvTxtResponse.bodySize
    split_ifs <;> omega
  rw [RecvTxtResponse.deserialize_eq]
  by_cases hok : statCode = StatusCode.ok
  · have hbody : RecvTxtResponse.body statCode c =
        leBytes 4 statCode.toNat ++ leBytes 4 c.texts.length ++ c.texts.map Text.sender ++
          (lengthFields (contentsOf c.texts)).flatten ++ (contentsOf c.texts).flatten := if_pos hok
    rw [RecvTxtResponse.bodySize, if_pos hok] at hsize hlen
    have hsum : ((contentsOf c.texts).map List.length).sum =
        (c.texts.map fun txt => txt.content.length).sum := by
      rw [contentsOf, List.map_map]
      rfl
    have hss : ∀ s ∈ contentsOf c.texts, Short s := by
      intro s hs
      have hle := length_le_sum hs
      rw [Short]
      omega
    have hcount : itemCount (RecvTxtResponse.body statCode c) = c.texts.length := by
      rw [itemCount, hbody, List.append_assoc, List.append_assoc,
        wordAt_append (leBytes 4 statCode.toNat) _ (length_leBytes 4 _).symm
          (show c.texts.length < 2 ^ 32 by omega)]
      exact UInt32.toNat_ofNat_of_lt' (show c.texts.length < 2 ^ 32 by omega)
    have hpre : 8 = (leBytes 4 statCode.toNat ++ leBytes 4 c.texts.length).length := by simp
    have hsenders : RecvTxtResponse.senders (RecvTxtResponse.body statCode c) =
        c.texts.map Text.sender := by
      rw [RecvTxtResponse.senders, hcount, hbody, List.append_assoc, List.append_assoc,
        List.drop_left' hpre.symm, List.take_left' (by simp)]
    have hlens : RecvTxtResponse.lengths (RecvTxtResponse.body statCode c) =
        lengthWords (contentsOf c.texts) := by
      have hnum : (contentsOf c.texts).length = c.texts.length := by simp [contentsOf]
      have hoff : 8 + c.texts.length * 1 = (leBytes 4 statCode.toNat ++ leBytes 4 c.texts.length ++
          c.texts.map Text.sender).length := by
        rw [List.length_append, ← hpre, List.length_map, Nat.mul_one]
      have hwords := wordsAt_lengthFields _ (contentsOf c.texts).flatten hss hoff
      rwa [hnum, ← hbody, ← hcount] at hwords
    have hfixed : RecvTxtResponse.fixedPart (RecvTxtResponse.body statCode c) =
        (leBytes 4 statCode.toNat ++ leBytes 4 c.texts.length ++ c.texts.map Text.sender ++
          (lengthFields (contentsOf c.texts)).flatten).length := by
      rw [RecvTxtResponse.fixedPart, hcount, List.length_append, List.length_append, ← hpre,
        length_flatten_lengthFields, List.length_map, contentsOf, List.length_map]
      omega
    rw [decodeList_eq prev out (contentsOf c.texts) _ h4 hcode, hsenders, zipWith_text]
    intro _
    refine ⟨hss, hlens, ?_, by omega, ?_⟩
    · rw [hlen, hsum, RecvTxtResponse.fixedPart, hcount]
    · rw [hlens, hfixed, hbody, ← List.append_nil (_ ++ (contentsOf c.texts).flatten)]
      exact copyStrings_flatten _ [] hss rfl
  · rw [decodeList_eq prev out [] _ h4 hcode fun h => absurd h hok, if_neg hok, if_neg hok]

/-! ## The round trip -/

/-- A message round-trips: whatever the block held before, the serializer stays inside of it, the
first eight bytes decode to a header with the right version, the type and the length of what
follows, and what follows decodes to the status code and, if that is OK, the value; otherwise the out
parameter is left alone. -/
def RoundTrips {α : Type} (msg : Message) (type : MessageType) (bodySize : ℕ)
    (deserialize : ByteString → StatusCode → α → Except Fault (Status × StatusCode × α))
    (statCode : StatusCode) (value : α) : Prop :=
  ∀ block hdr prev out, block.length = msg.totalLen →
    ∃ data, msg.store block = .ok data ∧
      MessageHeader.deserialize (data.take MessageHeader.size) hdr =
        (.ok, ⟨protocolVersion, type, UInt32.ofNat bodySize⟩) ∧
      (data.drop MessageHeader.size).length = bodySize ∧
      deserialize (data.drop MessageHeader.size) prev out =
        .ok (.ok, statCode, if statCode = StatusCode.ok then value else out)

/-- A message whose copies fill a body of the announced length round-trips when the decoder does its
part on the body. -/
lemma roundTrips_build {α : Type} {type : MessageType} {bodyLen : UInt32} {ws : List Write}
    {body : ByteString} {bodySize : ℕ} (hws : Fills ws body) (hlen : body.length = bodySize)
    (hbodyLen : bodyLen = UInt32.ofNat bodySize) (hsize : bodySize < 2 ^ 32)
    {deserialize : ByteString → StatusCode → α → Except Fault (Status × StatusCode × α)}
    {statCode : StatusCode} {value : α}
    (hdecode : ∀ prev out, deserialize body prev out =
      .ok (.ok, statCode, if statCode = StatusCode.ok then value else out)) :
    RoundTrips (Message.build type bodyLen ws) type bodySize deserialize statCode value := by
  intro block hdr prev out hblock
  have hnat : bodyLen.toNat = bodySize := by
    rw [hbodyLen]
    exact UInt32.toNat_ofNat_of_lt' hsize
  have hheader := MessageHeader.length_bytes ⟨protocolVersion, type, bodyLen⟩
  refine ⟨_, Message.store_build hws (hlen.trans hnat.symm) hblock, ?_⟩
  rw [MessageHeader.size, List.take_left' hheader, List.drop_left' hheader]
  refine ⟨?_, hlen, hdecode prev out⟩
  have hdecoded := MessageHeader.decode_bytes ⟨protocolVersion, type, bodyLen⟩ []
  rw [List.append_nil] at hdecoded
  rw [MessageHeader.deserialize, if_neg (by simp [MessageHeader.size]), hdecoded, hbodyLen]

/-- The length that the serializer announces is the size of the body. -/
lemma bodyLen_eq {bodyLen : UInt32} {n : ℕ} (h : bodyLen.toNat = n % 2 ^ 32) :
    bodyLen = UInt32.ofNat n := by
  apply UInt32.toNat_inj.mp
  rw [h]
  simp

/-- A response with usernames round-trips. -/
lemma UsernamesResponse.roundTrips (type : MessageType) {statCode : StatusCode}
    {usernames : List ByteString}
    (hsize : UsernamesResponse.bodySize statCode usernames < 2 ^ 32) :
    RoundTrips (UsernamesResponse.serialize type statCode usernames) type
      (UsernamesResponse.bodySize statCode usernames) UsernamesResponse.deserialize statCode
      usernames := by
  refine roundTrips_build (UsernamesResponse.fills_body type ?_)
    (UsernamesResponse.length_body statCode usernames)
    (bodyLen_eq (UsernamesResponse.toNat_bodyLen statCode usernames)) hsize
    (UsernamesResponse.deserialize_body hsize)
  intro hok u hu
  have hle := length_le_sum hu
  rw [UsernamesResponse.bodySize, if_pos hok] at hsize
  rw [Short]
  omega

/-- A response with a chat round-trips. -/
lemma RecvTxtResponse.roundTrips {statCode : StatusCode} {c : Chat}
    (hsize : RecvTxtResponse.bodySize statCode c < 2 ^ 32) :
    RoundTrips (RecvTxtResponse.serialize statCode c) MessageType.recvTxtResponse
      (RecvTxtResponse.bodySize statCode c) RecvTxtResponse.deserialize statCode c := by
  refine roundTrips_build (RecvTxtResponse.fills_body ?_) (RecvTxtResponse.length_body statCode c)
    (bodyLen_eq (RecvTxtResponse.toNat_bodyLen statCode c)) hsize
    (RecvTxtResponse.deserialize_body hsize)
  intro hok s hs
  have hle := length_le_sum hs
  have hsum : ((contentsOf c.texts).map List.length).sum =
      (c.texts.map fun txt => txt.content.length).sum := by
    rw [contentsOf, List.map_map]
    rfl
  rw [RecvTxtResponse.bodySize, if_pos hok] at hsize
  rw [Short]
  omega

/-! ## Responses that leave their block -/

/-- Writes that fill a body fit into a block exactly when the body does. -/
lemma Fills.fits_iff {ws : List Write} {body : ByteString} (h : Fills ws body) {n : ℕ} :
    (∀ w ∈ ws, w.Fits n) ↔ body.length ≤ n := by
  constructor
  · intro hfits
    by_contra hlt
    obtain ⟨w, hw, -, hi⟩ := h.covers (body.length - 1) (by omega)
    have hw := hfits w hw
    rw [Write.Fits] at hw
    omega
  · intro hle w hw
    exact (h.places w hw).1.trans hle

/-- A message whose copies fill a body, and which announces the length of that body modulo `2 ^ 32`,
stays inside its block exactly when that length fits into 32 bits. -/
lemma Message.build_fits_iff {type : MessageType} {bodyLen : UInt32} {ws : List Write}
    {body : ByteString} (hws : Fills ws body) (hlen : bodyLen.toNat = body.length % 2 ^ 32) :
    (∀ w ∈ (Message.build type bodyLen ws).writes,
      w.Fits (Message.build type bodyLen ws).totalLen) ↔ body.length < 2 ^ 32 := by
  have hheader := (MessageHeader.mk protocolVersion type bodyLen).fills_bytes
  have hfills : Fills (Message.build type bodyLen ws).writes
      ((MessageHeader.mk protocolVersion type bodyLen).bytes ++ body) :=
    hheader.append hws (by simp [MessageHeader.size])
  rw [Fills.fits_iff hfills, List.length_append, MessageHeader.length_bytes]
  simp only [Message.build, MessageHeader.size, hlen]
  omega

/-- What is copied of a string whose length is cast to 32 bits. -/
def cut (s : ByteString) : ByteString := s.take (UInt32.ofNat s.length).toNat

/-- Its length is the length of the string modulo `2 ^ 32`. -/
lemma length_cut (s : ByteString) : (cut s).length = s.length % 2 ^ 32 := by
  rw [cut, List.length_take, UInt32.toNat_ofNat', Nat.min_eq_left (Nat.mod_le _ _)]

/-- It is short. -/
lemma short_cut (s : ByteString) : Short (cut s) := by
  rw [Short, length_cut]
  exact Nat.mod_lt _ (by decide)

/-- It has the same length in 32 bits. -/
lemma ofNat_length_cut (s : ByteString) :
    UInt32.ofNat (cut s).length = UInt32.ofNat s.length := by
  apply UInt32.toNat_inj.mp
  rw [UInt32.toNat_ofNat', UInt32.toNat_ofNat', length_cut, Nat.mod_mod]

/-- To cut it again changes nothing. -/
lemma take_cut (s : ByteString) :
    (cut s).take (UInt32.ofNat s.length).toNat = s.take (UInt32.ofNat s.length).toNat := by
  rw [cut, List.take_take, Nat.min_self]

/-- The lengths of the cut strings add up to the same number modulo `2 ^ 32`. -/
lemma sum_length_cut_mod {α : Type} (f : α → ByteString) (xs : List α) :
    (xs.map fun x => (cut (f x)).length).sum % 2 ^ 32 =
      (xs.map fun x => (f x).length).sum % 2 ^ 32 := by
  induction xs with
  | nil => rfl
  | cons x xs ih =>
    simp only [List.map_cons, List.sum_cons, length_cut] at ih ⊢
    omega

/-- The copying loop copies of each username what is left of it in 32 bits. -/
lemma UsernamesResponse.copyLoop_map_cut (us : List ByteString) (lenOff nameOff : ℕ) :
    UsernamesResponse.copyLoop (us.map cut) lenOff nameOff =
      UsernamesResponse.copyLoop us lenOff nameOff := by
  induction us generalizing lenOff nameOff with
  | nil => rfl
  | cons u us ih =>
    simp only [List.map_cons, UsernamesResponse.copyLoop, ofNat_length_cut, take_cut, ih]

/-- A response is built from its usernames as it is from what is left of them in 32 bits. -/
lemma UsernamesResponse.serialize_map_cut (type : MessageType) (statCode : StatusCode)
    (us : List ByteString) :
    UsernamesResponse.serialize type statCode (us.map cut) =
      UsernamesResponse.serialize type statCode us := by
  have hbodyLen : UsernamesResponse.bodyLen statCode (us.map cut) =
      UsernamesResponse.bodyLen statCode us := by
    apply UInt32.toNat_inj.mp
    have hsum := sum_length_cut_mod id us
    rw [UsernamesResponse.toNat_bodyLen, UsernamesResponse.toNat_bodyLen]
    unfold UsernamesResponse.bodySize
    simp only [List.length_map, List.map_map, Function.comp_def, id_eq] at hsum ⊢
    split_ifs
    · rw [Nat.add_mod, hsum, ← Nat.add_mod]
    · rfl
  simp only [UsernamesResponse.serialize, hbodyLen, List.length_map,
    UsernamesResponse.copyLoop_map_cut]

/-- The text with what is left of its content in 32 bits. -/
def Text.cut (txt : Text) : Text := { txt with content := Chat262.cut txt.content }

/-- The copying loop copies of each text what is left of it in 32 bits. -/
lemma RecvTxtResponse.copyLoop_map_cut (txts : List Text) (senderOff lenOff txtOff : ℕ) :
    RecvTxtResponse.copyLoop (txts.map Text.cut) senderOff lenOff txtOff =
      RecvTxtResponse.copyLoop txts senderOff lenOff txtOff := by
  induction txts generalizing senderOff lenOff txtOff with
  | nil => rfl
  | cons txt txts ih =>
    simp only [List.map_cons, RecvTxtResponse.copyLoop, Text.cut, ofNat_length_cut, take_cut, ih]

/-- A response is built from its texts as it is from what is left of them in 32 bits. -/
lemma RecvTxtResponse.serialize_map_cut (statCode : StatusCode) (c : Chat) :
    RecvTxtResponse.serialize statCode ⟨c.texts.map Text.cut⟩ =
      RecvTxtResponse.serialize statCode c := by
  have hbodyLen : RecvTxtResponse.bodyLen statCode ⟨c.texts.map Text.cut⟩ =
      RecvTxtResponse.bodyLen statCode c := by
    apply UInt32.toNat_inj.mp
    have hsum := sum_length_cut_mod Text.content c.texts
    rw [RecvTxtResponse.toNat_bodyLen, RecvTxtResponse.toNat_bodyLen]
    unfold RecvTxtResponse.bodySize
    simp only [List.length_map, List.map_map, Function.comp_def, Text.cut] at hsum ⊢
    split_ifs
    · rw [Nat.add_mod, hsum, ← Nat.add_mod]
    · rfl
  simp only [RecvTxtResponse.serialize, hbodyLen, List.length_map,
    RecvTxtResponse.copyLoop_map_cut]

/-- A response with usernames stays inside its block exactly when the bytes that it copies into the
body are counted right in 32 bits. -/
lemma UsernamesResponse.fits_iff (type : MessageType) (statCode : StatusCode)
    (us : List ByteString) :
    (∀ w ∈ (UsernamesResponse.serialize type statCode us).writes,
        w.Fits (UsernamesResponse.serialize type statCode us).totalLen) ↔
      bytesWritten (UsernamesResponse.serialize type statCode us).bodyWrites < 2 ^ 32 := by
  have hshort : statCode = StatusCode.ok → ∀ u ∈ us.map cut, Short u := by
    rintro - u hu
    obtain ⟨u', -, rfl⟩ := List.mem_map.mp hu
    exact short_cut u'
  have hlen := UsernamesResponse.length_body statCode (us.map cut)
  rw [← UsernamesResponse.serialize_map_cut, UsernamesResponse.bytesWritten_serialize type hshort,
    ← hlen]
  refine Message.build_fits_iff (UsernamesResponse.fills_body type hshort) ?_
  rw [UsernamesResponse.toNat_bodyLen, hlen]

/-- A response with a chat stays inside its block exactly when the bytes that it copies into the body
are counted right in 32 bits. -/
lemma RecvTxtResponse.fits_iff (statCode : StatusCode) (c : Chat) :
    (∀ w ∈ (RecvTxtResponse.serialize statCode c).writes,
        w.Fits (RecvTxtResponse.serialize statCode c).totalLen) ↔
      bytesWritten (RecvTxtResponse.serialize statCode c).bodyWrites < 2 ^ 32 := by
  have hshort : ∀ txt ∈ c.texts.map Text.cut, Short txt.content := by
    intro txt htxt
    obtain ⟨txt', -, rfl⟩ := List.mem_map.mp htxt
    exact short_cut txt'.content
  have hlen := RecvTxtResponse.length_body statCode ⟨c.texts.map Text.cut⟩
  rw [← RecvTxtResponse.serialize_map_cut, RecvTxtResponse.bytesWritten_serialize fun _ => hshort,
    ← hlen]
  refine Message.build_fits_iff (RecvTxtResponse.fills_body ?_) ?_
  · rintro - s hs
    obtain ⟨txt, htxt, rfl⟩ := List.mem_map.mp hs
    exact hshort txt htxt
  · rw [RecvTxtResponse.toNat_bodyLen, hlen]

/-! ## The three responses -/

/-- The three list responses round-trip, for every status code and every list whose body is shorter
than `2 ^ 32` bytes. -/
theorem list_responses_roundTrip (statCode : StatusCode) :
    (∀ usernames, UsernamesResponse.bodySize statCode usernames < 2 ^ 32 →
      RoundTrips (AccountsResponse.serialize statCode usernames) MessageType.accountsResponse
          (UsernamesResponse.bodySize statCode usernames) AccountsResponse.deserialize statCode
          usernames ∧
        RoundTrips (CorrespondentsResponse.serialize statCode usernames)
          MessageType.correspondentsResponse (UsernamesResponse.bodySize statCode usernames)
          CorrespondentsResponse.deserialize statCode usernames) ∧
      ∀ c, RecvTxtResponse.bodySize statCode c < 2 ^ 32 →
        RoundTrips (RecvTxtResponse.serialize statCode c) MessageType.recvTxtResponse
          (RecvTxtResponse.bodySize statCode c) RecvTxtResponse.deserialize statCode c := by
  constructor
  · intro usernames hsize
    exact ⟨UsernamesResponse.roundTrips _ hsize, UsernamesResponse.roundTrips _ hsize⟩
  · intro c hsize
    exact RecvTxtResponse.roundTrips hsize

/-- A chat with an empty text and one with a zero byte in it. -/
def oddChat : Chat := ⟨[⟨7, []⟩, ⟨1, [0, 97, 0]⟩]⟩

/-- The round trip of two usernames, one of them empty, and of `oddChat`. -/
theorem list_responses_roundTrip_odd :
    RoundTrips (AccountsResponse.serialize 0 [[], [97, 0]]) 204 18 AccountsResponse.deserialize 0
        [[], [97, 0]] ∧
      RoundTrips (RecvTxtResponse.serialize 0 oddChat) 206 21 RecvTxtResponse.deserialize 0
        oddChat :=
  ⟨((list_responses_roundTrip 0).1 [[], [97, 0]] (by decide)).1,
    (list_responses_roundTrip 0).2 oddChat (by decide)⟩

end Chat262
