import Chat262.Wire.Requests
import Chat262.Wire.Sockets

/-!
# Messages that are transferred in one piece

What `recv_hdr`, `recv_body` and `send_msg` do when every `recv` returns as many bytes as it was
asked for and every `send` accepts all that it is offered.  A header and its body are then read
from the front of the stream, and the block of a message is put on the wire once, with the header
that the serializer gave it and as many bytes behind it as that header announces.

The same comes of a transfer in several pieces if they happen to fit: `ReadsWhole` and `SendsWhole`
say of the results of the calls that they do.
-/

namespace Chat262

open Foundation

/-! ## Reading -/

/-- The results of the calls that read a body of `n` bytes in one piece: an empty body takes no
call. -/
def fullBody (n : ℕ) : List RecvResult := if n = 0 then [] else [.bytes n]

/-- The results of the calls that read the message at the front of the stream, each in one piece. -/
def fullReads (stream : ByteString) : List RecvResult :=
  .bytes MessageHeader.size :: fullBody (announced stream)

/-- A header that comes in one piece is received, by every function that receives headers. -/
lemma ReceivesHeader.recvHdr_fullReads
    {recvHdr : MessageHeader → ByteString → List RecvResult → Option (Received × MessageHeader)}
    (hrecv : ReceivesHeader recvHdr) (hdr : MessageHeader) {stream : ByteString}
    (hstream : 8 ≤ stream.length) :
    recvHdr hdr stream (fullReads stream) =
      some (⟨.ok, stream.take 8, stream.drop 8, fullBody (announced stream)⟩,
        MessageHeader.decode stream) := by
  obtain ⟨sizes, hpos, hsizes⟩ : ∃ sizes : List ℕ, (∀ k ∈ sizes, 1 ≤ k) ∧
      fullBody (announced stream) = sizes.map .bytes := by
    unfold fullBody
    split_ifs with hzero
    · exact ⟨[], by simp, rfl⟩
    · refine ⟨[announced stream], ?_, rfl⟩
      intro k hk
      rw [List.mem_singleton.mp hk]
      omega
  have hpos' : ∀ k ∈ 8 :: sizes, 1 ≤ k := by
    intro k hk
    rcases List.mem_cons.mp hk with rfl | hk
    · decide
    · exact hpos k hk
  have hbuffer : hdrBuffer [8] stream = stream.take 8 :=
    (deposit_eq_take_iff (by simpa using hstream)).mpr (lastPiecesFit_singleton 0 8 stream)
  have hone := (hrecv hdr stream (8 :: sizes) hstream hpos' _).mpr ⟨[8], sizes, rfl, rfl, rfl⟩
  rwa [hbuffer, MessageHeader.decode_take, List.map_cons, ← hsizes] at hone

/-- A body that comes in one piece is received. -/
lemma recvBody_full {bodyLen : UInt32} {stream : ByteString}
    (hstream : bodyLen.toNat ≤ stream.length) :
    recvBody bodyLen [] stream (fullBody bodyLen.toNat) =
      some ⟨.ok, stream.take bodyLen.toNat, stream.drop bodyLen.toNat, []⟩ := by
  unfold fullBody
  split_ifs with hzero
  · rw [recvBody, hzero]
    rfl
  · have hpos : ∀ k ∈ [bodyLen.toNat], 1 ≤ k := by
      intro k hk
      rw [List.mem_singleton.mp hk]
      omega
    have hresize : resize bodyLen.toNat [] = List.replicate bodyLen.toNat 0 := by
      rw [resize, List.take_nil, List.nil_append, List.length_nil, Nat.sub_zero]
    have hdeposit : deposit [bodyLen.toNat] stream (List.replicate [bodyLen.toNat].sum 0) =
        stream.take [bodyLen.toNat].sum :=
      (deposit_eq_take_iff (by simpa using hstream)).mpr (lastPiecesFit_singleton 0 _ stream)
    rw [List.sum_singleton] at hdeposit
    have hone := (@recvLoop_eq_some bodyLen.toNat 0 (resize bodyLen.toNat []) stream
      [bodyLen.toNat] hpos _).mpr ⟨[bodyLen.toNat], [], rfl, by simp, rfl⟩
    rw [hresize, hdeposit, List.sum_singleton] at hone
    rw [recvBody, hresize]
    exact hone

/-- The message at the front of the stream has arrived, no `recv` fails, and the pieces that they
return frame the stream. -/
def ReadsWhole (stream : ByteString) (results : List RecvResult) : Prop :=
  8 + announced stream ≤ stream.length ∧ ∃ sizes : List ℕ, (∀ k ∈ sizes, 1 ≤ k) ∧
    results = sizes.map .bytes ∧ FramesStream stream sizes

/-- A message that is read whole: the header is that of the stream, and the body what follows it. -/
lemma ReadsWhole.received
    {recvHdr : MessageHeader → ByteString → List RecvResult → Option (Received × MessageHeader)}
    (hrecv : ReceivesHeader recvHdr) {stream : ByteString} {results : List RecvResult}
    (h : ReadsWhole stream results) :
    ∃ r r', recvHdr ⟨0, 0, 0⟩ stream results = some (r, MessageHeader.decode stream) ∧
      r.status = .ok ∧
      recvBody (MessageHeader.decode stream).bodyLen [] r.unread r.results = some r' ∧
      r'.status = .ok ∧ r'.data = (stream.drop 8).take (announced stream) ∧
      r'.unread = stream.drop (8 + announced stream) := by
  obtain ⟨hstream, sizes, hpos, rfl, hframes⟩ := h
  have hframed := (framed_recvFrame_iff hrecv hstream hpos).mpr hframes
  obtain ⟨⟨r, hdr⟩, hhdr, h⟩ := Option.bind_eq_some_iff.mp hframed
  dsimp only at h
  split_ifs at h with hstatus
  · simp only [Option.pure_def, Option.some.injEq, Frame.mk.injEq] at h
    exact absurd h.1 hstatus
  · obtain ⟨r', hbody, h⟩ := Option.bind_eq_some_iff.mp h
    simp only [Option.pure_def, Option.some.injEq, Frame.mk.injEq] at h
    obtain ⟨hok, rfl, hdata, hunread⟩ := h
    exact ⟨r, r', hhdr, not_not.mp hstatus, hbody, hok, hdata, hunread⟩

/-- A message that comes in one piece is read whole. -/
lemma readsWhole_fullReads {stream : ByteString} (hstream : 8 + announced stream ≤ stream.length) :
    ReadsWhole stream (fullReads stream) := by
  refine ⟨hstream, 8 :: if announced stream = 0 then [] else [announced stream], ?_, ?_, ?_⟩
  · split_ifs with hzero
    · simp
    · simp only [List.mem_cons, List.not_mem_nil, or_false, forall_eq_or_imp, forall_eq]
      omega
  · rw [fullReads, fullBody]
    split_ifs <;> rfl
  · refine ⟨[8], if announced stream = 0 then [] else [announced stream], [], by simp, rfl, ?_,
      lastPiecesFit_singleton 0 8 stream, ?_⟩
    · split_ifs with hzero
      · exact hzero.symm
      · simp
    · split_ifs
      · exact lastPiecesFit_nil 0 _
      · exact lastPiecesFit_singleton 0 _ _

/-! ## Sending -/

/-- What a serializer stores begins with the header, and fills the block. -/
lemma Message.take_store {type : MessageType} {bodyLen : UInt32} {ws : List Write}
    {block data : ByteString} (hblock : block.length = (Message.build type bodyLen ws).totalLen)
    (hstore : (Message.build type bodyLen ws).store block = .ok data) :
    data.take 8 = (MessageHeader.mk protocolVersion type bodyLen).bytes ∧
      data.length = 8 + bodyLen.toNat := by
  obtain ⟨hinside, rfl⟩ := writeAll_eq_ok.mp hstore
  have hlen : block.length = 8 + bodyLen.toNat := hblock
  have hheader := (MessageHeader.mk protocolVersion type bodyLen).fills_bytes
  have hbytes := MessageHeader.length_bytes ⟨protocolVersion, type, bodyLen⟩
  have hbehind : ∀ w ∈ ws.map (Write.shift MessageHeader.size),
      (MessageHeader.mk protocolVersion type bodyLen).bytes.length ≤ w.off := by
    intro w hw
    obtain ⟨w', -, rfl⟩ := List.mem_map.mp hw
    rw [hbytes]
    exact Nat.le_add_right 8 w'.off
  have hfits : (MessageHeader.mk protocolVersion type bodyLen).bytes.length ≤ block.length := by
    rw [hbytes]
    omega
  constructor
  · have hfront := hheader.take_fill_append hfits hbehind
    rwa [hbytes] at hfront
  · rw [length_fill hinside, hlen]

/-- No `send` fails, and the pieces that they accept repeat in the message. -/
def SendsWhole (msg : ByteString) (results : List SendResult) : Prop :=
  ∃ sizes : List ℕ, (∀ k ∈ sizes, 1 ≤ k) ∧ results = sizes.map .accepted ∧ PiecesRepeat msg sizes

/-- A message that is sent whole is put on the wire as it was stored. -/
lemma sendMsg_of_sendsWhole {type : MessageType} {bodyLen : UInt32} {ws : List Write}
    {block data : ByteString} {results : List SendResult}
    (hblock : block.length = (Message.build type bodyLen ws).totalLen)
    (hstore : (Message.build type bodyLen ws).store block = .ok data)
    (h : SendsWhole data results) : sendMsg data results = some (.ok, data) := by
  obtain ⟨sizes, hpos, rfl, ks, rest, hsplit, hsum, hpieces⟩ := h
  obtain ⟨hheader, hlen⟩ := Message.take_store hblock hstore
  have hdecode : MessageHeader.decode data = ⟨protocolVersion, type, bodyLen⟩ := by
    have h := MessageHeader.decode_bytes ⟨protocolVersion, type, bodyLen⟩ []
    rwa [List.append_nil, ← hheader, MessageHeader.decode_take] at h
  have htotal : MessageHeader.size + bodyLen.toNat = data.length := hlen.symm
  have hle : ∀ k ∈ ks, k ≤ data.length := fun k hk => hsum ▸ List.le_sum_of_mem hk
  rw [sendMsg, hdecode]
  simp only [htotal]
  refine (sendLoop_eq_some hpos).mpr ⟨ks, rest, hsplit, by omega, ?_⟩
  rw [List.nil_append, List.take_length, (restarts_eq_iff hle).mpr ⟨hsum, hpieces⟩]

/-- A message that is accepted in one piece is sent whole. -/
lemma sendsWhole_singleton {msg : ByteString} (hmsg : msg ≠ []) :
    SendsWhole msg [.accepted msg.length] := by
  have hpos : ∀ k ∈ [msg.length], 1 ≤ k := by
    intro k hk
    rw [List.mem_singleton.mp hk]
    exact List.length_pos_of_ne_nil hmsg
  obtain ⟨hsum, hpieces⟩ := (@restarts_eq_iff _ [msg.length] msg (by simp)).mp
    (restarts_singleton msg)
  exact ⟨[msg.length], hpos, rfl, [msg.length], [], rfl, hsum, hpieces⟩

/-- A message that is sent in one piece is sent whole. -/
lemma sendMsg_full {type : MessageType} {bodyLen : UInt32} {ws : List Write}
    {block data : ByteString} (hblock : block.length = (Message.build type bodyLen ws).totalLen)
    (hstore : (Message.build type bodyLen ws).store block = .ok data) :
    sendMsg data [.accepted block.length] = some (.ok, data) := by
  have hlen := (Message.take_store hblock hstore).2
  have hsame : block.length = data.length := hlen ▸ hblock
  have hne : data ≠ [] := by
    apply List.ne_nil_of_length_pos
    omega
  rw [hsame]
  exact sendMsg_of_sendsWhole hblock hstore (sendsWhole_singleton hne)

end Chat262
