import Chat262.Foundation.Pieces
import Chat262.Wire.Message

/-!
# Sending and receiving over a socket

The loops of `send_msg`, `recv_hdr` and `recv_body`, in the server and in the client, over a stream
socket that transfers as many bytes at a time as it likes.  What the socket does is given by the
results of the successive `recv` or `send` calls; a loop that has used them up without reaching its
exit is still waiting, and returns `none`.  `total_read` and `total_sent` are natural numbers.

Every round of a loop passes the same pointer and the same length.  Pieces that are received are
stored on top of each other (`Foundation.deposit`), and pieces that are sent all start at the
beginning of the message (`Foundation.restarts`).
-/

namespace Chat262

open Foundation

/-! ## Receiving -/

/-- What a `recv` call returns. -/
inductive RecvResult where
  | error
  /-- Zero: the peer has closed the connection. -/
  | closed
  /-- The next `k` bytes of the stream. -/
  | bytes (k : ℕ)
deriving DecidableEq, Repr

/-- The state in which a receiving loop is left. -/
structure Received where
  status : Status
  data : ByteString
  /-- The part of the stream that has not been read. -/
  unread : ByteString
  results : List RecvResult
deriving DecidableEq, Repr

/-- The loop of `recv_hdr` and `recv_body`: every call asks for `len` bytes and stores what it gets
at the beginning of the buffer `data`; `total` stands for `total_read`. -/
def recvLoop (len total : ℕ) (data unread : ByteString) (results : List RecvResult) :
    Option Received :=
  if total = len then some ⟨.ok, data, unread, results⟩
  else
    match results with
    | [] => none
    | .error :: results => some ⟨.receiveError, data, unread, results⟩
    | .closed :: results => some ⟨.closedConnection, data, unread, results⟩
    | .bytes k :: results =>
      recvLoop len (total + k) (overwriteFront (unread.take k) data) (unread.drop k) results

/-- `std::vector<uint8_t>::resize`. -/
def resize (n : ℕ) (data : ByteString) : ByteString :=
  data.take n ++ List.replicate (n - data.length) 0

/-- `server::recv_hdr`; `hdr` is the out parameter. -/
def Server.recvHdr (hdr : MessageHeader) (unread : ByteString) (results : List RecvResult) :
    Option (Received × MessageHeader) :=
  (recvLoop MessageHeader.size 0 (resize MessageHeader.size []) unread results).map fun r =>
    if r.status ≠ .ok then (r, hdr)
    else
      let (s, hdr') := MessageHeader.deserialize r.data hdr
      if s ≠ .ok then ({ r with status := s }, hdr') else (r, hdr')

/-- `client::recv_hdr`: what `deserialize` returns is not looked at. -/
def Client.recvHdr (hdr : MessageHeader) (unread : ByteString) (results : List RecvResult) :
    Option (Received × MessageHeader) :=
  (recvLoop MessageHeader.size 0 (resize MessageHeader.size []) unread results).map fun r =>
    if r.status ≠ .ok then (r, hdr) else (r, (MessageHeader.deserialize r.data hdr).2)

/-- The body of `recv_body`; `data` is the out parameter. -/
def recvBody (bodyLen : UInt32) (data unread : ByteString) (results : List RecvResult) :
    Option Received :=
  recvLoop bodyLen.toNat 0 (resize bodyLen.toNat data) unread results

/-- `server::recv_body`. -/
def Server.recvBody : UInt32 → ByteString → ByteString → List RecvResult → Option Received :=
  Chat262.recvBody

/-- `client::recv_body`. -/
def Client.recvBody : UInt32 → ByteString → ByteString → List RecvResult → Option Received :=
  Chat262.recvBody

/-- A message as it is received: `status` tells whether receiving succeeded. -/
structure Frame where
  status : Status
  hdr : MessageHeader
  body : ByteString
  /-- The part of the stream behind the message. -/
  unread : ByteString
deriving DecidableEq, Repr

/-- `recv_hdr`, and if it succeeds `recv_body` into an empty vector. -/
def recvFrame
    (recvHdr : MessageHeader → ByteString → List RecvResult → Option (Received × MessageHeader))
    (recvBody : UInt32 → ByteString → ByteString → List RecvResult → Option Received)
    (stream : ByteString) (results : List RecvResult) : Option Frame := do
  let (r, hdr) ← recvHdr ⟨0, 0, 0⟩ stream results
  if r.status ≠ .ok then return ⟨r.status, hdr, [], r.unread⟩
  let r' ← recvBody hdr.bodyLen [] r.unread r.results
  return ⟨r'.status, hdr, r'.data, r'.unread⟩

/-- `recv_hdr` and `recv_body` of the server. -/
def Server.recvFrame : ByteString → List RecvResult → Option Frame :=
  Chat262.recvFrame Server.recvHdr Server.recvBody

/-- `recv_hdr` and `recv_body` of the client. -/
def Client.recvFrame : ByteString → List RecvResult → Option Frame :=
  Chat262.recvFrame Client.recvHdr Client.recvBody

/-! ## Sending -/

/-- What a `send` call returns. -/
inductive SendResult where
  | error
  /-- The first `k` of the bytes offered are accepted. -/
  | accepted (k : ℕ)
deriving DecidableEq, Repr

/-- The loop of `send_msg`: every call offers the first `totalLen` bytes of the block `msg`; `total`
stands for `total_sent`, and `wire` is what has been accepted so far. -/
def sendLoop (msg : ByteString) (totalLen total : ℕ) (wire : ByteString)
    (results : List SendResult) : Option (Status × ByteString) :=
  if total = totalLen then some (.ok, wire)
  else
    match results with
    | [] => none
    | .error :: _ => some (.sendError, wire)
    | .accepted k :: results =>
      sendLoop msg totalLen (total + k) (wire ++ (msg.take totalLen).take k) results

/-- The body of `send_msg`: the length of the body is read from the message. -/
def sendMsg (msg : ByteString) (results : List SendResult) : Option (Status × ByteString) :=
  sendLoop msg (MessageHeader.size + (MessageHeader.decode msg).bodyLen.toNat) 0 [] results

/-- `server::send_msg`. -/
def Server.sendMsg : ByteString → List SendResult → Option (Status × ByteString) :=
  Chat262.sendMsg

/-- `client::send_msg`. -/
def Client.sendMsg : ByteString → List SendResult → Option (Status × ByteString) :=
  Chat262.sendMsg

/-! ## What is received -/

/-- After results that are all positive, a receiving loop has ended exactly when some of the first
of them sum up to what was still missing; it has then stored these pieces on top of each other. -/
lemma recvLoop_eq_some {len total : ℕ} {data unread : ByteString} {sizes : List ℕ}
    (hpos : ∀ k ∈ sizes, 1 ≤ k) {r : Received} :
    recvLoop len total data unread (sizes.map .bytes) = some r ↔
      ∃ ks rest, sizes = ks ++ rest ∧ total + ks.sum = len ∧
        r = ⟨.ok, deposit ks unread data, unread.drop ks.sum, rest.map .bytes⟩ := by
  induction sizes generalizing total data unread with
  | nil =>
    unfold recvLoop
    split_ifs with hexit
    · constructor
      · intro h
        cases h
        exact ⟨[], [], rfl, hexit, rfl⟩
      · rintro ⟨ks, rest, hsplit, -, rfl⟩
        obtain ⟨rfl, rfl⟩ := List.append_eq_nil_iff.mp hsplit.symm
        rfl
    · constructor
      · intro h
        cases h
      · rintro ⟨ks, rest, hsplit, hsum, -⟩
        obtain ⟨rfl, rfl⟩ := List.append_eq_nil_iff.mp hsplit.symm
        exact absurd hsum hexit
  | cons k sizes ih =>
    have hk := hpos k List.mem_cons_self
    unfold recvLoop
    split_ifs with hexit
    · constructor
      · intro h
        cases h
        exact ⟨[], k :: sizes, rfl, hexit, rfl⟩
      · rintro ⟨ks, rest, hsplit, hsum, rfl⟩
        have hks : ks = [] := eq_nil_of_sum_eq_zero
          (fun k' hk' => hpos k' (hsplit ▸ List.mem_append_left rest hk')) (by omega)
        subst hks
        rw [← List.nil_append rest, ← hsplit]
        rfl
    · rw [List.map_cons]
      refine (ih fun k' hk' => hpos k' (List.mem_cons_of_mem k hk')).trans ?_
      constructor
      · rintro ⟨ks, rest, rfl, hsum, rfl⟩
        exact ⟨k :: ks, rest, rfl, by simp only [List.sum_cons]; omega,
          by simp only [deposit, List.sum_cons, List.drop_drop]⟩
      · rintro ⟨ks, rest, hsplit, hsum, rfl⟩
        cases ks with
        | nil => exact absurd hsum hexit
        | cons k' ks =>
          obtain ⟨rfl, rfl⟩ := List.cons.inj hsplit
          exact ⟨ks, rest, rfl, by simp only [List.sum_cons] at hsum; omega,
            by simp only [deposit, List.sum_cons, List.drop_drop]⟩

/-- Eight bytes are determined by the header they stand for. -/
lemma MessageHeader.decode_inj {data data' : ByteString} (hlen : data.length = 8)
    (hlen' : data'.length = 8) :
    MessageHeader.decode data = MessageHeader.decode data' ↔ data = data' := by
  refine ⟨?_, fun h => h ▸ rfl⟩
  intro h
  have hword {n : ℕ} {bs bs' : ByteString} (hbs : bs.length = n) (hbs' : bs'.length = n)
      (h : leNat bs % 256 ^ n = leNat bs' % 256 ^ n) : bs = bs' := by
    rw [Nat.mod_eq_of_lt (hbs ▸ leNat_lt bs), Nat.mod_eq_of_lt (hbs' ▸ leNat_lt bs')] at h
    exact leNat_inj (hbs.trans hbs'.symm) h
  simp only [MessageHeader.decode, MessageHeader.mk.injEq, wordAt] at h
  obtain ⟨hversion, htype, hbody⟩ := h
  have h₁ : data.take 2 = data'.take 2 := hword (n := 2) (by simp [hlen]) (by simp [hlen'])
    (by simpa using congrArg UInt16.toNat hversion)
  have h₂ : (data.drop 2).take 2 = (data'.drop 2).take 2 :=
    hword (n := 2) (by simp [hlen]) (by simp [hlen']) (by simpa using congrArg UInt16.toNat htype)
  have h₃ : (data.drop 4).take 4 = (data'.drop 4).take 4 :=
    hword (n := 4) (by simp [hlen]) (by simp [hlen']) (by simpa using congrArg UInt32.toNat hbody)
  have hsplit (d : ByteString) (hd : d.length = 8) :
      d = d.take 2 ++ (d.drop 2).take 2 ++ (d.drop 4).take 4 := by
    rw [← List.take_add, ← List.take_add, List.take_of_length_le hd.le]
  rw [hsplit data hlen, hsplit data' hlen', h₁, h₂, h₃]

/-- The header of a stream stands in its first eight bytes. -/
lemma MessageHeader.decode_take (stream : ByteString) :
    MessageHeader.decode (stream.take 8) = MessageHeader.decode stream := by
  have hfield (a b : ℕ) (hab : a + b ≤ 8) :
      ((stream.take 8).drop a).take b = (stream.drop a).take b := by
    rw [List.drop_take, List.take_take, Nat.min_eq_left (by omega)]
  have h₁ := hfield 0 2 (by omega)
  simp only [List.drop_zero] at h₁
  simp only [MessageHeader.decode, wordAt, h₁, hfield 2 2 (by omega), hfield 4 4 (by omega)]

/-- What is left in the header buffer after pieces of the sizes `ks`. -/
def hdrBuffer (ks : List ℕ) (stream : ByteString) : ByteString :=
  deposit ks stream (List.replicate 8 0)

/-- Pieces that make up a header fill the buffer. -/
lemma length_hdrBuffer {ks : List ℕ} {stream : ByteString} (hsum : ks.sum = 8)
    (hstream : 8 ≤ stream.length) : (hdrBuffer ks stream).length = 8 := by
  rw [hdrBuffer, length_deposit (by omega), List.length_replicate]
  intro k hk
  rw [List.length_replicate, ← hsum]
  exact List.le_sum_of_mem hk

/-- A function receives headers like `recv_hdr` of the server and of the client: it ends when some
pieces sum up to eight bytes, and decodes what they leave in the buffer. -/
def ReceivesHeader
    (recvHdr : MessageHeader → ByteString → List RecvResult → Option (Received × MessageHeader)) :
    Prop :=
  ∀ hdr stream sizes, 8 ≤ stream.length → (∀ k ∈ sizes, 1 ≤ k) → ∀ p,
    recvHdr hdr stream (sizes.map .bytes) = some p ↔
      ∃ ks rest, sizes = ks ++ rest ∧ ks.sum = 8 ∧
        p = (⟨.ok, hdrBuffer ks stream, stream.drop 8, rest.map .bytes⟩,
          MessageHeader.decode (hdrBuffer ks stream))

/-- The loop of `recv_hdr`, followed by a step that decodes a full buffer, receives headers. -/
lemma receivesHeader_of_finish {finish : MessageHeader → Received → Received × MessageHeader}
    (h : ∀ hdr r, r.status = .ok → r.data.length = 8 →
      finish hdr r = (r, MessageHeader.decode r.data)) :
    ReceivesHeader fun hdr unread results =>
      (recvLoop MessageHeader.size 0 (resize MessageHeader.size []) unread results).map
        (finish hdr) := by
  intro hdr stream sizes hstream hpos p
  rw [Option.map_eq_some_iff]
  constructor
  · rintro ⟨r, hr, rfl⟩
    obtain ⟨ks, rest, hsplit, hsum, rfl⟩ := (recvLoop_eq_some hpos).mp hr
    rw [Nat.zero_add] at hsum
    refine ⟨ks, rest, hsplit, hsum, ?_⟩
    have hlen := length_hdrBuffer hsum hstream
    rw [h _ _ rfl hlen, hsum]
    rfl
  · rintro ⟨ks, rest, hsplit, hsum, rfl⟩
    refine ⟨_, (recvLoop_eq_some hpos).mpr ⟨ks, rest, hsplit, by rw [Nat.zero_add, hsum]; rfl, rfl⟩,
      ?_⟩
    have hlen := length_hdrBuffer hsum hstream
    rw [h _ _ rfl hlen, hsum]
    rfl

/-- The server receives headers. -/
lemma Server.receivesHeader : ReceivesHeader Server.recvHdr := by
  refine receivesHeader_of_finish ?_
  intro hdr r hok hlen
  have hsize : ¬ r.data.length ≠ MessageHeader.size := not_not.mpr hlen
  simp [hok, MessageHeader.deserialize, hsize]

/-- The client receives headers. -/
lemma Client.receivesHeader : ReceivesHeader Client.recvHdr := by
  refine receivesHeader_of_finish ?_
  intro hdr r hok hlen
  have hsize : ¬ r.data.length ≠ MessageHeader.size := not_not.mpr hlen
  simp [hok, MessageHeader.deserialize, hsize]

/-- The length of the body that the header of a stream announces. -/
def announced (stream : ByteString) : ℕ := (MessageHeader.decode stream).bodyLen.toNat

/-- The message at the beginning of the stream has been received: the header, exactly the body that
it announces, and nothing more. -/
def Framed (stream : ByteString) (result : Option Frame) : Prop :=
  result = some ⟨.ok, MessageHeader.decode stream, (stream.drop 8).take (announced stream),
    stream.drop (8 + announced stream)⟩

instance (stream : ByteString) (result : Option Frame) : Decidable (Framed stream result) :=
  inferInstanceAs (Decidable (_ = _))

/-- The first sizes sum up to the header and the next ones to the body, and in both buffers the last
piece that reaches a position brings the byte that belongs there. -/
def FramesStream (stream : ByteString) (sizes : List ℕ) : Prop :=
  ∃ hdrSizes bodySizes rest, sizes = hdrSizes ++ (bodySizes ++ rest) ∧
    hdrSizes.sum = 8 ∧ bodySizes.sum = announced stream ∧
    LastPiecesFit 0 hdrSizes stream ∧ LastPiecesFit 0 bodySizes (stream.drop 8)

/-- Receiving with a function that receives headers frames the stream exactly when the sizes of the
pieces do. -/
lemma framed_recvFrame_iff
    {recvHdr : MessageHeader → ByteString → List RecvResult → Option (Received × MessageHeader)}
    (hrecv : ReceivesHeader recvHdr) {stream : ByteString} {sizes : List ℕ}
    (hstream : 8 + announced stream ≤ stream.length) (hpos : ∀ k ∈ sizes, 1 ≤ k) :
    Framed stream (recvFrame recvHdr recvBody stream (sizes.map .bytes)) ↔
      FramesStream stream sizes := by
  have hrest : announced stream ≤ (stream.drop 8).length := by simp; omega
  have hheader : (stream.take 8).length = 8 := by simp; omega
  constructor
  · intro h
    obtain ⟨⟨r, hdr⟩, hhdr, h⟩ := Option.bind_eq_some_iff.mp h
    obtain ⟨ks, rest, rfl, hsum, hr⟩ := (hrecv _ _ _ (by omega) hpos _).mp hhdr
    cases hr
    dsimp only at h
    rw [if_neg (not_not.mpr rfl)] at h
    obtain ⟨r', hbody, h⟩ := Option.bind_eq_some_iff.mp h
    obtain ⟨js, rest', rfl, hsum', rfl⟩ := (recvLoop_eq_some fun k hk =>
      hpos k (List.mem_append_right ks hk)).mp hbody
    simp only [Option.pure_def, Option.some.injEq, Frame.mk.injEq, true_and] at h
    obtain ⟨hhdr, hbody, -⟩ := h
    -- The right header comes from the right bytes, and announces the right length.
    have hbuffer : hdrBuffer ks stream = stream.take 8 := by
      rw [← MessageHeader.decode_take stream] at hhdr
      exact (MessageHeader.decode_inj (length_hdrBuffer hsum (by omega)) hheader).mp hhdr
    rw [hhdr, Nat.zero_add] at hsum'
    refine ⟨ks, js, rest', rfl, hsum, hsum', ?_, ?_⟩
    · rw [hdrBuffer, ← hsum] at hbuffer
      exact (deposit_eq_take_iff (by omega)).mp hbuffer
    · rw [hhdr, ← hsum', resize, List.length_nil, Nat.sub_zero, List.take_nil,
        List.nil_append] at hbody
      rw [show announced stream = js.sum from hsum'.symm] at hbody
      exact (deposit_eq_take_iff (by rw [hsum']; exact hrest)).mp hbody
  · rintro ⟨ks, js, rest, rfl, hsum, hsum', hks, hjs⟩
    have hbuffer : hdrBuffer ks stream = stream.take 8 := by
      rw [hdrBuffer, ← hsum]
      exact (deposit_eq_take_iff (by omega)).mpr hks
    have hdeposit : deposit js (stream.drop 8) (resize (announced stream) []) =
        (stream.drop 8).take (announced stream) := by
      rw [resize, List.length_nil, Nat.sub_zero, List.take_nil, List.nil_append, ← hsum']
      exact (deposit_eq_take_iff (by omega)).mpr hjs
    have hhdr := (hrecv ⟨0, 0, 0⟩ stream _ (by omega) hpos _).mpr ⟨ks, js ++ rest, rfl, hsum, rfl⟩
    rw [hbuffer, MessageHeader.decode_take] at hhdr
    have hbody : recvLoop (announced stream) 0 (resize (announced stream) []) (stream.drop 8)
        ((js ++ rest).map .bytes) = some _ :=
      (recvLoop_eq_some fun k hk => hpos k (List.mem_append_right ks hk)).mpr
        ⟨js, rest, rfl, by omega, rfl⟩
    rw [hdeposit, List.drop_drop, hsum'] at hbody
    rw [Framed, recvFrame, hhdr]
    change (recvLoop (announced stream) 0 (resize (announced stream) []) (stream.drop 8)
      ((js ++ rest).map .bytes) >>= _) = _
    rw [hbody]
    rfl

/-- For every stream that begins with a message and every sequence of results, `recv_hdr` followed
by `recv_body`, of the server and of the client, yield the message exactly when the sizes of the
pieces frame the stream. -/
theorem recvFrame_framed_iff {stream : ByteString} {sizes : List ℕ}
    (hstream : 8 + announced stream ≤ stream.length) (hpos : ∀ k ∈ sizes, 1 ≤ k) :
    (Framed stream (Server.recvFrame stream (sizes.map .bytes)) ↔ FramesStream stream sizes) ∧
      (Framed stream (Client.recvFrame stream (sizes.map .bytes)) ↔ FramesStream stream sizes) :=
  ⟨framed_recvFrame_iff Server.receivesHeader hstream hpos,
    framed_recvFrame_iff Client.receivesHeader hstream hpos⟩

/-- A header that announces no body, and the bytes of a request without a body. -/
def logoutRequestBytes : ByteString := [1, 0, 103, 0, 0, 0, 0, 0]

/-- The bytes of a request for the accounts that match a pattern of one star, and the first byte of
the next message. -/
def accountsRequestBytes : ByteString := [1, 0, 104, 0, 5, 0, 0, 0, 1, 0, 0, 0, 42, 1]

/-- The header and the body are received in one piece each. -/
theorem recvFrame_framed_accounts :
    Framed accountsRequestBytes (Server.recvFrame accountsRequestBytes [.bytes 8, .bytes 5]) ∧
      Framed accountsRequestBytes (Client.recvFrame accountsRequestBytes [.bytes 8, .bytes 5]) := by
  have hframes : FramesStream accountsRequestBytes [8, 5] :=
    ⟨[8], [5], [], rfl, rfl, rfl, lastPiecesFit_singleton 0 8 _, lastPiecesFit_singleton 0 5 _⟩
  obtain ⟨hserver, hclient⟩ :=
    @recvFrame_framed_iff accountsRequestBytes [8, 5] (by decide) (by decide)
  exact ⟨hserver.mpr hframes, hclient.mpr hframes⟩

/-- When the eight bytes of a header come in two pieces of four, the second is stored on top of the
first: server and client see version 0 and type 0, and report success. -/
theorem recvFrame_two_pieces :
    Server.recvFrame logoutRequestBytes [.bytes 4, .bytes 4] = some ⟨.ok, ⟨0, 0, 0⟩, [], []⟩ ∧
      Client.recvFrame logoutRequestBytes [.bytes 4, .bytes 4] = some ⟨.ok, ⟨0, 0, 0⟩, [], []⟩ ∧
      ¬ Framed logoutRequestBytes (Server.recvFrame logoutRequestBytes [.bytes 4, .bytes 4]) ∧
      ¬ Framed logoutRequestBytes (Client.recvFrame logoutRequestBytes [.bytes 4, .bytes 4]) := by
  refine ⟨by decide, by decide, by decide, by decide⟩

/-- Sizes frame every stream that announces a body of `b` bytes exactly when the header comes in one
piece and the body, unless it is empty, in the next. -/
theorem framesStream_forall_iff {b : UInt32} {sizes : List ℕ} (hpos : ∀ k ∈ sizes, 1 ≤ k) :
    (∀ stream, (MessageHeader.decode stream).bodyLen = b → 8 + b.toNat ≤ stream.length →
        FramesStream stream sizes) ↔
      ∃ rest, sizes = 8 :: ((if b = 0 then [] else [b.toNat]) ++ rest) := by
  -- A stream for any first byte of the header and any first byte of the body.
  let stream (x y : UInt8) : ByteString :=
    x :: ([0, 0, 0] ++ leBytes 4 b.toNat ++ y :: List.replicate b.toNat 0)
  have hbodyLen (x y : UInt8) : (MessageHeader.decode (stream x y)).bodyLen = b := by
    have := wordAt_append [x, 0, 0, 0] (y :: List.replicate b.toNat 0) (show 4 = _ from rfl)
      b.toNat_lt
    simpa [stream, MessageHeader.decode] using this
  have hlen (x y : UInt8) : 8 + b.toNat ≤ (stream x y).length := by simp [stream]; omega
  have hdrop (x y : UInt8) : (stream x y).drop 8 = y :: List.replicate b.toNat 0 := by
    simp [stream]
  constructor
  · intro h
    obtain ⟨ks, js, rest, rfl, hks, hjs, -, -⟩ := h (stream 1 1) (hbodyLen 1 1) (hlen 1 1)
    rw [announced, hbodyLen] at hjs
    have hpos' : ∀ k ∈ js ++ rest, 1 ≤ k := fun k hk => hpos k (List.mem_append_right ks hk)
    -- The sizes are split in the same way for every stream.
    have hfits (x y : UInt8) : LastPiecesFit 0 ks (stream x y) ∧
        LastPiecesFit 0 js (y :: List.replicate b.toNat 0) := by
      obtain ⟨ks', js', rest', hsplit, hks', hjs', hfit, hfit'⟩ :=
        h (stream x y) (hbodyLen x y) (hlen x y)
      rw [announced, hbodyLen] at hjs'
      obtain rfl := append_left_unique hpos hsplit (hks.trans hks'.symm)
      obtain rfl := append_left_unique hpos' (List.append_cancel_left hsplit) (hjs.trans hjs'.symm)
      exact ⟨hfit, hdrop x y ▸ hfit'⟩
    have hhdr : ks = [ks.sum] := eq_singleton_of_lastPiecesFit (x := 1) (y := 2) (by decide)
      (fun k hk => hpos k (List.mem_append_left _ hk)) (by rintro rfl; simp at hks)
      (hfits 1 1).1 (hfits 2 1).1
    rw [hks] at hhdr
    refine ⟨rest, ?_⟩
    rw [hhdr, List.singleton_append]
    congr 2
    split_ifs with hb
    · subst hb
      exact eq_nil_of_sum_eq_zero (fun k hk => hpos' k (List.mem_append_left _ hk)) hjs
    · have hne : js ≠ [] := by
        rintro rfl
        exact hb (UInt32.toNat_inj.mp (by simpa using hjs.symm))
      have hbody : js = [js.sum] := eq_singleton_of_lastPiecesFit (x := 1) (y := 2) (by decide)
        (fun k hk => hpos' k (List.mem_append_left _ hk)) hne (hfits 1 1).2 (hfits 1 2).2
      rw [hbody, hjs]
  · rintro ⟨rest, rfl⟩ stream hb _
    refine ⟨[8], if b = 0 then [] else [b.toNat], rest, rfl, rfl, ?_,
      lastPiecesFit_singleton 0 8 stream, ?_⟩
    · rw [announced, hb]
      split_ifs with h0
      · rw [h0]
        rfl
      · simp
    · split_ifs with h0
      · exact lastPiecesFit_nil 0 _
      · exact lastPiecesFit_singleton 0 _ _

/-! ## What is sent -/

/-- After results that are all positive, the sending loop has ended exactly when some of the first
of them sum up to what was still to be sent; each of these pieces was taken from the beginning of
the message. -/
lemma sendLoop_eq_some {msg : ByteString} {totalLen total : ℕ} {wire : ByteString}
    {sizes : List ℕ} (hpos : ∀ k ∈ sizes, 1 ≤ k) {out : Status × ByteString} :
    sendLoop msg totalLen total wire (sizes.map .accepted) = some out ↔
      ∃ ks rest, sizes = ks ++ rest ∧ total + ks.sum = totalLen ∧
        out = (.ok, wire ++ restarts ks (msg.take totalLen)) := by
  induction sizes generalizing total wire with
  | nil =>
    unfold sendLoop
    split_ifs with hexit
    · constructor
      · intro h
        cases h
        exact ⟨[], [], rfl, hexit, by simp [restarts]⟩
      · rintro ⟨ks, rest, hsplit, -, rfl⟩
        obtain ⟨rfl, rfl⟩ := List.append_eq_nil_iff.mp hsplit.symm
        simp [restarts]
    · constructor
      · intro h
        cases h
      · rintro ⟨ks, rest, hsplit, hsum, -⟩
        obtain ⟨rfl, rfl⟩ := List.append_eq_nil_iff.mp hsplit.symm
        exact absurd hsum hexit
  | cons k sizes ih =>
    have hk := hpos k List.mem_cons_self
    unfold sendLoop
    split_ifs with hexit
    · constructor
      · intro h
        cases h
        exact ⟨[], k :: sizes, rfl, hexit, by simp [restarts]⟩
      · rintro ⟨ks, rest, hsplit, hsum, rfl⟩
        have hks : ks = [] := eq_nil_of_sum_eq_zero
          (fun k' hk' => hpos k' (hsplit ▸ List.mem_append_left rest hk')) (by omega)
        subst hks
        simp [restarts]
    · rw [List.map_cons]
      refine (ih fun k' hk' => hpos k' (List.mem_cons_of_mem k hk')).trans ?_
      constructor
      · rintro ⟨ks, rest, rfl, hsum, rfl⟩
        exact ⟨k :: ks, rest, rfl, by simp only [List.sum_cons]; omega,
          by simp only [restarts, List.flatMap_cons, List.append_assoc]⟩
      · rintro ⟨ks, rest, hsplit, hsum, rfl⟩
        cases ks with
        | nil => exact absurd hsum hexit
        | cons k' ks =>
          obtain ⟨rfl, rfl⟩ := List.cons.inj hsplit
          exact ⟨ks, rest, rfl, by simp only [List.sum_cons] at hsum; omega,
            by simp only [restarts, List.flatMap_cons, List.append_assoc]⟩

/-- The sending function ends with success, and the bytes accepted are those of the message. -/
def DeliversOnce (msg : ByteString) (result : Option (Status × ByteString)) : Prop :=
  result = some (.ok, msg)

instance (msg : ByteString) (result : Option (Status × ByteString)) :
    Decidable (DeliversOnce msg result) := inferInstanceAs (Decidable (_ = _))

/-- The first sizes sum up to the message, and every piece that the socket accepted equals the
stretch of the message whose place it takes. -/
def PiecesRepeat (msg : ByteString) (sizes : List ℕ) : Prop :=
  ∃ ks rest, sizes = ks ++ rest ∧ ks.sum = msg.length ∧
    ∀ pre k post, ks = pre ++ k :: post → (msg.drop pre.sum).take k = msg.take k

/-- For every message and every sequence of results, `send_msg` of the server and of the client put
exactly the bytes of the message on the wire exactly when the pieces accepted repeat in the
message. -/
theorem sendMsg_deliversOnce_iff {msg : ByteString} {sizes : List ℕ}
    (hmsg : msg.length = 8 + announced msg) (hpos : ∀ k ∈ sizes, 1 ≤ k) :
    (DeliversOnce msg (Server.sendMsg msg (sizes.map .accepted)) ↔ PiecesRepeat msg sizes) ∧
      (DeliversOnce msg (Client.sendMsg msg (sizes.map .accepted)) ↔ PiecesRepeat msg sizes) := by
  have hsend : DeliversOnce msg (sendMsg msg (sizes.map .accepted)) ↔ PiecesRepeat msg sizes := by
    have htotal : MessageHeader.size + (MessageHeader.decode msg).bodyLen.toNat = msg.length :=
      hmsg.symm
    unfold DeliversOnce sendMsg
    rw [htotal, sendLoop_eq_some hpos]
    refine exists_congr fun ks => exists_congr fun rest => and_congr_right fun _ => ?_
    rw [Nat.zero_add, List.nil_append, List.take_length, Prod.mk.injEq, eq_comm (a := msg)]
    constructor
    · rintro ⟨hsum, -, heq⟩
      exact (restarts_eq_iff fun k hk => hsum ▸ List.le_sum_of_mem hk).mp heq
    · rintro ⟨hsum, hpieces⟩
      exact ⟨hsum, rfl, (restarts_eq_iff fun k hk => hsum ▸ List.le_sum_of_mem hk).mpr
        ⟨hsum, hpieces⟩⟩
  exact ⟨hsend, hsend⟩

/-- Pieces repeat in every message with a body of `b` bytes exactly when the whole message is
accepted in one piece. -/
theorem piecesRepeat_forall_iff {b : UInt32} {sizes : List ℕ} (hpos : ∀ k ∈ sizes, 1 ≤ k) :
    (∀ msg, (MessageHeader.decode msg).bodyLen = b → msg.length = 8 + b.toNat →
        PiecesRepeat msg sizes) ↔
      ∃ rest, sizes = (8 + b.toNat) :: rest := by
  -- A message for any first byte of the header.
  let tail : ByteString := [0, 0, 0] ++ leBytes 4 b.toNat ++ List.replicate b.toNat 0
  have hbodyLen (x : UInt8) : (MessageHeader.decode (x :: tail)).bodyLen = b := by
    have := wordAt_append [x, 0, 0, 0] (List.replicate b.toNat 0) (show 4 = _ from rfl)
      b.toNat_lt
    simpa [tail, MessageHeader.decode] using this
  have hlen : tail.length = 7 + b.toNat := by simp [tail]; omega
  have hlen' (x : UInt8) : (x :: tail).length = 8 + b.toNat := by rw [List.length_cons]; omega
  constructor
  · intro h
    obtain ⟨ks, rest, rfl, hks, hpieces⟩ := h (1 :: tail) (hbodyLen 1) (hlen' 1)
    obtain ⟨ks', rest', hsplit, hks', hpieces'⟩ := h (2 :: tail) (hbodyLen 2) (hlen' 2)
    rw [hlen'] at hks hks'
    obtain rfl := append_left_unique hpos hsplit (hks.trans hks'.symm)
    have hone : ks = [ks.sum] := eq_singleton_of_restarts_eq (x := 1) (y := 2) tail
      (by decide) (fun k hk => hpos k (List.mem_append_left _ hk)) (by omega)
      ((restarts_eq_iff fun k hk => by
        rw [hlen', ← hks]; exact List.le_sum_of_mem hk).mpr ⟨by rw [hks, hlen'], hpieces⟩)
      ((restarts_eq_iff fun k hk => by
        rw [hlen', ← hks]; exact List.le_sum_of_mem hk).mpr ⟨by rw [hks, hlen'], hpieces'⟩)
    exact ⟨rest, by rw [hone, hks]; rfl⟩
  · rintro ⟨rest, rfl⟩ msg - hmsg
    have hone := (@restarts_eq_iff _ [msg.length] msg (by simp)).mp (restarts_singleton msg)
    exact ⟨[8 + b.toNat], rest, rfl, hmsg ▸ hone⟩

/-- A message accepted in one piece is delivered once. -/
theorem sendMsg_deliversOnce_logout :
    DeliversOnce logoutRequestBytes (Server.sendMsg logoutRequestBytes [.accepted 8]) ∧
      DeliversOnce logoutRequestBytes (Client.sendMsg logoutRequestBytes [.accepted 8]) := by
  have hrepeat : PiecesRepeat logoutRequestBytes [8] := by
    refine ⟨[8], [], rfl, rfl, ?_⟩
    intro pre k post hsplit
    cases pre with
    | nil => rfl
    | cons k' pre => simp at hsplit
  obtain ⟨hserver, hclient⟩ :=
    @sendMsg_deliversOnce_iff logoutRequestBytes [8] (by decide) (by decide)
  exact ⟨hserver.mpr hrepeat, hclient.mpr hrepeat⟩

/-- When the socket accepts a message of eight bytes in two pieces of four, the first four bytes are
sent twice and the last four never. -/
theorem sendMsg_two_pieces :
    Server.sendMsg logoutRequestBytes [.accepted 4, .accepted 4] =
        some (.ok, [1, 0, 103, 0, 1, 0, 103, 0]) ∧
      Client.sendMsg logoutRequestBytes [.accepted 4, .accepted 4] =
        some (.ok, [1, 0, 103, 0, 1, 0, 103, 0]) ∧
      ¬ DeliversOnce logoutRequestBytes
        (Server.sendMsg logoutRequestBytes [.accepted 4, .accepted 4]) ∧
      ¬ DeliversOnce logoutRequestBytes
        (Client.sendMsg logoutRequestBytes [.accepted 4, .accepted 4]) := by
  refine ⟨by decide, by decide, by decide, by decide⟩

end Chat262
