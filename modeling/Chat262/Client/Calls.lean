import Chat262.Wire.FullTransfer
import Chat262.Wire.RoundTrip

/-!
# The calls of the client

The member functions of `client.cc`.  All eight have one shape: they send a request, receive a
header, check it, receive the body and decode it.  `ClientCall` holds what they differ in, and
`ClientCall.send` and `ClientCall.receive` are the two halves of such a function, with the results
of the `send` and `recv` calls as arguments.  `ClientCall.receive_response` says what the second
half makes of a response that round-trips, and `failed_calls_keep_results` that no other response
touches the results of an earlier call.
-/

namespace Chat262

open Foundation

/-! ## Responses with a status code only -/

/-- The decoder shared by the responses that carry a status code only; `statCode` is the out
parameter. -/
def StatusResponse.deserialize (data : ByteString) (statCode : StatusCode) : Status × StatusCode :=
  if data.length ≠ 4 then (.bodyError, statCode) else (.ok, wordAt data 0)

/-- `registration_response::deserialize`. -/
def RegistrationResponse.deserialize : ByteString → StatusCode → Status × StatusCode :=
  StatusResponse.deserialize

/-- `login_response::deserialize`. -/
def LoginResponse.deserialize : ByteString → StatusCode → Status × StatusCode :=
  StatusResponse.deserialize

/-- `logout_response::deserialize`. -/
def LogoutResponse.deserialize : ByteString → StatusCode → Status × StatusCode :=
  StatusResponse.deserialize

/-- `send_txt_response::deserialize`. -/
def SendTxtResponse.deserialize : ByteString → StatusCode → Status × StatusCode :=
  StatusResponse.deserialize

/-- `delete_response::deserialize`. -/
def DeleteResponse.deserialize : ByteString → StatusCode → Status × StatusCode :=
  StatusResponse.deserialize

/-! ## The calls -/

/-- What the member functions of `client` differ in; `α` is the type of the second out parameter. -/
structure ClientCall (α : Type) where
  request : Message
  responseType : MessageType
  deserialize : ByteString → StatusCode → α → Except Fault (Status × StatusCode × α)

/-- A call whose only out parameter is the status code. -/
def ClientCall.ofStatus (request : Message) (responseType : MessageType)
    (deserialize : ByteString → StatusCode → Status × StatusCode) : ClientCall Unit where
  request := request
  responseType := responseType
  deserialize := fun data statCode out =>
    let (s, statCode') := deserialize data statCode
    .ok (s, statCode', out)

/-- `client::login`. -/
def Client.login (username password : ByteString) : ClientCall Unit :=
  .ofStatus (LoginRequest.serialize username password) MessageType.loginResponse
    LoginResponse.deserialize

/-- `client::registration`. -/
def Client.registration (username password : ByteString) : ClientCall Unit :=
  .ofStatus (RegistrationRequest.serialize username password) MessageType.registrationResponse
    RegistrationResponse.deserialize

/-- `client::logout`. -/
def Client.logout : ClientCall Unit :=
  .ofStatus LogoutRequest.serialize MessageType.logoutResponse LogoutResponse.deserialize

/-- `client::list_accounts`. -/
def Client.listAccounts (pattern : ByteString) : ClientCall (List ByteString) :=
  ⟨AccountsRequest.serialize pattern, MessageType.accountsResponse, AccountsResponse.deserialize⟩

/-- `client::send_txt`. -/
def Client.sendTxt (recipient txt : ByteString) : ClientCall Unit :=
  .ofStatus (SendTxtRequest.serialize recipient txt) MessageType.sendTxtResponse
    SendTxtResponse.deserialize

/-- `client::recv_txt`. -/
def Client.recvTxt (sender : ByteString) : ClientCall Chat :=
  ⟨RecvTxtRequest.serialize sender, MessageType.recvTxtResponse, RecvTxtResponse.deserialize⟩

/-- `client::recv_correspondents`. -/
def Client.recvCorrespondents : ClientCall (List ByteString) :=
  ⟨CorrespondentsRequest.serialize, MessageType.correspondentsResponse,
    CorrespondentsResponse.deserialize⟩

/-- `client::delete_account`. -/
def Client.deleteAccount : ClientCall Unit :=
  .ofStatus DeleteRequest.serialize MessageType.deleteResponse DeleteResponse.deserialize

/-- `client::validate_hdr`. -/
def Client.validateHdr (hdr : MessageHeader) (expected : MessageType) : Status :=
  if hdr.version ≠ protocolVersion ∨ hdr.type ≠ expected then .headerError else .ok

/-- The first half of a call: build the request in a block that held `block` before, and send it. -/
def ClientCall.send {α : Type} (call : ClientCall α) (block : ByteString)
    (results : List SendResult) : Option (Except Fault (Status × ByteString)) :=
  match call.request.store block with
  | .error f => some (.error f)
  | .ok data => (Client.sendMsg data results).map .ok

/-- The second half of a call: receive the response, from the bytes `stream`, into the out
parameters.  The result is what the call returns and the part of the stream that it has not read. -/
def ClientCall.receive {α : Type} (call : ClientCall α) (statCode : StatusCode) (out : α)
    (stream : ByteString) (results : List RecvResult) :
    Option (Except Fault (Status × StatusCode × α) × ByteString) := do
  let (r, hdr) ← Client.recvHdr ⟨0, 0, 0⟩ stream results
  if r.status ≠ .ok then return (.ok (r.status, statCode, out), r.unread)
  let s := Client.validateHdr hdr call.responseType
  if s ≠ .ok then return (.ok (s, statCode, out), r.unread)
  let r' ← Client.recvBody hdr.bodyLen [] r.unread r.results
  if r'.status ≠ .ok then return (.ok (r'.status, statCode, out), r'.unread)
  return (call.deserialize r'.data statCode out, r'.unread)

/-- A request that is sent has been stored in its block. -/
lemma ClientCall.store_of_send {α : Type} {call : ClientCall α} {block sent : ByteString}
    {results : List SendResult} {st : Status}
    (h : call.send block results = some (.ok (st, sent))) :
    ∃ data, call.request.store block = .ok data ∧
      Client.sendMsg data results = some (st, sent) := by
  unfold ClientCall.send at h
  split at h
  · cases h
  · rename_i data hstore
    obtain ⟨p, hsend, hp⟩ := Option.map_eq_some_iff.mp h
    cases hp
    exact ⟨data, hstore, hsend⟩

/-! ## Receiving a response -/

/-- A response with a status code only round-trips. -/
lemma StatusResponse.roundTrips (type : MessageType) (statCode : StatusCode) :
    RoundTrips (StatusResponse.serialize type statCode) type 4
      (fun data statCode (out : Unit) =>
        .ok ((StatusResponse.deserialize data statCode).1,
          (StatusResponse.deserialize data statCode).2, out)) statCode () := by
  have hfills : Fills [⟨0, leBytes 4 statCode.toNat⟩] (leBytes 4 statCode.toNat) :=
    fills_nil.concat 0 rfl _
  refine roundTrips_build hfills (length_leBytes 4 _) rfl (by decide) ?_
  intro prev out
  have hword := wordAt_append [] [] (show 0 = ([] : ByteString).length from rfl) statCode.toNat_lt
  rw [List.nil_append, List.append_nil, UInt32.ofNat_toNat] at hword
  have hsize : ¬ (leBytes 4 statCode.toNat).length ≠ 4 := not_not.mpr (length_leBytes 4 _)
  rw [StatusResponse.deserialize, if_neg hsize, hword]

/-- A call whose response round-trips, and comes in full, returns the status code of the response
and, if that is OK, its value; nothing is left in the stream. -/
theorem ClientCall.receive_response {α : Type} {call : ClientCall α} {msg : Message}
    {bodySize : ℕ} {code : StatusCode} {value : α}
    (h : RoundTrips msg call.responseType bodySize call.deserialize code value)
    (hsize : bodySize < 2 ^ 32) {block data : ByteString} (hblock : block.length = msg.totalLen)
    (hstore : msg.store block = .ok data) (statCode : StatusCode) (out : α) :
    call.receive statCode out data (fullReads data) =
      some (.ok (.ok, code, if code = StatusCode.ok then value else out), []) := by
  obtain ⟨data', hstore', hheader, hbody, hdecode⟩ := h block ⟨0, 0, 0⟩ statCode out hblock
  obtain rfl : data = data' := Except.ok.inj (hstore.symm.trans hstore')
  rw [MessageHeader.size] at hbody hdecode
  have hlen : 8 ≤ data.length := by
    by_contra hshort
    have htake : (data.take MessageHeader.size).length ≠ MessageHeader.size := by
      rw [List.length_take, MessageHeader.size]
      omega
    rw [MessageHeader.deserialize, if_pos htake] at hheader
    cases hheader
  have htake : ¬ (data.take MessageHeader.size).length ≠ MessageHeader.size := by
    rw [List.length_take, MessageHeader.size]
    omega
  rw [MessageHeader.deserialize, if_neg htake, MessageHeader.size, MessageHeader.decode_take,
    Prod.mk.injEq] at hheader
  have hbodyLen : (UInt32.ofNat bodySize).toNat = bodySize := UInt32.toNat_ofNat_of_lt' hsize
  have hannounced : announced data = bodySize := by
    rw [announced, hheader.2]
    exact hbodyLen
  have hhdr := Client.receivesHeader.recvHdr_fullReads ⟨0, 0, 0⟩ hlen
  have hfull := @recvBody_full (UInt32.ofNat bodySize) (data.drop 8) (by
    rw [hbodyLen]
    exact hbody.ge)
  rw [hbodyLen, List.take_of_length_le hbody.le, List.drop_of_length_le hbody.le] at hfull
  rw [hheader.2, hannounced] at hhdr
  rw [ClientCall.receive, hhdr]
  dsimp only [Option.bind_eq_bind, Option.bind_some]
  have hvalid : Client.validateHdr ⟨protocolVersion, call.responseType, UInt32.ofNat bodySize⟩
      call.responseType = .ok := by
    simp [Client.validateHdr]
  rw [if_neg (not_not.mpr rfl), hvalid, if_neg (not_not.mpr rfl), Client.recvBody, hfull]
  exact congrArg (fun x => some (x, [])) hdecode

/-! ## Failed calls -/

/-- A whole call: the request is sent, and the response is received from the bytes `stream`.  The
result is what the call returns and what it leaves in its out parameters. -/
def ClientCall.perform {α : Type} (call : ClientCall α) (block : ByteString)
    (sends : List SendResult) (statCode : StatusCode) (out : α) (stream : ByteString)
    (recvs : List RecvResult) : Option (Except Fault (Status × StatusCode × α)) := do
  match ← call.send block sends with
  | .error f => return .error f
  | .ok (s, _) =>
    if s ≠ .ok then return .ok (s, statCode, out)
    let (result, _) ← call.receive statCode out stream recvs
    return result

/-- What is returned with the out parameters, which held `statCode` and `out` before: they are
unchanged when the status is not `ok`, and the second one when the status code is not OK. -/
def Unclobbered {α : Type} (statCode : StatusCode) (out : α) (r : Status × StatusCode × α) : Prop :=
  (r.1 ≠ .ok → r.2.1 = statCode ∧ r.2.2 = out) ∧ (r.2.1 ≠ StatusCode.ok → r.2.2 = out)

/-- Whatever is sent and received, a call that does not return `ok` with the status code OK leaves
the value of its second out parameter alone, and one that does not return `ok` also the status
code. -/
def ClientCall.KeepsOnFailure {α : Type} (call : ClientCall α) : Prop :=
  ∀ block sends statCode out stream recvs r,
    call.perform block sends statCode out stream recvs = some (.ok r) → Unclobbered statCode out r

/-- A return that touches no out parameter. -/
lemma unclobbered_self {α : Type} (s : Status) (statCode : StatusCode) (out : α) :
    Unclobbered statCode out (s, statCode, out) :=
  ⟨fun _ => ⟨rfl, rfl⟩, fun _ => rfl⟩

/-- A list decoder writes the list only behind its last check. -/
lemma unclobbered_decodeList {α : Type} {data : ByteString} {lens : List UInt32} {fixed : ℕ}
    {statCode : StatusCode} {out : α} {make : List ByteString → α} {r : Status × StatusCode × α}
    (h : decodeList data lens fixed statCode out make = .ok r) : Unclobbered statCode out r := by
  unfold decodeList at h
  split_ifs at h with hshort hcode hlen
  · cases h
    exact unclobbered_self _ _ _
  · cases h
    exact ⟨fun hs => absurd rfl hs, fun _ => rfl⟩
  · cases h
    exact unclobbered_self _ _ _
  · obtain ⟨ss, -, rfl⟩ := map_eq_ok.mp h
    exact ⟨fun hs => absurd rfl hs, fun hs => absurd rfl hs⟩

/-- Before the decoder is reached no out parameter is touched. -/
lemma ClientCall.unclobbered_receive {α : Type} {call : ClientCall α}
    (hdecode : ∀ data statCode out r, call.deserialize data statCode out = .ok r →
      Unclobbered statCode out r)
    {statCode : StatusCode} {out : α} {stream unread : ByteString} {recvs : List RecvResult}
    {r : Status × StatusCode × α}
    (h : call.receive statCode out stream recvs = some (.ok r, unread)) :
    Unclobbered statCode out r := by
  unfold ClientCall.receive at h
  obtain ⟨⟨hdrReceived, hdr⟩, -, h⟩ := Option.bind_eq_some_iff.mp h
  dsimp only at h
  split_ifs at h with hhdr hvalid
  · cases h
    exact unclobbered_self _ _ _
  · cases h
    exact unclobbered_self _ _ _
  · obtain ⟨bodyReceived, -, h⟩ := Option.bind_eq_some_iff.mp h
    split_ifs at h with hbody
    · cases h
      exact unclobbered_self _ _ _
    · simp only [Option.pure_def, Option.some.injEq, Prod.mk.injEq] at h
      exact hdecode _ _ _ _ h.1

/-- A call touches its out parameters only in its decoder. -/
lemma ClientCall.keepsOnFailure_of_deserialize {α : Type} {call : ClientCall α}
    (hdecode : ∀ data statCode out r, call.deserialize data statCode out = .ok r →
      Unclobbered statCode out r) : call.KeepsOnFailure := by
  intro block sends statCode out stream recvs r h
  unfold ClientCall.perform at h
  obtain ⟨sent, -, h⟩ := Option.bind_eq_some_iff.mp h
  cases sent with
  | error f => cases h
  | ok sent =>
    dsimp only at h
    split_ifs at h with hsend
    · cases h
      exact unclobbered_self _ _ _
    · obtain ⟨⟨result, unread⟩, hreceive, h⟩ := Option.bind_eq_some_iff.mp h
      simp only [Option.pure_def, Option.some.injEq] at h
      subst h
      exact call.unclobbered_receive hdecode hreceive

/-- The three calls that return a list or a chat keep the result of an earlier call when they fail,
whatever the server sends and wherever the connection fails. -/
theorem failed_calls_keep_results (pattern sender : ByteString) :
    (Client.listAccounts pattern).KeepsOnFailure ∧ Client.recvCorrespondents.KeepsOnFailure ∧
      (Client.recvTxt sender).KeepsOnFailure := by
  refine ⟨?_, ?_, ?_⟩
  · apply ClientCall.keepsOnFailure_of_deserialize
    intro data statCode out r h
    exact unclobbered_decodeList ((UsernamesResponse.deserialize_eq data statCode out).symm.trans h)
  · apply ClientCall.keepsOnFailure_of_deserialize
    intro data statCode out r h
    exact unclobbered_decodeList ((UsernamesResponse.deserialize_eq data statCode out).symm.trans h)
  · apply ClientCall.keepsOnFailure_of_deserialize
    intro data statCode out r h
    exact unclobbered_decodeList ((RecvTxtResponse.deserialize_eq data statCode out).symm.trans h)

/-- The server closes the connection behind the header of its response. -/
example : Client.recvCorrespondents.perform (List.replicate 8 0) [.accepted 8] 3 [[97]]
    (MessageHeader.mk protocolVersion MessageType.correspondentsResponse 4).bytes
    [.bytes 8, .closed] = some (.ok (.closedConnection, 3, [[97]])) := by
  decide

end Chat262
