import Chat262.Foundation.ByteBlock
import Chat262.Server.Database

/-!
# Messages and their serializers

The messages of the wire protocol as the serializers of `chat262_protocol.cc` build them.  A
serializer computes `body_len` in 32 bits, allocates `sizeof(message_header) + body_len` bytes and
then copies the header fields and the body into the block; a `Message` is the size of the block,
the three header fields and the copies into `body_`, in the order in which they are made.

Integers of the host are numbers, and the bytes of an integer on the wire are those of
`Foundation.leBytes`: `e_htole16`, `e_htole32` and their inverses make the two agree on a host of
either byte order.  A `size_t` is a natural number: no sum of lengths below reaches `2 ^ 64`.
-/

namespace Chat262

open Foundation

/-! ## Constants -/

/-- `chat262::version`. -/
def protocolVersion : UInt16 := 1

/-- `message_type`: the value of `type_` in a header. -/
abbrev MessageType := UInt16

namespace MessageType

/-- `msgtype_registration_request`. -/
def registrationRequest : MessageType := 101
/-- `msgtype_login_request`. -/
def loginRequest : MessageType := 102
/-- `msgtype_logout_request`. -/
def logoutRequest : MessageType := 103
/-- `msgtype_accounts_request`. -/
def accountsRequest : MessageType := 104
/-- `msgtype_send_txt_request`. -/
def sendTxtRequest : MessageType := 105
/-- `msgtype_recv_txt_request`. -/
def recvTxtRequest : MessageType := 106
/-- `msgtype_correspondents_request`. -/
def correspondentsRequest : MessageType := 107
/-- `msgtype_delete_request`. -/
def deleteRequest : MessageType := 108
/-- `msgtype_registration_response`. -/
def registrationResponse : MessageType := 201
/-- `msgtype_login_response`. -/
def loginResponse : MessageType := 202
/-- `msgtype_logout_response`. -/
def logoutResponse : MessageType := 203
/-- `msgtype_accounts_response`. -/
def accountsResponse : MessageType := 204
/-- `msgtype_send_txt_response`. -/
def sendTxtResponse : MessageType := 205
/-- `msgtype_recv_txt_response`. -/
def recvTxtResponse : MessageType := 206
/-- `msgtype_correspondents_response`. -/
def correspondentsResponse : MessageType := 207
/-- `msgtype_delete_response`. -/
def deleteResponse : MessageType := 208
/-- `msgtype_wrong_version_response`. -/
def wrongVersionResponse : MessageType := 301
/-- `msgtype_invalid_type_response`. -/
def invalidTypeResponse : MessageType := 302
/-- `msgtype_invalid_body_response`. -/
def invalidBodyResponse : MessageType := 303

end MessageType

/-- `status_code`: what a response says about its request. -/
abbrev StatusCode := UInt32

namespace StatusCode

/-- `status_code_ok`. -/
def ok : StatusCode := 0
/-- `status_code_invalid_credentials`. -/
def invalidCredentials : StatusCode := 1
/-- `status_code_user_exists`. -/
def userExists : StatusCode := 2
/-- `status_code_user_noexist`. -/
def userNoexist : StatusCode := 3
/-- `status_code_username_invalid`. -/
def usernameInvalid : StatusCode := 4
/-- `status_code_password_invalid`. -/
def passwordInvalid : StatusCode := 5
/-- `status_code_unauthorized`. -/
def unauthorized : StatusCode := 6

end StatusCode

/-! ## Messages -/

/-- `message_header`. -/
structure MessageHeader where
  version : UInt16
  type : MessageType
  bodyLen : UInt32
deriving DecidableEq, Repr

/-- `sizeof(message_header)`. -/
def MessageHeader.size : ℕ := 8

/-- The header that the first `sizeof(message_header)` bytes of `data` stand for. -/
def MessageHeader.decode (data : ByteString) : MessageHeader where
  version := UInt16.ofNat (leNat (data.take 2))
  type := UInt16.ofNat (leNat ((data.drop 2).take 2))
  bodyLen := wordAt data 4

/-- `message_header::deserialize`; `hdr` is the out parameter. -/
def MessageHeader.deserialize (data : ByteString) (hdr : MessageHeader) : Status × MessageHeader :=
  if data.length ≠ MessageHeader.size then (.bodyError, hdr) else (.ok, .decode data)

/-- `message`: a block from `malloc`, its header fields and what is copied into its body. -/
structure Message where
  /-- The size passed to `malloc`. -/
  totalLen : ℕ
  /-- `hdr_`. -/
  hdr : MessageHeader
  /-- The copies into `body_`, with offsets from its start. -/
  bodyWrites : List Write
deriving DecidableEq, Repr

/-- All writes into the block, the assignments to the header fields first. -/
def Message.writes (msg : Message) : List Write :=
  [⟨0, leBytes 2 msg.hdr.version.toNat⟩, ⟨2, leBytes 2 msg.hdr.type.toNat⟩,
    ⟨4, leBytes 4 msg.hdr.bodyLen.toNat⟩] ++ msg.bodyWrites.map (Write.shift MessageHeader.size)

/-- The beginning and the end of every serializer: a block for a body of `bodyLen` bytes, the
header, and the copies `bodyWrites`. -/
def Message.build (type : MessageType) (bodyLen : UInt32) (bodyWrites : List Write) : Message where
  totalLen := MessageHeader.size + bodyLen.toNat
  hdr := ⟨protocolVersion, type, bodyLen⟩
  bodyWrites := bodyWrites

/-! ## Responses without a list -/

/-- The serializer shared by the responses that carry a status code only. -/
def StatusResponse.serialize (type : MessageType) (statCode : StatusCode) : Message :=
  .build type 4 [⟨0, leBytes 4 statCode.toNat⟩]

/-- `registration_response::serialize`. -/
def RegistrationResponse.serialize : StatusCode → Message :=
  StatusResponse.serialize MessageType.registrationResponse

/-- `login_response::serialize`. -/
def LoginResponse.serialize : StatusCode → Message :=
  StatusResponse.serialize MessageType.loginResponse

/-- `logout_response::serialize`. -/
def LogoutResponse.serialize : StatusCode → Message :=
  StatusResponse.serialize MessageType.logoutResponse

/-- `send_txt_response::serialize`. -/
def SendTxtResponse.serialize : StatusCode → Message :=
  StatusResponse.serialize MessageType.sendTxtResponse

/-- `delete_response::serialize`. -/
def DeleteResponse.serialize : StatusCode → Message :=
  StatusResponse.serialize MessageType.deleteResponse

/-- `wrong_version_response::serialize`. -/
def WrongVersionResponse.serialize (correctVersion : UInt16) : Message :=
  .build MessageType.wrongVersionResponse 2 [⟨0, leBytes 2 correctVersion.toNat⟩]

/-- `invalid_type_response::serialize`. -/
def InvalidTypeResponse.serialize : Message :=
  .build MessageType.invalidTypeResponse 0 []

/-- `invalid_body_response::serialize`. -/
def InvalidBodyResponse.serialize : Message :=
  .build MessageType.invalidBodyResponse 0 []

/-! ## Responses with a list of usernames -/

/-- `body_len` of a response with usernames: the counts and the lengths are 64-bit numbers, added
to a 32-bit one. -/
def UsernamesResponse.bodyLen (statCode : StatusCode) (usernames : List ByteString) : UInt32 :=
  if statCode = StatusCode.ok then
    usernames.foldl (fun len u => UInt32.ofNat (len.toNat + u.length))
      (UInt32.ofNat (4 + (4 + usernames.length * 4)))
  else 4

/-- The loop that copies the lengths and the usernames: `lenOff` stands for `u_lengths_ptr` and
`nameOff` for `u_ptr`.  A length is cast to 32 bits, and that many bytes are copied. -/
def UsernamesResponse.copyLoop : List ByteString → ℕ → ℕ → List Write
  | [], _, _ => []
  | u :: us, lenOff, nameOff =>
    let len := UInt32.ofNat u.length
    ⟨lenOff, leBytes 4 len.toNat⟩ :: ⟨nameOff, u.take len.toNat⟩ ::
      UsernamesResponse.copyLoop us (lenOff + 4) (nameOff + len.toNat)

/-- The serializer shared by the responses that carry a list of usernames. -/
def UsernamesResponse.serialize (type : MessageType) (statCode : StatusCode)
    (usernames : List ByteString) : Message :=
  .build type (UsernamesResponse.bodyLen statCode usernames)
    (⟨0, leBytes 4 statCode.toNat⟩ ::
      if statCode = StatusCode.ok then
        ⟨4, leBytes 4 usernames.length⟩ ::
          UsernamesResponse.copyLoop usernames 8 (8 + usernames.length * 4)
      else [])

/-- `accounts_response::serialize`. -/
def AccountsResponse.serialize : StatusCode → List ByteString → Message :=
  UsernamesResponse.serialize MessageType.accountsResponse

/-- `correspondents_response::serialize`. -/
def CorrespondentsResponse.serialize : StatusCode → List ByteString → Message :=
  UsernamesResponse.serialize MessageType.correspondentsResponse

/-! ## The response with a chat -/

/-- `body_len` of a response with a chat. -/
def RecvTxtResponse.bodyLen (statCode : StatusCode) (c : Chat) : UInt32 :=
  if statCode = StatusCode.ok then
    c.texts.foldl (fun len txt => UInt32.ofNat (len.toNat + txt.content.length))
      (UInt32.ofNat (4 + (4 + c.texts.length * (1 + 4))))
  else 4

/-- The loop that copies the senders, the lengths and the texts: the three offsets stand for
`sender_ptr`, `txt_lens_ptr` and `txt_ptr`. -/
def RecvTxtResponse.copyLoop : List Text → ℕ → ℕ → ℕ → List Write
  | [], _, _, _ => []
  | txt :: txts, senderOff, lenOff, txtOff =>
    let len := UInt32.ofNat txt.content.length
    ⟨senderOff, [txt.sender]⟩ :: ⟨lenOff, leBytes 4 len.toNat⟩ ::
      ⟨txtOff, txt.content.take len.toNat⟩ ::
        RecvTxtResponse.copyLoop txts (senderOff + 1) (lenOff + 4) (txtOff + len.toNat)

/-- `recv_txt_response::serialize`. -/
def RecvTxtResponse.serialize (statCode : StatusCode) (c : Chat) : Message :=
  .build MessageType.recvTxtResponse (RecvTxtResponse.bodyLen statCode c)
    (⟨0, leBytes 4 statCode.toNat⟩ ::
      if statCode = StatusCode.ok then
        ⟨4, leBytes 4 c.texts.length⟩ ::
          RecvTxtResponse.copyLoop c.texts 8 (8 + c.texts.length * 1)
            (8 + c.texts.length * 1 + c.texts.length * 4)
      else [])

end Chat262
