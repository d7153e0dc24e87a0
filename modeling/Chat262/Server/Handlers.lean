import Chat262.Wire.Decoders

/-!
# Request handlers and the running server

The handlers of `server.cc` and the loop `handle_client` around them.  A handler takes the database
mutex several times, once for each operation that it calls, so it is a `Script`: a tree of database
calls, each followed by what the handler does with the reply, with a response at its leaves.  A
`Response` is what the handler hands to a serializer, and `Response.serialize` the message that the
serializer makes of it.

`ServerState` is the database together with what every connection thread is about to do, and
`serverStep` performs one `Action` of one thread, with other threads free to act in between:
`Foundation.run serverStep` is any interleaving.  A `std::thread::id` that is `idle` can be given to
a new connection.
-/

namespace Chat262

open Foundation

/-! ## Responses -/

/-- A response as a handler builds it: the serializer it calls and the arguments. -/
inductive Response where
  | registration (statCode : StatusCode)
  | login (statCode : StatusCode)
  | logout (statCode : StatusCode)
  | accounts (statCode : StatusCode) (usernames : List ByteString)
  | sendTxt (statCode : StatusCode)
  | recvTxt (statCode : StatusCode) (c : Chat)
  | correspondents (statCode : StatusCode) (usernames : List ByteString)
  | delete (statCode : StatusCode)
  | wrongVersion (correctVersion : UInt16)
  | invalidType
  | invalidBody
deriving DecidableEq, Repr

/-- The message that the serializer of a response builds. -/
def Response.serialize : Response → Message
  | .registration s => RegistrationResponse.serialize s
  | .login s => LoginResponse.serialize s
  | .logout s => LogoutResponse.serialize s
  | .accounts s l => AccountsResponse.serialize s l
  | .sendTxt s => SendTxtResponse.serialize s
  | .recvTxt s c => RecvTxtResponse.serialize s c
  | .correspondents s l => CorrespondentsResponse.serialize s l
  | .delete s => DeleteResponse.serialize s
  | .wrongVersion v => WrongVersionResponse.serialize v
  | .invalidType => InvalidTypeResponse.serialize
  | .invalidBody => InvalidBodyResponse.serialize

/-! ## Scripts -/

/-- What a handler still has to do. -/
inductive Script where
  | respond (response : Response)
  /-- Call a database operation and go on with its reply. -/
  | call (op : Operation) (next : Reply → Script)
  /-- Return this status without having sent anything. -/
  | failed (s : Status)
  /-- Undefined behaviour: the decoder read past the end of the body. -/
  | fault (f : Fault)

/-- `s == status::ok` for an operation that returns a status. -/
def Reply.isOk : Reply → Bool
  | .status s | .chat s _ | .correspondents s _ => s = .ok
  | _ => false

/-- The answer of `is_logged_in`. -/
def Reply.isLoggedIn : Reply → Bool
  | .loggedIn b => b
  | _ => false

/-- The usernames that an operation returns or leaves in its out parameter. -/
def Reply.usernamesOut : Reply → List ByteString
  | .usernames l | .correspondents _ l => l
  | _ => []

/-- The chat that an operation leaves in its out parameter. -/
def Reply.chatOut : Reply → Chat
  | .chat _ c => c
  | _ => ⟨[]⟩

/-- The beginning of a handler: decode the body, and return what the decoder returns unless that
is `ok`. -/
def Script.decode {α : Type} (decoded : Except Fault (Status × α)) (next : α → Script) : Script :=
  match decoded with
  | .error f => .fault f
  | .ok (s, a) => if s ≠ .ok then .failed s else next a

/-- `if (!database_.is_logged_in())`: answer `unauthorized` then, and go on otherwise. -/
def Script.requireLogin (unauthorized : Response) (next : Script) : Script :=
  .call .isLoggedIn fun reply =>
    if !reply.isLoggedIn then .respond unauthorized else next

/-! ## Handlers -/

/-- The space character. -/
def space : UInt8 := 32

/-- `server::handle_registration`. -/
def handleRegistration (bodyData : ByteString) : Script :=
  .decode (RegistrationRequest.deserialize bodyData [] []) fun (username, password) =>
    if username.length < 4 ∨ username.length > 40 ∨ star ∈ username ∨ space ∈ username then
      .respond (.registration StatusCode.usernameInvalid)
    else if password.length < 4 ∨ password.length > 60 then
      .respond (.registration StatusCode.passwordInvalid)
    else
      .call (.registration username password) fun reply =>
        if reply.isOk then .respond (.registration StatusCode.ok)
        else .respond (.registration StatusCode.userExists)

/-- The end of `server::handle_login`. -/
def finishLogin (username password : ByteString) : Script :=
  .call (.login username password) fun reply =>
    if reply.isOk then .respond (.login StatusCode.ok)
    else .respond (.login StatusCode.invalidCredentials)

/-- `server::handle_login`. -/
def handleLogin (bodyData : ByteString) : Script :=
  .decode (LoginRequest.deserialize bodyData [] []) fun (username, password) =>
    .call .isLoggedIn fun reply =>
      if reply.isLoggedIn then .call .logout fun _ => finishLogin username password
      else finishLogin username password

/-- `server::handle_logout`. -/
def handleLogout (bodyData : ByteString) : Script :=
  .decode (.ok (LogoutRequest.deserialize bodyData, ())) fun _ =>
    .requireLogin (.logout StatusCode.unauthorized)
      (.call .logout fun _ => .respond (.logout StatusCode.ok))

/-- `server::handle_list_accounts`. -/
def handleListAccounts (bodyData : ByteString) : Script :=
  .decode (AccountsRequest.deserialize bodyData []) fun pattern =>
    .requireLogin (.accounts StatusCode.unauthorized [])
      (.call (.getUsernames pattern) fun reply =>
        .respond (.accounts StatusCode.ok reply.usernamesOut))

/-- `server::handle_send_txt`. -/
def handleSendTxt (bodyData : ByteString) : Script :=
  .decode (SendTxtRequest.deserialize bodyData [] []) fun (recipient, txt) =>
    .requireLogin (.sendTxt StatusCode.unauthorized)
      (.call (.sendTxt recipient txt) fun reply =>
        if reply.isOk then .respond (.sendTxt StatusCode.ok)
        else .respond (.sendTxt StatusCode.userNoexist))

/-- `server::handle_recv_txt`. -/
def handleRecvTxt (bodyData : ByteString) : Script :=
  .decode (RecvTxtRequest.deserialize bodyData []) fun sender =>
    .requireLogin (.recvTxt StatusCode.unauthorized ⟨[]⟩)
      (.call (.recvTxt sender ⟨[]⟩) fun reply =>
        if reply.isOk then .respond (.recvTxt StatusCode.ok reply.chatOut)
        else .respond (.recvTxt StatusCode.userNoexist reply.chatOut))

/-- `server::handle_correspondents`; the status of the operation is not looked at. -/
def handleCorrespondents (bodyData : ByteString) : Script :=
  .decode (.ok (CorrespondentsRequest.deserialize bodyData, ())) fun _ =>
    .requireLogin (.correspondents StatusCode.unauthorized [])
      (.call (.getCorrespondents []) fun reply =>
        .respond (.correspondents StatusCode.ok reply.usernamesOut))

/-- `server::handle_delete`; the status of the operation is not looked at. -/
def handleDelete (bodyData : ByteString) : Script :=
  .decode (.ok (DeleteRequest.deserialize bodyData, ())) fun _ =>
    .requireLogin (.delete StatusCode.unauthorized)
      (.call .deleteUser fun _ => .respond (.delete StatusCode.ok))

/-- The `switch` of `server::handle_client` on the type of a message. -/
def handleMessage (type : MessageType) (body : ByteString) : Script :=
  if type = MessageType.registrationRequest then handleRegistration body
  else if type = MessageType.loginRequest then handleLogin body
  else if type = MessageType.logoutRequest then handleLogout body
  else if type = MessageType.accountsRequest then handleListAccounts body
  else if type = MessageType.sendTxtRequest then handleSendTxt body
  else if type = MessageType.recvTxtRequest then handleRecvTxt body
  else if type = MessageType.correspondentsRequest then handleCorrespondents body
  else if type = MessageType.deleteRequest then handleDelete body
  else .respond .invalidType

section

variable (body : ByteString)

/-- The handler of a registration. -/
lemma handleMessage_registration :
    handleMessage MessageType.registrationRequest body = handleRegistration body := rfl

/-- The handler of a login. -/
lemma handleMessage_login :
    handleMessage MessageType.loginRequest body = handleLogin body := rfl

/-- The handler of a logout. -/
lemma handleMessage_logout :
    handleMessage MessageType.logoutRequest body = handleLogout body := rfl

/-- The handler of an account search. -/
lemma handleMessage_accounts :
    handleMessage MessageType.accountsRequest body = handleListAccounts body := rfl

/-- The handler of a text. -/
lemma handleMessage_sendTxt :
    handleMessage MessageType.sendTxtRequest body = handleSendTxt body := rfl

/-- The handler of a request for a chat. -/
lemma handleMessage_recvTxt :
    handleMessage MessageType.recvTxtRequest body = handleRecvTxt body := rfl

/-- The handler of a request for the correspondents. -/
lemma handleMessage_correspondents :
    handleMessage MessageType.correspondentsRequest body = handleCorrespondents body := rfl

/-- The handler of a deletion. -/
lemma handleMessage_delete :
    handleMessage MessageType.deleteRequest body = handleDelete body := rfl

end

/-! ## The running server -/

/-- Where a connection thread stands in `server::handle_client`. -/
inductive Phase where
  | idle
  /-- At the head of the loop, about to receive a message. -/
  | receiving
  | handling (script : Script)
  /-- In `handle_wrong_version`, after which the loop is left. -/
  | rejecting
  /-- Behind the loop, about to call `database_.logout()`. -/
  | closing

/-- The database and the threads of a running server. -/
structure ServerState where
  /-- `database_`. -/
  db : Database
  /-- What every connection thread is about to do. -/
  phase : ThreadId → Phase

/-- The server before the first connection. -/
def ServerState.initial : ServerState := ⟨.empty, fun _ => .idle⟩

/-- The same database with one thread moved on. -/
def ServerState.withPhase (w : ServerState) (tid : ThreadId) (phase : Phase) : ServerState :=
  { w with phase := Function.update w.phase tid phase }

/-- One step of one thread. -/
inductive Action where
  /-- A connection is accepted and its thread gets the id `tid`. -/
  | accept (tid : ThreadId)
  /-- The thread receives a header and, unless the version is wrong, the body it announces. -/
  | receive (tid : ThreadId) (version : UInt16) (type : MessageType) (body : ByteString)
  /-- The handler performs its next database call. -/
  | call (tid : ThreadId)
  /-- The handler sends its response; `sent` tells whether that succeeds. -/
  | respond (tid : ThreadId) (sent : Bool)
  /-- Receiving fails, or the peer has closed the connection. -/
  | hangUp (tid : ThreadId)
  | finish (tid : ThreadId)
deriving DecidableEq, Repr

/-- Why an action is not performed. -/
inductive Halt where
  /-- The thread is not at a point where it could. -/
  | disabled
  /-- A database operation does not return. -/
  | abort (a : Abort)
  /-- A decoder reads past the end of the body, or a serializer writes past the end of its block. -/
  | fault (f : Fault)
deriving DecidableEq, Repr

/-- The phase after a response has been sent, or not. -/
def Phase.afterSend (sent : Bool) : Phase := if sent then .receiving else .closing

/-- Perform one action.  The result is the response that a serializer is called for on the way, if
one is, and the next state; what the serializer does is not part of the step. -/
def serverStep (action : Action) (w : ServerState) :
    Except Halt (Option Response × ServerState) :=
  match action with
  | .accept tid =>
    match w.phase tid with
    | .idle => .ok (none, w.withPhase tid .receiving)
    | _ => .error .disabled
  | .receive tid version type body =>
    match w.phase tid with
    | .receiving =>
      if version ≠ protocolVersion then .ok (none, w.withPhase tid .rejecting)
      -- The body has the length that `body_len_` announces, a 32-bit number.
      else if body.length < 2 ^ 32 then
        .ok (none, w.withPhase tid (.handling (handleMessage type body)))
      else .error .disabled
    | _ => .error .disabled
  | .call tid =>
    match w.phase tid with
    | .handling (.call op next) =>
      match exec ⟨tid, op⟩ w.db with
      | .ok (reply, db) =>
        .ok (none, { w with db := db }.withPhase tid (.handling (next reply)))
      | .error a => .error (.abort a)
    | .handling (.fault f) => .error (.fault f)
    | _ => .error .disabled
  | .respond tid sent =>
    match w.phase tid with
    | .handling (.respond r) => .ok (some r, w.withPhase tid (.afterSend sent))
    | .handling (.failed s) =>
      if s = .bodyError then .ok (some .invalidBody, w.withPhase tid (.afterSend sent))
      else .ok (none, w.withPhase tid .closing)
    | .rejecting => .ok (some (.wrongVersion protocolVersion), w.withPhase tid .closing)
    | _ => .error .disabled
  | .hangUp tid =>
    match w.phase tid with
    | .receiving => .ok (none, w.withPhase tid .closing)
    | _ => .error .disabled
  | .finish tid =>
    match w.phase tid with
    | .closing => .ok (none, { w with db := (w.db.logout tid).2 }.withPhase tid .idle)
    | _ => .error .disabled

end Chat262
