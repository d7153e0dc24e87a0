import Chat262.Server.Handlers
import Chat262.Wire.Requests

/-!
# What handlers do

All handlers have one shape: they decode the body, possibly ask whether the thread is logged in,
and make one last call, whose reply they turn into a response; only a login has a logout in front of
that call.  `Answers` lists the last calls with the responses made of their replies, and
`Script.Pending` says what can be left of a handler at any moment.  A decoder never reads outside of
its body, so what is left of a handler is never a `fault`.
-/

namespace Chat262

open Foundation

/-! ## The shape of the handlers -/

/-- The checks of `server::handle_registration`. -/
def PassesChecks (username password : ByteString) : Prop :=
  (4 ≤ username.length ∧ username.length ≤ 40 ∧ star ∉ username ∧ space ∉ username) ∧
    4 ≤ password.length ∧ password.length ≤ 60

/-- The last call of a handler, and the response it makes of the reply. -/
inductive Answers : Operation → (Reply → Response) → Prop
  | registration (u p : ByteString) (hchecks : PassesChecks u p) :
      Answers (.registration u p) fun reply =>
        .registration (if reply.isOk then StatusCode.ok else StatusCode.userExists)
  | login (u p : ByteString) : Answers (.login u p) fun reply =>
      .login (if reply.isOk then StatusCode.ok else StatusCode.invalidCredentials)
  | logout : Answers .logout fun _ => .logout StatusCode.ok
  | getUsernames (pattern : ByteString) :
      Answers (.getUsernames pattern) fun reply => .accounts StatusCode.ok reply.usernamesOut
  | sendTxt (r txt : ByteString) : Answers (.sendTxt r txt) fun reply =>
      .sendTxt (if reply.isOk then StatusCode.ok else StatusCode.userNoexist)
  | recvTxt (s : ByteString) : Answers (.recvTxt s ⟨[]⟩) fun reply =>
      .recvTxt (if reply.isOk then StatusCode.ok else StatusCode.userNoexist) reply.chatOut
  | getCorrespondents : Answers (.getCorrespondents []) fun reply =>
      .correspondents StatusCode.ok reply.usernamesOut
  | deleteUser : Answers .deleteUser fun _ => .delete StatusCode.ok

/-- The last call of a handler and its response. -/
def Script.last (op : Operation) (answer : Reply → Response) : Script :=
  .call op fun reply => .respond (answer reply)

/-- The operations that a handler calls only for a thread that is logged in. -/
def Operation.NeedsLogin : Operation → Prop
  | .registration _ _ | .login _ _ | .isLoggedIn => False
  | _ => True

/-- What can be left of a handler. -/
inductive Script.Pending : Script → Prop
  | respond (r : Response) : Pending (.respond r)
  /-- Nothing: the body could not be decoded. -/
  | failed : Pending (.failed .bodyError)
  | last {op : Operation} {answer : Reply → Response} (h : Answers op answer) :
      Pending (.last op answer)
  /-- The question whether the thread is logged in, and the last call. -/
  | authorize {op : Operation} {answer : Reply → Response} (unauthorized : Response)
      (hop : op.NeedsLogin) (h : Answers op answer) :
      Pending (.requireLogin unauthorized (.last op answer))
  | relogin (u p : ByteString) : Pending (.call .logout fun _ => finishLogin u p)
  | login (u p : ByteString) : Pending (.call .isLoggedIn fun reply =>
      if reply.isLoggedIn then .call .logout fun _ => finishLogin u p else finishLogin u p)

/-- The end of a login is its last call. -/
lemma finishLogin_eq (u p : ByteString) :
    finishLogin u p = .last (.login u p) fun reply =>
      .login (if reply.isOk then StatusCode.ok else StatusCode.invalidCredentials) := by
  unfold finishLogin Script.last
  congr 1
  funext reply
  split_ifs with hok <;> simp [hok]

/-- What is left after the next call can be left of a handler too. -/
lemma Script.Pending.next {op : Operation} {next : Reply → Script}
    (h : (Script.call op next).Pending) (reply : Reply) : (next reply).Pending := by
  have hfinish (u p : ByteString) : (finishLogin u p).Pending :=
    finishLogin_eq u p ▸ .last (.login u p)
  cases h with
  | last h => exact .respond _
  | authorize unauthorized hop h =>
    dsimp only
    split_ifs
    · exact .respond _
    · exact .last h
  | relogin u p => exact hfinish u p
  | login u p =>
    dsimp only
    split_ifs
    · exact .relogin u p
    · exact hfinish u p

/-! ## What the handlers start with -/

/-- A handler whose decoder takes no strings goes on for the empty body only. -/
lemma Script.decode_empty {P : Script → Prop} {body : ByteString} {next : Unit → Script}
    (hfailed : ¬ IsEmptyBody body → P (.failed .bodyError)) (hnext : body = [] → P (next ())) :
    P (Script.decode (.ok (EmptyRequest.deserialize body, ())) next) := by
  rcases EmptyRequest.deserialize_cases body with ⟨hbody, h⟩ | ⟨hbody, h⟩
  · rw [h]
    exact hnext hbody
  · rw [h]
    exact hfailed hbody

/-- A handler whose decoder takes one string goes on for the bodies of a short string. -/
lemma Script.decode_string {P : Script → Prop} {body : ByteString} {next : ByteString → Script}
    (hfailed : ¬ IsStringBody body → P (.failed .bodyError))
    (hnext : ∀ s, Short s → body = stringBody s → P (next s)) :
    P (Script.decode (StringRequest.deserialize body []) next) := by
  rcases StringRequest.deserialize_cases body [] with ⟨s, hs, hbody, h⟩ | ⟨hbody, h⟩
  · rw [h]
    exact hnext s hs hbody
  · rw [h]
    exact hfailed hbody

/-- A handler whose decoder takes two strings goes on for the bodies of two short strings. -/
lemma Script.decode_pair {P : Script → Prop} {body : ByteString}
    {next : ByteString × ByteString → Script}
    (hfailed : ¬ IsPairBody body → P (.failed .bodyError))
    (hnext : ∀ a b, Short a → Short b → body = pairBody a b → P (next (a, b))) :
    P (Script.decode (PairRequest.deserialize body [] []) next) := by
  rcases PairRequest.deserialize_cases body [] [] with ⟨a, b, ha, hb, hbody, h⟩ | ⟨hbody, h⟩
  · rw [h]
    exact hnext a b ha hb hbody
  · rw [h]
    exact hfailed hbody

/-- The last call of a handler when the response depends on the status only. -/
lemma Script.last_ite (op : Operation) (f : StatusCode → Reply → Response) (s s' : StatusCode) :
    (Script.call op fun reply =>
        if reply.isOk then .respond (f s reply) else .respond (f s' reply)) =
      .last op fun reply => f (if reply.isOk then s else s') reply := by
  unfold Script.last
  congr 1
  funext reply
  split_ifs with hok <;> simp [hok]

/-- The types from `msgtype_registration_request` to `msgtype_delete_request`. -/
def IsRequestType (type : MessageType) : Prop :=
  MessageType.registrationRequest ≤ type ∧ type ≤ MessageType.deleteRequest

instance (type : MessageType) : Decidable (IsRequestType type) :=
  inferInstanceAs (Decidable (_ ∧ _))

/-- The request types are the eight that have a handler. -/
lemma isRequestType_iff {type : MessageType} :
    IsRequestType type ↔
      type = MessageType.registrationRequest ∨ type = MessageType.loginRequest ∨
      type = MessageType.logoutRequest ∨ type = MessageType.accountsRequest ∨
      type = MessageType.sendTxtRequest ∨ type = MessageType.recvTxtRequest ∨
      type = MessageType.correspondentsRequest ∨ type = MessageType.deleteRequest := by
  constructor
  · rintro ⟨hle, hge⟩
    have hle' : 101 ≤ type.toNat := UInt16.le_iff_toNat_le.mp hle
    have hge' : type.toNat ≤ 108 := UInt16.le_iff_toNat_le.mp hge
    simp only [← UInt16.toNat_inj]
    change type.toNat = 101 ∨ type.toNat = 102 ∨ type.toNat = 103 ∨ type.toNat = 104 ∨
      type.toNat = 105 ∨ type.toNat = 106 ∨ type.toNat = 107 ∨ type.toNat = 108
    omega
  · rintro (rfl | rfl | rfl | rfl | rfl | rfl | rfl | rfl) <;> decide

/-- The body of a message of the given type satisfies the grammar of its requests. -/
def WellFormed (type : MessageType) (body : ByteString) : Prop :=
  if type = MessageType.registrationRequest ∨ type = MessageType.loginRequest ∨
      type = MessageType.sendTxtRequest then IsPairBody body
  else if type = MessageType.accountsRequest ∨ type = MessageType.recvTxtRequest then
    IsStringBody body
  else IsEmptyBody body

/-- What `handle_client` starts for a message: a well-formed request is decoded into its strings,
checked if it is a registration, and then one of the scripts of its handler is run. -/
inductive Handling : MessageType → ByteString → Script → Prop
  | invalidType (type : MessageType) (body : ByteString)
      (htype : ¬ IsRequestType type) :
      Handling type body (.respond .invalidType)
  /-- A body that does not satisfy the grammar. -/
  | invalidBody (type : MessageType) (body : ByteString)
      (htype : IsRequestType type) (hbody : ¬ WellFormed type body) :
      Handling type body (.failed .bodyError)
  | usernameInvalid (u p : ByteString) (hu : Short u) (hp : Short p)
      (hchecks : ¬ (4 ≤ u.length ∧ u.length ≤ 40 ∧ star ∉ u ∧ space ∉ u)) :
      Handling MessageType.registrationRequest (pairBody u p)
        (.respond (.registration StatusCode.usernameInvalid))
  | passwordInvalid (u p : ByteString) (hu : Short u) (hp : Short p)
      (hname : 4 ≤ u.length ∧ u.length ≤ 40 ∧ star ∉ u ∧ space ∉ u)
      (hchecks : ¬ (4 ≤ p.length ∧ p.length ≤ 60)) :
      Handling MessageType.registrationRequest (pairBody u p)
        (.respond (.registration StatusCode.passwordInvalid))
  | registration (u p : ByteString) (hu : Short u) (hp : Short p) (hchecks : PassesChecks u p) :
      Handling MessageType.registrationRequest (pairBody u p)
        (.last (.registration u p) fun reply =>
          .registration (if reply.isOk then StatusCode.ok else StatusCode.userExists))
  | login (u p : ByteString) (hu : Short u) (hp : Short p) :
      Handling MessageType.loginRequest (pairBody u p) (.call .isLoggedIn fun reply =>
        if reply.isLoggedIn then .call .logout fun _ => finishLogin u p else finishLogin u p)
  | logout : Handling MessageType.logoutRequest []
      (.requireLogin (.logout StatusCode.unauthorized)
        (.last .logout fun _ => .logout StatusCode.ok))
  | accounts (pattern : ByteString) (hs : Short pattern) :
      Handling MessageType.accountsRequest (stringBody pattern)
        (.requireLogin (.accounts StatusCode.unauthorized [])
          (.last (.getUsernames pattern) fun reply =>
            .accounts StatusCode.ok reply.usernamesOut))
  | sendTxt (r txt : ByteString) (hr : Short r) (htxt : Short txt) :
      Handling MessageType.sendTxtRequest (pairBody r txt)
        (.requireLogin (.sendTxt StatusCode.unauthorized)
          (.last (.sendTxt r txt) fun reply =>
            .sendTxt (if reply.isOk then StatusCode.ok else StatusCode.userNoexist)))
  | recvTxt (s : ByteString) (hs : Short s) :
      Handling MessageType.recvTxtRequest (stringBody s)
        (.requireLogin (.recvTxt StatusCode.unauthorized ⟨[]⟩)
          (.last (.recvTxt s ⟨[]⟩) fun reply =>
            .recvTxt (if reply.isOk then StatusCode.ok else StatusCode.userNoexist) reply.chatOut))
  | correspondents : Handling MessageType.correspondentsRequest []
      (.requireLogin (.correspondents StatusCode.unauthorized [])
        (.last (.getCorrespondents []) fun reply =>
          .correspondents StatusCode.ok reply.usernamesOut))
  | delete : Handling MessageType.deleteRequest []
      (.requireLogin (.delete StatusCode.unauthorized)
        (.last .deleteUser fun _ => .delete StatusCode.ok))

/-- The registration handler. -/
lemma handling_registration (body : ByteString) :
    Handling MessageType.registrationRequest body (handleRegistration body) := by
  refine Script.decode_pair (P := Handling _ body)
    (.invalidBody .registrationRequest body (by decide)) ?_
  rintro u p hu hp rfl
  dsimp only
  split_ifs with hname hpass
  · refine .usernameInvalid u p hu hp ?_
    rintro ⟨hmin, hmax, hstar, hspace⟩
    rcases hname with h | h | h | h
    · omega
    · omega
    · exact hstar h
    · exact hspace h
  · simp only [not_or, not_lt] at hname
    exact .passwordInvalid u p hu hp hname (by omega)
  · simp only [not_or, not_lt] at hname hpass
    rw [Script.last_ite _ fun s _ => .registration s]
    exact .registration u p hu hp ⟨hname, hpass⟩

/-- The login handler. -/
lemma handling_login (body : ByteString) :
    Handling MessageType.loginRequest body (handleLogin body) := by
  refine Script.decode_pair (P := Handling _ body)
    (.invalidBody .loginRequest body (by decide)) ?_
  rintro u p hu hp rfl
  exact .login u p hu hp

/-- The logout handler. -/
lemma handling_logout (body : ByteString) :
    Handling MessageType.logoutRequest body (handleLogout body) := by
  refine Script.decode_empty (P := Handling _ body)
    (.invalidBody .logoutRequest body (by decide)) ?_
  rintro rfl
  exact .logout

/-- The handler of the account search. -/
lemma handling_accounts (body : ByteString) :
    Handling MessageType.accountsRequest body (handleListAccounts body) := by
  refine Script.decode_string (P := Handling _ body)
    (.invalidBody .accountsRequest body (by decide)) ?_
  rintro pattern hs rfl
  exact .accounts pattern hs

/-- The handler that sends a text. -/
lemma handling_sendTxt (body : ByteString) :
    Handling MessageType.sendTxtRequest body (handleSendTxt body) := by
  refine Script.decode_pair (P := Handling _ body)
    (.invalidBody .sendTxtRequest body (by decide)) ?_
  rintro r txt hr htxt rfl
  dsimp only
  rw [Script.last_ite _ fun s _ => .sendTxt s]
  exact .sendTxt r txt hr htxt

/-- The handler that returns a chat. -/
lemma handling_recvTxt (body : ByteString) :
    Handling MessageType.recvTxtRequest body (handleRecvTxt body) := by
  refine Script.decode_string (P := Handling _ body)
    (.invalidBody .recvTxtRequest body (by decide)) ?_
  rintro s hs rfl
  rw [Script.last_ite _ fun s reply => .recvTxt s reply.chatOut]
  exact .recvTxt s hs

/-- The handler of the correspondents. -/
lemma handling_correspondents (body : ByteString) :
    Handling MessageType.correspondentsRequest body (handleCorrespondents body) := by
  refine Script.decode_empty (P := Handling _ body)
    (.invalidBody .correspondentsRequest body (by decide)) ?_
  rintro rfl
  exact .correspondents

/-- The handler of a deletion. -/
lemma handling_delete (body : ByteString) :
    Handling MessageType.deleteRequest body (handleDelete body) := by
  refine Script.decode_empty (P := Handling _ body)
    (.invalidBody .deleteRequest body (by decide)) ?_
  rintro rfl
  exact .delete

/-- `handleMessage` starts one of these scripts. -/
theorem handling_handleMessage (type : MessageType) (body : ByteString) :
    Handling type body (handleMessage type body) := by
  by_cases htype : IsRequestType type
  · rcases isRequestType_iff.mp htype with rfl | rfl | rfl | rfl | rfl | rfl | rfl | rfl
    · exact handling_registration body
    · exact handling_login body
    · exact handling_logout body
    · exact handling_accounts body
    · exact handling_sendTxt body
    · exact handling_recvTxt body
    · exact handling_correspondents body
    · exact handling_delete body
  · have h : handleMessage type body = .respond .invalidType := by
      simp only [isRequestType_iff, not_or] at htype
      unfold handleMessage
      simp only [htype, if_false]
    rw [h]
    exact .invalidType type body htype

/-- What a handler starts with can be left of a handler. -/
lemma Handling.pending {type : MessageType} {body : ByteString} {script : Script}
    (h : Handling type body script) : script.Pending := by
  cases h with
  | invalidType | usernameInvalid | passwordInvalid => exact .respond _
  | invalidBody => exact .failed
  | registration u p hu hp hchecks => exact .last (.registration u p hchecks)
  | login u p => exact .login u p
  | logout => exact .authorize _ trivial .logout
  | accounts pattern => exact .authorize _ trivial (.getUsernames pattern)
  | sendTxt r txt => exact .authorize _ trivial (.sendTxt r txt)
  | recvTxt s => exact .authorize _ trivial (.recvTxt s)
  | correspondents => exact .authorize _ trivial .getCorrespondents
  | delete => exact .authorize _ trivial .deleteUser

end Chat262
