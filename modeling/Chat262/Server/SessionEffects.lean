import Chat262.Server.Connection
import Chat262.Server.Ownership

/-!
# What a request does to the session

The effect of every request on the session of its own thread, with the status code that it is
answered with, whatever the other threads do while it is being handled.  As no other thread touches
the session, it is enough to follow the handler through its calls with any database in between that
has the session where the handler left it: `Script.EndsIn`.
-/

namespace Chat262

open Foundation
open Std (ExtTreeMap)

/-- The status code of a response that has one. -/
def Response.statCode? : Response → Option StatusCode
  | .registration s | .login s | .logout s | .accounts s _ | .sendTxt s | .recvTxt s _
  | .correspondents s _ | .delete s => some s
  | .wrongVersion _ | .invalidType | .invalidBody => none

/-- What is left of a handler of the thread `tid`, whose session is `session`, ends with a response
and a session that `Q` allows, whatever the other threads do between its calls. -/
def Script.EndsIn (tid : ThreadId) (Q : Response → Option ByteString → Prop) :
    Script → Option ByteString → Prop
  | .respond r, session => Q r session
  | .call op next, session => ∀ db db' reply, db.threads[tid]? = session →
      exec ⟨tid, op⟩ db = .ok (reply, db') → (next reply).EndsIn tid Q db'.threads[tid]?
  | .failed s, session => s = .bodyError ∧ Q .invalidBody session
  | .fault _, _ => True

/-- A response of the given type has a status code that `After` allows with the session. -/
def Answered (type : MessageType) (After : StatusCode → Option ByteString → Prop) (r : Response)
    (session : Option ByteString) : Prop :=
  r.type = type → ∃ code, r.statCode? = some code ∧ After code session

/-- After a login as the user `name`. -/
def AfterLogin (name : ByteString) (code : StatusCode) (session : Option ByteString) : Prop :=
  code = StatusCode.ok ∧ session = some name ∨
    code = StatusCode.invalidCredentials ∧ session = none

/-- After a request that leaves the session `before` as it is. -/
def SameSession (before : Option ByteString) (code : StatusCode) (session : Option ByteString) :
    Prop :=
  session = before ∧ code ≠ StatusCode.unauthorized

/-- After a request that ends the session. -/
def NoSession (code : StatusCode) (session : Option ByteString) : Prop :=
  code = StatusCode.ok ∧ session = none

/-! ## Operations and the session of their own thread -/

section

variable {tid : ThreadId} {db db' : Database} {reply : Reply}

/-- A login of a thread without a session gives it one exactly when it succeeds. -/
lemma session_of_login {name password : ByteString}
    (h : exec ⟨tid, .login name password⟩ db = .ok (reply, db')) (hnone : db.threads[tid]? = none) :
    reply.isOk = true ∧ db'.threads[tid]? = some name ∨
      reply.isOk = false ∧ db'.threads[tid]? = none := by
  have hnot : tid ∉ db.threads := by
    rw [ExtTreeMap.mem_iff_isSome_getElem?, hnone]
    simp
  have hsession := session_of_exec_self h fun _ _ _ => hnot
  have hexec : exec ⟨tid, .login name password⟩ db =
      .ok (.status (db.login tid name password).1, (db.login tid name password).2) := rfl
  rw [hexec, Except.ok.injEq, Prod.mk.injEq] at h
  obtain ⟨rfl, rfl⟩ := h
  rw [hnone] at hsession
  generalize (db.login tid name password).1 = s at hsession ⊢
  cases s with
  | ok => exact .inl ⟨rfl, hsession⟩
  | _ => exact .inr ⟨rfl, hsession⟩

/-- After a logout there is no session. -/
lemma session_of_logout (h : exec ⟨tid, .logout⟩ db = .ok (reply, db')) :
    db'.threads[tid]? = none := session_of_exec_self h (by simp)

/-- After the deletion of the user there is no session. -/
lemma session_of_deleteUser (h : exec ⟨tid, .deleteUser⟩ db = .ok (reply, db')) :
    db'.threads[tid]? = none := session_of_exec_self h (by simp)

/-- The other operations keep the session. -/
lemma session_of_unchanging {op : Operation} (h : exec ⟨tid, op⟩ db = .ok (reply, db'))
    (hop : ¬ Performed.ChangesSession ⟨⟨tid, op⟩, reply⟩) :
    db'.threads[tid]? = db.threads[tid]? := by
  have hlogin (u p : ByteString) (hlogin : op = .login u p) : tid ∉ db.threads := by
    subst hlogin
    exact absurd trivial hop
  rw [session_of_exec_self h hlogin]
  cases op with
  | login u p => exact absurd trivial hop
  | logout => exact absurd trivial hop
  | deleteUser => exact absurd trivial hop
  | _ => rfl

end

/-! ## Handlers -/

section

variable {tid : ThreadId} {Q : Response → Option ByteString → Prop}

/-- A handler that asks whether the thread is logged in goes on when it is. -/
lemma endsIn_requireLogin {unauthorized : Response} {script : Script} {name : ByteString}
    (h : script.EndsIn tid Q (some name)) :
    (Script.requireLogin unauthorized script).EndsIn tid Q (some name) := by
  intro db db' reply hsession hexec
  have hin : tid ∈ db.threads := ExtTreeMap.mem_iff_isSome_getElem?.mpr (by simp [hsession])
  have hreply : exec ⟨tid, .isLoggedIn⟩ db = .ok (.loggedIn true, db) := by
    simp [exec, Database.isLoggedIn, hin]
  rw [hreply] at hexec
  cases hexec
  rw [hsession]
  exact h

/-- The last call of a handler that leaves the session alone. -/
lemma endsIn_last {op : Operation} {answer : Reply → Response} {session : Option ByteString}
    (hop : ∀ reply, ¬ Performed.ChangesSession ⟨⟨tid, op⟩, reply⟩)
    (h : ∀ reply, Q (answer reply) session) : (Script.last op answer).EndsIn tid Q session := by
  intro db db' reply hsession hexec
  rw [session_of_unchanging hexec (hop reply), hsession]
  exact h reply

/-- The end of a login. -/
lemma endsIn_finishLogin (name password : ByteString) :
    (finishLogin name password).EndsIn tid
      (Answered MessageType.loginResponse (AfterLogin name)) none := by
  intro db db' reply hnone hexec
  rcases session_of_login hexec hnone with ⟨hok, hsession⟩ | ⟨hok, hsession⟩
  · rw [hsession]
    simp only [hok, if_true]
    exact fun _ => ⟨_, rfl, .inl ⟨rfl, rfl⟩⟩
  · rw [hsession]
    simp only [hok, Bool.false_eq_true, if_false]
    exact fun _ => ⟨_, rfl, .inr ⟨rfl, rfl⟩⟩

/-- A body that is not decoded has no answer of the type that is asked for. -/
lemma answered_invalidBody {type : MessageType} {After : StatusCode → Option ByteString → Prop}
    {session : Option ByteString} (htype : type ≠ MessageType.invalidBodyResponse) :
    (Script.failed .bodyError).EndsIn tid (Answered type After) session :=
  ⟨rfl, fun hinvalid => absurd hinvalid.symm htype⟩

/-- A login, of a thread with any session. -/
lemma endsIn_login {name password : ByteString} (hname : Short name) (hpassword : Short password)
    (session : Option ByteString) :
    (handleMessage MessageType.loginRequest (pairBody name password)).EndsIn tid
      (Answered MessageType.loginResponse (AfterLogin name)) session := by
  rw [handleMessage_login, handleLogin, LoginRequest.deserialize,
    PairRequest.deserialize_pairBody hname hpassword]
  intro db db' reply hsession hexec
  have hreply : exec ⟨tid, .isLoggedIn⟩ db = .ok (.loggedIn (db.isLoggedIn tid), db) := rfl
  rw [hreply] at hexec
  cases hexec
  dsimp only [Reply.isLoggedIn]
  cases hin : db.isLoggedIn tid with
  | false =>
    have hnone : db.threads[tid]? = none :=
      ExtTreeMap.getElem?_eq_none (by simpa [Database.isLoggedIn] using hin)
    rw [hnone]
    exact endsIn_finishLogin name password
  | true =>
    intro db₁ db₂ reply _ hexec
    rw [session_of_logout hexec]
    exact endsIn_finishLogin name password

/-- A registration leaves every session as it is. -/
lemma endsIn_registration (body : ByteString) (session : Option ByteString) :
    (handleMessage MessageType.registrationRequest body).EndsIn tid
      (Answered MessageType.registrationResponse (SameSession session)) session := by
  refine Script.decode_pair (P := fun script => script.EndsIn tid _ session)
    (fun _ => answered_invalidBody (by decide)) ?_
  intro u p _ _ _
  dsimp only
  split_ifs
  · exact fun _ => ⟨_, rfl, rfl, by decide⟩
  · exact fun _ => ⟨_, rfl, rfl, by decide⟩
  · rw [Script.last_ite _ fun s _ => .registration s]
    refine endsIn_last (fun _ => id) ?_
    intro reply _
    refine ⟨_, rfl, rfl, ?_⟩
    split_ifs <;> decide

section

variable (body name : ByteString)

/-- A logout ends the session. -/
lemma endsIn_logout :
    (handleMessage MessageType.logoutRequest body).EndsIn tid
      (Answered MessageType.logoutResponse NoSession) (some name) := by
  rw [handleMessage_logout, handleLogout]
  refine Script.decode_empty (P := fun script => script.EndsIn tid _ (some name))
    (fun _ => answered_invalidBody (by decide)) ?_
  intro _
  refine endsIn_requireLogin ?_
  intro db db' reply _ hexec
  rw [session_of_logout hexec]
  exact fun _ => ⟨_, rfl, rfl, rfl⟩

/-- A deletion ends the session. -/
lemma endsIn_delete :
    (handleMessage MessageType.deleteRequest body).EndsIn tid
      (Answered MessageType.deleteResponse NoSession) (some name) := by
  rw [handleMessage_delete, handleDelete]
  refine Script.decode_empty (P := fun script => script.EndsIn tid _ (some name))
    (fun _ => answered_invalidBody (by decide)) ?_
  intro _
  refine endsIn_requireLogin ?_
  intro db db' reply _ hexec
  rw [session_of_deleteUser hexec]
  exact fun _ => ⟨_, rfl, rfl, rfl⟩

/-- An account search keeps the session. -/
lemma endsIn_accounts :
    (handleMessage MessageType.accountsRequest body).EndsIn tid
      (Answered MessageType.accountsResponse (SameSession (some name))) (some name) := by
  refine Script.decode_string (P := fun script => script.EndsIn tid _ (some name))
    (fun _ => answered_invalidBody (by decide)) ?_
  intro pattern _ _
  refine endsIn_requireLogin (endsIn_last (fun _ => id) ?_)
  exact fun _ _ => ⟨_, rfl, rfl, by decide⟩

/-- Sending a text keeps the session. -/
lemma endsIn_sendTxt :
    (handleMessage MessageType.sendTxtRequest body).EndsIn tid
      (Answered MessageType.sendTxtResponse (SameSession (some name))) (some name) := by
  refine Script.decode_pair (P := fun script => script.EndsIn tid _ (some name))
    (fun _ => answered_invalidBody (by decide)) ?_
  intro r txt _ _ _
  dsimp only
  rw [Script.last_ite _ fun s _ => .sendTxt s]
  refine endsIn_requireLogin (endsIn_last (fun _ => id) ?_)
  intro reply _
  refine ⟨_, rfl, rfl, ?_⟩
  split_ifs <;> decide

/-- Reading a chat keeps the session. -/
lemma endsIn_recvTxt :
    (handleMessage MessageType.recvTxtRequest body).EndsIn tid
      (Answered MessageType.recvTxtResponse (SameSession (some name))) (some name) := by
  refine Script.decode_string (P := fun script => script.EndsIn tid _ (some name))
    (fun _ => answered_invalidBody (by decide)) ?_
  intro s _ _
  rw [Script.last_ite _ fun s reply => .recvTxt s reply.chatOut]
  refine endsIn_requireLogin (endsIn_last (fun _ => id) ?_)
  intro reply _
  refine ⟨_, rfl, rfl, ?_⟩
  split_ifs <;> decide

/-- Listing the correspondents keeps the session. -/
lemma endsIn_correspondents :
    (handleMessage MessageType.correspondentsRequest body).EndsIn tid
      (Answered MessageType.correspondentsResponse (SameSession (some name))) (some name) := by
  rw [handleMessage_correspondents, handleCorrespondents]
  refine Script.decode_empty (P := fun script => script.EndsIn tid _ (some name))
    (fun _ => answered_invalidBody (by decide)) ?_
  intro _
  refine endsIn_requireLogin (endsIn_last (fun _ => id) ?_)
  exact fun _ _ => ⟨_, rfl, rfl, by decide⟩

end

end

end Chat262
