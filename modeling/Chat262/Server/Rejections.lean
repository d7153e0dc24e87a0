import Chat262.Server.Ownership
import Chat262.Server.ResponseSize

/-!
# Rejected requests change nothing

A handler changes the database in at most one of its calls, and a response that rejects the request
is only built where that call has changed nothing.  The one exception is a login, which gives up the
session of the connection before it knows whether the credentials are valid.

`Script.Avoids P` says that a handler will build no response in `P` any more.  Every call of a
handler keeps the database in a relation `R`, or commits the handler to avoiding `P`
(`Script.KeepsOrAvoids`).  So if a response in `P` is built in the end, all calls on the way to it
have kept `R` (`guarded_of_keepsOrAvoids`), whatever the other threads do in between.
-/

namespace Chat262

open Foundation
open Std (ExtTreeMap)

/-! ## Responses to come -/

/-- The responses that reject a request, those to a login left aside. -/
def Response.Rejects : Response → Prop
  | .registration s | .logout s | .accounts s _ | .sendTxt s | .recvTxt s _ | .correspondents s _
  | .delete s => s ≠ StatusCode.ok
  | .login _ => False
  | .wrongVersion _ | .invalidType | .invalidBody => True

/-- The response that rejects a login. -/
def Response.RejectsLogin (r : Response) : Prop := r = .login StatusCode.invalidCredentials

/-- What is left of a handler builds no response in `P`, whatever its calls reply. -/
def Script.Avoids (P : Response → Prop) : Script → Prop
  | .respond r => ¬ P r
  | .call _ next => ∀ reply, (next reply).Avoids P
  | .failed s => s = .bodyError → ¬ P .invalidBody
  | .fault _ => True

/-- Every call of a handler of the thread `tid` keeps the database in the relation `R`, or is made
where no response in `P` follows. -/
def Script.KeepsOrAvoids (P : Response → Prop) (R : Database → Database → Prop)
    (tid : ThreadId) : Prop :=
  ∀ (op : Operation) (next : Reply → Script) (db db' : Database) (reply : Reply),
    (Script.call op next).Pending → exec ⟨tid, op⟩ db = .ok (reply, db') →
      R db db' ∨ (next reply).Avoids P

/-- What happens in a step of the thread `tid` keeps the database in the relation `R`. -/
def StepKeeps (tid : ThreadId) (R : Database → Database → Prop) (action : Action)
    (w : ServerState) : Prop :=
  action.thread = tid → ∀ r w', serverStep action w = .ok (r, w') → R w.db w'.db

/-! ## The calls on the way to a response -/

/-- The next call of a handler. -/
lemma call_of_serverStep {tid : ThreadId} {w w' : ServerState} {r : Option Response}
    {script : Script} (hphase : w.phase tid = .handling script)
    (hstep : serverStep (.call tid) w = .ok (r, w')) :
    ∃ op next reply, script = .call op next ∧ exec ⟨tid, op⟩ w.db = .ok (reply, w'.db) ∧
      w'.phase tid = .handling (next reply) := by
  cases serverStep_effect hstep with
  | called _ op next reply db ha hcall hexec =>
    cases ha
    refine ⟨op, next, reply, ?_, hexec, ServerState.phase_withPhase_self _ tid _⟩
    rw [hphase] at hcall
    exact Phase.handling.inj hcall
  | _ => contradiction

/-- What holds of the rest of a handler and the session of its thread, and is kept by the calls of
the handler, holds until the handler responds, whatever the other threads do. -/
lemma handling_of_run {Q : Script → Option ByteString → Prop} {tid : ThreadId}
    (hQ : ∀ op next db db' reply, Q (.call op next) db.threads[tid]? →
      exec ⟨tid, op⟩ db = .ok (reply, db') → Q (next reply) db'.threads[tid]?)
    {actions : List Action} {w w' : ServerState} {script : Script}
    (hrun : run serverStep actions w = .ok w')
    (hcalls : ∀ action ∈ actions, action.thread = tid → action = .call tid)
    (hphase : w.phase tid = .handling script) (hscript : Q script w.db.threads[tid]?) :
    ∃ script', w'.phase tid = .handling script' ∧ Q script' w'.db.threads[tid]? := by
  induction actions generalizing w script with
  | nil =>
    cases hrun
    exact ⟨script, hphase, hscript⟩
  | cons action actions ih =>
    obtain ⟨r, w₁, hstep, hrest⟩ := run_cons_eq_ok.mp hrun
    obtain ⟨hcall, hcalls'⟩ := List.forall_mem_cons.mp hcalls
    by_cases hthread : action.thread = tid
    · obtain rfl : action = .call tid := hcall hthread
      obtain ⟨op, next, reply, rfl, hexec, hphase₁⟩ := call_of_serverStep hphase hstep
      exact ih hrest hcalls' hphase₁ (hQ op next _ _ reply hscript hexec)
    · obtain ⟨hphase₁, hsession⟩ := others_of_serverStep hstep (Ne.symm hthread)
      exact ih hrest hcalls' (hphase₁.trans hphase) (hsession ▸ hscript)

/-- When a response in `P` can still follow at the end of a run in which a handler makes its calls,
all of these calls have kept the relation. -/
lemma guarded_of_keepsOrAvoids {P : Response → Prop} {R : Database → Database → Prop}
    {tid : ThreadId} (hkeeps : Script.KeepsOrAvoids P R tid) {actions : List Action}
    {w w' : ServerState} {script script' : Script} (hrun : run serverStep actions w = .ok w')
    (hcalls : ∀ action ∈ actions, action.thread = tid → action = .call tid)
    (hphase : w.phase tid = .handling script) (hpending : script.Pending)
    (hphase' : w'.phase tid = .handling script') (hfollows : ¬ script'.Avoids P) :
    Guarded serverStep (StepKeeps tid R) actions w := by
  induction actions generalizing w script with
  | nil => trivial
  | cons action actions ih =>
    obtain ⟨r, w₁, hstep, hrest⟩ := run_cons_eq_ok.mp hrun
    obtain ⟨hcall, hcalls'⟩ := List.forall_mem_cons.mp hcalls
    rw [guarded_cons hstep]
    by_cases hthread : action.thread = tid
    · obtain rfl : action = .call tid := hcall hthread
      obtain ⟨op, next, reply, rfl, hexec, hphase₁⟩ := call_of_serverStep hphase hstep
      refine ⟨fun _ r' w'' hstep' => ?_, ih hrest hcalls' hphase₁ (hpending.next reply)⟩
      obtain ⟨-, rfl⟩ : r = r' ∧ w₁ = w'' := by simpa [hstep] using hstep'
      -- Otherwise the handler would avoid `P` from here on, up to the end of the run.
      refine (hkeeps op next _ _ reply hpending hexec).resolve_right fun havoids => hfollows ?_
      obtain ⟨last, hlast, havoids'⟩ := handling_of_run (Q := fun script _ => script.Avoids P)
        (fun _ _ _ _ reply h _ => h reply) hrest hcalls' hphase₁ havoids
      rw [hphase'] at hlast
      exact Phase.handling.inj hlast ▸ havoids'
    · refine ⟨fun h => absurd h hthread, ih hrest hcalls' ?_ hpending⟩
      rw [(others_of_serverStep hstep (Ne.symm hthread)).1, hphase]

/-! ## What a call changes -/

/-- Two databases differ in the session of the thread `tid` at most. -/
structure SameButSession (tid : ThreadId) (db db' : Database) : Prop where
  users : db'.users = db.users
  historicalUsers : db'.historicalUsers = db.historicalUsers
  others : ∀ other : ThreadId, other ≠ tid → db'.threads[other]? = db.threads[other]?

/-- A database differs from itself in nothing. -/
lemma SameButSession.refl (tid : ThreadId) (db : Database) : SameButSession tid db db :=
  ⟨rfl, rfl, fun _ _ => rfl⟩

/-- Differences in the session of one thread add up to one such difference. -/
lemma SameButSession.trans {tid : ThreadId} {db db' db'' : Database}
    (h : SameButSession tid db db') (h' : SameButSession tid db' db'') :
    SameButSession tid db db'' :=
  ⟨h'.users.trans h.users, h'.historicalUsers.trans h.historicalUsers,
    fun other hother => (h'.others other hother).trans (h.others other hother)⟩

/-- An operation that does not report success changes nothing. -/
lemma exec_eq_of_not_isOk {e : Event} {db db' : Database} {reply : Reply}
    (hexec : exec e db = .ok (reply, db')) (hreply : reply.isOk = false) : db' = db := by
  cases exec_effect hexec with
  | rejected hwhy => rfl
  | read reply hread => rfl
  | _ => simp [Reply.isOk] at hreply

/-- An operation that only reads changes nothing. -/
lemma exec_eq_of_isRead {e : Event} {db db' : Database} {reply : Reply}
    (hexec : exec e db = .ok (reply, db')) (hread : e.op.IsRead) : db' = db := by
  rcases e with ⟨tid, op⟩
  cases exec_effect hexec with
  | rejected hwhy => rfl
  | read reply hread => rfl
  | registered u p hop => simp_all [Operation.IsRead]
  | loggedIn u p user hop => simp_all [Operation.IsRead]
  | loggedOut hop => simp_all [Operation.IsRead]
  | sent r txt name sender hop => simp_all [Operation.IsRead]
  | deleted name u users hop => simp_all [Operation.IsRead]

/-- Logging in or out changes nothing but the session. -/
lemma exec_sameButSession {tid : ThreadId} {op : Operation} {db db' : Database} {reply : Reply}
    (hexec : exec ⟨tid, op⟩ db = .ok (reply, db'))
    (hop : (∃ u p, op = .login u p) ∨ op = .logout) : SameButSession tid db db' := by
  cases exec_effect hexec with
  | rejected hwhy => exact .refl tid db
  | read reply hread => exact .refl tid db
  | loggedIn u p user hop' hout huser hpass =>
    exact ⟨rfl, rfl, fun other hother => session_of_exec hexec hother⟩
  | loggedOut hop' hin => exact ⟨rfl, rfl, fun other hother => session_of_exec hexec hother⟩
  | registered u p hop' => rcases hop with ⟨u', p', rfl⟩ | rfl <;> cases hop'
  | sent r txt name sender hop' => rcases hop with ⟨u', p', rfl⟩ | rfl <;> cases hop'
  | deleted name u users hop' => rcases hop with ⟨u', p', rfl⟩ | rfl <;> cases hop'

/-- The end of a login builds no response but one to a login. -/
lemma avoids_finishLogin (u p : ByteString) : (finishLogin u p).Avoids Response.Rejects := by
  intro reply
  dsimp only
  split_ifs <;> exact id

/-- A call changes nothing when a response that rejects the request can follow. -/
lemma keepsOrAvoids_rejects (tid : ThreadId) :
    Script.KeepsOrAvoids Response.Rejects (fun db db' => db' = db) tid := by
  intro op next db db' reply hpending hexec
  cases hpending with
  | last h =>
    cases h with
    | registration u p hchecks =>
      cases hok : reply.isOk with
      | false => exact .inl (exec_eq_of_not_isOk hexec hok)
      | true => exact .inr (by simp [Script.Avoids, Response.Rejects, hok])
    | sendTxt r txt =>
      cases hok : reply.isOk with
      | false => exact .inl (exec_eq_of_not_isOk hexec hok)
      | true => exact .inr (by simp [Script.Avoids, Response.Rejects, hok])
    | login u p => exact .inr id
    | logout => exact .inr (not_not_intro rfl)
    | deleteUser => exact .inr (not_not_intro rfl)
    | getUsernames pattern => exact .inl (exec_eq_of_isRead hexec trivial)
    | recvTxt s => exact .inl (exec_eq_of_isRead hexec trivial)
    | getCorrespondents => exact .inl (exec_eq_of_isRead hexec trivial)
  | authorize unauthorized hop h => exact .inl (exec_eq_of_isRead hexec trivial)
  | relogin u p => exact .inr (avoids_finishLogin u p)
  | login u p => exact .inl (exec_eq_of_isRead hexec trivial)

/-- A call changes nothing but the session when a response that rejects a login can follow. -/
lemma keepsOrAvoids_rejectsLogin (tid : ThreadId) :
    Script.KeepsOrAvoids Response.RejectsLogin (SameButSession tid) tid := by
  intro op next db db' reply hpending hexec
  have hread (h : op.IsRead) : SameButSession tid db db' :=
    exec_eq_of_isRead hexec h ▸ .refl tid db
  cases hpending with
  | last h =>
    cases h with
    | login u p => exact .inl (exec_sameButSession hexec (.inl ⟨u, p, rfl⟩))
    | _ => exact .inr (by simp [Script.Avoids, Response.RejectsLogin])
  | authorize unauthorized hop h => exact .inl (hread trivial)
  | relogin u p => exact .inl (exec_sameButSession hexec (.inr rfl))
  | login u p => exact .inl (hread trivial)

/-! ## The session of a rejected login -/

/-- What is left of a login once the thread has no session. -/
def Script.AfterLogout (script : Script) : Prop :=
  (∃ u p, script = finishLogin u p) ∨ script = .respond (.login StatusCode.invalidCredentials)

/-- A call after which a login can be made, or rejected, leaves the thread without a session. -/
lemma Script.Pending.afterLogout {tid : ThreadId} {op : Operation} {next : Reply → Script}
    {db db' : Database} {reply : Reply} (h : (Script.call op next).Pending)
    (hout : (Script.call op next).AfterLogout → tid ∉ db.threads)
    (hexec : exec ⟨tid, op⟩ db = .ok (reply, db')) (hafter : (next reply).AfterLogout) :
    tid ∉ db'.threads := by
  cases h with
  | last h =>
    rcases hafter with ⟨u, p, hafter⟩ | hafter
    · cases hafter
    · cases h with
      | login u p =>
        have hreply : reply.isOk = false := by
          by_contra hok
          rw [Bool.not_eq_false] at hok
          simp only [hok, if_true, Script.respond.injEq, Response.login.injEq] at hafter
          exact absurd hafter (by decide)
        rw [exec_eq_of_not_isOk hexec hreply]
        exact hout (.inl ⟨u, p, (finishLogin_eq u p).symm⟩)
      | _ => simp at hafter
  | @authorize last _ unauthorized hop h =>
    cases hexec
    dsimp only at hafter
    split_ifs at hafter with hin
    · simpa [Reply.isLoggedIn, Database.isLoggedIn] using hin
    · rcases hafter with ⟨u, p, hafter⟩ | hafter
      · have hlogin : last = .login u p := (Script.call.inj hafter).1
        exact (hlogin ▸ hop : (Operation.login u p).NeedsLogin).elim
      · cases hafter
  | relogin u p =>
    cases hexec
    exact not_mem_threads_logout tid db
  | login u p =>
    cases hexec
    dsimp only at hafter
    split_ifs at hafter with hin
    · rcases hafter with ⟨u, p, hafter⟩ | hafter <;> cases hafter
    · simpa [Reply.isLoggedIn, Database.isLoggedIn] using hin

/-- A handler does not start behind a logout. -/
lemma Handling.not_afterLogout {type : MessageType} {body : ByteString} {script : Script}
    (h : Handling type body script) : ¬ script.AfterLogout := by
  rintro (⟨u, p, rfl⟩ | rfl) <;> cases h

/-- A thread that is not in `threads_` has no session. -/
lemma session_eq_none_iff {tid : ThreadId} {db : Database} :
    db.threads[tid]? = none ↔ tid ∉ db.threads := by
  rw [ExtTreeMap.mem_iff_isSome_getElem?, Option.not_isSome_iff_eq_none]

/-- A login that is rejected leaves the thread without a session. -/
lemma not_mem_threads_of_run {tid : ThreadId} {actions : List Action} {w w' : ServerState}
    {script script' : Script} (hrun : run serverStep actions w = .ok w')
    (hcalls : ∀ action ∈ actions, action.thread = tid → action = .call tid)
    (hphase : w.phase tid = .handling script) (hpending : script.Pending)
    (hout : script.AfterLogout → tid ∉ w.db.threads)
    (hphase' : w'.phase tid = .handling script') (hafter : script'.AfterLogout) :
    tid ∉ w'.db.threads := by
  obtain ⟨last, hlast, -, hfresh⟩ := handling_of_run
    (Q := fun script session => script.Pending ∧ (script.AfterLogout → session = none))
    (fun op next db db' reply h hexec => ⟨h.1.next reply, fun hafter =>
      session_eq_none_iff.mpr (h.1.afterLogout
        (fun hcall => session_eq_none_iff.mp (h.2 hcall)) hexec hafter)⟩)
    hrun hcalls hphase
    ⟨hpending, fun hscript => session_eq_none_iff.mpr (hout hscript)⟩
  rw [hphase'] at hlast
  exact session_eq_none_iff.mp (hfresh (Phase.handling.inj hlast ▸ hafter))

/-! ## Answered messages -/

/-- The steps from the receipt of a message to its answer: in between, the thread makes the calls of
the handler, and the other threads do whatever they do. -/
def exchange (tid : ThreadId) (version : UInt16) (type : MessageType) (body : ByteString)
    (between : List Action) (sent : Bool) : List Action :=
  .receive tid version type body :: (between ++ [Action.respond tid sent])

/-- In the state `w` the thread `tid` receives a message and answers it with `r`, which leads to the
state `w'`. -/
def AnswersWith (tid : ThreadId) (version : UInt16) (type : MessageType) (body : ByteString)
    (between : List Action) (sent : Bool) (r : Response) (w w' : ServerState) : Prop :=
  (∀ action ∈ between, action.thread = tid → action = .call tid) ∧
    ∃ w₂, run serverStep (.receive tid version type body :: between) w = .ok w₂ ∧
      serverStep (.respond tid sent) w₂ = .ok (some r, w')

/-- A message received starts a handler, or is turned down for its version. -/
lemma of_receive {tid : ThreadId} {version : UInt16} {type : MessageType} {body : ByteString}
    {w w' : ServerState} {r : Option Response}
    (hstep : serverStep (.receive tid version type body) w = .ok (r, w')) :
    w'.db = w.db ∧ (w'.phase tid = .rejecting ∨
      w'.phase tid = .handling (handleMessage type body)) := by
  cases serverStep_effect hstep with
  | wrongVersion _ _ _ _ ha hphase hversion =>
    cases ha
    exact ⟨rfl, .inl (ServerState.phase_withPhase_self _ _ _)⟩
  | received _ _ _ ha hphase hbody =>
    cases ha
    exact ⟨rfl, .inr (ServerState.phase_withPhase_self _ _ _)⟩
  | _ => contradiction

/-- A response built is that of the handler, or says that the body or the version is invalid. -/
lemma of_respond {tid : ThreadId} {sent : Bool} {w w' : ServerState} {r : Response}
    (hstep : serverStep (.respond tid sent) w = .ok (some r, w')) :
    w'.db = w.db ∧ (w.phase tid = .rejecting ∧ r = .wrongVersion protocolVersion ∨
      ∃ script, w.phase tid = .handling script ∧
        (script = .respond r ∨ script = .failed .bodyError ∧ r = .invalidBody)) := by
  cases serverStep_effect hstep with
  | responded _ _ _ ha hphase =>
    cases ha
    exact ⟨rfl, .inr ⟨_, hphase, .inl rfl⟩⟩
  | rejectedBody _ _ ha hphase =>
    cases ha
    exact ⟨rfl, .inr ⟨_, hphase, .inr ⟨rfl, rfl⟩⟩⟩
  | rejectedVersion _ _ ha hphase =>
    cases ha
    exact ⟨rfl, .inl ⟨hphase, rfl⟩⟩

/-- While a version is being turned down, the thread makes no calls. -/
lemma guarded_of_rejecting {tid : ThreadId} {R : Database → Database → Prop}
    {actions : List Action} {w w' : ServerState} (hrun : run serverStep actions w = .ok w')
    (hcalls : ∀ action ∈ actions, action.thread = tid → action = .call tid)
    (hphase : w.phase tid = .rejecting) :
    w'.phase tid = .rejecting ∧ Guarded serverStep (StepKeeps tid R) actions w := by
  induction actions generalizing w with
  | nil =>
    cases hrun
    exact ⟨hphase, trivial⟩
  | cons action actions ih =>
    obtain ⟨r, w₁, hstep, hrest⟩ := run_cons_eq_ok.mp hrun
    obtain ⟨hcall, hcalls'⟩ := List.forall_mem_cons.mp hcalls
    by_cases hthread : action.thread = tid
    · obtain rfl : action = .call tid := hcall hthread
      simp [serverStep, hphase] at hstep
    · have hphase₁ := (others_of_serverStep hstep (Ne.symm hthread)).1.trans hphase
      obtain ⟨hend, hguard⟩ := ih hrest hcalls' hphase₁
      exact ⟨hend, (guarded_cons hstep).mpr ⟨fun h => absurd h hthread, hguard⟩⟩

/-- The steps of a thread that keep a relation keep it from the first state to the last, when no
other thread acts. -/
lemma of_guarded_alone {tid : ThreadId} {R : Database → Database → Prop} (hrefl : ∀ db, R db db)
    (htrans : ∀ db db' db'', R db db' → R db' db'' → R db db'') {actions : List Action}
    {w w' : ServerState} (hguard : Guarded serverStep (StepKeeps tid R) actions w)
    (halone : ∀ action ∈ actions, action.thread = tid) (hrun : run serverStep actions w = .ok w') :
    R w.db w'.db := by
  induction actions generalizing w with
  | nil =>
    cases hrun
    exact hrefl _
  | cons action actions ih =>
    obtain ⟨r, w₁, hstep, hrest⟩ := run_cons_eq_ok.mp hrun
    obtain ⟨hkeeps, hguard'⟩ := (guarded_cons hstep).mp hguard
    obtain ⟨hown, halone'⟩ := List.forall_mem_cons.mp halone
    exact htrans _ _ _ (hkeeps hown r w₁ hstep) (ih hguard' halone' hrest)

section Answered

variable {tid : ThreadId} {version : UInt16} {type : MessageType} {body : ByteString}
  {between : List Action} {sent : Bool} {r : Response} {w w' : ServerState}

/-- The steps of an answered message lead from the state before it to the state after it. -/
lemma AnswersWith.run_exchange
    (h : AnswersWith tid version type body between sent r w w') :
    run serverStep (exchange tid version type body between sent) w = .ok w' := by
  obtain ⟨-, w₂, hrun, hrespond⟩ := h
  exact run_concat_eq_ok.mpr ⟨w₂, some r, hrun, hrespond⟩

/-- When a handler keeps a relation wherever a response in `P` can follow, the steps of a message
that is answered with such a response keep it. -/
lemma AnswersWith.guarded {P : Response → Prop} {R : Database → Database → Prop}
    (h : AnswersWith tid version type body between sent r w w')
    (hkeeps : Script.KeepsOrAvoids P R tid) (hrefl : ∀ db, R db db) (hr : P r) :
    Guarded serverStep (StepKeeps tid R) (exchange tid version type body between sent) w := by
  obtain ⟨hcalls, w₂, hrun, hrespond⟩ := h
  obtain ⟨r₁, w₁, hreceive, hbetween⟩ := run_cons_eq_ok.mp hrun
  obtain ⟨hdb₁, hphase₁⟩ := of_receive hreceive
  obtain ⟨hdb', hphase₂⟩ := of_respond hrespond
  have hlast : Guarded serverStep (StepKeeps tid R) [Action.respond tid sent] w₂ := by
    refine (guarded_cons hrespond).mpr ⟨fun _ r' v hstep => ?_, trivial⟩
    obtain ⟨-, rfl⟩ : some r = r' ∧ w' = v := by simpa [hrespond] using hstep
    exact hdb' ▸ hrefl w₂.db
  refine (guarded_cons hreceive).mpr ⟨fun _ r' v hstep => ?_, ?_⟩
  · obtain ⟨-, rfl⟩ : r₁ = r' ∧ w₁ = v := by simpa [hreceive] using hstep
    exact hdb₁ ▸ hrefl w.db
  · refine (guarded_append hbetween).mpr ⟨?_, hlast⟩
    rcases hphase₁ with hphase₁ | hphase₁
    · exact (guarded_of_rejecting hbetween hcalls hphase₁).2
    · have hpending := (handling_handleMessage type body).pending
      rcases hphase₂ with ⟨hphase₂, -⟩ | ⟨script, hphase₂, hscript⟩
      · obtain ⟨script, hscript, -⟩ := handling_of_run (Q := fun _ _ => True)
          (fun _ _ _ _ _ _ _ => trivial) hbetween hcalls hphase₁ trivial
        rw [hphase₂] at hscript
        cases hscript
      · refine guarded_of_keepsOrAvoids hkeeps hbetween hcalls hphase₁ hpending hphase₂ ?_
        rcases hscript with rfl | ⟨rfl, rfl⟩
        · exact not_not_intro hr
        · exact fun havoids => havoids rfl hr

/-- A login is rejected where the thread has no session. -/
lemma AnswersWith.not_mem_threads (h : AnswersWith tid version type body between sent r w w')
    (hr : r.RejectsLogin) : tid ∉ w'.db.threads := by
  obtain ⟨hcalls, w₂, hrun, hrespond⟩ := h
  obtain ⟨r₁, w₁, hreceive, hbetween⟩ := run_cons_eq_ok.mp hrun
  obtain ⟨-, hphase₁⟩ := of_receive hreceive
  obtain ⟨hdb', hphase₂⟩ := of_respond hrespond
  have hstart := handling_handleMessage type body
  rw [hdb']
  rcases hphase₂ with ⟨-, hversion⟩ | ⟨script, hphase₂, hscript⟩
  · cases hr.symm.trans hversion
  · rcases hphase₁ with hphase₁ | hphase₁
    · rw [(guarded_of_rejecting (R := Eq) hbetween hcalls hphase₁).1] at hphase₂
      cases hphase₂
    · refine not_mem_threads_of_run hbetween hcalls hphase₁ hstart.pending
        (fun hafter => absurd hafter hstart.not_afterLogout) hphase₂ ?_
      rcases hscript with rfl | ⟨-, hbody⟩
      · exact .inr (congrArg Script.respond hr)
      · cases hr.symm.trans hbody

/-- A message that is answered with a wrong version, an invalid type or an invalid body, or with a
response other than a login's whose status code is not OK, changes nothing: none of the steps that
its thread makes from the receipt to the answer changes the database.  A login that is answered with
invalid credentials changes nothing but the session of its thread, which has none in the end.  In
particular this is what becomes of the database if no other thread acts meanwhile.  If the
connection ends after the answer, that changes nothing but its session. -/
theorem rejected_intact (h : AnswersWith tid version type body between sent r w w') :
    (r.Rejects →
      Guarded serverStep (StepKeeps tid fun db db' => db' = db)
        (exchange tid version type body between sent) w) ∧
    (r.RejectsLogin →
      Guarded serverStep (StepKeeps tid (SameButSession tid))
        (exchange tid version type body between sent) w ∧ tid ∉ w'.db.threads) ∧
    ((∀ action ∈ between, action.thread = tid) →
      (r.Rejects → w'.db = w.db) ∧ (r.RejectsLogin → SameButSession tid w.db w'.db)) ∧
    ∀ r' w'', serverStep (.finish tid) w' = .ok (r', w'') → SameButSession tid w'.db w''.db := by
  have hrejects (hr : r.Rejects) := h.guarded (keepsOrAvoids_rejects tid) (fun _ => rfl) hr
  have hlogin (hr : r.RejectsLogin) :=
    h.guarded (keepsOrAvoids_rejectsLogin tid) (SameButSession.refl tid) hr
  refine ⟨hrejects, fun hr => ⟨hlogin hr, h.not_mem_threads hr⟩, fun halone => ?_, ?_⟩
  · have halone' : ∀ action ∈ exchange tid version type body between sent,
        action.thread = tid := by
      intro action haction
      simp only [exchange, List.mem_cons, List.mem_append, List.not_mem_nil, or_false] at haction
      rcases haction with rfl | haction | rfl
      · rfl
      · exact halone action haction
      · rfl
    refine ⟨fun hr => ?_, fun hr => ?_⟩
    · exact of_guarded_alone (R := fun db db' => db' = db) (fun _ => rfl)
        (fun _ _ _ h h' => h'.trans h) (hrejects hr) halone' h.run_exchange
    · exact of_guarded_alone (SameButSession.refl tid) (fun _ _ _ => SameButSession.trans)
        (hlogin hr) halone' h.run_exchange
  · intro r' w'' hstep
    cases serverStep_effect hstep with
    | finished _ ha hphase =>
      cases ha
      have hexec : exec ⟨tid, .logout⟩ w'.db =
          .ok (.status (w'.db.logout tid).1, (w'.db.logout tid).2) := rfl
      exact exec_sameButSession hexec (.inr rfl)
    | _ => contradiction

end Answered

/-- A user writes a text to itself, and another connection comes in. -/
def writesToItself : List Action :=
  signUp ++ [.receive 0 1 105 (pairBody writer [104, 105]), .call 0, .call 0, .respond 0 true,
    .accept 1]

/-- The other connection asks to register the name that the user has, which leaves the user and the
text as they are. -/
theorem rejected_intact_nameTaken :
    ∃ w w', run serverStep writesToItself .initial = .ok w ∧
      (w.db.users[writer]?.bind fun user => user.chats[writer]?) =
        some ⟨[⟨Text.senderYou, [104, 105]⟩, ⟨Text.senderOther, [104, 105]⟩]⟩ ∧
      AnswersWith 1 protocolVersion MessageType.registrationRequest
        (pairBody writer [98, 98, 98, 98]) [.call 1] true
        (.registration StatusCode.userExists) w w' ∧ w'.db = w.db := by
  obtain ⟨w, w', hrun, htexts, h⟩ : ∃ w w', run serverStep writesToItself .initial = .ok w ∧
      (w.db.users[writer]?.bind fun user => user.chats[writer]?) =
        some ⟨[⟨Text.senderYou, [104, 105]⟩, ⟨Text.senderOther, [104, 105]⟩]⟩ ∧
      AnswersWith 1 protocolVersion MessageType.registrationRequest
        (pairBody writer [98, 98, 98, 98]) [.call 1] true
        (.registration StatusCode.userExists) w w' :=
    ⟨_, _, rfl, rfl, by simp, _, rfl, rfl⟩
  have hrejects : (Response.registration StatusCode.userExists).Rejects := by
    change StatusCode.userExists ≠ StatusCode.ok
    decide
  exact ⟨w, w', hrun, htexts, h, ((rejected_intact h).2.2.1 (by simp [Action.thread])).1 hrejects⟩

end Chat262
