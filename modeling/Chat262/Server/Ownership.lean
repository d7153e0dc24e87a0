import Chat262.Foundation.Since
import Chat262.Server.Frames
import Chat262.Server.Histories
import Chat262.Server.ResponseSize

/-!
# Sessions belong to connections

A session is kept under the id of the connection's thread, and thread ids are used again.  Every way
out of `handle_client` goes through a logout, so the id of a new connection has no session
(`fresh_of_run`), and from then on the session is the one that the connection's own calls make of
it: `Performed.session` follows them.  A handler logs in only when its thread has no session, so a
login that fails leaves none behind.
-/

namespace Chat262

open Foundation
open Std (ExtTreeMap)

/-! ## The session that calls leave -/

/-- The session after a call of the thread itself. -/
def Performed.session (call : Performed) (session : Option ByteString) : Option ByteString :=
  match call.event.op, call.reply with
  | .login u _, .status .ok => some u
  | .login _ _, _ => none
  | .logout, _ => none
  | .deleteUser, _ => none
  | _, _ => session

/-- The call opens, closes or replaces a session. -/
def Performed.ChangesSession (call : Performed) : Prop :=
  match call.event.op with
  | .login _ _ | .logout | .deleteUser => True
  | _ => False

/-- The calls put the thread in charge of the user `name`: the last login that returns ok is one as
`name`, and no login, logout or deletion follows. -/
def PutsInCharge (name : ByteString) (calls : List Performed) : Prop :=
  ∃ before call after p, calls = before ++ call :: after ∧ call.event.op = .login name p ∧
    call.reply = .status .ok ∧ ∀ later ∈ after, ¬ later.ChangesSession

/-- The session after a call is that of a login that returns ok, or it was there before and the call
does not change it. -/
lemma Performed.session_eq_some (call : Performed) (session : Option ByteString)
    (name : ByteString) :
    call.session session = some name ↔
      (∃ p, call.event.op = .login name p ∧ call.reply = .status .ok) ∨
        session = some name ∧ ¬ call.ChangesSession := by
  obtain ⟨⟨tid, op⟩, reply⟩ := call
  unfold Performed.session Performed.ChangesSession
  cases op with
  | login u p =>
    dsimp only
    split <;> simp_all
  | _ => simp

/-- The thread is in charge of a user when there has been a login as the user since the last call
that changes the session. -/
lemma putsInCharge_iff_since (calls : List Performed) (name : ByteString) :
    PutsInCharge name calls ↔
      Since (fun call => ∃ p, call.event.op = .login name p ∧ call.reply = .status .ok)
        Performed.ChangesSession calls := by
  constructor
  · rintro ⟨before, call, after, p, hsplit, hop, hreply, hafter⟩
    exact ⟨before, call, after, hsplit, ⟨p, hop, hreply⟩, hafter⟩
  · rintro ⟨before, call, after, hsplit, ⟨p, hop, hreply⟩, hafter⟩
    exact ⟨before, call, after, p, hsplit, hop, hreply, hafter⟩

/-- Behind one more call, the thread is in charge of the user by that call, or by the calls before
it when it does not change the session. -/
lemma putsInCharge_concat (calls : List Performed) (call : Performed) (name : ByteString) :
    PutsInCharge name (calls ++ [call]) ↔
      (∃ p, call.event.op = .login name p ∧ call.reply = .status .ok) ∨
        PutsInCharge name calls ∧ ¬ call.ChangesSession := by
  rw [putsInCharge_iff_since, since_concat, putsInCharge_iff_since]

/-- The session that some calls leave, when there is none before them. -/
lemma foldl_session_eq_some {calls : List Performed} {name : ByteString} :
    calls.foldl (fun session call => call.session session) none = some name ↔
      PutsInCharge name calls := by
  induction calls using List.reverseRecOn with
  | nil => simp [PutsInCharge]
  | append_singleton calls call ih =>
    rw [List.foldl_concat, Performed.session_eq_some, putsInCharge_concat, ih]

/-- A call leaves the thread with the session it should, as long as it does not log in a thread that
has a session. -/
lemma session_of_exec_self {e : Event} {db db' : Database} {reply : Reply}
    (h : exec e db = .ok (reply, db')) (hlogin : ∀ u p, e.op = .login u p → e.tid ∉ db.threads) :
    db'.threads[e.tid]? = Performed.session ⟨e, reply⟩ db.threads[e.tid]? := by
  cases exec_effect h with
  | rejected hwhy =>
    unfold Performed.session
    cases hop : e.op with
    | login u p => simpa using hlogin u p hop
    | logout =>
      simp only [Refused, hop] at hwhy
      simpa using hwhy
    | deleteUser =>
      simp only [Refused, hop] at hwhy
      simpa using hwhy
    | _ => rfl
  | registered u p hop hnew hpast => simp [Performed.session, hop]
  | loggedIn u p user hop hout huser hpass =>
    simp only [Performed.session, hop, ExtTreeMap.getElem?_insertIfNew, Std.ReflCmp.compare_self,
      hout, not_false_eq_true, and_self, if_true]
  | loggedOut hop hin => simp [Performed.session, hop]
  | sent r txt name sender hop hsession hsender hr => simp [Performed.session, hop]
  | deleted name u users hop hsession huser hloop => simp [Performed.session, hop]
  | read reply hread =>
    unfold Performed.session
    cases hop : e.op <;> simp_all [Operation.IsRead]

/-! ## Handlers log in only without a session -/

/-- A thread whose next call is a login has no session. -/
def LoginsFresh (w : ServerState) : Prop :=
  ∀ tid u p next, w.phase tid = .handling (.call (.login u p) next) → tid ∉ w.db.threads

/-- A thread id that no connection has has no session. -/
def IdleFresh (w : ServerState) : Prop := ∀ tid, w.phase tid = .idle → tid ∉ w.db.threads

/-- Whether a thread has a session depends on its entry only. -/
lemma not_mem_threads_of_eq {tid : ThreadId} {db db' : Database}
    (h : db'.threads[tid]? = db.threads[tid]?) (hnot : tid ∉ db.threads) : tid ∉ db'.threads := by
  rw [ExtTreeMap.mem_iff_isSome_getElem?] at hnot ⊢
  rwa [h]

/-- What is left of a handler asks for a login only behind a call that leaves no session. -/
lemma Script.Pending.login_fresh {tid : ThreadId} {op : Operation} {next : Reply → Script}
    (h : (Script.call op next).Pending) {db db' : Database} {reply : Reply}
    (hexec : exec ⟨tid, op⟩ db = .ok (reply, db')) {u p : ByteString} {next' : Reply → Script}
    (hnext : next reply = .call (.login u p) next') : tid ∉ db'.threads := by
  cases h with
  | last h => cases hnext
  | authorize unauthorized hop h =>
    dsimp only at hnext
    split_ifs at hnext
    cases hnext
    cases hop
  | relogin u' p' =>
    have hself := session_of_exec_self hexec (by simp)
    rw [ExtTreeMap.mem_iff_isSome_getElem?, hself]
    simp [Performed.session]
  | login u' p' =>
    cases hexec
    dsimp only at hnext
    split_ifs at hnext with hin
    · cases hnext
    · simp only [Reply.isLoggedIn, Database.isLoggedIn, decide_eq_true_eq] at hin
      exact hin

/-- Every step keeps the logins of handlers fresh. -/
lemma LoginsFresh.step {action : Action} {w w' : ServerState} {r : Option Response}
    (hw : LoginsFresh w)
    (hpending : ∀ tid script, w.phase tid = .handling script → script.Pending)
    (hstep : serverStep action w = .ok (r, w')) : LoginsFresh w' := by
  intro tid u p next hphase'
  by_cases htid : tid = action.thread
  · subst htid
    rcases handling_of_serverStep hstep hphase' with
      ⟨type, body, hscript⟩ | ⟨op, next', reply, hphase, hexec, hscript⟩
    · have hhandling := handling_handleMessage type body
      rw [← hscript] at hhandling
      cases hhandling
    · exact (hpending _ _ hphase).login_fresh hexec hscript.symm
  · obtain ⟨hphase, hsession⟩ := others_of_serverStep hstep htid
    exact not_mem_threads_of_eq hsession (hw tid u p next (hphase ▸ hphase'))

/-- A logout leaves no session. -/
lemma not_mem_threads_logout (tid : ThreadId) (db : Database) :
    tid ∉ (db.logout tid).2.threads := by
  unfold Database.logout
  split_ifs with hin
  · simp
  · exact hin

/-- Every step keeps the unused thread ids without sessions: a connection ends with a logout. -/
lemma IdleFresh.step {action : Action} {w w' : ServerState} {r : Option Response}
    (hw : IdleFresh w) (hstep : serverStep action w = .ok (r, w')) : IdleFresh w' := by
  intro tid hphase'
  by_cases htid : tid = action.thread
  · subst htid
    rw [idle_of_serverStep hstep hphase']
    exact not_mem_threads_logout _ _
  · obtain ⟨hphase, hsession⟩ := others_of_serverStep hstep htid
    exact not_mem_threads_of_eq hsession (hw tid (hphase ▸ hphase'))

/-- In every state that the server can reach, unused thread ids have no sessions, and handlers log
in only without one. -/
lemma fresh_of_run {actions : List Action} {w : ServerState}
    (hrun : run serverStep actions .initial = .ok w) : IdleFresh w ∧ LoginsFresh w := by
  refine run_history (G := fun _ _ => True) (P := fun _ w => IdleFresh w ∧ LoginsFresh w)
    ⟨?_, ?_⟩ ?_ (guarded_true actions _) hrun
  · simp [IdleFresh, ServerState.initial, Database.empty]
  · simp [LoginsFresh, ServerState.initial]
  · intro before action w₁ r w₂ hbefore ih _ hstep
    exact ⟨ih.1.step hstep,
      ih.2.step (fun _ _ hscript => pending_of_run hbefore hscript) hstep⟩

/-! ## The sessions of connections -/

/-- The calls that the thread `tid` makes in a run. -/
def callsBy (tid : ThreadId) (actions : List Action) (w : ServerState) : List Performed :=
  (callsOf actions w).filter fun call => call.event.tid = tid

/-- A step changes the session of a thread as the calls of this thread do. -/
lemma session_of_step {action : Action} {w w' : ServerState} {r : Option Response}
    (hfresh : LoginsFresh w) (hstep : serverStep action w = .ok (r, w')) (tid : ThreadId) :
    w'.db.threads[tid]? = ((performed action w).filter fun call => call.event.tid = tid).foldl
      (fun session call => call.session session) w.db.threads[tid]? := by
  have hown : ∀ call ∈ performed action w, call.event.tid = action.thread := by
    intro call hcall
    cases serverStep_effect hstep with
    | called tid' op next reply db ha hphase hexec =>
      subst ha
      simp only [performed, hphase, hexec, List.mem_singleton] at hcall
      rw [hcall]
      rfl
    | finished tid' ha hphase =>
      subst ha
      simp only [performed, List.mem_singleton] at hcall
      rw [hcall]
      rfl
    | _ =>
      subst_vars
      cases hcall
  by_cases htid : tid = action.thread
  · subst htid
    rw [List.filter_eq_self.mpr fun call hcall => by simp [hown call hcall]]
    cases serverStep_effect hstep with
    | called tid op next reply db ha hphase hexec =>
      subst ha
      simp only [performed, hphase, hexec, List.foldl_cons, List.foldl_nil]
      refine session_of_exec_self hexec ?_
      rintro u p rfl
      exact hfresh tid u p next hphase
    | finished tid ha hphase =>
      subst ha
      have hexec : exec ⟨tid, .logout⟩ w.db =
          .ok (.status (w.db.logout tid).1, (w.db.logout tid).2) := rfl
      exact session_of_exec_self hexec (by simp)
    | _ =>
      subst_vars
      rfl
  · rw [List.filter_eq_nil_iff.mpr fun call hcall => by simp [hown call hcall, Ne.symm htid]]
    exact (others_of_serverStep hstep htid).2

/-- No session leaks between connections.  When a connection is accepted, its thread id has no
session, and at every later moment the id has a session of the user `name` exactly when the calls
that the connection has made since then put it in charge of `name`: the last successful login is one
as `name`, and no logout, deletion or later login of the same connection follows. -/
theorem sessions_not_leaked {before : List Action} {w₀ w₁ : ServerState} {tid : ThreadId}
    {r : Option Response} (hbefore : run serverStep before .initial = .ok w₀)
    (haccept : serverStep (.accept tid) w₀ = .ok (r, w₁)) :
    tid ∉ w₁.db.threads ∧ ∀ after w, run serverStep after w₁ = .ok w →
      ∀ name, w.db.threads[tid]? = some name ↔ PutsInCharge name (callsBy tid after w₁) := by
  have hrun₁ : run serverStep (before ++ [.accept tid]) .initial = .ok w₁ :=
    run_concat_eq_ok.mpr ⟨w₀, r, hbefore, haccept⟩
  have hnone : tid ∉ w₁.db.threads := by
    cases hphase : w₀.phase tid <;> simp only [serverStep, hphase] at haccept <;> cases haccept
    exact (fresh_of_run hbefore).1 tid hphase
  refine ⟨hnone, ?_⟩
  intro after w hrun name
  have hsession : w.db.threads[tid]? =
      (callsBy tid after w₁).foldl (fun session call => call.session session) none := by
    refine run_history (G := fun _ _ => True)
      (P := fun after w => w.db.threads[tid]? =
        (callsBy tid after w₁).foldl (fun session call => call.session session) none)
      ?_ ?_ (guarded_true after _) hrun
    · simpa [callsBy, callsOf] using hnone
    · intro es action w₂ r' w₃ hes ih _ hstep
      have hreach : run serverStep (before ++ [.accept tid] ++ es) .initial = .ok w₂ := by
        rw [run_append hrun₁, hes]
      rw [session_of_step (fresh_of_run hreach).2 hstep, ih, callsBy, callsBy, callsOf, callsOf,
        collect_concat hes hstep, List.filter_append, List.foldl_append]
  rw [hsession, foldl_session_eq_some]

/-- A logged-in user hangs up. -/
def hungUp : List Action := signUp ++ [.hangUp 0, .finish 0]

/-- Another connection gets the same thread id and asks whom it has written to. -/
theorem sessions_not_leaked_hungUp :
    ∃ w₀ w₁ w, run serverStep hungUp .initial = .ok w₀ ∧
      serverStep (.accept 0) w₀ = .ok (none, w₁) ∧ 0 ∉ w₁.db.threads ∧
      run serverStep [.receive 0 1 107 [], .call 0] w₁ = .ok w ∧
      (w.db.threads[0]? = some writer ↔
        PutsInCharge writer (callsBy 0 [.receive 0 1 107 [], .call 0] w₁)) := by
  obtain ⟨w₀, w₁, w, hrun, haccept, hafter⟩ : ∃ w₀ w₁ w,
      run serverStep hungUp .initial = .ok w₀ ∧ serverStep (.accept 0) w₀ = .ok (none, w₁) ∧
      run serverStep [.receive 0 1 107 [], .call 0] w₁ = .ok w := ⟨_, _, _, rfl, rfl, rfl⟩
  have h := sessions_not_leaked hrun haccept
  exact ⟨w₀, w₁, w, hrun, haccept, h.1, hafter, h.2 _ w hafter writer⟩

end Chat262
