import Chat262.Server.Serial

/-!
# Request handlers are serializable

A handler takes the mutex once for every call, so calls of other threads may come in between.  Only
the last call of a handler touches more than the thread's own session; the calls before it ask for
the session and may close it, which no other thread notices.  So every request takes effect in one
moment, with the call that leaves nothing but a response, or at once if it needs no call, and the
order of these moments is an order in which the requests can be served one at a time.

`Serializes` relates a run of the server to the one-at-a-time execution of the requests that have
taken effect so far.  A request that is still to take effect has not been served there; `Resumes`
says that serving it from its beginning will be the same as going on with what is left of it.
-/

namespace Chat262

open Foundation
open Std (ExtTreeMap)

/-! ## Calls that touch the own session only -/

/-- The calls in front of the last call of a handler. -/
def Operation.IsLocal : Operation → Prop
  | .isLoggedIn | .logout => True
  | _ => False

/-- The databases differ in the session of the thread `tid` at most. -/
structure DiffersIn (tid : ThreadId) (db db' : Database) : Prop where
  users : db'.users = db.users
  historicalUsers : db'.historicalUsers = db.historicalUsers
  others : ∀ other, other ≠ tid → db'.threads[other]? = db.threads[other]?

/-- A local call gives the same reply, and leaves the same session, in every database where the
thread has the same session, and changes nothing else. -/
lemma exec_local {tid : ThreadId} {op : Operation} (hop : op.IsLocal) {db d : Database}
    {reply : Reply} (hexec : exec ⟨tid, op⟩ db = .ok (reply, d)) {db' : Database}
    (hsession : db'.threads[tid]? = db.threads[tid]?) :
    ∃ d', exec ⟨tid, op⟩ db' = .ok (reply, d') ∧ d'.threads[tid]? = d.threads[tid]? ∧
      DiffersIn tid db' d' := by
  have hmem : tid ∈ db'.threads ↔ tid ∈ db.threads := by
    rw [ExtTreeMap.mem_iff_isSome_getElem?, ExtTreeMap.mem_iff_isSome_getElem?, hsession]
  cases op with
  | isLoggedIn =>
    simp only [exec, Database.isLoggedIn, ← hmem] at hexec ⊢
    cases hexec
    exact ⟨db', rfl, hsession, rfl, rfl, fun _ _ => rfl⟩
  | logout =>
    by_cases hin : tid ∈ db.threads
    · simp only [exec, Database.logout, if_pos hin, if_pos (hmem.mpr hin)] at hexec ⊢
      cases hexec
      refine ⟨_, rfl, by simp, rfl, rfl, ?_⟩
      intro other hother
      simp [ExtTreeMap.getElem?_erase, Ne.symm hother]
    · have hin' : tid ∉ db'.threads := fun h => hin (hmem.mp h)
      simp only [exec, Database.logout, if_neg hin, if_neg hin'] at hexec ⊢
      cases hexec
      exact ⟨db', rfl, hsession, rfl, rfl, fun _ _ => rfl⟩
  | _ => cases hop

/-- A call after which another call follows is local. -/
lemma Script.Pending.isLocal {op op' : Operation} {next next' : Reply → Script}
    (h : (Script.call op next).Pending) {reply : Reply} (hnext : next reply = .call op' next') :
    op.IsLocal := by
  cases h with
  | last h => cases hnext
  | authorize unauthorized hop h => trivial
  | relogin u p => trivial
  | login u p => trivial

/-! ## Going on with a request -/

/-- In every database where the thread has the session `session`, serving `script` is going on with
`rest` from a database that differs in the thread's session, which is `session'`, at most. -/
def Resumes (tid : ThreadId) (script rest : Script) (session session' : Option ByteString) : Prop :=
  ∀ db : Database, db.threads[tid]? = session → ∃ db', script.serve tid db = rest.serve tid db' ∧
    db'.threads[tid]? = session' ∧ DiffersIn tid db db'

/-- A request of which nothing is done yet. -/
lemma resumes_refl (tid : ThreadId) (script : Script) (session : Option ByteString) :
    Resumes tid script script session session :=
  fun db hdb => ⟨db, rfl, hdb, rfl, rfl, fun _ _ => rfl⟩

/-- After a local call there is one call less to go on with. -/
lemma Resumes.call {tid : ThreadId} {script : Script} {op : Operation} {next : Reply → Script}
    {session : Option ByteString} {db d : Database}
    (h : Resumes tid script (.call op next) session db.threads[tid]?) (hop : op.IsLocal)
    {reply : Reply} (hexec : exec ⟨tid, op⟩ db = .ok (reply, d)) :
    Resumes tid script (next reply) session d.threads[tid]? := by
  intro db₁ hdb₁
  obtain ⟨db₂, hserve, hsession, hdiff⟩ := h db₁ hdb₁
  obtain ⟨d₂, hexec₂, hsession₂, hdiff₂⟩ := exec_local hop hexec hsession
  refine ⟨d₂, ?_, hsession₂, ?_⟩
  · rw [hserve, Script.serve, hexec₂]
  · constructor
    case users => rw [hdiff₂.users, hdiff.users]
    case historicalUsers => rw [hdiff₂.historicalUsers, hdiff.historicalUsers]
    case others =>
      intro other hother
      rw [hdiff₂.others other hother, hdiff.others other hother]

/-- The response that a thread is about to send. -/
def Phase.unsent : Phase → List Response
  | .handling (.respond r) => [r]
  | .handling (.failed s) => if s = .bodyError then [.invalidBody] else []
  | .rejecting => [.wrongVersion protocolVersion]
  | _ => []

/-- There is at most one such response. -/
lemma Phase.length_unsent_le (phase : Phase) : phase.unsent.length ≤ 1 := by
  unfold Phase.unsent
  split
  · simp
  · split_ifs <;> simp
  · simp
  · simp

/-- Nothing is left of the request but a response. -/
def Script.Done : Script → Prop
  | .respond _ | .failed _ => True
  | _ => False

/-- What can be left of a handler is done, or a call is next. -/
lemma Script.Pending.done_or_call {script : Script} (h : script.Pending) :
    script.Done ∨ ∃ op next, script = .call op next := by
  cases h with
  | respond r => exact .inl trivial
  | failed => exact .inl trivial
  | _ => exact .inr ⟨_, _, rfl⟩

/-- Serving what is done builds the response and leaves the database alone. -/
lemma Script.Done.serve {script : Script} (h : script.Done) (tid : ThreadId) (db : Database) :
    ∃ r, script.serve tid db = .ok (r, db) ∧ r.toList = (Phase.handling script).unsent := by
  cases script with
  | respond r => exact ⟨some r, rfl, rfl⟩
  | failed s =>
    by_cases hs : s = .bodyError
    · exact ⟨some .invalidBody, if_pos hs, by simp [Phase.unsent, hs]⟩
    · exact ⟨none, if_neg hs, by simp [Phase.unsent, hs]⟩
  | _ => cases h

/-! ## The relation -/

/-- How far a thread is: `arrived` are its requests and `got` the responses it has built; `done` are
the requests that have been served one at a time and `answered` the responses to them.  The thread
has the session `session` there, and `session'` in the running server. -/
def Progress (tid : ThreadId) (phase : Phase) (session session' : Option ByteString)
    (arrived done : List Task) (got answered : List Response) : Prop :=
  match phase with
  | .handling (.call op next) => ∃ type body,
    arrived = done ++ [.request tid protocolVersion type body] ∧ answered = got ∧
      Resumes tid (handleMessage type body) (.call op next) session session'
  | phase => arrived = done ∧ answered = got ++ phase.unsent ∧ session = session'

/-- The thread is not in front of a call. -/
def Phase.Settled (phase : Phase) : Prop := ∀ op next, phase ≠ .handling (.call op next)

/-- A thread without a connection. -/
lemma Phase.settled_idle : Phase.idle.Settled := fun _ _ h => by cases h

/-- A thread that waits for a message. -/
lemma Phase.settled_receiving : Phase.receiving.Settled := fun _ _ h => by cases h

/-- A thread whose connection has ended. -/
lemma Phase.settled_closing : Phase.closing.Settled := fun _ _ h => by cases h

/-- A thread that answers a wrong version. -/
lemma Phase.settled_rejecting : Phase.rejecting.Settled := fun _ _ h => by cases h

/-- After a response, whether it could be sent or not, a thread is not in front of a call, and no
response is left. -/
lemma Phase.settled_afterSend (sent : Bool) :
    (Phase.afterSend sent).Settled ∧ (Phase.afterSend sent).unsent = [] := by
  cases sent
  · exact ⟨Phase.settled_closing, rfl⟩
  · exact ⟨Phase.settled_receiving, rfl⟩

/-- A thread that is not in front of a call has had all its requests served. -/
lemma Phase.Settled.progress_iff {phase : Phase} (h : phase.Settled) {tid : ThreadId}
    {session session' : Option ByteString} {arrived done : List Task}
    {got answered : List Response} :
    Progress tid phase session session' arrived done got answered ↔
      arrived = done ∧ answered = got ++ phase.unsent ∧ session = session' := by
  unfold Progress
  split
  · rename_i op next
    exact absurd rfl (h op next)
  · rfl

/-- A handler that is done is not in front of a call. -/
lemma Script.Done.settled {script : Script} (h : script.Done) :
    (Phase.handling script).Settled := by
  rintro op next heq
  cases heq
  exact h

/-- The run of the server and the one-at-a-time execution agree. -/
structure Serializes (start : Database) (actions : List Action) (w : ServerState)
    (order : List Task) (d : Database) : Prop where
  /-- The one-at-a-time execution leads to the database `d`. -/
  ran : run serveTask order start = .ok d
  users : d.users = w.db.users
  historicalUsers : d.historicalUsers = w.db.historicalUsers
  progress : ∀ tid, Progress tid (w.phase tid) d.threads[tid]? w.db.threads[tid]?
    (requestsOf tid actions (.started start)) (tasksOf tid order)
    (responsesOf tid actions (.started start)) (servedTo tid order start)

/-- At the beginning nothing has been served. -/
lemma serializes_started (start : Database) :
    Serializes start [] (.started start) [] start := by
  refine ⟨rfl, rfl, rfl, ?_⟩
  intro tid
  exact ⟨rfl, rfl, rfl⟩

/-! ## What a step adds -/

/-- A step adds its task to the tasks of its thread. -/
lemma requestsOf_concat {actions : List Action} {action : Action} {w₀ w w' : ServerState}
    {r : Option Response} (hrun : run serverStep actions w₀ = .ok w)
    (hstep : serverStep action w = .ok (r, w')) (tid : ThreadId) :
    requestsOf tid (actions ++ [action]) w₀ =
      requestsOf tid actions w₀ ++ if action.thread = tid then action.task else [] :=
  collect_concat hrun hstep

/-- A step adds the response it builds to those of its thread. -/
lemma responsesOf_concat {actions : List Action} {action : Action} {w₀ w w' : ServerState}
    {r : Option Response} (hrun : run serverStep actions w₀ = .ok w)
    (hstep : serverStep action w = .ok (r, w')) (tid : ThreadId) :
    responsesOf tid (actions ++ [action]) w₀ =
      responsesOf tid actions w₀ ++ if action.thread = tid then r.toList else [] := by
  rw [responsesOf, collect_concat hrun hstep, built, hstep]
  rfl

/-- Serving a task adds the response to those of its thread. -/
lemma servedTo_concat {order : List Task} {task : Task} {start d d' : Database}
    {r : Option Response} (hrun : run serveTask order start = .ok d)
    (hserve : serveTask task d = .ok (r, d')) (tid : ThreadId) :
    servedTo tid (order ++ [task]) start =
      servedTo tid order start ++ if task.thread = tid then r.toList else [] := by
  rw [servedTo, collect_concat hrun hserve, served, hserve]
  rfl

/-- Serving a task adds it to those of its thread. -/
lemma tasksOf_concat (tid : ThreadId) (order : List Task) (task : Task) :
    tasksOf tid (order ++ [task]) =
      tasksOf tid order ++ if task.thread = tid then [task] else [] := by
  simp [tasksOf, List.filter_append, List.filter_cons]

namespace Serializes

variable {start d : Database} {actions : List Action} {w w' : ServerState} {order : List Task}
  {action : Action} {r : Option Response}

/-- A step with which no request takes effect. -/
lemma stay (h : Serializes start actions w order d)
    (hrun : run serverStep actions (.started start) = .ok w)
    (hstep : serverStep action w = .ok (r, w')) (husers : w'.db.users = w.db.users)
    (hhistorical : w'.db.historicalUsers = w.db.historicalUsers)
    (hown : Progress action.thread (w'.phase action.thread) d.threads[action.thread]?
      w'.db.threads[action.thread]?
      (requestsOf action.thread actions (.started start) ++ action.task)
      (tasksOf action.thread order)
      (responsesOf action.thread actions (.started start) ++ r.toList)
      (servedTo action.thread order start)) :
    Serializes start (actions ++ [action]) w' order d := by
  refine ⟨h.ran, h.users.trans husers.symm, h.historicalUsers.trans hhistorical.symm, ?_⟩
  intro tid
  rw [requestsOf_concat hrun hstep, responsesOf_concat hrun hstep]
  by_cases htid : action.thread = tid
  · rw [if_pos htid, if_pos htid]
    rw [← htid]
    exact hown
  · obtain ⟨hphase, hsession⟩ := others_of_serverStep hstep (Ne.symm htid)
    rw [if_neg htid, if_neg htid, List.append_nil, List.append_nil, hphase, hsession]
    exact h.progress tid

/-- A step with which a request of its thread takes effect: it is served now. -/
lemma commit (h : Serializes start actions w order d)
    (hrun : run serverStep actions (.started start) = .ok w)
    (hstep : serverStep action w = .ok (r, w')) {task : Task} (htask : task.thread = action.thread)
    {d' : Database} {s : Option Response} (hserve : serveTask task d = .ok (s, d'))
    (husers : d'.users = w'.db.users) (hhistorical : d'.historicalUsers = w'.db.historicalUsers)
    (hown : Progress action.thread (w'.phase action.thread) d'.threads[action.thread]?
      w'.db.threads[action.thread]?
      (requestsOf action.thread actions (.started start) ++ action.task)
      (tasksOf action.thread order ++ [task])
      (responsesOf action.thread actions (.started start) ++ r.toList)
      (servedTo action.thread order start ++ s.toList)) :
    Serializes start (actions ++ [action]) w' (order ++ [task]) d' := by
  refine ⟨?_, husers, hhistorical, ?_⟩
  · rw [run_append h.ran, run_cons hserve]
    rfl
  intro tid
  rw [requestsOf_concat hrun hstep, responsesOf_concat hrun hstep, tasksOf_concat,
    servedTo_concat h.ran hserve, htask]
  by_cases htid : action.thread = tid
  · rw [if_pos htid, if_pos htid, if_pos htid, if_pos htid]
    rw [← htid]
    exact hown
  · obtain ⟨hphase, hsession⟩ := others_of_serverStep hstep (Ne.symm htid)
    have hsession' := session_of_serveTask (show tid ≠ task.thread by rwa [htask, ne_comm]) hserve
    rw [if_neg htid, if_neg htid, if_neg htid, if_neg htid, List.append_nil, List.append_nil,
      List.append_nil, List.append_nil, hphase, hsession, hsession']
    exact h.progress tid

/-- A step between two phases that are not in front of a call, which asks nothing of the database
and moves the response to be sent from the phase to those that are built. -/
lemma move {phase phase' : Phase} (h : Serializes start actions w order d)
    (hrun : run serverStep actions (.started start) = .ok w)
    (hstep : serverStep action w = .ok (r, w.withPhase action.thread phase'))
    (hphase : w.phase action.thread = phase) (hbefore : phase.Settled) (hafter : phase'.Settled)
    (htask : action.task = []) (hunsent : phase.unsent = r.toList ++ phase'.unsent) :
    Serializes start (actions ++ [action]) (w.withPhase action.thread phase') order d := by
  refine h.stay hrun hstep rfl rfl ?_
  have hprogress := h.progress action.thread
  rw [hphase, hbefore.progress_iff] at hprogress
  obtain ⟨harrived, hanswered, hsession⟩ := hprogress
  rw [ServerState.phase_withPhase_self, hafter.progress_iff, htask]
  refine ⟨by rw [List.append_nil, harrived], ?_, hsession⟩
  rw [hanswered, hunsent, List.append_assoc]

/-- A step with which a request arrives and takes effect at once, because it asks nothing of the
database. -/
lemma take {phase : Phase} (h : Serializes start actions w order d)
    (hrun : run serverStep actions (.started start) = .ok w)
    (hstep : serverStep action w = .ok (none, w.withPhase action.thread phase)) {task : Task}
    (htask : action.task = [task]) (hthread : task.thread = action.thread)
    {s : Option Response} (hserve : serveTask task d = .ok (s, d))
    (hbefore : w.phase action.thread = .receiving) (hafter : phase.Settled)
    (hunsent : s.toList = phase.unsent) :
    Serializes start (actions ++ [action]) (w.withPhase action.thread phase) (order ++ [task])
      d := by
  refine h.commit hrun hstep hthread hserve h.users h.historicalUsers ?_
  have hprogress := h.progress action.thread
  rw [hbefore, Phase.settled_receiving.progress_iff] at hprogress
  obtain ⟨harrived, hanswered, hsession⟩ := hprogress
  rw [ServerState.phase_withPhase_self, hafter.progress_iff, htask]
  refine ⟨by rw [harrived], ?_, hsession⟩
  rw [hanswered, hunsent]
  simp [Phase.unsent]

/-- A database in which the thread has the session of the server, and which else is that of the
one-at-a-time execution, looks to the thread as that of the server. -/
lemma sameView (h : Serializes start actions w order d) {tid : ThreadId} {d' : Database}
    (hdiff : DiffersIn tid d d') (hsession : d'.threads[tid]? = w.db.threads[tid]?) :
    SameView tid w.db d' := by
  refine ⟨?_, ?_, hsession.symm⟩
  · rw [hdiff.users, h.users]
  · rw [hdiff.historicalUsers, h.historicalUsers]

/-- A call of a handler: either a call is left, and nothing takes effect, or the request is served
now. -/
lemma call (h : Serializes start actions w order d)
    (hrun : run serverStep actions (.started start) = .ok w) {tid : ThreadId} {op : Operation}
    {next : Reply → Script} (hphase : w.phase tid = .handling (.call op next))
    (hpending : (Script.call op next).Pending) {reply : Reply} {db : Database}
    (hexec : exec ⟨tid, op⟩ w.db = .ok (reply, db))
    (hw' : w' = ServerState.withPhase { w with db := db } tid (.handling (next reply)))
    (hstep : serverStep (.call tid) w = .ok (none, w')) :
    ∃ order' d', Serializes start (actions ++ [.call tid]) w' order' d' := by
  have hown : w'.phase tid = .handling (next reply) := by
    rw [hw', ServerState.phase_withPhase_self]
  have hdb : w'.db = db := by rw [hw']; rfl
  have hprogress := h.progress tid
  rw [hphase] at hprogress
  obtain ⟨type, body, harrived, hanswered, hresumes⟩ := hprogress
  rcases (hpending.next reply).done_or_call with hdone | ⟨op', next', hnext⟩
  · -- The request takes effect: what was done of it so far is done again, on the database `d`.
    obtain ⟨d₂, hserve, hsession, hdiff⟩ := hresumes d rfl
    obtain ⟨d', hexec₂, hview'⟩ :=
      (exec_of_sameView (h.sameView hdiff hsession) op).exists_ok hexec
    obtain ⟨s, hs, hunsent⟩ := hdone.serve tid d'
    have htask : serveTask (.request tid protocolVersion type body) d = .ok (s, d') := by
      simp only [serveTask, ne_eq, not_true_eq_false, if_false]
      rw [hserve, Script.serve, hexec₂]
      exact hs
    refine ⟨_, d', h.commit hrun hstep rfl htask ?_ ?_ ?_⟩
    · rw [hdb, hview'.users]
    · rw [hdb, hview'.historicalUsers]
    · change Progress tid (w'.phase tid) _ _ _ _ _ _
      rw [hown, hdone.settled.progress_iff]
      refine ⟨?_, ?_, ?_⟩
      · exact (List.append_nil _).trans harrived
      · rw [Option.toList_none, List.append_nil, hunsent]
        exact congrArg (· ++ _) hanswered
      · rw [hdb]
        exact hview'.session.symm
  · -- Another call is left.
    have hlocal := hpending.isLocal hnext
    obtain ⟨d₂, hexec₂, -, hdiff⟩ := exec_local hlocal hexec rfl
    rw [hexec] at hexec₂
    cases hexec₂
    refine ⟨order, d, h.stay hrun hstep (hdb ▸ hdiff.users) (hdb ▸ hdiff.historicalUsers) ?_⟩
    change Progress tid (w'.phase tid) _ _ _ _ _ _
    rw [hown, hnext]
    refine ⟨type, body, ?_, ?_, ?_⟩
    · exact (List.append_nil _).trans harrived
    · rw [Option.toList_none, List.append_nil]
      exact hanswered
    · rw [← hnext, hdb]
      exact hresumes.call hlocal hexec

/-- Every step of the server keeps the relation to a one-at-a-time execution, in which one more
request may have been served. -/
theorem step (h : Serializes start actions w order d)
    (hrun : run serverStep actions (.started start) = .ok w)
    (hpending : ∀ tid script, w.phase tid = .handling script → script.Pending)
    (hstep : serverStep action w = .ok (r, w')) :
    ∃ order' d', Serializes start (actions ++ [action]) w' order' d' := by
  cases serverStep_effect hstep with
  | accepted tid ha hphase =>
    subst ha
    exact ⟨order, d, h.move hrun hstep hphase Phase.settled_idle Phase.settled_receiving rfl rfl⟩
  | wrongVersion tid version type body ha hphase hversion =>
    subst ha
    exact ⟨_, d, h.take hrun hstep rfl rfl (if_pos hversion) hphase Phase.settled_rejecting rfl⟩
  | received tid type body ha hphase hbody =>
    subst ha
    rcases (handling_handleMessage type body).pending.done_or_call with hdone | ⟨op, next, hcall⟩
    · obtain ⟨s, hs, hunsent⟩ := hdone.serve tid d
      have hserve : serveTask (.request tid protocolVersion type body) d = .ok (s, d) := by
        simp only [serveTask, ne_eq, not_true_eq_false, if_false]
        exact hs
      exact ⟨_, d, h.take hrun hstep rfl rfl hserve hphase hdone.settled hunsent⟩
    · have hprogress := h.progress tid
      rw [hphase, Phase.settled_receiving.progress_iff] at hprogress
      obtain ⟨harrived, hanswered, hsession⟩ := hprogress
      refine ⟨order, d, h.stay hrun hstep rfl rfl ?_⟩
      change Progress tid ((w.withPhase tid (.handling (handleMessage type body))).phase tid)
        _ _ _ _ _ _
      rw [ServerState.phase_withPhase_self, hcall]
      refine ⟨type, body, ?_, ?_, ?_⟩
      · exact congrArg (· ++ [_]) harrived
      · rw [Option.toList_none, List.append_nil]
        simpa [Phase.unsent, Action.thread] using hanswered
      · rw [← hcall]
        exact hsession ▸ resumes_refl tid _ _
  | called tid op next reply db ha hphase hexec =>
    subst ha
    exact h.call hrun hphase (hpending tid _ hphase) hexec rfl hstep
  | responded tid sent r' ha hphase =>
    subst ha
    obtain ⟨hsettled, hunsent⟩ := Phase.settled_afterSend sent
    refine ⟨order, d, h.move hrun hstep hphase (Script.Done.settled trivial) hsettled rfl ?_⟩
    rw [hunsent]
    rfl
  | rejectedBody tid sent ha hphase =>
    subst ha
    obtain ⟨hsettled, hunsent⟩ := Phase.settled_afterSend sent
    refine ⟨order, d, h.move hrun hstep hphase (Script.Done.settled trivial) hsettled rfl ?_⟩
    rw [hunsent]
    rfl
  | gaveUp tid sent s ha hphase hs =>
    subst ha
    refine ⟨order, d, h.move hrun hstep hphase (Script.Done.settled trivial) Phase.settled_closing
      rfl ?_⟩
    simp [Phase.unsent, hs]
  | rejectedVersion tid sent ha hphase =>
    subst ha
    exact ⟨order, d,
      h.move hrun hstep hphase Phase.settled_rejecting Phase.settled_closing rfl rfl⟩
  | hungUp tid ha hphase =>
    subst ha
    exact ⟨order, d,
      h.move hrun hstep hphase Phase.settled_receiving Phase.settled_closing rfl rfl⟩
  | finished tid ha hphase =>
    subst ha
    have hprogress := h.progress tid
    rw [hphase, Phase.settled_closing.progress_iff] at hprogress
    obtain ⟨harrived, hanswered, hsession⟩ := hprogress
    have hview : SameView tid (d.logout tid).2 (w.db.logout tid).2 :=
      logout_sameView ⟨h.users, h.historicalUsers, hsession⟩
    have hserve : serveTask (.leave tid) d = .ok (none, (d.logout tid).2) := rfl
    refine ⟨_, _, h.commit hrun hstep rfl hserve hview.users hview.historicalUsers ?_⟩
    change Progress tid (ServerState.phase (ServerState.withPhase _ tid .idle) tid) _ _ _ _ _ _
    rw [ServerState.phase_withPhase_self, Phase.settled_idle.progress_iff]
    refine ⟨?_, ?_, hview.session⟩
    · exact congrArg (· ++ [_]) harrived
    · simpa [Phase.unsent, Action.thread] using hanswered

end Serializes

/-! ## Whole runs -/

/-- Every run of the server has a one-at-a-time execution of the requests that have taken effect. -/
theorem serializes_of_run {start : Database} {actions : List Action} {w : ServerState}
    (hrun : run serverStep actions (.started start) = .ok w) :
    ∃ order d, Serializes start actions w order d := by
  refine run_history (G := fun _ _ => True)
    (P := fun actions w => ∃ order d, Serializes start actions w order d)
    ⟨[], start, serializes_started start⟩ ?_ (guarded_true actions _) hrun
  intro before action w₁ r w₂ hbefore ih _ hstep
  obtain ⟨order, d, h⟩ := ih
  exact h.step hbefore (fun _ _ hscript => pending_of_run hbefore hscript) hstep

/-- When no request is being handled, the one-at-a-time execution has led to the same database. -/
lemma Serializes.eq_db {start d : Database} {actions : List Action} {w : ServerState}
    {order : List Task} (h : Serializes start actions w order d)
    (hquiet : ∀ tid, (w.phase tid).Quiet) : d = w.db := by
  have hthreads : d.threads = w.db.threads := by
    apply ExtTreeMap.ext_getElem?
    intro tid
    have hsettled : (w.phase tid).Settled := by
      intro op next hphase
      have hq := hquiet tid
      rw [hphase] at hq
      exact hq
    exact (hsettled.progress_iff.mp (h.progress tid)).2.2
  have husers := h.users
  have hhistorical := h.historicalUsers
  obtain ⟨users, historicalUsers, threads⟩ := d
  obtain ⟨⟨users', historicalUsers', threads'⟩, phase⟩ := w
  cases husers
  cases hhistorical
  cases hthreads
  rfl

/-- An action at which an operation aborts is a call of a handler. -/
lemma of_serverStep_eq_abort {action : Action} {w : ServerState} {a : Abort}
    (h : serverStep action w = .error (.abort a)) :
    ∃ tid op next, action = .call tid ∧ w.phase tid = .handling (.call op next) ∧
      exec ⟨tid, op⟩ w.db = .error a := by
  cases action with
  | call tid =>
    cases hphase : w.phase tid with
    | handling script =>
      cases script with
      | call op next =>
        cases hexec : exec ⟨tid, op⟩ w.db with
        | error a' =>
          simp only [serverStep, hphase, hexec, Except.error.injEq, Halt.abort.injEq] at h
          exact ⟨tid, op, next, rfl, hphase, h ▸ hexec⟩
        | ok p => simp [serverStep, hphase, hexec] at h
      | _ => simp [serverStep, hphase] at h
    | _ => simp [serverStep, hphase] at h
  | receive tid version type body =>
    simp only [serverStep] at h
    split at h
    · split_ifs at h
      cases h
    · cases h
  | respond tid sent =>
    simp only [serverStep] at h
    split at h
    · cases h
    · split_ifs at h
    · cases h
    · cases h
  | accept tid | hangUp tid | finish tid =>
    simp only [serverStep] at h
    split at h <;> cases h

/-- The tasks of a thread in lists of tasks of different threads, one after the other. -/
lemma tasksOf_flatMap (f : ThreadId → List Task) (hf : ∀ tid, ∀ task ∈ f tid, task.thread = tid)
    {tids : List ThreadId} (hnodup : tids.Nodup) (tid : ThreadId) :
    tasksOf tid (tids.flatMap f) = if tid ∈ tids then f tid else [] := by
  induction tids with
  | nil => rfl
  | cons t tids ih =>
    obtain ⟨hnot, hnodup⟩ := List.nodup_cons.mp hnodup
    rw [List.flatMap_cons, tasksOf, List.filter_append, ← tasksOf, ← tasksOf, ih hnodup]
    by_cases ht : t = tid
    · subst ht
      have hself : tasksOf t (f t) = f t :=
        List.filter_eq_self.mpr fun task htask => by simpa using hf t task htask
      simp [hself, hnot]
    · have hnone : tasksOf tid (f t) = [] := by
        refine List.filter_eq_nil_iff.mpr fun task htask => ?_
        rw [decide_eq_true_eq, hf t task htask]
        exact ht
      simp [hnone, Ne.symm ht]

/-- The tasks of a thread are its own. -/
lemma thread_of_mem_requestsOf {start : Database} {actions : List Action} {w : ServerState}
    (hrun : run serverStep actions (.started start) = .ok w) {tid : ThreadId} {task : Task}
    (htask : task ∈ requestsOf tid actions (.started start)) :
    task.thread = tid ∧ tid ∈ actions.map Action.thread := by
  have hhistory : ∀ task ∈ requestsOf tid actions (.started start),
      task.thread = tid ∧ tid ∈ actions.map Action.thread := by
    refine run_history (G := fun _ _ => True)
      (P := fun actions _ => ∀ task ∈ requestsOf tid actions (.started start),
        task.thread = tid ∧ tid ∈ actions.map Action.thread)
      (by simp [requestsOf]) ?_ (guarded_true actions _) hrun
    intro before action w₁ r w₂ hbefore ih _ hstep task htask
    rw [requestsOf_concat hbefore hstep] at htask
    rw [List.map_append]
    rcases List.mem_append.mp htask with hold | hnew
    · exact ⟨(ih task hold).1, List.mem_append_left _ (ih task hold).2⟩
    · split_ifs at hnew with hthread
      · subst hthread
        refine ⟨?_, by simp⟩
        cases action with
        | receive tid version type body =>
          rw [List.mem_singleton.mp hnew]
          rfl
        | finish tid =>
          rw [List.mem_singleton.mp hnew]
          rfl
        | _ => cases hnew
      · cases hnew
  exact hhistory task htask

/-- The requests served so far are the first ones of each thread, and the responses built so far are
those to them, but for at most one that is still to be sent. -/
lemma Serializes.of_progress {start d : Database} {actions : List Action} {w : ServerState}
    {order : List Task} (h : Serializes start actions w order d) (tid : ThreadId) :
    tasksOf tid order <+: requestsOf tid actions (.started start) ∧
      ∃ unsent, servedTo tid order start = responsesOf tid actions (.started start) ++ unsent ∧
        unsent.length ≤ 1 := by
  have hprogress := h.progress tid
  unfold Progress at hprogress
  split at hprogress
  · obtain ⟨type, body, harrived, hanswered, -⟩ := hprogress
    exact ⟨harrived ▸ List.prefix_append _ _, [], by rw [hanswered, List.append_nil], by simp⟩
  · obtain ⟨harrived, hanswered, -⟩ := hprogress
    exact ⟨harrived ▸ List.prefix_rfl, _, hanswered, Phase.length_unsent_le _⟩

/-- When a call of a handler aborts, serving its request after those served so far aborts as
well. -/
lemma Serializes.abort {start d : Database} {actions : List Action} {w : ServerState}
    {order : List Task} (h : Serializes start actions w order d) {tid : ThreadId} {op : Operation}
    {next : Reply → Script} (hphase : w.phase tid = .handling (.call op next)) {a : Abort}
    (hexec : exec ⟨tid, op⟩ w.db = .error a) :
    ∃ task, task.thread = tid ∧
      requestsOf tid actions (.started start) = tasksOf tid order ++ [task] ∧
      serveTask task d = .error (.abort a) := by
  have hprogress := h.progress tid
  rw [hphase] at hprogress
  obtain ⟨type, body, harrived, -, hresumes⟩ := hprogress
  obtain ⟨d₂, hserve, hsession, hdiff⟩ := hresumes d rfl
  refine ⟨.request tid protocolVersion type body, rfl, harrived, ?_⟩
  have ha' := (exec_of_sameView (h.sameView hdiff hsession) op).eq_error hexec
  simp only [serveTask, ne_eq, not_true_eq_false, if_false]
  rw [hserve, Script.serve, ha']

/-- For every run of any number of connections there is an order of their requests, the logouts at
the ends of connections included, which keeps the order of each connection.  When no request is
being handled, serving the requests one at a time in that order leads to the same database and
builds the same responses for every thread.  When an operation aborts, it aborts in the same way,
and the responses built before are the same, but for at most one for each thread that was still to
be sent. -/
theorem requests_serializable (start : Database) (actions : List Action) :
    (∀ w, run serverStep actions (.started start) = .ok w → (∀ tid, (w.phase tid).Quiet) →
      ∃ order, run serveTask order start = .ok w.db ∧
        ∀ tid, tasksOf tid order = requestsOf tid actions (.started start) ∧
          servedTo tid order start = responsesOf tid actions (.started start)) ∧
    ∀ a, run serverStep actions (.started start) = .error (.abort a) →
      ∃ order, run serveTask order start = .error (.abort a) ∧
        ∀ tid, tasksOf tid order = requestsOf tid actions (.started start) ∧
          ∃ unsent, servedTo tid order start = responsesOf tid actions (.started start) ++ unsent ∧
            unsent.length ≤ 1 := by
  constructor
  · intro w hrun hquiet
    obtain ⟨order, d, h⟩ := serializes_of_run hrun
    refine ⟨order, h.eq_db hquiet ▸ h.ran, ?_⟩
    intro tid
    have hsettled : (w.phase tid).Settled ∧ (w.phase tid).unsent = [] := by
      have hq := hquiet tid
      cases hphase : w.phase tid with
      | handling script =>
        rw [hphase] at hq
        cases hq
      | rejecting =>
        rw [hphase] at hq
        cases hq
      | _ => simp [Phase.Settled, Phase.unsent]
    obtain ⟨harrived, hanswered, -⟩ := hsettled.1.progress_iff.mp (h.progress tid)
    rw [hsettled.2, List.append_nil] at hanswered
    exact ⟨harrived.symm, hanswered⟩
  · intro a hrun
    obtain ⟨before, action, after, w, rfl, hbefore, haction⟩ := run_eq_error.mp hrun
    obtain ⟨tid, op, next, rfl, hphase, hexec⟩ := of_serverStep_eq_abort haction
    obtain ⟨order, d, h⟩ := serializes_of_run hbefore
    obtain ⟨task, hthread, harrived, habort⟩ := h.abort hphase hexec
    -- The requests that have arrived and not taken effect come last.
    let tids := (before.map Action.thread).dedup
    let missing : ThreadId → List Task := fun t =>
      (requestsOf t before (.started start)).drop (tasksOf t (order ++ [task])).length
    have hmissing : ∀ t, ∀ task ∈ missing t, task.thread = t := fun t task htask =>
      (thread_of_mem_requestsOf hbefore (List.mem_of_mem_drop htask)).1
    refine ⟨order ++ task :: tids.flatMap missing,
      run_eq_error.mpr ⟨order, task, _, d, rfl, h.ran, habort⟩, ?_⟩
    intro t
    have hprefix : tasksOf t (order ++ [task]) <+: requestsOf t before (.started start) := by
      rw [tasksOf_concat, hthread]
      by_cases ht : tid = t
      · subst ht
        rw [if_pos rfl, harrived]
      · rw [if_neg ht, List.append_nil]
        exact (h.of_progress t).1
    rw [requestsOf, responsesOf, servedTo, collect_append_of_error hbefore haction,
      collect_append_of_error hbefore haction, collect_append_of_error h.ran habort, ← requestsOf,
      ← responsesOf, ← servedTo]
    refine ⟨?_, (h.of_progress t).2⟩
    have hsplit : tasksOf t (order ++ task :: tids.flatMap missing) =
        tasksOf t (order ++ [task]) ++ tasksOf t (tids.flatMap missing) := by
      rw [tasksOf, tasksOf, tasksOf, ← List.filter_append, List.append_assoc]
      rfl
    rw [hsplit, tasksOf_flatMap missing hmissing (List.nodup_dedup _)]
    obtain ⟨rest, hrest⟩ := hprefix
    split_ifs with ht
    · change _ ++ (requestsOf t before (.started start)).drop _ = _
      rw [← hrest, List.drop_left]
    · have hnil : requestsOf t before (.started start) = [] := by
        refine List.eq_nil_iff_forall_not_mem.mpr fun task htask => ht ?_
        exact List.mem_dedup.mpr (thread_of_mem_requestsOf hbefore htask).2
      rw [hnil] at hrest ⊢
      rw [(List.append_eq_nil_iff.mp hrest).1]
      rfl

/-- The bodies of a registration and a login. -/
def credentials : ByteString := pairBody [97, 97, 97, 97] [97, 97, 97, 97]

/-- Two connections register the same name at the same time. -/
def registrationRace : List Action :=
  [.accept 0, .accept 1, .receive 0 1 101 credentials, .receive 1 1 101 credentials, .call 1,
    .call 0, .respond 0 true, .respond 1 true]

/-- Two connections log in as the same user, one deletes it while the other is in the middle of
asking for its correspondents. -/
def deletedUnderneath : List Action :=
  [.accept 0, .accept 1, .receive 0 1 101 credentials, .call 0, .respond 0 true,
    .receive 0 1 102 credentials, .receive 1 1 102 credentials, .call 0, .call 1, .call 1, .call 0,
    .respond 1 true, .respond 0 true, .receive 1 1 107 [], .receive 0 1 108 [], .call 1, .call 0,
    .call 0, .call 1]

/-- In the first run the connection that calls first gets the name, in the second one the question
for the correspondents aborts; both are served one at a time with the same results. -/
theorem requests_serializable_races :
    (∃ w order, run serverStep registrationRace (.started .empty) = .ok w ∧
      run serveTask order .empty = .ok w.db ∧ servedTo 0 order .empty =
        [.registration StatusCode.userExists]) ∧
    ∃ order, run serveTask order .empty = .error (.abort .sessionOutOfRange) ∧
      tasksOf 1 order = [.request 1 1 102 credentials, .request 1 1 107 []] := by
  constructor
  · obtain ⟨w, hrun, hphase⟩ : ∃ w,
        run serverStep registrationRace (.started .empty) = .ok w ∧
        ∀ tid, (w.phase tid).Quiet := by
      refine ⟨_, rfl, ?_⟩
      rintro (_ | _ | tid) <;> trivial
    obtain ⟨order, hserial, hsame⟩ :=
      (requests_serializable .empty registrationRace).1 w hrun hphase
    exact ⟨w, order, hrun, hserial, (hsame 0).2.trans (by decide)⟩
  · obtain ⟨order, hserial, hsame⟩ :=
      (requests_serializable .empty deletedUnderneath).2 .sessionOutOfRange rfl
    exact ⟨order, hserial, (hsame 1).1.trans (by decide)⟩

end Chat262
