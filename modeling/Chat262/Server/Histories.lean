import Chat262.Server.Frames
import Chat262.Server.Scripts

/-!
# What the server does to the database

`serverStep_effect` is the one inversion lemma of `serverStep`: an action that is performed has one
of the `ServerEffect`s.  Two things follow from it for whole runs of the server.  The database is
always the one that a run of database operations leads to, the calls that the run has `performed`
so far, so what is known about runs of `exec` is known about the server.  And what every thread has
still to do is what can be left of a handler.
-/

namespace Chat262

open Foundation

/-! ## The effects -/

/-- What an action that is performed does: the response that is built and the next state. -/
inductive ServerEffect (action : Action) (w : ServerState) : Option Response → ServerState → Prop
  | accepted (tid : ThreadId) (ha : action = .accept tid) (hphase : w.phase tid = .idle) :
      ServerEffect action w none (w.withPhase tid .receiving)
  /-- A message with a wrong version is not looked at. -/
  | wrongVersion (tid : ThreadId) (version : UInt16) (type : MessageType) (body : ByteString)
      (ha : action = .receive tid version type body) (hphase : w.phase tid = .receiving)
      (hversion : version ≠ protocolVersion) :
      ServerEffect action w none (w.withPhase tid .rejecting)
  | received (tid : ThreadId) (type : MessageType) (body : ByteString)
      (ha : action = .receive tid protocolVersion type body) (hphase : w.phase tid = .receiving)
      (hbody : body.length < 2 ^ 32) :
      ServerEffect action w none (w.withPhase tid (.handling (handleMessage type body)))
  | called (tid : ThreadId) (op : Operation) (next : Reply → Script) (reply : Reply)
      (db : Database) (ha : action = .call tid) (hphase : w.phase tid = .handling (.call op next))
      (hexec : exec ⟨tid, op⟩ w.db = .ok (reply, db)) :
      ServerEffect action w none ({ w with db := db }.withPhase tid (.handling (next reply)))
  | responded (tid : ThreadId) (sent : Bool) (r : Response) (ha : action = .respond tid sent)
      (hphase : w.phase tid = .handling (.respond r)) :
      ServerEffect action w (some r) (w.withPhase tid (.afterSend sent))
  /-- A body that could not be decoded is answered. -/
  | rejectedBody (tid : ThreadId) (sent : Bool) (ha : action = .respond tid sent)
      (hphase : w.phase tid = .handling (.failed .bodyError)) :
      ServerEffect action w (some .invalidBody) (w.withPhase tid (.afterSend sent))
  /-- Any other failure of a handler ends the connection. -/
  | gaveUp (tid : ThreadId) (sent : Bool) (s : Status) (ha : action = .respond tid sent)
      (hphase : w.phase tid = .handling (.failed s)) (hs : s ≠ .bodyError) :
      ServerEffect action w none (w.withPhase tid .closing)
  /-- A wrong version is answered, and ends the connection. -/
  | rejectedVersion (tid : ThreadId) (sent : Bool) (ha : action = .respond tid sent)
      (hphase : w.phase tid = .rejecting) :
      ServerEffect action w (some (.wrongVersion protocolVersion)) (w.withPhase tid .closing)
  | hungUp (tid : ThreadId) (ha : action = .hangUp tid) (hphase : w.phase tid = .receiving) :
      ServerEffect action w none (w.withPhase tid .closing)
  /-- The thread logs out, and its id is free again. -/
  | finished (tid : ThreadId) (ha : action = .finish tid) (hphase : w.phase tid = .closing) :
      ServerEffect action w none ({ w with db := (w.db.logout tid).2 }.withPhase tid .idle)

/-- Every action that is performed has one of the effects. -/
theorem serverStep_effect {action : Action} {w w' : ServerState} {r : Option Response}
    (h : serverStep action w = .ok (r, w')) : ServerEffect action w r w' := by
  cases action with
  | accept tid =>
    cases hphase : w.phase tid <;> simp only [serverStep, hphase] at h <;> cases h
    exact .accepted tid rfl hphase
  | receive tid version type body =>
    cases hphase : w.phase tid <;> simp only [serverStep, hphase] at h <;> try cases h
    split_ifs at h with hversion hbody
    · cases h
      exact .wrongVersion tid version type body rfl hphase hversion
    · cases h
      rw [not_not] at hversion
      subst hversion
      exact .received tid type body rfl hphase hbody
  | call tid =>
    cases hphase : w.phase tid <;> simp only [serverStep, hphase] at h <;> try cases h
    rename_i script
    cases script with
    | call op next =>
      cases hexec : exec ⟨tid, op⟩ w.db with
      | error a => simp [hexec] at h
      | ok p =>
        obtain ⟨reply, db⟩ := p
        simp only [hexec] at h
        cases h
        exact .called tid op next reply db rfl hphase hexec
    | _ => cases h
  | respond tid sent =>
    cases hphase : w.phase tid <;> simp only [serverStep, hphase] at h <;> try cases h
    · rename_i script
      cases script with
      | respond r' =>
        cases h
        exact .responded tid sent r' rfl hphase
      | failed s =>
        dsimp only at h
        split_ifs at h with hs
        · cases h
          subst hs
          exact .rejectedBody tid sent rfl hphase
        · cases h
          exact .gaveUp tid sent s rfl hphase hs
      | _ => cases h
    · exact .rejectedVersion tid sent rfl hphase
  | hangUp tid =>
    cases hphase : w.phase tid <;> simp only [serverStep, hphase] at h <;> cases h
    exact .hungUp tid rfl hphase
  | finish tid =>
    cases hphase : w.phase tid <;> simp only [serverStep, hphase] at h <;> cases h
    exact .finished tid rfl hphase

/-- The phase of a thread after some thread has moved on. -/
lemma ServerState.phase_withPhase (w : ServerState) (tid other : ThreadId) (phase : Phase) :
    (w.withPhase tid phase).phase other = if other = tid then phase else w.phase other := by
  simp only [ServerState.withPhase, Function.update_apply]

/-- The phase that a thread has moved on to. -/
lemma ServerState.phase_withPhase_self (w : ServerState) (tid : ThreadId) (phase : Phase) :
    (w.withPhase tid phase).phase tid = phase := by
  rw [ServerState.phase_withPhase, if_pos rfl]

/-- Moving a thread on leaves the database alone. -/
@[simp] lemma ServerState.db_withPhase (w : ServerState) (tid : ThreadId) (phase : Phase) :
    (w.withPhase tid phase).db = w.db := rfl

/-- The thread of an action. -/
def Action.thread : Action → ThreadId
  | .accept tid | .receive tid _ _ _ | .call tid | .respond tid _ | .hangUp tid | .finish tid => tid

/-- A step of one thread leaves the phases and the sessions of the others alone. -/
lemma others_of_serverStep {action : Action} {w w' : ServerState} {r : Option Response}
    (hstep : serverStep action w = .ok (r, w')) {other : ThreadId}
    (hother : other ≠ action.thread) :
    w'.phase other = w.phase other ∧ w'.db.threads[other]? = w.db.threads[other]? := by
  cases serverStep_effect hstep with
  | called tid op next reply db ha hphase hexec =>
    subst ha
    have hne : other ≠ tid := hother
    refine ⟨by rw [ServerState.phase_withPhase, if_neg hne], ?_⟩
    exact session_of_exec hexec hne
  | finished tid ha hphase =>
    subst ha
    have hne : other ≠ tid := hother
    refine ⟨by rw [ServerState.phase_withPhase, if_neg hne], ?_⟩
    exact session_logout hne w.db
  | _ =>
    subst_vars
    refine ⟨?_, rfl⟩
    rw [ServerState.phase_withPhase]
    exact if_neg hother

/-! ## The calls of a run -/

/-- A database call and the reply it got. -/
structure Performed where
  event : Event
  reply : Reply
deriving DecidableEq, Repr

/-- The database call that an action makes, if it makes one. -/
def performed (action : Action) (w : ServerState) : List Performed :=
  match action with
  | .call tid =>
    match w.phase tid with
    | .handling (.call op _) =>
      match exec ⟨tid, op⟩ w.db with
      | .ok (reply, _) => [⟨⟨tid, op⟩, reply⟩]
      | .error _ => []
    | _ => []
  | .finish tid => [⟨⟨tid, .logout⟩, .status (w.db.logout tid).1⟩]
  | _ => []

/-- The database calls of a run, in order. -/
def callsOf (actions : List Action) (w : ServerState) : List Performed :=
  collect serverStep performed actions w

/-- The calls of an action lead from the database before it to the database after it. -/
lemma run_performed {action : Action} {w w' : ServerState} {r : Option Response}
    (h : serverStep action w = .ok (r, w')) :
    run exec ((performed action w).map Performed.event) w.db = .ok w'.db := by
  cases serverStep_effect h with
  | called tid op next reply db ha hphase hexec =>
    subst ha
    simp only [performed, hphase, hexec, List.map_cons, List.map_nil]
    rw [run_cons hexec]
    rfl
  | finished tid ha hphase =>
    subst ha
    rfl
  | _ =>
    subst_vars
    rfl

/-- The database of a running server is the one that its calls lead to. -/
theorem run_callsOf {actions : List Action} {w w' : ServerState}
    (hrun : run serverStep actions w = .ok w') :
    run exec ((callsOf actions w).map Performed.event) w.db = .ok w'.db := by
  refine run_history (G := fun _ _ => True)
    (P := fun actions w' =>
      run exec ((callsOf actions w).map Performed.event) w.db = .ok w'.db)
    rfl ?_ (guarded_true actions w) hrun
  intro before action w₁ r w₂ hbefore ih _ hstep
  rw [callsOf, collect_concat hbefore hstep, List.map_append, ← callsOf, run_append ih]
  exact run_performed hstep

/-! ## Scripts in a run -/

/-- A thread that is in a handler after its step has just begun it, or has made a call of it. -/
lemma handling_of_serverStep {action : Action} {w w' : ServerState} {r : Option Response}
    (hstep : serverStep action w = .ok (r, w')) {script : Script}
    (hscript : w'.phase action.thread = .handling script) :
    (∃ type body, script = handleMessage type body) ∨
      ∃ op next reply, w.phase action.thread = .handling (.call op next) ∧
        exec ⟨action.thread, op⟩ w.db = .ok (reply, w'.db) ∧ script = next reply := by
  cases serverStep_effect hstep with
  | received tid type body ha hphase hbody =>
    subst ha
    have hown := (ServerState.phase_withPhase_self w tid _).symm.trans hscript
    exact .inl ⟨type, body, (Phase.handling.inj hown).symm⟩
  | called tid op next reply db ha hphase hexec =>
    subst ha
    have hown := (ServerState.phase_withPhase_self _ tid _).symm.trans hscript
    exact .inr ⟨op, next, reply, hphase, hexec, (Phase.handling.inj hown).symm⟩
  | responded tid sent r' ha hphase =>
    subst ha
    have hown := (ServerState.phase_withPhase_self w tid _).symm.trans hscript
    cases sent <;> cases hown
  | rejectedBody tid sent ha hphase =>
    subst ha
    have hown := (ServerState.phase_withPhase_self w tid _).symm.trans hscript
    cases sent <;> cases hown
  | _ =>
    subst_vars
    have hown := (ServerState.phase_withPhase_self w _ _).symm.trans hscript
    cases hown

/-- A thread that is idle after its step has just ended its connection. -/
lemma idle_of_serverStep {action : Action} {w w' : ServerState} {r : Option Response}
    (hstep : serverStep action w = .ok (r, w')) (hidle : w'.phase action.thread = .idle) :
    w'.db = (w.db.logout action.thread).2 := by
  cases serverStep_effect hstep with
  | finished tid ha hphase =>
    subst ha
    rfl
  | responded tid sent r' ha hphase =>
    subst ha
    have hown := (ServerState.phase_withPhase_self w tid _).symm.trans hidle
    cases sent <;> cases hown
  | rejectedBody tid sent ha hphase =>
    subst ha
    have hown := (ServerState.phase_withPhase_self w tid _).symm.trans hidle
    cases sent <;> cases hown
  | called tid op next reply db ha hphase hexec =>
    subst ha
    have hown := (ServerState.phase_withPhase_self _ tid _).symm.trans hidle
    cases hown
  | _ =>
    subst_vars
    have hown := (ServerState.phase_withPhase_self w _ _).symm.trans hidle
    cases hown

/-- Every step of the server leaves the threads with what can be left of a handler. -/
lemma pending_of_step {action : Action} {w w' : ServerState} {r : Option Response}
    (hw : ∀ tid script, w.phase tid = .handling script → script.Pending)
    (hstep : serverStep action w = .ok (r, w')) (tid : ThreadId) (script : Script)
    (hscript : w'.phase tid = .handling script) : script.Pending := by
  by_cases htid : tid = action.thread
  · subst htid
    rcases handling_of_serverStep hstep hscript with
      ⟨type, body, rfl⟩ | ⟨op, next, reply, hphase, -, rfl⟩
    · exact (handling_handleMessage type body).pending
    · exact (hw _ _ hphase).next reply
  · exact hw tid script ((others_of_serverStep hstep htid).1 ▸ hscript)

/-- The server with the database `db`, before the first connection. -/
def ServerState.started (db : Database) : ServerState := ⟨db, fun _ => .idle⟩

/-- In every state that the server can reach, what a thread has still to do is what can be left of
a handler. -/
theorem pending_of_run {start : Database} {actions : List Action} {w : ServerState}
    (hrun : run serverStep actions (.started start) = .ok w) {tid : ThreadId} {script : Script}
    (hscript : w.phase tid = .handling script) : script.Pending := by
  have hinv : ∀ tid script, w.phase tid = .handling script → script.Pending :=
    run_invariant (G := fun _ _ => True)
      (P := fun w => ∀ tid script, w.phase tid = .handling script → script.Pending)
      (fun _ _ _ _ hw _ hstep => pending_of_step hw hstep) (guarded_true actions _) hrun
      (by simp [ServerState.started])
  exact hinv tid script hscript

/-- A registration that a running server performs has passed the checks of the handler. -/
theorem checked_of_run {actions : List Action} {w : ServerState}
    (hrun : run serverStep actions .initial = .ok w) :
    ∀ call ∈ callsOf actions .initial, ∀ u p, call.event.op = .registration u p →
      PassesChecks u p := by
  refine run_history (G := fun _ _ => True)
    (P := fun actions _ => ∀ call ∈ callsOf actions .initial, ∀ u p,
      call.event.op = .registration u p → PassesChecks u p)
    (by simp [callsOf]) ?_ (guarded_true actions _) hrun
  intro before action w₁ r w₂ hbefore ih _ hstep call hcall u p hop
  rw [callsOf, collect_concat hbefore hstep] at hcall
  rcases List.mem_append.mp hcall with hcall | hcall
  · exact ih call hcall u p hop
  · cases serverStep_effect hstep with
    | called tid op next reply db ha hphase hexec =>
      subst ha
      simp only [performed, hphase, hexec, List.mem_singleton] at hcall
      subst hcall
      subst hop
      cases pending_of_run hbefore hphase with
      | last h =>
        cases h with
        | registration _ _ hchecks => exact hchecks
    | finished tid ha hphase =>
      subst ha
      simp only [performed, List.mem_singleton] at hcall
      subst hcall
      cases hop
    | _ =>
      subst_vars
      simp [performed] at hcall

end Chat262
