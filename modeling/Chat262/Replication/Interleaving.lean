import Chat262.Foundation.PartialRun
import Chat262.Replication.Steps

/-!
# Concurrent writes at the leader

The leader handles several client requests at the same time, and nothing keeps their handlers apart.
Each handler works through its loop in small steps: it sets the counter of the request and sends it
to a follower, the follower processes it, the handler receives the reply and counts it; behind the
loop it performs the write.  A run is any order of these steps of any number of writes.  No server
fails.

The steps are made of the functions that describe the code in `Replication.Steps`, and the steps of
one write alone are what the handler does when nobody disturbs it (`handle_eq_alone`).
-/

namespace Chat262.Replication

open Foundation Comp
open scoped List

/-! ## Steps -/

/-- How far the handler of a request has got. -/
inductive Phase where
  /-- The loop has the stubs `js` left. -/
  | looping (js : List ServerId) (request : Request)
  /-- The request is on its way to `j`. -/
  | sent (j : ServerId) (js : List ServerId) (request : Request)
  /-- The reply of `j` is on its way. -/
  | replied (j : ServerId) (js : List ServerId) (request : Request)
  | answered (response : Response)

/-- All servers, and the handlers of the requests at the leader. -/
structure Net (ι : Type) where
  server : ServerId → Params
  phase : ι → Phase
  /-- The writes that each server has performed, in order. -/
  performed : ServerId → List ι

/-- The steps of the handlers. -/
inductive Event (ι : Type) where
  /-- `request.counter = g_params.counter + 1`, and the request is sent to `j`. -/
  | send (i : ι) (j : ServerId)
  /-- The server `j` processes the request. -/
  | process (i : ι) (j : ServerId)
  /-- The leader receives the reply of `j`, and does `g_params.counter += 1`. -/
  | receive (i : ι) (j : ServerId)
  /-- The leader performs the write and answers. -/
  | finish (i : ι)
deriving DecidableEq

/-- Whether a server takes a request for one that it has seen before. -/
def Params.drops (request : Request) (p : Params) : Bool :=
  !request.isClient && request.counter ≤ p.counter

section Net

variable {ι : Type} [DecidableEq ι]

/-- A handler gets on. -/
def Net.goto (net : Net ι) (i : ι) (phase : Phase) : Net ι :=
  { net with phase := Function.update net.phase i phase }

/-- A server finishes a request with the write `i`. -/
def Net.note (net : Net ι) (j : ServerId) (i : ι) (request : Request) : Net ι :=
  if (net.server j).drops request then net
  else { net with performed := Function.update net.performed j (net.performed j ++ [i]) }

/-- Change what a server keeps in memory. -/
def Net.set (net : Net ι) (j : ServerId) (p : Params) : Net ι :=
  { net with server := Function.update net.server j p }

/-- One step.  A step that is not due is refused. -/
def step : Event ι → Net ι → Except Unit (Unit × Net ι)
  | .send i j, net =>
    match net.phase i with
    | .looping (j' :: js) request =>
      if j' = j then .ok ((), net.goto i (.sent j js (request.sentBy (net.server 0))))
      else .error ()
    | _ => .error ()
  | .process i j, net =>
    match net.phase i with
    | .sent j' js request =>
      if j' = j then
        .ok ((), ((net.note j i request).set j ((net.server j).follow request)).goto i
          (.replied j js request))
      else .error ()
    | _ => .error ()
  | .receive i j, net =>
    match net.phase i with
    | .replied j' js request =>
      if j' = j then
        .ok ((), (net.set 0 (net.server 0).counted).goto i
          (.looping js { request with isClient := true }))
      else .error ()
    | _ => .error ()
  | .finish i, net =>
    match net.phase i with
    | .looping [] request =>
      .ok ((), ((net.note 0 i request).set 0 ((net.server 0).complete request)).goto i
        (.answered ((net.server 0).answer request)))
    | _ => .error ()

/-- Freshly started servers, and the requests of clients for the writes `ops` at the leader. -/
def Net.start (ops : ι → Write) (db : Db) : Net ι where
  server := fun me => .fresh me db
  phase := fun i => .looping (followers 0) (.ofClient (ops i))
  performed := fun _ => []

/-- The steps of a write that nobody disturbs. -/
def alone (i : ι) : List (Event ι) :=
  [.send i 1, .process i 1, .receive i 1, .send i 2, .process i 2, .receive i 2, .finish i]

/-- A handler that gets on is where it got to. -/
@[simp] lemma phase_goto_self (net : Net ι) (i : ι) (phase : Phase) :
    (net.goto i phase).phase i = phase := Function.update_self ..

/-- A handler that gets on leaves the servers alone. -/
@[simp] lemma server_goto (net : Net ι) (i : ι) (phase : Phase) :
    (net.goto i phase).server = net.server := rfl

omit [DecidableEq ι] in
/-- Changing the memory of a server changes the memory of that server. -/
@[simp] lemma server_net_set (net : Net ι) (j : ServerId) (p : Params) :
    (net.set j p).server = Function.update net.server j p := rfl

omit [DecidableEq ι] in
/-- Noting a write leaves the memories of the servers alone. -/
@[simp] lemma server_note (net : Net ι) (j : ServerId) (i : ι) (request : Request) :
    (net.note j i request).server = net.server := by
  unfold Net.note
  split_ifs <;> rfl

/-- A handler whose request is processed at a server gets on alone. -/
lemma phase_note_set_goto (net : Net ι) (j : ServerId) (i : ι) (request : Request) (p : Params)
    (phase : Phase) : (((net.note j i request).set j p).goto i phase).phase =
      Function.update net.phase i phase := by
  unfold Net.note
  split_ifs <;> rfl

/-- A request is sent to the next follower. -/
lemma step_send {net : Net ι} {i : ι} {j : ServerId} {js : List ServerId} {request : Request}
    (h : net.phase i = .looping (j :: js) request) :
    step (.send i j) net =
      .ok ((), net.goto i (.sent j js (request.sentBy (net.server 0)))) := by
  simp [step, h]

/-- A request is sent to the next follower only. -/
lemma eq_of_send {net net' : Net ι} {i : ι} {j : ServerId}
    (h : step (.send i j) net = .ok ((), net')) :
    ∃ js request, net.phase i = .looping (j :: js) request ∧
      net' = net.goto i (.sent j js (request.sentBy (net.server 0))) := by
  cases hphase : net.phase i with
  | looping js request =>
    cases js with
    | nil => simp [step, hphase] at h
    | cons j' js =>
      have hj : j' = j := by
        by_contra hne
        simp [step, hphase, hne] at h
      subst hj
      rw [step_send hphase] at h
      exact ⟨js, request, rfl, (congrArg Prod.snd (Except.ok.inj h)).symm⟩
  | sent | replied | answered => simp [step, hphase] at h

/-- A request is processed where it has been sent. -/
lemma step_process {net : Net ι} {i : ι} {j : ServerId} {js : List ServerId} {request : Request}
    (h : net.phase i = .sent j js request) :
    step (.process i j) net =
      .ok ((), ((net.note j i request).set j ((net.server j).follow request)).goto i
        (.replied j js request)) := by
  simp [step, h]

/-- A request is processed only where it has been sent. -/
lemma eq_of_process {net net' : Net ι} {i : ι} {j : ServerId}
    (h : step (.process i j) net = .ok ((), net')) :
    ∃ js request, net.phase i = .sent j js request ∧
      net' = ((net.note j i request).set j ((net.server j).follow request)).goto i
        (.replied j js request) := by
  cases hphase : net.phase i with
  | sent j' js request =>
    have hj : j' = j := by
      by_contra hne
      simp [step, hphase, hne] at h
    subst hj
    rw [step_process hphase] at h
    exact ⟨js, request, rfl, (congrArg Prod.snd (Except.ok.inj h)).symm⟩
  | looping | replied | answered => simp [step, hphase] at h

/-- A reply is received from where the request has been processed. -/
lemma step_receive {net : Net ι} {i : ι} {j : ServerId} {js : List ServerId} {request : Request}
    (h : net.phase i = .replied j js request) :
    step (.receive i j) net =
      .ok ((), (net.set 0 (net.server 0).counted).goto i
        (.looping js { request with isClient := true })) := by
  simp [step, h]

/-- A reply is received only from where the request has been processed. -/
lemma eq_of_receive {net net' : Net ι} {i : ι} {j : ServerId}
    (h : step (.receive i j) net = .ok ((), net')) :
    ∃ js request, net.phase i = .replied j js request ∧
      net' = (net.set 0 (net.server 0).counted).goto i
        (.looping js { request with isClient := true }) := by
  cases hphase : net.phase i with
  | replied j' js request =>
    have hj : j' = j := by
      by_contra hne
      simp [step, hphase, hne] at h
    subst hj
    rw [step_receive hphase] at h
    exact ⟨js, request, rfl, (congrArg Prod.snd (Except.ok.inj h)).symm⟩
  | looping | sent | answered => simp [step, hphase] at h

/-- A request is finished behind the loop. -/
lemma step_finish {net : Net ι} {i : ι} {request : Request}
    (h : net.phase i = .looping [] request) :
    step (.finish i) net =
      .ok ((), ((net.note 0 i request).set 0 ((net.server 0).complete request)).goto i
        (.answered ((net.server 0).answer request))) := by
  simp [step, h]

/-- A request is finished only behind the loop. -/
lemma eq_of_finish {net net' : Net ι} {i : ι} (h : step (.finish i) net = .ok ((), net')) :
    ∃ request, net.phase i = .looping [] request ∧
      net' = ((net.note 0 i request).set 0 ((net.server 0).complete request)).goto i
        (.answered ((net.server 0).answer request)) := by
  cases hphase : net.phase i with
  | looping js request =>
    cases js with
    | nil =>
      rw [step_finish hphase] at h
      exact ⟨request, rfl, (congrArg Prod.snd (Except.ok.inj h)).symm⟩
    | cons j js => simp [step, hphase] at h
  | sent | replied | answered => simp [step, hphase] at h

end Net

/-! ## The handler alone -/

section Calm

/-- The world of servers that never fail. -/
def calm (server : ServerId → Params) (clock : ℕ) : World := ⟨server, fun _ => false, clock⟩

variable {me j : ServerId} {server : ServerId → Params} {clock : ℕ} {R : World → Prop}

/-- A crash point at which nobody fails. -/
@[simp] lemma wp_crashPoint_calm {Q : Unit → World → Prop} :
    wp (crashPoint (fun _ _ => false) me) Q R (calm server clock) ↔
      Q () (calm server (clock + 1)) := Iff.rfl

/-- What the servers of a calm world keep in memory. -/
lemma calm_server : (calm server clock).server = server := rfl

/-- Changing a server's memory when nobody fails. -/
lemma calm_set (f : Params → Params) :
    (calm server clock).set me f = calm (Function.update server me (f (server me))) clock := rfl

/-- Finishing a request when nobody fails. -/
lemma wp_finish_calm {request : Request} {Q : Response → World → Prop}
    (h : Q ((server me).answer request)
      (calm (Function.update server me ((server me).complete request)) (clock + 2))) :
    wp (finish (fun _ _ => false) me request) Q R (calm server clock) := by
  unfold finish
  rw [wp_bind, wp_crashPoint_calm, wp_bind, wp_params, calm_server]
  by_cases hseen : (!request.isClient && decide (request.counter ≤ (server me).counter)) = true
  · rw [if_pos hseen, wp_bind, wp_crashPoint_calm, wp_pure]
    rwa [Params.answer, Params.complete, if_pos hseen, if_pos hseen, Function.update_eq_self] at h
  · rw [if_neg hseen]
    rw [Params.answer, Params.complete, if_neg hseen, if_neg hseen] at h
    cases hclient : request.isClient
    · rw [hclient] at h
      simp only [Bool.not_false, if_true]
      rw [wp_bind, wp_setParams, calm_set, wp_bind, wp_setParams, calm_set, Function.update_self,
        Function.update_idem, wp_bind, wp_crashPoint_calm, wp_pure]
      exact h
    · rw [hclient] at h
      simp only [Bool.not_true, Bool.false_eq_true, if_false]
      rw [wp_bind, wp_setParams, calm_set, wp_bind, wp_crashPoint_calm, wp_pure]
      exact h

/-- A remote call to a follower when nobody fails. -/
lemma wp_rpc_calm {sent : Request} {Q : Option Response → World → Prop}
    (hrole : (server j).amILeader = false) (hsent : sent.isClient = false)
    (h : ∀ r, Q (some r) (calm (Function.update server j ((server j).follow sent)) (clock + 2))) :
    wp (rpc j (handle (fun _ _ => false) j sent)) Q R (calm server clock) := by
  obtain ⟨h', hserve, -⟩ : ∃ h', handle (fun _ _ => false) j = serve (fun _ _ => false) h' j ∧
      True := by
    match j with
    | 0 | 1 | 2 => exact ⟨_, rfl, trivial⟩
  unfold rpc
  rw [wp_bind, wp_get, if_neg (by simp [calm]), wp_attempt, hserve]
  unfold serve replicate
  simp only [hsent, Bool.false_and, wp_bind, wp_params, Bool.false_eq_true, if_false, wp_pure]
  rw [calm_server, if_neg (by rw [hrole]; exact Bool.false_ne_true), wp_bind, wp_setParams,
    calm_set, wp_pure]
  refine wp_finish_calm ?_
  rw [Function.update_self, Function.update_idem]
  exact h _

/-- One round of the leader's loop when nobody fails. -/
lemma wp_replicateLoop_calm {js : List ServerId} {request : Request} {Q : Request → World → Prop}
    {h : ServerId → Request → Comp World Response} (hh : h j = handle (fun _ _ => false) j)
    (hstub : (server me).stubs request.write.service j = true) (hne : j ≠ me)
    (hrole : (server j).amILeader = false)
    (hnext : wp (replicateLoop (fun _ _ => false) h me js
        { request.sentBy (server me) with isClient := true }) Q R
      (calm (Function.update (Function.update server j
        ((server j).follow (request.sentBy (server me)))) me (server me).counted) (clock + 4))) :
    wp (replicateLoop (fun _ _ => false) h me (j :: js) request) Q R (calm server clock) := by
  unfold replicateLoop
  rw [wp_bind, wp_params, calm_server, hstub]
  simp only [Bool.not_true, Bool.false_eq_true, if_false]
  rw [wp_bind, wp_crashPoint_calm, wp_bind, wp_params, calm_server, wp_bind, hh]
  refine wp_rpc_calm hrole rfl ?_
  intro r
  rw [wp_bind, wp_crashPoint_calm, wp_bind, wp_setParams, calm_set,
    Function.update_of_ne hne.symm]
  exact hnext

/-- A write that nobody disturbs is handled as the code handles it: the steps of the write alone
leave the servers as the leader's handler leaves them when nobody fails, and with the same
answer. -/
theorem handle_eq_alone {ι : Type} [DecidableEq ι] (op : Write) (i : ι) (net : Net ι) (clock : ℕ)
    (hlead : (net.server 0).amILeader = true) (hone : (net.server 1).amILeader = false)
    (htwo : (net.server 2).amILeader = false)
    (hstubs : ∀ service j, (net.server 0).stubs service j = true)
    (hphase : net.phase i = .looping (followers 0) (.ofClient op)) :
    ∃ net' r, Foundation.run step (alone i) net = .ok net' ∧ net'.phase i = .answered r ∧
      handle (fun _ _ => false) 0 (.ofClient op) (calm net.server clock) =
        (some r, calm net'.server (clock + 10)) := by
  rw [alone, run_cons (step_send hphase), run_cons (step_process (phase_goto_self _ i _)),
    run_cons (step_receive (phase_goto_self _ i _)), run_cons (step_send (phase_goto_self _ i _)),
    run_cons (step_process (phase_goto_self _ i _)),
    run_cons (step_receive (phase_goto_self _ i _)),
    run_cons (step_finish (phase_goto_self _ i _))]
  refine ⟨_, _, rfl, phase_goto_self _ i _, eq_of_wp ?_⟩
  change wp (serve (fun _ _ => false) _ 0 _) _ _ _
  refine wp_serve.mpr (wp_replicate_leader rfl hlead ?_)
  refine wp_replicateLoop_calm rfl (hstubs _ _) (by decide) hone ?_
  refine wp_replicateLoop_calm rfl (hstubs _ _) (by decide) htwo ?_
  unfold replicateLoop
  rw [wp_pure]
  refine wp_finish_calm ?_
  simp only [server_goto, server_note, server_net_set]
  exact ⟨rfl, rfl⟩

end Calm

end Chat262.Replication
