import Chat262.Foundation.PartialRun
import Chat262.Replication.Calls
import Chat262.Replication.Procedures

/-!
# Attempts of several clients

`send_request` tries one server after the other.  Here a step of a run is one attempt of one client,
so the attempts of several clients alternate as they will, and a client whose attempt has failed may
never try again, as when it is stopped itself.  The calls are handled one at a time.  Each attempt
comes with the fate of the servers while it lasts.

Whatever code runs on the servers and wherever it is cut off, it stays `Within` every preorder that
tolerates the passing of time and changes that keep the messages of a server.  So databases only
grow as far as messages are concerned: no server loses a message (`Grown`).
-/

namespace Chat262.Replication

open Foundation Comp

/-! ## Handling a call -/

section Handling

variable (fate : ℕ → ServerId → Bool)

/-- `Login`, `GetUsers` or `ReceiveMessage` on the server `me`. -/
def serveRead (me : ServerId) (op : Read) : Comp World Answer := do
  crashPoint fate me
  let p ← params me
  crashPoint fate me
  return op.perform p.db

/-- Any remote procedure on the server `me`, called by a client. -/
def serveProcedure (me : ServerId) : Procedure → Comp World Answer
  | .write op => do return .response (← handle fate me (.ofClient op))
  | .read op => serveRead fate me op

/-- The call in `send_request`, to the server `k`: the answer, or an exception. -/
def attempt (k : ServerId) (p : Procedure) (w : World) : Option Answer × World :=
  match rpc k (serveProcedure fate k p) (w.tick fate) with
  | (some (some answer), w') => (some answer, w')
  | (_, w') => (none, w')

end Handling

/-! ## Clients -/

/-- The servers, and what each client remembers. -/
structure Clients (ι : Type) where
  world : World
  /-- `curr_leader` of each client. -/
  currLeader : ι → ℕ
  /-- The request that `send_request` of each client has not got an answer to yet. -/
  pending : ι → Option Procedure

/-- An attempt of a client, and what happens to the servers in its course. -/
structure Attempt (ι : Type) where
  client : ι
  procedure : Procedure
  fate : ℕ → ServerId → Bool

/-- Freshly started servers with equal databases, and clients that have not called yet. -/
def Clients.fresh {ι : Type} (db : Db) : Clients ι := ⟨.fresh db, fun _ => 0, fun _ => none⟩

section Clients

variable {ι : Type} [DecidableEq ι]

/-- One attempt, with its answer.  A client that has called `send_request` does nothing else until
it has an answer, and one that has no server left to try does nothing at all. -/
def tryOnce (a : Attempt ι) (sys : Clients ι) : Except Unit (Option Answer × Clients ι) :=
  if h : sys.currLeader a.client < 3 ∧
      (sys.pending a.client = none ∨ sys.pending a.client = some a.procedure) then
    match attempt a.fate ⟨sys.currLeader a.client, h.1⟩ a.procedure sys.world with
    | (some answer, w) =>
      .ok (some answer, ⟨w, sys.currLeader, Function.update sys.pending a.client none⟩)
    | (none, w) =>
      .ok (none, ⟨w, Function.update sys.currLeader a.client (sys.currLeader a.client + 1),
        Function.update sys.pending a.client (some a.procedure)⟩)
  else .error ()

end Clients

/-! ## What code on the servers can do -/

/-- `S` allows that time passes, and that a server changes its memory and keeps its messages. -/
structure Tolerates (fate : ℕ → ServerId → Bool) (S : World → World → Prop) : Prop where
  tick : ∀ w : World, S w (w.tick fate)
  set : ∀ (w : World) (me : ServerId) (f : Params → Params),
    (∀ p r, p.db.messages r <+: (f p).db.messages r) → S w (w.set me f)

/-- `S` allows that time passes, and that the server `me` changes its memory and keeps its
messages. -/
structure ToleratesOn (fate : ℕ → ServerId → Bool) (S : World → World → Prop) (me : ServerId) :
    Prop where
  tick : ∀ w : World, S w (w.tick fate)
  set : ∀ (w : World) (f : Params → Params),
    (∀ p r, p.db.messages r <+: (f p).db.messages r) → S w (w.set me f)

section Tolerates

variable {fate : ℕ → ServerId → Bool} {S : World → World → Prop} {me : ServerId}

/-- What is allowed on every server is allowed on one. -/
lemma Tolerates.on (hS : Tolerates fate S) (me : ServerId) : ToleratesOn fate S me :=
  ⟨hS.tick, fun w => hS.set w me⟩

/-- A crash point is tolerated. -/
lemma within_crashPoint (hS : ToleratesOn fate S me) : Within S (crashPoint fate me) :=
  Within.proceed _ hS.tick

/-- A change that keeps the messages of the server is tolerated. -/
lemma within_setParams (hS : ToleratesOn fate S me) {f : Params → Params}
    (hf : ∀ p r, p.db.messages r <+: (f p).db.messages r) : Within S (setParams me f) :=
  Within.modify fun w => hS.set w f hf

variable [Std.Refl S] [IsTrans World S]

/-- Reading the memory of a server is tolerated. -/
lemma within_params (me : ServerId) : Within S (params me) :=
  Within.bind Within.get fun _ => Within.pure _

/-- A remote call is tolerated when the code called is. -/
lemma within_rpc {α : Type} {k : ServerId} {body : Comp World α} (hbody : Within S body) :
    Within S (rpc k body) := by
  refine Within.bind Within.get fun w => ?_
  split_ifs
  · exact Within.pure _
  · exact hbody.attempt

variable {h : ServerId → Request → Comp World Response}

/-- The loop of a leader is tolerated when its calls to the followers are. -/
lemma within_replicateLoop (hS : ToleratesOn fate S me) {js : List ServerId}
    (hh : ∀ j ∈ js, ∀ request, Within S (h j request)) (request : Request) :
    Within S (replicateLoop fate h me js request) := by
  induction js generalizing request with
  | nil => exact Within.pure _
  | cons j js ih =>
    have hrest : ∀ request, Within S (replicateLoop fate h me js request) :=
      ih fun i hi => hh i (List.mem_cons_of_mem _ hi)
    unfold replicateLoop
    refine Within.bind (within_params me) fun p => ?_
    split_ifs
    · exact hrest request
    · refine Within.bind (within_crashPoint hS) fun _ =>
        Within.bind (within_params me) fun p => ?_
      refine Within.bind (within_rpc (hh j List.mem_cons_self _)) fun reply => ?_
      refine Within.bind (within_crashPoint hS) fun _ => ?_
      cases reply with
      | none => exact Within.bind (within_setParams hS fun _ _ => List.prefix_rfl) fun _ => hrest _
      | some _ =>
        exact Within.bind (within_setParams hS fun _ _ => List.prefix_rfl) fun _ => hrest _

/-- The end of a request is tolerated. -/
lemma within_finish (hS : ToleratesOn fate S me) (request : Request) :
    Within S (finish fate me request) := by
  unfold finish
  refine Within.bind (within_crashPoint hS) fun _ => Within.bind (within_params me) fun p => ?_
  have hperform : Within S (do
      setParams me fun p => { p with db := request.write.apply p.db }
      crashPoint fate me
      return (request.write.perform p.db).1) :=
    Within.bind (within_setParams hS fun _ r => prefix_messages_apply request.write _ r) fun _ =>
      Within.bind (within_crashPoint hS) fun _ => Within.pure _
  split_ifs
  · exact Within.bind (within_crashPoint hS) fun _ => Within.pure _
  · exact Within.bind (within_setParams hS fun _ _ => List.prefix_rfl) fun _ => hperform
  · exact hperform

/-- A takeover is tolerated when its calls to the followers are. -/
lemma within_takeOver (hS : ToleratesOn fate S me)
    (hh : ∀ j ∈ followers me, ∀ request, Within S (h j request)) :
    Within S (takeOver fate h me) := by
  unfold takeOver
  refine Within.bind (within_setParams hS fun _ _ => List.prefix_rfl) fun _ =>
    Within.bind (within_params me) fun p => ?_
  cases p.lastRequest with
  | none => exact Within.pure _
  | some last =>
    exact Within.bind (within_replicateLoop hS hh last) fun _ =>
      within_setParams hS fun _ _ => List.prefix_rfl

/-- A write on a server is tolerated when its calls to the followers are. -/
lemma within_serve (hS : ToleratesOn fate S me)
    (hh : ∀ j ∈ followers me, ∀ request, Within S (h j request)) (request : Request) :
    Within S (serve fate h me request) := by
  unfold serve replicate
  refine Within.bind ?_ fun request' => within_finish hS request'
  refine Within.bind (within_params me) fun p => Within.bind ?_ fun _ => ?_
  · split_ifs
    · exact within_takeOver hS hh
    · exact Within.pure _
  · refine Within.bind (within_params me) fun p' => ?_
    split_ifs
    · exact within_replicateLoop hS hh request
    · exact Within.bind (within_setParams hS fun _ _ => List.prefix_rfl) fun _ => Within.pure _

/-- A write is tolerated when it is on its server and the servers behind. -/
lemma within_handle (hS : ∀ k, me ≤ k → ToleratesOn fate S k) (request : Request) :
    Within S (handle fate me request) := by
  have htwo (h2 : me ≤ 2) : ∀ request, Within S (handle2 fate request) :=
    within_serve (hS 2 h2) fun j hj => absurd hj List.not_mem_nil
  have hone (h1 : me ≤ 1) : ∀ request, Within S (handle1 fate request) :=
    within_serve (hS 1 h1) fun j _ => htwo (h1.trans (by decide))
  match me with
  | 2 => exact htwo le_rfl request
  | 1 => exact hone le_rfl request
  | 0 =>
    refine within_serve (hS 0 le_rfl) (fun j _ request => ?_) request
    split_ifs
    · exact hone (by decide) request
    · exact htwo (by decide) request

/-- Every procedure is tolerated. -/
lemma within_serveProcedure (hS : Tolerates fate S) (me : ServerId) (p : Procedure) :
    Within S (serveProcedure fate me p) := by
  cases p with
  | write op => exact Within.bind (within_handle (fun k _ => hS.on k) _) fun _ => Within.pure _
  | read op =>
    exact Within.bind (within_crashPoint (hS.on me)) fun _ =>
      Within.bind (within_params me) fun _ =>
        Within.bind (within_crashPoint (hS.on me)) fun _ => Within.pure _

end Tolerates

/-! ## Messages are never lost by a server -/

/-- Servers that are down stay down, and no server loses a message. -/
structure Grown (w w' : World) : Prop where
  later : Later w w'
  messages : ∀ s r, (w.server s).db.messages r <+: (w'.server s).db.messages r

instance reflGrown : Std.Refl Grown := ⟨fun w => ⟨Later.refl w, fun _ _ => List.prefix_rfl⟩⟩

instance transGrown : IsTrans World Grown :=
  ⟨fun _ _ _ h h' => ⟨h.later.trans h'.later, fun s r => (h.messages s r).trans (h'.messages s r)⟩⟩

section Grown

/-- Nothing is lost as time passes, nor by a change that keeps the messages of a server. -/
lemma tolerates_grown {fate : ℕ → ServerId → Bool} : Tolerates fate Grown where
  tick w := ⟨later_tick fate w, fun _ _ => List.prefix_rfl⟩
  set w me f hf := by
    refine ⟨fun _ hs => hs, fun s r => ?_⟩
    by_cases hs : s = me
    · rw [server_set, hs, Function.update_self]
      exact hf _ r
    · rw [server_set, Function.update_of_ne hs]

/-- No attempt loses anything. -/
lemma grown_attempt (fate : ℕ → ServerId → Bool) (k : ServerId) (p : Procedure) (w : World) :
    Grown w (attempt fate k p w).2 := by
  have hcall : Grown w (rpc k (serveProcedure fate k p) (w.tick fate)).2 :=
    IsTrans.trans w _ _ (tolerates_grown.tick w)
      (within_rpc (within_serveProcedure tolerates_grown k p) _)
  unfold attempt
  rcases hrpc : rpc k (serveProcedure fate k p) (w.tick fate) with ⟨_ | _ | answer, w'⟩ <;>
    rw [hrpc] at hcall <;> exact hcall

variable {ι : Type} [DecidableEq ι]

/-- What an attempt is to the servers. -/
lemma tryOnce_cases {a : Attempt ι} {sys sys' : Clients ι} {answer : Option Answer}
    (h : tryOnce a sys = .ok (answer, sys')) : ∃ k : ServerId,
      (k : ℕ) = sys.currLeader a.client ∧
      (sys.pending a.client = none ∨ sys.pending a.client = some a.procedure) ∧
      attempt a.fate k a.procedure sys.world = (answer, sys'.world) ∧
      sys'.currLeader = Function.update sys.currLeader a.client
        (if answer.isSome then k else k + 1) := by
  unfold tryOnce at h
  split_ifs at h with hdue
  refine ⟨⟨_, hdue.1⟩, rfl, hdue.2, ?_⟩
  split at h
  · next answer' w hattempt =>
    cases h
    exact ⟨hattempt, by simp⟩
  · next w hattempt =>
    cases h
    exact ⟨hattempt, by simp⟩

/-- No run loses anything. -/
lemma grown_of_run {calls : List (Attempt ι)} {sys sys' : Clients ι}
    (hrun : Foundation.run tryOnce calls sys = .ok sys') : Grown sys.world sys'.world := by
  refine run_invariant (G := fun _ _ => True) (P := fun t => Grown sys.world t.world) ?_
    (guarded_true calls sys) hrun (Std.Refl.refl _)
  intro a t answer t' hgrown _ hstep
  obtain ⟨k, -, -, hattempt, -⟩ := tryOnce_cases hstep
  have hnext := grown_attempt a.fate k a.procedure t.world
  rw [hattempt] at hnext
  exact IsTrans.trans _ _ _ hgrown hnext

end Grown

end Chat262.Replication
