import Chat262.Replication.Server

/-!
# What replicated code does

One lemma for each function of a server, in the form of a weakest precondition: what the function
does to a world, up to servers that stop on the way.  `wp_finish` is the end of a request, on any
server; `wp_rpc_follower` a remote call to a server that is not the leader; `wp_takeOver_cases` and
`wp_replicate_client` what a client's request makes a server do before it comes to its loop; and
`wp_replicateLoop_cons` one round of the leader's loop, with the four ways in which it can go.
Invariants are proved from these and never unfold the code.
-/

namespace Chat262.Replication

open Foundation Comp

/-! ## The servers behind a server -/

/-- A server replicates to the servers behind it. -/
lemma mem_followers {me j : ServerId} : j ∈ followers me ↔ me < j := by
  decide +revert

/-- There is only server 2 behind server 1. -/
lemma eq_two_of_one_lt {j : ServerId} (hj : 1 < j) : j = 2 := by
  decide +revert

/-! ## Moments and crash points -/

/-- In `w'`, every server is down that is down in `w`. -/
def Later (w w' : World) : Prop := ∀ s, w.crashed s = true → w'.crashed s = true

/-- A server that is up was up before. -/
lemma Later.alive {w w' : World} (h : Later w w') {s : ServerId} (hs : w'.crashed s = false) :
    w.crashed s = false := by
  by_contra hw
  rw [h s (by simpa using hw)] at hs
  cases hs

/-- Nothing changes in no time. -/
lemma Later.refl (w : World) : Later w w := fun _ hs => hs

/-- Servers stay down. -/
lemma Later.trans {w w' w'' : World} (h : Later w w') (h' : Later w' w'') : Later w w'' :=
  fun s hs => h' s (h s hs)

/-- Changing the memory of a server changes the memory of that server. -/
@[simp] lemma server_set (w : World) (me : ServerId) (f : Params → Params) :
    (w.set me f).server = Function.update w.server me (f (w.server me)) := rfl

/-- Changing the memory of a server stops nobody. -/
@[simp] lemma crashed_set (w : World) (me : ServerId) (f : Params → Params) :
    (w.set me f).crashed = w.crashed := rfl

variable {fate : ℕ → ServerId → Bool}

/-- Time changes no memory. -/
@[simp] lemma server_tick (w : World) : (w.tick fate).server = w.server := rfl

/-- Servers stay down as time passes. -/
lemma later_tick (fate : ℕ → ServerId → Bool) (w : World) : Later w (w.tick fate) := by
  intro s hs
  simp [World.tick, hs]

/-- Code that passes a crash point goes on in a later world with the same memory, unless its server
is down there. -/
lemma wp_crashPoint {me : ServerId} {Q : Unit → World → Prop} {R : World → Prop} {w : World}
    (hgo : ∀ w', Later w w' → w'.crashed me = false → w'.server = w.server → Q () w')
    (hcut : ∀ w', Later w w' → w'.crashed me = true → w'.server = w.server → R w') :
    wp (crashPoint fate me) Q R w :=
  wp_proceed (fun h => hgo _ (later_tick _ w) (by simpa using h) rfl)
    fun h => hcut _ (later_tick _ w) (by simpa using h) rfl

/-- Reading a server's memory. -/
@[simp] lemma wp_params {me : ServerId} {Q : Params → World → Prop} {R : World → Prop}
    {w : World} : wp (params me) Q R w ↔ Q (w.server me) w := by
  simp [params]

/-- Changing a server's memory. -/
@[simp] lemma wp_setParams {me : ServerId} {f : Params → Params} {Q : Unit → World → Prop}
    {R : World → Prop} {w : World} : wp (setParams me f) Q R w ↔ Q () (w.set me f) := Iff.rfl

/-! ## The end of a request -/

/-- The memory of a server after it has finished a request. -/
def Params.complete (request : Request) (p : Params) : Params :=
  if !request.isClient && request.counter ≤ p.counter then p
  else { p with
    counter := if request.isClient then p.counter else request.counter
    db := request.write.apply p.db }

/-- The response of a server that finishes a request. -/
def Params.answer (request : Request) (p : Params) : Response :=
  if !request.isClient && request.counter ≤ p.counter then request.write.seen
  else (request.write.perform p.db).1

/-- Finishing a request changes the memory of the server that does it. -/
lemma wp_finish {me : ServerId} {request : Request} {Q : Response → World → Prop}
    {R : World → Prop} {w : World}
    (hgo : ∀ w', Later w w' → w'.crashed me = false →
      w'.server = Function.update w.server me ((w.server me).complete request) →
      Q ((w.server me).answer request) w')
    (hcut : ∀ w', Later w w' → w'.crashed me = true → (∀ s, s ≠ me → w'.server s = w.server s) →
      R w') : wp (finish fate me request) Q R w := by
  unfold finish
  rw [wp_bind]
  refine wp_crashPoint ?_ fun w₁ h₁ hdown hsame₁ => hcut w₁ h₁ hdown fun s _ => by rw [hsame₁]
  intro w₁ h₁ _ hsame₁
  rw [wp_bind, wp_params, hsame₁]
  by_cases hseen : (!request.isClient && decide (request.counter ≤ (w.server me).counter)) = true
  · rw [if_pos hseen, wp_bind]
    refine wp_crashPoint ?_ fun w₂ h₂ hdown hsame₂ =>
      hcut w₂ (h₁.trans h₂) hdown fun s _ => by rw [hsame₂, hsame₁]
    intro w₂ h₂ halive hsame₂
    have hanswer : (w.server me).answer request = request.write.seen := if_pos hseen
    have hcomplete : (w.server me).complete request = w.server me := if_pos hseen
    rw [wp_pure, ← hanswer]
    refine hgo w₂ (h₁.trans h₂) halive ?_
    rw [hcomplete, Function.update_eq_self, hsame₂, hsame₁]
  · rw [if_neg hseen]
    have hanswer : (w.server me).answer request = (request.write.perform (w.server me).db).1 :=
      if_neg hseen
    -- The two assignments together make up the completed memory.
    have hrest : ∀ w₂ : World, Later w w₂ → w₂.server = Function.update w.server me
          { w.server me with
            counter := if request.isClient then (w.server me).counter else request.counter } →
        wp (do
          setParams me fun p => { p with db := request.write.apply p.db }
          crashPoint fate me
          return (request.write.perform (w.server me).db).1) Q R w₂ := by
      intro w₂ h₂ hserver
      rw [wp_bind, wp_setParams, wp_bind]
      refine wp_crashPoint ?_ fun w₃ h₃ hdown hsame₃ => hcut w₃ (h₂.trans h₃) hdown ?_
      · intro w₃ h₃ halive hsame₃
        rw [wp_pure, ← hanswer]
        refine hgo w₃ (h₂.trans h₃) halive ?_
        rw [hsame₃, server_set, hserver, Function.update_self, Function.update_idem,
          Params.complete, if_neg hseen]
      · intro s hs
        rw [hsame₃, server_set, Function.update_of_ne hs, hserver, Function.update_of_ne hs]
    cases hclient : request.isClient
    · simp only [Bool.not_false, if_true]
      rw [wp_bind, wp_setParams]
      exact hrest _ h₁ (by simp [hsame₁, hclient])
    · simp only [Bool.not_true, Bool.false_eq_true, if_false]
      exact hrest _ h₁ (by simp [hsame₁, hclient])

/-! ## A call to a follower -/

/-- A remote call raises at once when its target is down, and runs the target's code otherwise. -/
lemma rpc_eq {α : Type} (target : ServerId) (body : Comp World α) (w : World) :
    rpc target body w = if w.crashed target then (some none, w) else body.attempt w := by
  change (if w.crashed target = true then pure none else body.attempt) w = _
  split_ifs <;> rfl

/-- The memory of a server that is not the leader after a replicated request. -/
def Params.follow (sent : Request) (p : Params) : Params :=
  Params.complete sent { p with lastRequest := some sent }

/-- A follower drops a request whose counter is not greater than its own. -/
lemma Params.follow_of_le {sent : Request} {p : Params} (hsent : sent.isClient = false)
    (h : sent.counter ≤ p.counter) : p.follow sent = { p with lastRequest := some sent } := by
  simp [Params.follow, Params.complete, hsent, h]

/-- A follower performs a request whose counter is greater than its own. -/
lemma Params.follow_of_lt {sent : Request} {p : Params} (hsent : sent.isClient = false)
    (h : p.counter < sent.counter) : p.follow sent =
      { p with
        lastRequest := some sent, counter := sent.counter, db := sent.write.apply p.db } := by
  have hnot : ¬ sent.counter ≤ p.counter := Nat.not_le_of_lt h
  simp [Params.follow, Params.complete, hsent, hnot]

/-- Following changes neither the role of a server nor its stubs. -/
lemma Params.follow_role (sent : Request) (p : Params) :
    (p.follow sent).amILeader = p.amILeader ∧ (p.follow sent).stubs = p.stubs := by
  unfold Params.follow Params.complete
  split_ifs <;> exact ⟨rfl, rfl⟩

/-- A server that is not the leader stores a replicated request and finishes it. -/
lemma wp_serve_follower {handle : ServerId → Request → Comp World Response} {me : ServerId}
    {sent : Request} {Q : Response → World → Prop} {R : World → Prop} {w : World}
    (hrole : (w.server me).amILeader = false) (hsent : sent.isClient = false)
    (hgo : ∀ r w', Later w w' → w'.crashed me = false →
      w'.server = Function.update w.server me ((w.server me).follow sent) → Q r w')
    (hcut : ∀ w', Later w w' → w'.crashed me = true → (∀ s, s ≠ me → w'.server s = w.server s) →
      R w') : wp (serve fate handle me sent) Q R w := by
  unfold serve replicate
  simp only [hsent, Bool.false_and, wp_bind, wp_params, Bool.false_eq_true, if_false, wp_pure,
    hrole, wp_setParams]
  refine wp_finish (fun w' h halive hserver => hgo _ w' h halive ?_) fun w' h hdown hsame =>
    hcut w' h hdown ?_
  · rw [hserver, server_set, Function.update_self, Function.update_idem]
    rfl
  · intro s hs
    rw [hsame s hs, server_set, Function.update_of_ne hs]

/-- A remote call to a server that is not the leader returns when the server has stored and finished
the request, and raises when it is down or goes down on the way. -/
lemma wp_rpc_follower {j : ServerId} {sent : Request} {Q : Option Response → World → Prop}
    {R : World → Prop} {w : World} (hrole : (w.server j).amILeader = false)
    (hsent : sent.isClient = false)
    (hok : ∀ r w', Later w w' → w'.crashed j = false →
      w'.server = Function.update w.server j ((w.server j).follow sent) → Q (some r) w')
    (hdown : ∀ w', Later w w' → w'.crashed j = true → (∀ s, s ≠ j → w'.server s = w.server s) →
      Q none w') : wp (rpc j (handle fate j sent)) Q R w := by
  unfold rpc
  rw [wp_bind, wp_get]
  by_cases hj : w.crashed j = true
  · rw [if_pos hj]
    exact hdown w (Later.refl w) hj fun _ _ => rfl
  · rw [if_neg hj, wp_attempt]
    have hserve : ∃ h, handle fate j = serve fate h j := by
      match j with
      | 0 => exact ⟨_, rfl⟩
      | 1 => exact ⟨_, rfl⟩
      | 2 => exact ⟨_, rfl⟩
    obtain ⟨h, hh⟩ := hserve
    rw [hh]
    exact wp_serve_follower hrole hsent hok hdown

/-! ## A client's request -/

section Client

variable {h : ServerId → Request → Comp World Response} {me : ServerId} {request : Request}
  {R : World → Prop} {w : World}

/-- A request is replicated and then finished. -/
lemma wp_serve {Q : Response → World → Prop} : wp (serve fate h me request) Q R w ↔
    wp (replicate fate h me request)
      (fun request' w' => wp (finish fate me request') Q R w') R w := by
  unfold serve
  rw [wp_bind]

/-- A server that takes over is the leader, and replays the last request if it has seen one. -/
lemma wp_takeOver_cases {Q : Unit → World → Prop}
    (hnone : (w.server me).lastRequest = none →
      Q () (w.set me fun p => { p with amILeader := true }))
    (hsome : ∀ last, (w.server me).lastRequest = some last →
      wp (replicateLoop fate h me (followers me) last)
        (fun last' w' => Q () (w'.set me fun p => { p with lastRequest := some last' })) R
        (w.set me fun p => { p with amILeader := true })) :
    wp (takeOver fate h me) Q R w := by
  unfold takeOver
  rw [wp_bind, wp_setParams, wp_bind, wp_params, server_set, Function.update_self]
  cases hlast : (w.server me).lastRequest with
  | none => exact hnone hlast
  | some last => exact wp_bind.mpr (hsome last hlast)

/-- A server to which a client's request comes takes over if it is not the leader, and then comes to
its loop. -/
lemma wp_replicate_client {Q : Request → World → Prop} (I : World → Prop)
    (hclient : request.isClient = true)
    (htake : (w.server me).amILeader = false → wp (takeOver fate h me) (fun _ w₁ => I w₁) R w)
    (hlead : (w.server me).amILeader = true → I w)
    (hloop : ∀ w₁, I w₁ → (w₁.server me).amILeader = true ∧
      wp (replicateLoop fate h me (followers me) request) Q R w₁) :
    wp (replicate fate h me request) Q R w := by
  unfold replicate
  rw [wp_bind, wp_params, wp_bind, hclient]
  refine wp_mono (Q := fun _ w₁ => I w₁) ?_ ?_ fun w₁ hcut => hcut
  · cases hrole : (w.server me).amILeader
    · exact htake hrole
    · exact hlead hrole
  · intro _ w₁ hI
    obtain ⟨hleader, hrest⟩ := hloop w₁ hI
    rw [wp_bind, wp_params, if_pos hleader]
    exact hrest

/-- The leader comes to its loop at once. -/
lemma wp_replicate_leader {Q : Request → World → Prop} (hclient : request.isClient = true)
    (hleader : (w.server me).amILeader = true)
    (hloop : wp (replicateLoop fate h me (followers me) request) Q R w) :
    wp (replicate fate h me request) Q R w := by
  refine wp_replicate_client (· = w) hclient (fun hrole => ?_) (fun _ => rfl) ?_
  · rw [hleader] at hrole
    cases hrole
  · rintro w₁ rfl
    exact ⟨hleader, hloop⟩

end Client

/-! ## One round of the leader's loop -/

/-- The request as a leader sends it. -/
def Request.sentBy (p : Params) (request : Request) : Request :=
  { request with isClient := false, counter := p.counter + 1 }

/-- The leader's memory after a call that has returned. -/
def Params.counted (p : Params) : Params := { p with counter := p.counter + 1 }

/-- The leader's memory after a call to `j` that has raised. -/
def Params.unplugged (service : Service) (j : ServerId) (p : Params) : Params :=
  { p with stubs := fun service' => if service' = service then
      Function.update (p.stubs service') j false else p.stubs service' }

/-- One round of the loop of a leader `me` over its stubs, for the follower `j`: there is no stub,
or the call returns, or it raises, or the leader goes down. -/
lemma wp_replicateLoop_cons {me j : ServerId} {js : List ServerId} {request : Request}
    {Q : Request → World → Prop} {R : World → Prop} {w : World}
    {h : ServerId → Request → Comp World Response} (hh : h j = handle fate j) (hne : j ≠ me)
    (hrole : w.crashed j = false → (w.server j).amILeader = false)
    (hskip : (w.server me).stubs request.write.service j = false →
      wp (replicateLoop fate h me js request) Q R w)
    (hok : ∀ w', Later w w' → w'.crashed me = false →
      w'.server = Function.update (Function.update w.server j
        ((w.server j).follow (request.sentBy (w.server me)))) me (w.server me).counted →
      wp (replicateLoop fate h me js { request.sentBy (w.server me) with isClient := true }) Q R w')
    (hdown : ∀ w', Later w w' → w'.crashed me = false → w'.crashed j = true →
      (∀ s, s ≠ j → s ≠ me → w'.server s = w.server s) →
      w'.server me = (w.server me).unplugged request.write.service j →
      wp (replicateLoop fate h me js (request.sentBy (w.server me))) Q R w')
    (hcut : ∀ w', Later w w' → w'.crashed me = true →
      (∀ s, s ≠ j → w'.server s = w.server s) →
      (w'.crashed j = true ∨ w'.server j = w.server j ∨
        w'.server j = (w.server j).follow (request.sentBy (w.server me))) → R w') :
    wp (replicateLoop fate h me (j :: js) request) Q R w := by
  unfold replicateLoop
  rw [wp_bind, wp_params]
  cases hstub : (w.server me).stubs request.write.service j
  · simp only [Bool.not_false, if_true]
    exact hskip hstub
  simp only [Bool.not_true, Bool.false_eq_true, if_false]
  rw [wp_bind]
  refine wp_crashPoint ?_ fun w₁ h₁ hdead hsame₁ =>
    hcut w₁ h₁ hdead (fun s _ => by rw [hsame₁]) (.inr (.inl (by rw [hsame₁])))
  intro w₁ h₁ _ hsame₁
  rw [wp_bind, wp_params, hsame₁, wp_bind, hh]
  by_cases hj : w₁.crashed j = true
  · -- The follower is down before the call.
    unfold rpc
    rw [wp_bind, wp_get, if_pos hj, wp_pure, wp_bind]
    refine wp_crashPoint ?_ fun w₂ h₂ hdead hsame₂ =>
      hcut w₂ (h₁.trans h₂) hdead (fun s _ => by rw [hsame₂, hsame₁]) (.inl (h₂ j hj))
    intro w₂ h₂ halive hsame₂
    rw [wp_bind, wp_setParams]
    refine hdown _ (h₁.trans h₂) halive (h₂ j hj) ?_ ?_
    · intro s _ hs
      rw [server_set, Function.update_of_ne hs, hsame₂, hsame₁]
    · rw [server_set, Function.update_self, hsame₂, hsame₁]
      rfl
  have hrole₁ : (w₁.server j).amILeader = false := by
    rw [hsame₁]
    exact hrole (h₁.alive (by simpa using hj))
  refine wp_rpc_follower hrole₁ rfl ?_ ?_
  · intro r w₂ h₂ _ hserver₂
    -- The call returns.
    rw [hsame₁] at hserver₂
    rw [wp_bind]
    refine wp_crashPoint ?_ fun w₃ h₃ hdead hsame₃ =>
      hcut w₃ ((h₁.trans h₂).trans h₃) hdead ?_ (.inr (.inr ?_))
    · intro w₃ h₃ halive hsame₃
      rw [wp_bind, wp_setParams]
      refine hok _ ((h₁.trans h₂).trans h₃) halive ?_
      rw [server_set, hsame₃, hserver₂, Function.update_of_ne hne.symm]
      rfl
    · intro s hs
      rw [hsame₃, hserver₂, Function.update_of_ne hs]
    · rw [hsame₃, hserver₂, Function.update_self]
      rfl
  · intro w₂ h₂ hdead₂ hsame₂
    -- The call raises.
    rw [wp_bind]
    refine wp_crashPoint ?_ fun w₃ h₃ hdead hsame₃ =>
      hcut w₃ ((h₁.trans h₂).trans h₃) hdead ?_ (.inl (h₃ j hdead₂))
    · intro w₃ h₃ halive hsame₃
      rw [wp_bind, wp_setParams]
      refine hdown _ ((h₁.trans h₂).trans h₃) halive (h₃ j hdead₂) ?_ ?_
      · intro s hsj hs
        rw [server_set, Function.update_of_ne hs, hsame₃, hsame₂ s hsj, hsame₁]
      · rw [server_set, Function.update_self, hsame₃, hsame₂ me hne.symm, hsame₁]
        rfl
    · intro s hs
      rw [hsame₃, hsame₂ s hs, hsame₁]

end Chat262.Replication
