import Chat262.Replication.Attempts

/-!
# Failing followers

`replicate` changes the request that it sends, and a call that raises leaves it marked as a
replicated one, so behind the loop the leader's own handler tests its counter against the number of
the request.  `follower_failures_hidden` says that this test never fails: whatever the servers
behind do, whether or not there are stubs for them, whether their calls return or raise, and also
when the server has just taken over, it answers a client as a server without followers does, and is
left with the same database.

`Peers` is what the servers behind may do; nothing is asked of them but that they leave the server
alone.  The procedures of the other servers are an instance (`Peers.real`).
-/

namespace Chat262.Replication

open Foundation Comp

/-! ## The servers behind -/

/-- Between two worlds the server `me` has not been touched, and has not gone down. -/
structure Spares (me : ServerId) (w w' : World) : Prop where
  same : w'.server me = w.server me
  up : w.crashed me = false → w'.crashed me = false

instance reflSpares (me : ServerId) : Std.Refl (Spares me) := ⟨fun _ => ⟨rfl, id⟩⟩

instance transSpares (me : ServerId) : IsTrans World (Spares me) :=
  ⟨fun _ _ _ h h' => ⟨h'.same.trans h.same, fun hup => h'.up (h.up hup)⟩⟩

/-- What the servers that `me` calls do.  They may return or raise as they like, and differently
each time. -/
structure Peers (me : ServerId) where
  handle : ServerId → Request → Comp World Response
  /-- It handles no request on `me`. -/
  spares : ∀ j request, Within (Spares me) (handle j request)

section Peers

variable {fate : ℕ → ServerId → Bool} {me : ServerId}

/-- Code on another server leaves `me` alone as long as `me` does not fail. -/
lemma toleratesOn_spares (hfate : ∀ n, fate n me = false) {j : ServerId} (hj : j ≠ me) :
    ToleratesOn fate (Spares me) j where
  tick w := ⟨rfl, fun hup => by simp [World.tick, hup, hfate]⟩
  set w f _ := ⟨by rw [server_set, Function.update_of_ne hj.symm], id⟩

/-- The procedures of the servers behind `me`. -/
def Peers.real (fate : ℕ → ServerId → Bool) (me : ServerId) (hfate : ∀ n, fate n me = false) :
    Peers me :=
  match me with
  | 0 =>
    { handle := fun j => if j = 1 then handle1 fate else handle2 fate
      spares := fun j request => by
        have hone : Within (Spares 0) (Replication.handle fate 1 request) :=
          within_handle (fun k hk => toleratesOn_spares hfate (by rintro rfl; simp at hk)) request
        have htwo : Within (Spares 0) (Replication.handle fate 2 request) :=
          within_handle (fun k hk => toleratesOn_spares hfate (by rintro rfl; simp at hk)) request
        split_ifs
        · exact hone
        · exact htwo }
  | 1 =>
    { handle := fun _ => handle2 fate
      spares := fun j request => by
        have htwo : Within (Spares 1) (Replication.handle fate 2 request) :=
          within_handle (fun k hk => toleratesOn_spares hfate (by rintro rfl; simp at hk)) request
        exact htwo }
  | 2 =>
    { handle := fun _ _ w => (none, w)
      spares := fun j request w => Std.Refl.refl w }

/-- They are what the procedures of `me` call. -/
lemma handle_eq_serve_real (hfate : ∀ n, fate n me = false) :
    handle fate me = serve fate (Peers.real fate me hfate).handle me := by
  match me with
  | 0 | 1 | 2 => rfl

end Peers

/-! ## The loop and the takeover -/

section Loop

variable {fate : ℕ → ServerId → Bool} {me : ServerId} (peers : Peers me)

/-- A remote call leaves the server alone that makes it. -/
lemma Peers.wp_rpc {j : ServerId} {request : Request} {Q : Option Response → World → Prop}
    {R : World → Prop} {w : World} (h : ∀ reply w', Spares me w w' → Q reply w') :
    wp (rpc j (peers.handle j request)) Q R w := by
  unfold wp
  rw [rpc_eq]
  split_ifs
  · exact h none w (Std.Refl.refl w)
  · exact h _ _ (peers.spares j request w)

/-- What the loop of `replicate` leaves of the request and of the server `me`. -/
structure Looped (me : ServerId) (request : Request) (w : World) (request' : Request)
    (w' : World) : Prop where
  write : request'.write = request.write
  /-- It is not taken for a duplicate if it was not. -/
  fresh : request.Fresh (w.server me) → request'.Fresh (w'.server me)
  role : (w'.server me).amILeader = (w.server me).amILeader
  db : (w'.server me).db = (w.server me).db
  counter : (w.server me).counter ≤ (w'.server me).counter

/-- One part of the loop after another. -/
lemma Looped.trans {request request' request'' : Request} {w w' w'' : World}
    (h : Looped me request w request' w') (h' : Looped me request' w' request'' w'') :
    Looped me request w request'' w'' :=
  ⟨h'.write.trans h.write, fun hfresh => h'.fresh (h.fresh hfresh), h'.role.trans h.role,
    h'.db.trans h.db, h.counter.trans h'.counter⟩

/-- The loop ends with a request that is not taken for a duplicate, or its server goes down. -/
lemma Peers.wp_replicateLoop (js : List ServerId) (request : Request) (w : World) :
    wp (replicateLoop fate peers.handle me js request) (Looped me request w)
      (fun w' => w'.crashed me = true) w := by
  induction js generalizing request w with
  | nil => exact ⟨rfl, id, rfl, rfl, le_rfl⟩
  | cons j js ih =>
    -- One round, and then the others.
    have hround {request' : Request} {w' : World} (h : Looped me request w request' w') :
        wp (replicateLoop fate peers.handle me js request') (Looped me request w)
          (fun w' => w'.crashed me = true) w' :=
      wp_mono (ih request' w') (fun _ _ hrest => h.trans hrest) fun _ hdown => hdown
    unfold replicateLoop
    rw [wp_bind, wp_params]
    split_ifs
    · exact ih request w
    rw [wp_bind]
    refine wp_crashPoint ?_ fun _ _ hdown _ => hdown
    intro w₁ _ _ hsame₁
    rw [wp_bind, wp_params, hsame₁, wp_bind]
    refine peers.wp_rpc ?_
    intro reply w₂ hspares
    rw [wp_bind]
    refine wp_crashPoint ?_ fun _ _ hdown _ => hdown
    intro w₃ _ _ hsame₃
    have hself : w₃.server me = w.server me := by rw [hsame₃, hspares.same, hsame₁]
    cases reply with
    | some r =>
      rw [wp_bind, wp_setParams]
      have hcounted : (w₃.set me fun p => { p with counter := p.counter + 1 }).server me =
          (w.server me).counted := by rw [server_set, Function.update_self, hself]; rfl
      refine hround ⟨rfl, fun _ => .inl rfl, ?_, ?_, ?_⟩ <;> rw [hcounted]
      · rfl
      · rfl
      · exact Nat.le_succ _
    | none =>
      rw [wp_bind, wp_setParams]
      have hunplugged : (w₃.set me fun p => { p with
          stubs := fun service => if service = request.write.service then
            Function.update (p.stubs service) j false else p.stubs service }).server me =
          (w.server me).unplugged request.write.service j := by
        rw [server_set, Function.update_self, hself]
        rfl
      -- The request is numbered for the next reply, and the counter is the same.
      refine hround ⟨rfl, fun _ => .inr ?_, ?_, ?_, ?_⟩ <;> rw [hunplugged] <;> rfl

/-- A server that takes over is a leader with the same database. -/
lemma Peers.wp_takeOver (w : World) :
    wp (takeOver fate peers.handle me)
      (fun _ w' => (w'.server me).amILeader = true ∧ (w'.server me).db = (w.server me).db ∧
        (w.server me).counter ≤ (w'.server me).counter)
      (fun w' => w'.crashed me = true) w := by
  have hself : (w.set me fun p => { p with amILeader := true }).server me =
      { w.server me with amILeader := true } := by rw [server_set, Function.update_self]
  refine wp_takeOver_cases (fun _ => ?_) fun last _ => ?_
  · rw [hself]
    exact ⟨rfl, rfl, le_rfl⟩
  · refine wp_mono (peers.wp_replicateLoop _ last _) ?_ fun _ hdown => hdown
    intro last' w' hlooped
    have hrole := hlooped.role
    have hdb := hlooped.db
    have hcounter := hlooped.counter
    rw [hself] at hrole hdb hcounter
    rw [server_set, Function.update_self]
    exact ⟨hrole, hdb, hcounter⟩

/-- `replicate` leaves a client's request such that the server performs it. -/
lemma Peers.wp_replicate (op : Write) (n : ℕ) (w : World) :
    wp (replicate fate peers.handle me ⟨op, true, n⟩)
      (fun request w' => request.write = op ∧ request.Fresh (w'.server me) ∧
        (w'.server me).db = (w.server me).db ∧ (w.server me).counter ≤ (w'.server me).counter)
      (fun w' => w'.crashed me = true) w := by
  refine wp_replicate_client (fun w₁ => (w₁.server me).amILeader = true ∧
    (w₁.server me).db = (w.server me).db ∧ (w.server me).counter ≤ (w₁.server me).counter)
    rfl (fun _ => peers.wp_takeOver w) (fun hrole => ⟨hrole, rfl, le_rfl⟩) ?_
  rintro w₁ ⟨hleader, hdb, hcounter⟩
  refine ⟨hleader, wp_mono (peers.wp_replicateLoop _ _ w₁) ?_ fun _ hdown => hdown⟩
  intro request w' hlooped
  exact ⟨hlooped.write, hlooped.fresh (.inl rfl), hlooped.db.trans hdb,
    hcounter.trans hlooped.counter⟩

end Loop

/-! ## The answer -/

section Answer

variable {fate : ℕ → ServerId → Bool} {me : ServerId} (peers : Peers me)

/-- A server that leads and has no stubs, with the others down. -/
def World.lone (me : ServerId) (db : Db) : World where
  server := fun s => { Params.fresh s db with amILeader := true, stubs := fun _ _ => false }
  crashed := fun s => s ≠ me
  clock := 0

/-- The server answers the request of a client for the write `op`, which comes with the counter `n`,
as a lone server with its database does, and ends with the same database.  Behind `replicate` the
request is not taken for a duplicate, and the counter of the server has not become smaller, neither
there nor in the end. -/
def AnswersAlone (fate : ℕ → ServerId → Bool) (peers : Peers me) (op : Write) (n : ℕ)
    (w : World) : Prop :=
  ∃ request w₁ r w' w'',
    replicate fate peers.handle me ⟨op, true, n⟩ w = (some request, w₁) ∧
    (request.isClient = true ∨ (w₁.server me).counter < request.counter) ∧
    serve fate peers.handle me ⟨op, true, n⟩ w = (some r, w') ∧
    serve fate peers.handle me ⟨op, true, n⟩ (.lone me (w.server me).db) = (some r, w'') ∧
    (w'.server me).db = (w''.server me).db ∧
    (w.server me).counter ≤ (w₁.server me).counter ∧
      (w₁.server me).counter ≤ (w'.server me).counter

/-- A server that does not fail is up when a request has been served. -/
lemma Peers.up_of_serve (hfate : ∀ n, fate n me = false) (request : Request) {w : World}
    (hup : w.crashed me = false) :
    (serve fate peers.handle me request w).2.crashed me = false := by
  let Stays : World → World → Prop := fun w w' => w.crashed me = false → w'.crashed me = false
  have : Std.Refl Stays := ⟨fun _ => id⟩
  have : IsTrans World Stays := ⟨fun _ _ _ h h' hup => h' (h hup)⟩
  have htolerates : ToleratesOn fate Stays me :=
    ⟨fun w hup => by simp [World.tick, hup, hfate], fun _ _ _ => id⟩
  exact within_serve htolerates (fun j _ request w => (peers.spares j request w).up) request w hup

/-- What a server does with the request of a client, and where it stands behind `replicate`. -/
lemma Peers.serve_client (hfate : ∀ n, fate n me = false) (op : Write) (n : ℕ) {w : World}
    (hup : w.crashed me = false) : ∃ r w', serve fate peers.handle me ⟨op, true, n⟩ w =
        (some r, w') ∧ r = (op.perform (w.server me).db).1 ∧
      (w'.server me).db = op.apply (w.server me).db ∧ ∃ request w₁,
        replicate fate peers.handle me ⟨op, true, n⟩ w = (some request, w₁) ∧
        (request.isClient = true ∨ (w₁.server me).counter < request.counter) ∧
        (w.server me).counter ≤ (w₁.server me).counter ∧
          (w₁.server me).counter ≤ (w'.server me).counter := by
  refine exists_of_wp (R := fun w' => w'.crashed me = true) ?_
    (by rw [peers.up_of_serve hfate _ hup]; exact Bool.false_ne_true)
  rw [wp_serve]
  refine wp_mono (wp_ended (peers.wp_replicate op n w)) ?_ fun _ hdown => hdown
  rintro request w₁ ⟨⟨hwrite, hfresh, hdb, hcounter⟩, hreplicate⟩
  obtain ⟨hcomplete, hanswer⟩ := Params.complete_of_fresh hfresh
  refine wp_finish ?_ fun _ _ hdown _ => hdown
  intro w' _ _ hserver
  have hself : (w'.server me) = (w₁.server me).complete request := by
    rw [hserver, Function.update_self]
  rw [hanswer, hself, hcomplete, hwrite, hdb]
  refine ⟨rfl, rfl, request, w₁, hreplicate, ?_, hcounter, ?_⟩
  · rcases hfresh with hclient | hnext
    · exact .inl hclient
    · exact .inr (by omega)
  · dsimp only
    split_ifs with hclient
    · exact le_rfl
    · rcases hfresh with hclient' | hnext
      · exact absurd hclient' hclient
      · omega

/-- A server that is up answers a client as a lone server does, whatever becomes of the servers
behind it. -/
theorem follower_failures_hidden (hfate : ∀ n, fate n me = false) (op : Write) (n : ℕ) (w : World)
    (hup : w.crashed me = false) : AnswersAlone fate peers op n w := by
  obtain ⟨r, w', hserve, rfl, hdb, request, w₁, hreplicate, hfresh, hfirst, hthen⟩ :=
    peers.serve_client hfate op n hup
  have hlone : (World.lone me (w.server me).db).crashed me = false := by simp [World.lone]
  obtain ⟨r', w'', hserve', rfl, hdb', -⟩ := peers.serve_client hfate op n hlone
  exact ⟨request, w₁, _, w', w'', hreplicate, hfresh, hserve, hserve', hdb.trans hdb'.symm, hfirst,
    hthen⟩

end Answer

/-- Server 0 is down, and the request that it has sent last is known to server 1 only. -/
def orphaned : World where
  server := fun s => { Params.fresh s ⟨∅, fun _ => []⟩ with
    lastRequest := if s = 1 then some ⟨.register "ann" "apple", false, 1⟩ else none }
  crashed := fun s => s = 0
  clock := 0

/-- Server 2 goes down in the second call that it gets. -/
def secondCallFails (n : ℕ) (s : ServerId) : Bool := n = 5 && s = 2

/-- Server 1 does not. -/
lemma secondCallFails_one (n : ℕ) : secondCallFails n 1 = false := by simp [secondCallFails]

/-- Server 1 takes over and replays the request; then the call with the request of the client
raises, and leaves it marked as a replicated one. -/
theorem follower_failures_hidden_orphaned :
    AnswersAlone secondCallFails (Peers.real secondCallFails 1 secondCallFails_one)
        (.register "bob" "berry") 0 orphaned ∧
      ∃ request w, replicate secondCallFails
        (Peers.real secondCallFails 1 secondCallFails_one).handle 1
        ⟨.register "bob" "berry", true, 0⟩ orphaned = (some request, w) ∧
        request.isClient = false ∧ (w.server 1).counter = 1 ∧ w.crashed 2 = true :=
  ⟨follower_failures_hidden _ secondCallFails_one _ _ _ rfl, _, _, rfl, rfl, rfl, rfl⟩

end Chat262.Replication
