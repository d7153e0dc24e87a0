import Chat262.Foundation.PartialRun
import Chat262.Replication.Attempts
import Chat262.Replication.Broadcast
import Chat262.Replication.Persistence

/-!
# Servers that are stopped and started again

Clients make write calls one at a time, and between two calls servers are stopped and started again.
A server that starts has the database that it had when it was stopped, a counter of 0, no last
request and all its stubs, and it is a leader if it is server 0.

Nothing brings it up to date: not with the writes that it has missed, and not with the counters of
the servers that did not stop.  `in_step_of_answer` says when a write that is answered has come to
all servers that the answering server reaches: when none of these has missed a write before, and
their counters fit.
-/

namespace Chat262.Replication

open Foundation Comp

/-! ## Runs with restarts -/

/-- The servers and the clients, with a note of what the servers have missed. -/
structure Cluster (Client : Type) where
  /-- The servers, and the server that each client takes for the leader. -/
  sys : System Client
  /-- Whether there has been an answered write that has not come to the server.  One that has changed
  nothing counts as well: it has left the answering server without its stub for the server, or leading
  in front of it, and so later writes do not come either. -/
  missed : ServerId → Bool

/-- What can happen while no call is outstanding. -/
inductive Happening (Client : Type) where
  | call (c : Client) (op : Write)
  | stop (s : ServerId)
  | restart (s : ServerId)
deriving DecidableEq, Repr

/-- The server `s` is stopped. -/
def World.stop (s : ServerId) (w : World) : World :=
  { w with crashed := Function.update w.crashed s true }

/-- The server `s` is started again.  It was stopped while it handled no request, so its file has
the database that it had then (`loadData_of_idle`). -/
def World.restart (s : ServerId) (w : World) : World :=
  { w with
    server := Function.update w.server s (.fresh s (w.server s).db)
    crashed := Function.update w.crashed s false }

/-- Which servers are down when one has been stopped. -/
@[simp] lemma crashed_stop (s : ServerId) (w : World) :
    (w.stop s).crashed = Function.update w.crashed s true := rfl

/-- Which servers are down when one has been started again. -/
@[simp] lemma crashed_restart (s : ServerId) (w : World) :
    (w.restart s).crashed = Function.update w.crashed s false := rfl

/-- What the servers keep in memory when one has been started again. -/
@[simp] lemma server_restart (s : ServerId) (w : World) :
    (w.restart s).server = Function.update w.server s (.fresh s (w.server s).db) := rfl

/-- The server `k` replicates the write `op` to the server `j`: it has the stub for it, and the
server is up. -/
def World.replicates (w : World) (k j : ServerId) (op : Write) : Bool :=
  decide (k < j) && !w.crashed j && (w.server k).stubs op.service j

section Restarts

variable {Client : Type} [DecidableEq Client]

/-- Freshly started servers with equal databases. -/
def Cluster.fresh (db : Db) : Cluster Client := ⟨.fresh db, fun _ => false⟩

/-- One thing happens: the server that answers, with its answer, if it is a call and somebody is
left to answer it.  No server goes down in the course of a call. -/
def happen (e : Happening Client) (cl : Cluster Client) :
    Except Unit (Option (ServerId × Response) × Cluster Client) :=
  match e with
  | .call c op =>
    match clientCall (fun _ _ => false) c op cl.sys with
    | (some (k, _, r), sys) => .ok (some (k, r), ⟨sys, fun s =>
        cl.missed s || !(decide (s = k) || cl.sys.world.replicates k s op)⟩)
    | (none, sys) => .ok (none, ⟨sys, cl.missed⟩)
  | .stop s =>
    if cl.sys.world.crashed s then .error ()
    else .ok (none, ⟨{ cl.sys with world := cl.sys.world.stop s }, cl.missed⟩)
  | .restart s =>
    if cl.sys.world.crashed s then
      .ok (none, ⟨{ cl.sys with world := cl.sys.world.restart s }, cl.missed⟩)
    else .error ()

/-- The servers that the server `k` reaches have its passwords and its messages. -/
def World.InStep (k : ServerId) (w : World) : Prop :=
  ∀ j, w.Reaches k j → (w.server j).db.passwords = (w.server k).db.passwords ∧
    ∀ receiver, (w.server j).db.messages receiver = (w.server k).db.messages receiver

/-- The server that a call of the client `c` comes to: the first one that is up, from the one on
that the client takes for the leader. -/
def System.receiver (sys : System Client) (c : Client) : Option ServerId :=
  ([0, 1, 2].drop (sys.currLeader c)).find? fun k => !sys.world.crashed k

/-- If it is a call for a write: neither the server that it comes to nor any server that this one
reaches has missed a write, and their counters fit. -/
def UpToDate (e : Happening Client) (cl : Cluster Client) : Prop :=
  ∀ c op, e = .call c op → ∀ k, cl.sys.receiver c = some k → ∀ j, cl.sys.world.Reaches k j →
    cl.missed k = false ∧ cl.missed j = false ∧
      (cl.sys.world.server k).Fits op (cl.sys.world.server j)

/-! ## Calls in which no server goes down -/

/-- The same servers are down. -/
def SameCrashed (w w' : World) : Prop := w'.crashed = w.crashed

instance reflSameCrashed : Std.Refl SameCrashed := ⟨fun _ => rfl⟩

instance transSameCrashed : IsTrans World SameCrashed := ⟨fun _ _ _ h h' => h'.trans h⟩

/-- Time passes. -/
lemma tick_calm (w : World) : w.tick (fun _ _ => false) = { w with clock := w.clock + 1 } := by
  simp [World.tick]

/-- No server goes down when it is not its fate. -/
lemma tolerates_sameCrashed : Tolerates (fun _ _ => false) SameCrashed :=
  ⟨fun w => by rw [tick_calm]; rfl, fun _ _ _ _ => rfl⟩

/-- The time does not matter for what a call has done. -/
lemma Performed.of_clock {op : Write} {k : ServerId} {w w' : World} {n : ℕ}
    (h : Performed op k { w with clock := n } w') : Performed op k w w' :=
  ⟨h.later, h.up, h.leader, h.db, h.stubs, h.other, h.follower⟩

/-- A call comes to the first server that is up, which performs it together with the servers that it
reaches, if their counters fit. -/
lemma sendRequest_calm {op : Write} {targets : List ServerId} {w : World}
    (hfit : ∀ k, targets.find? (fun k => !w.crashed k) = some k →
      (k = 0 → (w.server k).amILeader = true) ∧
        ∀ j, w.Reaches k j → (w.server j).amILeader = false ∧
          (∀ service, (w.server k).stubs service j = true) ∧
          (w.server k).Fits op (w.server j)) :
    match sendRequest (fun _ _ => false) (.ofClient op) targets w with
    | (some (k, _, _), w') => targets.find? (fun k => !w.crashed k) = some k ∧
        w'.crashed = w.crashed ∧ Performed op k w w'
    | (none, w') => w'.server = w.server ∧ w'.crashed = w.crashed := by
  induction targets generalizing w with
  | nil => exact ⟨rfl, rfl⟩
  | cons k ks ih =>
    unfold sendRequest
    rw [tick_calm, rpc_eq]
    by_cases hk : w.crashed k = true
    · -- The server is down, and the next one is tried.
      have hfind : (k :: ks).find? (fun k => !w.crashed k) = ks.find? (fun k => !w.crashed k) := by
        rw [List.find?_cons_of_neg (by simpa using hk)]
      rw [if_pos hk]
      have hrest := @ih { w with clock := w.clock + 1 } fun k' hk' => hfit k' (hfind.trans hk')
      dsimp only
      rcases hsend : sendRequest (fun _ _ => false) (.ofClient op) ks
        { w with clock := w.clock + 1 } with ⟨_ | ⟨k', v, r⟩, w'⟩
      · rw [hsend] at hrest
        exact hrest
      · rw [hsend] at hrest
        exact ⟨hfind.trans hrest.1, hrest.2.1, hrest.2.2.of_clock⟩
    · have hup : w.crashed k = false := by simpa using hk
      have hfind : (k :: ks).find? (fun k => !w.crashed k) = some k :=
        List.find?_cons_of_pos (by simpa using hup)
      obtain ⟨hfirst, hreach⟩ := hfit k hfind
      have hspec : wp (handle (fun _ _ => false) k (.ofClient op)) _ _
          { w with clock := w.clock + 1 } := wp_handle hup hfirst hreach
      have hsame : SameCrashed { w with clock := w.clock + 1 }
          (handle (fun _ _ => false) k (.ofClient op) { w with clock := w.clock + 1 }).2 :=
        within_handle (fun k _ => tolerates_sameCrashed.on k) (.ofClient op) _
      rw [if_neg hk]
      unfold Comp.attempt
      rcases hrun : handle (fun _ _ => false) k (.ofClient op)
        { w with clock := w.clock + 1 } with ⟨_ | r, w'⟩
      · rw [hrun] at hsame
        have hdown : w'.crashed k = true := of_wp_of_eq_none hspec hrun
        rw [show w'.crashed = w.crashed from hsame, hup] at hdown
        cases hdown
      · rw [hrun] at hsame
        exact ⟨hfind, hsame, (of_wp_of_eq_some hspec hrun).of_clock⟩

/-! ## What has not missed a write -/

/-- The servers that have not missed a write have the database `E`, and servers before a leader and
servers without a stub have missed one. -/
structure Cluster.Even (E : Db) (cl : Cluster Client) : Prop where
  /-- Server 0 is a leader. -/
  first : cl.sys.world.crashed 0 = false → (cl.sys.world.server 0).amILeader = true
  /-- The servers before a leader have missed a write. -/
  leads : ∀ me j, cl.sys.world.crashed me = false → (cl.sys.world.server me).amILeader = true →
    j < me → cl.missed j = true
  /-- A server for which a stub is missing has missed a write. -/
  stubs : ∀ me j service, cl.sys.world.crashed me = false →
    (cl.sys.world.server me).stubs service j = false → cl.missed j = true
  /-- The others have the database. -/
  db : ∀ s, cl.missed s = false → (cl.sys.world.server s).db = E

section Steps

variable {E : Db} {cl cl' : Cluster Client} {c : Client} {op : Write}

omit [DecidableEq Client] in
/-- Freshly started servers have missed nothing. -/
lemma even_fresh (db : Db) : (Cluster.fresh db : Cluster Client).Even db where
  first _ := rfl
  leads me j _ hlead hj := by
    have hme : me = 0 := of_decide_eq_true hlead
    rw [hme] at hj
    exact absurd hj (Fin.not_lt_zero j)
  stubs _ _ _ _ hstub := by cases hstub
  db _ _ := rfl

omit [DecidableEq Client] in
/-- A server that is stopped misses nothing by it. -/
lemma Cluster.Even.stop (h : cl.Even E) (s : ServerId) :
    Cluster.Even E ⟨{ cl.sys with world := cl.sys.world.stop s }, cl.missed⟩ := by
  have hup : ∀ j, (cl.sys.world.stop s).crashed j = false → cl.sys.world.crashed j = false := by
    intro j hj
    by_cases hjs : j = s
    · rw [crashed_stop, hjs, Function.update_self] at hj
      cases hj
    · rwa [crashed_stop, Function.update_of_ne hjs] at hj
  exact ⟨fun h0 => h.first (hup 0 h0), fun me j hme => h.leads me j (hup me hme),
    fun me j service hme => h.stubs me j service (hup me hme), h.db⟩

omit [DecidableEq Client] in
/-- Nor does a server that is started again. -/
lemma Cluster.Even.restart (h : cl.Even E) (s : ServerId) :
    Cluster.Even E ⟨{ cl.sys with world := cl.sys.world.restart s }, cl.missed⟩ := by
  have hself : (cl.sys.world.restart s).server s = .fresh s (cl.sys.world.server s).db := by
    rw [server_restart, Function.update_self]
  have hother : ∀ j, j ≠ s → (cl.sys.world.restart s).server j = cl.sys.world.server j :=
    fun j hj => by rw [server_restart, Function.update_of_ne hj]
  have hup : ∀ j, j ≠ s → (cl.sys.world.restart s).crashed j = false →
      cl.sys.world.crashed j = false := fun j hj hup => by
    rwa [crashed_restart, Function.update_of_ne hj] at hup
  refine ⟨fun h0 => ?_, fun me j hme hlead hj => ?_, fun me j service hme hstub => ?_,
    fun j hj => ?_⟩
  · dsimp only at h0 ⊢
    by_cases hs : 0 = s
    · rw [← hs] at hself ⊢
      rw [hself]
      rfl
    · rw [hother 0 hs]
      exact h.first (hup 0 hs h0)
  · dsimp only at hme hlead ⊢
    by_cases hs : me = s
    · subst hs
      rw [hself] at hlead
      have hzero : me = 0 := of_decide_eq_true hlead
      rw [hzero] at hj
      exact absurd hj (Fin.not_lt_zero j)
    · rw [hother me hs] at hlead
      exact h.leads me j (hup me hs hme) hlead hj
  · dsimp only at hme hstub ⊢
    by_cases hs : me = s
    · subst hs
      rw [hself] at hstub
      cases hstub
    · rw [hother me hs] at hstub
      exact h.stubs me j service (hup me hs hme) hstub
  · dsimp only at hj ⊢
    by_cases hs : j = s
    · subst hs
      rw [hself]
      exact h.db j hj
    · rw [hother j hs]
      exact h.db j hj

omit [DecidableEq Client] in
/-- What is needed of the server that a call comes to, and of the servers that it reaches. -/
lemma Cluster.Even.ready (h : cl.Even E) (hdate : UpToDate (.call c op) cl) {k : ServerId}
    (hk : cl.sys.receiver c = some k) :
    (k = 0 → (cl.sys.world.server k).amILeader = true) ∧
      ∀ j, cl.sys.world.Reaches k j → (cl.sys.world.server j).amILeader = false ∧
        (∀ service, (cl.sys.world.server k).stubs service j = true) ∧
        (cl.sys.world.server k).Fits op (cl.sys.world.server j) := by
  have hup : cl.sys.world.crashed k = false := by simpa using List.find?_some hk
  refine ⟨?_, fun j hj => ?_⟩
  · rintro rfl
    exact h.first hup
  · obtain ⟨hmissedk, hmissedj, hfits⟩ := hdate c op rfl k hk j hj
    refine ⟨?_, fun service => ?_, hfits⟩
    · by_contra hlead
      have := h.leads j k hj.2.1 (by simpa using hlead) hj.1
      rw [hmissedk] at this
      cases this
    · by_contra hstub
      have := h.stubs k j service hup (by simpa using hstub)
      rw [hmissedj] at this
      cases this

omit [DecidableEq Client] in
/-- After the server `k` has performed a write with the servers that it reaches, these have missed
nothing, and are in step with it. -/
lemma Cluster.Even.performed (h : cl.Even E) {k : ServerId} {w' : World}
    (hp : Performed op k cl.sys.world w') (hcrashed : w'.crashed = cl.sys.world.crashed)
    (hreached : ∀ j, cl.sys.world.Reaches k j → cl.missed k = false ∧ cl.missed j = false)
    (currLeader : Client → ℕ) :
    Cluster.Even (op.apply (cl.sys.world.server k).db) ⟨⟨w', currLeader⟩, fun s =>
      cl.missed s || !(decide (s = k) || cl.sys.world.replicates k s op)⟩ ∧ w'.InStep k := by
  have hreach {s : ServerId} (hs : cl.sys.world.replicates k s op = true) :
      cl.sys.world.Reaches k s := by
    simp only [World.replicates, Bool.and_eq_true, Bool.not_eq_true', decide_eq_true_eq] at hs
    exact ⟨hs.1.1, hs.1.2, _, hs.2⟩
  have hequal {j : ServerId} (hj : cl.sys.world.Reaches k j) :
      (w'.server j).db = op.apply (cl.sys.world.server k).db := by
    obtain ⟨hmissedk, hmissedj⟩ := hreached j hj
    rw [(hp.follower j hj (by rw [hcrashed]; exact hj.2.1)).1, h.db k hmissedk, h.db j hmissedj]
  have hsame {s : ServerId} (hs : s ≠ k) (hup : w'.crashed s = false) :
      (w'.server s).amILeader = (cl.sys.world.server s).amILeader ∧
        (w'.server s).stubs = (cl.sys.world.server s).stubs := by
    by_cases hj : cl.sys.world.Reaches k s
    · exact (hp.follower s hj hup).2
    · rw [hp.other s hs hup hj]
      exact ⟨rfl, rfl⟩
  refine ⟨⟨fun h0 => ?_, fun me j hme hlead hj => ?_, fun me j service hme hstub => ?_,
    fun s hs => ?_⟩, fun j hj => ?_⟩
  · dsimp only at h0 ⊢
    by_cases hk : 0 = k
    · rw [hk]
      exact hp.leader
    · rw [(hsame hk h0).1]
      exact h.first (by rwa [← hcrashed])
  · dsimp only at hme hlead ⊢
    by_cases hk : me = k
    · -- The servers before a leader do not get the write from it.
      subst hk
      simp [World.replicates, ne_of_lt hj, not_lt_of_gt hj]
    · rw [(hsame hk hme).1] at hlead
      rw [h.leads me j (by rwa [← hcrashed]) hlead hj, Bool.true_or]
  · dsimp only at hme hstub ⊢
    by_cases hk : me = k
    · subst hk
      by_cases hup : w'.crashed j = false
      · rw [hp.stubs service j hup] at hstub
        rw [h.stubs me j service (by rwa [← hcrashed]) hstub, Bool.true_or]
      · -- The server is down, and misses the write.
        have hdown : cl.sys.world.crashed j = true := by rw [← hcrashed]; simpa using hup
        have hne : j ≠ me := fun heq => hup (heq ▸ hme)
        simp [World.replicates, hdown, hne]
    · rw [(hsame hk hme).2] at hstub
      rw [h.stubs me j service (by rwa [← hcrashed]) hstub, Bool.true_or]
  · simp only [Bool.or_eq_false_iff, Bool.not_eq_false', Bool.or_eq_true, decide_eq_true_eq] at hs
    rcases hs.2 with rfl | hreplicates
    · exact hp.db
    · exact hequal (hreach hreplicates)
  · obtain ⟨hlt, hup, service, hstub⟩ := hj
    have hj : cl.sys.world.Reaches k j :=
      ⟨hlt, by rwa [← hcrashed], service, by rwa [← hp.stubs service j hup]⟩
    rw [hequal hj, hp.db]
    exact ⟨rfl, fun _ => rfl⟩

/-- Whatever happens, the servers that have missed nothing have one database, if every call comes to
servers that are up to date; and the server that answers a call is in step with those that it
reaches. -/
lemma Cluster.Even.happen {e : Happening Client} {x : Option (ServerId × Response)}
    (h : cl.Even E) (hdate : UpToDate e cl) (hstep : Replication.happen e cl = .ok (x, cl')) :
    (∃ E', cl'.Even E') ∧ ∀ k r, x = some (k, r) → cl'.sys.world.InStep k := by
  cases e with
  | stop s =>
    simp only [Replication.happen] at hstep
    split_ifs at hstep
    cases hstep
    exact ⟨⟨E, h.stop s⟩, fun k r hx => by cases hx⟩
  | restart s =>
    simp only [Replication.happen] at hstep
    split_ifs at hstep
    cases hstep
    exact ⟨⟨E, h.restart s⟩, fun k r hx => by cases hx⟩
  | call c op =>
    have hcall := sendRequest_calm fun k hk => h.ready hdate hk
    rcases hsend : sendRequest (fun _ _ => false) (.ofClient op)
      ([0, 1, 2].drop (cl.sys.currLeader c)) cl.sys.world with ⟨_ | ⟨k, v, r⟩, w'⟩
    · rw [hsend] at hcall
      simp only [Replication.happen, clientCall, hsend] at hstep
      cases hstep
      obtain ⟨hserver, hcrashed⟩ := hcall
      refine ⟨⟨E, ?_⟩, fun k r hx => by cases hx⟩
      refine ⟨?_, ?_, ?_, ?_⟩ <;> simp only [hserver, hcrashed]
      · exact h.first
      · exact h.leads
      · exact h.stubs
      · exact h.db
    · rw [hsend] at hcall
      simp only [Replication.happen, clientCall, hsend] at hstep
      cases hstep
      obtain ⟨hk, hcrashed, hp⟩ := hcall
      have hreached : ∀ j, cl.sys.world.Reaches k j →
          cl.missed k = false ∧ cl.missed j = false := fun j hj =>
        ⟨(hdate c op rfl k hk j hj).1, (hdate c op rfl k hk j hj).2.1⟩
      obtain ⟨heven, hinstep⟩ := h.performed hp hcrashed hreached
        (Function.update cl.sys.currLeader c k)
      refine ⟨⟨_, heven⟩, ?_⟩
      rintro k' r' ⟨⟩
      exact hinstep

end Steps

/-! ## Whole runs -/

/-- In every run in which all calls come to servers that are up to date, the servers that have
missed nothing have one database. -/
lemma even_of_run {db : Db} {events : List (Happening Client)} {cl : Cluster Client}
    (hrun : Foundation.run happen events (.fresh db) = .ok cl)
    (hdate : Guarded happen UpToDate events (.fresh db)) : ∃ E, cl.Even E :=
  run_invariant (P := fun cl => ∃ E, cl.Even E)
    (fun _ _ _ _ ⟨_, h⟩ hdate hstep => (h.happen hdate hstep).1) hdate hrun ⟨db, even_fresh db⟩

/-- In every run with restarts in which all calls come to servers that are up to date: after a write
that is answered, the running servers that the answering server reaches have its passwords and its
messages. -/
theorem in_step_of_answer {db : Db} {before : List (Happening Client)} {e : Happening Client}
    {cl cl' : Cluster Client} {k : ServerId} {r : Response}
    (hrun : Foundation.run happen before (.fresh db) = .ok cl)
    (hanswer : happen e cl = .ok (some (k, r), cl'))
    (hdate : Guarded happen UpToDate (before ++ [e]) (.fresh db)) : cl'.sys.world.InStep k := by
  rw [guarded_append hrun, guarded_cons hanswer] at hdate
  obtain ⟨E, heven⟩ := even_of_run hrun hdate.1
  exact (heven.happen hdate.2.1 hanswer).2 k r rfl

/-- Server 1 is stopped and started again before anything has been written, and the first write
comes to it. -/
theorem in_step_of_answer_register :
    ∃ cl cl', Foundation.run happen [.stop 1, .restart 1] (.fresh .empty) = .ok cl ∧
      happen (.call () (.register "ann" "x")) cl = .ok (some (0, registered), cl') ∧
      cl'.sys.world.Reaches 0 1 ∧ cl'.sys.world.InStep 0 := by
  refine ⟨_, _, rfl, rfl, ⟨by decide, rfl, .auth, rfl⟩, ?_⟩
  refine in_step_of_answer
    (show Foundation.run happen [.stop 1, .restart 1] (.fresh .empty) = .ok _ from rfl)
    (show happen (.call () (.register "ann" "x")) _ = .ok (some (0, registered), _) from rfl) ?_
  rw [guarded_append rfl, guarded_cons rfl, guarded_cons rfl, guarded_cons rfl]
  refine ⟨⟨?_, ?_, trivial⟩, ?_, trivial⟩
  · rintro c op ⟨⟩
  · rintro c op ⟨⟩
  · rintro c op ⟨⟩ k hk j -
    obtain rfl : 0 = k := Option.some.inj hk
    refine ⟨rfl, rfl, .inl ?_⟩
    match j with
    | 0 | 1 | 2 => exact Nat.one_pos

-- A refused write is enough for server 1, which was down, not to get the next one.
example : ∃ cl cl', Foundation.run happen
      [.stop 1, .call () (.deleteAccount "bob" "y"), .restart 1] (.fresh .empty) = .ok cl ∧
    happen (.call () (.register "ann" "x")) cl = .ok (some (0, registered), cl') ∧
    cl'.sys.world.Reaches 0 1 ∧ (cl'.sys.world.server 1).db.passwords["ann"]? = none :=
  ⟨_, _, rfl, rfl, ⟨by decide, rfl, .chat, rfl⟩, rfl⟩

/-- Server 0 registers `ann` and is stopped and started again.  The other servers take the number of
the next request for an old one: `bob` is registered at server 0 only. -/
theorem restarted_leader_is_not_followed :
    ∃ cl cl', Foundation.run happen [.call () (.register "ann" "x"), .stop 0, .restart 0]
        (.fresh .empty) = .ok cl ∧
      happen (.call () (.register "bob" "y")) cl = .ok (some (0, registered), cl') ∧
      cl'.sys.world.Reaches 0 1 ∧ (cl'.sys.world.server 0).db.passwords["bob"]? = some "y" ∧
      (cl'.sys.world.server 1).db.passwords["bob"]? = none ∧ ¬ cl'.sys.world.InStep 0 := by
  refine ⟨_, _, rfl, rfl, ?_, rfl, rfl, ?_⟩
  · exact ⟨by decide, rfl, .auth, rfl⟩
  · intro h
    have hpasswords := (h 1 ⟨by decide, rfl, .auth, rfl⟩).1
    have hbob := congrArg (fun passwords => passwords["bob"]?) hpasswords
    cases hbob

end Restarts

end Chat262.Replication
