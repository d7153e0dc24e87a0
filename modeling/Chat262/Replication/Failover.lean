import Chat262.Replication.Leaders

/-!
# One client call across failover

A write call may reach up to three servers, one after the other, each of which may have processed
the request already as a follower.  This module says what such a call amounts to: the servers that
are up agree before it, they agree after it, and in between the write has been performed at least
once, the last time on behalf of the client (`sendRequest_spec`).

A leader's loop leaves the servers `Ready` for the leader to finish the request; a takeover makes a
server ready for the loop.  Every way in which a server can go down in the middle of its work leaves
`InCall` behind, from which the next server starts.
-/

namespace Chat262.Replication

open Foundation Comp

/-! ## The leader's loop -/

/-- The leader `me` has still to replicate the write `op` to the servers in `js`, and has not
performed it. -/
structure Replicating (κ : ServerId → ℕ) (op : Write) (E : Db) (me : ServerId) (js : List ServerId)
    (w : World) : Prop where
  led : Leads me w
  ahead : ∀ j, me < j → w.crashed j = false → (w.server j).counter ≤ (w.server me).counter
  touched : ∀ j, me < j → w.crashed j = false → Touched (κ j) op E (w.server j)
  /-- The followers in the list are where the leader is, and the others are one write further. -/
  db : ∀ j, me < j → w.crashed j = false →
    (w.server j).db = if j ∈ js then (w.server me).db else op.apply (w.server me).db

/-- A round for the first server of the list takes it off the list. -/
lemma Replicating.step {κ : ServerId → ℕ} {op : Write} {E : Db} {me j : ServerId}
    {js : List ServerId} {w w' : World} {request : Request}
    (h : Replicating κ op E me (j :: js) w) (hop : request.write = op) (hj : me < j) (hjs : j ∉ js)
    (hlater : Later w w') (hled : Leads me w') (hdb : (w'.server me).db = (w.server me).db)
    (hcounter : (w.server me).counter ≤ (w'.server me).counter)
    (hsame : ∀ s, s ≠ j → s ≠ me → w'.server s = w.server s)
    (hfollow : w'.crashed j = false → (w'.server me).counter = (w.server me).counter + 1 ∧
      w'.server j = (w.server j).follow (request.sentBy (w.server me))) :
    Replicating κ op E me js w' := by
  have hlt : w'.crashed j = false →
      (w.server j).counter < (request.sentBy (w.server me)).counter := fun hup =>
    Nat.lt_succ_of_le (h.ahead j hj (hlater.alive hup))
  refine ⟨hled, fun i hi hup => ?_, fun i hi hup => ?_, fun i hi hup => ?_⟩ <;>
    by_cases hij : i = j
  · subst hij
    rw [(hfollow hup).2, (hfollow hup).1, Params.follow_of_lt rfl (hlt hup)]
    rfl
  · rw [hsame i hij (ne_of_gt hi)]
    exact (h.ahead i hi (hlater.alive hup)).trans hcounter
  · subst hij
    rw [(hfollow hup).2]
    exact (h.touched i hi (hlater.alive hup)).follow rfl hop
  · rw [hsame i hij (ne_of_gt hi)]
    exact h.touched i hi (hlater.alive hup)
  · subst hij
    rw [if_neg hjs, (hfollow hup).2, Params.follow_of_lt rfl (hlt hup), hdb]
    have hbefore := h.db i hi (hlater.alive hup)
    rw [if_pos List.mem_cons_self] at hbefore
    rw [← hop, ← hbefore]
    rfl
  · rw [hsame i hij (ne_of_gt hi), h.db i hi (hlater.alive hup), hdb]
    simp only [List.mem_cons, hij, false_or]

/-- When the leader goes down in a round, the followers remain in the course of the call. -/
lemma Replicating.inCall_of_down {κ : ServerId → ℕ} {op : Write} {E : Db} {me j : ServerId}
    {js : List ServerId} {w w' : World} {request : Request}
    (h : Replicating κ op E me (j :: js) w) (hop : request.write = op)
    (hlater : Later w w') (hdown : w'.crashed me = true) (hstanding : Standing w')
    (hsame : ∀ s, s ≠ j → w'.server s = w.server s)
    (hfollower : w'.crashed j = true ∨ w'.server j = w.server j ∨
      w'.server j = (w.server j).follow (request.sentBy (w.server me)))
    (hpair : me = 0 → w'.crashed 1 = false → w'.crashed 2 = false →
      Pair op (w'.server 1) (w'.server 2)) : InCall κ op E w' := by
  refine h.led.inCall_of_down hlater hstanding hdown ?_ ?_ hpair
  · intro s hs
    by_cases hsj : s = j
    · subst hsj
      rcases hfollower with hdead | heq | heq
      · rw [hdead] at hs
        cases hs
      · rw [heq]
      · rw [heq]
        exact (Params.follow_role _ _).1
    · rw [hsame s hsj]
  · intro i hi hup
    have hbefore := h.touched i hi (hlater.alive hup)
    by_cases hij : i = j
    · subst hij
      rcases hfollower with hdead | heq | heq
      · rw [hdead] at hup
        cases hup
      · rwa [heq]
      · rw [heq]
        exact hbefore.follow rfl hop
    · rwa [hsame i hij]

/-- The leader `me` has the servers `js` left, and servers 1 and 2 are prepared for its end. -/
structure Ready (κ : ServerId → ℕ) (op : Write) (E : Db) (me : ServerId) (js : List ServerId)
    (w : World) : Prop extends Replicating κ op E me js w where
  synced : me = 0 → w.crashed 1 = false → w.crashed 2 = false → Synced (w.server 1) (w.server 2)

section Loop

variable {fate : ℕ → ServerId → Bool} {κ : ServerId → ℕ} {op : Write} {E : Db} {request : Request}
  {h : ServerId → Request → Comp World Response} {w : World}

/-- The loop of server 1 replicates a write to server 2. -/
lemma Ready.loop_one (hready : Ready κ op E 1 [2] w) (hh : h 2 = handle fate 2)
    (hop : request.write = op) (hfresh : request.Fresh (w.server 1)) :
    wp (replicateLoop fate h 1 [2] request)
      (fun request' w' => Later w w' ∧ Ready κ op E 1 [] w' ∧
        (w'.server 1).db = (w.server 1).db ∧ request'.write = op ∧ request'.Fresh (w'.server 1))
      (fun w' => Later w w' ∧ w'.crashed 1 = true ∧ InCall κ op E w') w := by
  refine hready.led.round hh (by decide) ?_ ?_
  · intro request' w' hlater hled hwrite hfresh' hdb hcounter hsame hfollow
    have hstep := hready.toReplicating.step hop (by decide) (by decide) hlater hled hdb hcounter
      hsame hfollow
    exact ⟨hlater, ⟨hstep, fun h10 => absurd h10 (by decide)⟩, hdb, hwrite.trans hop,
      hfresh' hfresh⟩
  · intro w' hlater hdown hstanding hsame hfollower
    exact ⟨hlater, hdown, hready.toReplicating.inCall_of_down hop hlater hdown hstanding hsame
      hfollower fun h10 => absurd h10 (by decide)⟩

/-- The second round of the loop of server 0, which starts with server 2 one write behind
server 1. -/
lemma Replicating.loop_zero (hrep : Replicating κ op E 0 [2] w)
    (hhalf : w.crashed 1 = false → w.crashed 2 = false →
      Half op (w.server 1) (w.server 2) ∧ (w.server 1).counter = (w.server 0).counter)
    (hh : h 2 = handle fate 2) (hop : request.write = op) (hfresh : request.Fresh (w.server 0)) :
    wp (replicateLoop fate h 0 [2] request)
      (fun request' w' => Later w w' ∧ Ready κ op E 0 [] w' ∧
        (w'.server 0).db = (w.server 0).db ∧ request'.write = op ∧ request'.Fresh (w'.server 0))
      (fun w' => Later w w' ∧ w'.crashed 0 = true ∧ InCall κ op E w') w := by
  -- Server 2 takes the counter of server 0, which is one ahead of that of server 1.
  have hsynced : ∀ w' : World, Later w w' → w'.crashed 1 = false → w'.crashed 2 = false →
      w'.server 1 = w.server 1 →
      w'.server 2 = (w.server 2).follow (request.sentBy (w.server 0)) →
      Synced (w'.server 1) (w'.server 2) := by
    intro w' hlater h1 h2 heq1 heq2
    obtain ⟨⟨⟨q, hq, -⟩, -, -⟩, hcounter⟩ := hhalf (hlater.alive h1) (hlater.alive h2)
    have hlt : (w.server 2).counter < (request.sentBy (w.server 0)).counter :=
      Nat.lt_succ_of_le (hrep.ahead 2 (by decide) (hlater.alive h2))
    refine .inr ⟨by rw [heq1, hq]; rfl, ?_⟩
    rw [heq1, heq2, Params.follow_of_lt rfl hlt, hcounter]
    rfl
  refine hrep.led.round hh (by decide) ?_ ?_
  · intro request' w' hlater hled hwrite hfresh' hdb hcounter hsame hfollow
    have hstep := hrep.step hop (by decide) (by decide) hlater hled hdb hcounter hsame hfollow
    exact ⟨hlater, ⟨hstep, fun _ h1 h2 => hsynced w' hlater h1 h2
      (hsame 1 (by decide) (by decide)) (hfollow h2).2⟩, hdb, hwrite.trans hop, hfresh' hfresh⟩
  · intro w' hlater hdown hstanding hsame hfollower
    refine ⟨hlater, hdown, hrep.inCall_of_down hop hlater hdown hstanding hsame hfollower ?_⟩
    intro _ h1 h2
    have heq1 := hsame 1 (by decide)
    have hhalf' := (hhalf (hlater.alive h1) (hlater.alive h2)).1
    rcases hfollower with hdead | heq2 | heq2
    · rw [h2] at hdead
      cases hdead
    · rw [heq1, heq2]
      exact .inr hhalf'
    · refine .inl ⟨hsynced w' hlater h1 h2 heq1 heq2, ?_⟩
      have hlt : (w.server 2).counter < (request.sentBy (w.server 0)).counter :=
        Nat.lt_succ_of_le (hrep.ahead 2 (by decide) (hlater.alive h2))
      rw [heq1, heq2, Params.follow_of_lt rfl hlt, hhalf'.db, ← hop]
      rfl

/-- In the first round of the loop of server 0, server 1 gets ahead of server 2. -/
lemma Replicating.half (hrep : Replicating κ op E 0 [1, 2] w) (hop : request.write = op)
    (h1 : w.crashed 1 = false) (h2 : w.crashed 2 = false) :
    Half op ((w.server 1).follow (request.sentBy (w.server 0))) (w.server 2) := by
  have hdb1 := hrep.db 1 (by decide) h1
  have hdb2 := hrep.db 2 (by decide) h2
  rw [if_pos (by decide)] at hdb1 hdb2
  exact Half.of_follow rfl hop (Nat.lt_succ_of_le (hrep.ahead 1 (by decide) h1))
    (Nat.lt_succ_of_le (hrep.ahead 2 (by decide) h2)) (hdb1.trans hdb2.symm)

/-- The loop of a leader replicates a write to all its followers. -/
lemma Ready.loop {me : ServerId} (hready : Ready κ op E me (followers me) w)
    (hh : ∀ j, me < j → h j = handle fate j) (hop : request.write = op)
    (hfresh : request.Fresh (w.server me)) :
    wp (replicateLoop fate h me (followers me) request)
      (fun request' w' => Later w w' ∧ Ready κ op E me [] w' ∧
        (w'.server me).db = (w.server me).db ∧ request'.write = op ∧ request'.Fresh (w'.server me))
      (fun w' => Later w w' ∧ w'.crashed me = true ∧ InCall κ op E w') w := by
  match me with
  | 2 => exact ⟨Later.refl w, hready, rfl, hop, hfresh⟩
  | 1 => exact hready.loop_one (hh 2 (by decide)) hop hfresh
  | 0 =>
    refine hready.led.round (hh 1 (by decide)) (by decide) ?_ ?_
    · intro request' w' hlater hled hwrite hfresh' hdb hcounter hsame hfollow
      have hstep := hready.toReplicating.step hop (by decide) (by decide) hlater hled hdb hcounter
        hsame hfollow
      refine wp_mono (hstep.loop_zero ?_ (hh 2 (by decide)) (hwrite.trans hop)
        (hfresh' hfresh)) ?_ ?_
      · intro h1 h2
        obtain ⟨hcounter', heq1⟩ := hfollow h1
        have hlt : (w.server 1).counter < (request.sentBy (w.server 0)).counter :=
          Nat.lt_succ_of_le (hready.ahead 1 (by decide) (hlater.alive h1))
        rw [hsame 2 (by decide) (by decide), heq1, hcounter']
        refine ⟨hready.toReplicating.half hop (hlater.alive h1) (hlater.alive h2), ?_⟩
        rw [Params.follow_of_lt rfl hlt]
        rfl
      · intro request'' w'' hdone
        obtain ⟨hlater', hready', hdb', hrest⟩ := hdone
        exact ⟨hlater.trans hlater', hready', hdb'.trans hdb, hrest⟩
      · intro w'' hcut
        exact ⟨hlater.trans hcut.1, hcut.2⟩
    · intro w' hlater hdown hstanding hsame hfollower
      refine ⟨hlater, hdown, hready.toReplicating.inCall_of_down hop hlater hdown hstanding hsame
        hfollower ?_⟩
      intro _ h1 h2
      have hup1 := hlater.alive h1
      have hup2 := hlater.alive h2
      rw [hsame 2 (by decide)]
      rcases hfollower with hdead | heq1 | heq1
      · rw [h1] at hdead
        cases hdead
      · have hdb1 := hready.db 1 (by decide) hup1
        have hdb2 := hready.db 2 (by decide) hup2
        rw [if_pos (by decide)] at hdb1 hdb2
        rw [heq1]
        exact .inl ⟨hready.synced rfl hup1 hup2, hdb1.trans hdb2.symm⟩
      · rw [heq1]
        exact .inr (hready.toReplicating.half hop hup1 hup2)

end Loop

/-! ## The takeover -/

section TakeOver

variable {fate : ℕ → ServerId → Bool} {κ : ServerId → ℕ} {op : Write} {E : Db}
  {h : ServerId → Request → Comp World Response} {w : World}

/-- A server becomes the leader when the servers before it are down. -/
lemma Standing.promote (hstanding : Standing w) {me : ServerId} (hup : w.crashed me = false)
    (hbefore : ∀ j, j < me → w.crashed j = true) :
    Leads me (w.set me fun p => { p with amILeader := true }) where
  standing := {
    first := fun h0 => by
      by_cases hme : 0 = me
      · rw [server_set, ← hme, Function.update_self]
      · rw [server_set, Function.update_of_ne hme]
        exact hstanding.first h0
    leads := fun s hs hlead j hj => by
      by_cases hsm : s = me
      · exact hbefore j (hsm ▸ hj)
      · rw [server_set, Function.update_of_ne hsm] at hlead
        exact hstanding.leads s hs hlead j hj
    stubs := fun s j service hj hs hstub => by
      refine hstanding.stubs s j service hj hs ?_
      by_cases hsm : s = me
      · rw [hsm] at hstub ⊢
        rwa [server_set, Function.update_self] at hstub
      · rwa [server_set, Function.update_of_ne hsm] at hstub }
  up := hup
  leader := by rw [server_set, Function.update_self]

/-- A leader that changes its `last_request` stays ready. -/
lemma Ready.setLast {me : ServerId} {js : List ServerId} (hready : Ready κ op E me js w)
    (last : Option Request) :
    Ready κ op E me js (w.set me fun p => { p with lastRequest := last }) := by
  have hother : ∀ j, me < j →
      (w.set me fun p => { p with lastRequest := last }).server j = w.server j := fun j hj => by
    rw [server_set, Function.update_of_ne (ne_of_gt hj)]
  have hself : ∀ s, ((w.set me fun p => { p with lastRequest := last }).server s).amILeader =
      (w.server s).amILeader ∧ ((w.set me fun p => { p with lastRequest := last }).server s).stubs =
      (w.server s).stubs := by
    intro s
    by_cases hs : s = me
    · rw [hs, server_set, Function.update_self]
      exact ⟨rfl, rfl⟩
    · rw [server_set, Function.update_of_ne hs]
      exact ⟨rfl, rfl⟩
  refine ⟨⟨⟨?_, hready.led.up, (hself me).1.trans hready.led.leader⟩, ?_, ?_, ?_⟩, ?_⟩
  · exact hready.led.standing.step (Later.refl w) (fun s _ => (hself s).1)
      fun s j service _ hstub => .inl (by rwa [(hself s).2] at hstub)
  · intro j hj hup
    rw [hother j hj, server_set, Function.update_self]
    exact hready.ahead j hj hup
  · intro j hj hup
    rw [hother j hj]
    exact hready.touched j hj hup
  · intro j hj hup
    rw [hother j hj, server_set, Function.update_self]
    exact hready.db j hj hup
  · rintro rfl h1 h2
    rw [hother 1 (by decide), hother 2 (by decide)]
    exact hready.synced rfl h1 h2

/-- Server 1 replays its last request, and then server 2 is where server 1 is. -/
lemma Leads.replay (hled : Leads 1 w)
    (htouched : w.crashed 2 = false → Touched (κ 2) op E (w.server 2))
    (hpair : w.crashed 2 = false → Pair op (w.server 1) (w.server 2)) {last : Request}
    (hlast : (w.server 1).lastRequest = some last) (hh : h 2 = handle fate 2) :
    wp (replicateLoop fate h 1 [2] last)
      (fun _ w' => Later w w' ∧ Ready κ op E 1 [2] w' ∧ (w'.server 1).db = (w.server 1).db)
      (fun w' => Later w w' ∧ w'.crashed 1 = true ∧ InCall κ op E w') w := by
  refine hled.round hh (by decide) ?_ ?_
  · intro request' w' hlater hled' _ _ hdb _ _ hfollow
    have hreplay : w'.crashed 2 = false → (w'.server 2).db = (w.server 1).db ∧
        (w'.server 2).counter = (w'.server 1).counter ∧
        Touched (κ 2) op E (w'.server 2) := fun h2 => by
      obtain ⟨hcounter, heq⟩ := hfollow h2
      have hp := hpair (hlater.alive h2)
      rw [heq, hcounter]
      exact ⟨(hp.follow_replay hlast).1, (hp.follow_replay hlast).2,
        hp.touched_replay hlast (htouched (hlater.alive h2))⟩
    refine ⟨hlater, ⟨⟨hled', fun j hj hup => ?_, fun j hj hup => ?_, fun j hj hup => ?_⟩,
      fun h10 => absurd h10 (by decide)⟩, hdb⟩ <;> obtain rfl := eq_two_of_one_lt hj
    · exact (hreplay hup).2.1.le
    · exact (hreplay hup).2.2
    · rw [if_pos List.mem_cons_self, hdb]
      exact (hreplay hup).1
  · intro w' hlater hdown hstanding hsame hfollower
    refine ⟨hlater, hdown, hled.inCall_of_down hlater hstanding hdown ?_
      ?_ fun h10 => absurd h10 (by decide)⟩
    · intro s hs
      by_cases hs2 : s = 2
      · subst hs2
        rcases hfollower with hdead | heq | heq
        · rw [hdead] at hs
          cases hs
        · rw [heq]
        · rw [heq]
          exact (Params.follow_role _ _).1
      · rw [hsame s hs2]
    · intro j hj hup
      obtain rfl := eq_two_of_one_lt hj
      have hup' := hlater.alive hup
      rcases hfollower with hdead | heq | heq
      · rw [hdead] at hup
        cases hup
      · rw [heq]
        exact htouched hup'
      · rw [heq]
        exact (hpair hup').touched_replay hlast (htouched hup')

/-- Server 1 takes over: it replays what it has to replay. -/
lemma InCall.takeOver_one (hcall : InCall κ op E w) (hup : w.crashed 1 = false)
    (hrole : (w.server 1).amILeader = false) (hbefore : ∀ j, j < 1 → w.crashed j = true)
    (hh : h 2 = handle fate 2) :
    wp (takeOver fate h 1)
      (fun _ w' => Later w w' ∧ Ready κ op E 1 [2] w' ∧ (w'.server 1).db = (w.server 1).db)
      (fun w' => Later w w' ∧ w'.crashed 1 = true ∧ InCall κ op E w') w := by
  have hled := hcall.standing.promote hup hbefore
  have hself : (w.set 1 fun p => { p with amILeader := true }).server 1 =
      { w.server 1 with amILeader := true } := by rw [server_set, Function.update_self]
  have htwo : (w.set 1 fun p => { p with amILeader := true }).server 2 = w.server 2 := by
    rw [server_set, Function.update_of_ne (by decide)]
  have hpair : w.crashed 2 = false → Pair op (w.server 1) (w.server 2) :=
    fun h2 => hcall.pair hup h2 hrole
  refine wp_takeOver_cases (fun hlast => ?_) fun last hlast => ?_
  · refine ⟨Later.refl w, ⟨⟨hled, fun j hj h2 => ?_, fun j hj h2 => ?_, fun j hj h2 => ?_⟩,
      fun h10 => absurd h10 (by decide)⟩, by rw [hself]⟩ <;> obtain rfl := eq_two_of_one_lt hj
    · rw [htwo, hself]
      exact ((hpair h2).of_none hlast).1
    · rw [htwo]
      exact hcall.touched 2 h2
    · rw [htwo, hself, if_pos List.mem_cons_self]
      exact ((hpair h2).of_none hlast).2
  · refine wp_mono (hled.replay (fun h2 => ?_) (fun h2 => ?_)
      (by rw [hself]; exact hlast) hh) (fun last' w' hdone => ?_) fun w' hcut => hcut
    · rw [htwo]
      exact hcall.touched 2 h2
    · rw [hself, htwo]
      exact (hpair h2).promote
    · obtain ⟨hlater, hready, hdb⟩ := hdone
      refine ⟨hlater, hready.setLast (some last'), ?_⟩
      rw [server_set, Function.update_self, hdb, hself]

/-- A server that takes over brings the followers that are up to where it is. -/
lemma InCall.takeOver {me : ServerId} (hcall : InCall κ op E w) (hup : w.crashed me = false)
    (hrole : (w.server me).amILeader = false) (hbefore : ∀ j, j < me → w.crashed j = true)
    (hh : ∀ j, me < j → h j = handle fate j) :
    wp (takeOver fate h me)
      (fun _ w' => Later w w' ∧ Ready κ op E me (followers me) w' ∧
        (w'.server me).db = (w.server me).db)
      (fun w' => Later w w' ∧ w'.crashed me = true ∧ InCall κ op E w') w := by
  match me, hup, hrole, hbefore, hh with
  | 0, hup, hrole, _, _ =>
    rw [hcall.standing.first hup] at hrole
    cases hrole
  | 1, hup, hrole, hbefore, hh => exact hcall.takeOver_one hup hrole hbefore (hh 2 (by decide))
  | 2, hup, _, hbefore, _ =>
    -- Server 2 has nobody to replay to.
    have hlast : ∀ {j : ServerId}, ¬ 2 < j := by decide
    have hready : Ready κ op E 2 [] (w.set 2 fun p => { p with amILeader := true }) :=
      ⟨⟨hcall.standing.promote hup hbefore, fun j hj => absurd hj hlast,
        fun j hj => absurd hj hlast, fun j hj => absurd hj hlast⟩,
        fun h20 => absurd h20 (by decide)⟩
    refine wp_takeOver_cases (fun _ => ?_) fun last _ => ?_
    · exact ⟨Later.refl w, hready, by simp⟩
    · exact ⟨Later.refl w, hready.setLast (some last), by simp⟩

/-! ## A whole call -/

/-- A leader performs the request of a client: the request is not taken for a duplicate. -/
lemma Params.complete_of_fresh {request : Request} {p : Params} (hfresh : request.Fresh p) :
    p.complete request = { p with
      counter := if request.isClient then p.counter else request.counter
      db := request.write.apply p.db } ∧
    p.answer request = (request.write.perform p.db).1 := by
  have hnot : ¬ (!request.isClient && decide (request.counter ≤ p.counter)) = true := by
    rcases hfresh with hclient | hcounter
    · simp [hclient]
    · simp [hcounter]
  exact ⟨if_neg hnot, if_neg hnot⟩

/-- A leader that has replicated a write performs it, and answers. -/
lemma Ready.finish {me : ServerId} {request : Request} (hready : Ready κ op E me [] w)
    (hop : request.write = op) (hfresh : request.Fresh (w.server me)) :
    wp (finish fate me request)
      (fun r w' => Later w w' ∧ w'.crashed me = false ∧ Agree (op.apply (w.server me).db) w' ∧
        r = (op.perform (w.server me).db).1)
      (fun w' => Later w w' ∧ w'.crashed me = true ∧ InCall κ op E w') w := by
  obtain ⟨hcomplete, hanswer⟩ := Params.complete_of_fresh hfresh
  rw [hop] at hcomplete hanswer
  refine wp_finish ?_ ?_
  · intro w' hlater hup hserver
    rw [hcomplete] at hserver
    have hother : ∀ s, s ≠ me → w'.server s = w.server s := fun s hs => by
      rw [hserver, Function.update_of_ne hs]
    have hrole : ∀ s, (w'.server s).amILeader = (w.server s).amILeader ∧
        (w'.server s).stubs = (w.server s).stubs := by
      intro s
      by_cases hs : s = me
      · rw [hs, hserver, Function.update_self]
        exact ⟨rfl, rfl⟩
      · rw [hother s hs]
        exact ⟨rfl, rfl⟩
    have hstanding : Standing w' := hready.led.standing.step hlater (fun s _ => (hrole s).1)
      fun s j service _ hstub => .inl (by rwa [(hrole s).2] at hstub)
    refine ⟨hlater, hup, ⟨hstanding, ?_, ?_, ?_⟩, hanswer⟩
    · intro s hs
      rcases lt_trichotomy s me with hlt | rfl | hlt
      · have := hlater s (hready.led.standing.leads me hready.led.up hready.led.leader s hlt)
        rw [hs] at this
        cases this
      · rw [hserver, Function.update_self]
      · rw [hother s (ne_of_gt hlt), hready.db s hlt (hlater.alive hs), if_neg List.not_mem_nil]
    · intro s j hj hs hup'
      -- The only leader is `me`.
      have hsm : s = me := by
        by_contra hne
        have := hready.led.follower hne (hlater.alive hs.up)
        rw [← (hrole s).1, hs.leader] at this
        cases this
      subst hsm
      have hcounter : (w.server s).counter ≤ (w'.server s).counter := by
        rw [hserver, Function.update_self]
        dsimp only
        rcases hfresh with hclient | hcounter
        · rw [if_pos hclient]
        · split_ifs <;> omega
      rw [hother j (ne_of_gt hj)]
      exact (hready.ahead j hj (hlater.alive hup')).trans hcounter
    · intro h1 h2 hrole1
      match me, hready, hother with
      | 0, hready, hother =>
        rw [hother 1 (by decide), hother 2 (by decide)]
        exact hready.synced rfl (hlater.alive h1) (hlater.alive h2)
      | 1, hready, _ =>
        rw [(hrole 1).1, hready.led.leader] at hrole1
        cases hrole1
      | 2, hready, _ =>
        have := hlater 1 (hready.led.standing.leads 2 hready.led.up hready.led.leader 1 (by decide))
        rw [h1] at this
        cases this
  · intro w' hlater hdown hsame
    have hup : ∀ s, w'.crashed s = false → s ≠ me := by
      rintro s hs rfl
      rw [hdown] at hs
      cases hs
    have hstanding : Standing w' :=
      hready.led.standing.follow hlater fun s hs => .inl (hsame s (hup s hs))
    refine ⟨hlater, hdown, hready.led.inCall_of_down hlater hstanding hdown
      (fun s hs => by rw [hsame s (hup s hs)]) ?_ ?_⟩
    · intro j hj hs
      rw [hsame j (hup j hs)]
      exact hready.touched j hj (hlater.alive hs)
    · rintro rfl h1 h2
      have hdb1 := hready.db 1 (by decide) (hlater.alive h1)
      have hdb2 := hready.db 2 (by decide) (hlater.alive h2)
      rw [if_neg List.not_mem_nil] at hdb1 hdb2
      rw [hsame 1 (by decide), hsame 2 (by decide)]
      exact .inl ⟨hready.synced rfl (hlater.alive h1) (hlater.alive h2), hdb1.trans hdb2.symm⟩

/-- A leader that is ready replicates a client's request to its followers and performs it. -/
lemma Ready.conclude {me : ServerId} (hready : Ready κ op E me (followers me) w)
    (hh : ∀ j, me < j → h j = handle fate j) :
    wp (replicateLoop fate h me (followers me) (.ofClient op))
      (fun request w₁ => wp (Replication.finish fate me request)
        (fun r w' => Later w w' ∧ w'.crashed me = false ∧ Agree (op.apply (w.server me).db) w' ∧
          r = (op.perform (w.server me).db).1)
        (fun w' => Later w w' ∧ w'.crashed me = true ∧ InCall κ op E w') w₁)
      (fun w' => Later w w' ∧ w'.crashed me = true ∧ InCall κ op E w') w := by
  refine wp_mono (hready.loop hh rfl (.inl rfl)) ?_ fun w₁ hcut => hcut
  intro request w₁ hdone
  obtain ⟨hlater, hready₁, hdb, hwrite, hfresh⟩ := hdone
  refine wp_mono (hready₁.finish hwrite hfresh) ?_ fun w₂ hcut => ⟨hlater.trans hcut.1, hcut.2⟩
  intro r w₂ hend
  rw [hdb] at hend
  exact ⟨hlater.trans hend.1, hend.2⟩

/-- A leader that a client's request reaches is ready for it. -/
lemma InCall.ready {me : ServerId} (hcall : InCall κ op E w) (hled : Leads me w) :
    Ready κ op E me (followers me) w where
  led := hled
  ahead j hj hup := (hcall.calm me hled).ahead me j hj hled hup
  touched j _ hup := hcall.touched j hup
  db j hj hup := by
    rw [if_pos (mem_followers.mpr hj), (hcall.calm me hled).db j hup,
      (hcall.calm me hled).db me hled.up]
  synced hme h1 h2 :=
    (hcall.calm me hled).synced h1 h2 (hled.follower (by rw [hme]; decide) h1)

/-- The procedures of a server replicate to the servers behind it. -/
lemma handle_eq_serve (fate : ℕ → ServerId → Bool) (me : ServerId) :
    ∃ h, handle fate me = serve fate h me ∧ ∀ j, me < j → h j = handle fate j := by
  match me with
  | 0 =>
    refine ⟨_, rfl, ?_⟩
    intro j hj
    match j, hj with
    | 1, _ => rfl
    | 2, _ => rfl
  | 1 =>
    refine ⟨_, rfl, ?_⟩
    intro j hj
    match j, hj with
    | 2, _ => rfl
  | 2 => exact ⟨_, rfl, fun j hj => absurd hj (by decide +revert)⟩

/-- A server that a client's request reaches performs the write on the database that it has then,
and so do all servers that are up, or it goes down and leaves the call to the next one. -/
lemma InCall.handle {me : ServerId} (hcall : InCall κ op E w) (hup : w.crashed me = false)
    (hbefore : ∀ j, j < me → w.crashed j = true) :
    wp (handle fate me (.ofClient op))
      (fun r w' => Later w w' ∧ w'.crashed me = false ∧ Agree (op.apply (w.server me).db) w' ∧
        r = (op.perform (w.server me).db).1)
      (fun w' => Later w w' ∧ w'.crashed me = true ∧ InCall κ op E w') w := by
  obtain ⟨h, hserve, hh⟩ := handle_eq_serve fate me
  rw [hserve, wp_serve]
  refine wp_replicate_client (fun w₁ => Later w w₁ ∧ Ready κ op E me (followers me) w₁ ∧
    (w₁.server me).db = (w.server me).db) rfl ?_ ?_ ?_
  · intro hrole
    exact hcall.takeOver hup hrole hbefore hh
  · intro hrole
    exact ⟨Later.refl w, hcall.ready ⟨hcall.standing, hup, hrole⟩, rfl⟩
  · rintro w₁ ⟨hlater₁, hready₁, hdb₁⟩
    refine ⟨hready₁.led.leader, ?_⟩
    refine wp_mono (hready₁.conclude hh) ?_ fun w₂ hcut => ⟨hlater₁.trans hcut.1, hcut.2⟩
    intro request w₂ hend
    refine wp_mono hend ?_ fun w₃ hcut => ⟨hlater₁.trans hcut.1, hcut.2⟩
    intro r w₃ hdone
    rw [hdb₁] at hdone
    exact ⟨hlater₁.trans hdone.1, hdone.2⟩

/-- What a client's call may come to: nobody is up any more, or the server `k` answers.  The write
has then been performed `n` times before on behalf of the call, which shows in the counter of the
server when the request reaches it. -/
structure Answered (κ : ServerId → ℕ) (op : Write) (E : Db) (k : ServerId) (v : World)
    (r : Response) (w' : World) (n : ℕ) : Prop where
  before : ∀ j, j < k → w'.crashed j = true
  up : w'.crashed k = false
  /-- Whether the server has processed the request before. -/
  fresh : n = 0 ↔ (v.server k).counter = κ k
  agree : Agree (op.apply^[n + 1] E) w'
  answer : r = (op.perform (op.apply^[n] E)).1

/-- A call that starts between calls ends between calls, unless there is nobody left: the write has
been performed at least once, and the answer is that to the last time. -/
theorem sendRequest_spec (fate : ℕ → ServerId → Bool) (hcall : InCall κ op E w)
    {targets : List ServerId}
    (hsorted : targets.Pairwise (· < ·)) (hrest : ∀ j, j ∉ targets → w.crashed j = true) :
    match sendRequest fate (.ofClient op) targets w with
    | (some (k, v, r), w') => Later w w' ∧ k ∈ targets ∧ ∃ n, Answered κ op E k v r w' n
    | (none, w') => ∀ s, w'.crashed s = true := by
  induction targets generalizing w with
  | nil => exact fun s => hrest s List.not_mem_nil
  | cons k ks ih =>
    obtain ⟨hk, hsorted'⟩ := List.pairwise_cons.mp hsorted
    have hlater := later_tick fate w
    have hcall' := hcall.later hlater (server_tick w)
    have hbefore : ∀ j, j < k → (w.tick fate).crashed j = true := by
      intro j hj
      refine hlater j (hrest j ?_)
      intro hmem
      rcases List.mem_cons.mp hmem with rfl | hmem
      · exact lt_irrefl _ hj
      · exact lt_asymm hj (hk j hmem)
    have hnext : ∀ w₁, Later w w₁ → w₁.crashed k = true → InCall κ op E w₁ →
        match sendRequest fate (.ofClient op) ks w₁ with
        | (some (k', v, r), w') =>
          Later w w' ∧ k' ∈ k :: ks ∧ ∃ n, Answered κ op E k' v r w' n
        | (none, w') => ∀ s, w'.crashed s = true := by
      intro w₁ hlater₁ hdown hcall₁
      have hrest₁ : ∀ j, j ∉ ks → w₁.crashed j = true := fun j hj => by
        by_cases hjk : j = k
        · rwa [hjk]
        · exact hlater₁ j (hrest j (by simp [hjk, hj]))
      have := ih hcall₁ hsorted' hrest₁
      rcases hsend : sendRequest fate (.ofClient op) ks w₁ with ⟨_ | ⟨k', v, r⟩, w'⟩
      · rw [hsend] at this
        exact this
      · rw [hsend] at this
        exact ⟨hlater₁.trans this.1, List.mem_cons_of_mem k this.2.1, this.2.2⟩
    unfold sendRequest
    by_cases hup : (w.tick fate).crashed k = true
    · -- The server is down before the request reaches it.
      have hrpc : rpc k (handle fate k (.ofClient op)) (w.tick fate) =
          (some none, w.tick fate) := by
        rw [rpc_eq, if_pos hup]
      rw [hrpc]
      exact hnext _ hlater hup hcall'
    · have hspec : wp (handle fate k (.ofClient op)) _ _ (w.tick fate) :=
        hcall'.handle (by simpa using hup) hbefore
      have hrpc : rpc k (handle fate k (.ofClient op)) (w.tick fate) =
          (handle fate k (.ofClient op)).attempt (w.tick fate) := by
        rw [rpc_eq, if_neg hup]
      rw [hrpc]
      rcases hrun : handle fate k (.ofClient op) (w.tick fate) with ⟨_ | r, w'⟩
      · obtain ⟨hlater', hdown, hcall''⟩ := of_wp_of_eq_none hspec hrun
        have hatt : (handle fate k (.ofClient op)).attempt (w.tick fate) = (some none, w') := by
          unfold attempt
          rw [hrun]
        rw [hatt]
        exact hnext w' (hlater.trans hlater') hdown hcall''
      · obtain ⟨hlater', hup', hagree, hr⟩ := of_wp_of_eq_some hspec hrun
        have hatt : (handle fate k (.ofClient op)).attempt (w.tick fate) = (some (some r), w') := by
          unfold attempt
          rw [hrun]
        rw [hatt]
        refine ⟨hlater.trans hlater', List.mem_cons_self, ?_⟩
        rcases hcall'.touched k (by simpa using hup) with ⟨hκ, hE⟩ | ⟨hκ, n, hn⟩
        · rw [hE] at hagree hr
          exact ⟨0, fun j hj => hlater' j (hbefore j hj), hup', ⟨fun _ => hκ, fun _ => rfl⟩,
            hagree, hr⟩
        · rw [hn, ← Function.iterate_succ_apply' op.apply] at hagree
          rw [hn] at hr
          exact ⟨n + 1, fun j hj => hlater' j (hbefore j hj), hup',
            ⟨fun h0 => by omega, fun h0 => by omega⟩, hagree, hr⟩

end TakeOver

end Chat262.Replication
