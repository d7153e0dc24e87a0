import Chat262.Replication.Steps

/-!
# Leaders, followers and what they agree on

Between calls the servers that are up satisfy `Agree`: they hold one database, and as long as
server 1 has not become the leader, its counter is one behind that of server 2 (`Synced`), which is
what makes server 2 drop the request that server 1 replays when it takes over.  In the course of a
call `InCall` allows for one thing more: server 1 may have processed the request and server 2 not
(`Half`), and then the replay is accepted.  `Touched` says of one server how often it has performed
the write of the call.

`Leads.round` is one round of a leader's loop with what it does to roles and stubs, and
`Leads.inCall_of_down` says what is left to show when the leader goes down.
-/

namespace Chat262.Replication

open Foundation Comp

/-! ## Leaders and their followers -/

/-- Who leads whom, among the servers that are up. -/
structure Standing (w : World) : Prop where
  first : w.crashed 0 = false → (w.server 0).amILeader = true
  leads : ∀ me, w.crashed me = false → (w.server me).amILeader = true →
    ∀ j, j < me → w.crashed j = true
  /-- A stub is missing only for a server that is down. -/
  stubs : ∀ me j service, me < j → w.crashed me = false →
    (w.server me).stubs service j = false → w.crashed j = true

/-- Server 0 leads as long as it is up and there is nobody behind server 2, so only server 1 can
have another server behind it and not be a leader. -/
lemma Standing.eq_one_of_follower {w : World} (h : Standing w) {k j : ServerId}
    (hup : w.crashed k = false) (hrole : (w.server k).amILeader = false) (hj : k < j) :
    k = 1 ∧ j = 2 := by
  have hk : k ≠ 0 := by
    rintro rfl
    rw [h.first hup] at hrole
    cases hrole
  clear h hup hrole
  decide +revert

/-- Roles and stubs survive a change that makes no new leaders and unplugs only servers that are
down. -/
lemma Standing.step {w w' : World} (h : Standing w) (hlater : Later w w')
    (hrole : ∀ s, w'.crashed s = false → (w'.server s).amILeader = (w.server s).amILeader)
    (hstubs : ∀ s j service, w'.crashed s = false → (w'.server s).stubs service j = false →
      (w.server s).stubs service j = false ∨ w'.crashed j = true) : Standing w' where
  first h0 := (hrole 0 h0).trans (h.first (hlater.alive h0))
  leads me hme hlead j hj :=
    hlater j (h.leads me (hlater.alive hme) ((hrole me hme).symm.trans hlead) j hj)
  stubs me j service hj hme hstub := by
    rcases hstubs me j service hme hstub with hold | hdown
    · exact hlater j (h.stubs me j service hj (hlater.alive hme) hold)
    · exact hdown

/-- Roles and stubs survive a change of the memories of the servers in which the ones that are up
follow a request at most. -/
lemma Standing.follow {w w' : World} (h : Standing w) (hlater : Later w w')
    (hsame : ∀ s, w'.crashed s = false →
      w'.server s = w.server s ∨ ∃ sent, w'.server s = (w.server s).follow sent) : Standing w' := by
  refine h.step hlater ?_ fun s j service hs hstub => .inl ?_
  · intro s hs
    rcases hsame s hs with heq | ⟨sent, heq⟩ <;> rw [heq]
    exact (Params.follow_role sent _).1
  · rcases hsame s hs with heq | ⟨sent, heq⟩ <;> rw [heq] at hstub
    · exact hstub
    · rwa [(Params.follow_role sent _).2] at hstub

/-- The server `me` is up and a leader. -/
structure Leads (me : ServerId) (w : World) : Prop where
  standing : Standing w
  up : w.crashed me = false
  leader : (w.server me).amILeader = true

/-- The other servers that are up are no leaders. -/
lemma Leads.follower {me : ServerId} {w : World} (h : Leads me w) {s : ServerId} (hs : s ≠ me)
    (hup : w.crashed s = false) : (w.server s).amILeader = false := by
  by_contra hlead
  rcases lt_or_gt_of_ne hs with hlt | hlt
  · have := h.standing.leads me h.up h.leader s hlt
    rw [hup] at this
    cases this
  · have := h.standing.leads s hup (by simpa using hlead) me hlt
    rw [h.up] at this
    cases this

/-- A request that its leader will perform when it finishes it: it is marked as a client's, or has
the counter that comes next. -/
def Request.Fresh (request : Request) (p : Params) : Prop :=
  request.isClient = true ∨ request.counter = p.counter + 1

/-- One round of a leader's loop ends with the follower down or done, or with the leader down. -/
lemma Leads.round {fate : ℕ → ServerId → Bool} {me j : ServerId} {js : List ServerId}
    {request : Request} {Q : Request → World → Prop} {R : World → Prop} {w : World}
    {h : ServerId → Request → Comp World Response} (hled : Leads me w)
    (hh : h j = handle fate j) (hj : me < j)
    (hnext : ∀ request' w', Later w w' → Leads me w' → request'.write = request.write →
      (request.Fresh (w.server me) → request'.Fresh (w'.server me)) →
      (w'.server me).db = (w.server me).db → (w.server me).counter ≤ (w'.server me).counter →
      (∀ s, s ≠ j → s ≠ me → w'.server s = w.server s) →
      (w'.crashed j = false → (w'.server me).counter = (w.server me).counter + 1 ∧
        w'.server j = (w.server j).follow (request.sentBy (w.server me))) →
      wp (replicateLoop fate h me js request') Q R w')
    (hcut : ∀ w', Later w w' → w'.crashed me = true → Standing w' →
      (∀ s, s ≠ j → w'.server s = w.server s) →
      (w'.crashed j = true ∨ w'.server j = w.server j ∨
        w'.server j = (w.server j).follow (request.sentBy (w.server me))) → R w') :
    wp (replicateLoop fate h me (j :: js) request) Q R w := by
  have hne : j ≠ me := (ne_of_lt hj).symm
  refine wp_replicateLoop_cons hh hne (hled.follower hne) ?_ ?_ ?_ ?_
  · intro hstub
    -- There is no stub, so the follower is down.
    have hdown := hled.standing.stubs me j _ hj hled.up hstub
    refine hnext request w (Later.refl w) hled rfl id rfl le_rfl (fun _ _ _ => rfl) ?_
    intro hup
    rw [hdown] at hup
    cases hup
  · intro w' hlater hup hserver
    -- The follower is done.
    have hother : ∀ s, s ≠ j → s ≠ me → w'.server s = w.server s := fun s hsj hs => by
      rw [hserver, Function.update_of_ne hs, Function.update_of_ne hsj]
    have hme : w'.server me = (w.server me).counted := by rw [hserver, Function.update_self]
    have hfollow : w'.server j = (w.server j).follow (request.sentBy (w.server me)) := by
      rw [hserver, Function.update_of_ne hne, Function.update_self]
    have hrole : ∀ s, (w'.server s).amILeader = (w.server s).amILeader ∧
        (w'.server s).stubs = (w.server s).stubs := by
      intro s
      by_cases hs : s = me
      · rw [hs, hme]
        exact ⟨rfl, rfl⟩
      by_cases hsj : s = j
      · rw [hsj, hfollow]
        exact Params.follow_role _ _
      · rw [hother s hsj hs]
        exact ⟨rfl, rfl⟩
    have hstanding : Standing w' := hled.standing.step hlater (fun s _ => (hrole s).1)
      fun s i service _ hstub => .inl (by rwa [(hrole s).2] at hstub)
    refine hnext _ w' hlater ⟨hstanding, hup, (hrole me).1.trans hled.leader⟩ rfl
      (fun _ => .inl rfl) (by rw [hme]; rfl) (by rw [hme]; exact Nat.le_succ _) hother
      fun _ => ⟨by rw [hme]; rfl, hfollow⟩
  · intro w' hlater hup hdown hsame hme
    -- The follower is down, and is unplugged.
    have hrole : ∀ s, w'.crashed s = false →
        (w'.server s).amILeader = (w.server s).amILeader := by
      intro s hs
      by_cases hsm : s = me
      · rw [hsm, hme]
        rfl
      · rw [hsame s (fun hsj => by rw [hsj, hdown] at hs; cases hs) hsm]
    have hstanding : Standing w' := by
      refine hled.standing.step hlater hrole ?_
      intro s i service hs hstub
      by_cases hsm : s = me
      · rw [hsm, hme] at hstub
        by_cases hi : i = j
        · exact .inr (hi ▸ hdown)
        · refine .inl ?_
          unfold Params.unplugged at hstub
          dsimp only at hstub
          rw [hsm]
          split_ifs at hstub
          · rwa [Function.update_of_ne hi] at hstub
          · exact hstub
      · rw [hsame s (fun hsj => by rw [hsj, hdown] at hs; cases hs) hsm] at hstub
        exact .inl hstub
    refine hnext _ w' hlater ⟨hstanding, hup, (hrole me hup).trans hled.leader⟩ rfl
      (fun _ => .inr (by rw [hme]; rfl)) (by rw [hme]; rfl) (by rw [hme]; exact le_rfl) hsame ?_
    intro hup'
    rw [hdown] at hup'
    cases hup'
  · intro w' hlater hdown hsame hfollower
    -- The leader is down.
    refine hcut w' hlater hdown (hled.standing.follow hlater ?_) hsame hfollower
    intro s hs
    by_cases hsj : s = j
    · rcases hfollower with hdead | hold | hnew
      · rw [hsj, hdead] at hs
        cases hs
      · exact .inl (hsj ▸ hold)
      · exact .inr ⟨_, hsj ▸ hnew⟩
    · exact .inl (hsame s hsj)

/-! ## Servers 1 and 2 before the takeover -/

/-- Server 2 will drop the request that server 1 would replay, and accept the next one: server 1 has
nothing to replay, or server 2 has counted it. -/
def Synced (p₁ p₂ : Params) : Prop :=
  p₁.lastRequest = none ∧ p₂.counter ≤ p₁.counter ∨
    p₁.lastRequest.isSome = true ∧ p₂.counter = p₁.counter + 1

/-- Server 1 has processed the write `op` and server 2 has not, and will accept the replay. -/
structure Half (op : Write) (p₁ p₂ : Params) : Prop where
  last : ∃ q, p₁.lastRequest = some q ∧ q.write = op
  counter : p₂.counter ≤ p₁.counter
  db : p₁.db = op.apply p₂.db

/-- Servers 1 and 2 in the course of a call for the write `op`. -/
def Pair (op : Write) (p₁ p₂ : Params) : Prop :=
  Synced p₁ p₂ ∧ p₁.db = p₂.db ∨ Half op p₁ p₂

/-- A server in the course of a call for the write `op`, which started when it had the counter `κ`
and the database `E`: it has not processed the request, or it has performed the write at least
once. -/
def Touched (κ : ℕ) (op : Write) (E : Db) (p : Params) : Prop :=
  p.counter = κ ∧ p.db = E ∨ κ < p.counter ∧ ∃ n, p.db = op.apply^[n + 1] E

/-- A server that follows a request for the write of the call stays in the course of the call. -/
lemma Touched.follow {κ : ℕ} {op : Write} {E : Db} {p : Params} (h : Touched κ op E p)
    {sent : Request} (hsent : sent.isClient = false) (hop : sent.write = op) :
    Touched κ op E (p.follow sent) := by
  by_cases hle : sent.counter ≤ p.counter
  · rw [Params.follow_of_le hsent hle]
    exact h
  · have hlt : p.counter < sent.counter := Nat.lt_of_not_le hle
    rw [Params.follow_of_lt hsent hlt, hop]
    rcases h with ⟨hκ, hE⟩ | ⟨hκ, n, hn⟩
    · exact .inr ⟨by dsimp only; omega, 0, by rw [hE]; rfl⟩
    · refine .inr ⟨by dsimp only; omega, n + 1, ?_⟩
      rw [Function.iterate_succ_apply', ← hn]

/-- When only server 1 has followed the request, the replay is due. -/
lemma Half.of_follow {op : Write} {p₁ p₂ : Params} {sent : Request} (hsent : sent.isClient = false)
    (hop : sent.write = op) (h₁ : p₁.counter < sent.counter) (h₂ : p₂.counter < sent.counter)
    (hdb : p₁.db = p₂.db) : Half op (p₁.follow sent) p₂ := by
  rw [Params.follow_of_lt hsent h₁]
  exact ⟨⟨sent, rfl, hop⟩, by dsimp only; omega, by rw [hop, hdb]⟩

/-- Whether or not server 2 has processed the request that server 1 replays, after the replay it has
the database of server 1 and the counter that server 1 gives to the replay. -/
lemma Pair.follow_replay {op : Write} {p₁ p₂ : Params} {q : Request} (h : Pair op p₁ p₂)
    (hlast : p₁.lastRequest = some q) :
    (p₂.follow (q.sentBy p₁)).db = p₁.db ∧
      (p₂.follow (q.sentBy p₁)).counter = p₁.counter + 1 := by
  rcases h with ⟨⟨hnone, -⟩ | ⟨-, hcounter⟩, hdb⟩ | ⟨⟨q', hq', hop⟩, hcounter, hdb⟩
  · rw [hlast] at hnone
    cases hnone
  · rw [Params.follow_of_le rfl (by rw [hcounter]; rfl)]
    exact ⟨hdb.symm, hcounter⟩
  · obtain rfl : q = q' := Option.some.inj (hlast.symm.trans hq')
    have hlt : p₂.counter < (q.sentBy p₁).counter := Nat.lt_succ_of_le hcounter
    rw [Params.follow_of_lt rfl hlt]
    exact ⟨by rw [hdb, ← hop]; rfl, rfl⟩

/-- Roles do not matter for it. -/
lemma Pair.promote {op : Write} {p₁ p₂ : Params} (h : Pair op p₁ p₂) :
    Pair op { p₁ with amILeader := true } p₂ := by
  rcases h with h | ⟨hlast, hcounter, hdb⟩
  · exact .inl h
  · exact .inr ⟨hlast, hcounter, hdb⟩

/-- When server 1 has nothing to replay, server 2 is where it is. -/
lemma Pair.of_none {op : Write} {p₁ p₂ : Params} (h : Pair op p₁ p₂)
    (hnone : p₁.lastRequest = none) : p₂.counter ≤ p₁.counter ∧ p₂.db = p₁.db := by
  rcases h with ⟨⟨-, hcounter⟩ | ⟨hsome, -⟩, hdb⟩ | ⟨⟨q, hq, -⟩, -, -⟩
  · exact ⟨hcounter, hdb.symm⟩
  · rw [hnone] at hsome
    cases hsome
  · rw [hnone] at hq
    cases hq

/-- The replay leaves server 2 in the course of the call. -/
lemma Pair.touched_replay {κ : ℕ} {op : Write} {E : Db} {p₁ p₂ : Params} {q : Request}
    (h : Pair op p₁ p₂) (hlast : p₁.lastRequest = some q) (htouched : Touched κ op E p₂) :
    Touched κ op E (p₂.follow (q.sentBy p₁)) := by
  rcases h with ⟨⟨hnone, -⟩ | ⟨-, hcounter⟩, -⟩ | ⟨⟨q', hq', hop⟩, -, -⟩
  · rw [hlast] at hnone
    cases hnone
  · rwa [Params.follow_of_le rfl (by rw [hcounter]; rfl)]
  · obtain rfl : q = q' := Option.some.inj (hlast.symm.trans hq')
    exact htouched.follow rfl hop

/-! ## Between calls and in the course of a call -/

/-- Between calls: the servers that are up agree on the database `E`. -/
structure Agree (E : Db) (w : World) : Prop where
  standing : Standing w
  db : ∀ s, w.crashed s = false → (w.server s).db = E
  ahead : ∀ me j, me < j → Leads me w → w.crashed j = false →
    (w.server j).counter ≤ (w.server me).counter
  synced : w.crashed 1 = false → w.crashed 2 = false → (w.server 1).amILeader = false →
    Synced (w.server 1) (w.server 2)

/-- In the course of a call for the write `op`, which started when the servers had the counters `κ`
and the database `E`, while no server works on it. -/
structure InCall (κ : ServerId → ℕ) (op : Write) (E : Db) (w : World) : Prop where
  standing : Standing w
  touched : ∀ s, w.crashed s = false → Touched (κ s) op E (w.server s)
  pair : w.crashed 1 = false → w.crashed 2 = false → (w.server 1).amILeader = false →
    Pair op (w.server 1) (w.server 2)
  /-- A leader that is up has not seen the request, and neither have its followers. -/
  calm : ∀ me, Leads me w → Agree E w

/-- A call starts between calls. -/
lemma Agree.inCall {E : Db} {w : World} (h : Agree E w) (op : Write) :
    InCall (fun s => (w.server s).counter) op E w where
  standing := h.standing
  touched s hs := .inl ⟨rfl, h.db s hs⟩
  pair h1 h2 hrole := .inl ⟨h.synced h1 h2 hrole, (h.db 1 h1).trans (h.db 2 h2).symm⟩
  calm _ _ := h

/-- When no server is up, there is nothing to disagree on. -/
lemma Agree.of_down {E : Db} {w : World} (h : ∀ s, w.crashed s = true) : Agree E w := by
  have hup : ∀ {s : ServerId} {P : Prop}, w.crashed s = false → P := fun hs => by
    rw [h] at hs
    cases hs
  exact ⟨⟨hup, fun _ hs => hup hs, fun _ _ _ _ hs => hup hs⟩, fun _ => hup,
    fun _ _ _ _ hs => hup hs, fun hs => hup hs⟩

/-- Servers that stop do not disturb the agreement. -/
lemma Agree.later {E : Db} {w w' : World} (h : Agree E w) (hlater : Later w w')
    (hsame : w'.server = w.server) : Agree E w' where
  standing := h.standing.follow hlater fun s _ => .inl (by rw [hsame])
  db s hs := by
    rw [hsame]
    exact h.db s (hlater.alive hs)
  ahead me j hj hled hup := by
    rw [hsame]
    exact h.ahead me j hj ⟨h.standing, hlater.alive hled.up, by rw [← hsame]; exact hled.leader⟩
      (hlater.alive hup)
  synced h1 h2 hrole := by
    rw [hsame] at hrole ⊢
    exact h.synced (hlater.alive h1) (hlater.alive h2) hrole

/-- Servers that stop do not disturb the course of a call. -/
lemma InCall.later {κ : ServerId → ℕ} {op : Write} {E : Db} {w w' : World} (h : InCall κ op E w)
    (hlater : Later w w') (hsame : w'.server = w.server) : InCall κ op E w' where
  standing := h.standing.follow hlater fun s _ => .inl (by rw [hsame])
  touched s hs := by
    rw [hsame]
    exact h.touched s (hlater.alive hs)
  pair h1 h2 hrole := by
    rw [hsame] at hrole ⊢
    exact h.pair (hlater.alive h1) (hlater.alive h2) hrole
  calm me hled :=
    (h.calm me ⟨h.standing, hlater.alive hled.up, by rw [← hsame]; exact hled.leader⟩).later hlater
      hsame

/-- When the leader of the call goes down, what remains of a call is to be shown for the other
servers only. -/
lemma Leads.inCall_of_down {κ : ServerId → ℕ} {op : Write} {E : Db} {me : ServerId} {w w' : World}
    (hled : Leads me w) (hlater : Later w w') (hstanding : Standing w')
    (hdown : w'.crashed me = true)
    (hrole : ∀ s, w'.crashed s = false → (w'.server s).amILeader = (w.server s).amILeader)
    (htouched : ∀ j, me < j → w'.crashed j = false → Touched (κ j) op E (w'.server j))
    (hpair : me = 0 → w'.crashed 1 = false → w'.crashed 2 = false →
      Pair op (w'.server 1) (w'.server 2)) : InCall κ op E w' where
  standing := hstanding
  touched s hs := by
    rcases lt_trichotomy s me with hlt | rfl | hlt
    · have := hlater s (hled.standing.leads me hled.up hled.leader s hlt)
      rw [hs] at this
      cases this
    · rw [hdown] at hs
      cases hs
    · exact htouched s hlt hs
  pair h1 h2 hrole1 := by
    match me with
    | 0 => exact hpair rfl h1 h2
    | 1 =>
      rw [hdown] at h1
      cases h1
    | 2 =>
      rw [hdown] at h2
      cases h2
  calm s hs := by
    have hne : s ≠ me := by
      rintro rfl
      have := hs.up
      rw [hdown] at this
      cases this
    have := hled.follower hne (hlater.alive hs.up)
    rw [← hrole s hs.up, hs.leader] at this
    cases this

end Chat262.Replication
