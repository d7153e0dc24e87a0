import Chat262.Replication.Failover

/-!
# What a write sends to the servers behind it

What the loop of `replicate` and a client's call do to the servers, whoever is a leader besides and
whatever the counters are.  `Sent` says of one or more rounds of a loop on behalf of a write which
servers have got the request, under which number; rounds after one another compose
(`Sent.append`).  A server that gets a request performs it if it takes its number for a new one
(`Params.Takes`), and leaves it if it takes it for an old one (`Params.Drops`).
-/

namespace Chat262.Replication

open Foundation Comp

/-! ## Numbers -/

/-- A follower that gets the write under this number takes it for a new one, or the write does not
change its database. -/
def Params.Takes (p : Params) (number : ℕ) (op : Write) : Prop :=
  p.counter < number ∨ op.apply p.db = p.db

/-- A follower that gets the write under this number takes it for one that it has seen, or the write
does not change its database. -/
def Params.Drops (p : Params) (number : ℕ) (op : Write) : Prop :=
  number ≤ p.counter ∨ op.apply p.db = p.db

/-- The request for the write `op` as it is sent to a follower under a number. -/
def Request.numbered (op : Write) (number : ℕ) : Request := ⟨op, false, number⟩

/-- What a follower does with a request. -/
lemma Params.db_follow (p : Params) (op : Write) (number : ℕ) :
    (p.follow (.numbered op number)).db = if number ≤ p.counter then p.db else op.apply p.db := by
  split_ifs with hle
  · rw [Params.follow_of_le rfl hle]
  · rw [Params.follow_of_lt rfl (Nat.lt_of_not_le hle)]
    rfl

/-- The counter of a follower is at least the number of the request that it has got last. -/
lemma Params.counter_follow (p : Params) (op : Write) (number : ℕ) :
    (p.follow (.numbered op number)).counter = max p.counter number := by
  rcases Nat.lt_or_ge p.counter number with hlt | hle
  · rw [Params.follow_of_lt rfl hlt, Nat.max_eq_right hlt.le]
    rfl
  · rw [Params.follow_of_le rfl hle, Nat.max_eq_left hle]

/-- A follower that takes the write for a new one has its effect. -/
lemma Params.Takes.follow {p : Params} {op : Write} {m n : ℕ} (h : p.Takes m op) (hmn : m ≤ n) :
    (p.follow (.numbered op n)).db = op.apply p.db := by
  rw [Params.db_follow]
  split_ifs with hle
  · rcases h with hlt | hnone
    · omega
    · exact hnone.symm
  · rfl

/-- A follower that takes the write for an old one stays where it is. -/
lemma Params.Drops.follow {p : Params} {op : Write} {n : ℕ} (h : p.Drops n op) :
    (p.follow (.numbered op n)).db = p.db := by
  rw [Params.db_follow]
  split_ifs with hle
  · rfl
  · exact h.resolve_left hle

/-- A follower that has got a request still takes one with a greater number for a new one. -/
lemma Params.Takes.after {p : Params} {op last : Write} {m n : ℕ} (h : p.Takes m op) (hnm : n < m)
    (hdb : (p.follow (.numbered last n)).db = p.db) :
    (p.follow (.numbered last n)).Takes m op := by
  rcases h with hlt | hnone
  · refine .inl ?_
    rw [Params.counter_follow]
    exact max_lt hlt hnm
  · exact .inr (by rwa [hdb])

/-! ## Rounds of a loop -/

/-- Between `v` and `w` the server `me` has sent the write `op` to the servers `js`, as far as it
has stubs for them and they are up. -/
structure Sent (me : ServerId) (js : List ServerId) (op : Write) (v w : World) : Prop where
  later : Later v w
  up : w.crashed me = false
  role : (w.server me).amILeader = (v.server me).amILeader
  db : (w.server me).db = (v.server me).db
  /-- The counter grows by one for each server that has got the request, and so at most by as many
  as there are. -/
  counter : (v.server me).counter ≤ (w.server me).counter ∧
    (w.server me).counter ≤ (v.server me).counter + js.length
  /-- The stubs for servers that are up are the same. -/
  stubs : ∀ service j, w.crashed j = false →
    (w.server me).stubs service j = (v.server me).stubs service j
  other : ∀ s, s ≠ me → s ∉ js → w.server s = v.server s
  /-- A server that is up and has a stub has got the request. -/
  follower : ∀ j ∈ js, w.crashed j = false → (v.server me).stubs op.service j = true →
    ∃ number, (v.server me).counter < number ∧ number ≤ (w.server me).counter ∧
      w.server j = (v.server j).follow (.numbered op number)
  /-- A server that is up and has none is as it was. -/
  unplugged : ∀ j ∈ js, w.crashed j = false → (v.server me).stubs op.service j = false →
    w.server j = v.server j

section Rounds

variable {fate : ℕ → ServerId → Bool} {me : ServerId} {js js' : List ServerId} {op : Write}
  {request : Request} {u v w : World} {h : ServerId → Request → Comp World Response}

/-- No rounds do nothing. -/
lemma Sent.nil (hup : w.crashed me = false) : Sent me [] op w w :=
  ⟨Later.refl w, hup, rfl, rfl, ⟨le_rfl, le_rfl⟩, fun _ _ _ => rfl, fun _ _ _ => rfl,
    fun _ hj => absurd hj List.not_mem_nil, fun _ hj => absurd hj List.not_mem_nil⟩

/-- Rounds after one another, for different servers. -/
lemma Sent.append (hfirst : Sent me js op u v) (hthen : Sent me js' op v w)
    (hdisjoint : ∀ j ∈ js, j ∉ js') (hme : me ∉ js ∧ me ∉ js') : Sent me (js ++ js') op u w := by
  have hsame {j : ServerId} (hj : j ∈ js) : w.server j = v.server j :=
    hthen.other j (fun heq => hme.1 (heq ▸ hj)) (hdisjoint j hj)
  have hstubs {j : ServerId} (hup : w.crashed j = false) (service : Service) :
      (v.server me).stubs service j = (u.server me).stubs service j :=
    hfirst.stubs service j (hthen.later.alive hup)
  have hcounter := hfirst.counter
  have hcounter' := hthen.counter
  refine ⟨hfirst.later.trans hthen.later, hthen.up, hthen.role.trans hfirst.role,
    hthen.db.trans hfirst.db, ?_, ?_, ?_, ?_, ?_⟩
  · rw [List.length_append]
    omega
  · intro service j hup
    exact (hthen.stubs service j hup).trans (hstubs hup service)
  · intro s hs hmem
    rw [List.mem_append, not_or] at hmem
    exact (hthen.other s hs hmem.2).trans (hfirst.other s hs hmem.1)
  · intro j hj hup hstub
    by_cases hj₁ : j ∈ js
    · obtain ⟨number, hlt, hle, hserver⟩ := hfirst.follower j hj₁ (hthen.later.alive hup) hstub
      exact ⟨number, hlt, by omega, (hsame hj₁).trans hserver⟩
    · have hj₂ := (List.mem_append.mp hj).resolve_left hj₁
      obtain ⟨number, hlt, hle, hserver⟩ :=
        hthen.follower j hj₂ hup ((hstubs hup op.service).trans hstub)
      refine ⟨number, by omega, hle, ?_⟩
      rwa [hfirst.other j (fun heq => hme.2 (heq ▸ hj₂)) hj₁] at hserver
  · intro j hj hup hstub
    by_cases hj₁ : j ∈ js
    · exact (hsame hj₁).trans (hfirst.unplugged j hj₁ (hthen.later.alive hup) hstub)
    · have hj₂ := (List.mem_append.mp hj).resolve_left hj₁
      rw [hthen.unplugged j hj₂ hup ((hstubs hup op.service).trans hstub)]
      exact hfirst.other j (fun heq => hme.2 (heq ▸ hj₂)) hj₁

/-- A round of a loop for a server without a stub is skipped. -/
lemma wp_replicateLoop_unplugged {j : ServerId} {Q : Request → World → Prop} {R : World → Prop}
    (hstub : (w.server me).stubs request.write.service j = false)
    (hrest : wp (replicateLoop fate h me js request) Q R w) :
    wp (replicateLoop fate h me (j :: js) request) Q R w := by
  unfold replicateLoop
  rw [wp_bind, wp_params, hstub]
  exact hrest

/-- A round that is skipped, for want of a stub. -/
lemma Sent.skipped {j : ServerId} (hup : w.crashed me = false)
    (hstub : (w.server me).stubs op.service j = false) : Sent me [j] op w w := by
  refine ⟨Later.refl w, hup, rfl, rfl, ⟨le_rfl, Nat.le_add_right _ _⟩, fun _ _ _ => rfl,
    fun _ _ _ => rfl, ?_, fun _ _ _ _ => rfl⟩
  intro i hi _ hplugged
  rw [List.mem_singleton.mp hi, hstub] at hplugged
  cases hplugged

/-- A round in which the follower gets the request. -/
lemma Sent.delivered {j : ServerId} (hne : j ≠ me) (hlater : Later v w)
    (hup : w.crashed me = false) (hplugged : (v.server me).stubs op.service j = true)
    (hserver : w.server = Function.update (Function.update v.server j
      ((v.server j).follow (.numbered op ((v.server me).counter + 1)))) me
        (v.server me).counted) : Sent me [j] op v w := by
  have hself : w.server me = (v.server me).counted := by rw [hserver, Function.update_self]
  have hcounter : (w.server me).counter = (v.server me).counter + 1 := by rw [hself]; rfl
  refine ⟨hlater, hup, by rw [hself]; rfl, by rw [hself]; rfl, ?_,
    fun _ _ _ => by rw [hself]; rfl, ?_, ?_, ?_⟩
  · rw [hcounter, List.length_singleton]
    omega
  · intro s hs hsj
    rw [hserver, Function.update_of_ne hs, Function.update_of_ne (by simpa using hsj)]
  · intro i hi _ _
    obtain rfl := List.mem_singleton.mp hi
    refine ⟨(v.server me).counter + 1, by omega, by omega, ?_⟩
    rw [hserver, Function.update_of_ne hne, Function.update_self]
  · intro i hi _ hno
    rw [List.mem_singleton.mp hi, hplugged] at hno
    cases hno

/-- A round in which the follower is down, and its stub is dropped. -/
lemma Sent.dropped {j : ServerId} (hlater : Later v w) (hup : w.crashed me = false)
    (hdown : w.crashed j = true) (hsame : ∀ s, s ≠ j → s ≠ me → w.server s = v.server s)
    (hself : w.server me = (v.server me).unplugged op.service j) : Sent me [j] op v w := by
  have hcounter : (w.server me).counter = (v.server me).counter := by rw [hself]; rfl
  refine ⟨hlater, hup, by rw [hself]; rfl, by rw [hself]; rfl, ?_, ?_, ?_, ?_, ?_⟩
  · rw [hcounter, List.length_singleton]
    omega
  · intro service i hupi
    have hij : i ≠ j := by
      rintro rfl
      rw [hdown] at hupi
      cases hupi
    rw [hself]
    unfold Params.unplugged
    dsimp only
    split_ifs
    · rw [Function.update_of_ne hij]
    · rfl
  · exact fun s hs hsj => hsame s (by simpa using hsj) hs
  · intro i hi hupi _
    rw [List.mem_singleton.mp hi, hdown] at hupi
    cases hupi
  · intro i hi hupi _
    rw [List.mem_singleton.mp hi, hdown] at hupi
    cases hupi

/-- A loop sends the write to all servers, unless its own server goes down. -/
lemma wp_replicateLoop (hh : ∀ j ∈ js, h j = handle fate j) (hme : me ∉ js) (hnodup : js.Nodup)
    (hup : w.crashed me = false)
    (hrole : ∀ j ∈ js, w.crashed j = false →
      (w.server me).stubs request.write.service j = true → (w.server j).amILeader = false) :
    wp (replicateLoop fate h me js request)
      (fun request' w' => Sent me js request.write w w' ∧ request'.write = request.write ∧
        (request.Fresh (w.server me) → request'.Fresh (w'.server me)))
      (fun w' => w'.crashed me = true) w := by
  induction js generalizing request w with
  | nil => exact ⟨.nil hup, rfl, id⟩
  | cons j js ih =>
    rw [List.mem_cons, not_or] at hme
    obtain ⟨hmej, hmejs⟩ := hme
    obtain ⟨hjjs, hnodup'⟩ := List.nodup_cons.mp hnodup
    have hne : j ≠ me := fun heq => hmej heq.symm
    -- One round, and then the others.
    have hround : ∀ {request' : Request} {w₁ : World}, Sent me [j] request.write w w₁ →
        request'.write = request.write →
        (request.Fresh (w.server me) → request'.Fresh (w₁.server me)) →
        wp (replicateLoop fate h me js request')
          (fun request'' w' => Sent me (j :: js) request.write w w' ∧
            request''.write = request.write ∧
            (request.Fresh (w.server me) → request''.Fresh (w'.server me)))
          (fun w' => w'.crashed me = true) w₁ := by
      intro request' w₁ hsent hwrite hfresh
      have hrole₁ : ∀ i ∈ js, w₁.crashed i = false →
          (w₁.server me).stubs request'.write.service i = true →
          (w₁.server i).amILeader = false := by
        intro i hi hupi hstub
        rw [hsent.stubs _ i hupi, hwrite] at hstub
        rw [hsent.other i (fun heq => hmejs (heq ▸ hi))
          (by rintro (_ | ⟨_, ⟨⟩⟩); exact hjjs hi)]
        exact hrole i (List.mem_cons_of_mem _ hi) (hsent.later.alive hupi) hstub
      refine wp_mono (ih (fun i hi => hh i (List.mem_cons_of_mem _ hi)) hmejs hnodup' hsent.up
        hrole₁) ?_ fun w' hcut => hcut
      rintro request'' w' ⟨hrest, hwrite', hfresh'⟩
      rw [hwrite] at hrest hwrite'
      exact ⟨hsent.append hrest (by simpa using hjjs) ⟨by simpa using hmej, hmejs⟩, hwrite',
        fun hf => hfresh' (hfresh hf)⟩
    by_cases hstub : (w.server me).stubs request.write.service j = false
    · exact wp_replicateLoop_unplugged hstub (hround (.skipped hup hstub) rfl id)
    have hplugged : (w.server me).stubs request.write.service j = true := by simpa using hstub
    refine wp_replicateLoop_cons (hh j List.mem_cons_self) hne
      (fun hupj => hrole j List.mem_cons_self hupj hplugged) (fun hno => absurd hno hstub)
      ?_ ?_ fun w' _ hdown _ _ => hdown
    · intro w₁ hlater hup₁ hserver
      exact hround (.delivered hne hlater hup₁ hplugged hserver) rfl fun _ => .inl rfl
    · intro w₁ hlater hup₁ hdown hsame hself
      have hcounter : (w₁.server me).counter = (w.server me).counter := by rw [hself]; rfl
      exact hround (.dropped hlater hup₁ hdown hsame hself) rfl
        fun _ => .inr (by rw [hcounter]; rfl)

end Rounds

/-! ## A client's call -/

/-- The server `k` has a stub for the server `j`, which is up. -/
def World.Reaches (w : World) (k j : ServerId) : Prop :=
  k < j ∧ w.crashed j = false ∧ ∃ service, (w.server k).stubs service j = true

/-- The request that a server replays when a client's request comes to it. -/
def Params.replays (p : Params) : Option Request := if p.amILeader then none else p.lastRequest

/-- The counters of a server `p` to which a client's request for `op` comes, and of a server `q` to
which it replicates, fit: what is replayed is taken for an old request, and the write for a new
one. -/
def Params.Fits (op : Write) (p q : Params) : Prop :=
  match p.replays with
  | none => q.Takes (p.counter + 1) op
  | some last => q.Drops (p.counter + 1) last.write ∧ q.Takes (p.counter + 2) op

/-- Between `w` and `w'` the server `k` has become the leader, if it was not, and the followers that
it reaches are where they were and will take the write `op` for a new one. -/
structure TakenOver (op : Write) (k : ServerId) (w w' : World) : Prop where
  later : Later w w'
  up : w'.crashed k = false
  leader : (w'.server k).amILeader = true
  db : (w'.server k).db = (w.server k).db
  stubs : ∀ service j, w'.crashed j = false →
    (w'.server k).stubs service j = (w.server k).stubs service j
  /-- Servers that it does not reach are as they were. -/
  other : ∀ s, s ≠ k → w'.crashed s = false → ¬ w.Reaches k s → w'.server s = w.server s
  /-- The others have the same database, role and stubs. -/
  follower : ∀ j, w.Reaches k j → w'.crashed j = false →
    (w'.server j).db = (w.server j).db ∧ (w'.server j).amILeader = (w.server j).amILeader ∧
      (w'.server j).stubs = (w.server j).stubs ∧
      (w'.server j).Takes ((w'.server k).counter + 1) op

/-- Between `w` and `w'` the server `k` has answered a client's request for the write `op`, and so
have all servers performed it that `k` reaches. -/
structure Performed (op : Write) (k : ServerId) (w w' : World) : Prop where
  later : Later w w'
  up : w'.crashed k = false
  leader : (w'.server k).amILeader = true
  db : (w'.server k).db = op.apply (w.server k).db
  /-- Its stubs for servers that are up are the same. -/
  stubs : ∀ service j, w'.crashed j = false →
    (w'.server k).stubs service j = (w.server k).stubs service j
  /-- Servers that it does not reach are as they were. -/
  other : ∀ s, s ≠ k → w'.crashed s = false → ¬ w.Reaches k s → w'.server s = w.server s
  /-- The others have performed the write, in the same role and with the same stubs. -/
  follower : ∀ j, w.Reaches k j → w'.crashed j = false →
    (w'.server j).db = op.apply (w.server j).db ∧
      (w'.server j).amILeader = (w.server j).amILeader ∧
      (w'.server j).stubs = (w.server j).stubs

section Call

variable {fate : ℕ → ServerId → Bool} {k : ServerId} {op : Write} {w : World}
  {h : ServerId → Request → Comp World Response}

/-- A server is not behind itself. -/
lemma notMem_followers (k : ServerId) : k ∉ followers k := by decide +revert

/-- Every server is behind another one at most once. -/
lemma nodup_followers (k : ServerId) : (followers k).Nodup := by decide +revert

/-- Only server 0 has more than one follower. -/
lemma length_followers_le_one {k : ServerId} (hk : k ≠ 0) : (followers k).length ≤ 1 := by
  decide +revert

/-- A server that is up, behind another one and not reached has no stub there. -/
lemma World.stub_of_not_reaches {j : ServerId} (hj : k < j) (hup : w.crashed j = false)
    (hnot : ¬ w.Reaches k j) (service : Service) : (w.server k).stubs service j = false := by
  by_contra hstub
  exact hnot ⟨hj, hup, service, by simpa using hstub⟩

/-- A server that takes over replays its last request, and the servers that it reaches drop it. -/
lemma wp_takeOver (hk : k ≠ 0) (hh : ∀ j, k < j → h j = handle fate j) (hup : w.crashed k = false)
    (hrole : (w.server k).amILeader = false)
    (hfit : ∀ j, w.Reaches k j → (w.server j).amILeader = false ∧
      (∀ service, (w.server k).stubs service j = true) ∧ (w.server k).Fits op (w.server j)) :
    wp (takeOver fate h k) (fun _ w' => TakenOver op k w w') (fun w' => w'.crashed k = true) w := by
  have hself : (w.set k fun p => { p with amILeader := true }).server k =
      { w.server k with amILeader := true } := by rw [server_set, Function.update_self]
  have hother : ∀ s, s ≠ k →
      (w.set k fun p => { p with amILeader := true }).server s = w.server s := fun s hs => by
    rw [server_set, Function.update_of_ne hs]
  have hreplays : (w.server k).replays = (w.server k).lastRequest := by
    rw [Params.replays, hrole]
    rfl
  refine wp_takeOver_cases (fun hlast => ?_) fun last hlast => ?_
  · refine ⟨Later.refl w, hup, by rw [hself], by rw [hself], fun _ _ _ => by rw [hself],
      fun s hs _ _ => hother s hs, ?_⟩
    intro j hj _
    obtain ⟨-, -, hfits⟩ := hfit j hj
    rw [Params.Fits, hreplays, hlast] at hfits
    rw [hother j (ne_of_gt hj.1), hself]
    exact ⟨rfl, rfl, rfl, hfits⟩
  · have hone := length_followers_le_one hk
    refine wp_mono (wp_replicateLoop
      (fun j hj => hh j (mem_followers.mp hj)) (notMem_followers k) (nodup_followers k) hup ?_)
      ?_ fun w' hcut => hcut
    · intro j hj hupj hstub
      have hlt := mem_followers.mp hj
      rw [hself] at hstub
      rw [hother j (ne_of_gt hlt)]
      exact (hfit j ⟨hlt, hupj, _, hstub⟩).1
    rintro last' w₁ ⟨hsent, -, -⟩
    have hafter : ∀ s, s ≠ k →
        (w₁.set k fun p => { p with lastRequest := some last' }).server s = w₁.server s :=
      fun s hs => by rw [server_set, Function.update_of_ne hs]
    have hme : (w₁.set k fun p => { p with lastRequest := some last' }).server k =
        { w₁.server k with lastRequest := some last' } := by rw [server_set, Function.update_self]
    have hcounter := hsent.counter
    rw [hself] at hcounter
    refine ⟨hsent.later, hsent.up, ?_, ?_, ?_, ?_, ?_⟩
    · rw [hme]
      exact hsent.role.trans (by rw [hself])
    · rw [hme]
      exact hsent.db.trans (by rw [hself])
    · intro service j hupj
      rw [hme]
      exact (hsent.stubs service j hupj).trans (by rw [hself])
    · intro s hs hups hnot
      rw [hafter s hs, ← hother s hs]
      by_cases hmem : s ∈ followers k
      · have hups₀ : w.crashed s = false := hsent.later.alive hups
        refine hsent.unplugged s hmem hups ?_
        rw [hself]
        exact World.stub_of_not_reaches (mem_followers.mp hmem) hups₀ hnot _
      · exact hsent.other s hs hmem
    · intro j hj hupj
      obtain ⟨-, hstubs, hfits⟩ := hfit j hj
      rw [Params.Fits, hreplays, hlast] at hfits
      obtain ⟨number, hlt, hle, hserver⟩ := hsent.follower j (mem_followers.mpr hj.1) hupj
        (by rw [hself]; exact hstubs last.write.service)
      rw [hself] at hlt
      rw [hother j (ne_of_gt hj.1)] at hserver
      -- There is one follower, so its number is the next one.
      have hnumber : number = (w.server k).counter + 1 := by
        dsimp only at hlt hcounter
        omega
      have hcounter' : (w₁.server k).counter = (w.server k).counter + 1 := by
        dsimp only at hlt hcounter
        omega
      subst hnumber
      have hdb := hfits.1.follow
      rw [hafter j (ne_of_gt hj.1), hme, hserver]
      refine ⟨hdb, (Params.follow_role _ _).1, (Params.follow_role _ _).2, ?_⟩
      dsimp only
      rw [hcounter']
      exact hfits.2.after (Nat.lt_succ_self _) hdb

/-- A server to which a client's request comes performs it together with the servers that it
reaches, if their counters fit, unless it goes down. -/
lemma wp_handle (hup : w.crashed k = false)
    (hfirst : k = 0 → (w.server k).amILeader = true)
    (hfit : ∀ j, w.Reaches k j → (w.server j).amILeader = false ∧
      (∀ service, (w.server k).stubs service j = true) ∧ (w.server k).Fits op (w.server j)) :
    wp (handle fate k (.ofClient op)) (fun _ w' => Performed op k w w')
      (fun w' => w'.crashed k = true) w := by
  obtain ⟨h, hserve, hh⟩ := handle_eq_serve fate k
  rw [hserve, wp_serve]
  refine wp_replicate_client (TakenOver op k w) rfl (fun hrole => ?_) (fun hrole => ?_) ?_
  · have hk : k ≠ 0 := fun heq => by
      rw [hfirst heq] at hrole
      cases hrole
    exact wp_takeOver hk hh hup hrole hfit
  · refine ⟨Later.refl w, hup, hrole, rfl, fun _ _ _ => rfl, fun _ _ _ _ => rfl, ?_⟩
    intro j hj _
    obtain ⟨-, -, hfits⟩ := hfit j hj
    rw [Params.Fits, Params.replays, if_pos hrole] at hfits
    exact ⟨rfl, rfl, rfl, hfits⟩
  intro w₁ hover
  refine ⟨hover.leader, wp_mono (wp_replicateLoop (fun j hj => hh j (mem_followers.mp hj))
    (notMem_followers k) (nodup_followers k) hover.up ?_) ?_ fun w' hcut => hcut⟩
  · intro j hj hupj hstub
    have hlt := mem_followers.mp hj
    rw [hover.stubs _ j hupj] at hstub
    have hreach : w.Reaches k j := ⟨hlt, hover.later.alive hupj, _, hstub⟩
    rw [(hover.follower j hreach hupj).2.1]
    exact (hfit j hreach).1
  rintro request w₂ ⟨hsent, hwrite, hfresh⟩
  have hcomplete := (Params.complete_of_fresh (hfresh (.inl rfl))).1
  rw [hwrite] at hcomplete
  refine wp_finish (fun w₃ hlater hup₃ hserver => ?_) fun w₃ _ hdown _ => hdown
  have hself : w₃.server k = (w₂.server k).complete request := by
    rw [hserver, Function.update_self]
  have hother : ∀ s, s ≠ k → w₃.server s = w₂.server s := fun s hs => by
    rw [hserver, Function.update_of_ne hs]
  refine ⟨(hover.later.trans hsent.later).trans hlater, hup₃, ?_, ?_, ?_, ?_, ?_⟩
  · rw [hself, hcomplete]
    exact hsent.role.trans hover.leader
  · rw [hself, hcomplete]
    exact congrArg op.apply (hsent.db.trans hover.db)
  · intro service j hupj
    rw [hself, hcomplete]
    exact (hsent.stubs service j (hlater.alive hupj)).trans
      (hover.stubs service j (hsent.later.alive (hlater.alive hupj)))
  · intro s hs hups hnot
    have hups₂ := hlater.alive hups
    have hups₁ := hsent.later.alive hups₂
    rw [hother s hs, ← hover.other s hs hups₁ hnot]
    by_cases hmem : s ∈ followers k
    · refine hsent.unplugged s hmem hups₂ ?_
      rw [hover.stubs _ s hups₁]
      exact World.stub_of_not_reaches (mem_followers.mp hmem) (hover.later.alive hups₁) hnot _
    · exact hsent.other s hs hmem
  · intro j hj hupj
    have hupj₂ := hlater.alive hupj
    have hupj₁ := hsent.later.alive hupj₂
    obtain ⟨hdb, hrole, hstubs, htakes⟩ := hover.follower j hj hupj₁
    obtain ⟨number, hlt, -, hfollow⟩ := hsent.follower j (mem_followers.mpr hj.1) hupj₂
      ((hover.stubs _ j hupj₁).trans ((hfit j hj).2.1 _))
    rw [hother j (ne_of_gt hj.1), hfollow]
    refine ⟨?_, (Params.follow_role _ _).1.trans hrole, (Params.follow_role _ _).2.trans hstubs⟩
    exact (htakes.follow hlt).trans (congrArg op.apply hdb)

end Call

end Chat262.Replication
