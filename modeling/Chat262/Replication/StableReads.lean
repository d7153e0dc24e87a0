import Chat262.Replication.Attempts

/-!
# Reads across failover

A server answers reads from its own database and does not become the leader by them, so it does not
replay the last request that it has seen either.  When server 0 stops in the middle of a write, a
read at server 1 may show a message that server 2 does not have, and when server 1 stops as well, a
later read at server 2 does not show it any more (`read_is_lost`).

In every run at most one write has not come to all servers that are up (`Unfinished`), and it is the
last request of server 1.  So what a read shows stays exactly if it is not `Missing` on a server
behind the one that answers (`read_stays_iff`).
-/

namespace Chat262.Replication

open Foundation Comp

/-! ## Between attempts -/

/-- Between attempts: some write may have been cut off in the middle. -/
def Unfinished (w : World) : Prop := ∃ κ op E, InCall κ op E w

section Between

variable {fate : ℕ → ServerId → Bool} {κ : ServerId → ℕ} {op : Write} {E : Db} {w w' : World}

/-- Servers that stop leave it at that. -/
lemma Unfinished.later (h : Unfinished w) (hlater : Later w w') (hsame : w'.server = w.server) :
    Unfinished w' := by
  obtain ⟨κ, op, E, hcall⟩ := h
  exact ⟨κ, op, E, hcall.later hlater hsame⟩

/-- A leader that is ready for one write is ready for any other. -/
lemma Ready.rebase {me : ServerId} (h : Ready κ op E me (followers me) w) (op' : Write) :
    Ready (fun s => (w.server s).counter) op' (w.server me).db me (followers me) w where
  led := h.led
  ahead := h.ahead
  touched j hj hup := by
    have hdb := h.db j hj hup
    rw [if_pos (mem_followers.mpr hj)] at hdb
    exact .inl ⟨rfl, hdb⟩
  db j hj hup := by
    have hdb := h.db j hj hup
    rw [if_pos (mem_followers.mpr hj)] at hdb ⊢
    exact hdb
  synced := h.synced

/-- A write that comes to a server finishes whatever has been cut off before, and then the servers
that are up agree on the database of that server with the write performed; or the server goes
down. -/
lemma Unfinished.handle {me : ServerId} (h : Unfinished w) (hup : w.crashed me = false)
    (hbefore : ∀ j, j < me → w.crashed j = true) (op' : Write) :
    wp (handle fate me (.ofClient op'))
      (fun r w' => Later w w' ∧ Unfinished w' ∧ w'.crashed me = false ∧
        Agree (op'.apply (w.server me).db) w' ∧ r = (op'.perform (w.server me).db).1)
      (fun w' => Later w w' ∧ w'.crashed me = true ∧ Unfinished w') w := by
  obtain ⟨κ, op, E, hcall⟩ := h
  obtain ⟨h, hserve, hh⟩ := handle_eq_serve fate me
  rw [hserve, wp_serve]
  refine wp_replicate_client (fun w₁ => Later w w₁ ∧ (w₁.server me).db = (w.server me).db ∧
    ∃ κ' E', Ready κ' op' E' me (followers me) w₁) rfl ?_ ?_ ?_
  · intro hrole
    refine wp_mono (hcall.takeOver hup hrole hbefore hh) ?_ ?_
    · intro _ w₁ hready
      exact ⟨hready.1, hready.2.2, _, _, hready.2.1.rebase op'⟩
    · intro w₁ hcut
      exact ⟨hcut.1, hcut.2.1, κ, op, E, hcut.2.2⟩
  · intro hrole
    exact ⟨Later.refl w, rfl, _, _, (hcall.ready ⟨hcall.standing, hup, hrole⟩).rebase op'⟩
  · rintro w₁ ⟨hlater, hdb, κ', E', hready⟩
    have hcut : ∀ w₂, Later w₁ w₂ ∧ w₂.crashed me = true ∧ InCall κ' op' E' w₂ →
        Later w w₂ ∧ w₂.crashed me = true ∧ Unfinished w₂ := fun w₂ hcut =>
      ⟨hlater.trans hcut.1, hcut.2.1, κ', op', E', hcut.2.2⟩
    refine ⟨hready.led.leader, wp_mono (hready.conclude hh) ?_ hcut⟩
    intro request w₂ hend
    refine wp_mono hend ?_ hcut
    rintro r w₃ ⟨hlater', hup', hagree, hr⟩
    rw [hdb] at hagree hr
    exact ⟨hlater.trans hlater', ⟨_, op', _, hagree.inCall op'⟩, hup', hagree, hr⟩

/-- A read on a server shows the database of the server, and changes nothing. -/
lemma wp_serveRead {me : ServerId} (op : Read) (w : World) :
    wp (serveRead fate me op)
      (fun answer w' => Later w w' ∧ w'.server = w.server ∧ w'.crashed me = false ∧
        answer = op.perform (w.server me).db)
      (fun w' => Later w w' ∧ w'.server = w.server ∧ w'.crashed me = true) w := by
  unfold serveRead
  rw [wp_bind]
  refine wp_crashPoint ?_ fun w₁ h₁ hdown hsame₁ => ⟨h₁, hsame₁, hdown⟩
  intro w₁ h₁ _ hsame₁
  rw [wp_bind, wp_params, wp_bind, hsame₁]
  refine wp_crashPoint ?_ fun w₂ h₂ hdown hsame₂ => ⟨h₁.trans h₂, hsame₂.trans hsame₁, hdown⟩
  intro w₂ h₂ hup hsame₂
  exact ⟨h₁.trans h₂, hsame₂.trans hsame₁, hup, rfl⟩

/-- What the code that an attempt runs may come to, the attempt may come to. -/
lemma attempt_cases {k : ServerId} {p : Procedure} {answer : Option Answer}
    {Q : Answer → World → Prop} {R : World → Prop}
    (hattempt : attempt fate k p w = (answer, w'))
    (hspec : (w.tick fate).crashed k = false → wp (serveProcedure fate k p) Q R (w.tick fate)) :
    answer = none ∧ w' = w.tick fate ∧ w'.crashed k = true ∨
      answer = none ∧ R w' ∧ (w.tick fate).crashed k = false ∨
      ∃ a, answer = some a ∧ Q a w' ∧ (w.tick fate).crashed k = false := by
  unfold attempt at hattempt
  rw [rpc_eq] at hattempt
  by_cases hup : (w.tick fate).crashed k = true
  · rw [if_pos hup] at hattempt
    cases hattempt
    exact .inl ⟨rfl, rfl, hup⟩
  · have hup' : (w.tick fate).crashed k = false := by simpa using hup
    rw [if_neg hup] at hattempt
    unfold Comp.attempt at hattempt
    rcases hrun : serveProcedure fate k p (w.tick fate) with ⟨_ | a, t⟩
    · rw [hrun] at hattempt
      cases hattempt
      exact .inr (.inl ⟨rfl, of_wp_of_eq_none (hspec hup') hrun, hup'⟩)
    · rw [hrun] at hattempt
      cases hattempt
      exact .inr (.inr ⟨a, rfl, of_wp_of_eq_some (hspec hup') hrun, hup'⟩)

/-- After an attempt at most one write has been cut off, and when the attempt fails, the server is
down. -/
lemma Unfinished.attempt {k : ServerId} {p : Procedure} {answer : Option Answer}
    (h : Unfinished w) (hbefore : ∀ j, j < k → w.crashed j = true)
    (hattempt : attempt fate k p w = (answer, w')) :
    Unfinished w' ∧ (answer = none → w'.crashed k = true) := by
  have htick := h.later (later_tick fate w) (server_tick w)
  have hbefore' : ∀ j, j < k → (w.tick fate).crashed j = true := fun j hj =>
    later_tick fate w j (hbefore j hj)
  have hspec : (w.tick fate).crashed k = false → wp (serveProcedure fate k p)
      (fun _ w' => Unfinished w') (fun w' => w'.crashed k = true ∧ Unfinished w')
      (w.tick fate) := by
    intro hup
    cases p with
    | write op =>
      refine wp_bind.mpr (wp_mono (htick.handle hup hbefore' op) ?_ fun w₁ hcut => hcut.2)
      exact fun r w₁ hdone => hdone.2.1
    | read op =>
      refine wp_mono (wp_serveRead op (w.tick fate)) ?_ ?_
      · intro _ w₁ hdone
        exact htick.later hdone.1 hdone.2.1
      · intro w₁ hcut
        exact ⟨hcut.2.2, htick.later hcut.1 hcut.2.1⟩
  rcases attempt_cases hattempt hspec with ⟨-, rfl, hdown⟩ | ⟨-, hcut, -⟩ | ⟨a, rfl, hdone, -⟩
  · exact ⟨htick, fun _ => hdown⟩
  · exact ⟨hcut.2, fun _ => hcut.1⟩
  · exact ⟨hdone, fun hnone => by cases hnone⟩

/-- After an answered write, the servers that are up have the database of the server that has
answered it, with the write performed. -/
lemma Unfinished.attempt_write {k : ServerId} {op : Write} {a : Answer} (h : Unfinished w)
    (hbefore : ∀ j, j < k → w.crashed j = true)
    (hattempt : Replication.attempt fate k (.write op) w = (some a, w')) :
    w'.crashed k = false ∧ Agree (op.apply (w.server k).db) w' ∧
      a = .response (op.perform (w.server k).db).1 := by
  have htick := h.later (later_tick fate w) (server_tick w)
  have hbefore' : ∀ j, j < k → (w.tick fate).crashed j = true := fun j hj =>
    later_tick fate w j (hbefore j hj)
  have hspec (hup : (w.tick fate).crashed k = false) : wp (serveProcedure fate k (.write op))
      (fun a w' => w'.crashed k = false ∧ Agree (op.apply (w.server k).db) w' ∧
        a = .response (op.perform (w.server k).db).1) (fun _ => True) (w.tick fate) := by
    refine wp_bind.mpr (wp_mono (htick.handle hup hbefore' op) ?_ fun _ _ => trivial)
    rintro r w₁ ⟨-, -, hup₁, hagree, rfl⟩
    exact ⟨hup₁, hagree, rfl⟩
  rcases attempt_cases hattempt hspec with ⟨hnone, -⟩ | ⟨hnone, -⟩ | ⟨a', ha, hdone, -⟩
  · cases hnone
  · cases hnone
  · cases ha
    exact hdone

/-- An answered read shows the database of the server, and changes nothing. -/
lemma attempt_read {k : ServerId} {op : Read} {a : Answer}
    (hattempt : attempt fate k (.read op) w = (some a, w')) :
    Later w w' ∧ w'.server = w.server ∧ w.crashed k = false ∧ w'.crashed k = false ∧
      a = op.perform (w.server k).db := by
  have hspec : (w.tick fate).crashed k = false → wp (serveProcedure fate k (.read op)) _ _
    (w.tick fate) := fun _ => wp_serveRead op (w.tick fate)
  rcases attempt_cases hattempt hspec with ⟨hnone, -⟩ | ⟨hnone, -⟩ | ⟨a', ha, hdone, hup⟩
  · cases hnone
  · cases hnone
  · cases ha
    obtain ⟨hlater, hsame, hup', hanswer⟩ := hdone
    exact ⟨(later_tick fate w).trans hlater, hsame, (later_tick fate w).alive hup, hup', hanswer⟩

/-- When no server stops, a server that is up answers a read. -/
lemma attempt_of_up {k : ServerId} (op : Read) (hup : w.crashed k = false) :
    ∃ w', attempt (fun _ _ => false) k (.read op) w = (some (op.perform (w.server k).db), w') ∧
      w'.server = w.server ∧ w'.crashed = w.crashed := by
  have htick : ∀ v : World, (v.tick fun _ _ => false).crashed = v.crashed := fun v => by
    funext s
    simp [World.tick]
  have hread : ∀ v : World, v.crashed k = false → serveRead (fun _ _ => false) k op v =
      (some (op.perform (v.server k).db), (v.tick fun _ _ => false).tick fun _ _ => false) := by
    intro v hv
    refine eq_of_wp ?_
    unfold serveRead
    rw [wp_bind]
    refine wp_proceed (fun _ => ?_) fun hdown => ?_
    · rw [wp_bind, wp_params, wp_bind]
      refine wp_proceed (fun _ => ?_) fun hdown => ?_
      · exact ⟨rfl, rfl⟩
      · rw [htick, htick, hv] at hdown
        cases hdown
    · rw [htick, hv] at hdown
      cases hdown
  have hup' : (w.tick fun _ _ => false).crashed k = false := by rw [htick, hup]
  have hserve : serveProcedure (fun _ _ => false) k (.read op) (w.tick fun _ _ => false) = _ :=
    hread _ hup'
  refine ⟨((w.tick fun _ _ => false).tick fun _ _ => false).tick fun _ _ => false, ?_, rfl,
    by rw [htick, htick, htick]⟩
  unfold attempt
  rw [rpc_eq, if_neg (by simp [hup'])]
  unfold Comp.attempt
  rw [hserve, server_tick]

/-- When the server stops at once, the attempt fails. -/
lemma attempt_of_stop (k : ServerId) (p : Procedure) (w : World) :
    attempt (fun _ s => s = k) k p w = (none, w.tick fun _ s => s = k) := by
  have hdown : (w.tick fun _ s => s = k).crashed k = true := by simp [World.tick]
  unfold attempt
  rw [rpc_eq, if_pos hdown]

end Between

/-! ## What may be missing -/

/-- The server `k` is up and not the leader, its last request is a message that it has stored for
the receiver `r`, and a server behind it that is up has not processed that request: it would not
take it for one that it has seen before. -/
def Missing (r : String) (k : ServerId) (w : World) : Prop :=
  w.crashed k = false ∧ (w.server k).amILeader = false ∧
  ∃ q s b, (w.server k).lastRequest = some q ∧ q.write = .sendMessage s r b ∧
    s ∈ (w.server k).db.passwords ∧ r ∈ (w.server k).db.passwords ∧
    ∃ j, k < j ∧ w.crashed j = false ∧ (w.server j).counter ≤ (w.server k).counter

section Missing

variable {w : World} {r : String}

/-- A write changes the messages of a receiver only by sending one. -/
lemma messages_apply_of_not {op : Write} {db : Db}
    (h : ∀ s b, op = .sendMessage s r b → ¬ (s ∈ db.passwords ∧ r ∈ db.passwords)) :
    (op.apply db).messages r = db.messages r := by
  unfold Write.apply
  cases op with
  | register u p =>
    by_cases hu : u ∈ db.passwords
    · rw [perform_register_of_mem hu]
    · rw [perform_register_of_notMem hu]
  | deleteAccount u p =>
    change (deleteAccount u p db).2.messages r = _
    unfold deleteAccount
    split_ifs <;> rfl
  | sendMessage s r' b =>
    by_cases hsr : s ∈ db.passwords ∧ r' ∈ db.passwords
    · rw [perform_sendMessage_of_mem hsr]
      have hne : r ≠ r' := by
        rintro rfl
        exact h s b rfl hsr
      exact Function.update_of_ne hne ..
    · rw [perform_sendMessage_of_not hsr]

/-- What a server shows to a receiver is there on every server that is up, unless it is missing
there. -/
lemma Unfinished.shown (h : Unfinished w) {k : ServerId} (hup : w.crashed k = false)
    (hbefore : ∀ j, j < k → w.crashed j = true) (hmissing : ¬ Missing r k w) {s : ServerId}
    (hs : w.crashed s = false) :
    (w.server k).db.messages r = (w.server s).db.messages r := by
  obtain ⟨κ, op, E, hcall⟩ := h
  rcases lt_trichotomy s k with hlt | rfl | hlt
  · rw [hbefore s hlt] at hs
    cases hs
  · rfl
  cases hrole : (w.server k).amILeader with
  | true =>
    have hagree := hcall.calm k ⟨hcall.standing, hup, hrole⟩
    rw [hagree.db k hup, hagree.db s hs]
  | false =>
    obtain ⟨rfl, rfl⟩ := hcall.standing.eq_one_of_follower hup hrole hlt
    rcases hcall.pair hup hs hrole with ⟨-, hdb⟩ | ⟨⟨q, hlast, hop⟩, hcounter, hdb⟩
    · rw [hdb]
    · rw [hdb]
      refine messages_apply_of_not fun sender b hsend hregistered => hmissing ?_
      have hpasswords : (w.server 1).db.passwords = (w.server 2).db.passwords := by
        rw [hdb, hsend, passwords_apply_sendMessage]
      refine ⟨hup, hrole, q, sender, b, hlast, hop.trans hsend, ?_, ?_, 2, by decide, hs, hcounter⟩
      · rw [hpasswords]
        exact hregistered.1
      · rw [hpasswords]
        exact hregistered.2

/-- What is missing is missing on server 2, which is one message behind server 1. -/
lemma Unfinished.behind (h : Unfinished w) {k : ServerId} (hmissing : Missing r k w) :
    k = 1 ∧ w.crashed 2 = false ∧
      ∃ m, (w.server 1).db.messages r = (w.server 2).db.messages r ++ [m] := by
  obtain ⟨κ, op, E, hcall⟩ := h
  obtain ⟨hup, hrole, q, s, b, hlast, hsend, hsender, hreceiver, j, hj, hupj, hcounter⟩ := hmissing
  obtain ⟨rfl, rfl⟩ := hcall.standing.eq_one_of_follower hup hrole hj
  refine ⟨rfl, hupj, ⟨s, r, b⟩, ?_⟩
  rcases hcall.pair hup hupj hrole with ⟨⟨hnone, -⟩ | ⟨-, hahead⟩, -⟩ | ⟨⟨q', hlast', hop⟩, -, hdb⟩
  · rw [hlast] at hnone
    cases hnone
  · omega
  · obtain rfl : q = q' := Option.some.inj (hlast.symm.trans hlast')
    have happly : (w.server 1).db = (Write.sendMessage s r b).apply (w.server 2).db := by
      rw [hdb, ← hop, hsend]
    rw [happly, passwords_apply_sendMessage] at hsender hreceiver
    rw [happly]
    unfold Write.apply
    rw [perform_sendMessage_of_mem ⟨hsender, hreceiver⟩]
    exact Function.update_self ..

end Missing

/-! ## Runs of attempts -/

section Runs

variable {ι : Type} [DecidableEq ι]

/-- What holds between attempts: at most one write has been cut off, and no client has passed over
a server that is up. -/
structure Clients.Settled (sys : Clients ι) : Prop where
  unfinished : Unfinished sys.world
  /-- The servers before the one that a client takes for the leader are down. -/
  passed : ∀ c (j : ServerId), j < sys.currLeader c → sys.world.crashed j = true

/-- An attempt keeps it. -/
lemma Clients.Settled.tryOnce {a : Attempt ι} {sys sys' : Clients ι} {answer : Option Answer}
    (h : sys.Settled) (hstep : tryOnce a sys = .ok (answer, sys')) : sys'.Settled := by
  obtain ⟨k, hk, -, hattempt, hleader⟩ := tryOnce_cases hstep
  have hbefore : ∀ j, j < k → sys.world.crashed j = true := fun j hj =>
    h.passed a.client j (hk ▸ hj)
  have hlater : Later sys.world sys'.world := by
    have := (grown_attempt a.fate k a.procedure sys.world).later
    rwa [hattempt] at this
  obtain ⟨hunfinished, hdown⟩ := h.unfinished.attempt hbefore hattempt
  refine ⟨hunfinished, fun c j hj => ?_⟩
  rw [hleader] at hj
  by_cases hc : c = a.client
  · rw [hc, Function.update_self] at hj
    cases answer with
    | some _ => exact hlater j (hbefore j hj)
    | none =>
      rcases Nat.lt_or_eq_of_le (Nat.le_of_lt_succ hj) with hlt | heq
      · exact hlater j (hbefore j hlt)
      · rw [Fin.ext heq]
        exact hdown rfl
  · rw [Function.update_of_ne hc] at hj
    exact hlater j (h.passed c j hj)

/-- Every run keeps it. -/
lemma settled_of_run {db : Db} {calls : List (Attempt ι)} {sys : Clients ι}
    (hrun : Foundation.run Replication.tryOnce calls (.fresh db) = .ok sys) : sys.Settled := by
  refine run_invariant (G := fun _ _ => True) ?_ (guarded_true calls _) hrun ?_
  · intro a sys answer sys' h _ hstep
    exact h.tryOnce hstep
  · have hsteady := (System.steady_fresh db : (System.fresh db : System ι).Steady db)
    exact ⟨⟨_, .register "" "", db, hsteady.agree.inCall _⟩, hsteady.passed⟩

/-- The client `c` can call `ReceiveMessage` for `r`, and the server that it calls has a message for
`r` that is missing on a server behind it. -/
def Clients.Missing (c : ι) (r : String) (sys : Clients ι) : Prop :=
  (sys.pending c = none ∨ sys.pending c = some (.read (.receiveMessage r))) ∧
    ∃ k : ServerId, (k : ℕ) = sys.currLeader c ∧ Replication.Missing r k sys.world

/-- An attempt that a client may make, and that is answered. -/
lemma tryOnce_of_answer {a : Attempt ι} (sys : Clients ι) {k : ServerId} {answer : Answer}
    {w : World} (hk : (k : ℕ) = sys.currLeader a.client)
    (hdue : sys.pending a.client = none ∨ sys.pending a.client = some a.procedure)
    (hattempt : attempt a.fate k a.procedure sys.world = (some answer, w)) :
    tryOnce a sys =
      .ok (some answer, ⟨w, sys.currLeader, Function.update sys.pending a.client none⟩) := by
  have hlt : sys.currLeader a.client < 3 := hk ▸ k.isLt
  obtain rfl : k = ⟨sys.currLeader a.client, hlt⟩ := Fin.ext hk
  unfold tryOnce
  rw [dif_pos ⟨hlt, hdue⟩, hattempt]

/-- An attempt that a client may make, and that fails. -/
lemma tryOnce_of_failure {a : Attempt ι} (sys : Clients ι) {k : ServerId} {w : World}
    (hk : (k : ℕ) = sys.currLeader a.client)
    (hdue : sys.pending a.client = none ∨ sys.pending a.client = some a.procedure)
    (hattempt : attempt a.fate k a.procedure sys.world = (none, w)) :
    tryOnce a sys =
      .ok (none, ⟨w, Function.update sys.currLeader a.client (sys.currLeader a.client + 1),
        Function.update sys.pending a.client (some a.procedure)⟩) := by
  have hlt : sys.currLeader a.client < 3 := hk ▸ k.isLt
  obtain rfl : k = ⟨sys.currLeader a.client, hlt⟩ := Fin.ext hk
  unfold tryOnce
  rw [dif_pos ⟨hlt, hdue⟩, hattempt]

/-- In every run, what a `ReceiveMessage` call is answered stays at the beginning of what every
later one for the same receiver is answered, at whichever server and whatever else happens, if and
only if no message for the receiver is missing behind the server that is called. -/
theorem read_stays_iff {db : Db} {calls : List (Attempt ι)} {sys : Clients ι}
    (hrun : Foundation.run tryOnce calls (.fresh db) = .ok sys) (c : ι) (r : String) :
    (∀ fate chats sys',
      tryOnce ⟨c, .read (.receiveMessage r), fate⟩ sys = .ok (some (.chats chats), sys') →
      ∀ later sys₁ c' fate' chats' sys₂, Foundation.run tryOnce later sys' = .ok sys₁ →
        tryOnce ⟨c', .read (.receiveMessage r), fate'⟩ sys₁ = .ok (some (.chats chats'), sys₂) →
        chats <+: chats') ↔
      ¬ sys.Missing c r := by
  have hsettled := settled_of_run hrun
  constructor
  · rintro hstays ⟨hdue, k, hk, hmissing⟩
    obtain ⟨rfl, hup₂, m, hbehind⟩ := hsettled.unfinished.behind hmissing
    -- The client reads at server 1, which stops, and then at server 2.
    obtain ⟨w₁, hread₁, hserver₁, hcrashed₁⟩ :=
      attempt_of_up (.receiveMessage r) (show sys.world.crashed 1 = false from hmissing.1)
    have hfirst := tryOnce_of_answer (a := ⟨c, .read (.receiveMessage r), fun _ _ => false⟩) sys hk
      hdue hread₁
    have hsecond := tryOnce_of_failure (a := ⟨c, .read (.receiveMessage r), fun _ s => s = 1⟩)
      ⟨w₁, sys.currLeader, Function.update sys.pending c none⟩ hk
      (.inl (Function.update_self ..)) (attempt_of_stop 1 _ w₁)
    have hup₂' : (w₁.tick fun _ s => s = 1).crashed 2 = false := by
      simp [World.tick, hcrashed₁, hup₂]
    obtain ⟨w₃, hread₃, -, -⟩ := attempt_of_up (.receiveMessage r) hup₂'
    have hnext : ((2 : ServerId) : ℕ) =
        Function.update sys.currLeader c (sys.currLeader c + 1) c := by
      rw [Function.update_self, ← hk]
      rfl
    have hthird := tryOnce_of_answer (a := ⟨c, .read (.receiveMessage r), fun _ _ => false⟩)
      ⟨w₁.tick fun _ s => s = 1, Function.update sys.currLeader c (sys.currLeader c + 1),
        Function.update (Function.update sys.pending c none) c (some (.read (.receiveMessage r)))⟩
      hnext (.inr (Function.update_self ..)) hread₃
    have hprefix := hstays _ _ _ hfirst [_] _ c _ _ _ (run_cons hsecond) hthird
    have hlength := hprefix.length_le
    rw [server_tick, hserver₁] at hlength
    simp [receiveMessage, hbehind] at hlength
  · intro hmissing fate chats sys' hstep later sys₁ c' fate' chats' sys₂ hlater hstep'
    obtain ⟨k, hk, hdue, hattempt, -⟩ := tryOnce_cases hstep
    obtain ⟨k', -, -, hattempt', -⟩ := tryOnce_cases hstep'
    obtain ⟨hlater₁, hsame, hup, -, hchats⟩ := attempt_read hattempt
    obtain ⟨-, -, hup', -, hchats'⟩ := attempt_read hattempt'
    have hgrown := grown_of_run hlater
    have hbefore : ∀ j, j < k → sys.world.crashed j = true := fun j hj =>
      hsettled.passed c j (hk ▸ hj)
    have hshown := hsettled.unfinished.shown hup hbefore
      (fun hmiss => hmissing ⟨hdue, k, hk, hmiss⟩) (hlater₁.alive (hgrown.later.alive hup'))
    have hprefix := hgrown.messages k' r
    rw [hsame, ← hshown] at hprefix
    cases hchats
    cases hchats'
    exact hprefix.map _

/-- After a message has been sent and answered by server 0, what a read shows stays. -/
theorem read_stays_iff_answered : ∃ sys : Clients Unit,
    Foundation.run tryOnce [⟨(), .write (.sendMessage "ann" "ann" "hi"), fun _ _ => false⟩]
      (.fresh ⟨{("ann", "x")}, fun _ => []⟩) = .ok sys ∧
    ∀ fate chats sys',
      tryOnce ⟨(), .read (.receiveMessage "ann"), fate⟩ sys = .ok (some (.chats chats), sys') →
      ∀ later sys₁ c' fate' chats' sys₂, Foundation.run tryOnce later sys' = .ok sys₁ →
        tryOnce ⟨c', .read (.receiveMessage "ann"), fate'⟩ sys₁ =
          .ok (some (.chats chats'), sys₂) → chats <+: chats' := by
  obtain ⟨sys, hrun, hleader, hrole⟩ : ∃ sys : Clients Unit,
      Foundation.run tryOnce [⟨(), .write (.sendMessage "ann" "ann" "hi"), fun _ _ => false⟩]
        (.fresh ⟨{("ann", "x")}, fun _ => []⟩) = .ok sys ∧ sys.currLeader () = 0 ∧
      (sys.world.server 0).amILeader = true := ⟨_, rfl, rfl, rfl⟩
  refine ⟨sys, hrun, (read_stays_iff hrun () "ann").mpr ?_⟩
  rintro ⟨-, k, hk, -, hfollower, -⟩
  obtain rfl : k = 0 := Fin.ext (hk.trans hleader)
  rw [hrole] at hfollower
  cases hfollower

/-- Server 0 stops when server 1 has stored a message and server 2 has not, and its sender does not
try again.  Another client reads the message at server 1, which stops then, and reads nothing at
server 2. -/
theorem read_is_lost :
    let send : Attempt (Fin 2) :=
      ⟨0, .write (.sendMessage "ann" "ann" "hi"), fun t s => t = 4 && s = 0⟩
    let read : (ℕ → ServerId → Bool) → Attempt (Fin 2) :=
      fun fate => ⟨1, .read (.receiveMessage "ann"), fate⟩
    ∃ sys sys₁ sys₂ sys₃, Foundation.run tryOnce [send, read fun _ _ => false]
        (.fresh ⟨{("ann", "x")}, fun _ => []⟩) = .ok sys ∧
      tryOnce (read fun _ _ => false) sys = .ok (some (.chats ["From ann: hi"]), sys₁) ∧
      Foundation.run tryOnce [read fun _ s => s = 1] sys₁ = .ok sys₂ ∧
      tryOnce (read fun _ _ => false) sys₂ = .ok (some (.chats []), sys₃) ∧
      ¬ ["From ann: hi"] <+: [] :=
  ⟨_, _, _, _, rfl, rfl, rfl, rfl, by decide⟩

end Runs

end Chat262.Replication
