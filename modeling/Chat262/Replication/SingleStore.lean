import Chat262.Foundation.Specification
import Chat262.Replication.Broadcast
import Chat262.Replication.StableReads

/-!
# The replicated service as one store

What three servers with their replication and their failover are for: to look like a `SingleStore`
that does not fail.  `SingleStore.Rule` says how far they do.  An answered write has been performed
once on what the store holds, and stays.  A write whose attempt fails has been performed or not, or
it is left undecided; at most one write is undecided, and the next write that comes to a server, or
a read that does not show it, decides it.

`replicas_refine_store` is the refinement: whatever the clients ask for, in whatever order their
attempts come, and whatever servers stop and when, the answers and the failures are those that the
store allows.  What can be said of the store then holds of the servers: `acknowledged_are_listed`
says that a message whose sending has been answered with success is in what every later read lists.
-/

namespace Chat262.Replication

open Foundation Comp

/-! ## The store -/

/-- One database, with what the clients know of it. -/
structure SingleStore (ι : Type) where
  db : Db
  /-- A write that may still turn out to have been performed last. -/
  undecided : Option Write
  /-- How many attempts of each client have failed. -/
  failures : ι → ℕ
  pending : ι → Option Procedure

namespace SingleStore

section

variable {ι : Type}

/-- The store at the beginning. -/
def fresh (db : Db) : SingleStore ι := ⟨db, none, fun _ => 0, fun _ => none⟩

/-- The store may turn out to hold the database `E`. -/
def May (t : SingleStore ι) (E : Db) : Prop :=
  E = t.db ∨ ∃ op, t.undecided = some op ∧ E = op.apply t.db

/-- The client may make the attempt: it has not failed three times, and waits for nothing else. -/
def Due (t : SingleStore ι) (a : Attempt ι) : Prop :=
  t.failures a.client < 3 ∧ (t.pending a.client = none ∨ t.pending a.client = some a.procedure)

/-- Another database, with or without an undecided write. -/
def set (t : SingleStore ι) (E : Db) (undecided : Option Write) : SingleStore ι :=
  { t with db := E, undecided := undecided }

variable [DecidableEq ι]

/-- The client waits for nothing. -/
def answered (t : SingleStore ι) (c : ι) : SingleStore ι :=
  { t with pending := Function.update t.pending c none }

/-- An attempt of the client has failed. -/
def failed (t : SingleStore ι) (a : Attempt ι) : SingleStore ι :=
  { t with
    failures := Function.update t.failures a.client (t.failures a.client + 1)
    pending := Function.update t.pending a.client (some a.procedure) }

/-- The answers that the store gives to an attempt. -/
inductive Rule : Attempt ι → SingleStore ι → Except Unit (Option Answer × SingleStore ι) → Prop
  /-- A write that is answered has been performed. -/
  | written {t : SingleStore ι} {c : ι} {op : Write} {fate : ℕ → ServerId → Bool} {E : Db}
      (hdue : t.Due ⟨c, .write op, fate⟩) (hE : t.May E) :
      Rule ⟨c, .write op, fate⟩ t
        (.ok (some (.response (op.perform E).1), (t.set (op.apply E) none).answered c))
  /-- An attempt fails, and nothing has happened. -/
  | unanswered {t : SingleStore ι} {a : Attempt ι} (hdue : t.Due a) :
      Rule a t (.ok (none, t.failed a))
  /-- An attempt fails, and the write is undecided. -/
  | cutOff {t : SingleStore ι} {c : ι} {op : Write} {fate : ℕ → ServerId → Bool} {E : Db}
      (hdue : t.Due ⟨c, .write op, fate⟩) (hE : t.May E) :
      Rule ⟨c, .write op, fate⟩ t (.ok (none, (t.set E (some op)).failed ⟨c, .write op, fate⟩))
  /-- An attempt fails, and the write has been performed. -/
  | performed {t : SingleStore ι} {c : ι} {op : Write} {fate : ℕ → ServerId → Bool} {E : Db}
      (hdue : t.Due ⟨c, .write op, fate⟩) (hE : t.May E) :
      Rule ⟨c, .write op, fate⟩ t
        (.ok (none, (t.set (op.apply E) none).failed ⟨c, .write op, fate⟩))
  /-- A read shows what has been decided, and an undecided write is lost. -/
  | read {t : SingleStore ι} {c : ι} {op : Read} {fate : ℕ → ServerId → Bool}
      (hdue : t.Due ⟨c, .read op, fate⟩) :
      Rule ⟨c, .read op, fate⟩ t (.ok (some (op.perform t.db), (t.set t.db none).answered c))
  /-- A read shows the undecided write, which stays undecided. -/
  | readUndecided {t : SingleStore ι} {c : ι} {op : Read} {fate : ℕ → ServerId → Bool}
      {last : Write} (hdue : t.Due ⟨c, .read op, fate⟩) (hlast : t.undecided = some last) :
      Rule ⟨c, .read op, fate⟩ t (.ok (some (op.perform (last.apply t.db)), t.answered c))
  /-- Nothing else is attempted. -/
  | refused {t : SingleStore ι} {a : Attempt ι} (hnot : ¬ t.Due a) : Rule a t (.error ())

end

end SingleStore

/-! ## How far a write has spread -/

/-- From `w` to `w'`, time has passed, and of the servers that are up, other than `me`, those in
`done` have performed the write `op` once and the others have not. -/
structure Spread (op : Write) (me : ServerId) (done : List ServerId) (w w' : World) : Prop where
  later : Later w w'
  db : ∀ s, s ≠ me → w'.crashed s = false →
    (w'.server s).db = if s ∈ done then op.apply (w.server s).db else (w.server s).db

section Spread

variable {fate : ℕ → ServerId → Bool} {h : ServerId → Request → Comp World Response}
  {κ : ServerId → ℕ} {op : Write} {E : Db} {me : ServerId} {w w' w'' : World}

/-- Nobody performs a write while the servers keep what they have. -/
lemma Spread.nil (hlater : Later w w')
    (hsame : ∀ s, s ≠ me → w'.crashed s = false → (w'.server s).db = (w.server s).db) :
    Spread op me [] w w' where
  later := hlater
  db s hs hup := by
    rw [if_neg List.not_mem_nil]
    exact hsame s hs hup

/-- A write spreads to one server and then to others. -/
lemma Spread.cons {j : ServerId} {done : List ServerId} (hlater : Later w w')
    (hsame : ∀ s, s ≠ j → s ≠ me → w'.server s = w.server s)
    (hfirst : w'.crashed j = false → (w'.server j).db = op.apply (w.server j).db) (hj : j ∉ done)
    (hrest : Spread op me done w' w'') : Spread op me (j :: done) w w'' where
  later := hlater.trans hrest.later
  db s hs hup := by
    rw [hrest.db s hs hup]
    by_cases hsj : s = j
    · subst hsj
      rw [if_neg hj, if_pos List.mem_cons_self, hfirst (hrest.later.alive hup)]
    · rw [hsame s hsj hs]
      simp [hsj]

/-- A write that has spread has spread when time has passed. -/
lemma Spread.trans {done : List ServerId} (h : Spread op me done w w') (hlater : Later w' w'')
    (hsame : ∀ s, s ≠ me → w''.server s = w'.server s) : Spread op me done w w'' where
  later := h.later.trans hlater
  db s hs hup := by
    rw [hsame s hs]
    exact h.db s hs (hlater.alive hup)

/-- The loop of a leader spreads the request to the servers in their order, and to all of them
unless the leader goes down. -/
lemma Leads.loop_spread {js : List ServerId} (hled : Leads me w)
    (hh : ∀ j, me < j → h j = handle fate j) (hbehind : ∀ j ∈ js, me < j) (hnodup : js.Nodup)
    (hahead : ∀ j ∈ js, w.crashed j = false → (w.server j).counter ≤ (w.server me).counter)
    (request : Request) :
    wp (replicateLoop fate h me js request) (fun _ w' => Spread request.write me js w w')
      (fun w' => ∃ done, done <+: js ∧ Spread request.write me done w w') w := by
  induction js generalizing w request with
  | nil => exact Spread.nil (Later.refl w) fun _ _ _ => rfl
  | cons j js ih =>
    obtain ⟨hj, hnodup⟩ := List.nodup_cons.mp hnodup
    have hmej : me < j := hbehind j List.mem_cons_self
    have hdone (hup : w.crashed j = false) :
        ((w.server j).follow (request.sentBy (w.server me))).db =
          request.write.apply (w.server j).db := by
      have hlt : (w.server j).counter < (request.sentBy (w.server me)).counter :=
        Nat.lt_succ_of_le (hahead j List.mem_cons_self hup)
      rw [Params.follow_of_lt rfl hlt]
      rfl
    refine hled.round (hh j hmej) hmej ?_ ?_
    · intro request' w₁ hlater hled₁ hwrite _ _ hcounter hsame hfollow
      have hfirst (hup : w₁.crashed j = false) :
          (w₁.server j).db = request.write.apply (w.server j).db := by
        rw [(hfollow hup).2, hdone (hlater.alive hup)]
      have hahead₁ : ∀ i ∈ js, w₁.crashed i = false →
          (w₁.server i).counter ≤ (w₁.server me).counter := by
        intro i hi hup
        have hij : i ≠ j := fun heq => hj (heq ▸ hi)
        have hime : i ≠ me := (ne_of_lt (hbehind i (List.mem_cons_of_mem j hi))).symm
        rw [hsame i hij hime]
        exact (hahead i (List.mem_cons_of_mem j hi) (hlater.alive hup)).trans hcounter
      have hrest := ih hled₁ (fun i hi => hbehind i (List.mem_cons_of_mem j hi)) hnodup hahead₁
        request'
      rw [hwrite] at hrest
      refine wp_mono hrest (fun _ w₂ hspread => hspread.cons hlater hsame hfirst hj) ?_
      rintro w₂ ⟨done, hinit, hspread⟩
      exact ⟨j :: done, List.prefix_cons_inj j |>.mpr hinit,
        hspread.cons hlater hsame hfirst fun hmem => hj (hinit.subset hmem)⟩
    · intro w₁ hlater _ _ hsame hfollower
      -- Whether the server has performed the request shows in its memory, if it is up.
      by_cases hup : w₁.crashed j = false ∧ w₁.server j ≠ w.server j
      · have hfollow := (hfollower.resolve_left (by simp [hup.1])).resolve_left hup.2
        refine ⟨[j], by simp, .cons hlater (fun s hsj _ => hsame s hsj) (fun hup => ?_)
          List.not_mem_nil (.nil (Later.refl w₁) fun _ _ _ => rfl)⟩
        rw [hfollow, hdone (hlater.alive hup)]
      · refine ⟨[], List.nil_prefix, .nil hlater fun s _ hs => ?_⟩
        by_cases hsj : s = j
        · subst hsj
          rw [not_and, not_not] at hup
          rw [hup hs]
        · rw [hsame s hsj]

/-- A write of a client that a leader is ready for spreads to the servers in their order, and to all
of them before the leader itself performs it. -/
lemma Ready.spread (hready : Ready κ op E me (followers me) w)
    (hh : ∀ j, me < j → h j = handle fate j) :
    wp (replicateLoop fate h me (followers me) (.ofClient op))
      (fun request w₁ => wp (Replication.finish fate me request) (fun _ _ => True)
        (fun w' => ∃ done, done <+: followers me ∧ Spread op me done w w') w₁)
      (fun w' => ∃ done, done <+: followers me ∧ Spread op me done w w') w := by
  refine wp_mono (hready.led.loop_spread hh (fun j => mem_followers.mp) (nodup_followers me)
    (fun j hj => hready.ahead j (mem_followers.mp hj)) _) ?_ fun _ hcut => hcut
  intro request w₁ hspread
  exact wp_finish (fun _ _ _ _ => trivial) fun w₂ hlater _ hsame =>
    ⟨followers me, List.prefix_rfl, hspread.trans hlater hsame⟩

/-- When a server goes down while it takes over, every other server that is up has what it had, or
what the server that takes over has. -/
lemma InCall.takeOver_cut (hcall : InCall κ op E w) (hup : w.crashed me = false)
    (hrole : (w.server me).amILeader = false) (hbefore : ∀ j, j < me → w.crashed j = true)
    (hh : ∀ j, me < j → h j = Replication.handle fate j) :
    wp (Replication.takeOver fate h me) (fun _ _ => True)
      (fun w' => Later w w' ∧ w'.crashed me = true ∧ ∀ s, w'.crashed s = false →
        (w'.server s).db = (w.server s).db ∨ (w'.server s).db = (w.server me).db) w := by
  have hled := hcall.standing.promote hup hbefore
  refine wp_takeOver_cases (fun _ => trivial) fun last hlast => ?_
  match me, hup, hrole, hh, hlast, hled with
  | 0, hup, hrole, _, _, _ =>
    rw [hcall.standing.first hup] at hrole
    cases hrole
  | 2, _, _, _, _, _ => exact trivial
  | 1, hup, hrole, hh, hlast, hled =>
    refine hled.round (hh 2 (by decide)) (by decide) (fun _ _ _ _ _ _ _ _ _ _ => trivial) ?_
    intro w₁ hlater hdown _ hsame hfollower
    refine ⟨hlater, hdown, fun s hs => ?_⟩
    have hs1 : s ≠ 1 := by
      rintro rfl
      rw [hdown] at hs
      cases hs
    have hother (s : ServerId) (hs : s ≠ 1) : (w.set 1 fun p => { p with amILeader := true }).server
        s = w.server s := by rw [server_set, Function.update_of_ne hs]
    by_cases hs2 : s = 2
    · subst hs2
      have hup₂ : w.crashed 2 = false := hlater.alive hs
      rcases hfollower with hdead | hold | hnew
      · rw [hdead] at hs
        cases hs
      · rw [hold, hother 2 (by decide)]
        exact .inl rfl
      · refine .inr ?_
        have hreplay := ((hcall.pair hup hup₂ hrole).promote.follow_replay hlast).1
        rw [hnew, hother 2 (by decide), server_set, Function.update_self]
        exact hreplay
    · rw [hsame s hs2, hother s hs1]
      exact .inl rfl

end Spread

/-! ## What the servers hold -/

/-- The servers that are up hold the database `D`, but server 1 may have performed the undecided
write. -/
def Reflects (D : Db) (undecided : Option Write) (w : World) : Prop :=
  ∀ s, w.crashed s = false → (w.server s).db = D ∨
    s = 1 ∧ ∃ op, undecided = some op ∧ (w.server s).db = op.apply D

section Reflects

variable {fate : ℕ → ServerId → Bool} {ι : Type} {t : SingleStore ι} {op : Write} {D E : Db}
  {undecided : Option Write} {me : ServerId} {w w' : World}

/-- Servers that stop change nothing about it. -/
lemma Reflects.later (h : Reflects D undecided w) (hlater : Later w w')
    (hsame : w'.server = w.server) : Reflects D undecided w' := by
  intro s hs
  rw [hsame]
  exact h s (hlater.alive hs)

/-- The servers hold one database. -/
lemma Reflects.of_forall (h : ∀ s, w.crashed s = false → (w.server s).db = D) :
    Reflects D undecided w := fun s hs => .inl (h s hs)

/-- What a server holds is what the store may hold. -/
lemma Reflects.may (h : Reflects t.db t.undecided w) {s : ServerId} (hs : w.crashed s = false) :
    t.May (w.server s).db := (h s hs).imp id And.right

/-- A write that has not spread to all servers behind a server can have come to server 1 only. -/
lemma eq_one_of_start {done : List ServerId} (hinit : done <+: followers me)
    (hall : ¬ ∀ s, me < s → s ∈ done) {s : ServerId} (hs : s ∈ done) : s = 1 := by
  have hinits : ∀ me : ServerId, ∀ done ∈ (followers me).inits,
      (¬ ∀ s, me < s → s ∈ done) → ∀ s ∈ done, s = 1 := by decide
  exact hinits me done ((List.mem_inits _ _).mpr hinit) hall s hs

/-- When a server goes down while it spreads a write, the write is undecided, unless it has spread
to all servers. -/
lemma Spread.reflects {done : List ServerId} (hspread : Spread op me done w w')
    (hinit : done <+: followers me) (hdown : w'.crashed me = true)
    (hbefore : ∀ j, j < me → w'.crashed j = true)
    (hsame : ∀ s, w'.crashed s = false → (w.server s).db = E) :
    Reflects E (some op) w' ∨ Reflects (op.apply E) none w' := by
  have hbehind (s : ServerId) (hs : w'.crashed s = false) : me < s := by
    rcases lt_trichotomy s me with hlt | rfl | hlt
    · rw [hbefore s hlt] at hs
      cases hs
    · rw [hdown] at hs
      cases hs
    · exact hlt
  have hdb (s : ServerId) (hs : w'.crashed s = false) :
      (w'.server s).db = if s ∈ done then op.apply E else E := by
    rw [hspread.db s (ne_of_gt (hbehind s hs)) hs, hsame s hs]
  by_cases hall : ∀ s, me < s → s ∈ done
  · refine .inr (.of_forall fun s hs => ?_)
    rw [hdb s hs, if_pos (hall s (hbehind s hs))]
  · refine .inl fun s hs => ?_
    by_cases hmem : s ∈ done
    · exact .inr ⟨eq_one_of_start hinit hall hmem, op, rfl, by rw [hdb s hs, if_pos hmem]⟩
    · exact .inl (by rw [hdb s hs, if_neg hmem])

/-- What the servers may hold when the attempt of a write has failed. -/
def LeftOpen (t : SingleStore ι) (op : Write) (w : World) : Prop :=
  Reflects t.db t.undecided w ∨
    ∃ E, t.May E ∧ (Reflects E (some op) w ∨ Reflects (op.apply E) none w)

/-- A server that goes down while it takes over decides the undecided write, or leaves it as it
is. -/
lemma InCall.takeOver_leftOpen {κ : ServerId → ℕ} {op₀ : Write} {E₀ : Db}
    {h : ServerId → Request → Comp World Response} (hcall : InCall κ op₀ E₀ w)
    (hreflects : Reflects t.db t.undecided w) (hup : w.crashed me = false)
    (hrole : (w.server me).amILeader = false) (hbefore : ∀ j, j < me → w.crashed j = true)
    (hh : ∀ j, me < j → h j = Replication.handle fate j) :
    wp (Replication.takeOver fate h me) (fun _ _ => True) (LeftOpen t op) w := by
  refine wp_mono (hcall.takeOver_cut hup hrole hbefore hh) (fun _ _ _ => trivial) ?_
  rintro w' ⟨hlater, hdown, hdb⟩
  have htwo (s : ServerId) (hs : w'.crashed s = false) : me = 1 ∧ s = 2 := by
    refine hcall.standing.eq_one_of_follower hup hrole ?_
    rcases lt_trichotomy s me with hlt | rfl | hlt
    · rw [hlater s (hbefore s hlt)] at hs
      cases hs
    · rw [hdown] at hs
      cases hs
    · exact hlt
  have hheld (s : ServerId) (hs : w'.crashed s = false) : (w.server s).db = t.db := by
    refine (hreflects s (hlater.alive hs)).resolve_right fun hone => ?_
    rw [(htwo s hs).2] at hone
    exact absurd hone.1 (by decide)
  by_cases hkept : ∀ s, w'.crashed s = false → (w'.server s).db = (w.server s).db
  · exact .inl (.of_forall fun s hs => (hkept s hs).trans (hheld s hs))
  · simp only [not_forall] at hkept
    obtain ⟨s₀, hs₀, hne⟩ := hkept
    refine .inr ⟨(w.server me).db, hreflects.may hup, .inl (.of_forall fun s hs => ?_)⟩
    rw [(htwo s hs).2, ← (htwo s₀ hs₀).2]
    exact (hdb s₀ hs₀).resolve_left hne

/-- A write that comes to a server is performed once on what the store may hold, or the server goes
down. -/
lemma Reflects.handle (hreflects : Reflects t.db t.undecided w) (hunfinished : Unfinished w)
    (hup : w.crashed me = false) (hbefore : ∀ j, j < me → w.crashed j = true) (op : Write) :
    wp (Replication.handle fate me (.ofClient op))
      (fun r w' => ∃ E, t.May E ∧ r = (op.perform E).1 ∧ Reflects (op.apply E) none w')
      (LeftOpen t op) w := by
  obtain ⟨κ, op₀, E₀, hcall⟩ := hunfinished
  obtain ⟨h, hserve, hh⟩ := handle_eq_serve fate me
  rw [hserve, wp_serve]
  refine wp_replicate_client (fun w₁ => Later w w₁ ∧ (w₁.server me).db = (w.server me).db ∧
    ∃ κ' E', Ready κ' op E' me (followers me) w₁) rfl ?_ ?_ ?_
  · intro hrole
    refine wp_mono (wp_and (hcall.takeOver hup hrole hbefore hh)
      (hcall.takeOver_leftOpen hreflects hup hrole hbefore hh)) ?_ fun _ hcut => hcut.2
    rintro _ w₁ ⟨⟨hlater, hready, hdb⟩, -⟩
    exact ⟨hlater, hdb, _, _, hready.rebase op⟩
  · intro hrole
    exact ⟨Later.refl w, rfl, _, _, (hcall.ready ⟨hcall.standing, hup, hrole⟩).rebase op⟩
  · rintro w₁ ⟨hlater, hdb, κ', E', hready⟩
    refine ⟨hready.led.leader, ?_⟩
    have hsame (s : ServerId) (hs : w₁.crashed s = false) :
        (w₁.server s).db = (w.server me).db := by
      rcases lt_trichotomy s me with hlt | rfl | hlt
      · rw [hlater s (hbefore s hlt)] at hs
        cases hs
      · exact hdb
      · rw [hready.db s hlt hs, if_pos (mem_followers.mpr hlt), hdb]
    have hopen : ∀ w₂, (Later w₁ w₂ ∧ w₂.crashed me = true ∧ InCall κ' op E' w₂) ∧
        (∃ done, done <+: followers me ∧ Spread op me done w₁ w₂) → LeftOpen t op w₂ := by
      rintro w₂ ⟨⟨hlater₂, hdown, -⟩, done, hinit, hspread⟩
      refine .inr ⟨(w.server me).db, hreflects.may hup, hspread.reflects hinit hdown
        (fun j hj => hlater₂ j (hlater j (hbefore j hj))) fun s hs => hsame s (hlater₂.alive hs)⟩
    refine wp_mono (wp_and (hready.conclude hh) (hready.spread hh)) ?_ hopen
    rintro request w₂ ⟨hend, hcut⟩
    refine wp_mono (wp_and hend hcut) ?_ hopen
    rintro r w₃ ⟨⟨-, -, hagree, hr⟩, -⟩
    rw [hdb] at hagree hr
    exact ⟨_, hreflects.may hup, hr, .of_forall hagree.db⟩

/-- A read that is answered shows what has been decided, and then it is what every server that is up
holds, or it shows the undecided write. -/
lemma Reflects.read (hreflects : Reflects t.db t.undecided w) (hunfinished : Unfinished w)
    {k : ServerId} (hup : w.crashed k = false) (hbefore : ∀ j, j < k → w.crashed j = true) :
    (w.server k).db = t.db ∧ Reflects t.db none w ∨
      ∃ last, t.undecided = some last ∧ (w.server k).db = last.apply t.db := by
  obtain ⟨κ, op, E, hcall⟩ := hunfinished
  rcases hreflects k hup with hdb | ⟨-, hlast⟩
  · refine .inl ⟨hdb, fun s hs => ?_⟩
    rcases hreflects s hs with hs' | ⟨rfl, hlast⟩
    · exact .inl hs'
    · rcases lt_trichotomy 1 k with hlt | rfl | hlt
      · rw [hbefore 1 hlt] at hs
        cases hs
      · exact .inl hdb
      · -- Server 0 is up and leads, so the others hold what it holds.
        obtain rfl : k = 0 := Fin.lt_one_iff k |>.mp hlt
        have hagree := hcall.calm 0 ⟨hcall.standing, hup, hcall.standing.first hup⟩
        refine .inl ?_
        rw [hagree.db 1 hs, ← hagree.db 0 hup, hdb]
  · exact .inr hlast

end Reflects

/-! ## The refinement -/

section Refinement

variable {ι : Type} [DecidableEq ι] {a : Attempt ι} {sys sys' : Clients ι} {t : SingleStore ι}
  {answer : Option Answer}

/-- The store stands for the servers and the clients. -/
structure StandsFor (sys : Clients ι) (t : SingleStore ι) : Prop where
  reflects : Reflects t.db t.undecided sys.world
  /-- Each client has tried as many servers as its attempts have failed. -/
  failures : sys.currLeader = t.failures
  pending : sys.pending = t.pending
  settled : sys.Settled

/-- At the beginning nothing is undecided. -/
lemma standsFor_fresh (db : Db) : StandsFor (Clients.fresh db : Clients ι) (.fresh db) where
  reflects := .of_forall fun _ _ => rfl
  failures := rfl
  pending := rfl
  settled := settled_of_run (run_nil _)

/-- An attempt of a write is answered as the store allows. -/
lemma StandsFor.write {c : ι} {op : Write} {fate : ℕ → ServerId → Bool} (h : StandsFor sys t)
    (hdue : t.Due ⟨c, .write op, fate⟩)
    (hstep : tryOnce ⟨c, .write op, fate⟩ sys = .ok (answer, sys')) :
    ∃ t', SingleStore.Rule ⟨c, .write op, fate⟩ t (.ok (answer, t')) ∧
      Reflects t'.db t'.undecided sys'.world := by
  obtain ⟨k, hk, -, hattempt, -⟩ := tryOnce_cases hstep
  have hbefore (j : ServerId) (hj : j < k) : (sys.world.tick fate).crashed j = true :=
    later_tick fate _ j (h.settled.passed c j (hk ▸ hj))
  have hreflects := h.reflects.later (later_tick fate sys.world) (server_tick sys.world)
  have hunfinished := h.settled.unfinished.later (later_tick fate sys.world) (server_tick sys.world)
  have hspec (hup : (sys.world.tick fate).crashed k = false) :
      wp (serveProcedure fate k (.write op))
        (fun a w' => ∃ E, t.May E ∧ a = .response (op.perform E).1 ∧ Reflects (op.apply E) none w')
        (LeftOpen t op) (sys.world.tick fate) := by
    refine wp_bind.mpr (wp_mono (hreflects.handle hunfinished hup hbefore op) ?_ fun _ hcut => hcut)
    rintro r w' ⟨E, hE, rfl, hreflects'⟩
    exact ⟨E, hE, rfl, hreflects'⟩
  rcases attempt_cases hattempt hspec with ⟨rfl, hw, -⟩ | ⟨rfl, hopen, -⟩ | ⟨_, rfl, hdone, -⟩
  · exact ⟨_, .unanswered hdue, hw ▸ hreflects⟩
  · rcases hopen with hkept | ⟨E, hE, hcut | hperformed⟩
    · exact ⟨_, .unanswered hdue, hkept⟩
    · exact ⟨_, .cutOff hdue hE, hcut⟩
    · exact ⟨_, .performed hdue hE, hperformed⟩
  · obtain ⟨E, hE, rfl, hreflects'⟩ := hdone
    exact ⟨_, .written hdue hE, hreflects'⟩

/-- An attempt of a read is answered as the store allows. -/
lemma StandsFor.read {c : ι} {op : Read} {fate : ℕ → ServerId → Bool} (h : StandsFor sys t)
    (hdue : t.Due ⟨c, .read op, fate⟩)
    (hstep : tryOnce ⟨c, .read op, fate⟩ sys = .ok (answer, sys')) :
    ∃ t', SingleStore.Rule ⟨c, .read op, fate⟩ t (.ok (answer, t')) ∧
      Reflects t'.db t'.undecided sys'.world := by
  obtain ⟨k, hk, -, hattempt, -⟩ := tryOnce_cases hstep
  have hspec : (sys.world.tick fate).crashed k = false → wp (serveProcedure fate k (.read op)) _ _
    (sys.world.tick fate) := fun _ => wp_serveRead op (sys.world.tick fate)
  have hreflects := h.reflects.later (later_tick fate sys.world) (server_tick sys.world)
  rcases attempt_cases hattempt hspec with ⟨rfl, hw, -⟩ | ⟨rfl, hcut, -⟩ | ⟨shown, rfl, -, -⟩
  · exact ⟨_, .unanswered hdue, hw ▸ hreflects⟩
  · exact ⟨_, .unanswered hdue, hreflects.later hcut.1 hcut.2.1⟩
  · obtain ⟨hlater, hsame, hup, -, rfl⟩ := attempt_read hattempt
    rcases h.reflects.read h.settled.unfinished hup
      (fun j hj => h.settled.passed c j (hk ▸ hj)) with ⟨hdb, hdecided⟩ | ⟨last, hlast, hdb⟩
    · rw [hdb]
      exact ⟨_, .read hdue, hdecided.later hlater hsame⟩
    · rw [hdb]
      exact ⟨_, .readUndecided hdue hlast, h.reflects.later hlater hsame⟩

/-- What an answer is to the clients, by the rules of the store. -/
lemma SingleStore.Rule.clients {t' : SingleStore ι} (h : SingleStore.Rule a t (.ok (answer, t'))) :
    t'.failures = Function.update t.failures a.client
        (t.failures a.client + if answer.isSome then 0 else 1) ∧
      t'.pending = Function.update t.pending a.client
        (if answer.isSome then none else some a.procedure) := by
  cases h <;> simp [SingleStore.answered, SingleStore.failed, SingleStore.set]

/-- What an answer is to the clients of the servers. -/
lemma clients_tryOnce (hstep : tryOnce a sys = .ok (answer, sys')) :
    sys'.currLeader = Function.update sys.currLeader a.client
        (sys.currLeader a.client + if answer.isSome then 0 else 1) ∧
      sys'.pending = Function.update sys.pending a.client
        (if answer.isSome then none else some a.procedure) := by
  obtain ⟨k, hk, hdue, hattempt, -⟩ := tryOnce_cases hstep
  rcases answer with _ | answer
  · rw [tryOnce_of_failure sys hk hdue hattempt] at hstep
    obtain ⟨-, hsys⟩ := Prod.mk.inj (Except.ok.inj hstep)
    exact ⟨congrArg Clients.currLeader hsys.symm, congrArg Clients.pending hsys.symm⟩
  · rw [tryOnce_of_answer sys hk hdue hattempt] at hstep
    obtain ⟨-, hsys⟩ := Prod.mk.inj (Except.ok.inj hstep)
    refine ⟨?_, congrArg Clients.pending hsys.symm⟩
    rw [← congrArg Clients.currLeader hsys]
    simp

/-- A client that may make an attempt makes it. -/
lemma StandsFor.exists_of_due (h : StandsFor sys t) (hdue : t.Due a) :
    ∃ answer sys', tryOnce a sys = .ok (answer, sys') := by
  obtain ⟨hlt, hpending⟩ := hdue
  rw [← h.failures] at hlt
  rw [← h.pending] at hpending
  rcases hattempt : attempt a.fate ⟨sys.currLeader a.client, hlt⟩ a.procedure sys.world
    with ⟨_ | answer, w⟩
  · exact ⟨_, _, tryOnce_of_failure sys rfl hpending hattempt⟩
  · exact ⟨_, _, tryOnce_of_answer sys rfl hpending hattempt⟩

/-- The servers answer every attempt by the rules of the store. -/
theorem refines_store : Refines (tryOnce (ι := ι)) SingleStore.Rule StandsFor := by
  intro a sys t h
  by_cases hdue : t.Due a
  · obtain ⟨answer, sys', hstep⟩ := h.exists_of_due hdue
    obtain ⟨t', hrule, hreflects⟩ : ∃ t', SingleStore.Rule a t (.ok (answer, t')) ∧
        Reflects t'.db t'.undecided sys'.world := by
      obtain ⟨c, op | op, fate⟩ := a
      · exact h.write hdue hstep
      · exact h.read hdue hstep
    obtain ⟨hleader, hpending⟩ := clients_tryOnce hstep
    obtain ⟨hfailures, hpending'⟩ := hrule.clients
    rw [h.failures] at hleader
    rw [h.pending] at hpending
    exact ⟨_, hrule, hstep ▸ .ok answer ⟨hreflects, hleader.trans hfailures.symm,
      hpending.trans hpending'.symm, h.settled.tryOnce hstep⟩⟩
  · have hstep : tryOnce a sys = .error () := by
      unfold tryOnce
      rw [dif_neg]
      rw [h.failures, h.pending]
      exact hdue
    exact ⟨_, .refused hdue, hstep ▸ .error ()⟩

/-- Three servers look like one.  Whatever the clients ask for, in whatever order their attempts
come, and whatever servers stop at which moments: the answers, the failures, and which attempts are
not made at all, are those that the store allows. -/
theorem replicas_refine_store (db : Db) (calls : List (Attempt ι)) :
    Allows SingleStore.Rule calls (.fresh db) (transcript tryOnce calls (.fresh db)) :=
  refines_store.allows_transcript calls (standsFor_fresh db)

end Refinement

/-! ## Acknowledged messages -/

/-- The message that has been sent when the answer says so. -/
def Procedure.acknowledged : Procedure → Option Answer → List Message
  | .write (.sendMessage s r b), some (.response response) =>
    if response.success then [⟨s, r, b⟩] else []
  | _, _ => []

section Acknowledged

variable {ι : Type} [DecidableEq ι]

/-- The message that an attempt has sent when it is answered so. -/
def acknowledged (a : Attempt ι) (sys : Clients ι) : List Message :=
  match tryOnce a sys with
  | .ok (answer, _) => a.procedure.acknowledged answer
  | .error _ => []

/-- A write keeps the copies of a message, and adds one when it is answered that it has sent it. -/
lemma copies_add_acknowledged (op : Write) (E : Db) (m : Message) :
    E.copies m + ((Procedure.write op).acknowledged (some (.response (op.perform E).1))).count m ≤
      (op.apply E).copies m := by
  have hkept := copies_le_apply op E m
  cases op with
  | register u p => simpa [Procedure.acknowledged] using hkept
  | deleteAccount u p => simpa [Procedure.acknowledged] using hkept
  | sendMessage s r b =>
    by_cases hsent : ((Write.sendMessage s r b).perform E).1.success = true ∧ m = ⟨s, r, b⟩
    · obtain ⟨hsuccess, rfl⟩ := hsent
      rw [copies_apply_of_success (m := ⟨s, r, b⟩) hsuccess]
      simp [Procedure.acknowledged, hsuccess]
    · have hnone : m ∉ (Procedure.write (.sendMessage s r b)).acknowledged
          (some (.response ((Write.sendMessage s r b).perform E).1)) := by
        simpa [Procedure.acknowledged] using hsent
      rwa [List.count_eq_zero_of_not_mem hnone, add_zero]

omit [DecidableEq ι] in
/-- What the store may turn out to hold has the messages that it holds. -/
lemma SingleStore.May.copies_le {t : SingleStore ι} {E : Db} (hE : t.May E) (m : Message) :
    t.db.copies m ≤ E.copies m := by
  rcases hE with rfl | ⟨op, -, rfl⟩
  · exact le_rfl
  · exact copies_le_apply op t.db m

/-- Nothing takes a message from the store, and it holds each one that it has acknowledged. -/
lemma SingleStore.Rule.copies {a : Attempt ι} {t t' : SingleStore ι} {answer : Option Answer}
    (h : SingleStore.Rule a t (.ok (answer, t'))) (m : Message) :
    t.db.copies m + (a.procedure.acknowledged answer).count m ≤ t'.db.copies m := by
  cases h with
  | written hdue hE =>
    exact (Nat.add_le_add_right (hE.copies_le m) _).trans (copies_add_acknowledged _ _ m)
  | unanswered hdue => simp [Procedure.acknowledged, SingleStore.failed]
  | cutOff hdue hE =>
    simpa [Procedure.acknowledged, SingleStore.failed, SingleStore.set] using hE.copies_le m
  | performed hdue hE =>
    simpa [Procedure.acknowledged, SingleStore.failed, SingleStore.set] using
      (hE.copies_le m).trans (copies_le_apply _ _ m)
  | read hdue => simp [Procedure.acknowledged, SingleStore.answered, SingleStore.set]
  | readUndecided hdue hlast => simp [Procedure.acknowledged, SingleStore.answered]

/-- What a read shows is what the store may hold. -/
lemma SingleStore.Rule.exists_of_read {c : ι} {op : Read} {fate : ℕ → ServerId → Bool}
    {t t' : SingleStore ι} {shown : Answer}
    (h : SingleStore.Rule ⟨c, .read op, fate⟩ t (.ok (some shown, t'))) :
    ∃ E, t.May E ∧ shown = op.perform E := by
  cases h with
  | read hdue => exact ⟨t.db, .inl rfl, rfl⟩
  | readUndecided hdue hlast => exact ⟨_, .inr ⟨_, hlast, rfl⟩, rfl⟩

/-- Only a call for messages is answered with messages. -/
lemma SingleStore.Rule.exists_of_chats {a : Attempt ι} {t t' : SingleStore ι} {chats : List String}
    (h : SingleStore.Rule a t (.ok (some (.chats chats), t'))) :
    ∃ r E, a.procedure = .read (.receiveMessage r) ∧ t.May E ∧ chats = receiveMessage r E := by
  obtain ⟨c, op | op, fate⟩ := a
  · cases h
  · obtain ⟨E, hE, hchats⟩ := h.exists_of_read
    cases op with
    | login u p | getUsers => cases hchats
    | receiveMessage r => exact ⟨r, E, rfl, hE, Answer.chats.inj hchats⟩

/-- In every run the store holds the messages that have been acknowledged, as often as they have
been. -/
lemma exists_standsFor_of_run {db : Db} {calls : List (Attempt ι)} {sys : Clients ι}
    (hrun : Foundation.run tryOnce calls (.fresh db) = .ok sys) :
    ∃ t, StandsFor sys t ∧ ∀ m : Message, db.copies m +
      (collect tryOnce acknowledged calls (.fresh db)).count m ≤ t.db.copies m := by
  refine run_history (G := fun _ _ => True)
    (P := fun calls sys => ∃ t, StandsFor sys t ∧ ∀ m : Message, db.copies m +
      (collect tryOnce acknowledged calls (.fresh db)).count m ≤ t.db.copies m)
    ⟨.fresh db, standsFor_fresh db, fun m => by simp [SingleStore.fresh]⟩ ?_
    (guarded_true calls _) hrun
  rintro before a sys₁ answer sys₂ hbefore ⟨t, h, hcopies⟩ - hstep
  obtain ⟨t', hrule, h'⟩ := refines_store.exists_of_eq_ok h hstep
  refine ⟨t', h', fun m => ?_⟩
  have hold := hcopies m
  have hnew := hrule.copies m
  have hseen : acknowledged a sys₁ = a.procedure.acknowledged answer := by
    simp only [acknowledged, hstep]
  rw [collect_concat hbefore hstep, List.count_append, hseen]
  omega

/-- A message that has been acknowledged is not lost.  In every run, whatever servers stop and when,
a read lists every message for the receiver that was there at the beginning or whose sending has
been answered with success, at least as often as that. -/
theorem acknowledged_are_listed {db : Db} {calls : List (Attempt ι)} {sys sys' : Clients ι}
    (hrun : Foundation.run tryOnce calls (.fresh db) = .ok sys) {c : ι} {r : String}
    {fate : ℕ → ServerId → Bool} {chats : List String}
    (hread : tryOnce ⟨c, .read (.receiveMessage r), fate⟩ sys = .ok (some (.chats chats), sys')) :
    ∃ messages : List Message, chats = messages.map Message.chat ∧
      ∀ m : Message, m.receiver = r →
        db.copies m + (collect tryOnce acknowledged calls (.fresh db)).count m ≤
          messages.count m := by
  obtain ⟨t, h, hcopies⟩ := exists_standsFor_of_run hrun
  obtain ⟨t', hrule, -⟩ := refines_store.exists_of_eq_ok h hread
  obtain ⟨E, hE, hchats⟩ := hrule.exists_of_read
  refine ⟨E.messages r, Answer.chats.inj hchats, ?_⟩
  rintro m rfl
  exact (hcopies m).trans (hE.copies_le m)

/-- A message is sent and read. -/
theorem acknowledged_are_listed_hi : ∃ sys sys' : Clients Unit, ∃ messages : List Message,
    Foundation.run tryOnce [⟨(), .write (.sendMessage "ann" "ann" "hi"), fun _ _ => false⟩]
      (.fresh ⟨{("ann", "x")}, fun _ => []⟩) = .ok sys ∧
    tryOnce ⟨(), .read (.receiveMessage "ann"), fun _ _ => false⟩ sys =
      .ok (some (.chats ["From ann: hi"]), sys') ∧
    ["From ann: hi"] = messages.map Message.chat ∧ 1 ≤ messages.count ⟨"ann", "ann", "hi"⟩ := by
  obtain ⟨sys, sys', hrun, hread⟩ : ∃ sys sys' : Clients Unit, Foundation.run tryOnce
      [⟨(), .write (.sendMessage "ann" "ann" "hi"), fun _ _ => false⟩]
      (.fresh ⟨{("ann", "x")}, fun _ => []⟩) = .ok sys ∧
      tryOnce ⟨(), .read (.receiveMessage "ann"), fun _ _ => false⟩ sys =
        .ok (some (.chats ["From ann: hi"]), sys') := ⟨_, _, rfl, rfl⟩
  obtain ⟨messages, hchats, hcount⟩ := acknowledged_are_listed hrun hread
  exact ⟨sys, sys', messages, hrun, hread, hchats, hcount ⟨"ann", "ann", "hi"⟩ rfl⟩

end Acknowledged

end Chat262.Replication
