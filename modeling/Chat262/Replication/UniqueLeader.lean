import Chat262.Replication.Threads

/-!
# Who leads

Nobody decides who the leader is.  A server takes itself for it when the request of a client comes,
and a client goes on to the next server when a call raises.  `Sound` ties the servers, the calls and
the clients together: whoever leads, is about to, is called by a client or is taken for the leader
by one has only servers before it that are down.  A server that has become the leader never checks
again, and the request that a thread sends to a follower does not make it one, as long as the
request still carries `is_client = False` when it is sent (`Labelled`).

Nothing in the code sees to that.  Threads that become the leader at the same time replay the same
`last_request`, and when one of them has its reply it sets the field to `True`, perhaps before the
other one has sent the request (`two_leaders`).
-/

namespace Chat262.Replication.Threads

open Foundation

/-! ## What a statement of `replicate` does -/

/-- What a statement does to leadership and to what may be replayed. -/
structure Executed (s : Shared) (label : Label) (f : Frame) (s' : Shared) (label' : Label)
    (fs : List Frame) : Prop where
  /-- Only one statement makes a leader, and none takes it back. -/
  leader : s'.amILeader = true ↔ s.amILeader = true ∨ f.point = .promote
  /-- `last_request` stays, or it is the request at hand. -/
  last : s'.lastRequest = s.lastRequest ∨ s'.lastRequest = some f.args
  same : f.point = .check → label' = label
  /-- The requests at hand are the one of the statement and the last one. -/
  args : ∀ g ∈ fs, g.args = f.args ∨ s.lastRequest = some g.args
  /-- A server that is about to become the leader has passed the first test. -/
  promote : ∀ g ∈ fs, g.point = .promote →
    f.point = .check ∧ label.isClient = true ∧ s.amILeader = false
  inner : ∀ g ∈ fs, g.point = .check ∨ g.point = .lookup → f.point = .lookup ∨ f.point = .promote

/-- Every statement does no more than that. -/
lemma executed {me : ServerId} {s s' : Shared} {label label' : Label} {f : Frame} {fs : List Frame}
    (h : execute me s label f = some (s', label', fs)) : Executed s label f s' label' fs := by
  obtain ⟨args, point⟩ := f
  cases point with
  | check =>
    cases h
    constructor <;> simp
    split_ifs <;> simp
  | promote | clear | number | count =>
    cases h
    constructor <;> simp
  | lookup =>
    simp only [execute] at h
    split at h <;> cases h <;> constructor <;> simp_all
  | branch =>
    simp only [execute] at h
    split at h <;> cases h <;> constructor <;> simp
  | loop js =>
    cases js with
    | nil => cases h; constructor <;> simp
    | cons j js =>
      cases h
      constructor <;> simp
      all_goals split_ifs <;> simp
  | send j js =>
    simp only [execute] at h
    split at h <;> cases h
    constructor <;> simp
  | wait => cases h

/-! ## What holds in every run -/

section Sound

variable {ι : Type}

/-- Whether the handler of a call has done anything. -/
def Phase.Begun : Phase → Prop
  | .arriving => False
  | _ => True

/-- The servers before the server `k` are down. -/
def Cluster.Before (w : Cluster ι) (k : ServerId) : Prop := ∀ j, j < k → w.crashed j = true

/-- The handler of the call `id` has done something, so its request may be at hand in other
threads. -/
def Cluster.Begun (w : Cluster ι) (id : ℕ) : Prop :=
  ∃ call, w.call id = some call ∧ call.phase.Begun

/-- Role and last request are the same. -/
def Shared.Like (s' s : Shared) : Prop :=
  s'.amILeader = s.amILeader ∧ s'.lastRequest = s.lastRequest

/-- What holds of the memory of the server `k`. -/
structure Shared.Ok (w : Cluster ι) (k : ServerId) (s : Shared) : Prop where
  leader : s.amILeader = true → w.Before k
  /-- Only a request whose handler has begun may be replayed. -/
  last : ∀ args, s.lastRequest = some args → w.Begun args.request

/-- What holds of a call of `replicate` on the server `k`. -/
structure Frame.Ok (w : Cluster ι) (k : ServerId) (f : Frame) : Prop where
  begun : w.Begun f.args.request
  inner : f.point = .check ∨ f.point = .lookup → (w.server k).amILeader = true
  /-- A server becomes the leader when the servers before it are down. -/
  promote : f.point = .promote → w.Before k

/-- What holds of the call `id`. -/
structure Call.Ok (w : Cluster ι) (id : ℕ) (call : Call ι) : Prop where
  /-- A client calls a server when the servers before it are down. -/
  client : ∀ c, call.caller = .client c → w.Before call.target
  /-- The request of a server does not come as that of a client. -/
  thread : ∀ h, call.caller = .thread h → call.phase = .arriving → (w.label id).isClient = false
  frames : ∀ fs, call.phase = .replicating fs → ∀ f ∈ fs, f.Ok w call.target

/-- What holds of a client. -/
structure Client.Ok (w : Cluster ι) (client : Client) : Prop where
  /-- The servers before the one that it takes for the leader are down. -/
  passed : ∀ j : ServerId, j < client.currLeader → w.crashed j = true
  /-- It waits for the server that it takes for the leader. -/
  waiting : ∀ p id, client.activity = .waiting p id →
    ∃ call, w.call id = some call ∧ (call.target : ℕ) = client.currLeader

/-- What holds of all servers, calls and clients. -/
structure Sound (w : Cluster ι) : Prop where
  server : ∀ k, (w.server k).Ok w k
  call : ∀ id call, w.call id = some call → call.Ok w id
  client : ∀ c, (w.client c).Ok w

/-- Calls remain, with whoever has made them and where they go, and what has begun has begun. -/
def Remains (calls calls' : ℕ → Option (Call ι)) : Prop :=
  ∀ id call, calls id = some call → ∃ call', calls' id = some call' ∧
    call'.caller = call.caller ∧ call'.target = call.target ∧ (call.phase.Begun → call'.phase.Begun)

/-- Calls remain when nothing happens. -/
lemma Remains.refl (calls : ℕ → Option (Call ι)) : Remains calls calls :=
  fun _ call h => ⟨call, h, rfl, rfl, id⟩

/-- Calls remain after one another. -/
lemma Remains.trans {calls calls' calls'' : ℕ → Option (Call ι)} (h : Remains calls calls')
    (h' : Remains calls' calls'') : Remains calls calls'' := by
  intro id call hcall
  obtain ⟨call', hcall', hcaller, htarget, hbegun⟩ := h id call hcall
  obtain ⟨call'', hcall'', hcaller', htarget', hbegun'⟩ := h' id call' hcall'
  exact ⟨call'', hcall'', hcaller'.trans hcaller, htarget'.trans htarget, hbegun' ∘ hbegun⟩

/-- Calls remain when a call is made. -/
lemma Remains.new {calls : ℕ → Option (Call ι)} {id : ℕ} (hnone : calls id = none)
    (call : Call ι) : Remains calls (Function.update calls id (some call)) := by
  intro i c hi
  have hne : i ≠ id := by
    rintro rfl
    rw [hnone] at hi
    cases hi
  exact ⟨c, by rw [Function.update_of_ne hne, hi], rfl, rfl, fun h => h⟩

/-- Calls remain when the handler of one of them gets on. -/
lemma Remains.goto {calls : ℕ → Option (Call ι)} {id : ℕ} {call : Call ι}
    (hcall : calls id = some call) {phase : Phase} (hphase : phase.Begun) :
    Remains calls (Function.update calls id (some { call with phase := phase })) := by
  intro i c hi
  by_cases hid : i = id
  · subst hid
    obtain rfl : call = c := Option.some.inj (hcall.symm.trans hi)
    exact ⟨_, Function.update_self .., rfl, rfl, fun _ => hphase⟩
  · exact ⟨c, by rw [Function.update_of_ne hid, hi], rfl, rfl, fun h => h⟩

/-- Calls remain when one of them comes to its end and another one gets on. -/
lemma Remains.return {calls : ℕ → Option (Call ι)} {id h : ℕ} {call outer : Call ι}
    (hcall : calls id = some call) (houter : calls h = some outer) {phase : Phase}
    (hphase : phase.Begun) :
    Remains calls (Function.update (Function.update calls id (some { call with phase := .over })) h
      (some { outer with phase := phase })) := by
  refine (Remains.goto hcall (show Phase.Begun .over from trivial)).trans ?_
  by_cases hid : h = id
  · subst hid
    obtain rfl : call = outer := Option.some.inj (hcall.symm.trans houter)
    exact Remains.goto (Function.update_self ..) hphase
  · exact Remains.goto (by rw [Function.update_of_ne hid, houter]) hphase

/-- What has begun has begun. -/
lemma Remains.begun {w w' : Cluster ι} (h : Remains w.call w'.call) {id : ℕ} (hid : w.Begun id) :
    w'.Begun id := by
  obtain ⟨call, hcall, hbegun⟩ := hid
  obtain ⟨call', hcall', -, -, hphase⟩ := h id call hcall
  exact ⟨call', hcall', hphase hbegun⟩

/-- What a step does not undo. -/
structure After (w w' : Cluster ι) : Prop where
  crashed : ∀ k, w.crashed k = true → w'.crashed k = true
  leader : ∀ k, (w.server k).amILeader = true → (w'.server k).amILeader = true
  call : Remains w.call w'.call
  /-- A request that nobody has looked at is as it has been sent. -/
  label : ∀ id call, w.call id = some call → ¬ w'.Begun id → w'.label id = w.label id

namespace After

variable {w w' w'' : Cluster ι}

/-- The servers before a server stay down. -/
lemma before (h : After w w') {k : ServerId} (hk : w.Before k) : w'.Before k :=
  fun j hj => h.crashed j (hk j hj)

/-- A handler that has begun has begun. -/
lemma begun (h : After w w') {id : ℕ} (hid : w.Begun id) : w'.Begun id := h.call.begun hid

/-- The memory of a server with the same role and the same last request stays in order. -/
lemma shared (h : After w w') {k : ServerId} {s s' : Shared} (hlike : s'.Like s) (hs : s.Ok w k) :
    s'.Ok w' k where
  leader hlead := h.before (hs.leader (hlike.1 ▸ hlead))
  last args hlast := h.begun (hs.last args (hlike.2 ▸ hlast))

/-- A call of `replicate` that does nothing stays in order. -/
lemma frame (h : After w w') {k : ServerId} {f : Frame} (hf : f.Ok w k) : f.Ok w' k where
  begun := h.begun hf.begun
  inner hpoint := h.leader k (hf.inner hpoint)
  promote hpoint := h.before (hf.promote hpoint)

/-- A call whose handler does nothing stays in order. -/
lemma callOk (h : After w w') {id : ℕ} {call : Call ι} (hcall : w.call id = some call)
    (hcall' : w'.call id = some call) (hok : call.Ok w id) : call.Ok w' id where
  client c hc := h.before (hok.client c hc)
  thread t ht hphase := by
    rw [h.label id call hcall]
    · exact hok.thread t ht hphase
    · rintro ⟨call', hid, hbegun⟩
      obtain rfl : call = call' := Option.some.inj (hcall'.symm.trans hid)
      rw [hphase] at hbegun
      exact hbegun
  frames fs hphase f hf := h.frame (hok.frames fs hphase f hf)

/-- A client that does nothing stays in order. -/
lemma clientOk (h : After w w') {client : Client} (hok : client.Ok w) : client.Ok w' where
  passed j hj := h.crashed j (hok.passed j hj)
  waiting p id hactivity := by
    obtain ⟨call, hcall, htarget⟩ := hok.waiting p id hactivity
    obtain ⟨call', hcall', -, htarget', -⟩ := h.call id call hcall
    exact ⟨call', hcall', by rw [htarget', htarget]⟩

end After

/-- What has changed in a step is to be looked at, and nothing else. -/
lemma Sound.after {w w' : Cluster ι} (h : Sound w) (hafter : After w w')
    (hserver : ∀ k, (w'.server k).Like (w.server k) ∨ (w'.server k).Ok w' k)
    (hcall : ∀ id call, w'.call id = some call → w.call id = some call ∨ call.Ok w' id)
    (hclient : ∀ c, w'.client c = w.client c ∨ (w'.client c).Ok w') : Sound w' where
  server k := by
    rcases hserver k with hlike | hok
    · exact hafter.shared hlike (h.server k)
    · exact hok
  call id call hid := by
    rcases hcall id call hid with hold | hok
    · exact hafter.callOk hold hid (h.call id call hold)
    · exact hok
  client c := by
    rcases hclient c with heq | hok
    · rw [heq]
      exact hafter.clientOk (h.client c)
    · exact hok

/-- After a change of one call, a call is that one or as it was. -/
lemma update_eq_some {calls : ℕ → Option (Call ι)} {id i : ℕ} {next call : Call ι}
    (h : Function.update calls id (some next) i = some call) :
    i = id ∧ call = next ∨ calls i = some call := by
  by_cases hid : i = id
  · subst hid
    rw [Function.update_self] at h
    exact .inl ⟨rfl, (Option.some.inj h).symm⟩
  · rw [Function.update_of_ne hid] at h
    exact .inr h

/-- A label that is changed is that of a request whose handler has begun. -/
lemma label_of_begun {w w' : Cluster ι} {id : ℕ} {label : Label}
    (hlabel : w'.label = Function.update w.label id label) (hbegun : w'.Begun id) {i : ℕ}
    (hi : ¬ w'.Begun i) : w'.label i = w.label i := by
  have hne : i ≠ id := by
    rintro rfl
    exact hi hbegun
  rw [hlabel, Function.update_of_ne hne]

/-- A label that is new is not that of an older request. -/
lemma label_of_new {w w' : Cluster ι} {id : ℕ} {label : Label}
    (hlabel : w'.label = Function.update w.label id label) (hnone : w.call id = none) {i : ℕ}
    {call : Call ι} (hi : w.call i = some call) : w'.label i = w.label i := by
  have hne : i ≠ id := by
    rintro rfl
    rw [hnone] at hi
    cases hi
  rw [hlabel, Function.update_of_ne hne]

/-- A server that keeps its role and its last request is as before, and so are the others. -/
lemma like_of_update {w w' : Cluster ι} {k : ServerId} {s : Shared}
    (hserver : w'.server = Function.update w.server k s) (hlike : s.Like (w.server k))
    (i : ServerId) : (w'.server i).Like (w.server i) := by
  rw [hserver]
  by_cases hi : i = k
  · rw [hi, Function.update_self]
    exact hlike
  · rw [Function.update_of_ne hi]
    exact ⟨rfl, rfl⟩

/-- A client that goes on is in order when its new state is. -/
lemma client_of_update [DecidableEq ι] {w w' : Cluster ι} {c : ι} {client : Client}
    (hclient : w'.client = Function.update w.client c client) (hok : client.Ok w') (c' : ι) :
    w'.client c' = w.client c' ∨ (w'.client c').Ok w' := by
  rw [hclient]
  by_cases hc : c' = c
  · rw [hc, Function.update_self]
    exact .inr hok
  · rw [Function.update_of_ne hc]
    exact .inl rfl

/-- In the beginning there is one leader, and nobody has called. -/
lemma Sound.start (db : Db) : Sound (.start db : Cluster ι) where
  server k := {
    leader := fun hlead j hj => by
      have hk : k = 0 := of_decide_eq_true hlead
      rw [hk] at hj
      exact absurd hj (Fin.not_lt_zero j)
    last := fun _ hlast => by cases hlast }
  call _ _ hcall := by cases hcall
  client _ := ⟨fun j hj => absurd hj (Nat.not_lt_zero j), fun _ _ h => by cases h⟩

end Sound

/-! ## Every step keeps it -/

section Steps

variable {ι : Type} {w w' : Cluster ι}

/-- The handler of a call is about to begin, or what it is doing is in order. -/
lemma Sound.top {id : ℕ} {call : Call ι} {f : Frame} {fs : List Frame} (h : Sound w)
    (hcall : w.call id = some call) (hframes : call.frames id = f :: fs) :
    (call.phase = .arriving ∧ f.args.request = id ∧ f.point = .check ∧ fs = []) ∨
      (f.Ok w call.target ∧ ∀ g ∈ fs, g.Ok w call.target) := by
  unfold Call.frames at hframes
  split at hframes
  · next hphase =>
    cases hframes
    exact .inl ⟨hphase, rfl, rfl, rfl⟩
  · next hphase =>
    subst hframes
    have hok := (h.call id call hcall).frames _ hphase
    exact .inr ⟨hok f List.mem_cons_self, fun g hg => hok g (List.mem_cons_of_mem _ hg)⟩
  · cases hframes

variable [DecidableEq ι]

/-- What a statement of `replicate` does. -/
lemma advance_cases {id : ℕ} {u : Unit} (hstep : step (.advance id) w = .ok (u, w')) :
    ∃ call f fs s label fs', w.call id = some call ∧ call.frames id = f :: fs ∧
      execute call.target (w.server call.target) (w.label f.args.request) f =
        some (s, label, fs') ∧
      w' = ((w.setServer call.target s).setLabel f.args.request label).setCall id
        { call with phase := .replicating (fs' ++ fs) } := by
  simp only [step] at hstep
  split at hstep
  · split_ifs at hstep
    split at hstep
    · split at hstep
      · cases hstep
        exact ⟨_, _, _, _, _, _, ‹_›, ‹_›, ‹_›, rfl⟩
      · cases hstep
    · cases hstep
  · cases hstep

/-- A statement of `replicate` keeps everything in order. -/
lemma Sound.advance {id : ℕ} {u : Unit} (h : Sound w)
    (hstep : step (.advance id) w = .ok (u, w')) : Sound w' := by
  obtain ⟨call, f, fs, s, label, fs', hcall, hframes, hexecute, rfl⟩ := advance_cases hstep
  have hdo := executed hexecute
  have htop := h.top hcall hframes
  set w' := ((w.setServer call.target s).setLabel f.args.request label).setCall id
    { call with phase := .replicating (fs' ++ fs) } with hw'
  have hself : w'.server call.target = s := Function.update_self ..
  have hcalls : Remains w.call w'.call := Remains.goto hcall trivial
  -- The request at hand is that of the call itself, or one whose handler has begun.
  have hbegun : w'.Begun f.args.request := by
    rcases htop with ⟨-, hreq, -⟩ | ⟨hok, -⟩
    · rw [hreq]
      exact ⟨_, Function.update_self .., trivial⟩
    · exact hcalls.begun hok.begun
  have hafter : After w w' := {
    crashed := fun _ hk => hk
    leader := fun k hk => by
      by_cases hkt : k = call.target
      · subst hkt
        rw [hself]
        exact hdo.leader.mpr (.inl hk)
      · rwa [hw', Cluster.setCall_server, Cluster.setLabel_server, Cluster.setServer_server,
          Function.update_of_ne hkt]
    call := hcalls
    label := fun _ _ _ hi => label_of_begun rfl hbegun hi }
  refine h.after hafter ?_ ?_ fun _ => .inl rfl
  · intro k
    by_cases hkt : k = call.target
    · subst hkt
      rw [hself]
      refine .inr ⟨fun hlead => ?_, fun args hlast => ?_⟩
      · rcases hdo.leader.mp hlead with hold | hpromote
        · exact hafter.before ((h.server _).leader hold)
        · rcases htop with ⟨-, -, hcheck, -⟩ | ⟨hok, -⟩
          · rw [hcheck] at hpromote
            cases hpromote
          · exact hafter.before (hok.promote hpromote)
      · rcases hdo.last with hold | hnew
        · rw [hold] at hlast
          exact hafter.begun ((h.server _).last args hlast)
        · rw [hnew] at hlast
          cases hlast
          exact hbegun
    · refine .inl ?_
      rw [hw', Cluster.setCall_server, Cluster.setLabel_server, Cluster.setServer_server,
        Function.update_of_ne hkt]
      exact ⟨rfl, rfl⟩
  · intro i c hi
    rcases update_eq_some hi with ⟨rfl, rfl⟩ | hold
    · have hcallOk := h.call i call hcall
      refine .inr ⟨fun c hc => hafter.before (hcallOk.client c hc), fun _ _ hphase => ?_,
        fun gs hgs g hg => ?_⟩
      · cases hphase
      cases hgs
      rcases List.mem_append.mp hg with hg | hg
      · refine ⟨?_, fun hpoint => ?_, fun hpoint => ?_⟩
        · rcases hdo.args g hg with heq | hlast
          · rwa [heq]
          · exact hafter.begun ((h.server _).last _ hlast)
        · change (w'.server call.target).amILeader = true
          rw [hself]
          refine hdo.leader.mpr ?_
          rcases hdo.inner g hg hpoint with hlookup | hpromote
          · rcases htop with ⟨-, -, hcheck, -⟩ | ⟨hok, -⟩
            · rw [hcheck] at hlookup
              cases hlookup
            · exact .inl (hok.inner (.inr hlookup))
          · exact .inr hpromote
        · obtain ⟨hcheck, hclient, hfollower⟩ := hdo.promote g hg hpoint
          rcases htop with ⟨harriving, hreq, -⟩ | ⟨hok, -⟩
          · -- Only a client's request makes a leader.
            rw [hreq] at hclient
            cases hcaller : call.caller with
            | client c => exact hafter.before (hcallOk.client c hcaller)
            | thread t =>
              rw [hcallOk.thread t hcaller harriving] at hclient
              cases hclient
          · -- Whoever makes an inner call is the leader already.
            rw [hok.inner (.inl hcheck)] at hfollower
            cases hfollower
      · rcases htop with ⟨-, -, -, hnil⟩ | ⟨-, hrest⟩
        · rw [hnil] at hg
          cases hg
        · exact hafter.frame (hrest g hg)
    · exact .inl hold

/-- A thread sends a request to a follower only as long as the request says that it does not come
from a client. -/
def Labelled : Event ι → Cluster ι → Prop
  | .send t _, w => ∀ call ∈ w.call t, ∀ f ∈ (call.frames t).head?,
    (w.label f.args.request).isClient = false
  | _, _ => True

omit [DecidableEq ι] in
/-- A handler that has called, or that comes back from a call, is in order. -/
lemma Sound.goto {t : ℕ} {call : Call ι} {args : Arguments} {p q : Point} {fs : List Frame}
    (h : Sound w) (hafter : After w w') (hcall : w.call t = some call)
    (hframes : call.frames t = ⟨args, p⟩ :: fs) (hp : p ≠ .check)
    (hq : q ≠ .check ∧ q ≠ .lookup ∧ q ≠ .promote) :
    Call.Ok w' t { call with phase := .replicating (⟨args, q⟩ :: fs) } := by
  obtain ⟨hf, hfs⟩ : Frame.Ok w call.target ⟨args, p⟩ ∧ ∀ g ∈ fs, g.Ok w call.target := by
    rcases h.top hcall hframes with ⟨-, -, hcheck, -⟩ | hok
    · exact absurd hcheck hp
    · exact hok
  refine ⟨fun c hc => hafter.before ((h.call t call hcall).client c hc), fun _ _ hphase => ?_,
    fun gs hgs g hg => ?_⟩
  · cases hphase
  · cases hgs
    rcases List.mem_cons.mp hg with rfl | hg
    · exact ⟨hafter.begun hf.begun, fun hpoint => (hpoint.elim hq.1 hq.2.1).elim,
        fun hpoint => (hq.2.2 hpoint).elim⟩
    · exact hafter.frame (hfs g hg)

omit [DecidableEq ι] in
/-- A call whose handler has come to its end is in order. -/
lemma Sound.ended {id : ℕ} {call : Call ι} {phase : Phase} (h : Sound w) (hafter : After w w')
    (hcall : w.call id = some call) (hphase : phase = .over ∨ ∃ answer, phase = .answered answer) :
    Call.Ok w' id { call with phase := phase } := by
  refine ⟨fun c hc => hafter.before ((h.call id call hcall).client c hc), fun _ _ harriving => ?_,
    fun _ hgs => ?_⟩
  · rcases hphase with rfl | ⟨answer, rfl⟩ <;> cases harriving
  · rcases hphase with rfl | ⟨answer, rfl⟩ <;> cases hgs

/-- What a request does that a thread sends. -/
lemma send_cases {t id : ℕ} {u : Unit} (hstep : step (.send t id) w = .ok (u, w')) :
    ∃ call args j js fs, w.call t = some call ∧ w.call id = none ∧
      call.frames t = ⟨args, .send j js⟩ :: fs ∧
      w' = ((w.setCall id ⟨.thread t, j, .write args.write, .arriving⟩).setLabel id
        (w.label args.request)).setCall t
          { call with phase := .replicating (⟨args, .wait j js id⟩ :: fs) } := by
  simp only [step] at hstep
  split at hstep
  · split at hstep
    · split_ifs at hstep
      cases hstep
      exact ⟨_, _, _, _, _, ‹_›, ‹_›, ‹_›, rfl⟩
    · cases hstep
  · cases hstep

/-- It can be decided of each step. -/
instance decidableLabelled : ∀ (e : Event ι) (w : Cluster ι), Decidable (Labelled e w)
  | .send t _, w => by unfold Labelled; infer_instance
  | .request .., _ | .call .., _ | .advance _, _ | .answer _, _ | .receive _, _ | .fail _, _
  | .crash _, _ => .isTrue trivial

/-- The request that a thread sends keeps everything in order, if it does not come as that of a
client. -/
lemma Sound.send {t id : ℕ} {u : Unit} (h : Sound w) (hlabelled : Labelled (.send t id) w)
    (hstep : step (.send t id) w = .ok (u, w')) : Sound w' := by
  obtain ⟨call, args, j, js, fs, hcall, hnone, hframes, rfl⟩ := send_cases hstep
  set w' := ((w.setCall id ⟨.thread t, j, .write args.write, .arriving⟩).setLabel id
    (w.label args.request)).setCall t
      { call with phase := .replicating (⟨args, .wait j js id⟩ :: fs) } with hw'
  have hlabel : (w.label args.request).isClient = false :=
    hlabelled call hcall ⟨args, .send j js⟩ (by rw [hframes]; rfl)
  have hne : t ≠ id := by
    rintro rfl
    rw [hnone] at hcall
    cases hcall
  have hafter : After w w' := {
    crashed := fun _ hk => hk
    leader := fun _ hk => hk
    call :=
      (Remains.new hnone _).trans (Remains.goto (by rw [Function.update_of_ne hne, hcall]) trivial)
    label := fun _ _ hi _ => label_of_new rfl hnone hi }
  refine h.after hafter (fun _ => .inl ⟨rfl, rfl⟩) ?_ fun _ => .inl rfl
  intro i c hi
  rcases update_eq_some hi with ⟨rfl, rfl⟩ | hi
  · exact .inr (h.goto hafter hcall hframes (by simp) (by simp))
  rcases update_eq_some hi with ⟨rfl, rfl⟩ | hold
  · refine .inr ⟨fun _ hc => ?_, fun _ _ _ => ?_, fun _ hgs => ?_⟩
    · cases hc
    · rwa [hw', Cluster.setCall_label, Cluster.setLabel_label, Function.update_self]
    · cases hgs
  · exact .inl hold

omit [DecidableEq ι] in
/-- The end of a handler changes neither the role of the server nor its last request. -/
lemma like_complete (op : Write) (label : Label) (s : Shared) : (s.complete op label).2.Like s := by
  unfold Shared.complete
  split_ifs <;> exact ⟨rfl, rfl⟩

omit [DecidableEq ι] in
/-- Giving up a stub changes neither of them. -/
lemma like_unplugged (service : Service) (j : ServerId) (s : Shared) :
    (s.unplugged service j).Like s := ⟨rfl, rfl⟩

/-- What the end of a handler does. -/
lemma answer_cases {id : ℕ} {u : Unit} (hstep : step (.answer id) w = .ok (u, w')) :
    ∃ (call : Call ι) (s : Shared) (answer : Answer), w.call id = some call ∧
      w.crashed call.target = false ∧ s.Like (w.server call.target) ∧
      w' = (w.setServer call.target s).setCall id { call with phase := .answered answer } := by
  simp only [step] at hstep
  split at hstep
  · next call hcall =>
    split_ifs at hstep with hup
    split at hstep
    · next op _ _ =>
      cases hstep
      refine ⟨call, w.server call.target, op.perform (w.server call.target).db, hcall,
        by simpa using hup, ⟨rfl, rfl⟩, ?_⟩
      rw [Cluster.setServer, Function.update_eq_self]
    · cases hstep
      exact ⟨call, _, _, hcall, by simpa using hup, like_complete _ _ _, rfl⟩
    · cases hstep
  · cases hstep

/-- The end of a handler keeps everything in order. -/
lemma Sound.answer {id : ℕ} {u : Unit} (h : Sound w)
    (hstep : step (.answer id) w = .ok (u, w')) : Sound w' := by
  obtain ⟨call, s, answer, hcall, -, hlike, rfl⟩ := answer_cases hstep
  set w' := (w.setServer call.target s).setCall id { call with phase := .answered answer }
  have hserver : ∀ k, (w'.server k).Like (w.server k) := like_of_update rfl hlike
  have hafter : After w w' := {
    crashed := fun _ hk => hk
    leader := fun k hk => (hserver k).1.trans hk
    call := Remains.goto hcall trivial
    label := fun _ _ _ _ => rfl }
  refine h.after hafter (fun k => .inl (hserver k)) ?_ fun _ => .inl rfl
  intro i c hi
  rcases update_eq_some hi with ⟨rfl, rfl⟩ | hold
  · exact .inr (h.ended hafter hcall (.inr ⟨answer, rfl⟩))
  · exact .inl hold

/-- What a call does that returns: a client has its answer, or a thread goes on. -/
lemma receive_cases {id : ℕ} {u : Unit} (hstep : step (.receive id) w = .ok (u, w')) :
    ∃ call answer, w.call id = some call ∧ call.phase = .answered answer ∧
      ((∃ c p k, call.caller = .client c ∧ w.client c = ⟨k, .waiting p id⟩ ∧
        w' = (w.setCall id { call with phase := .over }).setClient c ⟨k, .idle⟩) ∨
      ∃ t outer args j js fs, call.caller = .thread t ∧ w.call t = some outer ∧
        outer.frames t = ⟨args, .wait j js id⟩ :: fs ∧
        w' = ((w.setCall id { call with phase := .over }).setLabel args.request
          { w.label args.request with isClient := true }).setCall t
            { outer with phase := .replicating (⟨args, .count js⟩ :: fs) }) := by
  simp only [step] at hstep
  split at hstep
  · next call hcall =>
    split at hstep
    · refine ⟨call, _, hcall, ‹_›, ?_⟩
      split at hstep
      · split_ifs at hstep with hid
        cases hstep
        subst hid
        exact .inl ⟨_, _, _, ‹_›, ‹_›, rfl⟩
      · cases hstep
    · refine ⟨call, _, hcall, ‹_›, ?_⟩
      split at hstep
      · split at hstep
        · split_ifs at hstep with hid
          cases hstep
          obtain ⟨rfl, -⟩ := hid
          exact .inr ⟨_, _, _, _, _, _, ‹_›, ‹_›, ‹_›, rfl⟩
        · cases hstep
      · cases hstep
    · cases hstep
  · cases hstep

/-- What a call does that raises: a client goes on to the next server, or a thread to the next
stub. -/
lemma fail_cases {id : ℕ} {u : Unit} (hstep : step (.fail id) w = .ok (u, w')) :
    ∃ call, w.call id = some call ∧ w.crashed call.target = true ∧
      ((∃ c p k, w.client c = ⟨k, .waiting p id⟩ ∧
        w' = (w.setCall id { call with phase := .over }).setClient c
          (Client.failed p ⟨k, .waiting p id⟩)) ∨
      ∃ t outer args j js fs, w.call t = some outer ∧
        outer.frames t = ⟨args, .wait j js id⟩ :: fs ∧
        w' = ((w.setCall id { call with phase := .over }).setServer outer.target
          ((w.server outer.target).unplugged args.write.service j)).setCall t
            { outer with phase := .replicating (⟨args, .loop js⟩ :: fs) }) := by
  simp only [step] at hstep
  split at hstep
  · next call hcall =>
    split_ifs at hstep with hdown
    refine ⟨call, hcall, by simpa using hdown, ?_⟩
    split at hstep
    · split at hstep
      · split_ifs at hstep with hid
        cases hstep
        subst hid
        exact .inl ⟨_, _, _, ‹_›, rfl⟩
      · cases hstep
    · split at hstep
      · split at hstep
        · split_ifs at hstep with hid
          cases hstep
          obtain ⟨rfl, -⟩ := hid
          exact .inr ⟨_, _, _, _, _, _, ‹_›, ‹_›, rfl⟩
        · cases hstep
      · cases hstep
  · cases hstep

omit [DecidableEq ι] in
/-- A call that comes to an end while a thread goes on leaves the calls in order. -/
lemma Sound.returned {id t i : ℕ} {call outer c : Call ι} {args : Arguments} {p q : Point}
    {fs : List Frame} (h : Sound w) (hafter : After w w') (hcall : w.call id = some call)
    (houter : w.call t = some outer) (hframes : outer.frames t = ⟨args, p⟩ :: fs)
    (hp : p ≠ .check) (hq : q ≠ .check ∧ q ≠ .lookup ∧ q ≠ .promote)
    (hi : Function.update (Function.update w.call id (some { call with phase := .over })) t
      (some { outer with phase := .replicating (⟨args, q⟩ :: fs) }) i = some c) :
    w.call i = some c ∨ c.Ok w' i := by
  rcases update_eq_some hi with ⟨rfl, rfl⟩ | hi
  · exact .inr (h.goto hafter houter hframes hp hq)
  rcases update_eq_some hi with ⟨rfl, rfl⟩ | hold
  · exact .inr (h.ended hafter hcall (.inl rfl))
  · exact .inl hold

/-- A client goes on in order when the servers before the one that it takes for the leader are
down. -/
lemma Sound.setClient {id : ℕ} {call : Call ι} {c : ι} {client : Client} (h : Sound w)
    (hcall : w.call id = some call)
    (hpassed : ∀ j : ServerId, j < client.currLeader → w.crashed j = true)
    (hactivity : ∀ p i, client.activity ≠ .waiting p i) :
    Sound ((w.setCall id { call with phase := .over }).setClient c client) := by
  have hafter : After w ((w.setCall id { call with phase := .over }).setClient c client) := {
    crashed := fun _ hk => hk
    leader := fun _ hk => hk
    call := Remains.goto hcall trivial
    label := fun _ _ _ _ => rfl }
  refine h.after hafter (fun _ => .inl ⟨rfl, rfl⟩) (fun i c' hi => ?_) ?_
  · rcases update_eq_some hi with ⟨rfl, rfl⟩ | hold
    · exact .inr (h.ended hafter hcall (.inl rfl))
    · exact .inl hold
  · exact client_of_update rfl ⟨hpassed, fun p i hwait => absurd hwait (hactivity p i)⟩

/-- A call that returns keeps everything in order. -/
lemma Sound.receive {id : ℕ} {u : Unit} (h : Sound w)
    (hstep : step (.receive id) w = .ok (u, w')) : Sound w' := by
  obtain ⟨call, -, hcall, -, ⟨c, p, k, -, hclient, rfl⟩ |
    ⟨t, outer, args, j, js, fs, -, houter, hframes, hw'⟩⟩ := receive_cases hstep
  · have hok := h.client c
    rw [hclient] at hok
    exact h.setClient hcall hok.passed fun _ _ hwait => by cases hwait
  · have hcalls : Remains w.call w'.call := by
      rw [hw']
      exact Remains.return hcall houter trivial
    have hbegun : w'.Begun args.request := by
      rcases h.top houter hframes with ⟨-, -, hcheck, -⟩ | ⟨hok, -⟩
      · cases hcheck
      · exact hcalls.begun hok.begun
    have hafter : After w w' := {
      crashed := fun _ hk => by rwa [hw']
      leader := fun _ hk => by rwa [hw']
      call := hcalls
      label := fun _ _ _ hi => label_of_begun (by rw [hw']; rfl) hbegun hi }
    refine h.after hafter (fun _ => .inl (by rw [hw']; exact ⟨rfl, rfl⟩)) (fun i c hi => ?_)
      fun _ => .inl (by rw [hw']; rfl)
    rw [hw'] at hi
    exact h.returned hafter hcall houter hframes (by simp) (by simp) hi

/-- A call that raises keeps everything in order. -/
lemma Sound.fail {id : ℕ} {u : Unit} (h : Sound w)
    (hstep : step (.fail id) w = .ok (u, w')) : Sound w' := by
  obtain ⟨call, hcall, hdown, ⟨c, p, k, hclient, rfl⟩ |
    ⟨t, outer, args, j, js, fs, houter, hframes, hw'⟩⟩ := fail_cases hstep
  · have hok := h.client c
    rw [hclient] at hok
    obtain ⟨call', hcall', htarget⟩ := hok.waiting p id rfl
    obtain rfl : call = call' := Option.some.inj (hcall.symm.trans hcall')
    refine h.setClient hcall (fun i hi => ?_) fun _ _ hwait => ?_
    · -- The server that has been called is down, and so are those before it.
      rcases Nat.lt_or_eq_of_le (Nat.le_of_lt_succ hi) with hlt | heq
      · exact hok.passed i hlt
      · have hik : i = call.target := Fin.ext (heq.trans htarget.symm)
        rwa [hik]
    · unfold Client.failed at hwait
      dsimp only at hwait
      split_ifs at hwait
  · have hserver : ∀ i, (w'.server i).Like (w.server i) :=
      like_of_update (by rw [hw']; rfl) (like_unplugged args.write.service j _)
    have hafter : After w w' := {
      crashed := fun _ hk => by rwa [hw']
      leader := fun i hk => (hserver i).1.trans hk
      call := by
        rw [hw']
        exact Remains.return hcall houter trivial
      label := fun _ _ _ _ => by rw [hw']; rfl }
    refine h.after hafter (fun i => .inl (hserver i)) (fun i c hi => ?_)
      fun _ => .inl (by rw [hw']; rfl)
    rw [hw'] at hi
    exact h.returned hafter hcall houter hframes (by simp) (by simp) hi

/-- What a call does that a client makes. -/
lemma call_cases {c : ι} {id : ℕ} {u : Unit} (hstep : step (.call c id) w = .ok (u, w')) :
    ∃ (k : ℕ) (p : Procedure) (hk : k < 3), w.client c = ⟨k, .ready p⟩ ∧ w.call id = none ∧
      w' = ((w.setCall id ⟨.client c, ⟨k, hk⟩, p, .arriving⟩).setLabel id ⟨true, 0⟩).setClient
        c ⟨k, .waiting p id⟩ := by
  simp only [step] at hstep
  split at hstep
  · split_ifs at hstep with hk
    cases hstep
    exact ⟨_, _, hk, ‹_›, ‹_›, rfl⟩
  · cases hstep

/-- What a client does that calls `send_request`. -/
lemma request_cases {c : ι} {p : Procedure} {u : Unit}
    (hstep : step (.request c p) w = .ok (u, w')) :
    ∃ k, w.client c = ⟨k, .idle⟩ ∧ w' = w.setClient c ⟨k, .ready p⟩ := by
  simp only [step] at hstep
  split at hstep
  · cases hstep
    exact ⟨_, ‹_›, rfl⟩
  · cases hstep

/-- The call of a client keeps everything in order. -/
lemma Sound.newCall {c : ι} {id : ℕ} {u : Unit} (h : Sound w)
    (hstep : step (.call c id) w = .ok (u, w')) : Sound w' := by
  obtain ⟨k, p, hk, hclient, hnone, rfl⟩ := call_cases hstep
  set w' := ((w.setCall id ⟨.client c, ⟨k, hk⟩, p, .arriving⟩).setLabel id ⟨true, 0⟩).setClient
    c ⟨k, .waiting p id⟩
  have hok := h.client c
  rw [hclient] at hok
  have hafter : After w w' := {
    crashed := fun _ hk => hk
    leader := fun _ hk => hk
    call := Remains.new hnone _
    label := fun _ _ hi _ => label_of_new rfl hnone hi }
  refine h.after hafter (fun _ => .inl ⟨rfl, rfl⟩) (fun i call hi => ?_) ?_
  · rcases update_eq_some hi with ⟨rfl, rfl⟩ | hold
    · refine .inr ⟨fun _ _ j hj => hok.passed j hj, fun _ hc => ?_, fun _ hgs => ?_⟩
      · cases hc
      · cases hgs
    · exact .inl hold
  · refine client_of_update rfl ⟨hok.passed, fun p' i hwait => ?_⟩
    cases hwait
    exact ⟨_, Function.update_self .., rfl⟩

/-- A client that calls `send_request` keeps everything in order. -/
lemma Sound.request {c : ι} {p : Procedure} {u : Unit} (h : Sound w)
    (hstep : step (.request c p) w = .ok (u, w')) : Sound w' := by
  obtain ⟨k, hclient, rfl⟩ := request_cases hstep
  have hok := h.client c
  rw [hclient] at hok
  have hafter : After w (w.setClient c ⟨k, .ready p⟩) :=
    ⟨fun _ hk => hk, fun _ hk => hk, Remains.refl _, fun _ _ _ _ => rfl⟩
  refine h.after hafter (fun _ => .inl ⟨rfl, rfl⟩) (fun _ _ hi => .inl hi) ?_
  exact client_of_update rfl ⟨hok.passed, fun _ _ hwait => by cases hwait⟩

/-- A server that stops leaves everything in order. -/
lemma Sound.crash {k : ServerId} {u : Unit} (h : Sound w)
    (hstep : step (.crash k) w = .ok (u, w')) : Sound w' := by
  cases hstep
  have hafter : After w { w with crashed := Function.update w.crashed k true } := {
    crashed := fun i hi => by
      dsimp only
      rw [Function.update_apply, hi, ite_self]
    leader := fun _ hi => hi
    call := Remains.refl _
    label := fun _ _ _ _ => rfl }
  exact h.after hafter (fun _ => .inl ⟨rfl, rfl⟩) (fun _ _ hi => .inl hi) fun _ => .inl rfl

/-- Every step keeps everything in order, if no thread sends a request that says that it comes from
a client. -/
theorem Sound.step {e : Event ι} {u : Unit} (h : Sound w) (hlabelled : Labelled e w)
    (hstep : step e w = .ok (u, w')) : Sound w' := by
  cases e with
  | request c p => exact h.request hstep
  | call c id => exact h.newCall hstep
  | advance id => exact h.advance hstep
  | send t id => exact h.send hlabelled hstep
  | answer id => exact h.answer hstep
  | receive id => exact h.receive hstep
  | fail id => exact h.fail hstep
  | crash k => exact h.crash hstep

/-! ## Answers -/

/-- An answer is on its way because it has been on its way before, or because a server that is up
has produced it. -/
lemma answered_of_step {e : Event ι} {u : Unit} (hstep : Threads.step e w = .ok (u, w')) {id : ℕ}
    {call : Call ι} {answer : Answer} (hcall : w'.call id = some call)
    (hphase : call.phase = .answered answer) :
    w.call id = some call ∨ e = .answer id ∧ w.crashed call.target = false ∧
      ∃ before, w.call id = some before ∧ before.caller = call.caller ∧
        before.target = call.target := by
  -- Only the handler whose call it is answers it.
  have hset : ∀ {calls : ℕ → Option (Call ι)} {i : ℕ} {next : Call ι},
      (∀ a, next.phase ≠ .answered a) → Function.update calls i (some next) id = some call →
      calls id = some call := by
    intro calls i next hnext hupdate
    rcases update_eq_some hupdate with ⟨rfl, rfl⟩ | hold
    · exact absurd hphase (hnext answer)
    · exact hold
  cases e with
  | request c p =>
    obtain ⟨k, -, rfl⟩ := request_cases hstep
    exact .inl hcall
  | call c i =>
    obtain ⟨k, p, hk, -, -, rfl⟩ := call_cases hstep
    exact .inl (hset (by simp) hcall)
  | advance i =>
    obtain ⟨c, f, fs, s, label, fs', -, -, -, rfl⟩ := advance_cases hstep
    exact .inl (hset (by simp) hcall)
  | send t i =>
    obtain ⟨c, args, j, js, fs, -, -, -, rfl⟩ := send_cases hstep
    exact .inl (hset (by simp) (hset (by simp) hcall))
  | answer i =>
    obtain ⟨c, s, a, hc, hup, -, rfl⟩ := answer_cases hstep
    rcases update_eq_some hcall with ⟨rfl, rfl⟩ | hold
    · exact .inr ⟨rfl, hup, c, hc, rfl, rfl⟩
    · exact .inl hold
  | receive i =>
    obtain ⟨c, -, -, -, ⟨c', p, k, -, -, rfl⟩ | ⟨t, outer, args, j, js, fs, -, -, -, rfl⟩⟩ :=
      receive_cases hstep
    · exact .inl (hset (by simp) hcall)
    · exact .inl (hset (by simp) (hset (by simp) hcall))
  | fail i =>
    obtain ⟨c, -, -, ⟨c', p, k, -, rfl⟩ | ⟨t, outer, args, j, js, fs, -, -, rfl⟩⟩ :=
      fail_cases hstep
    · exact .inl (hset (by simp) hcall)
    · exact .inl (hset (by simp) (hset (by simp) hcall))
  | crash k =>
    cases hstep
    exact .inl hcall

/-- In a run in which no thread sends a request that says that it comes from a client, everything is
in order, and an answer to a client that is on its way has been produced when its server was up and
the servers before it were down. -/
lemma sound_and_produced {db : Db} {es : List (Event ι)}
    (hlabelled : Guarded Threads.step Labelled es (.start db))
    (hrun : Foundation.run Threads.step es (.start db) = .ok w) :
    Sound w ∧ ∀ id call answer c, w.call id = some call → call.phase = .answered answer →
      call.caller = .client c → ∃ before between v, es = before ++ .answer id :: between ∧
        Foundation.run Threads.step before (.start db) = .ok v ∧
        v.crashed call.target = false ∧ v.Before call.target := by
  refine run_history (P := fun es w => Sound w ∧ ∀ id call answer c, w.call id = some call →
    call.phase = .answered answer → call.caller = .client c →
      ∃ before between v, es = before ++ .answer id :: between ∧
        Foundation.run Threads.step before (.start db) = .ok v ∧
        v.crashed call.target = false ∧ v.Before call.target) ?_ ?_ hlabelled hrun
  · exact ⟨Sound.start db, fun _ _ _ _ hcall => by cases hcall⟩
  · intro es e v u t hbefore ⟨hsound, hproduced⟩ hlabel hstep
    refine ⟨hsound.step hlabel hstep, ?_⟩
    intro id call answer c hcall hphase hcaller
    rcases answered_of_step hstep hcall hphase with hold | ⟨rfl, hup, old, hold, holdc, holdt⟩
    · obtain ⟨before, between, v', rfl, hrest⟩ := hproduced id call answer c hold hphase hcaller
      exact ⟨before, between ++ [e], v', by simp, hrest⟩
    · have hpassed := (hsound.call id old hold).client c (holdc.trans hcaller)
      rw [holdt] at hpassed
      exact ⟨es, [], v, rfl, hbefore, hup, hpassed⟩

/-- The server `k` is up, and the servers before it are down. -/
def Cluster.Lowest (w : Cluster ι) (k : ℕ) : Prop :=
  ∃ s : ServerId, (s : ℕ) = k ∧ w.crashed s = false ∧ w.Before s

/-- In every run in which a request that a thread sends to a follower still has
`is_client = False`: at most one server that is up is a leader; the servers before a leader are
down; and when `send_request` returns an answer, the client's `curr_leader` is the server that was
the first of those that were up when the answer was produced. -/
theorem leader_unique_of_labelled {db : Db} {es : List (Event ι)}
    (hrun : Foundation.run Threads.step es (.start db) = .ok w)
    (hlabelled : Guarded Threads.step Labelled es (.start db)) :
    (∀ j k, w.crashed j = false → w.crashed k = false → (w.server j).amILeader = true →
      (w.server k).amILeader = true → j = k) ∧
    (∀ k, (w.server k).amILeader = true → ∀ j, j < k → w.crashed j = true) ∧
    ∀ id u w', Threads.step (.receive id) w = .ok (u, w') →
      ∀ call c, w.call id = some call → call.caller = .client c →
        ∃ before between v, es = before ++ .answer id :: between ∧
          Foundation.run Threads.step before (.start db) = .ok v ∧
          v.Lowest (w'.client c).currLeader := by
  obtain ⟨hsound, hproduced⟩ := sound_and_produced hlabelled hrun
  refine ⟨?_, fun k hk => (hsound.server k).leader hk, ?_⟩
  · intro j k hj hk hleadj hleadk
    by_contra hne
    rcases lt_or_gt_of_ne hne with hlt | hlt
    · have := (hsound.server k).leader hleadk j hlt
      rw [hj] at this
      cases this
    · have := (hsound.server j).leader hleadj k hlt
      rw [hk] at this
      cases this
  · intro id u w' hstep call c hcall hcaller
    obtain ⟨call', answer, hcall', hphase, hreceive⟩ := receive_cases hstep
    obtain rfl : call = call' := Option.some.inj (hcall.symm.trans hcall')
    obtain ⟨c', p, k, hcaller', hclient, rfl⟩ | ⟨t, -, -, -, -, -, hthread, -⟩ := hreceive
    · obtain rfl : c = c' := Caller.client.inj (hcaller.symm.trans hcaller')
      obtain ⟨before, between, v, hsplit, hbefore, hup, hpassed⟩ :=
        hproduced id call answer c hcall hphase hcaller
      -- The client has waited for the server that it takes for the leader.
      have hok := hsound.client c
      rw [hclient] at hok
      obtain ⟨call'', hcall'', htarget⟩ := hok.waiting p id rfl
      obtain rfl : call = call'' := Option.some.inj (hcall.symm.trans hcall'')
      refine ⟨before, between, v, hsplit, hbefore, call.target, ?_, hup, hpassed⟩
      rw [Cluster.setClient_client, Function.update_self]
      exact htarget
    · rw [hcaller] at hthread
      cases hthread

/-- A client registers while servers fail: server 0 stops when it has replicated the request to
server 1, and the client gets its answer from server 1. -/
def failover : List (Event Unit) :=
  [.request () (.write (.register "ann" "x")), .call () 0, .advance 0, .advance 0, .advance 0,
    .advance 0, .advance 0, .send 0 1, .advance 1, .advance 1, .answer 1, .crash 0, .fail 0,
    .call () 2,
    -- Server 1 becomes the leader, and replays the request before it replicates it.
    .advance 2, .advance 2, .advance 2, .advance 2, .advance 2, .advance 2, .advance 2, .advance 2,
    .send 2 3, .advance 3, .advance 3, .answer 3, .receive 3, .advance 2, .advance 2, .advance 2,
    .advance 2, .advance 2, .advance 2, .send 2 4, .advance 4, .advance 4, .answer 4, .receive 4,
    .advance 2, .advance 2, .answer 2]

/-- In the run `failover`, server 1 becomes the one leader, and the client that gets its answer
takes it for the leader. -/
theorem leader_unique_of_labelled_failover :
    ∃ w w' : Cluster Unit,
      Foundation.run Threads.step failover (.start ⟨∅, fun _ => []⟩) = .ok w ∧
      Threads.step (.receive 2) w = .ok ((), w') ∧
      (∀ j, w.crashed j = false → (w.server j).amILeader = true → j = 1) ∧
      (∀ j : ServerId, j < 1 → w.crashed j = true) ∧
      ∃ before between v, failover = before ++ .answer 2 :: between ∧
        Foundation.run Threads.step before (.start ⟨∅, fun _ => []⟩) = .ok v ∧
        v.Lowest (w'.client ()).currLeader := by
  have hlabelled : Guarded Threads.step Labelled failover
      (Cluster.start ⟨∅, fun _ => []⟩ : Cluster Unit) := by decide +kernel
  obtain ⟨w, hrun, hup, hlead, w', call, hreceive, hcall, hcaller⟩ : ∃ w : Cluster Unit,
      Foundation.run Threads.step failover (.start ⟨∅, fun _ => []⟩) = .ok w ∧
      w.crashed 1 = false ∧ (w.server 1).amILeader = true ∧ ∃ w' call,
        Threads.step (.receive 2) w = .ok ((), w') ∧ w.call 2 = some call ∧
        call.caller = .client () := ⟨_, rfl, rfl, rfl, _, _, rfl, rfl, rfl⟩
  obtain ⟨hunique, hbefore, hanswer⟩ := leader_unique_of_labelled hrun hlabelled
  exact ⟨w, w', hrun, hreceive, fun j hj hleadj => hunique j 1 hj hup hleadj hlead,
    hbefore 1 hlead, hanswer 2 () w' hreceive call () hcall hcaller⟩

/-- Two clients fail over to server 1 at the same time, which has a request to replay.  Both threads
become the leader and replay it; the first one has its reply and sets `is_client` to `True` when the
second one has set it to `False` and has not sent the request yet.  So server 2 takes the request
for that of a client, and itself for the leader, while server 1 is up. -/
def race : List (Event (Fin 2)) :=
  [.request 0 (.write (.register "ann" "x")), .call 0 0, .advance 0, .advance 0, .advance 0,
    .advance 0, .advance 0, .send 0 1, .advance 1, .advance 1, .answer 1, .crash 0, .fail 0,
    .call 0 2, .request 1 (.write (.register "bob" "y")), .call 1 3, .fail 3, .call 1 4,
    -- Both threads pass the test before one of them sets `am_i_leader`.
    .advance 2, .advance 4, .advance 2, .advance 2, .advance 2, .advance 2, .advance 2, .advance 2,
    .advance 2, .send 2 5, .advance 5, .advance 5, .answer 5,
    -- The reply to the first thread comes between two statements of the second one.
    .advance 4, .advance 4, .advance 4, .advance 4, .advance 4, .advance 4, .advance 4, .receive 5,
    .send 4 6, .advance 6, .advance 6]

/-- Two servers that are up are leaders. -/
theorem two_leaders :
    match Foundation.run Threads.step race (.start ⟨∅, fun _ => []⟩) with
    | .ok w => w.crashed 1 = false ∧ w.crashed 2 = false ∧
      (w.server 1).amILeader = true ∧ (w.server 2).amILeader = true
    | .error _ => False := ⟨rfl, rfl, rfl, rfl⟩

end Steps

end Chat262.Replication.Threads
