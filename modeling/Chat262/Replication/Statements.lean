import Chat262.Replication.Steps
import Chat262.Replication.Threads

/-!
# Statements of a handler

`Replication.Server` handles one call at a time, from its beginning to its end, and
`Replication.Threads` executes one statement of one thread at a time.  `Mirrors` says that the
servers that are up remember the same.  What a thread does on its server leaves the other servers
alone, and the calls to the servers before it (`Stays`, `Untouched`).  `Replicating` tells where the
handler of a call stands in `replicate`, and there is one lemma for each of its statements: what it
does is what the code of `Replication.Server` does.
-/

namespace Chat262.Replication.Threads

open Foundation Comp

variable {ι : Type}

/-! ## What the threads remember -/

/-- What a server remembers, apart from `last_request`. -/
def Shared.core (s : Shared) : Params := ⟨s.amILeader, s.stubs, s.db, s.counter, none⟩

/-- The same of a server that handles one call at a time. -/
def forget (p : Params) : Params := { p with lastRequest := none }

/-- The request that `replicate` has been called with, as it is at the moment. -/
def Cluster.request (cl : Cluster ι) (args : Arguments) : Request :=
  ⟨args.write, (cl.label args.request).isClient, (cl.label args.request).counter⟩

/-- What a server remembers. -/
def Cluster.memory (cl : Cluster ι) (k : ServerId) : Params :=
  { (cl.server k).core with lastRequest := (cl.server k).lastRequest.map cl.request }

/-- The call `id` has been made to the server `k`. -/
def Cluster.Brought (cl : Cluster ι) (id : ℕ) (k : ServerId) : Prop :=
  ∃ call, cl.call id = some call ∧ call.target = k

/-- A call is made to one server. -/
lemma Cluster.Brought.unique {cl : Cluster ι} {id : ℕ} {k k' : ServerId} (h : cl.Brought id k)
    (h' : cl.Brought id k') : k = k' := by
  obtain ⟨call, hcall, rfl⟩ := h
  obtain ⟨call', hcall', rfl⟩ := h'
  rw [hcall] at hcall'
  rw [Option.some.inj hcall']

/-- The servers in `S` remember the same, as far as they are up. -/
structure Mirrors (S : ServerId → Prop) (w : World) (cl : Cluster ι) : Prop where
  crashed : cl.crashed = w.crashed
  memory : ∀ k, S k → w.crashed k = false → w.server k = cl.memory k
  owned : ∀ k args, (cl.server k).lastRequest = some args → cl.Brought args.request k
  fresh : ∃ n, ∀ id, n ≤ id → cl.call id = none

/-- What the server `me` does changes nothing of the other servers, and none of the calls to the
servers before it. -/
structure Stays (me : ServerId) (cl cl' : Cluster ι) : Prop where
  client : cl'.client = cl.client
  server : ∀ k, k ≠ me → cl'.server k = cl.server k
  /-- The calls that it has got are none of those to the servers before it. -/
  calls : ∀ id call, cl.call id = some call → call.target < me → cl'.call id = some call
  brought : ∀ id k, cl.Brought id k → cl'.Brought id k
  labels : ∀ id k, k ≠ me → cl.Brought id k → cl'.label id = cl.label id
  fresh : (∃ n, ∀ id, n ≤ id → cl.call id = none) → ∃ n, ∀ id, n ≤ id → cl'.call id = none

/-- The servers before the server `k` are left alone, and the calls to them. -/
structure Untouched (k : ServerId) (w : World) (cl : Cluster ι) (w' : World) (cl' : Cluster ι) :
    Prop where
  later : Later w w'
  world : ∀ s, s < k → w'.server s = w.server s
  server : ∀ s, s < k → cl'.server s = cl.server s
  calls : ∀ id call, cl.call id = some call → call.target < k → cl'.call id = some call
  brought : ∀ id s, cl.Brought id s → cl'.Brought id s
  labels : ∀ id s, s < k → cl.Brought id s → cl'.label id = cl.label id
  client : cl'.client = cl.client

section Frames

variable {S S' : ServerId → Prop} {w w' w'' : World} {cl cl' cl'' : Cluster ι} {me k : ServerId}

/-- The request is the same when its fields are. -/
lemma request_congr {args : Arguments} (h : cl'.label args.request = cl.label args.request) :
    cl'.request args = cl.request args := by
  simp [Cluster.request, h]

/-- A server remembers the same when its memory and the last request are the same. -/
lemma memory_congr (hserver : cl'.server k = cl.server k)
    (hlabel : ∀ args, (cl.server k).lastRequest = some args →
      cl'.label args.request = cl.label args.request) : cl'.memory k = cl.memory k := by
  have hlast : (cl.server k).lastRequest.map cl'.request =
      (cl.server k).lastRequest.map cl.request :=
    Option.map_congr fun args hargs => request_congr (hlabel args hargs)
  rw [Cluster.memory, Cluster.memory, hserver, hlast]

/-- Less can be said of fewer servers. -/
lemma Mirrors.mono (h : Mirrors S w cl) (hS : ∀ k, S' k → S k) : Mirrors S' w cl where
  __ := h
  memory k hk := h.memory k (hS k hk)

/-- Nothing has been touched yet. -/
lemma Untouched.refl (k : ServerId) (w : World) (cl : Cluster ι) : Untouched k w cl w cl where
  later := .refl w
  world _ _ := rfl
  server _ _ := rfl
  calls _ _ h _ := h
  brought _ _ h := h
  labels _ _ _ _ := rfl
  client := rfl

/-- What is left alone twice is left alone. -/
lemma Untouched.trans (h : Untouched k w cl w' cl') (h' : Untouched k w' cl' w'' cl'') :
    Untouched k w cl w'' cl'' where
  later := h.later.trans h'.later
  world s hs := (h'.world s hs).trans (h.world s hs)
  server s hs := (h'.server s hs).trans (h.server s hs)
  calls id call hid hcall := h'.calls id call (h.calls id call hid hcall) hcall
  brought id s hid := h'.brought id s (h.brought id s hid)
  labels id s hs hid := (h'.labels id s hs (h.brought id s hid)).trans (h.labels id s hs hid)
  client := h'.client.trans h.client

/-- What is left alone before a server is left alone before one in front of it. -/
lemma Untouched.mono (h : Untouched k w cl w' cl') (hme : me ≤ k) : Untouched me w cl w' cl' where
  later := h.later
  world s hs := h.world s (hs.trans_le hme)
  server s hs := h.server s (hs.trans_le hme)
  calls id call hid hcall := h.calls id call hid (hcall.trans_le hme)
  brought := h.brought
  labels id s hs hid := h.labels id s (hs.trans_le hme) hid
  client := h.client

/-- What a server does leaves those before it alone. -/
lemma Stays.untouched (h : Stays me cl cl') (hlater : Later w w')
    (hsame : ∀ k, k ≠ me → w'.server k = w.server k) : Untouched me w cl w' cl' where
  later := hlater
  world s hs := hsame s hs.ne
  server s hs := h.server s hs.ne
  calls := h.calls
  brought := h.brought
  labels id s hs hid := h.labels id s hs.ne hid
  client := h.client

/-- What a server does changes what this server remembers. -/
lemma Mirrors.stays (h : Mirrors S w cl) (hstays : Stays me cl cl')
    (hcrashed : cl'.crashed = w'.crashed) (hlater : Later w w')
    (hsame : ∀ k, k ≠ me → w'.server k = w.server k)
    (howned : ∀ args, (cl'.server me).lastRequest = some args → cl.Brought args.request me)
    (hme : S me → w'.crashed me = false → w'.server me = cl'.memory me) : Mirrors S w' cl' where
  crashed := hcrashed
  memory k hk hup := by
    by_cases hkm : k = me
    · subst hkm
      exact hme hk hup
    · rw [hsame k hkm, h.memory k hk (hlater.alive hup)]
      exact (memory_congr (hstays.server k hkm) fun args hargs =>
        hstays.labels _ k hkm (h.owned k args hargs)).symm
  owned k args hargs := by
    by_cases hkm : k = me
    · subst hkm
      exact hstays.brought _ k (howned args hargs)
    · rw [hstays.server k hkm] at hargs
      exact hstays.brought _ k (h.owned k args hargs)
  fresh := hstays.fresh h.fresh

/-- The servers before a server are as they were, when it is known what it and those behind it have
done. -/
lemma Mirrors.extend (h : Mirrors S w cl) (huntouched : Untouched k w cl w' cl')
    (h' : Mirrors (k ≤ ·) w' cl') : Mirrors S w' cl' where
  __ := h'
  memory s hs hup := by
    rcases le_or_gt k s with hks | hsk
    · exact h'.memory s hks hup
    · rw [huntouched.world s hsk, h.memory s hs (huntouched.later.alive hup)]
      exact (memory_congr (huntouched.server s hsk) fun args hargs =>
        huntouched.labels _ s hsk (h.owned s args hargs)).symm

/-- When servers stop, the others remember the same. -/
lemma Mirrors.crash (h : Mirrors S w cl) (hlater : Later w w') (hsame : w'.server = w.server) :
    Mirrors S w' { cl with crashed := w'.crashed } where
  crashed := rfl
  memory k hk hup := by
    rw [hsame, h.memory k hk (hlater.alive hup)]
    rfl
  owned := h.owned
  fresh := h.fresh

/-- Nothing else happens when servers stop. -/
lemma untouched_crash (k : ServerId) (hlater : Later w w') (hsame : w'.server = w.server) :
    Untouched k w cl w' { cl with crashed := w'.crashed } where
  later := hlater
  world s _ := by rw [hsame]
  server _ _ := rfl
  calls _ _ h _ := h
  brought _ _ h := h
  labels _ _ _ _ := rfl
  client := rfl

end Frames

/-! ## Single steps -/

section Stays

variable {cl cl' cl'' : Cluster ι} {me : ServerId}

/-- A server may do nothing. -/
lemma Stays.refl (me : ServerId) (cl : Cluster ι) : Stays me cl cl where
  client := rfl
  server _ _ := rfl
  calls _ _ h _ := h
  brought _ _ h := h
  labels _ _ _ _ := rfl
  fresh h := h

/-- What a server does after one another it does. -/
lemma Stays.trans (h : Stays me cl cl') (h' : Stays me cl' cl'') : Stays me cl cl'' where
  client := h'.client.trans h.client
  server k hk := (h'.server k hk).trans (h.server k hk)
  calls id call hid hcall := h'.calls id call (h.calls id call hid hcall) hcall
  brought id k hid := h'.brought id k (h.brought id k hid)
  labels id k hk hid := (h'.labels id k hk (h.brought id k hid)).trans (h.labels id k hk hid)
  fresh hfresh := h'.fresh (h.fresh hfresh)

/-- A server may change what it remembers. -/
lemma stays_setServer (cl : Cluster ι) (me : ServerId) (s : Shared) :
    Stays me cl (cl.setServer me s) where
  client := rfl
  server _ hk := Function.update_of_ne hk _ _
  calls _ _ h _ := h
  brought _ _ h := h
  labels _ _ _ _ := rfl
  fresh h := h

/-- It may write to its requests. -/
lemma stays_setLabel {r : ℕ} (hr : ∀ k, k ≠ me → ¬ cl.Brought r k) (label : Label) :
    Stays me cl (cl.setLabel r label) where
  client := rfl
  server _ _ := rfl
  calls _ _ h _ := h
  brought _ _ h := h
  labels id k hk hid := by
    refine Function.update_of_ne ?_ _ _
    rintro rfl
    exact hr k hk hid
  fresh h := h

/-- It may go on with its calls, and make new ones. -/
lemma stays_setCall {id : ℕ} {call : Call ι}
    (hid : ∀ old, cl.call id = some old → me ≤ old.target ∧ call.target = old.target) :
    Stays me cl (cl.setCall id call) where
  client := rfl
  server _ _ := rfl
  calls id' call' hid' hlt := by
    refine (Function.update_of_ne ?_ _ _).trans hid'
    rintro rfl
    exact absurd hlt (not_lt.mpr (hid call' hid').1)
  brought id' k hk := by
    obtain ⟨old, hold, rfl⟩ := hk
    by_cases hne : id' = id
    · subst hne
      exact ⟨call, Function.update_self _ _ _, (hid old hold).2⟩
    · exact ⟨old, (Function.update_of_ne hne _ _).trans hold, rfl⟩
  labels _ _ _ _ := rfl
  fresh h := by
    obtain ⟨n, hn⟩ := h
    refine ⟨max n (id + 1), fun id' hid' => ?_⟩
    have hne : id' ≠ id := by
      rintro rfl
      omega
    exact (Function.update_of_ne hne _ _).trans (hn id' (by omega))

/-- Servers may stop meanwhile. -/
lemma Stays.crash (h : Stays me cl cl') {crashed : ServerId → Bool} :
    Stays me cl { cl' with crashed := crashed } where
  client := h.client
  server := h.server
  calls := h.calls
  brought := h.brought
  labels := h.labels
  fresh := h.fresh

end Stays

/-- The answers that the clients get. -/
def delivered : Event ι → Cluster ι → List (ι × Answer)
  | .receive id, cl =>
    match cl.call id with
    | some ⟨.client c, _, _, .answered answer⟩ => [(c, answer)]
    | _ => []
  | _, _ => []

section Steps

variable [DecidableEq ι] {cl cl' : Cluster ι} {h : ℕ} {call : Call ι}

/-- Something happens that no client notices. -/
abbrev Silently (cl cl' : Cluster ι) : Prop := Unnoticed step delivered cl cl'

/-- Servers may stop. -/
lemma silently_crash {w w' : World} (hcrashed : cl.crashed = w.crashed) (hlater : Later w w') :
    Silently cl { cl with crashed := w'.crashed } := by
  have hstop (ks : List ServerId) : ∀ cl : Cluster ι,
      Silently cl { cl with crashed := fun s => cl.crashed s || decide (s ∈ ks) } := by
    induction ks with
    | nil =>
      intro cl
      simpa using Unnoticed.refl cl
    | cons k ks ih =>
      intro cl
      have hfirst : Silently cl { cl with crashed := Function.update cl.crashed k true } :=
        .of_step (e := .crash k) rfl rfl
      convert hfirst.trans (ih _) using 2
      funext s
      by_cases hs : s = k <;> simp [hs]
  convert hstop ((List.finRange 3).filter w'.crashed) cl using 2
  funext s
  cases hs : cl.crashed s
  · simp
  · rw [hcrashed] at hs
    simp [hlater s hs]

/-- A thread may execute its next statement. -/
lemma silently_advance {f : Frame} {fs fs' : List Frame} {s : Shared} {label : Label}
    (hcall : cl.call h = some call) (hframes : call.frames h = f :: fs)
    (hup : cl.crashed call.target = false)
    (hexecute : execute call.target (cl.server call.target) (cl.label f.args.request) f =
      some (s, label, fs')) :
    Silently cl (((cl.setServer call.target s).setLabel f.args.request label).setCall h
      { call with phase := .replicating (fs' ++ fs) }) := by
  refine .of_step (e := .advance h) (r := ()) ?_ rfl
  simp only [step, hcall, hframes, hup, hexecute]
  rfl

/-- A thread may make a call. -/
lemma silently_send {id : ℕ} {args : Arguments} {j : ServerId} {js : List ServerId}
    {fs : List Frame} (hcall : cl.call h = some call) (hid : cl.call id = none)
    (hframes : call.frames h = ⟨args, .send j js⟩ :: fs) (hup : cl.crashed call.target = false)
    (hstub : (cl.server call.target).stubs args.write.service j = true) :
    Silently cl (((cl.setCall id ⟨.thread h, j, .write args.write, .arriving⟩).setLabel id
      (cl.label args.request)).setCall h
        { call with phase := .replicating (⟨args, .wait j js id⟩ :: fs) }) := by
  refine .of_step (e := .send h id) (r := ()) ?_ rfl
  simp [step, hcall, hid, hframes, hup, hstub]

end Steps

/-! ## The loop of `replicate` -/

/-- The handler `h` on the server `me` has still to go through `frames`, and the fields of the
request of `args` are those of `request`. -/
structure Replicating (me : ServerId) (h : ℕ) (call : Call ι) (args : Arguments)
    (frames : List Frame) (request : Request) (w : World) (cl : Cluster ι) : Prop where
  mirrors : Mirrors (me < ·) w cl
  up : w.crashed me = false
  /-- It remembers the same, apart from the last request. -/
  core : forget (w.server me) = (cl.server me).core
  within : cl.call h = some { call with phase := .replicating frames }
  /-- It writes to a request that has come to the server. -/
  brought : cl.Brought args.request me
  request : cl.request args = request

/-- The server `me` has done something, and there is a schedule for it. -/
structure Scheduled [DecidableEq ι] (me : ServerId) (w : World) (cl : Cluster ι) (w' : World)
    (cl' : Cluster ι) : Prop extends Untouched me w cl w' cl' where
  silently : Silently cl cl'

/-- The server `me` has done something, and has written to the request `r` on the way. -/
structure Progress [DecidableEq ι] (me : ServerId) (r : ℕ) (w : World) (cl : Cluster ι) (w' : World)
    (cl' : Cluster ι) : Prop extends Scheduled me w cl w' cl' where
  last : (w'.server me).lastRequest = (w.server me).lastRequest
  last' : (cl'.server me).lastRequest = (cl.server me).lastRequest
  /-- The server has written to no other request. -/
  others : ∀ id, id ≠ r → cl.Brought id me → cl'.label id = cl.label id

/-- The call `h` comes to the server `me`, which has not begun to handle it. -/
structure Arriving (me : ServerId) (h : ℕ) (call : Call ι) (w : World) (cl : Cluster ι) : Prop where
  /-- This server and those behind it remember the same. -/
  mirrors : Mirrors (me ≤ ·) w cl
  made : cl.call h = some call
  target : call.target = me
  phase : call.phase = .arriving
  unseen : ∀ args, (cl.server me).lastRequest = some args → args.request ≠ h

/-- A thread of the server `me` has executed a statement. -/
structure Stepped [DecidableEq ι] (me : ServerId) (h : ℕ) (call : Call ι) (r : ℕ)
    (frames : List Frame) (s : Shared) (label : Label) (cl cl' : Cluster ι) : Prop extends
    Stays me cl cl' where
  silently : Silently cl cl'
  crashed : cl'.crashed = cl.crashed
  server' : cl'.server me = s
  label' : cl'.label r = label
  others : ∀ id, id ≠ r → cl'.label id = cl.label id
  within : cl'.call h = some { call with phase := .replicating frames }
  alone : ∀ id, id ≠ h → cl'.call id = cl.call id

/-- A thread of the server `me` has made the call `id`. -/
structure Sent [DecidableEq ι] (me : ServerId) (h : ℕ) (call : Call ι) (args : Arguments)
    (j : ServerId) (js : List ServerId) (fs : List Frame) (id : ℕ) (cl cl' : Cluster ι) :
    Prop extends Stays me cl cl' where
  silently : Silently cl cl'
  crashed : cl'.crashed = cl.crashed
  server' : cl'.server = cl.server
  new : cl.call id = none
  label' : cl'.label id = cl.label args.request
  /-- The requests have the fields that they had. -/
  others : ∀ id', id' ≠ id → cl'.label id' = cl.label id'
  made : cl'.call id = some ⟨.thread h, j, .write args.write, .arriving⟩
  within : cl'.call h = some { call with phase := .replicating (⟨args, .wait j js id⟩ :: fs) }
  alone : ∀ id', id' ≠ h → id' ≠ id → cl'.call id' = cl.call id'

/-- A thread of the server `me` has the answer to the call `id`. -/
structure Received [DecidableEq ι] (me : ServerId) (h : ℕ) (call : Call ι) (args : Arguments)
    (js : List ServerId) (fs : List Frame) (id : ℕ) (cl cl' : Cluster ι) :
    Prop extends Stays me cl cl' where
  silently : Silently cl cl'
  crashed : cl'.crashed = cl.crashed
  server' : cl'.server = cl.server
  /-- The request looks like that of a client. -/
  label' : cl'.label args.request = { cl.label args.request with isClient := true }
  /-- The other requests have the fields that they had. -/
  others : ∀ id', id' ≠ args.request → cl'.label id' = cl.label id'
  within : cl'.call h = some { call with phase := .replicating (⟨args, .count js⟩ :: fs) }
  alone : ∀ id', id' ≠ h → id' ≠ id → cl'.call id' = cl.call id'

section Loop

variable [DecidableEq ι] {w w' w'' : World} {cl cl' cl'' : Cluster ι} {me j : ServerId} {h r : ℕ}
  {call : Call ι} {args : Arguments} {f : Frame} {fs : List Frame} {js : List ServerId}
  {request : Request}

/-- There is a schedule for what is done in two parts. -/
lemma Scheduled.trans (hfirst : Scheduled me w cl w' cl') (hthen : Scheduled me w' cl' w'' cl'') :
    Scheduled me w cl w'' cl'' where
  __ := hfirst.toUntouched.trans hthen.toUntouched
  silently := hfirst.silently.trans hthen.silently

/-- Progress is made step by step. -/
lemma Progress.trans (hfirst : Progress me r w cl w' cl') (hthen : Progress me r w' cl' w'' cl'') :
    Progress me r w cl w'' cl'' where
  __ := hfirst.toScheduled.trans hthen.toScheduled
  last := hthen.last.trans hfirst.last
  last' := hthen.last'.trans hfirst.last'
  others id hid hbrought :=
    (hthen.others id hid (hfirst.brought id me hbrought)).trans (hfirst.others id hid hbrought)

/-- A thread can execute its next statement. -/
lemma exists_stepped {call₀ : Call ι} {s : Shared} {label : Label} {fs' : List Frame}
    (hcall : cl.call h = some call₀) (hframes : call₀.frames h = f :: fs)
    (htarget : call₀.target = me) (hup : cl.crashed me = false)
    (hbrought : cl.Brought f.args.request me)
    (hexecute : execute me (cl.server me) (cl.label f.args.request) f = some (s, label, fs')) :
    ∃ cl', Stepped me h call₀ f.args.request (fs' ++ fs) s label cl cl' := by
  subst htarget
  have hstays : Stays call₀.target cl (((cl.setServer call₀.target s).setLabel f.args.request
      label).setCall h { call₀ with phase := .replicating (fs' ++ fs) }) := by
    refine ((stays_setServer cl _ s).trans (stays_setLabel ?_ label)).trans (stays_setCall ?_)
    · exact fun k hk hbrought' => hk (hbrought'.unique hbrought)
    · intro old hold
      obtain rfl := Option.some.inj (hcall.symm.trans hold)
      exact ⟨le_rfl, rfl⟩
  refine ⟨_, hstays, silently_advance hcall hframes hup hexecute, rfl, ?_, ?_, ?_, ?_, ?_⟩
  · simp
  · simp
  · intro id hid
    simp [Function.update_of_ne hid]
  · simp
  · intro id hid
    simp [Function.update_of_ne hid]

/-- A thread can make a call. -/
lemma exists_sent {call₀ : Call ι} (hcall : cl.call h = some call₀)
    (hframes : call₀.frames h = ⟨args, .send j js⟩ :: fs) (htarget : call₀.target = me)
    (hup : cl.crashed me = false) (hstub : (cl.server me).stubs args.write.service j = true)
    (hfresh : ∃ n, ∀ id, n ≤ id → cl.call id = none) :
    ∃ id cl', Sent me h call₀ args j js fs id cl cl' := by
  subst htarget
  obtain ⟨id, hid⟩ := hfresh.imp fun n hn => hn n le_rfl
  have hne : id ≠ h := by
    rintro rfl
    rw [hcall] at hid
    cases hid
  have hstays : Stays call₀.target cl (((cl.setLabel id (cl.label args.request)).setCall id
      ⟨.thread h, j, .write args.write, .arriving⟩).setCall h
        { call₀ with phase := .replicating (⟨args, .wait j js id⟩ :: fs) }) := by
    refine ((stays_setLabel ?_ _).trans (stays_setCall ?_)).trans (stays_setCall ?_)
    · rintro k - ⟨old, hold, -⟩
      rw [hid] at hold
      cases hold
    · intro old hold
      rw [Cluster.setLabel_call, hid] at hold
      cases hold
    · intro old hold
      rw [Cluster.setCall_call, Function.update_of_ne hne.symm, Cluster.setLabel_call,
        hcall] at hold
      obtain rfl := Option.some.inj hold
      exact ⟨le_rfl, rfl⟩
  refine ⟨id, _, hstays, silently_send hcall hid hframes hup hstub, rfl, rfl, hid, ?_, ?_, ?_, ?_,
    ?_⟩
  · simp
  · intro id' hid'
    simp [Function.update_of_ne hid']
  · simp [Function.update_of_ne hne]
  · simp
  · intro id' hh hid'
    simp [Function.update_of_ne hh, Function.update_of_ne hid']

/-- A thread can receive an answer. -/
lemma exists_received {call₀ inner : Call ι} {id : ℕ} {answer : Answer}
    (hcall : cl.call h = some call₀) (hframes : call₀.frames h = ⟨args, .wait j js id⟩ :: fs)
    (htarget : call₀.target = me) (hup : cl.crashed me = false)
    (hbrought : cl.Brought args.request me) (hj : me < j) (hid : cl.call id = some inner)
    (hcaller : inner.caller = .thread h) (hto : inner.target = j)
    (hanswer : inner.phase = .answered answer) :
    ∃ cl', Received me h call₀ args js fs id cl cl' := by
  subst htarget hto
  have hne : id ≠ h := by
    rintro rfl
    rw [hcall] at hid
    obtain rfl := Option.some.inj hid
    exact lt_irrefl _ hj
  have hstays : Stays call₀.target cl (((cl.setCall id { inner with phase := .over }).setLabel
      args.request { cl.label args.request with isClient := true }).setCall h
        { call₀ with phase := .replicating (⟨args, .count js⟩ :: fs) }) := by
    have hcalled : Stays call₀.target cl (cl.setCall id { inner with phase := .over }) := by
      refine stays_setCall fun old hold => ?_
      rw [hid] at hold
      obtain rfl := Option.some.inj hold
      exact ⟨hj.le, rfl⟩
    refine (hcalled.trans (stays_setLabel ?_ _)).trans (stays_setCall ?_)
    · exact fun k hk hbrought' => hk (hbrought'.unique (hcalled.brought _ _ hbrought))
    · intro old hold
      rw [Cluster.setLabel_call, Cluster.setCall_call, Function.update_of_ne hne.symm,
        hcall] at hold
      obtain rfl := Option.some.inj hold
      exact ⟨le_rfl, rfl⟩
  have hstep : step (.receive id) cl = .ok ((), ((cl.setCall id
      { inner with phase := .over }).setLabel args.request
        { cl.label args.request with isClient := true }).setCall h
          { call₀ with phase := .replicating (⟨args, .count js⟩ :: fs) }) := by
    simp [step, hid, hanswer, hcaller, hcall, hframes, hup]
  have hunseen : delivered (.receive id) cl = [] := by
    obtain ⟨caller, target, procedure, phase⟩ := inner
    obtain rfl : caller = .thread h := hcaller
    simp [delivered, hid]
  refine ⟨_, hstays, .of_step hstep hunseen, rfl, rfl, ?_, ?_, ?_, ?_⟩
  · simp
  · intro id' hid'
    simp [Function.update_of_ne hid']
  · simp
  · intro id' hh hid'
    simp [Function.update_of_ne hh, Function.update_of_ne hid']

/-- The server then remembers what it has come to. -/
lemma Stepped.mirrors {S : ServerId → Prop} {frames : List Frame} {s : Shared} {label : Label}
    (hstepped : Stepped me h call r frames s label cl cl') (hmirrors : Mirrors S w cl)
    (howned : ∀ args, s.lastRequest = some args → cl.Brought args.request me)
    (hcrashed : w'.crashed = w.crashed) (hsame : ∀ k, k ≠ me → w'.server k = w.server k)
    (hme : S me → w'.server me = cl'.memory me) : Mirrors S w' cl' := by
  refine hmirrors.stays hstepped.toStays ?_ (fun k hk => by rw [hcrashed, hk]) hsame ?_
    fun hS _ => hme hS
  · rw [hstepped.crashed, hmirrors.crashed, hcrashed]
  · rw [hstepped.server']
    exact howned

omit [DecidableEq ι] in
/-- The fields of a request make up the request. -/
lemma Replicating.eta {frames : List Frame} (H : Replicating me h call args frames request w cl) :
    (⟨args.write, request.isClient, request.counter⟩ : Request) = request := by
  rw [← H.request]
  rfl

omit [DecidableEq ι] in
/-- The request is for the write of the arguments. -/
lemma Replicating.write {frames : List Frame}
    (H : Replicating me h call args frames request w cl) : request.write = args.write := by
  rw [← H.request]
  rfl

omit [DecidableEq ι] in
/-- The server has the same role for its threads. -/
lemma Replicating.amILeader {frames : List Frame}
    (H : Replicating me h call args frames request w cl) :
    (cl.server me).amILeader = (w.server me).amILeader :=
  congrArg Params.amILeader H.core.symm

omit [DecidableEq ι] in
/-- It has the same stubs. -/
lemma Replicating.stubs {frames : List Frame}
    (H : Replicating me h call args frames request w cl) :
    (cl.server me).stubs = (w.server me).stubs :=
  congrArg Params.stubs H.core.symm

/-- The handler executes a statement, and the server changes what it remembers. -/
lemma Replicating.advance {s : Shared} {label : Label} {fs' : List Frame} {op : Write}
    (H : Replicating me h call args (f :: fs) request w cl) (htarget : call.target = me)
    (hop : call.procedure = .write op) (hf : f.args = args)
    (hexecute : execute me (cl.server me) ⟨request.isClient, request.counter⟩ f =
      some (s, label, fs'))
    (hlast : s.lastRequest = (cl.server me).lastRequest) (hcrashed : w'.crashed = w.crashed)
    (hsame : ∀ k, k ≠ me → w'.server k = w.server k) (hcore : forget (w'.server me) = s.core)
    (hlast' : (w'.server me).lastRequest = (w.server me).lastRequest) :
    ∃ cl', Progress me args.request w cl w' cl' ∧
      Replicating me h call args (fs' ++ fs) ⟨args.write, label.isClient, label.counter⟩ w'
        cl' := by
  subst hf
  have hlabel : cl.label f.args.request = ⟨request.isClient, request.counter⟩ := by
    rw [← H.request]
    rfl
  have hframes : Call.frames h { call with phase := .replicating (f :: fs) } = f :: fs := by
    simp [Call.frames, hop]
  obtain ⟨cl', hstepped⟩ := exists_stepped H.within hframes htarget
    (by rw [H.mirrors.crashed]; exact H.up) H.brought (by rw [hlabel]; exact hexecute)
  have hlater : Later w w' := fun k hk => by rw [hcrashed, hk]
  refine ⟨cl', ⟨⟨hstepped.untouched hlater hsame, hstepped.silently⟩, hlast', ?_,
    fun id hid _ => hstepped.others id hid⟩, ⟨?_, ?_, ?_, hstepped.within,
    hstepped.brought _ _ H.brought, ?_⟩⟩
  · rw [hstepped.server', hlast]
  · refine hstepped.mirrors H.mirrors ?_ hcrashed hsame fun hlt => absurd hlt (lt_irrefl _)
    rw [hlast]
    exact H.mirrors.owned me
  · rw [hcrashed]
    exact H.up
  · rw [hstepped.server']
    exact hcore
  · rw [Cluster.request, hstepped.label']

/-- The handler executes a statement that only tells where it goes on. -/
lemma Replicating.goOn {fs' : List Frame} {op : Write}
    (H : Replicating me h call args (f :: fs) request w cl) (htarget : call.target = me)
    (hop : call.procedure = .write op) (hf : f.args = args)
    (hexecute : execute me (cl.server me) ⟨request.isClient, request.counter⟩ f =
      some (cl.server me, ⟨request.isClient, request.counter⟩, fs')) :
    ∃ cl', Progress me args.request w cl w cl' ∧
      Replicating me h call args (fs' ++ fs) request w cl' := by
  obtain ⟨cl', hprogress, H'⟩ := H.advance htarget hop hf hexecute rfl rfl (fun _ _ => rfl) H.core
    rfl
  rw [H.eta] at H'
  exact ⟨cl', hprogress, H'⟩

/-- The handler calls a follower. -/
lemma Replicating.send {op : Write}
    (H : Replicating me h call args (⟨args, .send j js⟩ :: fs) request w cl)
    (htarget : call.target = me) (hop : call.procedure = .write op) (hj : me < j)
    (hstub : (w.server me).stubs args.write.service j = true) :
    ∃ id cl', Progress me args.request w cl w cl' ∧
      Arriving j id ⟨.thread h, j, .write args.write, .arriving⟩ w cl' ∧
      cl'.request ⟨args.write, id⟩ = request ∧
      Replicating me h call args (⟨args, .wait j js id⟩ :: fs) request w cl' := by
  have hframes : Call.frames h { call with phase := .replicating (⟨args, .send j js⟩ :: fs) } =
      ⟨args, .send j js⟩ :: fs := by
    simp [Call.frames, hop]
  obtain ⟨id, cl', hsent⟩ := exists_sent H.within hframes htarget
    (by rw [H.mirrors.crashed]; exact H.up) (by rw [H.stubs, hstub]) H.mirrors.fresh
  have hold {id' : ℕ} {k : ServerId} (hbrought : cl.Brought id' k) : id' ≠ id := by
    rintro rfl
    obtain ⟨old, hold, -⟩ := hbrought
    rw [hsent.new] at hold
    cases hold
  have hserver : cl'.server me = cl.server me := by rw [hsent.server']
  have hmirrors : Mirrors (me < ·) w cl' := by
    refine H.mirrors.stays hsent.toStays (hsent.crashed.trans H.mirrors.crashed) (.refl w)
      (fun _ _ => rfl) ?_ fun hlt => absurd hlt (lt_irrefl _)
    rw [hserver]
    exact H.mirrors.owned me
  refine ⟨id, cl', ⟨⟨hsent.untouched (.refl w) (fun _ _ => rfl), hsent.silently⟩, rfl,
    by rw [hserver], fun id' _ hbrought => hsent.others id' (hold hbrought)⟩,
    ⟨hmirrors.mono fun k hk => hj.trans_le hk, hsent.made, rfl, rfl, ?_⟩, ?_,
    ⟨hmirrors, H.up, by rw [hserver]; exact H.core, hsent.within, hsent.brought _ _ H.brought,
      ?_⟩⟩
  · intro args' hargs'
    rw [hsent.server'] at hargs'
    exact hold (H.mirrors.owned j args' hargs')
  · rw [← H.request, Cluster.request, hsent.label']
    rfl
  · rw [← H.request]
    exact request_congr (hsent.others _ (hold H.brought))

omit [DecidableEq ι] in
/-- A call to a follower is not the one that is handled. -/
lemma Replicating.ne {frames : List Frame} {id : ℕ} {inner : Call ι}
    (H : Replicating me h call args frames request w cl) (htarget : call.target = me) (hj : me < j)
    (hid : cl.call id = some inner) (hto : inner.target = j) : id ≠ h := by
  rintro rfl
  rw [H.within] at hid
  have hsame := congrArg Call.target (Option.some.inj hid)
  rw [hto] at hsame
  exact hj.ne (htarget.symm.trans hsame)

/-- The call of a follower has returned. -/
lemma Replicating.receive {op : Write} {id : ℕ} {inner : Call ι} {answer : Answer}
    (H : Replicating me h call args (⟨args, .wait j js id⟩ :: fs) request w cl)
    (htarget : call.target = me) (hop : call.procedure = .write op) (hj : me < j)
    (hid : cl.call id = some inner) (hcaller : inner.caller = .thread h) (hto : inner.target = j)
    (hanswer : inner.phase = .answered answer) :
    ∃ cl', Progress me args.request w cl w cl' ∧
      Replicating me h call args (⟨args, .count js⟩ :: fs) { request with isClient := true } w
        cl' := by
  have hframes : Call.frames h { call with phase := .replicating (⟨args, .wait j js id⟩ :: fs) } =
      ⟨args, .wait j js id⟩ :: fs := by
    simp [Call.frames, hop]
  obtain ⟨cl', hreceived⟩ := exists_received H.within hframes htarget
    (by rw [H.mirrors.crashed]; exact H.up) H.brought hj hid hcaller hto hanswer
  have hserver : cl'.server me = cl.server me := by rw [hreceived.server']
  refine ⟨cl', ⟨⟨hreceived.untouched (.refl w) (fun _ _ => rfl), hreceived.silently⟩, rfl,
    by rw [hserver], fun id' hne _ => hreceived.others id' hne⟩,
    ⟨?_, H.up, by rw [hserver]; exact H.core, hreceived.within, hreceived.brought _ _ H.brought,
      ?_⟩⟩
  · refine H.mirrors.stays hreceived.toStays (hreceived.crashed.trans H.mirrors.crashed) (.refl w)
      (fun _ _ => rfl) ?_ fun hlt => absurd hlt (lt_irrefl _)
    rw [hserver]
    exact H.mirrors.owned me
  · rw [← H.request, Cluster.request, hreceived.label']
    rfl

/-- The call of a follower has raised. -/
lemma Replicating.fail {op : Write} {id : ℕ} {inner : Call ι}
    (H : Replicating me h call args (⟨args, .wait j js id⟩ :: fs) request w cl)
    (htarget : call.target = me) (hop : call.procedure = .write op) (hj : me < j)
    (hid : cl.call id = some inner) (hcaller : inner.caller = .thread h) (hto : inner.target = j)
    (hdown : w.crashed j = true) (hcrashed : w'.crashed = w.crashed)
    (hserver : w'.server = Function.update w.server me
      ((w.server me).unplugged args.write.service j)) :
    ∃ cl', Progress me args.request w cl w' cl' ∧
      Replicating me h call args (⟨args, .loop js⟩ :: fs) request w' cl' := by
  have hne := H.ne htarget hj hid hto
  subst htarget hto
  have hstay : Stays call.target cl (((cl.setCall id { inner with phase := .over }).setServer
      call.target ((cl.server call.target).unplugged args.write.service inner.target)).setCall h
        { call with phase := .replicating (⟨args, .loop js⟩ :: fs) }) := by
    refine ((stays_setCall ?_).trans (stays_setServer _ _ _)).trans (stays_setCall ?_)
    · intro old hold
      rw [hid] at hold
      obtain rfl := Option.some.inj hold
      exact ⟨hj.le, rfl⟩
    · intro old hold
      rw [Cluster.setServer_call, Cluster.setCall_call, Function.update_of_ne hne.symm,
        H.within] at hold
      obtain rfl := Option.some.inj hold
      exact ⟨le_rfl, rfl⟩
  have hstep : step (.fail id) cl = .ok ((), ((cl.setCall id
      { inner with phase := .over }).setServer call.target
        ((cl.server call.target).unplugged args.write.service inner.target)).setCall h
          { call with phase := .replicating (⟨args, .loop js⟩ :: fs) }) := by
    have hup : cl.crashed call.target = false := by
      rw [H.mirrors.crashed]
      exact H.up
    have hdown' : cl.crashed inner.target = true := by
      rw [H.mirrors.crashed]
      exact hdown
    simp [step, hid, hdown', hcaller, H.within, Call.frames, hop, hup]
  have hlater : Later w w' := fun k hk => by rw [hcrashed, hk]
  have hsame (k : ServerId) (hk : k ≠ call.target) : w'.server k = w.server k := by
    rw [hserver, Function.update_of_ne hk]
  refine ⟨_, ⟨⟨hstay.untouched hlater hsame, .of_step hstep rfl⟩, ?_, ?_, ?_⟩,
    ⟨?_, ?_, ?_, ?_, hstay.brought _ _ H.brought, ?_⟩⟩
  · rw [hserver, Function.update_self]
    rfl
  · simp [Shared.unplugged]
  · intro _ _ _
    rfl
  · refine H.mirrors.stays hstay (H.mirrors.crashed.trans hcrashed.symm) hlater hsame ?_
      fun hlt => absurd hlt (lt_irrefl _)
    intro args' hargs'
    refine H.mirrors.owned _ args' ?_
    simpa [Shared.unplugged] using hargs'
  · rw [hcrashed]
    exact H.up
  · have hcore : forget ((w.server call.target).unplugged args.write.service inner.target) =
        ((cl.server call.target).unplugged args.write.service inner.target).core :=
      congrArg (Params.unplugged args.write.service inner.target) H.core
    rw [hserver, Function.update_self, hcore]
    simp
  · simp
  · exact H.request

end Loop

end Chat262.Replication.Threads
