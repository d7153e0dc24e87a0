import Chat262.Replication.SingleStore
import Chat262.Replication.Statements

/-!
# Attempts as schedules of threads

`Replication.Attempts` handles one call at a time, and `Replication.Threads` one statement of one
thread at a time.  What the first one does, the second one can do.  `Realizes` says that what code
on a server makes of a call, the thread that handles it and those that handle the calls it makes can
make of it.  It is proved of each function of a server, and `attempts_are_scheduled` carries it over
to runs, so that whatever goes wrong with attempts goes wrong with threads.
-/

namespace Chat262.Replication.Threads

open Foundation Comp

variable {ι : Type}

/-! ## Handlers -/

/-- The server `me` has answered the call `h`, or it has stopped in the middle. -/
structure Handled [DecidableEq ι] (me : ServerId) (h : ℕ) (call : Call ι) (w : World)
    (cl : Cluster ι) (reply : Option Answer) (w' : World) (cl' : Cluster ι) : Prop extends
    Scheduled me w cl w' cl' where
  /-- This server and those behind it remember the same. -/
  mirrors : Mirrors (me ≤ ·) w' cl'
  result : ∃ phase, cl'.call h = some { call with phase := phase } ∧
    ∀ answer, reply = some answer → phase = .answered answer
  /-- Without an answer the server has stopped. -/
  down : reply = none → w'.crashed me = true

/-- What the code `body` does for the call `h`, the threads can do. -/
def Realizes [DecidableEq ι] {α : Type} (me : ServerId) (h : ℕ) (call : Call ι)
    (answer : α → Answer) (body : Comp World α) (w : World) (cl : Cluster ι) : Prop :=
  wp body (fun a w' => ∃ cl', Handled me h call w cl (some (answer a)) w' cl')
    (fun w' => ∃ cl', Handled me h call w cl none w' cl') w

/-- What the handlers of the server `me` do for the writes that come to it, the threads can do. -/
def Realized (ι : Type) [DecidableEq ι] (me : ServerId) (handler : Request → Comp World Response) :
    Prop :=
  ∀ (w : World) (cl : Cluster ι) (h : ℕ) (call : Call ι) (op : Write), Arriving me h call w cl →
    w.crashed me = false → call.procedure = .write op →
    Realizes me h call Answer.response (handler (cl.request ⟨op, h⟩)) w cl

section Handlers

variable [DecidableEq ι] {fate : ℕ → ServerId → Bool} {w w' w'' : World} {cl cl' cl'' : Cluster ι}
  {me j : ServerId} {h r : ℕ} {call : Call ι} {args : Arguments} {fs : List Frame}
  {js : List ServerId} {request : Request} {hd : ServerId → Request → Comp World Response}

/-- A remote call can be made by threads when what it calls can. -/
lemma wp_rpc_realizes {α : Type} {answer : α → Answer} {body : Comp World α}
    (harriving : Arriving me h call w cl)
    (hbody : w.crashed me = false → Realizes me h call answer body w cl) :
    wp (rpc me body)
      (fun reply w' => ∃ cl', Handled me h call w cl (reply.map answer) w' cl') (fun _ => False)
      w := by
  unfold rpc
  rw [wp_bind, wp_get]
  split_ifs with hdown
  · refine ⟨cl, ⟨⟨.refl me w cl, .refl cl⟩, harriving.mirrors, ⟨call.phase, harriving.made, ?_⟩,
      fun _ => hdown⟩⟩
    rintro answer ⟨⟩
  · rw [wp_attempt]
    exact hbody (by simpa using hdown)

omit [DecidableEq ι] in
/-- Nothing is known to be remembered by a server that has stopped. -/
lemma Mirrors.down (hmirrors : Mirrors (me < ·) w cl) (hdown : w.crashed me = true) :
    Mirrors (me ≤ ·) w cl where
  __ := hmirrors
  memory k hk hup := by
    refine hmirrors.memory k (lt_of_le_of_ne hk ?_) hup
    rintro rfl
    rw [hdown] at hup
    cases hup

/-- A call that is handled after something else has been done is handled. -/
lemma Scheduled.handled {reply : Option Answer} (hfirst : Scheduled me w cl w' cl')
    (hthen : Handled me h call w' cl' reply w'' cl'') : Handled me h call w cl reply w'' cl'' where
  __ := hfirst.trans hthen.toScheduled
  mirrors := hthen.mirrors
  result := hthen.result
  down := hthen.down

/-- Servers may stop when a call has been handled. -/
lemma Handled.crash {reply : Option Answer} (hhandled : Handled me h call w cl reply w' cl')
    (hlater : Later w' w'') (hsame : w''.server = w'.server) :
    Handled me h call w cl reply w'' { cl' with crashed := w''.crashed } where
  __ := hhandled.toUntouched.trans (untouched_crash me hlater hsame)
  silently := hhandled.silently.trans (silently_crash hhandled.mirrors.crashed hlater)
  mirrors := hhandled.mirrors.crash hlater hsame
  result := hhandled.result
  down hreply := hlater me (hhandled.down hreply)

/-- While a handler waits, servers behind its own do something. -/
lemma Replicating.wait {frames : List Frame} (H : Replicating me h call args frames request w cl)
    (htarget : call.target = me) (hj : me < j) (huntouched : Untouched j w cl w' cl')
    (hsilently : Silently cl cl') (hmirrors : Mirrors (j ≤ ·) w' cl')
    (hup : w'.crashed me = false) :
    Progress me args.request w cl w' cl' ∧ Replicating me h call args frames request w' cl' := by
  refine ⟨⟨⟨huntouched.mono hj.le, hsilently⟩, ?_, ?_, fun id _ => huntouched.labels id me hj⟩,
    ⟨H.mirrors.extend huntouched hmirrors, hup, ?_, ?_, huntouched.brought _ _ H.brought, ?_⟩⟩
  · rw [huntouched.world me hj]
  · rw [huntouched.server me hj]
  · rw [huntouched.world me hj, huntouched.server me hj]
    exact H.core
  · exact huntouched.calls h _ H.within (by rw [htarget]; exact hj)
  · rw [← H.request]
    exact request_congr (huntouched.labels _ me hj H.brought)

/-- And its own may stop. -/
lemma Replicating.cut {frames : List Frame} (H : Replicating me h call args frames request w cl)
    (htarget : call.target = me) (hj : me < j) (huntouched : Untouched j w cl w' cl')
    (hsilently : Silently cl cl') (hmirrors : Mirrors (j ≤ ·) w' cl')
    (hdown : w'.crashed me = true) :
    Handled me h call w cl none w' cl' where
  __ := huntouched.mono hj.le
  silently := hsilently
  mirrors := (H.mirrors.extend huntouched hmirrors).down hdown
  result := ⟨.replicating frames, huntouched.calls h _ H.within (by rw [htarget]; exact hj),
    by simp⟩
  down _ := hdown

/-- The handler comes to the call of a follower: it writes to the request, and calls. -/
lemma Replicating.callFollower {op : Write}
    (H : Replicating me h call args (⟨args, .loop (j :: js)⟩ :: fs) request w cl)
    (htarget : call.target = me) (hop : call.procedure = .write op) (hj : me < j)
    (hstub : (w.server me).stubs request.write.service j = true) :
    ∃ id cl', Progress me args.request w cl w cl' ∧
      Arriving j id ⟨.thread h, j, .write args.write, .arriving⟩ w cl' ∧
      cl'.request ⟨args.write, id⟩ = request.sentBy (w.server me) ∧
      Replicating me h call args (⟨args, .wait j js id⟩ :: fs) (request.sentBy (w.server me)) w
        cl' := by
  have hexecute : execute me (cl.server me) ⟨request.isClient, request.counter⟩
      ⟨args, .loop (j :: js)⟩ = some (cl.server me, ⟨request.isClient, request.counter⟩,
        [⟨args, .clear j js⟩]) := by
    simp [execute, H.stubs, ← H.write, hstub]
  obtain ⟨cl₁, hprogress₁, H₁⟩ := H.goOn htarget hop rfl hexecute
  obtain ⟨cl₂, hprogress₂, H₂⟩ := H₁.advance htarget hop rfl rfl rfl rfl (fun _ _ => rfl) H₁.core
    rfl
  obtain ⟨cl₃, hprogress₃, H₃⟩ := H₂.advance htarget hop rfl rfl rfl rfl (fun _ _ => rfl) H₂.core
    rfl
  have hcounter : (w.server me).counter = (cl₂.server me).counter :=
    congrArg Params.counter H₂.core
  have hsent : (⟨args.write, false, (cl₂.server me).counter + 1⟩ : Request) =
      request.sentBy (w.server me) := by
    rw [← hcounter, ← H.write]
    rfl
  obtain ⟨id, cl', hprogress, harriving, hrequest, H'⟩ := H₃.send htarget hop hj
    (by rw [← H.write]; exact hstub)
  refine ⟨id, cl', ((hprogress₁.trans hprogress₂).trans hprogress₃).trans hprogress, harriving,
    hrequest.trans hsent, ?_⟩
  rw [← hsent]
  exact H'

/-- The loop of a leader can be executed by its thread, when the followers' handlers can. -/
lemma wp_replicateLoop_realizes {op : Write} (hjs : ∀ j ∈ js, me < j)
    (hh : ∀ j, me < j → Realized ι j (hd j)) (htarget : call.target = me)
    (hop : call.procedure = .write op)
    (H : Replicating me h call args (⟨args, .loop js⟩ :: fs) request w cl) :
    wp (replicateLoop fate hd me js request)
      (fun request' w' => ∃ cl', Progress me args.request w cl w' cl' ∧
        Replicating me h call args fs request' w' cl')
      (fun w' => ∃ cl', Handled me h call w cl none w' cl') w := by
  induction js generalizing request w cl with
  | nil =>
    exact H.goOn htarget hop rfl rfl
  | cons j js ih =>
    have hj : me < j := hjs j List.mem_cons_self
    have hrest (request : Request) (w₁ : World) (cl₁ : Cluster ι)
        (hprogress : Progress me args.request w cl w₁ cl₁)
        (H₁ : Replicating me h call args (⟨args, .loop js⟩ :: fs) request w₁ cl₁) :
        wp (replicateLoop fate hd me js request)
          (fun request' w' => ∃ cl', Progress me args.request w cl w' cl' ∧
            Replicating me h call args fs request' w' cl')
          (fun w' => ∃ cl', Handled me h call w cl none w' cl') w₁ := by
      refine wp_mono (ih (fun i hi => hjs i (List.mem_cons_of_mem j hi)) H₁) ?_ ?_
      · rintro request' w' ⟨cl', hprogress', H'⟩
        exact ⟨cl', hprogress.trans hprogress', H'⟩
      · rintro w' ⟨cl', hhandled⟩
        exact ⟨cl', hprogress.handled hhandled⟩
    unfold replicateLoop
    rw [wp_bind, wp_params]
    cases hstub : (w.server me).stubs request.write.service j
    · -- There is no stub.
      have hexecute : execute me (cl.server me) ⟨request.isClient, request.counter⟩
          ⟨args, .loop (j :: js)⟩ = some (cl.server me, ⟨request.isClient, request.counter⟩,
            [⟨args, .loop js⟩]) := by
        simp [execute, H.stubs, ← H.write, hstub]
      obtain ⟨cl₁, hprogress₁, H₁⟩ := H.goOn htarget hop rfl hexecute
      exact hrest request w cl₁ hprogress₁ H₁
    simp only [Bool.not_true, Bool.false_eq_true, if_false]
    rw [wp_bind]
    have hbehind : Mirrors (j ≤ ·) w cl := H.mirrors.mono fun k hk => hj.trans_le hk
    refine wp_crashPoint ?_ fun w₁ hlater₁ hdown hsame₁ => ⟨_, H.cut htarget hj
      (untouched_crash j hlater₁ hsame₁) (silently_crash H.mirrors.crashed hlater₁)
      (hbehind.crash hlater₁ hsame₁) hdown⟩
    intro w₁ hlater₁ hup₁ hsame₁
    obtain ⟨hprogress₁, H₁⟩ := H.wait htarget hj (untouched_crash j hlater₁ hsame₁)
      (silently_crash H.mirrors.crashed hlater₁) (hbehind.crash hlater₁ hsame₁) hup₁
    obtain ⟨id, cl₂, hprogress₂, harriving, hrequest, H₂⟩ := H₁.callFollower htarget hop hj
      (by rw [hsame₁]; exact hstub)
    rw [wp_bind, wp_params, wp_bind]
    have hinner : w₁.crashed j = false → Realizes j id ⟨.thread h, j, .write args.write, .arriving⟩
        Answer.response (hd j (request.sentBy (w₁.server me))) w₁ cl₂ := by
      intro hupj
      rw [← hrequest]
      exact hh j hj w₁ cl₂ id _ args.write harriving hupj rfl
    refine wp_mono (wp_rpc_realizes harriving hinner) ?_ fun _ => False.elim
    rintro reply w₂ ⟨cl₃, hhandled⟩
    rw [wp_bind]
    refine wp_crashPoint ?_ ?_
    · intro w₃ hlater₃ hup₃ hsame₃
      have hcrash := hhandled.crash hlater₃ hsame₃
      obtain ⟨hprogress₃, H₃⟩ := H₂.wait htarget hj hcrash.toUntouched hcrash.silently
        hcrash.mirrors hup₃
      obtain ⟨phase, hcall, hanswer⟩ := hcrash.result
      have hprogress := (hprogress₁.trans hprogress₂).trans hprogress₃
      rcases reply with _ | response
      · -- The call raises.
        rw [wp_bind, wp_setParams]
        obtain ⟨cl₄, hprogress₄, H₄⟩ := H₃.fail htarget hop hj hcall rfl rfl (hcrash.down rfl)
          (crashed_set w₃ me _) (by rw [server_set, ← H.write])
        exact hrest _ _ cl₄ (hprogress.trans hprogress₄) H₄
      · -- The call returns.
        rw [wp_bind, wp_setParams]
        obtain ⟨cl₄, hprogress₄, H₄⟩ := H₃.receive htarget hop hj hcall rfl rfl (hanswer _ rfl)
        obtain ⟨cl₅, hprogress₅, H₅⟩ := H₄.advance htarget hop rfl rfl rfl
          (crashed_set w₃ me fun p => { p with counter := p.counter + 1 })
          (fun k hk => by rw [server_set, Function.update_of_ne hk])
          (by
            rw [server_set, Function.update_self]
            exact congrArg Params.counted H₄.core)
          (by rw [server_set, Function.update_self])
        rw [H₄.eta] at H₅
        exact hrest _ _ cl₅ ((hprogress.trans hprogress₄).trans hprogress₅) H₅
    · intro w₃ hlater₃ hdown hsame₃
      have hcrash := hhandled.crash hlater₃ hsame₃
      exact ⟨_, (hprogress₁.trans hprogress₂).handled (H₂.cut htarget hj hcrash.toUntouched
        hcrash.silently hcrash.mirrors hdown)⟩

/-- The handler `h` has still to go through `frames`, and the server remembers the same. -/
structure Standing (me : ServerId) (h : ℕ) (call : Call ι) (op : Write) (frames : List Frame)
    (request : Request) (w : World) (cl : Cluster ι) : Prop extends
    Replicating me h call ⟨op, h⟩ frames request w cl where
  memory : w.server me = cl.memory me
  /-- The request at hand is not the one that it has seen last. -/
  unseen : ∀ args, (cl.server me).lastRequest = some args → args.request ≠ h

/-- The handler `h` has gone through `replicate`. -/
structure Finishing (me : ServerId) (h : ℕ) (call : Call ι) (op : Write) (request : Request)
    (w : World) (cl : Cluster ι) : Prop where
  /-- This server and those behind it remember the same. -/
  mirrors : Mirrors (me ≤ ·) w cl
  up : w.crashed me = false
  within : cl.call h = some { call with phase := .replicating [] }
  request : cl.request ⟨op, h⟩ = request

section Serve

variable {op : Write} {frames : List Frame}

omit [DecidableEq ι] in
/-- The server remembers the same, and those behind it. -/
lemma Standing.mirrors_le (H : Standing me h call op frames request w cl) :
    Mirrors (me ≤ ·) w cl where
  __ := H.mirrors
  memory k hk hup := by
    rcases hk.eq_or_lt with rfl | hlt
    · exact H.memory
    · exact H.mirrors.memory k hlt hup

/-- The handler goes on where it stands. -/
lemma Standing.progress (H : Standing me h call op frames request w cl)
    {frames' : List Frame} {request' : Request} (hprogress : Progress me h w cl w' cl')
    (H' : Replicating me h call ⟨op, h⟩ frames' request' w' cl') :
    Standing me h call op frames' request' w' cl' where
  __ := H'
  memory := by
    have hcore : ∀ p : Params, p = { forget p with lastRequest := p.lastRequest } := fun _ => rfl
    have hlast : (cl.server me).lastRequest.map cl'.request =
        (cl.server me).lastRequest.map cl.request :=
      Option.map_congr fun args hargs => request_congr
        (hprogress.others _ (H.unseen args hargs) (H.mirrors.owned me args hargs))
    rw [hcore (w'.server me), H'.core, hprogress.last, H.memory, Cluster.memory, Cluster.memory,
      hprogress.last', hlast]
  unseen := by
    rw [hprogress.last']
    exact H.unseen

/-- The handler of a call begins. -/
lemma Arriving.check (harriving : Arriving me h call w cl) (hup : w.crashed me = false)
    (hop : call.procedure = .write op) :
    ∃ cl', Scheduled me w cl w cl' ∧
      Standing me h call op [⟨⟨op, h⟩, if (cl.request ⟨op, h⟩).isClient &&
        !(w.server me).amILeader then .promote else .branch⟩] (cl.request ⟨op, h⟩) w cl' := by
  have hbrought : cl.Brought h me := ⟨call, harriving.made, harriving.target⟩
  have hmemory : w.server me = cl.memory me := harriving.mirrors.memory me le_rfl hup
  have hrole : (w.server me).amILeader = (cl.server me).amILeader :=
    congrArg Params.amILeader hmemory
  have hframes : call.frames h = [⟨⟨op, h⟩, .check⟩] := by
    simp [Call.frames, hop, harriving.phase]
  obtain ⟨cl', hstepped⟩ := exists_stepped harriving.made hframes harriving.target
    (by rw [harriving.mirrors.crashed]; exact hup) hbrought rfl
  have hsame : cl'.label = cl.label := by
    funext id
    by_cases hid : id = h
    · rw [hid, hstepped.label']
    · exact hstepped.others id hid
  have hmemory' : cl'.memory me = cl.memory me :=
    memory_congr hstepped.server' fun args _ => by rw [hsame]
  have hmirrors : Mirrors (me ≤ ·) w cl' := hstepped.mirrors harriving.mirrors
    (harriving.mirrors.owned me) rfl (fun _ _ => rfl) fun _ => hmemory.trans hmemory'.symm
  refine ⟨cl', ⟨hstepped.untouched (.refl w) fun _ _ => rfl, hstepped.silently⟩,
    ⟨⟨hmirrors.mono fun k hk => hk.le, hup, ?_, ?_, hstepped.brought _ _ hbrought, ?_⟩,
      hmemory.trans hmemory'.symm, ?_⟩⟩
  · rw [hmemory, hstepped.server']
    rfl
  · rw [hrole]
    exact hstepped.within
  · exact request_congr (by rw [hsame])
  · rw [hstepped.server']
    exact harriving.unseen

/-- A server that is not the leader notes the request. -/
lemma Standing.note (H : Standing me h call op [⟨⟨op, h⟩, .branch⟩] request w cl)
    (htarget : call.target = me) (hop : call.procedure = .write op)
    (hrole : (w.server me).amILeader = false) :
    ∃ cl', Scheduled me w cl (w.set me fun p => { p with lastRequest := some request }) cl' ∧
      Finishing me h call op request (w.set me fun p => { p with lastRequest := some request })
        cl' := by
  have hframes : Call.frames h { call with phase := .replicating [⟨⟨op, h⟩, .branch⟩] } =
      [⟨⟨op, h⟩, .branch⟩] := by
    simp [Call.frames, hop]
  have hexecute : execute me (cl.server me) (cl.label h) ⟨⟨op, h⟩, .branch⟩ =
      some ({ cl.server me with lastRequest := some ⟨op, h⟩ }, cl.label h, []) := by
    simp [execute, H.amILeader, hrole]
  obtain ⟨cl', hstepped⟩ := exists_stepped H.within hframes htarget
    (by rw [H.mirrors.crashed]; exact H.up) H.brought hexecute
  have hsame (k : ServerId) (hk : k ≠ me) :
      (w.set me fun p => { p with lastRequest := some request }).server k = w.server k := by
    rw [server_set, Function.update_of_ne hk]
  have hrequest : cl'.request ⟨op, h⟩ = request :=
    (request_congr hstepped.label').trans H.request
  have hmemory : (w.set me fun p => { p with lastRequest := some request }).server me =
      cl'.memory me := by
    rw [server_set, Function.update_self, Cluster.memory, hstepped.server', Option.map_some,
      hrequest, H.memory]
    rfl
  refine ⟨cl', ⟨hstepped.untouched (fun _ hk => hk) hsame, hstepped.silently⟩,
    ⟨hstepped.mirrors H.mirrors_le ?_ rfl hsame fun _ => hmemory, H.up, hstepped.within, hrequest⟩⟩
  rintro args ⟨⟩
  exact H.brought

omit [DecidableEq ι] in
/-- A handler that has gone through `replicate` has to finish the request. -/
lemma Standing.finishing (H : Standing me h call op [] request w cl) :
    Finishing me h call op request w cl where
  mirrors := H.mirrors_le
  up := H.up
  within := H.within
  request := H.request

omit [DecidableEq ι] in
/-- A handler may write to another request that has come to its server. -/
lemma Replicating.replay {frames : List Frame} {args' : Arguments}
    (H : Replicating me h call args frames request w cl) (hbrought : cl.Brought args'.request me) :
    Replicating me h call args' frames (cl.request args') w cl where
  __ := H
  brought := hbrought
  request := rfl

/-- A leader passes the first test. -/
lemma Replicating.pass (H : Replicating me h call args (⟨args, .check⟩ :: fs) request w cl)
    (htarget : call.target = me) (hop : call.procedure = .write op)
    (hrole : (w.server me).amILeader = true) :
    ∃ cl', Progress me args.request w cl w cl' ∧
      Replicating me h call args (⟨args, .branch⟩ :: fs) request w cl' := by
  have hexecute : execute me (cl.server me) ⟨request.isClient, request.counter⟩
      ⟨args, .check⟩ = some (cl.server me, ⟨request.isClient, request.counter⟩,
        [⟨args, .branch⟩]) := by
    simp [execute, H.amILeader, hrole]
  exact H.goOn htarget hop rfl hexecute

/-- A leader comes to its loop. -/
lemma Replicating.lead (H : Replicating me h call args (⟨args, .branch⟩ :: fs) request w cl)
    (htarget : call.target = me) (hop : call.procedure = .write op)
    (hrole : (w.server me).amILeader = true) :
    ∃ cl', Progress me args.request w cl w cl' ∧
      Replicating me h call args (⟨args, .loop (followers me)⟩ :: fs) request w cl' := by
  have hexecute : execute me (cl.server me) ⟨request.isClient, request.counter⟩
      ⟨args, .branch⟩ = some (cl.server me, ⟨request.isClient, request.counter⟩,
        [⟨args, .loop (followers me)⟩]) := by
    simp [execute, H.amILeader, hrole]
  exact H.goOn htarget hop rfl hexecute

/-- The handler comes to its loop, or notes the request. -/
lemma wp_branch_realizes (hh : ∀ j, me < j → Realized ι j (hd j)) (htarget : call.target = me)
    (hop : call.procedure = .write op)
    (H : Standing me h call op [⟨⟨op, h⟩, .branch⟩] request w cl) :
    wp (do
        let p ← params me
        if p.amILeader then replicateLoop fate hd me (followers me) request
        else
          setParams me fun p => { p with lastRequest := some request }
          return request)
      (fun request' w' => ∃ cl', Scheduled me w cl w' cl' ∧
        Finishing me h call op request' w' cl')
      (fun w' => ∃ cl', Handled me h call w cl none w' cl') w := by
  rw [wp_bind, wp_params]
  split_ifs with hrole
  · obtain ⟨cl₁, hprogress₁, H₁⟩ := H.lead htarget hop hrole
    refine wp_mono (wp_replicateLoop_realizes (fun j hj => mem_followers.mp hj) hh htarget hop H₁)
      ?_ ?_
    · rintro request' w' ⟨cl', hprogress, H'⟩
      have hall := hprogress₁.trans hprogress
      exact ⟨cl', hall.toScheduled, (H.progress hall H').finishing⟩
    · rintro w' ⟨cl', hhandled⟩
      exact ⟨cl', hprogress₁.handled hhandled⟩
  · rw [wp_bind, wp_setParams, wp_pure]
    exact H.note htarget hop (by simpa using hrole)

/-- A server that takes over replays what it has seen last. -/
lemma wp_takeOver_realizes (hh : ∀ j, me < j → Realized ι j (hd j)) (htarget : call.target = me)
    (hop : call.procedure = .write op)
    (H : Standing me h call op [⟨⟨op, h⟩, .promote⟩] request w cl) :
    wp (takeOver fate hd me)
      (fun _ w' => ∃ cl', Scheduled me w cl w' cl' ∧
        Standing me h call op [⟨⟨op, h⟩, .branch⟩] request w' cl')
      (fun w' => ∃ cl', Handled me h call w cl none w' cl') w := by
  have hsame (k : ServerId) (hk : k ≠ me) :
      (w.set me fun p => { p with amILeader := true }).server k = w.server k := by
    rw [server_set, Function.update_of_ne hk]
  obtain ⟨cl₁, hprogress₁, H₁⟩ := H.advance htarget hop rfl rfl rfl
    (crashed_set w me fun p => { p with amILeader := true }) hsame
    (by
      rw [server_set, Function.update_self]
      exact congrArg (fun p : Params => { p with amILeader := true }) H.core)
    (by rw [server_set, Function.update_self])
  rw [H.eta] at H₁
  have S₁ := H.progress hprogress₁ H₁
  have hlast₁ : (cl₁.server me).lastRequest.map cl₁.request = (w.server me).lastRequest := by
    have hmemory := congrArg Params.lastRequest S₁.memory
    rw [server_set, Function.update_self] at hmemory
    exact hmemory.symm
  refine wp_takeOver_cases ?_ ?_
  · intro hnone
    rw [hnone, Option.map_eq_none_iff] at hlast₁
    have hexecute : execute me (cl₁.server me) ⟨request.isClient, request.counter⟩
        ⟨⟨op, h⟩, .lookup⟩ = some (cl₁.server me, ⟨request.isClient, request.counter⟩,
          [⟨⟨op, h⟩, .branch⟩]) := by
      simp [execute, hlast₁]
    obtain ⟨cl₂, hprogress₂, H₂⟩ := H₁.goOn htarget hop rfl hexecute
    exact ⟨cl₂, (hprogress₁.trans hprogress₂).toScheduled, S₁.progress hprogress₂ H₂⟩
  · intro last hsome
    rw [hsome] at hlast₁
    obtain ⟨args, hargs, rfl⟩ := Option.map_eq_some_iff.mp hlast₁
    have hne : args.request ≠ h := S₁.unseen args hargs
    have hexecute : execute me (cl₁.server me) ⟨request.isClient, request.counter⟩
        ⟨⟨op, h⟩, .lookup⟩ = some (cl₁.server me, ⟨request.isClient, request.counter⟩,
          [⟨args, .check⟩, ⟨⟨op, h⟩, .branch⟩]) := by
      simp [execute, hargs]
    obtain ⟨cl₂, hprogress₂, H₂⟩ := H₁.goOn htarget hop rfl hexecute
    have hbrought : cl₁.Brought args.request me := H₁.mirrors.owned me args hargs
    have hreplayed : cl₂.request args = cl₁.request args :=
      request_congr (hprogress₂.others _ hne hbrought)
    -- From here on the handler writes to the request that it replays.
    have H₂' := H₂.replay (hprogress₂.brought _ _ hbrought)
    rw [hreplayed] at H₂'
    have hrole : ((w.set me fun p => { p with amILeader := true }).server me).amILeader = true := by
      rw [server_set, Function.update_self]
    obtain ⟨cl₃, hprogress₃, H₃⟩ := H₂'.pass htarget hop hrole
    obtain ⟨cl₄, hprogress₄, H₄⟩ := H₃.lead htarget hop hrole
    refine wp_mono (wp_replicateLoop_realizes (fun j hj => mem_followers.mp hj) hh htarget hop H₄)
      ?_ ?_
    · rintro last' w' ⟨cl', hprogress, H'⟩
      have hreplay := (hprogress₃.trans hprogress₄).trans hprogress
      have hlast' : (cl'.server me).lastRequest = some args := by
        rw [hreplay.last', hprogress₂.last', hargs]
      have hlabel : cl'.label h = cl₂.label h :=
        hreplay.others h hne.symm (hprogress₂.brought h me S₁.brought)
      have hsame' (k : ServerId) (hk : k ≠ me) :
          (w'.set me fun p => { p with lastRequest := some last' }).server k = w'.server k := by
        rw [server_set, Function.update_of_ne hk]
      refine ⟨cl', ((hprogress₁.trans hprogress₂).toScheduled.trans hreplay.toScheduled).trans
        ⟨⟨fun _ hk => hk, fun s hs => hsame' s hs.ne, fun _ _ => rfl, fun _ _ hid _ => hid,
          fun _ _ hid => hid, fun _ _ _ _ => rfl, rfl⟩, .refl cl'⟩,
        ⟨⟨⟨H'.mirrors.crashed, ?_, H'.mirrors.owned, H'.mirrors.fresh⟩, H'.up, ?_, H'.within,
          hreplay.brought _ _ H₂.brought, ?_⟩, ?_, ?_⟩⟩
      · intro k hk hup
        rw [hsame' k hk.ne']
        exact H'.mirrors.memory k hk hup
      · rw [server_set, Function.update_self]
        exact H'.core
      · exact (request_congr hlabel).trans H₂.request
      · rw [server_set, Function.update_self, Cluster.memory, hlast', Option.map_some, H'.request,
          ← H'.core]
        rfl
      · intro args' hargs'
        rw [hlast'] at hargs'
        obtain rfl := Option.some.inj hargs'
        exact hne
    · rintro w' ⟨cl', hhandled⟩
      exact ⟨cl', (hprogress₁.trans hprogress₂).handled
        ((hprogress₃.trans hprogress₄).handled hhandled)⟩

/-- A handler can come to its end. -/
lemma exists_answered {call₀ : Call ι} (hcall : cl.call h = some call₀)
    (htarget : call₀.target = me) (hup : cl.crashed me = false) (hop : call₀.procedure = .write op)
    (hphase : call₀.phase = .replicating []) :
    ∃ cl', Stays me cl cl' ∧ Silently cl cl' ∧ cl'.crashed = cl.crashed ∧
      cl'.server me = ((cl.server me).complete op (cl.label h)).2 ∧ cl'.label = cl.label ∧
      cl'.call h = some { call₀ with
        phase := .answered ((cl.server me).complete op (cl.label h)).1 } ∧
      ∀ id, id ≠ h → cl'.call id = cl.call id := by
  subst htarget
  have hstays : Stays call₀.target cl ((cl.setServer call₀.target
      ((cl.server call₀.target).complete op (cl.label h)).2).setCall h { call₀ with
        phase := .answered ((cl.server call₀.target).complete op (cl.label h)).1 }) := by
    refine (stays_setServer cl _ _).trans (stays_setCall fun old hold => ?_)
    obtain rfl := Option.some.inj (hcall.symm.trans hold)
    exact ⟨le_rfl, rfl⟩
  refine ⟨_, hstays, .of_step (e := .answer h) (r := ()) ?_ rfl, rfl, ?_, rfl, ?_, ?_⟩
  · simp [step, hcall, hup, hop, hphase]
  · simp
  · simp
  · intro id hid
    simp [Function.update_of_ne hid]

omit [DecidableEq ι] in
/-- The end of a request does the same for threads. -/
lemma complete_memory (cl : Cluster ι) (me : ServerId) (h : ℕ) (op : Write) :
    ((cl.server me).complete op (cl.label h)).1 =
        .response ((cl.memory me).answer (cl.request ⟨op, h⟩)) ∧
      ((cl.server me).complete op (cl.label h)).2.lastRequest = (cl.server me).lastRequest ∧
      (cl.memory me).complete (cl.request ⟨op, h⟩) =
        { ((cl.server me).complete op (cl.label h)).2.core with
          lastRequest := (cl.server me).lastRequest.map cl.request } := by
  unfold Shared.complete Params.answer Params.complete
  by_cases hseen : (!(cl.label h).isClient && decide ((cl.label h).counter ≤
      (cl.server me).counter)) = true
  · have hseen' : (!(cl.request ⟨op, h⟩).isClient && decide ((cl.request ⟨op, h⟩).counter ≤
        (cl.memory me).counter)) = true := hseen
    rw [if_pos hseen, if_pos hseen', if_pos hseen']
    exact ⟨rfl, rfl, rfl⟩
  · have hseen' : ¬ (!(cl.request ⟨op, h⟩).isClient && decide ((cl.request ⟨op, h⟩).counter ≤
        (cl.memory me).counter)) = true := hseen
    rw [if_neg hseen, if_neg hseen', if_neg hseen']
    exact ⟨rfl, rfl, rfl⟩

/-- A request is finished. -/
lemma wp_finish_realizes (htarget : call.target = me) (hop : call.procedure = .write op)
    (H : Finishing me h call op request w cl) :
    Realizes me h call Answer.response (finish fate me request) w cl := by
  have hmemory : w.server me = cl.memory me := H.mirrors.memory me le_rfl H.up
  refine wp_finish ?_ ?_
  · intro w' hlater hup hserver
    obtain ⟨hanswer, hlast, hcomplete⟩ := complete_memory cl me h op
    obtain ⟨cl₁, hstays, hsilently, hcrashed, hserver₁, hlabel₁, hcall₁, -⟩ :=
      exists_answered H.within htarget (by rw [H.mirrors.crashed]; exact H.up) hop rfl
    have hsame (k : ServerId) (hk : k ≠ me) : w'.server k = w.server k := by
      rw [hserver, Function.update_of_ne hk]
    have hrequest : cl₁.request = cl.request := by
      funext args
      exact request_congr (by rw [hlabel₁])
    refine ⟨{ cl₁ with crashed := w'.crashed }, ⟨⟨hstays.crash.untouched hlater hsame,
      hsilently.trans (silently_crash (hcrashed.trans H.mirrors.crashed) hlater)⟩, ?_,
      ⟨_, hcall₁, ?_⟩, by simp⟩⟩
    · refine H.mirrors.stays hstays.crash rfl hlater hsame ?_ fun _ _ => ?_
      · intro args hargs
        refine H.mirrors.owned me args ?_
        rw [← hlast, ← hserver₁]
        exact hargs
      · have hmemory₁ : cl₁.memory me = (cl.memory me).complete (cl.request ⟨op, h⟩) := by
          rw [hcomplete, Cluster.memory, hserver₁, hlast, hrequest]
        rw [hserver, Function.update_self, hmemory, ← H.request, ← hmemory₁]
        rfl
    · rintro answer ⟨⟩
      rw [hanswer, hmemory, ← H.request]
  · intro w' hlater hdown hsame
    refine ⟨{ cl with crashed := w'.crashed }, ⟨⟨(Stays.refl me cl).crash.untouched hlater hsame,
      silently_crash H.mirrors.crashed hlater⟩, ?_, ⟨_, H.within, by simp⟩, fun _ => hdown⟩⟩
    refine H.mirrors.stays (Stays.refl me cl).crash rfl hlater hsame (H.mirrors.owned me) ?_
    intro _ hup
    rw [hdown] at hup
    cases hup

/-- A server can handle writes with threads, when the followers can. -/
lemma realized_serve (hh : ∀ j, me < j → Realized ι j (hd j)) :
    Realized ι me (serve fate hd me) := by
  intro w cl h call op harriving hup hop
  obtain ⟨cl₁, hscheduled₁, H₁⟩ := harriving.check hup hop
  have htarget := harriving.target
  have hfinish {request' : Request} {w' : World} (hdone : ∃ cl', Scheduled me w cl w' cl' ∧
      Finishing me h call op request' w' cl') :
      wp (finish fate me request')
        (fun a w' => ∃ cl', Handled me h call w cl (some (.response a)) w' cl')
        (fun w' => ∃ cl', Handled me h call w cl none w' cl') w' := by
    obtain ⟨cl', hscheduled, H'⟩ := hdone
    refine wp_mono (wp_finish_realizes htarget hop H') ?_ ?_
    · rintro a w'' ⟨cl'', hhandled⟩
      exact ⟨cl'', hscheduled.handled hhandled⟩
    · rintro w'' ⟨cl'', hhandled⟩
      exact ⟨cl'', hscheduled.handled hhandled⟩
  have hbranch {w₂ : World} {cl₂ : Cluster ι} (hscheduled₂ : Scheduled me w cl w₂ cl₂)
      (H₂ : Standing me h call op [⟨⟨op, h⟩, .branch⟩] (cl.request ⟨op, h⟩) w₂ cl₂) :
      wp (do
          let p ← params me
          if p.amILeader then replicateLoop fate hd me (followers me) (cl.request ⟨op, h⟩)
          else
            setParams me fun p => { p with lastRequest := some (cl.request ⟨op, h⟩) }
            return cl.request ⟨op, h⟩)
        (fun request' w' => wp (finish fate me request')
          (fun a w' => ∃ cl', Handled me h call w cl (some (.response a)) w' cl')
          (fun w' => ∃ cl', Handled me h call w cl none w' cl') w')
        (fun w' => ∃ cl', Handled me h call w cl none w' cl') w₂ := by
    refine wp_mono (wp_branch_realizes hh htarget hop H₂) ?_ ?_
    · rintro request' w' ⟨cl', hscheduled, H'⟩
      exact hfinish ⟨cl', hscheduled₂.trans hscheduled, H'⟩
    · rintro w' ⟨cl', hhandled⟩
      exact ⟨cl', hscheduled₂.handled hhandled⟩
  rw [Realizes, wp_serve]
  unfold replicate
  rw [wp_bind, wp_params, wp_bind]
  split_ifs with htake
  · rw [if_pos htake] at H₁
    refine wp_mono (wp_takeOver_realizes hh htarget hop H₁) ?_ ?_
    · rintro _ w₂ ⟨cl₂, hscheduled₂, H₂⟩
      exact hbranch (hscheduled₁.trans hscheduled₂) H₂
    · rintro w' ⟨cl', hhandled⟩
      exact ⟨cl', hscheduled₁.handled hhandled⟩
  · rw [if_neg htake] at H₁
    exact hbranch hscheduled₁ H₁

/-- The procedures of every server can be executed by threads. -/
lemma realized_handle (fate : ℕ → ServerId → Bool) (me : ServerId) :
    Realized ι me (handle fate me) := by
  have htwo : Realized ι 2 (handle2 fate) :=
    realized_serve fun j hj => absurd hj (by decide +revert)
  have hone : Realized ι 1 (handle1 fate) := by
    refine realized_serve fun j hj => ?_
    obtain rfl := eq_two_of_one_lt hj
    exact htwo
  have hzero : Realized ι 0 (handle0 fate) := by
    refine realized_serve fun j hj => ?_
    by_cases hj1 : j = 1
    · subst hj1
      exact hone
    · obtain rfl : j = 2 := by decide +revert
      exact htwo
  match me with
  | 0 => exact hzero
  | 1 => exact hone
  | 2 => exact htwo

end Serve

/-- A server may stop before it has answered a call that only reads. -/
lemma Arriving.stop (harriving : Arriving me h call w cl) (hlater : Later w w')
    (hsame : w'.server = w.server) (hdown : w'.crashed me = true) :
    Handled me h call w cl none w' { cl with crashed := w'.crashed } where
  __ := untouched_crash me hlater hsame
  silently := silently_crash harriving.mirrors.crashed hlater
  mirrors := harriving.mirrors.crash hlater hsame
  result := ⟨call.phase, harriving.made, by simp [harriving.phase]⟩
  down _ := hdown

/-- A call that only reads can be answered. -/
lemma exists_read {op : Read} (harriving : Arriving me h call w cl) (hup : w.crashed me = false)
    (hop : call.procedure = .read op) :
    ∃ cl', Stays me cl cl' ∧ Silently cl cl' ∧ cl'.crashed = cl.crashed ∧
      cl'.memory me = cl.memory me ∧ (cl'.server me).lastRequest = (cl.server me).lastRequest ∧
      cl'.call h = some { call with phase := .answered (op.perform (w.server me).db) } := by
  have hdb : (w.server me).db = (cl.server me).db :=
    congrArg Params.db (harriving.mirrors.memory me le_rfl hup)
  have hup' : cl.crashed me = false := by
    rw [harriving.mirrors.crashed]
    exact hup
  have hstays : Stays me cl (cl.setCall h { call with
      phase := .answered (op.perform (w.server me).db) }) := by
    refine stays_setCall fun old hold => ?_
    obtain rfl := Option.some.inj (harriving.made.symm.trans hold)
    exact ⟨harriving.target.ge, rfl⟩
  refine ⟨_, hstays, .of_step (e := .answer h) (r := ()) ?_ rfl, rfl, rfl, rfl, ?_⟩
  · simp [step, harriving.made, harriving.target, hup', hop, harriving.phase, hdb]
  · simp

/-- A call that only reads can be handled by a thread. -/
lemma realizes_serveRead {op : Read} (harriving : Arriving me h call w cl)
    (hup : w.crashed me = false) (hop : call.procedure = .read op) :
    Realizes me h call id (serveRead fate me op) w cl := by
  unfold Realizes serveRead
  rw [wp_bind]
  refine wp_crashPoint ?_ fun w' hlater hdown hsame => ⟨_, harriving.stop hlater hsame hdown⟩
  intro w₁ hlater₁ _ hsame₁
  rw [wp_bind, wp_params, wp_bind]
  refine wp_crashPoint ?_ fun w' hlater hdown hsame =>
    ⟨_, harriving.stop (hlater₁.trans hlater) (hsame.trans hsame₁) hdown⟩
  intro w₂ hlater₂ _ hsame₂
  obtain ⟨cl₁, hstays, hsilently, hcrashed, hmemory, hlast, hcall⟩ := exists_read harriving hup hop
  have hlater := hlater₁.trans hlater₂
  have hsame (k : ServerId) (_ : k ≠ me) : w₂.server k = w.server k := by rw [hsame₂, hsame₁]
  rw [wp_pure, hsame₁]
  refine ⟨{ cl₁ with crashed := w₂.crashed }, ⟨⟨hstays.crash.untouched hlater hsame,
    hsilently.trans (silently_crash (hcrashed.trans harriving.mirrors.crashed) hlater)⟩, ?_,
    ⟨_, hcall, ?_⟩, by simp⟩⟩
  · refine harriving.mirrors.stays hstays.crash rfl hlater hsame ?_ fun _ _ => ?_
    · intro args hargs
      refine harriving.mirrors.owned me args ?_
      rw [← hlast]
      exact hargs
    · rw [hsame₂, hsame₁, harriving.mirrors.memory me le_rfl hup, ← hmemory]
      rfl
  · rintro answer ⟨⟩
    rfl

/-- What a client asks for can be handled by a thread. -/
lemma realizes_serveProcedure {p : Procedure} (harriving : Arriving me h call w cl)
    (hup : w.crashed me = false) (hp : call.procedure = p) (hlabel : cl.label h = ⟨true, 0⟩) :
    Realizes me h call id (serveProcedure fate me p) w cl := by
  cases p with
  | read op => exact realizes_serveRead harriving hup hp
  | write op =>
    have hrequest : cl.request ⟨op, h⟩ = .ofClient op := by
      simp [Cluster.request, hlabel, Request.ofClient]
    have hhandle := realized_handle fate me w cl h call op harriving hup hp
    rw [hrequest] at hhandle
    unfold Realizes serveProcedure
    rw [wp_bind]
    exact hhandle

end Handlers

/-! ## Attempts -/

/-- What a client is doing between its attempts. -/
def between (currLeader : ℕ) (pending : Option Procedure) : Client where
  currLeader := currLeader
  activity :=
    match pending with
    | none => .idle
    | some p => if currLeader < 3 then .ready p else .exited

/-- The threads have come as far as the attempts: the servers that are up remember the same, and the
clients go by the same leader and wait for the same. -/
structure Follows (sys : Clients ι) (cl : Cluster ι) : Prop where
  mirrors : Mirrors (fun _ => True) sys.world cl
  client : ∀ c, cl.client c = between (sys.currLeader c) (sys.pending c)

/-- The answer to an attempt. -/
def answers [DecidableEq ι] (a : Attempt ι) (sys : Clients ι) : List (ι × Answer) :=
  match tryOnce a sys with
  | .ok (some answer, _) => [(a.client, answer)]
  | _ => []

section Attempts

variable [DecidableEq ι] {w w' : World} {cl cl' : Cluster ι} {c : ι} {k : ServerId} {p : Procedure}
  {S : ServerId → Prop}

omit [DecidableEq ι] in
/-- Freshly started servers remember the same. -/
lemma follows_start (db : Db) : Follows (Clients.fresh db : Clients ι) (.start db) where
  mirrors :=
    { crashed := rfl
      memory := fun _ _ _ => rfl
      owned := fun _ _ hlast => by cases hlast
      fresh := ⟨0, fun _ _ => rfl⟩ }
  client _ := rfl

/-- What the clients do is nothing to the servers. -/
lemma Mirrors.setClient (h : Mirrors S w cl) (c : ι) (client : Client) :
    Mirrors S w (cl.setClient c client) where
  crashed := h.crashed
  memory := h.memory
  owned := h.owned
  fresh := h.fresh

/-- A client comes to its call. -/
lemma exists_ready (hmirrors : Mirrors S w cl)
    (hclient : cl.client c = ⟨k, .idle⟩ ∨ cl.client c = ⟨k, .ready p⟩) :
    ∃ cl', Silently cl cl' ∧ Mirrors S w cl' ∧
      cl'.client = Function.update cl.client c ⟨k, .ready p⟩ ∧ cl'.call = cl.call ∧
      cl'.label = cl.label := by
  rcases hclient with hidle | hready
  · refine ⟨cl.setClient c ⟨k, .ready p⟩, .of_step (e := .request c p) (r := ()) ?_ rfl,
      hmirrors.setClient c _, rfl, rfl, rfl⟩
    simp [step, hidle]
  · exact ⟨cl, .refl cl, hmirrors, by rw [← hready, Function.update_eq_self], rfl, rfl⟩

/-- A client calls a server. -/
lemma exists_called (hmirrors : Mirrors (fun _ => True) w cl)
    (hclient : cl.client c = ⟨k, .idle⟩ ∨ cl.client c = ⟨k, .ready p⟩) :
    ∃ id cl', Silently cl cl' ∧ Mirrors (fun _ => True) w cl' ∧
      Arriving k id ⟨.client c, k, p, .arriving⟩ w cl' ∧ cl'.label id = ⟨true, 0⟩ ∧
      cl'.client = Function.update cl.client c ⟨k, .waiting p id⟩ ∧ cl.call id = none ∧
      ∀ id', id' ≠ id → cl'.call id' = cl.call id' ∧ cl'.label id' = cl.label id' := by
  obtain ⟨cl₁, hsilently₁, hmirrors₁, hclient₁, hcalls₁, hlabels₁⟩ := exists_ready hmirrors hclient
  obtain ⟨id, hid⟩ := hmirrors₁.fresh.imp fun n hn => hn n le_rfl
  have hnew (k : ServerId) : ¬ cl₁.Brought id k := by
    rintro ⟨old, hold, -⟩
    rw [hid] at hold
    cases hold
  have hready : cl₁.client c = ⟨k, .ready p⟩ := by rw [hclient₁, Function.update_self]
  have hstays : Stays k cl₁ ((cl₁.setLabel id ⟨true, 0⟩).setCall id
      ⟨.client c, k, p, .arriving⟩) := by
    refine (stays_setLabel (fun k _ => hnew k) _).trans (stays_setCall fun old hold => ?_)
    rw [Cluster.setLabel_call, hid] at hold
    cases hold
  have hunseen (args : Arguments) (hargs : (cl₁.server k).lastRequest = some args) :
      args.request ≠ id := by
    rintro rfl
    exact hnew k (hmirrors₁.owned k args hargs)
  have hmirrors' : Mirrors (fun _ => True) w (((cl₁.setLabel id ⟨true, 0⟩).setCall id
      ⟨.client c, k, p, .arriving⟩).setClient c ⟨k, .waiting p id⟩) := by
    refine (hmirrors₁.stays hstays hmirrors₁.crashed (.refl w) (fun _ _ => rfl)
      (hmirrors₁.owned k) fun _ hup => ?_).setClient c _
    rw [hmirrors₁.memory k trivial hup]
    symm
    refine memory_congr rfl fun args hargs => ?_
    exact Function.update_of_ne (hunseen args hargs) _ _
  refine ⟨id, _, hsilently₁.trans (.of_step (e := .call c id) (r := ()) ?_ rfl), hmirrors',
    ⟨hmirrors'.mono fun _ _ => trivial, ?_, rfl, rfl, hunseen⟩, ?_, ?_, hcalls₁ ▸ hid, ?_⟩
  · simp only [step, hready, hid, k.isLt, dif_pos]
    rfl
  · simp
  · simp
  · change Function.update cl₁.client c _ = _
    rw [hclient₁, Function.update_idem]
  · intro id' hne
    rw [← hcalls₁, ← hlabels₁]
    exact ⟨Function.update_of_ne hne _ _, Function.update_of_ne hne _ _⟩

/-- What an attempt comes to, the threads can come to. -/
lemma exists_attempted {fate : ℕ → ServerId → Bool} {answer : Option Answer}
    (hmirrors : Mirrors (fun _ => True) w cl)
    (hclient : cl.client c = ⟨k, .idle⟩ ∨ cl.client c = ⟨k, .ready p⟩)
    (hattempt : attempt fate k p w = (answer, w')) :
    ∃ es cl', Foundation.run step es cl = .ok cl' ∧
      collect step delivered es cl = (answer.map fun a => (c, a)).toList ∧
      Mirrors (fun _ => True) w' cl' ∧
      cl'.client = Function.update cl.client c (between
        ((k : ℕ) + if answer.isSome then 0 else 1) (if answer.isSome then none else some p)) := by
  obtain ⟨id, cl₁, hsilently₁, hmirrors₁, harriving₁, hlabel₁, hclient₁, -⟩ :=
    exists_called hmirrors hclient
  have hlater := later_tick fate w
  have harriving : Arriving k id ⟨.client c, k, p, .arriving⟩ (w.tick fate)
      { cl₁ with crashed := (w.tick fate).crashed } :=
    ⟨harriving₁.mirrors.crash hlater rfl, harriving₁.made, rfl, rfl, harriving₁.unseen⟩
  have hbody (hup : (w.tick fate).crashed k = false) :
      Realizes k id ⟨.client c, k, p, .arriving⟩ (fun a => a) (serveProcedure fate k p)
        (w.tick fate) { cl₁ with crashed := (w.tick fate).crashed } :=
    realizes_serveProcedure harriving hup rfl hlabel₁
  have hrpc := wp_rpc_realizes harriving hbody
  have hhandled : ∃ cl₂, Handled k id ⟨.client c, k, p, .arriving⟩ (w.tick fate)
      { cl₁ with crashed := (w.tick fate).crashed } answer w' cl₂ := by
    unfold attempt at hattempt
    rcases hend : rpc k (serveProcedure fate k p) (w.tick fate) with ⟨_ | _ | reply, w''⟩
    · exact (of_wp_of_eq_none hrpc hend).elim
    · rw [hend] at hattempt
      cases hattempt
      exact of_wp_of_eq_some hrpc hend
    · rw [hend] at hattempt
      cases hattempt
      exact of_wp_of_eq_some hrpc hend
  obtain ⟨cl₂, hhandled⟩ := hhandled
  obtain ⟨phase, hcall, hphase⟩ := hhandled.result
  have hmirrors₂ : Mirrors (fun _ => True) w' cl₂ :=
    (hmirrors₁.crash hlater rfl).extend hhandled.toUntouched hhandled.mirrors
  have hsilently : Silently cl cl₂ :=
    (hsilently₁.trans (silently_crash hmirrors₁.crashed hlater)).trans hhandled.silently
  have hclient₂ : cl₂.client = Function.update cl.client c ⟨k, .waiting p id⟩ :=
    hhandled.client.trans hclient₁
  have hwaiting : cl₂.client c = ⟨k, .waiting p id⟩ := by rw [hclient₂, Function.update_self]
  have hmirrors' (client : Client) : Mirrors (fun _ => True) w' ((cl₂.setCall id
      ⟨.client c, k, p, .over⟩).setClient c client) := by
    have hstays : Stays k cl₂ (cl₂.setCall id ⟨.client c, k, p, .over⟩) := by
      refine stays_setCall fun old hold => ?_
      obtain rfl := Option.some.inj (hcall.symm.trans hold)
      exact ⟨le_rfl, rfl⟩
    exact (hmirrors₂.stays hstays hmirrors₂.crashed (.refl w') (fun _ _ => rfl)
      (hmirrors₂.owned k) fun _ hup => hmirrors₂.memory k trivial hup).setClient c client
  obtain ⟨es, hrun, hcollect⟩ := hsilently
  rcases answer with _ | answer
  · -- The call raises.
    have hdown : cl₂.crashed k = true := by
      rw [hmirrors₂.crashed]
      exact hhandled.down rfl
    have hstep : step (.fail id) cl₂ = .ok ((), (cl₂.setCall id
        ⟨.client c, k, p, .over⟩).setClient c (between (k + 1) (some p))) := by
      have hfailed : Client.failed p ⟨k, .waiting p id⟩ = between (k + 1) (some p) := by
        unfold Client.failed between
        by_cases hlast : (k : ℕ) + 1 < 3
        · simp [hlast, Nat.not_lt.mpr (Nat.le_of_lt_succ hlast)]
        · simp [hlast, Nat.lt_of_not_le fun h => hlast (Nat.lt_succ_of_le h)]
      simp [step, hcall, hdown, hwaiting, hfailed]
    refine ⟨es ++ [.fail id], _, ?_, ?_, hmirrors' (between (k + 1) (some p)), ?_⟩
    · rw [run_append hrun, run_cons hstep, run_nil]
    · rw [collect_concat hrun hstep, hcollect]
      rfl
    · change Function.update cl₂.client c _ = _
      rw [hclient₂, Function.update_idem]
      rfl
  · -- The call returns.
    obtain rfl := hphase answer rfl
    have hstep : step (.receive id) cl₂ = .ok ((), (cl₂.setCall id
        ⟨.client c, k, p, .over⟩).setClient c (between k none)) := by
      simp [step, hcall, hwaiting, between]
    refine ⟨es ++ [.receive id], _, ?_, ?_, hmirrors' (between k none), ?_⟩
    · rw [run_append hrun, run_cons hstep, run_nil]
    · rw [collect_concat hrun hstep, hcollect]
      simp [delivered, hcall]
    · change Function.update cl₂.client c _ = _
      rw [hclient₂, Function.update_idem]
      rfl

/-- Threads can do what attempts do.  For every run of attempts, with servers that stop in the
course of them, there is a schedule of the clients and of the threads of the servers, in which the
clients get the same answers in the same order, the same servers stop, those that are up remember
the same, and the clients go by the same leaders. -/
theorem attempts_are_scheduled {db : Db} {calls : List (Attempt ι)} {sys : Clients ι}
    (hrun : Foundation.run tryOnce calls (.fresh db) = .ok sys) :
    ∃ events cl, Foundation.run step events (.start db) = .ok cl ∧
      collect step delivered events (.start db) = collect tryOnce answers calls (.fresh db) ∧
      Follows sys cl := by
  refine run_history (G := fun _ _ => True) (P := fun calls sys => ∃ events cl,
    Foundation.run step events (.start db) = .ok cl ∧
      collect step delivered events (.start db) = collect tryOnce answers calls (.fresh db) ∧
        Follows sys cl) ⟨[], _, rfl, rfl, follows_start db⟩ ?_ (guarded_true calls _) hrun
  rintro before a sys₁ answer sys₂ hbefore ⟨events, cl, hevents, hcollect, H⟩ - hstep
  obtain ⟨k, hk, hdue, hattempt, -⟩ := tryOnce_cases hstep
  obtain ⟨hleader, hpending⟩ := clients_tryOnce hstep
  have hclient : cl.client a.client = ⟨k, .idle⟩ ∨
      cl.client a.client = ⟨k, .ready a.procedure⟩ := by
    rw [H.client, ← hk]
    rcases hdue with hnone | hsome
    · exact .inl (by rw [hnone]; rfl)
    · exact .inr (by rw [hsome, between, if_pos k.isLt])
  obtain ⟨es, cl', hes, hdelivered, hmirrors, hclient'⟩ :=
    exists_attempted H.mirrors hclient hattempt
  refine ⟨events ++ es, cl', ?_, ?_, hmirrors, fun c => ?_⟩
  · rw [run_append hevents, hes]
  · have hanswers : answers a sys₁ = (answer.map fun r => (a.client, r)).toList := by
      unfold answers
      rw [hstep]
      cases answer <;> rfl
    rw [collect_append hevents, collect_concat hbefore hstep, hcollect, hdelivered, hanswers]
  · rw [hclient', hleader, hpending, hk]
    by_cases hc : c = a.client
    · subst hc
      rw [Function.update_self, Function.update_self, Function.update_self]
    · rw [Function.update_of_ne hc, Function.update_of_ne hc, Function.update_of_ne hc, H.client]

/-- Server 0 stops when server 1 has registered the name, and server 1 answers that it is taken. -/
theorem attempts_are_scheduled_failover : ∃ (events : List (Event Unit)) (cl : Cluster Unit),
    Foundation.run step events (.start ⟨∅, fun _ => []⟩) = .ok cl ∧
    collect step delivered events (.start ⟨∅, fun _ => []⟩) = [((), .response alreadyTaken)] ∧
    cl.crashed 0 = true ∧ (cl.client ()).currLeader = 1 := by
  obtain ⟨sys, hrun, hsys⟩ := map_eq_ok.mp
    (show (Foundation.run tryOnce [⟨(), .write (.register "ann" "x"), fun t s => t = 4 && s = 0⟩,
      ⟨(), .write (.register "ann" "x"), fun _ _ => false⟩]
      (.fresh ⟨∅, fun _ => []⟩ : Clients Unit)).map
        (fun sys => (sys.world.crashed 0, sys.currLeader ())) = .ok (true, 1) by decide +kernel)
  obtain ⟨hcrashed, hleader⟩ := Prod.mk.inj hsys
  obtain ⟨events, cl, hevents, hanswers, hfollows⟩ := attempts_are_scheduled hrun
  refine ⟨events, cl, hevents, hanswers.trans (by decide +kernel), ?_, ?_⟩
  · rw [hfollows.mirrors.crashed, hcrashed]
  · rw [hfollows.client]
    exact hleader

end Attempts

end Chat262.Replication.Threads
