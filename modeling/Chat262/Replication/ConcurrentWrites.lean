import Chat262.Replication.LostWrites
import Chat262.Replication.Schedules

/-!
# Concurrent writes as schedules of threads

In `Replication.Interleaving` the leader handles any number of writes at the same time, in steps
that are made of the functions of the code.  Each of these steps is one that the threads of
`Replication.Threads` can take, in several statements: `Shows` tells how far they are with each
write.  So a run of concurrent writes is a schedule of threads (`writes_are_scheduled`).
-/

namespace Chat262.Replication.Threads

open Foundation Comp

variable {ι : Type}

/-! ## How far the threads are -/

/-- The call `h` of the client `i` is handled by the leader, and has come to `point`. -/
structure Handling (op : Write) (owner : ℕ → Option ι) (cl : Cluster ι) (i : ι) (h : ℕ)
    (point : Point) (request : Request) : Prop where
  client : cl.client i = ⟨0, .waiting (.write op) h⟩
  owner : owner h = some i
  call : cl.call h = some ⟨.client i, 0, .write op, .replicating [⟨⟨op, h⟩, point⟩]⟩
  request : cl.request ⟨op, h⟩ = request

/-- How far the threads are with the write `i`. -/
inductive Stands (op : Write) (owner : ℕ → Option ι) (cl : Cluster ι) (i : ι) :
    Replication.Phase → Prop
  | idle (hclient : cl.client i = ⟨0, .idle⟩) :
      Stands op owner cl i (.looping (followers 0) (.ofClient op))
  | looping {h : ℕ} {js : List ServerId} {request : Request}
      (hhandling : Handling op owner cl i h (.loop js) request) (hjs : ∀ j ∈ js, 0 < j) :
      Stands op owner cl i (.looping js request)
  | sent {h id : ℕ} {j : ServerId} {js : List ServerId} {request : Request}
      (hhandling : Handling op owner cl i h (.wait j js id) request) (howner : owner id = some i)
      (hmade : cl.call id = some ⟨.thread h, j, .write op, .arriving⟩)
      (hrequest : cl.request ⟨op, id⟩ = request) (hserver : request.isClient = false)
      (hjs : ∀ j' ∈ j :: js, 0 < j') : Stands op owner cl i (.sent j js request)
  /-- The answer of the follower is on its way. -/
  | replied {h id : ℕ} {j : ServerId} {js : List ServerId} {request : Request} {answer : Answer}
      (hhandling : Handling op owner cl i h (.wait j js id) request) (howner : owner id = some i)
      (hmade : cl.call id = some ⟨.thread h, j, .write op, .answered answer⟩)
      (hjs : ∀ j' ∈ j :: js, 0 < j') : Stands op owner cl i (.replied j js request)
  | answered (response : Response) (hclient : cl.client i = ⟨0, .idle⟩) :
      Stands op owner cl i (.answered response)

/-- The threads show what the concurrent writes `ops` do; `owner` tells for which of them a call has
been made. -/
structure Shows (ops : ι → Write) (net : Net ι) (owner : ℕ → Option ι) (cl : Cluster ι) : Prop where
  mirrors : Mirrors (fun _ => True) (calm net.server 0) cl
  roles : ∀ k, (net.server k).amILeader = decide (k = 0)
  stubs : ∀ service j, (net.server 0).stubs service j = true
  /-- It has not been sent anything by another server. -/
  last : (net.server 0).lastRequest = none
  /-- The calls that are made for the writes have been made. -/
  made : ∀ id, cl.call id = none → owner id = none
  stands : ∀ i, Stands (ops i) owner cl i (net.phase i)

/-- What is done for the write `i` leaves the calls for the others alone. -/
structure Moved (i : ι) (owner : ℕ → Option ι) (cl cl' : Cluster ι) : Prop where
  client : ∀ c, c ≠ i → cl'.client c = cl.client c
  others : ∀ id, owner id ≠ none → owner id ≠ some i →
    cl'.call id = cl.call id ∧ cl'.label id = cl.label id

section Frames

variable {op : Write} {owner owner' : ℕ → Option ι} {cl cl' cl'' : Cluster ι} {i : ι} {h : ℕ}
  {point : Point} {request : Request}

/-- A call that is made for another write, or for one at all, is another call. -/
lemma ne_of_owner {id id' : ℕ} {o : Option ι} (hid : owner id = o) (hother : owner id' ≠ o) :
    id' ≠ id := by
  rintro rfl
  exact hother hid

/-- The request is for the write. -/
lemma Handling.write (H : Handling op owner cl i h point request) : request.write = op := by
  rw [← H.request]
  rfl

/-- The fields of the request are those of the call. -/
lemma Handling.label (H : Handling op owner cl i h point request) :
    cl.label h = ⟨request.isClient, request.counter⟩ := by
  rw [← H.request]
  rfl

/-- What is done twice for a write is done for it. -/
lemma Moved.trans (hfirst : Moved i owner cl cl') (hthen : Moved i owner cl' cl'') :
    Moved i owner cl cl'' where
  client c hc := (hthen.client c hc).trans (hfirst.client c hc)
  others id hnone hother := by
    obtain ⟨hcall, hlabel⟩ := hfirst.others id hnone hother
    obtain ⟨hcall', hlabel'⟩ := hthen.others id hnone hother
    exact ⟨hcall'.trans hcall, hlabel'.trans hlabel⟩

/-- A handler that nobody has touched is where it was. -/
lemma Handling.frame (H : Handling op owner cl i h point request)
    (hclient : cl'.client i = cl.client i) (hcall : cl'.call h = cl.call h)
    (hlabel : cl'.label h = cl.label h) (howner : owner' h = owner h) :
    Handling op owner' cl' i h point request where
  client := hclient.trans H.client
  owner := howner.trans H.owner
  call := hcall.trans H.call
  request := (request_congr hlabel).trans H.request

/-- A write that nobody has touched is where it was. -/
lemma Stands.frame {phase : Replication.Phase} (hstands : Stands op owner cl i phase)
    (hclient : cl'.client i = cl.client i)
    (hcalls : ∀ id, owner id = some i →
      cl'.call id = cl.call id ∧ cl'.label id = cl.label id ∧ owner' id = owner id) :
    Stands op owner' cl' i phase := by
  cases hstands with
  | idle hidle => exact .idle (hclient.trans hidle)
  | @looping h js request hhandling hjs =>
    obtain ⟨hcall, hlabel, howner⟩ := hcalls h hhandling.owner
    exact .looping (hhandling.frame hclient hcall hlabel howner) hjs
  | @sent h id j js request hhandling howner hmade hrequest hserver hjs =>
    obtain ⟨hcall, hlabel, howner₁⟩ := hcalls h hhandling.owner
    obtain ⟨hcall', hlabel', howner'⟩ := hcalls id howner
    exact .sent (hhandling.frame hclient hcall hlabel howner₁) (howner'.trans howner)
      (hcall'.trans hmade) ((request_congr hlabel').trans hrequest) hserver hjs
  | @replied h id j js request answer hhandling howner hmade hjs =>
    obtain ⟨hcall, hlabel, howner₁⟩ := hcalls h hhandling.owner
    obtain ⟨hcall', -, howner'⟩ := hcalls id howner
    exact .replied (hhandling.frame hclient hcall hlabel howner₁) (howner'.trans howner)
      (hcall'.trans hmade) hjs
  | answered response hidle => exact .answered response (hclient.trans hidle)

/-- What is done for the write `i` shows what has become of it. -/
lemma Shows.moved {ops : ι → Write} {net net' : Net ι} (H : Shows ops net owner cl)
    (hmoved : Moved i owner cl cl') (hphase : ∀ c, c ≠ i → net'.phase c = net.phase c)
    (howner : ∀ id, owner id ≠ none → owner' id = owner id)
    (hmade : ∀ id, cl'.call id = none → owner' id = none)
    (hmirrors : Mirrors (fun _ => True) (calm net'.server 0) cl')
    (hroles : ∀ k, (net'.server k).amILeader = (net.server k).amILeader)
    (hstubs : (net'.server 0).stubs = (net.server 0).stubs)
    (hlast : (net'.server 0).lastRequest = none)
    (hstands : Stands (ops i) owner' cl' i (net'.phase i)) : Shows ops net' owner' cl' where
  mirrors := hmirrors
  roles k := (hroles k).trans (H.roles k)
  stubs service j := by
    rw [hstubs]
    exact H.stubs service j
  last := hlast
  made := hmade
  stands c := by
    by_cases hc : c = i
    · rw [hc]
      exact hstands
    · rw [hphase c hc]
      refine (H.stands c).frame (hmoved.client c hc) fun id hid => ?_
      have hnone : owner id ≠ none := by simp [hid]
      obtain ⟨hcall, hlabel⟩ := hmoved.others id hnone (by simpa [hid] using hc)
      exact ⟨hcall, hlabel, howner id hnone⟩

/-- What has not been called has not been called before. -/
lemma Stays.made {me : ServerId} {id : ℕ} (hstays : Stays me cl cl') (hid : cl'.call id = none) :
    cl.call id = none := by
  by_contra hsome
  obtain ⟨call, hcall⟩ := Option.ne_none_iff_exists'.mp hsome
  obtain ⟨call', hcall', -⟩ := hstays.brought id call.target ⟨call, hcall, rfl⟩
  rw [hid] at hcall'
  cases hcall'

/-- The end of a request changes the database and the counter only. -/
lemma complete_keeps (request : Request) (p : Params) :
    (p.complete request).amILeader = p.amILeader ∧ (p.complete request).stubs = p.stubs ∧
      (p.complete request).lastRequest = p.lastRequest := by
  unfold Params.complete
  split_ifs <;> exact ⟨rfl, rfl, rfl⟩

/-- A server that has not been sent anything remembers the rest. -/
lemma memory_of_last {k : ServerId} (hlast : (cl.server k).lastRequest = none) :
    cl.memory k = (cl.server k).core := by
  rw [Cluster.memory, hlast]
  rfl

/-- What a leader has done changes what it remembers. -/
lemma Mirrors.lead {server server' : ServerId → Params}
    (hmirrors : Mirrors (fun _ => True) (calm server 0) cl) (hstays : Stays 0 cl cl')
    (hcrashed : cl'.crashed = cl.crashed) (hlast : (cl'.server 0).lastRequest = none)
    (hsame : ∀ k, k ≠ 0 → server' k = server k) (hcore : server' 0 = (cl'.server 0).core) :
    Mirrors (fun _ => True) (calm server' 0) cl' := by
  refine hmirrors.stays hstays (hcrashed.trans hmirrors.crashed) (fun _ hk => hk) hsame ?_ ?_
  · intro args hargs
    rw [hlast] at hargs
    cases hargs
  · exact fun _ _ => hcore.trans (memory_of_last hlast).symm

/-- What a leader remembers that has not been sent anything. -/
lemma Mirrors.core {server : ServerId → Params}
    (hmirrors : Mirrors (fun _ => True) (calm server 0) cl)
    (hlast : (server 0).lastRequest = none) :
    (cl.server 0).lastRequest = none ∧ server 0 = (cl.server 0).core := by
  have hmemory : server 0 = cl.memory 0 := hmirrors.memory 0 trivial rfl
  have hlast' : (cl.server 0).lastRequest = none := by
    have hmap := congrArg Params.lastRequest hmemory
    rw [hlast] at hmap
    exact Option.map_eq_none_iff.mp hmap.symm
  exact ⟨hlast', hmemory.trans (memory_of_last hlast')⟩

/-- The leader is up, and leads. -/
lemma Shows.leader {ops : ι → Write} {net : Net ι} (H : Shows ops net owner cl) :
    cl.crashed 0 = false ∧ (cl.server 0).amILeader = true ∧
      (∀ service j, (cl.server 0).stubs service j = true) ∧
      (cl.server 0).counter = (net.server 0).counter := by
  obtain ⟨-, hcore⟩ := H.mirrors.core H.last
  refine ⟨by rw [H.mirrors.crashed]; rfl, ?_, ?_, (congrArg Params.counter hcore).symm⟩
  · exact (congrArg Params.amILeader hcore).symm.trans (H.roles 0)
  · intro service j
    exact (congrFun (congrFun (congrArg Params.stubs hcore) service) j).symm.trans
      (H.stubs service j)

end Frames

/-! ## Steps -/

/-- The leader has done something for the write `i`, and remembers what it did. -/
structure Went [DecidableEq ι] (i : ι) (owner : ℕ → Option ι) (cl cl' : Cluster ι) : Prop where
  stays : Stays 0 cl cl'
  moved : Moved i owner cl cl'
  silently : Silently cl cl'
  crashed : cl'.crashed = cl.crashed
  server : cl'.server 0 = cl.server 0

section Steps

variable [DecidableEq ι] {ops : ι → Write} {op : Write} {net : Net ι} {owner : ℕ → Option ι}
  {cl cl' cl'' : Cluster ι} {i : ι} {h : ℕ} {point : Point} {request : Request}
  {js : List ServerId}

/-- What is done in two parts is done. -/
lemma Went.trans (hfirst : Went i owner cl cl') (hthen : Went i owner cl' cl'') :
    Went i owner cl cl'' where
  stays := hfirst.stays.trans hthen.stays
  moved := hfirst.moved.trans hthen.moved
  silently := hfirst.silently.trans hthen.silently
  crashed := hthen.crashed.trans hfirst.crashed
  server := hthen.server.trans hfirst.server

/-- The handler of a write executes a statement. -/
lemma Handling.step {s : Shared} {label : Label} {fs : List Frame}
    (H : Handling op owner cl i h point request) (hup : cl.crashed 0 = false)
    (hexecute : execute 0 (cl.server 0) ⟨request.isClient, request.counter⟩ ⟨⟨op, h⟩, point⟩ =
      some (s, label, fs)) :
    ∃ cl', Stepped 0 h ⟨.client i, 0, .write op, .replicating [⟨⟨op, h⟩, point⟩]⟩ h fs s label cl
        cl' ∧ Moved i owner cl cl' ∧ ∀ point', fs = [⟨⟨op, h⟩, point'⟩] →
          Handling op owner cl' i h point' ⟨op, label.isClient, label.counter⟩ := by
  rw [← H.label] at hexecute
  obtain ⟨cl', hstepped⟩ := exists_stepped (f := ⟨⟨op, h⟩, point⟩) H.call rfl rfl hup
    ⟨_, H.call, rfl⟩ hexecute
  rw [List.append_nil] at hstepped
  refine ⟨cl', hstepped, ⟨fun c _ => by rw [hstepped.client], fun id hnone hother => ?_⟩, ?_⟩
  · have hne := ne_of_owner H.owner hother
    exact ⟨hstepped.alone id hne, hstepped.others id hne⟩
  · rintro point' rfl
    refine ⟨by rw [hstepped.client, H.client], H.owner, hstepped.within, ?_⟩
    rw [Cluster.request, hstepped.label']

/-- The handler of a write executes a statement that changes no memory. -/
lemma Handling.went {label : Label} {point' : Point}
    (H : Handling op owner cl i h point request) (hup : cl.crashed 0 = false)
    (hexecute : execute 0 (cl.server 0) ⟨request.isClient, request.counter⟩ ⟨⟨op, h⟩, point⟩ =
      some (cl.server 0, label, [⟨⟨op, h⟩, point'⟩])) :
    ∃ cl', Went i owner cl cl' ∧
      Handling op owner cl' i h point' ⟨op, label.isClient, label.counter⟩ := by
  obtain ⟨cl', hstepped, hmoved, hhandling⟩ := H.step hup hexecute
  exact ⟨cl', ⟨hstepped.toStays, hmoved, hstepped.silently, hstepped.crashed, hstepped.server'⟩,
    hhandling point' rfl⟩

/-- What the leader does for a write does not show, as long as it remembers the same. -/
lemma Shows.went {owner' : ℕ → Option ι} {phase : Replication.Phase} (H : Shows ops net owner cl)
    (hwent : Went i owner cl cl') (howner : ∀ id, owner id ≠ none → owner' id = owner id)
    (hmade : ∀ id, cl'.call id = none → owner' id = none)
    (hstands : Stands (ops i) owner' cl' i phase) : Shows ops (net.goto i phase) owner' cl' := by
  obtain ⟨hlast, hcore⟩ := H.mirrors.core H.last
  refine H.moved hwent.moved (fun c hc => Function.update_of_ne hc _ _) howner hmade ?_
    (fun _ => rfl) rfl H.last (by rw [phase_goto_self]; exact hstands)
  refine H.mirrors.lead hwent.stays hwent.crashed ?_ (fun _ _ => rfl) ?_
  · rw [hwent.server, hlast]
  · rw [hwent.server]
    exact hcore

/-- The client calls the leader, whose handler comes to its loop. -/
lemma Shows.call (H : Shows ops net owner cl) (hclient : cl.client i = ⟨0, .idle⟩) :
    ∃ owner' cl' h, Silently cl cl' ∧ Moved i owner cl cl' ∧
      Mirrors (fun _ => True) (calm net.server 0) cl' ∧
      (∀ id, owner id ≠ none → owner' id = owner id) ∧
      (∀ id, cl'.call id = none → owner' id = none) ∧
      Handling (ops i) owner' cl' i h (.loop (followers 0)) (.ofClient (ops i)) := by
  obtain ⟨h, cl₁, hsilently₁, hmirrors₁, harriving₁, hlabel₁, hclient₁, hnew, hothers₁⟩ :=
    exists_called (k := 0) (p := .write (ops i)) H.mirrors (.inl hclient)
  have hfree : owner h = none := H.made h hnew
  have hkept (id : ℕ) (hid : owner id ≠ none) : id ≠ h := ne_of_owner hfree hid
  obtain ⟨hlast₁, hcore₁⟩ := hmirrors₁.core H.last
  have hup₁ : cl₁.crashed 0 = false := by
    rw [hmirrors₁.crashed]
    rfl
  have hlead : (cl₁.server 0).amILeader = true :=
    (congrArg Params.amILeader hcore₁).symm.trans (H.roles 0)
  have hexecute : execute 0 (cl₁.server 0) (cl₁.label h) ⟨⟨ops i, h⟩, .check⟩ =
      some (cl₁.server 0, ⟨true, 0⟩, [⟨⟨ops i, h⟩, .branch⟩]) := by
    simp [execute, hlabel₁, hlead]
  obtain ⟨cl₂, hstepped⟩ := exists_stepped (f := ⟨⟨ops i, h⟩, .check⟩) harriving₁.made rfl rfl hup₁
    ⟨_, harriving₁.made, rfl⟩ hexecute
  have hwaits : Handling (ops i) (Function.update owner h (some i)) cl₂ i h .branch
      (.ofClient (ops i)) := by
    refine ⟨?_, Function.update_self .., hstepped.within, ?_⟩
    · rw [hstepped.client, hclient₁, Function.update_self]
      rfl
    · rw [Cluster.request, hstepped.label']
      rfl
  have hup₂ : cl₂.crashed 0 = false := by rw [hstepped.crashed, hup₁]
  have hbranch : execute 0 (cl₂.server 0) ⟨true, 0⟩ ⟨⟨ops i, h⟩, .branch⟩ =
      some (cl₂.server 0, ⟨true, 0⟩, [⟨⟨ops i, h⟩, .loop (followers 0)⟩]) := by
    simp [execute, hstepped.server', hlead]
  obtain ⟨cl₃, hwent, hhandling⟩ := hwaits.went hup₂ hbranch
  have hstays := hstepped.toStays.trans hwent.stays
  have hserver : cl₃.server 0 = cl₁.server 0 := hwent.server.trans hstepped.server'
  refine ⟨_, cl₃, h, (hsilently₁.trans hstepped.silently).trans hwent.silently, ⟨?_, ?_⟩, ?_,
    fun id hid => Function.update_of_ne (hkept id hid) _ _, ?_, hhandling⟩
  · intro c hc
    rw [hwent.moved.client c hc, hstepped.client, hclient₁, Function.update_of_ne hc]
  · intro id hid hother
    have hne := hkept id hid
    have howner : Function.update owner h (some i) id = owner id := Function.update_of_ne hne _ _
    obtain ⟨hcall, hlabel⟩ := hwent.moved.others id (by rw [howner]; exact hid)
      (by rw [howner]; exact hother)
    obtain ⟨hcall₁, hlabel₁⟩ := hothers₁ id hne
    exact ⟨by rw [hcall, hstepped.alone id hne, hcall₁],
      by rw [hlabel, hstepped.others id hne, hlabel₁]⟩
  · refine hmirrors₁.lead hstays (hwent.crashed.trans hstepped.crashed) ?_ (fun _ _ => rfl) ?_
    · rw [hserver, hlast₁]
    · rw [hserver]
      exact hcore₁
  · intro id hid
    have hne : id ≠ h := by
      rintro rfl
      rw [hhandling.call] at hid
      cases hid
    rw [Function.update_of_ne hne]
    refine H.made id ?_
    rw [← (hothers₁ id hne).1]
    exact hstays.made hid

/-- The call of a write is made. -/
lemma Shows.start (H : Shows ops net owner cl) (hphase : net.phase i = .looping js request) :
    ∃ owner' cl' h, Silently cl cl' ∧ Shows ops net owner' cl' ∧
      Handling (ops i) owner' cl' i h (.loop js) request ∧ ∀ j ∈ js, 0 < j := by
  have hstands := H.stands i
  rw [hphase] at hstands
  cases hstands with
  | idle hclient =>
    obtain ⟨owner', cl', h, hsilently, hmoved, hmirrors, howner, hmade, hhandling⟩ :=
      H.call hclient
    have hjs : ∀ j ∈ followers 0, 0 < j := fun j hj => mem_followers.mp hj
    refine ⟨owner', cl', h, hsilently, ?_, hhandling, hjs⟩
    refine H.moved hmoved (fun _ _ => rfl) howner hmade hmirrors (fun _ => rfl) rfl H.last ?_
    rw [hphase]
    exact .looping hhandling hjs
  | looping hhandling hjs => exact ⟨owner, cl, _, .refl cl, H, hhandling, hjs⟩

/-- A request is sent to a follower. -/
lemma Shows.send {j : ServerId} (H : Shows ops net owner cl)
    (hphase : net.phase i = .looping (j :: js) request) :
    ∃ owner' cl', Silently cl cl' ∧
      Shows ops (net.goto i (.sent j js (request.sentBy (net.server 0)))) owner' cl' := by
  obtain ⟨owner₁, cl₁, h, hsilently₁, H₁, hhandling₁, hjs⟩ := H.start hphase
  obtain ⟨hup₁, hlead, hstubs, hcounter⟩ := H₁.leader
  have hwrite := hhandling₁.write
  have hloop : execute 0 (cl₁.server 0) ⟨request.isClient, request.counter⟩
      ⟨⟨ops i, h⟩, .loop (j :: js)⟩ = some (cl₁.server 0, ⟨request.isClient, request.counter⟩,
        [⟨⟨ops i, h⟩, .clear j js⟩]) := by
    simp [execute, hstubs]
  obtain ⟨cl₂, hwent₂, hhandling₂⟩ := hhandling₁.went hup₁ hloop
  obtain ⟨cl₃, hwent₃, hhandling₃⟩ := hhandling₂.went (by rw [hwent₂.crashed, hup₁]) rfl
  have hwent₁₃ := hwent₂.trans hwent₃
  obtain ⟨cl₄, hwent₄, hhandling₄⟩ := hhandling₃.went (by rw [hwent₁₃.crashed, hup₁]) rfl
  have hwent₁₄ := hwent₁₃.trans hwent₄
  have hsentBy : (⟨ops i, false, (cl₃.server 0).counter + 1⟩ : Request) =
      request.sentBy (net.server 0) := by
    rw [hwent₁₃.server, hcounter, ← hwrite]
    rfl
  rw [hsentBy] at hhandling₄
  obtain ⟨id, cl₅, hsent⟩ := exists_sent hhandling₄.call rfl rfl
    (by rw [hwent₁₄.crashed, hup₁]) (by rw [hwent₁₄.server]; exact hstubs _ _)
    (hwent₁₄.stays.fresh H₁.mirrors.fresh)
  have hfree : owner₁ id = none := H₁.made id (hwent₁₄.stays.made hsent.new)
  have hkept (id' : ℕ) (hid : owner₁ id' ≠ none) : id' ≠ id := ne_of_owner hfree hid
  have hne : h ≠ id := hkept h (by simp [hhandling₄.owner])
  have hmoved : Moved i owner₁ cl₄ cl₅ := by
    refine ⟨fun c _ => by rw [hsent.client], fun id' hid hother => ?_⟩
    have hnot := ne_of_owner hhandling₄.owner hother
    exact ⟨hsent.alone id' hnot (hkept id' hid), hsent.others id' (hkept id' hid)⟩
  have hhandling₅ : Handling (ops i) (Function.update owner₁ id (some i)) cl₅ i h (.wait j js id)
      (request.sentBy (net.server 0)) := by
    refine ⟨by rw [hsent.client, hhandling₄.client], ?_, hsent.within, ?_⟩
    · rw [Function.update_of_ne hne, hhandling₄.owner]
    · exact (request_congr (hsent.others h hne)).trans hhandling₄.request
  have hrequest : cl₅.request ⟨ops i, id⟩ = request.sentBy (net.server 0) := by
    rw [← hhandling₄.request, Cluster.request, hsent.label']
    rfl
  refine ⟨Function.update owner₁ id (some i), cl₅,
    (hsilently₁.trans hwent₁₄.silently).trans hsent.silently, ?_⟩
  refine H₁.went (hwent₁₄.trans ⟨hsent.toStays, hmoved, hsent.silently, hsent.crashed,
    by rw [hsent.server']⟩) (fun id' hid => Function.update_of_ne (hkept id' hid) _ _) ?_
    (.sent hhandling₅ (Function.update_self ..) hsent.made hrequest rfl hjs)
  intro id' hid'
  have hne' : id' ≠ id := by
    rintro rfl
    rw [hsent.made] at hid'
    cases hid'
  rw [Function.update_of_ne hne']
  exact H₁.made id' (hwent₁₄.stays.made (hsent.toStays.made hid'))

/-- The handler of a call that another server has made does its work. -/
lemma exists_followed {me : ServerId} {id : ℕ} {caller : Caller ι}
    (hmade : cl.call id = some ⟨caller, me, .write op, .arriving⟩) (hup : cl.crashed me = false)
    (hserver : (cl.label id).isClient = false) (hrole : (cl.server me).amILeader = false) :
    ∃ cl' answer, Stays me cl cl' ∧ Silently cl cl' ∧ cl'.crashed = cl.crashed ∧
      cl'.label = cl.label ∧ (cl'.server me).lastRequest = some ⟨op, id⟩ ∧
      cl'.memory me = (cl.memory me).follow (cl.request ⟨op, id⟩) ∧
      cl'.call id = some ⟨caller, me, .write op, .answered answer⟩ ∧
      ∀ id', id' ≠ id → cl'.call id' = cl.call id' := by
  have hsame {cl₁ cl₂ : Cluster ι} (hlabel : cl₂.label id = cl₁.label id)
      (hothers : ∀ id', id' ≠ id → cl₂.label id' = cl₁.label id') : cl₂.label = cl₁.label := by
    funext id'
    by_cases hid : id' = id
    · rw [hid, hlabel]
    · exact hothers id' hid
  have hcheck : execute me (cl.server me) (cl.label id) ⟨⟨op, id⟩, .check⟩ =
      some (cl.server me, cl.label id, [⟨⟨op, id⟩, .branch⟩]) := by
    simp [execute, hserver]
  obtain ⟨cl₁, hstepped₁⟩ := exists_stepped (f := ⟨⟨op, id⟩, .check⟩) hmade rfl rfl hup
    ⟨_, hmade, rfl⟩ hcheck
  have hlabel₁ := hsame hstepped₁.label' hstepped₁.others
  have hbranch : execute me (cl₁.server me) (cl₁.label id) ⟨⟨op, id⟩, .branch⟩ =
      some ({ cl.server me with lastRequest := some ⟨op, id⟩ }, cl₁.label id, []) := by
    simp [execute, hstepped₁.server', hrole]
  obtain ⟨cl₂, hstepped₂⟩ := exists_stepped (f := ⟨⟨op, id⟩, .branch⟩) hstepped₁.within
    rfl rfl (by rw [hstepped₁.crashed, hup]) ⟨_, hstepped₁.within, rfl⟩ hbranch
  have hlabel₂ := hsame hstepped₂.label' hstepped₂.others
  obtain ⟨cl₃, hstays₃, hsilently₃, hcrashed₃, hserver₃, hlabel₃, hcall₃, halone₃⟩ :=
    exists_answered hstepped₂.within rfl
      (by rw [hstepped₂.crashed, hstepped₁.crashed, hup]) rfl rfl
  obtain ⟨-, hlast, hcomplete⟩ := complete_memory cl₂ me id op
  have hrequest (args : Arguments) : cl₂.request args = cl.request args :=
    request_congr (by rw [hlabel₂, hlabel₁])
  have hrequest₃ : cl₃.request = cl₂.request := by
    funext args
    exact request_congr (by rw [hlabel₃])
  have hmemory₂ : cl₂.memory me =
      { cl.memory me with lastRequest := some (cl.request ⟨op, id⟩) } := by
    rw [Cluster.memory, hstepped₂.server', Option.map_some, hrequest]
    rfl
  refine ⟨cl₃, _, (hstepped₁.toStays.trans hstepped₂.toStays).trans hstays₃,
    (hstepped₁.silently.trans hstepped₂.silently).trans hsilently₃, ?_, ?_, ?_, ?_, hcall₃, ?_⟩
  · rw [hcrashed₃, hstepped₂.crashed, hstepped₁.crashed]
  · rw [hlabel₃, hlabel₂, hlabel₁]
  · rw [hserver₃, hlast, hstepped₂.server']
  · rw [Params.follow, ← hmemory₂, ← hrequest, hcomplete, Cluster.memory, hserver₃, hlast,
      hrequest₃]
  · intro id' hid
    rw [halone₃ id' hid, hstepped₂.alone id' hid, hstepped₁.alone id' hid]

/-- A follower processes a request. -/
lemma Shows.process {j : ServerId} (H : Shows ops net owner cl)
    (hphase : net.phase i = .sent j js request) :
    ∃ cl', Silently cl cl' ∧ Shows ops (((net.note j i request).set j
      ((net.server j).follow request)).goto i (.replied j js request)) owner cl' := by
  have hstands := H.stands i
  rw [hphase] at hstands
  cases hstands with
  | @sent h id _ _ _ hhandling howner hmade hrequest hserver hjs =>
    have hj : 0 < j := hjs j List.mem_cons_self
    have hmemory : net.server j = cl.memory j := H.mirrors.memory j trivial rfl
    have hrole : (cl.server j).amILeader = false := by
      refine (congrArg Params.amILeader hmemory).symm.trans ((H.roles j).trans ?_)
      simp [hj.ne']
    have hlabel : (cl.label id).isClient = false := by
      rw [← hserver, ← hrequest]
      rfl
    have hup : cl.crashed j = false := by
      rw [H.mirrors.crashed]
      rfl
    obtain ⟨cl', answer, hstays, hsilently, hcrashed, hlabel', hlast, hmemory', hcall, halone⟩ :=
      exists_followed hmade hup hlabel hrole
    have hne : h ≠ id := by
      rintro rfl
      rw [hhandling.call] at hmade
      cases hmade
    have hnet : (((net.note j i request).set j ((net.server j).follow request)).goto i
        (.replied j js request)).server =
          Function.update net.server j ((net.server j).follow request) := by
      rw [server_goto, server_net_set, server_note]
    have hnet₀ : Function.update net.server j ((net.server j).follow request) 0 = net.server 0 :=
      Function.update_of_ne hj.ne _ _
    have hmoved : Moved i owner cl cl' := by
      refine ⟨fun c _ => by rw [hstays.client], fun id' _ hother => ?_⟩
      have hid := ne_of_owner howner hother
      exact ⟨halone id' hid, by rw [hlabel']⟩
    refine ⟨cl', hsilently, H.moved hmoved ?_ (fun _ _ => rfl)
      (fun id' hid' => H.made id' (hstays.made hid')) ?_ ?_ ?_ ?_ ?_⟩
    · intro c hc
      rw [phase_note_set_goto, Function.update_of_ne hc]
    · rw [hnet]
      refine H.mirrors.stays hstays (hcrashed.trans H.mirrors.crashed) (fun _ hk => hk)
        (fun k hk => Function.update_of_ne hk _ _) ?_ fun _ _ => ?_
      · intro args hargs
        rw [hlast] at hargs
        obtain rfl := Option.some.inj hargs
        exact ⟨_, hmade, rfl⟩
      · rw [calm_server, Function.update_self, hmemory, hmemory', hrequest]
    · intro k
      rw [hnet]
      by_cases hk : k = j
      · rw [hk, Function.update_self, (Params.follow_role _ _).1]
      · rw [Function.update_of_ne hk]
    · rw [hnet, hnet₀]
    · rw [hnet, hnet₀]
      exact H.last
    · rw [phase_goto_self]
      exact .replied (hhandling.frame (by rw [hstays.client]) (halone h hne) (by rw [hlabel']) rfl)
        howner hcall hjs

/-- The leader receives the answer of a follower. -/
lemma Shows.receive {j : ServerId} (H : Shows ops net owner cl)
    (hphase : net.phase i = .replied j js request) :
    ∃ cl', Silently cl cl' ∧ Shows ops ((net.set 0 (net.server 0).counted).goto i
      (.looping js { request with isClient := true })) owner cl' := by
  have hstands := H.stands i
  rw [hphase] at hstands
  cases hstands with
  | @replied h id _ _ _ answer hhandling howner hmade hjs =>
    obtain ⟨hup, -, -, -⟩ := H.leader
    obtain ⟨hlast, hcore⟩ := H.mirrors.core H.last
    obtain ⟨cl₁, hreceived⟩ := exists_received hhandling.call rfl rfl hup
      ⟨_, hhandling.call, rfl⟩ (hjs j List.mem_cons_self) hmade rfl rfl rfl
    have hwrite := hhandling.write
    have hhandling₁ : Handling (ops i) owner cl₁ i h (.count js)
        { request with isClient := true } := by
      refine ⟨by rw [hreceived.client, hhandling.client], hhandling.owner, hreceived.within, ?_⟩
      rw [Cluster.request, hreceived.label', hhandling.label, ← hwrite]
    obtain ⟨cl₂, hstepped, hmoved, hhandling₂⟩ :=
      hhandling₁.step (by rw [hreceived.crashed, hup]) rfl
    have hmoved₁ : Moved i owner cl cl₁ := by
      refine ⟨fun c _ => by rw [hreceived.client], fun id' _ hother => ?_⟩
      have hne := ne_of_owner hhandling.owner hother
      exact ⟨hreceived.alone id' hne (ne_of_owner howner hother), hreceived.others id' hne⟩
    have hstays := hreceived.toStays.trans hstepped.toStays
    refine ⟨cl₂, hreceived.silently.trans hstepped.silently, H.moved (hmoved₁.trans hmoved)
      (fun c hc => Function.update_of_ne hc _ _) (fun _ _ => rfl)
      (fun id' hid' => H.made id' (hstays.made hid')) ?_ ?_ ?_ ?_ ?_⟩
    · refine H.mirrors.lead hstays (hstepped.crashed.trans hreceived.crashed) ?_ ?_ ?_
      · rw [hstepped.server', hreceived.server']
        exact hlast
      · intro k hk
        exact Function.update_of_ne hk _ _
      · rw [server_goto, server_net_set, Function.update_self, hcore, hstepped.server',
          hreceived.server']
        rfl
    · intro k
      rw [server_goto, server_net_set]
      by_cases hk : k = 0
      · rw [hk, Function.update_self]
        rfl
      · rw [Function.update_of_ne hk]
    · rw [server_goto, server_net_set, Function.update_self]
      rfl
    · rw [server_goto, server_net_set, Function.update_self]
      exact H.last
    · have hrequest : ({ request with isClient := true } : Request) =
          ⟨ops i, true, request.counter⟩ := by rw [← hwrite]
      rw [phase_goto_self, hrequest]
      exact .looping (hhandling₂ (.loop js) rfl) fun j' hj' => hjs j' (List.mem_cons_of_mem j hj')

/-- The client of a call gets the answer. -/
lemma exists_delivered {w : World} {k : ServerId} {p : Procedure} {answer : Answer}
    (hmirrors : Mirrors (fun _ => True) w cl) (hclient : cl.client i = ⟨k, .waiting p h⟩)
    (hcall : cl.call h = some ⟨.client i, k, p, .answered answer⟩) :
    ∃ cl', step (.receive h) cl = .ok ((), cl') ∧ delivered (.receive h) cl = [(i, answer)] ∧
      Mirrors (fun _ => True) w cl' ∧ cl'.client = Function.update cl.client i ⟨k, .idle⟩ ∧
      cl'.label = cl.label ∧ (∀ id, cl'.call id = none → cl.call id = none) ∧
      ∀ id, id ≠ h → cl'.call id = cl.call id := by
  have hstays : Stays k cl (cl.setCall h ⟨.client i, k, p, .over⟩) := by
    refine stays_setCall fun old hold => ?_
    obtain rfl := Option.some.inj (hcall.symm.trans hold)
    exact ⟨le_rfl, rfl⟩
  refine ⟨(cl.setCall h ⟨.client i, k, p, .over⟩).setClient i ⟨k, .idle⟩, ?_, ?_, ?_, rfl, rfl,
    fun id hid => hstays.made hid, fun id hid => Function.update_of_ne hid _ _⟩
  · simp [step, hcall, hclient]
  · simp [delivered, hcall]
  · exact (hmirrors.stays hstays hmirrors.crashed (.refl w) (fun _ _ => rfl) (hmirrors.owned k)
      fun _ hup => hmirrors.memory k trivial hup).setClient i _

/-- The leader performs a write, and the client receives the answer. -/
lemma Shows.finish (H : Shows ops net owner cl) (hphase : net.phase i = .looping [] request) :
    ∃ owner' cl' es, Foundation.run step es cl = .ok cl' ∧
      collect step delivered es cl = [(i, .response ((net.server 0).answer request))] ∧
      Shows ops (((net.note 0 i request).set 0 ((net.server 0).complete request)).goto i
        (.answered ((net.server 0).answer request))) owner' cl' := by
  obtain ⟨owner₁, cl₁, h, hsilently₁, H₁, hhandling₁, -⟩ := H.start hphase
  obtain ⟨hup₁, -, -, -⟩ := H₁.leader
  obtain ⟨hlast, hcore⟩ := H₁.mirrors.core H.last
  obtain ⟨cl₂, hstepped₂, hmoved₂, -⟩ := hhandling₁.step hup₁ rfl
  obtain ⟨cl₃, hstays₃, hsilently₃, hcrashed₃, hserver₃, hlabel₃, hcall₃, halone₃⟩ :=
    exists_answered hstepped₂.within rfl (by rw [hstepped₂.crashed, hup₁]) rfl rfl
  obtain ⟨hanswer, hlast₃, hcomplete⟩ := complete_memory cl₂ 0 h (ops i)
  have hlast₂ : (cl₂.server 0).lastRequest = none := by rw [hstepped₂.server', hlast]
  have hmemory : cl₂.memory 0 = net.server 0 := by
    rw [memory_of_last hlast₂, hstepped₂.server', hcore]
  have hrequest : cl₂.request ⟨ops i, h⟩ = request := by
    rw [Cluster.request, hstepped₂.label', ← hhandling₁.request]
    rfl
  rw [hmemory, hrequest] at hanswer hcomplete
  obtain ⟨hrole, hstubs, hseen⟩ := complete_keeps request (net.server 0)
  have hstays := hstepped₂.toStays.trans hstays₃
  have hnet : (((net.note 0 i request).set 0 ((net.server 0).complete request)).goto i
      (.answered ((net.server 0).answer request))).server =
        Function.update net.server 0 ((net.server 0).complete request) := by
    rw [server_goto, server_net_set, server_note]
  have hmirrors₃ : Mirrors (fun _ => True)
      (calm (Function.update net.server 0 ((net.server 0).complete request)) 0) cl₃ := by
    refine H₁.mirrors.lead hstays (hcrashed₃.trans hstepped₂.crashed) ?_
      (fun k hk => Function.update_of_ne hk _ _) ?_
    · rw [hserver₃, hlast₃, hlast₂]
    · rw [Function.update_self, hcomplete, hserver₃, hlast₂]
      rfl
  have hclient₃ : cl₃.client = cl₁.client := hstays.client
  rw [hanswer] at hcall₃
  obtain ⟨cl₄, hstep₄, hdelivered, hmirrors₄, hclient₄, hlabel₄, hmade₄, halone₄⟩ :=
    exists_delivered hmirrors₃ ((congrFun hclient₃ i).trans hhandling₁.client) hcall₃
  obtain ⟨es, hrun, hcollect⟩ := (hsilently₁.trans hstepped₂.silently).trans hsilently₃
  refine ⟨owner₁, cl₄, es ++ [.receive h], ?_, ?_, H₁.moved (i := i) ⟨?_, ?_⟩ ?_
    (fun _ _ => rfl) ?_ (by rw [hnet]; exact hmirrors₄) ?_ ?_ ?_ ?_⟩
  · rw [run_append hrun, run_cons hstep₄, run_nil]
  · rw [collect_concat hrun hstep₄, hcollect, hdelivered]
    rfl
  · intro c hc
    rw [hclient₄, Function.update_of_ne hc, hclient₃]
  · intro id hnone hother
    have hne := ne_of_owner hhandling₁.owner hother
    exact ⟨by rw [halone₄ id hne, halone₃ id hne, hstepped₂.alone id hne],
      by rw [hlabel₄, hlabel₃, hstepped₂.others id hne]⟩
  · intro c hc
    rw [phase_note_set_goto, Function.update_of_ne hc]
  · exact fun id hid => H₁.made id (hstays.made (hmade₄ id hid))
  · intro k
    rw [hnet]
    by_cases hk : k = 0
    · rw [hk, Function.update_self, hrole]
    · rw [Function.update_of_ne hk]
  · rw [hnet, Function.update_self, hstubs]
  · rw [hnet, Function.update_self, hseen, H.last]
  · rw [phase_goto_self]
    refine .answered _ ?_
    rw [hclient₄, Function.update_self]
    rfl

end Steps

/-! ## Runs -/

section Runs

variable [DecidableEq ι] {ops : ι → Write} {db : Db}

/-- The answers that the leader gives. -/
def finished : Replication.Event ι → Net ι → List (ι × Answer)
  | .finish i, net =>
    match net.phase i with
    | .looping [] request => [(i, .response ((net.server 0).answer request))]
    | _ => []
  | _, _ => []

omit [DecidableEq ι] in
/-- Nothing has been done yet. -/
lemma shows_start (ops : ι → Write) (db : Db) :
    Shows ops (.start ops db) (fun _ => none) (.start db) where
  mirrors :=
    { crashed := rfl
      memory := fun _ _ _ => rfl
      owned := fun _ _ hlast => by cases hlast
      fresh := ⟨0, fun _ _ => rfl⟩ }
  roles _ := rfl
  stubs _ _ := rfl
  last := rfl
  made _ _ := rfl
  stands _ := .idle rfl

/-- A step of the writes can be taken by the threads, in which the clients get the same answers. -/
lemma Shows.step {e : Replication.Event ι} {net net' : Net ι} {owner : ℕ → Option ι}
    {cl : Cluster ι} (H : Shows ops net owner cl) (h : Replication.step e net = .ok ((), net')) :
    ∃ owner' cl' es, Foundation.run step es cl = .ok cl' ∧
      collect step delivered es cl = finished e net ∧ Shows ops net' owner' cl' := by
  cases e with
  | send i j =>
    obtain ⟨js, request, hphase, rfl⟩ := eq_of_send h
    obtain ⟨owner', cl', ⟨es, hrun, hcollect⟩, H'⟩ := H.send hphase
    exact ⟨owner', cl', es, hrun, hcollect, H'⟩
  | process i j =>
    obtain ⟨js, request, hphase, rfl⟩ := eq_of_process h
    obtain ⟨cl', ⟨es, hrun, hcollect⟩, H'⟩ := H.process hphase
    exact ⟨owner, cl', es, hrun, hcollect, H'⟩
  | receive i j =>
    obtain ⟨js, request, hphase, rfl⟩ := eq_of_receive h
    obtain ⟨cl', ⟨es, hrun, hcollect⟩, H'⟩ := H.receive hphase
    exact ⟨owner, cl', es, hrun, hcollect, H'⟩
  | finish i =>
    obtain ⟨request, hphase, rfl⟩ := eq_of_finish h
    obtain ⟨owner', cl', es, hrun, hcollect, H'⟩ := H.finish hphase
    refine ⟨owner', cl', es, hrun, hcollect.trans ?_, H'⟩
    simp [finished, hphase]

/-- Concurrent writes are schedules of threads.  For every order of the steps of any number of
writes there is a schedule of the clients and of the threads of the servers, in which the clients
get the same answers in the same order, no server stops, and all servers remember the same. -/
theorem writes_are_scheduled {events : List (Replication.Event ι)} {net : Net ι}
    (hrun : Foundation.run Replication.step events (.start ops db) = .ok net) :
    ∃ events' cl, Foundation.run step events' (.start db) = .ok cl ∧
      collect step delivered events' (.start db) =
        collect Replication.step finished events (.start ops db) ∧
      (∀ k, cl.crashed k = false) ∧ ∀ k, cl.memory k = net.server k := by
  obtain ⟨events', owner, cl, hevents, hcollect, H⟩ := run_history (G := fun _ _ => True)
    (P := fun events net => ∃ events' owner cl, Foundation.run step events' (.start db) = .ok cl ∧
      collect step delivered events' (.start db) =
        collect Replication.step finished events (.start ops db) ∧ Shows ops net owner cl)
    ⟨[], _, _, rfl, rfl, shows_start ops db⟩ (by
      rintro before e net₁ r net₂ hbefore ⟨events', owner, cl, hevents, hcollect, H⟩ - hstep
      obtain ⟨owner', cl', es, hes, hdelivered, H'⟩ := H.step hstep
      refine ⟨events' ++ es, owner', cl', ?_, ?_, H'⟩
      · rw [run_append hevents, hes]
      · rw [collect_append hevents, collect_concat hbefore hstep, hcollect, hdelivered])
    (guarded_true events _) hrun
  refine ⟨events', cl, hevents, hcollect, fun k => ?_, fun k => ?_⟩
  · rw [H.mirrors.crashed]
    rfl
  · exact (H.mirrors.memory k trivial rfl).symm

/-- Two clients register at the same time.  Threads answer both of them that they are registered,
and then server 1 does not know the second one. -/
theorem writes_are_scheduled_overlapping : ∃ (events : List (Event Handler)) (cl : Cluster Handler),
    Foundation.run step events (.start ⟨∅, fun _ => []⟩) = .ok cl ∧
    collect step delivered events (.start ⟨∅, fun _ => []⟩) =
      [(.first, .response registered), (.second, .response registered)] ∧
    (∀ k, cl.crashed k = false) ∧ (cl.server 1).db.passwords["bob"]? = none := by
  obtain ⟨net, hrun, hnet⟩ : ∃ net, Foundation.run Replication.step overlapping
      (.start (twoWrites (.register "ann" "x") (.register "bob" "y")) ⟨∅, fun _ => []⟩) =
        .ok net ∧ (net.server 1).db.passwords["bob"]? = none := ⟨_, rfl, rfl⟩
  obtain ⟨events, cl, hevents, hanswers, hup, hmemory⟩ := writes_are_scheduled hrun
  refine ⟨events, cl, hevents, hanswers.trans (by decide +kernel), hup, ?_⟩
  have hdb : (cl.server 1).db = (net.server 1).db := congrArg Params.db (hmemory 1)
  rw [hdb, hnet]

end Runs

end Chat262.Replication.Threads
