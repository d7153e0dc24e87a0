import Chat262.Replication.LostWrites
import Chat262.Replication.Restarts

/-!
# Replays at a takeover

Server 0 handles writes one at a time and crashes, and server 1, to which the next write comes,
replays its last request to server 2.  Each of the servers counts differently: server 0 counts the
replies of both followers, so server 2 gets a write under a number that is one more than that for
server 1.  Between two writes the counter of server 2 is one more than that of server 1, and while
server 1 has come to a write and server 2 has not, it is one less (`Stage`).  The replay has the
number that comes after the counter of server 1, so server 2 takes it for a new request in the
second case and not in the first (`takeover_filtered`).
-/

namespace Chat262.Replication

open Foundation Comp

/-! ## Writes one at a time -/

section Runs

variable {ι : Type} [DecidableEq ι]

/-- The handler of a write has not begun, or has ended. -/
def Idle (ops : ι → Write) (net : Net ι) (k : ι) : Prop :=
  net.phase k = .looping (followers 0) (.ofClient (ops k)) ∨ (net.phase k).isAnswered

/-- When a handler makes a step, no other one is at work. -/
def OneAtATime (ops : ι → Write) (e : Event ι) (net : Net ι) : Prop :=
  ∀ k, k ≠ e.write → Idle ops net k

/-- The last write that server 1 has come to is `i`, and `last_request` is a request for it. -/
structure LastSeen (ops : ι → Write) (es : List (Event ι)) (net : Net ι) (i : ι) : Prop where
  order : (order 1 es).getLast? = some i
  request : ∃ last, (net.server 1).lastRequest = some last ∧ last.write = ops i

/-- Server 2 has come to all that server 1 has come to. -/
inductive Settled (ops : ι → Write) (es : List (Event ι)) (net : Net ι) : Prop where
  | untouched (order : order 1 es = []) (request : (net.server 1).lastRequest = none)
      (counter : (net.server 2).counter = (net.server 1).counter)
  /-- Server 2 has got the last write under the number that comes after the one for server 1. -/
  | level (i : ι) (last : LastSeen ops es net i) (mem : i ∈ order 2 es)
      (counter : (net.server 2).counter = (net.server 1).counter + 1)

/-- Server 1 has come to the write `i`, and server 2 has not. -/
structure Ahead (ops : ι → Write) (es : List (Event ι)) (net : Net ι) (i : ι) : Prop where
  last : LastSeen ops es net i
  notMem : i ∉ order 2 es
  /-- Server 2 has the number that comes before the one for server 1. -/
  counter : (net.server 1).counter = (net.server 2).counter + 1

/-- How far the counters are apart in the course of the write `i`, phase by phase. -/
inductive Underway (ops : ι → Write) (es : List (Event ι)) (net : Net ι) (i : ι) :
    Phase → Prop where
  | sentOne (settled : Settled ops es net)
      (counter : (net.server 2).counter = (net.server 0).counter) :
      Underway ops es net i (.sent 1 [2] ⟨ops i, false, (net.server 0).counter + 1⟩)
  | repliedOne (ahead : Ahead ops es net i) (request : Request)
      (counter : (net.server 1).counter = (net.server 0).counter + 1) :
      Underway ops es net i (.replied 1 [2] request)
  | loopingTwo (ahead : Ahead ops es net i) (request : Request) (write : request.write = ops i)
      (counter : (net.server 1).counter = (net.server 0).counter) :
      Underway ops es net i (.looping [2] request)
  | sentTwo (ahead : Ahead ops es net i)
      (counter : (net.server 1).counter = (net.server 0).counter) :
      Underway ops es net i (.sent 2 [] ⟨ops i, false, (net.server 0).counter + 1⟩)
  | repliedTwo (settled : Settled ops es net) (request : Request)
      (counter : (net.server 2).counter = (net.server 0).counter + 1) :
      Underway ops es net i (.replied 2 [] request)
  | loopingEnd (settled : Settled ops es net) (request : Request)
      (counter : (net.server 2).counter = (net.server 0).counter) :
      Underway ops es net i (.looping [] request)

/-- How far the counters are apart when writes are handled one at a time. -/
inductive Stage (ops : ι → Write) (es : List (Event ι)) (net : Net ι) : Prop where
  | idle (idle : ∀ k, Idle ops net k) (settled : Settled ops es net)
      (counter : (net.server 2).counter = (net.server 0).counter)
  | busy (i : ι) (others : ∀ k, k ≠ i → Idle ops net k)
      (underway : Underway ops es net i (net.phase i))

/-- Between the steps `es` and `es'` servers 1 and 2 have done nothing. -/
structure Quiet (es es' : List (Event ι)) (net net' : Net ι) : Prop where
  order : ∀ s, s ≠ 0 → Replication.order s es' = Replication.order s es
  server : ∀ s, s ≠ 0 → net'.server s = net.server s

variable {ops : ι → Write} {db : Db} {es es' : List (Event ι)} {net net' : Net ι} {e : Event ι}
  {i k : ι}

/-! ### Steps of the leader -/

omit [DecidableEq ι] in
/-- A step that is none of the server `s` adds nothing to what it has come to. -/
lemma order_concat_of_none {s : ServerId} (h : e.doneAt s = none) :
    order s (es ++ [e]) = order s es := by
  rw [order_concat, h, Option.toList_none, List.append_nil]

/-- Servers 1 and 2 do nothing when the leader sends a request, -/
lemma quiet_send (es : List (Event ι)) (net : Net ι) (i : ι) (j : ServerId) (phase : Phase) :
    Quiet es (es ++ [.send i j]) net (net.goto i phase) :=
  ⟨fun _ _ => order_concat_of_none rfl, fun _ _ => rfl⟩

/-- nor when it receives a reply, -/
lemma quiet_receive (es : List (Event ι)) (net : Net ι) (i : ι) (j : ServerId) (phase : Phase) :
    Quiet es (es ++ [.receive i j]) net ((net.set 0 (net.server 0).counted).goto i phase) :=
  ⟨fun _ _ => order_concat_of_none rfl, fun _ hs => Function.update_of_ne hs ..⟩

/-- nor when it performs a write. -/
lemma quiet_finish (es : List (Event ι)) (net : Net ι) (i : ι) (request : Request) (phase : Phase) :
    Quiet es (es ++ [.finish i]) net
      (((net.note 0 i request).set 0 ((net.server 0).complete request)).goto i phase) := by
  refine ⟨fun s hs => order_concat_of_none (if_neg hs), fun s hs => ?_⟩
  rw [server_goto, server_net_set, Function.update_of_ne hs, server_note]

omit [DecidableEq ι] in
/-- The last write stays the last one. -/
lemma LastSeen.quiet (h : LastSeen ops es net i) (hquiet : Quiet es es' net net') :
    LastSeen ops es' net' i := by
  refine ⟨?_, ?_⟩
  · rw [hquiet.order 1 (by decide)]
    exact h.order
  · rw [hquiet.server 1 (by decide)]
    exact h.request

omit [DecidableEq ι] in
/-- Servers that have come to the same writes have come to the same writes. -/
lemma Settled.quiet (h : Settled ops es net) (hquiet : Quiet es es' net net') :
    Settled ops es' net' := by
  have hone := hquiet.server 1 (by decide)
  have htwo := hquiet.server 2 (by decide)
  rcases h with ⟨horder, hrequest, hcounter⟩ | ⟨i, hlast, hmem, hcounter⟩
  · refine .untouched ?_ ?_ ?_
    · rwa [hquiet.order 1 (by decide)]
    · rwa [hone]
    · rwa [hone, htwo]
  · refine .level i (hlast.quiet hquiet) ?_ ?_
    · rwa [hquiet.order 2 (by decide)]
    · rwa [hone, htwo]

omit [DecidableEq ι] in
/-- A server that is ahead stays ahead. -/
lemma Ahead.quiet (h : Ahead ops es net i) (hquiet : Quiet es es' net net') :
    Ahead ops es' net' i := by
  refine ⟨h.last.quiet hquiet, ?_, ?_⟩
  · rw [hquiet.order 2 (by decide)]
    exact h.notMem
  · rw [hquiet.server 1 (by decide), hquiet.server 2 (by decide)]
    exact h.counter

/-! ### Steps of the followers -/

omit [DecidableEq ι] in
/-- The counter of server 2 is not behind that of server 1 when nothing is to be done. -/
lemma Settled.counter_le (h : Settled ops es net) :
    (net.server 1).counter ≤ (net.server 2).counter := by
  rcases h with ⟨-, -, hcounter⟩ | ⟨i, -, -, hcounter⟩ <;> omega

/-- A follower that processes a request changes its own memory. -/
lemma server_process (net : Net ι) (j : ServerId) (i : ι) (request : Request) (phase : Phase) :
    (((net.note j i request).set j ((net.server j).follow request)).goto i phase).server =
      Function.update net.server j ((net.server j).follow request) := by
  rw [server_goto, server_net_set, server_note]

omit [DecidableEq ι] in
/-- Server 1 processes a write, and is ahead of server 2. -/
lemma Settled.process (h : Settled ops es net) (hnew : i ∉ order 2 es)
    (hcounter : (net.server 2).counter = (net.server 0).counter)
    (hserver : net'.server = Function.update net.server 1
      ((net.server 1).follow ⟨ops i, false, (net.server 0).counter + 1⟩)) :
    Ahead ops (es ++ [.process i 1]) net' i ∧
      (net'.server 1).counter = (net'.server 0).counter + 1 := by
  have hle := h.counter_le
  have hlt : (net.server 1).counter < (net.server 0).counter + 1 := by omega
  have htwo : order 2 (es ++ [.process i 1]) = order 2 es := order_concat_of_none rfl
  rw [Params.follow_of_lt rfl hlt] at hserver
  refine ⟨⟨⟨?_, ⟨ops i, false, (net.server 0).counter + 1⟩, ?_, rfl⟩, ?_, ?_⟩, ?_⟩
  · rw [order_process, List.getLast?_concat]
  · rw [hserver, Function.update_self]
  · rwa [htwo]
  · rw [hserver, Function.update_self, Function.update_of_ne (by decide), hcounter]
  · rw [hserver, Function.update_self, Function.update_of_ne (by decide)]

omit [DecidableEq ι] in
/-- Server 2 processes a write that server 1 has come to before. -/
lemma Ahead.process (h : Ahead ops es net i)
    (hcounter : (net.server 1).counter = (net.server 0).counter)
    (hserver : net'.server = Function.update net.server 2
      ((net.server 2).follow ⟨ops i, false, (net.server 0).counter + 1⟩)) :
    Settled ops (es ++ [.process i 2]) net' ∧
      (net'.server 2).counter = (net'.server 0).counter + 1 := by
  have hahead := h.counter
  have hlt : (net.server 2).counter < (net.server 0).counter + 1 := by omega
  have hone : order 1 (es ++ [.process i 2]) = order 1 es := order_concat_of_none rfl
  rw [Params.follow_of_lt rfl hlt] at hserver
  refine ⟨.level i ⟨?_, ?_⟩ ?_ ?_, ?_⟩
  · rw [hone]
    exact h.last.order
  · rw [hserver, Function.update_of_ne (by decide)]
    exact h.last.request
  · rw [order_process]
    exact List.mem_append_right _ (List.mem_singleton_self i)
  · rw [hserver, Function.update_self, Function.update_of_ne (by decide), hcounter]
  · rw [hserver, Function.update_self, Function.update_of_ne (by decide)]

/-! ### Whole runs -/

/-- A handler that has not begun, or has ended, is not touched by the others. -/
lemma Idle.other (h : Idle ops net k) (hk : k ≠ i) {phase : Phase}
    (hphase : net'.phase = Function.update net.phase i phase) : Idle ops net' k := by
  unfold Idle
  rw [hphase, Function.update_of_ne hk]
  exact h

omit [DecidableEq ι] in
/-- A handler at work has begun, and has not ended. -/
lemma Underway.not_idle (h : Underway ops es net i (net.phase i)) : ¬ Idle ops net i := by
  unfold Idle
  generalize net.phase i = phase at h
  rcases h with _ | _ | _ | _ | _ | _ <;> simp [Phase.isAnswered, followers]

/-- A handler begins with the request to server 1. -/
lemma stage_begin (hidle : ∀ k, Idle ops net k) (hsettled : Settled ops es net)
    (hcounter : (net.server 2).counter = (net.server 0).counter)
    (he : step e net = .ok ((), net')) : Stage ops (es ++ [e]) net' := by
  cases e with
  | send i j =>
    obtain ⟨js, request, hphase, rfl⟩ := eq_of_send he
    have hbegun : Phase.looping (j :: js) request = .looping [1, 2] (.ofClient (ops i)) := by
      rcases hidle i with hi | hi
      · rwa [hphase] at hi
      · rw [hphase] at hi
        exact hi.elim
    obtain ⟨hjs, rfl⟩ := Phase.looping.inj hbegun
    obtain ⟨rfl, rfl⟩ := List.cons.inj hjs
    refine .busy i (fun k hk => (hidle k).other hk rfl) ?_
    rw [phase_goto_self]
    exact .sentOne (hsettled.quiet (quiet_send ..)) hcounter
  | process i j =>
    obtain ⟨js, request, hphase, -⟩ := eq_of_process he
    rcases hidle i with hi | hi <;> rw [hphase] at hi <;> cases hi
  | receive i j =>
    obtain ⟨js, request, hphase, -⟩ := eq_of_receive he
    rcases hidle i with hi | hi <;> rw [hphase] at hi <;> cases hi
  | finish i =>
    obtain ⟨request, hphase, -⟩ := eq_of_finish he
    rcases hidle i with hi | hi <;> rw [hphase] at hi <;> cases hi

/-- A handler at work goes from phase to phase. -/
lemma Underway.step (h : Underway ops es net i (net.phase i)) (ht : Tracked ops es net)
    (hothers : ∀ k, k ≠ i → Idle ops net k) (hwrite : e.write = i)
    (he : Replication.step e net = .ok ((), net')) : Stage ops (es ++ [e]) net' := by
  cases e with
  | send i' j =>
    obtain rfl : i' = i := hwrite
    obtain ⟨js, request, hphase, rfl⟩ := eq_of_send he
    rw [hphase] at h
    refine .busy i' (fun k hk => (hothers k hk).other hk rfl) ?_
    rw [phase_goto_self]
    rcases h with _ | _ | ⟨hahead, _, hop, hcounter⟩
    rw [Request.sentBy, hop]
    exact .sentTwo (hahead.quiet (quiet_send ..)) hcounter
  | process i' j =>
    obtain rfl : i' = i := hwrite
    obtain ⟨js, request, hphase, rfl⟩ := eq_of_process he
    have hnew := ht.processed i' 2 (by decide)
    rw [hphase] at h hnew
    refine .busy i' (fun k hk => (hothers k hk).other hk (phase_note_set_goto ..)) ?_
    rw [phase_goto_self]
    rcases h with ⟨hsettled, hcounter⟩ | _ | _ | ⟨hahead, hcounter⟩
    · -- Server 1 comes to the write.
      have htwo : i' ∉ order 2 es := fun hmem => hnew.mp hmem (by simp [Phase.ahead])
      obtain ⟨hahead, hcounter'⟩ := hsettled.process htwo hcounter (server_process ..)
      exact .repliedOne hahead _ hcounter'
    · -- Server 2 comes to it.
      obtain ⟨hsettled, hcounter'⟩ := hahead.process hcounter (server_process ..)
      exact .repliedTwo hsettled _ hcounter'
  | receive i' j =>
    obtain rfl : i' = i := hwrite
    obtain ⟨js, request, hphase, rfl⟩ := eq_of_receive he
    have hop := ht.replied i' j js request hphase
    rw [hphase] at h
    refine .busy i' (fun k hk => (hothers k hk).other hk rfl) ?_
    rw [phase_goto_self]
    rcases h with _ | ⟨hahead, _, hcounter⟩ | _ | _ | ⟨hsettled, _, hcounter⟩
    · exact .loopingTwo (hahead.quiet (quiet_receive ..)) _ hop hcounter
    · exact .loopingEnd (hsettled.quiet (quiet_receive ..)) _ hcounter
  | finish i' =>
    obtain rfl : i' = i := hwrite
    obtain ⟨request, hphase, rfl⟩ := eq_of_finish he
    have hclient := (ht.looping i' [] request hphase).2
    rw [hphase] at h
    rcases h with _ | _ | _ | _ | _ | ⟨hsettled, _, hcounter⟩
    refine .idle (fun k => ?_) (hsettled.quiet (quiet_finish ..)) ?_
    · by_cases hk : k = i'
      · rw [hk]
        refine .inr ?_
        rw [phase_goto_self]
        trivial
      · exact (hothers k hk).other hk (phase_note_set_goto ..)
    · rw [server_goto, server_net_set, Function.update_self, Function.update_of_ne (by decide),
        server_note, hcounter, Params.complete]
      simp [hclient]

/-- Every step keeps the counters as far apart as they are in its phase. -/
lemma Stage.step (h : Stage ops es net) (ht : Tracked ops es net) (hone : OneAtATime ops e net)
    (he : Replication.step e net = .ok ((), net')) : Stage ops (es ++ [e]) net' := by
  rcases h with ⟨hidle, hsettled, hcounter⟩ | ⟨i, hothers, hunder⟩
  · exact stage_begin hidle hsettled hcounter he
  · have hwrite : e.write = i := by
      by_contra hne
      exact hunder.not_idle (hone i (Ne.symm hne))
    exact hunder.step ht hothers hwrite he

/-- When writes are handled one at a time, the counters are as far apart as they are in one of the
phases. -/
theorem stage_of_run (hrun : Foundation.run step es (.start ops db) = .ok net)
    (hone : Guarded step (OneAtATime ops) es (.start ops db)) : Stage ops es net := by
  refine run_history (P := fun es net => Stage ops es net) ?_ ?_ hone hrun
  · exact .idle (fun _ => .inl rfl) (.untouched rfl rfl rfl) rfl
  · intro es e net r net' hrun h hone he
    exact h.step (tracked_run hrun).1 hone he

omit [DecidableEq ι] in
/-- Server 2 is where server 1 is, or server 1 is ahead of it. -/
lemma Stage.settled_or_ahead (h : Stage ops es net) :
    Settled ops es net ∨ ∃ i, Ahead ops es net i := by
  rcases h with ⟨-, hsettled, -⟩ | ⟨i, -, hunder⟩
  · exact .inl hsettled
  · generalize net.phase i = phase at hunder
    rcases hunder with ⟨hsettled, -⟩ | ⟨hahead, -, -⟩ | ⟨hahead, -, -, -⟩ | ⟨hahead, -⟩ |
      ⟨hsettled, -, -⟩ | ⟨hsettled, -, -⟩
    · exact .inl hsettled
    · exact .inr ⟨i, hahead⟩
    · exact .inr ⟨i, hahead⟩
    · exact .inr ⟨i, hahead⟩
    · exact .inl hsettled
    · exact .inl hsettled

omit [DecidableEq ι] in
/-- Server 1 has no last request, or one for the last write that it has come to, and what the
counters of servers 1 and 2 are then. -/
lemma Stage.lastRequest_cases (h : Stage ops es net) :
    ((net.server 1).lastRequest = none ∧ order 1 es = [] ∧
      (net.server 2).counter = (net.server 1).counter) ∨
    ∃ i last, (net.server 1).lastRequest = some last ∧ (order 1 es).getLast? = some i ∧
      last.write = ops i ∧
      (i ∈ order 2 es ∧ (net.server 2).counter = (net.server 1).counter + 1 ∨
        i ∉ order 2 es ∧ (net.server 1).counter = (net.server 2).counter + 1) := by
  rcases h.settled_or_ahead with (⟨horder, hnone, hcounter⟩ | ⟨i, hseen, hmem, hcounter⟩) |
    ⟨i, hseen, hnotMem, hcounter⟩
  · exact .inl ⟨hnone, horder, hcounter⟩
  · obtain ⟨last, hlast, hop⟩ := hseen.request
    exact .inr ⟨i, last, hlast, hseen.order, hop, .inl ⟨hmem, hcounter⟩⟩
  · obtain ⟨last, hlast, hop⟩ := hseen.request
    exact .inr ⟨i, last, hlast, hseen.order, hop, .inr ⟨hnotMem, hcounter⟩⟩

omit [DecidableEq ι] in
/-- A follower comes to the writes that it processes. -/
lemma mem_order_iff {s : ServerId} (hs : s ≠ 0) : i ∈ order s es ↔ .process i s ∈ es := by
  unfold order
  rw [List.mem_filterMap]
  constructor
  · rintro ⟨e, he, hdone⟩
    cases e with
    | process k j =>
      change (if j = s then some k else none) = some i at hdone
      split_ifs at hdone with hj
      cases hdone
      rwa [hj] at he
    | finish k =>
      change (if s = 0 then some k else none) = some i at hdone
      rw [if_neg hs] at hdone
      cases hdone
    | send k j => cases hdone
    | receive k j => cases hdone
  · intro h
    exact ⟨_, h, if_pos rfl⟩

/-- In a step a follower processes a request or does nothing. -/
lemma follower_step {s : ServerId} (hs : s ≠ 0) (he : step e net = .ok ((), net')) :
    net'.server s = net.server s ∨ ∃ request, net'.server s = (net.server s).follow request := by
  cases e with
  | send i j =>
    obtain ⟨js, request, hphase, rfl⟩ := eq_of_send he
    exact .inl rfl
  | process i j =>
    obtain ⟨js, request, hphase, rfl⟩ := eq_of_process he
    rw [server_process]
    by_cases hj : s = j
    · rw [← hj, Function.update_self]
      exact .inr ⟨request, rfl⟩
    · exact .inl (Function.update_of_ne hj ..)
  | receive i j =>
    obtain ⟨js, request, hphase, rfl⟩ := eq_of_receive he
    exact .inl (Function.update_of_ne hs ..)
  | finish i =>
    obtain ⟨request, hphase, rfl⟩ := eq_of_finish he
    exact .inl ((quiet_finish [] net i request _).server s hs)

/-- Followers keep their role and their stubs in every run. -/
lemma role_of_run {s : ServerId} (hs : s ≠ 0)
    (hrun : Foundation.run step es (.start ops db) = .ok net) :
    (net.server s).amILeader = false ∧ ∀ service j, (net.server s).stubs service j = true := by
  refine run_invariant (P := fun net => (net.server s).amILeader = false ∧
    ∀ service j, (net.server s).stubs service j = true) ?_ (guarded_true es _) hrun ?_
  · intro e net r net' h _ he
    rcases follower_step hs he with hsame | ⟨request, hfollow⟩
    · rwa [hsame]
    · rwa [hfollow, (Params.follow_role _ _).1, (Params.follow_role _ _).2]
  · exact ⟨decide_eq_false hs, fun _ _ => rfl⟩


end Runs

/-! ## Server 1 in charge -/

section Charge

variable {fate : ℕ → ServerId → Bool} {h : ServerId → Request → Comp World Response}
  {request : Request} {w w' : World}

/-- Server 1 is the leader, server 2 follows it, and the next number of server 1 is a new one. -/
structure InCharge (w : World) : Prop where
  leader : (w.server 1).amILeader = true
  follower : (w.server 2).amILeader = false
  stubs : ∀ service, (w.server 1).stubs service 2 = true
  counter : (w.server 2).counter ≤ (w.server 1).counter

/-- Server 1 sends a request to server 2 under the number that comes next, if server 2 stays up. -/
lemma wp_replicateLoop_one (hh : h 2 = handle fate 2) (hrole : (w.server 2).amILeader = false)
    (hstub : (w.server 1).stubs request.write.service 2 = true) :
    wp (replicateLoop fate h 1 [2] request)
      (fun request' w' => w'.crashed 2 = false →
        request' = { request.sentBy (w.server 1) with isClient := true } ∧
        w'.server = Function.update (Function.update w.server 2
          ((w.server 2).follow (request.sentBy (w.server 1)))) 1 (w.server 1).counted)
      (fun w' => w'.crashed 1 = true) w := by
  refine wp_replicateLoop_cons hh (by decide) (fun _ => hrole) ?_ ?_ ?_ fun w' _ hdown _ _ => hdown
  · intro hno
    rw [hstub] at hno
    cases hno
  · intro w' _ _ hserver
    exact fun _ => ⟨rfl, hserver⟩
  · intro w' _ _ hdown _ _ hup
    rw [hdown] at hup
    cases hup

/-- The counter of a server that has got a request is at least its number. -/
lemma Params.counter_follow_sentBy (p q : Params) (request : Request) :
    (p.follow (request.sentBy q)).counter = max p.counter (q.counter + 1) :=
  Params.counter_follow p request.write (q.counter + 1)

/-- Server 1 takes over with a replay, and is in charge. -/
lemma wp_takeOver_one (hh : h 2 = handle fate 2) (hrole : (w.server 2).amILeader = false)
    (hstubs : ∀ service, (w.server 1).stubs service 2 = true)
    (hnone : (w.server 1).lastRequest = none →
      (w.server 2).counter ≤ (w.server 1).counter)
    (hcounter : (w.server 2).counter ≤ (w.server 1).counter + 1) :
    wp (takeOver fate h 1)
      (fun _ w' => w'.crashed 2 = false → InCharge w' ∧
        w'.server 2 = (w.server 1).lastRequest.elim (w.server 2)
          fun last => (w.server 2).follow (last.sentBy (w.server 1)))
      (fun w' => w'.crashed 1 = true) w := by
  have hself : (w.set 1 fun p => { p with amILeader := true }).server 1 =
      { w.server 1 with amILeader := true } := by rw [server_set, Function.update_self]
  have htwo : (w.set 1 fun p => { p with amILeader := true }).server 2 = w.server 2 := by
    rw [server_set, Function.update_of_ne (by decide)]
  refine wp_takeOver_cases (fun hlast _ => ?_) fun last hlast => ?_
  · rw [hlast]
    refine ⟨⟨?_, ?_, ?_, ?_⟩, htwo⟩
    · rw [hself]
    · rwa [htwo]
    · rw [hself]
      exact hstubs
    · rw [hself, htwo]
      exact hnone hlast
  · refine wp_mono (wp_replicateLoop_one hh (by rwa [htwo]) (by rw [hself]; exact hstubs _)) ?_
      fun w' hdown => hdown
    intro last' w' hsent hup
    rw [hlast]
    obtain ⟨-, hserver⟩ := hsent hup
    rw [hself, htwo] at hserver
    have hone' : (w'.set 1 fun p => { p with lastRequest := some last' }).server 1 =
        { (w.server 1).counted with
          amILeader := true
          lastRequest := some last' } := by
      rw [server_set, Function.update_self, hserver, Function.update_self]
      rfl
    have htwo' : (w'.set 1 fun p => { p with lastRequest := some last' }).server 2 =
        (w.server 2).follow (last.sentBy (w.server 1)) := by
      rw [server_set, Function.update_of_ne (by decide), hserver,
        Function.update_of_ne (by decide), Function.update_self]
      rfl
    refine ⟨⟨?_, ?_, ?_, ?_⟩, htwo'⟩
    · rw [hone']
    · rw [htwo', (Params.follow_role _ _).1]
      exact hrole
    · rw [hone']
      exact hstubs
    · rw [hone', htwo', Params.counter_follow_sentBy]
      exact max_le hcounter le_rfl

/-- Server 1 in charge sends a write to server 2 under the number that comes next, and stays in
charge. -/
lemma InCharge.wp_handle (hcharge : InCharge w) (op : Write) :
    wp (handle fate 1 (.ofClient op))
      (fun _ w' => w'.crashed 2 = false → InCharge w' ∧
        w'.server 2 = (w.server 2).follow ((Request.ofClient op).sentBy (w.server 1)))
      (fun w' => w'.crashed 1 = true) w := by
  change wp (serve fate (fun _ => handle2 fate) 1 (.ofClient op)) _ _ _
  refine wp_serve.mpr (wp_replicate_leader rfl hcharge.leader (wp_mono
    (wp_replicateLoop_one rfl hcharge.follower (hcharge.stubs _)) ?_ fun w' hdown => hdown))
  intro request w₁ hsent
  refine wp_finish (fun w₂ hlater _ hserver₂ hup => ?_) fun w₂ _ hdown _ => hdown
  obtain ⟨rfl, hserver₁⟩ := hsent (hlater.alive hup)
  have hone : w₂.server 1 = { (w.server 1).counted with db := op.apply (w.server 1).db } := by
    rw [hserver₂, Function.update_self, hserver₁, Function.update_self]
    rfl
  have htwo : w₂.server 2 = (w.server 2).follow ((Request.ofClient op).sentBy (w.server 1)) := by
    rw [hserver₂, Function.update_of_ne (by decide), hserver₁,
      Function.update_of_ne (by decide), Function.update_self]
  refine ⟨⟨?_, ?_, ?_, ?_⟩, htwo⟩
  · rw [hone]
    exact hcharge.leader
  · rw [htwo, (Params.follow_role _ _).1]
    exact hcharge.follower
  · rw [hone]
    exact hcharge.stubs
  · rw [hone, htwo, Params.counter_follow_sentBy]
    exact max_le (hcharge.counter.trans (Nat.le_succ _)) le_rfl

/-- A client's request that makes a server take over is handled as one that comes to the leader
afterwards. -/
lemma serve_of_takeOver {me : ServerId} (hclient : request.isClient = true)
    (hrole : (w.server me).amILeader = false) (htake : takeOver fate h me w = (some (), w'))
    (hleader : (w'.server me).amILeader = true) :
    serve fate h me request w = serve fate h me request w' := by
  have hbefore : (if request.isClient && !(w.server me).amILeader then takeOver fate h me
      else pure () : Comp World Unit) w = (some (), w') := by
    rw [if_pos (by simp [hclient, hrole])]
    exact htake
  have hafter : (if request.isClient && !(w'.server me).amILeader then takeOver fate h me
      else pure () : Comp World Unit) w' = (some (), w') := by
    rw [if_neg (by simp [hleader])]
    rfl
  unfold serve replicate
  refine bind_congr_of_eq ?_
  rw [bind_of_eq_some (show params me w = (some (w.server me), w) from rfl),
    bind_of_eq_some (show params me w' = (some (w'.server me), w') from rfl),
    bind_of_eq_some hbefore, bind_of_eq_some hafter]

end Charge

/-! ## When server 0 has crashed -/

/-- The world in which server 0 has just crashed, and nothing has happened at the others since. -/
def Net.abandoned {ι : Type} (net : Net ι) (clock : ℕ) : World :=
  ⟨net.server, fun s => s = 0, clock⟩

/-- Server 1 handles the writes one after another, and sends each of them to server 2 under a number
that is greater than the counter of server 2. -/
def Outnumbers : List Write → World → Prop
  | [], _ => True
  | op :: ops, w =>
    (w.server 2).counter < ((Request.ofClient op).sentBy (w.server 1)).counter ∧
      ∃ r w', handle (fun _ _ => false) 1 (.ofClient op) w = (some r, w') ∧
        w'.server 2 = (w.server 2).follow ((Request.ofClient op).sentBy (w.server 1)) ∧
        Outnumbers ops w'

/-- Server 1 in charge outnumbers server 2, whatever is written. -/
lemma InCharge.outnumbers {w : World} (hcharge : InCharge w) (hone : w.crashed 1 = false)
    (htwo : w.crashed 2 = false) (ops : List Write) : Outnumbers ops w := by
  induction ops generalizing w with
  | nil => trivial
  | cons op ops ih =>
    have hsame : (handle (fun _ _ => false) 1 (.ofClient op) w).2.crashed = w.crashed :=
      within_handle (fun k _ => tolerates_sameCrashed.on k) (.ofClient op) w
    have hspec : wp (handle (fun _ _ => false) 1 (.ofClient op)) _ _ w := hcharge.wp_handle op
    obtain ⟨r, w', hrun, hend⟩ := exists_of_wp hspec
      (by rw [hsame, hone]; exact Bool.false_ne_true)
    rw [hrun] at hsame
    have htwo' : w'.crashed 2 = false := by rwa [← congrFun hsame 2] at htwo
    have hone' : w'.crashed 1 = false := by rwa [← congrFun hsame 1] at hone
    obtain ⟨hcharge', hserver⟩ := hend htwo'
    exact ⟨Nat.lt_succ_of_le hcharge.counter, r, w', hrun, hserver, ih hcharge' hone' htwo'⟩

section Takeover

variable {ι : Type} [DecidableEq ι] {db : Db} {es : List (Event ι)} {net : Net ι}

omit [DecidableEq ι] in
/-- Server 1 takes over when server 0 has crashed. -/
lemma takeOver_abandoned (hrole : (net.server 2).amILeader = false)
    (hstubs : ∀ service, (net.server 1).stubs service 2 = true)
    (hnone : (net.server 1).lastRequest = none → (net.server 2).counter ≤ (net.server 1).counter)
    (hcounter : (net.server 2).counter ≤ (net.server 1).counter + 1) (clock : ℕ) :
    ∃ w', takeOver (fun _ _ => false) (fun _ => handle2 fun _ _ => false) 1 (net.abandoned clock) =
        (some (), w') ∧ w'.crashed = (net.abandoned clock).crashed ∧ InCharge w' ∧
      w'.server 2 = (net.server 1).lastRequest.elim (net.server 2)
        fun last => (net.server 2).follow (last.sentBy (net.server 1)) := by
  have htwo : ∀ request, Within SameCrashed (handle (fun _ _ => false) 2 request) :=
    within_handle fun k _ => tolerates_sameCrashed.on k
  have hsame : (takeOver (fun _ _ => false) (fun _ => handle2 fun _ _ => false) 1
      (net.abandoned clock)).2.crashed = (net.abandoned clock).crashed :=
    within_takeOver (tolerates_sameCrashed.on 1) (fun _ _ => htwo) (net.abandoned clock)
  have hspec : wp (takeOver (fun _ _ => false) (fun _ => handle2 fun _ _ => false) 1) _ _
      (net.abandoned clock) := wp_takeOver_one rfl hrole hstubs hnone hcounter
  obtain ⟨⟨⟩, w', hrun, hend⟩ := exists_of_wp hspec (by rw [hsame]; exact Bool.false_ne_true)
  rw [hrun] at hsame
  exact ⟨w', hrun, hsame, hend (by rw [hsame]; rfl)⟩

/-- In every run of writes that server 0 handles one at a time, wherever in it server 0 crashes:
server 1 takes over when the first write comes to it, and server 2 takes the replay of the last
request for a new one if and only if it has not processed the request of this write before.  From
then on every request that server 1 sends has a greater number than the counter of server 2. -/
theorem takeover_filtered (ops : ι → Write) (db : Db)
    (hrun : Foundation.run step es (.start ops db) = .ok net)
    (hone : Guarded step (OneAtATime ops) es (.start ops db)) (clock : ℕ) :
    ((net.server 1).lastRequest = none → order 1 es = []) ∧
    (∀ last, (net.server 1).lastRequest = some last → ∃ i, (order 1 es).getLast? = some i ∧
      last.write = ops i ∧
      (¬ (last.sentBy (net.server 1)).counter ≤ (net.server 2).counter ↔ .process i 2 ∉ es)) ∧
    ∃ w', takeOver (fun _ _ => false) (fun _ => handle2 fun _ _ => false) 1 (net.abandoned clock) =
        (some (), w') ∧
      w'.server 2 = (net.server 1).lastRequest.elim (net.server 2)
        (fun last => (net.server 2).follow (last.sentBy (net.server 1))) ∧
      (∀ op, handle (fun _ _ => false) 1 (.ofClient op) (net.abandoned clock) =
        handle (fun _ _ => false) 1 (.ofClient op) w') ∧
      ∀ writes, Outnumbers writes w' := by
  have hcases := (stage_of_run hrun hone).lastRequest_cases
  obtain ⟨hrole₁, hstubs₁⟩ := role_of_run (show (1 : ServerId) ≠ 0 by decide) hrun
  obtain ⟨hrole₂, -⟩ := role_of_run (show (2 : ServerId) ≠ 0 by decide) hrun
  have hcounter : (net.server 2).counter ≤ (net.server 1).counter + 1 := by
    rcases hcases with ⟨-, -, hequal⟩ | ⟨i, last, -, -, -, ⟨-, hequal⟩ | ⟨-, hequal⟩⟩ <;> omega
  refine ⟨fun hnone => ?_, fun last hlast => ?_, ?_⟩
  · rcases hcases with ⟨-, horder, -⟩ | ⟨i, last, hlast, -⟩
    · exact horder
    · rw [hnone] at hlast
      cases hlast
  · rcases hcases with ⟨hnone, -⟩ | ⟨i, last', hlast', horder, hop, happart⟩
    · rw [hlast] at hnone
      cases hnone
    obtain rfl : last' = last := Option.some.inj (hlast'.symm.trans hlast)
    refine ⟨i, horder, hop, ?_⟩
    rw [← mem_order_iff (by decide)]
    change ¬ (net.server 1).counter + 1 ≤ (net.server 2).counter ↔ i ∉ order 2 es
    rcases happart with ⟨hmem, hequal⟩ | ⟨hnotMem, hequal⟩
    · -- The replay has the number of the write itself.
      exact iff_of_false (not_not.mpr hequal.ge) (not_not.mpr hmem)
    · exact iff_of_true (by omega) hnotMem
  · have hnone : (net.server 1).lastRequest = none →
        (net.server 2).counter ≤ (net.server 1).counter := by
      intro hnone
      rcases hcases with ⟨-, -, hequal⟩ | ⟨i, last, hlast, -⟩
      · exact hequal.le
      · rw [hnone] at hlast
        cases hlast
    obtain ⟨w', htake, hsame, hcharge, hserver⟩ :=
      takeOver_abandoned hrole₂ (fun service => hstubs₁ service 2) hnone hcounter clock
    refine ⟨w', htake, hserver, fun op => ?_, fun writes => ?_⟩
    · exact serve_of_takeOver rfl hrole₁ htake hcharge.leader
    · exact hcharge.outnumbers (by rw [hsame]; rfl) (by rw [hsame]; rfl) writes

end Takeover

/-- Server 0 has sent its first write to server 1 and crashes before it sends it to server 2. -/
theorem takeover_filtered_half :
    ∃ net, Foundation.run step [.send () 1, .process () 1]
        (.start (fun _ => .register "ann" "x") .empty) = .ok net ∧
      (net.server 1).lastRequest = some ⟨.register "ann" "x", false, 1⟩ ∧
      ∃ w', takeOver (fun _ _ => false) (fun _ => handle2 fun _ _ => false) 1 (net.abandoned 0) =
          (some (), w') ∧ ∀ writes, Outnumbers writes w' := by
  have hone : Guarded step (OneAtATime fun _ => .register "ann" "x")
      [.send () 1, .process () 1] (.start (fun _ => .register "ann" "x") .empty) :=
    (guarded_true _ _).mono fun _ _ _ k hk => absurd (Subsingleton.elim k _) hk
  obtain ⟨-, -, w', htake, -, -, hall⟩ :=
    takeover_filtered (fun _ => .register "ann" "x") .empty rfl hone 0
  exact ⟨_, rfl, rfl, w', htake, hall⟩

end Chat262.Replication
