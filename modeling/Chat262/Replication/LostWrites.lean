import Chat262.Foundation.Reordering
import Chat262.Replication.Interleaving

/-!
# Lost writes

The counter that a request is sent with is one more than the number of replies that the leader has
received so far (`Tracked`), and a follower keeps the greatest counter that it has seen (`Kept`).
So two requests to a follower have the same counter when no reply comes in between, and the follower
takes the one that it processes second for a duplicate of the other.  `answered_performed_iff` says
exactly in which runs no answered write is lost.
-/

namespace Chat262.Replication

open Foundation
open scoped List

/-! ## What a run is like -/

section Runs

variable {ι : Type} [DecidableEq ι]

/-- The write that a server comes to perform in a step. -/
def Event.doneAt (s : ServerId) : Event ι → Option ι
  | .process i j => if j = s then some i else none
  | .finish i => if s = 0 then some i else none
  | _ => none

/-- The writes in the order in which the server `s` comes to them. -/
def order (s : ServerId) (es : List (Event ι)) : List ι := es.filterMap (Event.doneAt s)

/-- Whether the leader receives a reply in a step. -/
def Event.isReceive : Event ι → Bool
  | .receive _ _ => true
  | _ => false

/-- The number of replies that the leader has received when it sends the request `i` to `j`. -/
def repliesBefore (i : ι) (j : ServerId) (es : List (Event ι)) : ℕ :=
  (es.takeWhile (· ≠ .send i j)).countP Event.isReceive

/-- The server `j` has not come to a write before `i` without a reply to the leader between the
sending of the two to `j`. -/
def Spaced (es : List (Event ι)) (j : ServerId) (i : ι) : Prop :=
  ∀ a, [a, i] <+ order j es → repliesBefore a j es < repliesBefore i j es

/-- The servers that have still to process a request. -/
def Phase.ahead : Phase → List ServerId
  | .looping js _ => js
  | .sent j js _ => j :: js
  | .replied _ js _ => js
  | .answered _ => []

/-- The servers that have still to be sent a request. -/
def Phase.unsent : Phase → List ServerId
  | .looping js _ => js
  | .sent _ js _ => js
  | .replied _ js _ => js
  | .answered _ => []

/-- Whether the leader has performed a write. -/
def Phase.isAnswered : Phase → Prop
  | .answered _ => True
  | _ => False

/-- The write whose handler makes a step. -/
def Event.write : Event ι → ι
  | .send i _ | .process i _ | .receive i _ | .finish i => i

/-- What the handlers keep of the steps `es` of a run. -/
structure Tracked (ops : ι → Write) (es : List (Event ι)) (net : Net ι) : Prop where
  suffix : ∀ i, (net.phase i).ahead <:+ followers 0
  sent : ∀ i j, j ≠ 0 → (.send i j ∈ es ↔ j ∉ (net.phase i).unsent)
  processed : ∀ i j, j ≠ 0 → (i ∈ order j es ↔ j ∉ (net.phase i).ahead)
  finished : ∀ i, i ∈ order 0 es ↔ (net.phase i).isAnswered
  nodup : ∀ s, (order s es).Nodup
  /-- A handler keeps the write of its request, and takes it for a client's in its loop. -/
  looping : ∀ i js request, net.phase i = .looping js request →
    request.write = ops i ∧ request.isClient = true
  counter : ∀ i j js request, net.phase i = .sent j js request →
    request.write = ops i ∧ request.isClient = false ∧
      request.counter = repliesBefore i j es + 1
  replied : ∀ i j js request, net.phase i = .replied j js request → request.write = ops i

/-- What the servers keep of the steps `es` of a run. -/
structure Kept (ops : ι → Write) (db : Db) (es : List (Event ι)) (net : Net ι) : Prop where
  replies : (net.server 0).counter = es.countP Event.isReceive
  /-- A follower keeps the greatest counter that it has seen. -/
  seen : ∀ j, j ≠ 0 → ∀ n, n < (net.server j).counter ↔ ∃ a ∈ order j es, n ≤ repliesBefore a j es
  performed : ∀ j, j ≠ 0 → ∀ i ∈ order j es, i ∈ net.performed j ↔ Spaced es j i
  /-- What the servers have performed they have come to, in this order. -/
  sublist : ∀ s, net.performed s <+ order s es
  leader : net.performed 0 = order 0 es
  db : ∀ s, (net.server s).db = (net.performed s).foldl (fun db i => (ops i).apply db) db

variable {ops : ι → Write} {db : Db} {es : List (Event ι)} {net : Net ι}

omit [DecidableEq ι] in
/-- A step adds to the order of a server what it does there. -/
lemma order_concat (s : ServerId) (es : List (Event ι)) (e : Event ι) :
    order s (es ++ [e]) = order s es ++ (e.doneAt s).toList := by
  unfold order
  rw [List.filterMap_append]
  cases h : e.doneAt s <;> simp [h]

omit [DecidableEq ι] in
/-- A step does nothing at a server but with the write whose handler makes it. -/
lemma write_of_doneAt {s : ServerId} {e : Event ι} {i : ι} (h : e.doneAt s = some i) :
    e.write = i := by
  cases e with
  | send k j => cases h
  | receive k j => cases h
  | process k j =>
    change (if j = s then some k else none) = some i at h
    split_ifs at h
    exact Option.some.inj h
  | finish k =>
    change (if s = 0 then some k else none) = some i at h
    split_ifs at h
    exact Option.some.inj h

omit [DecidableEq ι] in
/-- The writes that a server has come to after a step. -/
lemma mem_order_concat {s : ServerId} {e : Event ι} {i : ι} :
    i ∈ order s (es ++ [e]) ↔ i ∈ order s es ∨ e.doneAt s = some i := by
  rw [order_concat, List.mem_append, Option.mem_toList]

/-- Once a request has been sent, the number of replies before it is settled. -/
lemma repliesBefore_concat_of_mem {i : ι} {j : ServerId} (h : .send i j ∈ es) (e : Event ι) :
    repliesBefore i j (es ++ [e]) = repliesBefore i j es := by
  unfold repliesBefore
  rw [List.takeWhile_append, if_neg fun hlength => ?_]
  have hself := (List.takeWhile_prefix _).eq_of_length hlength
  have := List.takeWhile_eq_self_iff.mp hself _ h
  simp at this

/-- When a request is sent, the replies before it are those so far. -/
lemma repliesBefore_concat_send {i : ι} {j : ServerId} (h : .send i j ∉ es) :
    repliesBefore i j (es ++ [.send i j]) = es.countP Event.isReceive := by
  unfold repliesBefore
  rw [List.takeWhile_append_of_pos (by simpa using fun a ha => ne_of_mem_of_not_mem ha h)]
  simp

omit [DecidableEq ι] in
/-- What has not been sent has not been processed. -/
lemma Phase.unsent_subset (phase : Phase) : phase.unsent ⊆ phase.ahead := by
  cases phase with
  | sent j js request => exact List.subset_cons_self j js
  | looping | replied | answered => exact List.Subset.refl _

/-- What a follower has come to has been sent to it. -/
lemma Tracked.send_mem (h : Tracked ops es net) {i : ι} {j : ServerId} (hj : j ≠ 0)
    (hi : i ∈ order j es) : .send i j ∈ es :=
  (h.sent i j hj).mpr fun hunsent =>
    (h.processed i j hj).mp hi (Phase.unsent_subset _ hunsent)

/-- The leader does not follow itself. -/
lemma ne_zero_of_mem_followers {j : ServerId} (h : j ∈ followers 0) : j ≠ 0 :=
  (mem_followers.mp h).ne'

/-- The loop comes to a stub once. -/
lemma not_mem_of_cons_suffix {j : ServerId} {js : List ServerId} (h : j :: js <:+ followers 0) :
    j ∉ js :=
  (List.nodup_cons.mp (h.sublist.nodup (by decide))).1

/-- What a step of the handler of `i` does to the handlers. -/
lemma Tracked.advance (h : Tracked ops es net) {e : Event ι} {i : ι} {phase : Phase} {net' : Net ι}
    (hwrite : e.write = i) (hphase : net'.phase = Function.update net.phase i phase)
    (hsuffix : phase.ahead <:+ followers 0)
    (hsent : ∀ j, j ≠ 0 → (j ∉ phase.unsent ↔ j ∉ (net.phase i).unsent ∨ e = .send i j))
    (hprocessed : ∀ j, j ≠ 0 →
      (j ∉ phase.ahead ↔ j ∉ (net.phase i).ahead ∨ e.doneAt j = some i))
    (hfinished : phase.isAnswered ↔ (net.phase i).isAnswered ∨ e.doneAt 0 = some i)
    (hnew : ∀ s, e.doneAt s = some i → i ∉ order s es)
    (hlooping : ∀ js request, phase = .looping js request →
      request.write = ops i ∧ request.isClient = true)
    (hcounter : ∀ j js request, phase = .sent j js request →
      request.write = ops i ∧ request.isClient = false ∧
        request.counter = repliesBefore i j (es ++ [e]) + 1)
    (hreplied : ∀ j js request, phase = .replied j js request → request.write = ops i) :
    Tracked ops (es ++ [e]) net' := by
  have hself : net'.phase i = phase := by rw [hphase, Function.update_self]
  have hother : ∀ k, k ≠ i → net'.phase k = net.phase k := fun k hk => by
    rw [hphase, Function.update_of_ne hk]
  have hdone : ∀ s k, k ≠ i → e.doneAt s ≠ some k := fun s k hk hs =>
    hk ((write_of_doneAt hs).symm.trans hwrite)
  constructor
  case suffix =>
    intro k
    by_cases hki : k = i
    · rw [hki, hself]
      exact hsuffix
    · rw [hother k hki]
      exact h.suffix k
  case sent =>
    intro k j hj
    rw [List.mem_append, List.mem_singleton]
    by_cases hki : k = i
    · rw [hki, hself, hsent j hj, h.sent i j hj, eq_comm]
    · have hne : Event.send k j ≠ e := by
        rintro rfl
        exact hki hwrite
      rw [hother k hki, h.sent k j hj, or_iff_left hne]
  case processed =>
    intro k j hj
    rw [mem_order_concat]
    by_cases hki : k = i
    · rw [hki, hself, hprocessed j hj, h.processed i j hj]
    · rw [hother k hki, h.processed k j hj, or_iff_left (hdone j k hki)]
  case finished =>
    intro k
    rw [mem_order_concat]
    by_cases hki : k = i
    · rw [hki, hself, hfinished, h.finished i]
    · rw [hother k hki, h.finished k, or_iff_left (hdone 0 k hki)]
  case nodup =>
    intro s
    rw [order_concat]
    cases hs : e.doneAt s with
    | none => simpa using h.nodup s
    | some k =>
      obtain rfl : k = i := (write_of_doneAt hs).symm.trans hwrite
      exact List.nodup_append.mpr ⟨h.nodup s, List.nodup_singleton k, fun a ha b hb => by
        rw [Option.toList_some, List.mem_singleton] at hb
        rintro rfl
        exact hnew s hs (hb ▸ ha)⟩
  case looping =>
    intro k js request hk
    by_cases hki : k = i
    · subst hki
      exact hlooping js request (hself.symm.trans hk)
    · exact h.looping k js request ((hother k hki).symm.trans hk)
  case counter =>
    intro k j js request hk
    by_cases hki : k = i
    · subst hki
      exact hcounter j js request (hself.symm.trans hk)
    · have hold := (hother k hki).symm.trans hk
      obtain ⟨hop, hclient, hcount⟩ := h.counter k j js request hold
      have hsuffix' : j :: js <:+ followers 0 := by
        have := h.suffix k
        rwa [hold] at this
      have hj : j ≠ 0 := ne_zero_of_mem_followers (hsuffix'.subset List.mem_cons_self)
      have hmem : .send k j ∈ es := (h.sent k j hj).mpr (by
        rw [hold]
        exact not_mem_of_cons_suffix hsuffix')
      exact ⟨hop, hclient, by rw [hcount, repliesBefore_concat_of_mem hmem]⟩
  case replied =>
    intro k j js request hk
    by_cases hki : k = i
    · subst hki
      exact hreplied j js request (hself.symm.trans hk)
    · exact h.replied k j js request ((hother k hki).symm.trans hk)

/-- A request is sent with the counter that comes after the replies so far. -/
lemma Tracked.send (h : Tracked ops es net) {i : ι} {j : ServerId} {js : List ServerId}
    {request : Request} (hphase : net.phase i = .looping (j :: js) request)
    (hreplies : (net.server 0).counter = es.countP Event.isReceive) :
    Tracked ops (es ++ [.send i j])
      (net.goto i (.sent j js (request.sentBy (net.server 0)))) := by
  have hsuffix : j :: js <:+ followers 0 := by
    have := h.suffix i
    rwa [hphase] at this
  have hnot : .send i j ∉ es := by
    rw [h.sent i j (ne_zero_of_mem_followers (hsuffix.subset List.mem_cons_self)), hphase]
    exact not_not.mpr List.mem_cons_self
  refine h.advance (i := i) rfl rfl hsuffix ?_ ?_ ?_ ?_ ?_ ?_ ?_
  · intro j' _
    rw [hphase]
    by_cases hjj : j' = j
    · subst hjj
      simp [Phase.unsent, not_mem_of_cons_suffix hsuffix]
    · simp [Phase.unsent, hjj, Ne.symm hjj]
  · intro j' _
    rw [hphase]
    simp [Phase.ahead, Event.doneAt]
  · rw [hphase]
    simp [Phase.isAnswered, Event.doneAt]
  · intro s hs
    cases hs
  · intro js' request' hk
    cases hk
  · intro j' js' request' hk
    cases hk
    exact ⟨(h.looping i _ _ hphase).1, rfl, by rw [repliesBefore_concat_send hnot, ← hreplies]; rfl⟩
  · intro j' js' request' hk
    cases hk

/-- A follower processes a request that has been sent to it. -/
lemma Tracked.process (h : Tracked ops es net) {i : ι} {j : ServerId} {js : List ServerId}
    {request : Request} (hphase : net.phase i = .sent j js request) {net' : Net ι}
    (hphase' : net'.phase = Function.update net.phase i (.replied j js request)) :
    Tracked ops (es ++ [.process i j]) net' := by
  have hsuffix : j :: js <:+ followers 0 := by
    have := h.suffix i
    rwa [hphase] at this
  have hj : j ≠ 0 := ne_zero_of_mem_followers (hsuffix.subset List.mem_cons_self)
  refine h.advance (i := i) rfl hphase' ((List.suffix_cons j js).trans hsuffix)
    ?_ ?_ ?_ ?_ ?_ ?_ ?_
  · intro j' _
    rw [hphase]
    simp [Phase.unsent]
  · intro j' _
    rw [hphase]
    by_cases hjj : j' = j
    · subst hjj
      simp [Phase.ahead, Event.doneAt, not_mem_of_cons_suffix hsuffix]
    · simp [Phase.ahead, Event.doneAt, hjj, Ne.symm hjj]
  · rw [hphase]
    simp [Phase.isAnswered, Event.doneAt, hj]
  · intro s hs
    have hsj : j = s := by
      by_contra hne
      simp [Event.doneAt, hne] at hs
    rw [← hsj, h.processed i j hj, hphase]
    exact not_not.mpr List.mem_cons_self
  · intro js' request' hk
    cases hk
  · intro j' js' request' hk
    cases hk
  · intro j' js' request' hk
    cases hk
    exact (h.counter i _ _ _ hphase).1

/-- The leader receives a reply. -/
lemma Tracked.receive (h : Tracked ops es net) {i : ι} {j : ServerId} {js : List ServerId}
    {request : Request} (hphase : net.phase i = .replied j js request) {net' : Net ι}
    (hphase' : net'.phase =
      Function.update net.phase i (.looping js { request with isClient := true })) :
    Tracked ops (es ++ [.receive i j]) net' := by
  have hsuffix : js <:+ followers 0 := by
    have := h.suffix i
    rwa [hphase] at this
  refine h.advance (i := i) rfl hphase' hsuffix ?_ ?_ ?_ ?_ ?_ ?_ ?_
  · intro j' _
    rw [hphase]
    simp [Phase.unsent]
  · intro j' _
    rw [hphase]
    simp [Phase.ahead, Event.doneAt]
  · rw [hphase]
    simp [Phase.isAnswered, Event.doneAt]
  · intro s hs
    cases hs
  · intro js' request' hk
    cases hk
    exact ⟨h.replied i j js request hphase, rfl⟩
  · intro j' js' request' hk
    cases hk
  · intro j' js' request' hk
    cases hk

/-- The leader finishes a request behind the loop. -/
lemma Tracked.finish (h : Tracked ops es net) {i : ι} {request : Request} {response : Response}
    (hphase : net.phase i = .looping [] request) {net' : Net ι}
    (hphase' : net'.phase = Function.update net.phase i (.answered response)) :
    Tracked ops (es ++ [.finish i]) net' := by
  refine h.advance (i := i) rfl hphase' List.nil_suffix ?_ ?_ ?_ ?_ ?_ ?_ ?_
  · intro j' _
    rw [hphase]
    simp [Phase.unsent]
  · intro j' hj'
    rw [hphase]
    simp [Phase.ahead, Event.doneAt, hj']
  · rw [hphase]
    simp [Phase.isAnswered, Event.doneAt]
  · intro s hs
    have hs0 : s = 0 := by
      by_contra hne
      simp [Event.doneAt, hne] at hs
    rw [hs0, h.finished i, hphase]
    exact id
  · intro js' request' hk
    cases hk
  · intro j' js' request' hk
    cases hk
  · intro j' js' request' hk
    cases hk

/-- What comes later does not change whether a write has been spaced from those before it. -/
lemma Tracked.spaced_concat (h : Tracked ops es net) {e : Event ι} {i : ι} {j : ServerId}
    (hj : j ≠ 0) (hi : i ∈ order j es) (hnodup : (order j (es ++ [e])).Nodup) :
    Spaced (es ++ [e]) j i ↔ Spaced es j i := by
  have hpair : ∀ a, [a, i] <+ order j (es ++ [e]) ↔ [a, i] <+ order j es := by
    intro a
    rw [order_concat] at hnodup ⊢
    cases hs : e.doneAt j with
    | none => simp
    | some k =>
      rw [hs] at hnodup
      have hne : i ≠ k := by
        rintro rfl
        exact (List.nodup_append.mp hnodup).2.2 i hi i (by simp) rfl
      rw [Option.toList_some, pair_sublist_concat, or_iff_left fun hk => hne hk.2]
  unfold Spaced
  refine forall_congr' fun a => ?_
  rw [hpair a]
  refine imp_congr_right fun ha => ?_
  rw [repliesBefore_concat_of_mem (h.send_mem hj (ha.subset (by simp))),
    repliesBefore_concat_of_mem (h.send_mem hj hi)]

/-- Steps in which the servers perform nothing keep what they have. -/
lemma Kept.quiet (hk : Kept ops db es net) (h : Tracked ops es net) {e : Event ι}
    (hdone : ∀ s, e.doneAt s = none) {net' : Net ι} (h' : Tracked ops (es ++ [e]) net')
    (hperformed : net'.performed = net.performed)
    (hserver : ∀ j, j ≠ 0 → net'.server j = net.server j)
    (hdb : (net'.server 0).db = (net.server 0).db)
    (hcount : (net'.server 0).counter = (net.server 0).counter + if e.isReceive then 1 else 0) :
    Kept ops db (es ++ [e]) net' := by
  have horder : ∀ s, order s (es ++ [e]) = order s es := fun s => by
    rw [order_concat, hdone s, Option.toList_none, List.append_nil]
  constructor
  case replies =>
    rw [hcount, hk.replies, List.countP_append]
    simp [List.countP_cons]
  case seen =>
    intro j hj n
    rw [hserver j hj, hk.seen j hj n, horder j]
    refine exists_congr fun a => and_congr_right fun ha => ?_
    rw [repliesBefore_concat_of_mem (h.send_mem hj ha)]
  case performed =>
    intro j hj i hi
    rw [horder j] at hi
    rw [hperformed, h.spaced_concat hj hi (h'.nodup j)]
    exact hk.performed j hj i hi
  case sublist =>
    intro s
    rw [hperformed, horder s]
    exact hk.sublist s
  case leader =>
    rw [hperformed, horder 0]
    exact hk.leader
  case db =>
    intro s
    rw [hperformed, ← hk.db s]
    by_cases hs : s = 0
    · rw [hs, hdb]
    · rw [hserver s hs]

/-- A request that is on its way has been sent. -/
lemma Tracked.send_mem_of_sent (h : Tracked ops es net) {i : ι} {j : ServerId}
    {js : List ServerId} {request : Request} (hphase : net.phase i = .sent j js request) :
    j ≠ 0 ∧ .send i j ∈ es := by
  have hsuffix : j :: js <:+ followers 0 := by
    have := h.suffix i
    rwa [hphase] at this
  have hj : j ≠ 0 := ne_zero_of_mem_followers (hsuffix.subset List.mem_cons_self)
  refine ⟨hj, (h.sent i j hj).mpr ?_⟩
  rw [hphase]
  exact not_mem_of_cons_suffix hsuffix

/-- A follower that comes to a write performs it when its counter is not greater than the number of
replies before the write was sent, and keeps the greater counter. -/
lemma Tracked.follow (h : Tracked ops es net) {i : ι} {j : ServerId} {js : List ServerId}
    {request : Request} (hphase : net.phase i = .sent j js request) :
    ((net.server j).follow request).counter =
        max (net.server j).counter (repliesBefore i j es + 1) ∧
      if repliesBefore i j es < (net.server j).counter then
        ((net.server j).follow request).db = (net.server j).db ∧
          (net.note j i request).performed j = net.performed j
      else
        ((net.server j).follow request).db = (ops i).apply (net.server j).db ∧
          (net.note j i request).performed j = net.performed j ++ [i] := by
  obtain ⟨hop, hclient, hcounter⟩ := h.counter i j js request hphase
  unfold Net.note Params.drops
  by_cases hlt : repliesBefore i j es < (net.server j).counter
  · have hle : request.counter ≤ (net.server j).counter := by omega
    rw [if_pos hlt, Params.follow_of_le hclient hle, if_pos (by simp [hclient, hle])]
    exact ⟨(max_eq_left hlt).symm, rfl, rfl⟩
  · have hgt : (net.server j).counter < request.counter := by omega
    rw [if_neg hlt, Params.follow_of_lt hclient hgt, if_neg (by simp [hclient, hgt]), hop]
    refine ⟨?_, rfl, Function.update_self ..⟩
    rw [← hcounter]
    exact (max_eq_right hgt.le).symm

/-- A follower that comes to a write has not come to it before. -/
lemma Tracked.notMem_order (h : Tracked ops es net) {i : ι} {j : ServerId} {js : List ServerId}
    {request : Request} (hphase : net.phase i = .sent j js request) : i ∉ order j es := by
  rw [h.processed i j (h.send_mem_of_sent hphase).1, hphase]
  exact not_not.mpr List.mem_cons_self

omit [DecidableEq ι] in
/-- A follower comes to a write behind all that it has come to before. -/
lemma order_process (i : ι) (j : ServerId) (es : List (Event ι)) :
    order j (es ++ [.process i j]) = order j es ++ [i] := by
  rw [order_concat]
  simp [Event.doneAt]

/-- A write that a follower comes to is spaced from the others when the counter of the follower is
not too great. -/
lemma Kept.spaced_iff (hk : Kept ops db es net) (h : Tracked ops es net) {i : ι} {j : ServerId}
    {js : List ServerId} {request : Request} (hphase : net.phase i = .sent j js request) :
    Spaced (es ++ [.process i j]) j i ↔ ¬ repliesBefore i j es < (net.server j).counter := by
  obtain ⟨hj, hsend⟩ := h.send_mem_of_sent hphase
  have hnew := h.notMem_order hphase
  have hsettled : ∀ {a}, a ∈ order j es →
      repliesBefore a j (es ++ [.process i j]) = repliesBefore a j es := fun ha =>
    repliesBefore_concat_of_mem (h.send_mem hj ha) _
  rw [hk.seen j hj]
  unfold Spaced
  rw [order_process, repliesBefore_concat_of_mem hsend (.process i j)]
  push Not
  refine forall_congr' fun a => ?_
  rw [pair_sublist_concat, or_iff_right fun hpair => hnew (hpair.subset (by simp))]
  constructor
  · intro hrest ha
    rw [← hsettled ha]
    exact hrest ⟨ha, rfl⟩
  · rintro hrest ⟨ha, -⟩
    rw [hsettled ha]
    exact hrest ha

/-- Steps in which a follower processes a request keep what the servers have. -/
lemma Kept.process (hk : Kept ops db es net) (h : Tracked ops es net) {i : ι} {j : ServerId}
    {js : List ServerId} {request : Request} (hphase : net.phase i = .sent j js request)
    {phase : Phase}
    (h' : Tracked ops (es ++ [.process i j])
      (((net.note j i request).set j ((net.server j).follow request)).goto i phase)) :
    Kept ops db (es ++ [.process i j])
      (((net.note j i request).set j ((net.server j).follow request)).goto i phase) := by
  obtain ⟨hj, hsend⟩ := h.send_mem_of_sent hphase
  obtain ⟨hcounter, hfollow⟩ := h.follow hphase
  have hnew := h.notMem_order hphase
  have horder := order_process i j es
  have hother : ∀ s, s ≠ j → order s (es ++ [.process i j]) = order s es := fun s hs => by
    rw [order_concat]
    simp [Event.doneAt, hs.symm]
  have hperformed : ∀ s, s ≠ j → (net.note j i request).performed s = net.performed s :=
    fun s hs => by
      unfold Net.note
      split_ifs
      · rfl
      · exact Function.update_of_ne hs ..
  have hsettled : ∀ {a s}, s ≠ 0 → a ∈ order s es →
      repliesBefore a s (es ++ [.process i j]) = repliesBefore a s es := fun hs ha =>
    repliesBefore_concat_of_mem (h.send_mem hs ha) _
  have hsettled_i := repliesBefore_concat_of_mem hsend (.process i j)
  have hspaced := hk.spaced_iff h hphase
  constructor
  case replies =>
    rw [server_goto, server_net_set, Function.update_of_ne hj.symm, server_note, hk.replies,
      List.countP_append]
    rfl
  case seen =>
    intro k hk0 n
    rw [server_goto, server_net_set, server_note]
    by_cases hkj : k = j
    · subst hkj
      rw [Function.update_self, hcounter, lt_max_iff, hk.seen k hj n, Nat.lt_succ_iff, horder]
      constructor
      · rintro (⟨a, ha, hn⟩ | hn)
        · exact ⟨a, List.mem_append_left _ ha, by rwa [hsettled hj ha]⟩
        · exact ⟨i, by simp, by rwa [hsettled_i]⟩
      · rintro ⟨a, ha, hn⟩
        rcases List.mem_append.mp ha with ha | ha
        · exact .inl ⟨a, ha, by rwa [hsettled hj ha] at hn⟩
        · rw [List.mem_singleton.mp ha, hsettled_i] at hn
          exact .inr hn
    · rw [Function.update_of_ne hkj, hk.seen k hk0 n, hother k hkj]
      refine exists_congr fun a => and_congr_right fun ha => ?_
      rw [hsettled hk0 ha]
  case performed =>
    intro k hk0 a ha
    change a ∈ (net.note j i request).performed k ↔ _
    by_cases hkj : k = j
    · subst hkj
      rw [horder] at ha
      rcases List.mem_append.mp ha with ha | ha
      · rw [h.spaced_concat hj ha (h'.nodup k), ← hk.performed k hj a ha]
        have hne : a ≠ i := ne_of_mem_of_not_mem ha hnew
        split_ifs at hfollow
        · rw [hfollow.2]
        · rw [hfollow.2]
          simp [hne]
      · rw [List.mem_singleton.mp ha, hspaced]
        split_ifs at hfollow with hlt
        · rw [hfollow.2]
          exact iff_of_false (fun hi => hnew ((hk.sublist k).subset hi)) (not_not.mpr hlt)
        · rw [hfollow.2]
          exact iff_of_true (by simp) hlt
    · rw [hperformed k hkj]
      rw [hother k hkj] at ha
      rw [h.spaced_concat hk0 ha (h'.nodup k)]
      exact hk.performed k hk0 a ha
  case sublist =>
    intro s
    change (net.note j i request).performed s <+ _
    by_cases hs : s = j
    · subst hs
      rw [horder]
      split_ifs at hfollow
      · rw [hfollow.2]
        exact (hk.sublist s).trans (List.sublist_append_left _ _)
      · rw [hfollow.2]
        exact (hk.sublist s).append (List.Sublist.refl [i])
    · rw [hperformed s hs, hother s hs]
      exact hk.sublist s
  case leader =>
    change (net.note j i request).performed 0 = _
    rw [hperformed 0 hj.symm, hother 0 hj.symm]
    exact hk.leader
  case db =>
    intro s
    rw [server_goto, server_net_set, server_note]
    change _ = ((net.note j i request).performed s).foldl _ _
    by_cases hs : s = j
    · subst hs
      rw [Function.update_self]
      split_ifs at hfollow
      · rw [hfollow.1, hfollow.2]
        exact hk.db s
      · rw [hfollow.1, hfollow.2, List.foldl_append, ← hk.db s]
        rfl
    · rw [Function.update_of_ne hs, hperformed s hs]
      exact hk.db s

/-- The leader performs a write that it comes to. -/
lemma Kept.finish (hk : Kept ops db es net) (h : Tracked ops es net) {i : ι} {request : Request}
    (hphase : net.phase i = .looping [] request) {phase : Phase}
    (h' : Tracked ops (es ++ [.finish i])
      (((net.note 0 i request).set 0 ((net.server 0).complete request)).goto i phase)) :
    Kept ops db (es ++ [.finish i])
      (((net.note 0 i request).set 0 ((net.server 0).complete request)).goto i phase) := by
  obtain ⟨hop, hclient⟩ := h.looping i [] request hphase
  have hnote : net.note 0 i request =
      { net with performed := Function.update net.performed 0 (net.performed 0 ++ [i]) } :=
    if_neg (by simp [Params.drops, hclient])
  have hcomplete : (net.server 0).complete request =
      { net.server 0 with db := (ops i).apply (net.server 0).db } := by
    rw [Params.complete, if_neg (by simp [hclient]), if_pos hclient, hop]
  have hleader : order 0 (es ++ [.finish i]) = order 0 es ++ [i] := by
    rw [order_concat]
    rfl
  have hother : ∀ s, s ≠ 0 → order s (es ++ [.finish i]) = order s es := fun s hs => by
    rw [order_concat]
    simp [Event.doneAt, hs]
  rw [hnote, hcomplete] at h' ⊢
  constructor
  case replies =>
    rw [server_goto, server_net_set, Function.update_self, List.countP_append]
    exact hk.replies
  case seen =>
    intro j hj n
    rw [server_goto, server_net_set, Function.update_of_ne hj, hk.seen j hj n, hother j hj]
    refine exists_congr fun a => and_congr_right fun ha => ?_
    rw [repliesBefore_concat_of_mem (h.send_mem hj ha)]
  case performed =>
    intro j hj a ha
    change a ∈ Function.update net.performed 0 _ j ↔ _
    rw [Function.update_of_ne hj]
    rw [hother j hj] at ha
    rw [h.spaced_concat hj ha (h'.nodup j)]
    exact hk.performed j hj a ha
  case sublist =>
    intro s
    change Function.update net.performed 0 _ s <+ _
    by_cases hs : s = 0
    · rw [hs, Function.update_self, hleader, hk.leader]
    · rw [Function.update_of_ne hs, hother s hs]
      exact hk.sublist s
  case leader =>
    change Function.update net.performed 0 (net.performed 0 ++ [i]) 0 = _
    rw [Function.update_self, hleader, hk.leader]
  case db =>
    intro s
    rw [server_goto, server_net_set]
    change _ = (Function.update net.performed 0 _ s).foldl _ _
    by_cases hs : s = 0
    · rw [hs, Function.update_self, Function.update_self, List.foldl_append, ← hk.db 0]
      rfl
    · rw [Function.update_of_ne hs, Function.update_of_ne hs]
      exact hk.db s

/-- At the start there is nothing to keep. -/
lemma tracked_start (ops : ι → Write) (db : Db) :
    Tracked ops [] (.start ops db) ∧ Kept ops db [] (.start ops db) := by
  constructor
  · constructor
    case suffix => exact fun _ => List.suffix_rfl
    case sent =>
      intro i j hj
      exact iff_of_false List.not_mem_nil (not_not.mpr (mem_followers.mpr (Fin.pos_of_ne_zero hj)))
    case processed =>
      intro i j hj
      exact iff_of_false List.not_mem_nil (not_not.mpr (mem_followers.mpr (Fin.pos_of_ne_zero hj)))
    case finished =>
      intro i
      exact iff_of_false List.not_mem_nil id
    case nodup => exact fun _ => List.nodup_nil
    case looping =>
      intro i js request h
      cases h
      exact ⟨rfl, rfl⟩
    case counter =>
      intro i j js request h
      cases h
    case replied =>
      intro i j js request h
      cases h
  · constructor
    case replies => rfl
    case seen =>
      intro j _ n
      exact iff_of_false (Nat.not_lt_zero n) (by simp [order])
    case performed => exact fun j _ i hi => absurd hi List.not_mem_nil
    case sublist => exact fun _ => List.nil_sublist _
    case leader => rfl
    case db => exact fun _ => rfl

/-- Every step keeps what is kept of the steps before it. -/
lemma tracked_step (h : Tracked ops es net) (hk : Kept ops db es net) {e : Event ι} {net' : Net ι}
    (he : step e net = .ok ((), net')) :
    Tracked ops (es ++ [e]) net' ∧ Kept ops db (es ++ [e]) net' := by
  cases e with
  | send i j =>
    obtain ⟨js, request, hphase, rfl⟩ := eq_of_send he
    have h' := h.send hphase hk.replies
    exact ⟨h', hk.quiet h (fun _ => rfl) h' rfl (fun _ _ => rfl) rfl rfl⟩
  | process i j =>
    obtain ⟨js, request, hphase, rfl⟩ := eq_of_process he
    have h' := h.process hphase (phase_note_set_goto net j i request
      ((net.server j).follow request) _)
    exact ⟨h', hk.process h hphase h'⟩
  | receive i j =>
    obtain ⟨js, request, hphase, rfl⟩ := eq_of_receive he
    have h' : Tracked ops (es ++ [.receive i j]) ((net.set 0 (net.server 0).counted).goto i
        (.looping js { request with isClient := true })) := h.receive hphase rfl
    exact ⟨h', hk.quiet h (fun _ => rfl) h' rfl (fun k hk0 => Function.update_of_ne hk0 ..) rfl rfl⟩
  | finish i =>
    obtain ⟨request, hphase, rfl⟩ := eq_of_finish he
    have h' := h.finish hphase (phase_note_set_goto net 0 i request
      ((net.server 0).complete request) (.answered ((net.server 0).answer request)))
    exact ⟨h', hk.finish h hphase h'⟩

/-- Every run keeps track. -/
theorem tracked_run (hrun : Foundation.run step es (.start ops db) = .ok net) :
    Tracked ops es net ∧ Kept ops db es net :=
  run_history (P := fun es net => Tracked ops es net ∧ Kept ops db es net) (tracked_start ops db)
    (fun _ _ _ _ _ _ hP _ he => tracked_step hP.1 hP.2 he) (guarded_true es _) hrun

/-- All servers have come to a write that has been answered. -/
lemma Tracked.mem_order_of_answered (h : Tracked ops es net) {i : ι}
    (hi : (net.phase i).isAnswered) (s : ServerId) : i ∈ order s es := by
  by_cases hs : s = 0
  · rw [hs]
    exact (h.finished i).mpr hi
  rw [h.processed i s hs]
  cases hphase : net.phase i with
  | answered r => exact List.not_mem_nil
  | looping | sent | replied =>
    rw [hphase] at hi
    exact hi.elim

/-! ## Lost writes -/

/-- In every run, all answered writes have been performed by all servers if and only if each of them
is spaced at both followers: whenever a follower has come to another write first, the leader has
received a reply between sending the two to it. -/
theorem answered_performed_iff (hrun : Foundation.run step es (.start ops db) = .ok net) :
    (∀ i, (net.phase i).isAnswered → ∀ s, i ∈ net.performed s) ↔
      ∀ i ∈ order 0 es, ∀ j, j ≠ 0 → Spaced es j i := by
  obtain ⟨h, hk⟩ := tracked_run hrun
  constructor
  · intro hall i hi j hj
    have hanswered := (h.finished i).mp hi
    exact (hk.performed j hj i (h.mem_order_of_answered hanswered j)).mp (hall i hanswered j)
  · intro hall i hi s
    by_cases hs : s = 0
    · rw [hs, hk.leader]
      exact (h.finished i).mpr hi
    · exact (hk.performed s hs i (h.mem_order_of_answered hi s)).mpr
        (hall i ((h.finished i).mpr hi) s hs)

end Runs

/-- Two handlers. -/
inductive Handler where
  | first
  | second
deriving DecidableEq

/-- The writes of two handlers. -/
def twoWrites (a b : Write) : Handler → Write
  | .first => a
  | .second => b

/-- Two handlers take turns: each sends its next request when the other one has got its reply. -/
def takingTurns : List (Event Handler) :=
  [.send .first 1, .process .first 1, .receive .first 1, .send .second 1, .process .second 1,
    .receive .second 1, .send .first 2, .process .first 2, .receive .first 2, .send .second 2,
    .process .second 2, .receive .second 2, .finish .second, .finish .first]

/-- Their writes overlap in time, and are performed by all servers. -/
theorem answered_performed_takingTurns : ∃ net, Foundation.run step takingTurns
      (.start (twoWrites (.register "ann" "x") (.register "bob" "y")) ⟨∅, fun _ => []⟩) =
        .ok net ∧
    ∀ i, (net.phase i).isAnswered → ∀ s, i ∈ net.performed s := by
  have hrun : Foundation.run step takingTurns
      (.start (twoWrites (.register "ann" "x") (.register "bob" "y")) ⟨∅, fun _ => []⟩) =
        .ok _ := rfl
  have hspaced : ∀ i a, ∀ j : ServerId, j ≠ 0 → [a, i] <+ order j takingTurns →
      repliesBefore a j takingTurns < repliesBefore i j takingTurns := by
    rintro (_ | _) (_ | _) <;> decide
  exact ⟨_, hrun, (answered_performed_iff hrun).mpr fun i _ j hj a => hspaced i a j hj⟩

/-- Two handlers send their requests to server 1 before either of them has received a reply. -/
def overlapping : List (Event Handler) :=
  [.send .first 1, .send .second 1, .process .first 1, .process .second 1, .receive .first 1,
    .receive .second 1, .send .first 2, .process .first 2, .receive .first 2, .send .second 2,
    .process .second 2, .receive .second 2, .finish .first, .finish .second]

/-- Both clients are answered that they have been registered, but server 1 has never heard of the
second one. -/
theorem overlapping_loses_write :
    ∃ net, Foundation.run step overlapping
        (.start (twoWrites (.register "ann" "x") (.register "bob" "y")) ⟨∅, fun _ => []⟩) =
          .ok net ∧
      (net.phase .second).isAnswered ∧ .second ∉ net.performed 1 ∧
      (net.server 1).db.passwords["bob"]? = none := by
  refine ⟨_, rfl, trivial, by decide, rfl⟩

end Chat262.Replication
