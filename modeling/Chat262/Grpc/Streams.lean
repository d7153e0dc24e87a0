import Chat262.Foundation.PartialRun
import Chat262.Grpc.Persistence

/-!
# Several streams of one mailbox

Any number of `ReceiveMessage` streams, each of which is resumed now and then, with the other
methods called in between.  A stream reads the first message of the mailbox, is suspended at the
`yield`, and removes the first message when it is resumed, so a second stream of the same user that
starts meanwhile reads the same message, and removes another one.

Messages are told apart by their numbers: the `n`-th message of a mailbox is the one that was
accepted after `n` others.  As they are only removed at the front, the first message that is there
has as its number how many have been removed.  `delivered_iff` says when all streams together
deliver the mailbox: exactly when no stream of the user starts while another one is suspended at the
`yield`.
-/

namespace Chat262.Grpc

open Foundation

/-! ## Interleavings -/

/-- The server with the streams that clients have open. -/
structure World where
  /-- `db`. -/
  db : Db
  streams : ℕ → Stream
  /-- The messages that were there at the beginning or have been accepted since, for each user. -/
  accepted : String → List SendRequest
  /-- How many messages have been removed from the mailbox of each user. -/
  removed : String → ℕ
  /-- The messages that the streams of each user have yielded, with their numbers. -/
  yielded : String → List (ℕ × ChatMessage)

/-- Streams that have not been started, of a server with the database `db`. -/
def World.start (db : Db) : World := ⟨db, fun _ => .created, db.messages, fun _ => 0, fun _ => []⟩

/-- What can happen next. -/
inductive Event where
  /-- Another method than `ReceiveMessage` is called and answers. -/
  | call (call : Call)
  /-- A stream runs to its next `yield` or to its end. -/
  | resume (k : ℕ)
deriving DecidableEq, Repr

/-- The messages that a call has accepted for the user `r`, by its answer. -/
def Call.acceptedFor (r : String) (call : Call) (db : Db) : List SendRequest :=
  match call with
  | .sendMessage request =>
    if (Grpc.sendMessage request db).reply.success ∧ request.receiver = r then [request] else []
  | _ => []

/-- One step; the stream `k` is a call of `ReceiveMessage` for `user k`. -/
def step (user : ℕ → String) (e : Event) (w : World) : Except Unit (Unit × World) :=
  match e with
  | .call (.receiveMessage _) => .error ()
  | .call call => .ok ((), { w with
      db := (call.perform w.db).db
      accepted := fun r => w.accepted r ++ call.acceptedFor r w.db })
  | .resume k =>
    let r := user k
    let out := resume r (w.streams k) w.db
    let removed := w.removed r + ((w.db.messages r).length - (out.db.messages r).length)
    .ok ((), { w with
      db := out.db
      streams := Function.update w.streams k out.stream
      removed := Function.update w.removed r removed
      yielded := Function.update w.yielded r
        (w.yielded r ++ (out.yielded.map fun m => (removed, m)).toList) })

/-- The numbers of the messages that the streams of the user `r` have yielded. -/
def World.numbers (w : World) (r : String) : List ℕ := (w.yielded r).map Prod.fst

/-- The streams of the user `r` have delivered the mailbox: none has failed, the messages that have
been removed are those that have been yielded, once each and in order, and the others are still in
the database. -/
structure Delivered (user : ℕ → String) (r : String) (w : World) : Prop where
  /-- No stream has failed with an `IndexError`. -/
  noError : ∀ k, user k = r → w.streams k ≠ .raised
  /-- The messages up to the last one removed have been yielded, once each and in order. -/
  yieldedOnce : w.numbers r = List.range (w.removed r)
  /-- A message is yielded as it has been accepted. -/
  contents : ∀ n m, (n, m) ∈ w.yielded r →
    ∃ request, (w.accepted r)[n]? = some request ∧ m = ⟨request.sender, request.body⟩
  /-- The other messages are in the mailbox. -/
  pending : w.db.messages r = (w.accepted r).drop (w.removed r)

/-- A stream of the user `r` is suspended at its `yield`. -/
def World.Suspended (user : ℕ → String) (r : String) (w : World) : Prop :=
  ∃ k left, user k = r ∧ w.streams k = .atYield left

/-- The event does not start a stream of the user `r` while another one is suspended. -/
def StartsAlone (user : ℕ → String) (r : String) (e : Event) (w : World) : Prop :=
  ∀ k, e = .resume k → user k = r → w.streams k = .created → ¬ w.Suspended user r

/-! ## What resuming a stream does -/

/-- What a stream of the user `r` does when it is resumed: `Resumes r db stream out` lists the ways
in which `resume` leads to `out`. -/
inductive Resumes (r : String) (db : Db) : Stream → Resumed → Prop
  | done {stream : Stream} (hdone : stream = .ended ∨ stream = .raised) :
      Resumes r db stream ⟨stream, none, db, []⟩
  | startEmpty (hbox : db.messages r = []) : Resumes r db .created ⟨.ended, none, db, []⟩
  /-- It starts and yields the first message. -/
  | start {m : SendRequest} {rest : List SendRequest} (hbox : db.messages r = m :: rest) :
      Resumes r db .created ⟨.atYield rest.length, some ⟨m.sender, m.body⟩, db, []⟩
  | failPop {left : ℕ} (hbox : db.messages r = []) :
      Resumes r db (.atYield left) ⟨.raised, none, db, []⟩
  | finish {m : SendRequest} {rest : List SendRequest} (hbox : db.messages r = m :: rest) :
      Resumes r db (.atYield 0) ⟨.ended, none,
        { db with messages := Function.update db.messages r rest },
        [{ db with messages := Function.update db.messages r rest }]⟩
  /-- It removes the first message and finds no other one. -/
  | failRead {left : ℕ} {m : SendRequest} (hbox : db.messages r = [m]) :
      Resumes r db (.atYield (left + 1)) ⟨.raised, none,
        { db with messages := Function.update db.messages r [] },
        [{ db with messages := Function.update db.messages r [] }]⟩
  /-- It removes the first message and yields the next one. -/
  | next {left : ℕ} {m m' : SendRequest} {rest : List SendRequest}
      (hbox : db.messages r = m :: m' :: rest) :
      Resumes r db (.atYield (left + 1)) ⟨.atYield left, some ⟨m'.sender, m'.body⟩,
        { db with messages := Function.update db.messages r (m' :: rest) },
        [{ db with messages := Function.update db.messages r (m' :: rest) }]⟩

/-- Resuming a stream does one of these. -/
lemma resumes_resume (r : String) (stream : Stream) (db : Db) :
    Resumes r db stream (resume r stream db) := by
  cases stream with
  | ended => exact .done (.inl rfl)
  | raised => exact .done (.inr rfl)
  | created =>
    cases hbox : db.messages r with
    | nil =>
      have h : resume r .created db = ⟨.ended, none, db, []⟩ := by simp [resume, loopHead, hbox]
      exact h ▸ .startEmpty hbox
    | cons m rest =>
      have h : resume r .created db =
          ⟨.atYield rest.length, some ⟨m.sender, m.body⟩, db, []⟩ := by
        simp [resume, loopHead, hbox]
      exact h ▸ .start hbox
  | atYield left =>
    cases hbox : db.messages r with
    | nil =>
      have h : resume r (.atYield left) db = ⟨.raised, none, db, []⟩ := by simp [resume, hbox]
      exact h ▸ .failPop hbox
    | cons m rest =>
      simp only [resume, hbox]
      cases left with
      | zero => exact .finish hbox
      | succ left =>
        cases rest with
        | nil =>
          simp only [loopHead, Function.update_self]
          exact .failRead hbox
        | cons m' rest =>
          simp only [loopHead, Function.update_self]
          exact .next hbox

/-- Resuming a stream leaves the mailboxes of other users alone. -/
lemma Resumes.messages_of_ne {r r' : String} {db : Db} {stream : Stream} {out : Resumed}
    (h : Resumes r db stream out) (hr : r' ≠ r) : out.db.messages r' = db.messages r' := by
  cases h <;> first | rfl | exact Function.update_of_ne hr _ _

/-! ## The numbers of the messages -/

/-- The mailbox of the user `r` holds the messages that have been accepted and not been removed, and
a message that has been yielded under some number is the one that was accepted under it. -/
structure Tracked (r : String) (w : World) : Prop where
  /-- No more messages have been removed than accepted. -/
  removed_le : w.removed r ≤ (w.accepted r).length
  pending : w.db.messages r = (w.accepted r).drop (w.removed r)
  contents : ∀ n m, (n, m) ∈ w.yielded r →
    ∃ request, (w.accepted r)[n]? = some request ∧ m = ⟨request.sender, request.body⟩

/-- A call other than `ReceiveMessage` appends to a mailbox what it has accepted for it. -/
lemma messages_perform {call : Call} (hcall : ∀ r, call ≠ .receiveMessage r) (db : Db)
    (r : String) : (call.perform db).db.messages r = db.messages r ++ call.acceptedFor r db := by
  cases call with
  | register u p =>
    simp only [Call.perform, Outcome.map, Grpc.register, Call.acceptedFor, List.append_nil]
    split_ifs <;> rfl
  | login u p =>
    simp only [Call.perform, Outcome.map, Grpc.login, Call.acceptedFor, List.append_nil]
    split_ifs <;> rfl
  | deleteAccount u p =>
    simp only [Call.perform, Outcome.map, Grpc.deleteAccount, Call.acceptedFor, List.append_nil]
    split_ifs <;> rfl
  | sendMessage request =>
    simp only [Call.perform, Outcome.map, Grpc.sendMessage, Call.acceptedFor]
    by_cases hknown : request.sender ∈ db.passwords ∧ request.receiver ∈ db.passwords
    · simp only [if_pos hknown, messageAdded, true_and]
      by_cases hr : request.receiver = r
      · subst hr
        simp
      · simp [hr, Function.update_of_ne (Ne.symm hr)]
    · simp [if_neg hknown, unknownUsers]
  | getUsers => simp [Call.perform, Outcome.map, Grpc.getUsers, Call.acceptedFor]
  | receiveMessage r' => exact absurd rfl (hcall r')

/-- The world after a stream of the user `r` has been resumed, which was the `k`-th one. -/
def World.afterResume (w : World) (r : String) (k : ℕ) (out : Resumed) : World :=
  let removed := w.removed r + ((w.db.messages r).length - (out.db.messages r).length)
  { w with
    db := out.db
    streams := Function.update w.streams k out.stream
    removed := Function.update w.removed r removed
    yielded := Function.update w.yielded r
      (w.yielded r ++ (out.yielded.map fun m => (removed, m)).toList) }

/-- A step is a call that appends to mailboxes what it accepts, or resumes a stream. -/
lemma step_cases {user : ℕ → String} {e : Event} {w w' : World} {x : Unit}
    (h : step user e w = .ok (x, w')) :
    (∃ call : Call, e = .call call ∧ (∀ r, call ≠ .receiveMessage r) ∧
      w' = { w with
        db := (call.perform w.db).db
        accepted := fun r => w.accepted r ++ call.acceptedFor r w.db }) ∨
    ∃ k out, e = .resume k ∧ Resumes (user k) w.db (w.streams k) out ∧
      w' = w.afterResume (user k) k out := by
  cases e with
  | call call =>
    left
    cases call with
    | receiveMessage r => cases h
    | _ =>
      cases h
      exact ⟨_, rfl, by simp, rfl⟩
  | resume k =>
    cases h
    exact .inr ⟨k, _, rfl, resumes_resume _ _ _, rfl⟩

section Delivery

variable {user : ℕ → String} {r : String} {e : Event} {w w' : World} {x : Unit}

/-- At the beginning all messages are in the mailbox. -/
lemma tracked_start (db : Db) (r : String) : Tracked r (.start db) :=
  ⟨Nat.zero_le _, rfl, by simp [World.start]⟩

/-- A stream that removes the first message of a mailbox keeps the numbers right. -/
lemma Tracked.pop (h : Tracked r w) {m : SendRequest} {rest : List SendRequest}
    (hbox : w.db.messages r = m :: rest) :
    w.removed r + 1 ≤ (w.accepted r).length ∧
      rest = (w.accepted r).drop (w.removed r + 1) := by
  have hdrop : (w.accepted r).drop (w.removed r) = m :: rest := h.pending.symm.trans hbox
  have hlen := congrArg List.length hdrop
  rw [List.length_drop, List.length_cons] at hlen
  refine ⟨by omega, ?_⟩
  rw [← List.drop_drop, hdrop, List.drop_one, List.tail_cons]

/-- The first message of a mailbox has as its number how many have been removed. -/
lemma Tracked.head (h : Tracked r w) {m : SendRequest} {rest : List SendRequest}
    (hbox : w.db.messages r = m :: rest) : (w.accepted r)[w.removed r]? = some m := by
  have hdrop : (w.accepted r).drop (w.removed r) = m :: rest := h.pending.symm.trans hbox
  rw [← List.head?_drop, hdrop, List.head?_cons]

/-- Resuming a stream that neither removes nor yields a message keeps the numbers right. -/
lemma Tracked.keep (h : Tracked r w) (k : ℕ) (stream : Stream) :
    Tracked r (w.afterResume r k ⟨stream, none, w.db, []⟩) := by
  refine ⟨?_, ?_, ?_⟩
  · simpa [World.afterResume] using h.removed_le
  · simpa [World.afterResume] using h.pending
  · simpa [World.afterResume] using h.contents

/-- Resuming a stream that removes the first message keeps the numbers right, and so does yielding
the message that is the first one then. -/
lemma Tracked.afterPop (h : Tracked r w) {m : SendRequest} {rest : List SendRequest}
    (hbox : w.db.messages r = m :: rest) (k : ℕ) (stream : Stream) {yielded : Option ChatMessage}
    (hyielded : ∀ message ∈ yielded, ∃ m' rest', rest = m' :: rest' ∧
      message = ⟨m'.sender, m'.body⟩) (stored : List Db) :
    Tracked r (w.afterResume r k ⟨stream, yielded,
      { w.db with messages := Function.update w.db.messages r rest }, stored⟩) := by
  obtain ⟨hle, hrest⟩ := h.pop hbox
  have hremoved : w.removed r + ((w.db.messages r).length - rest.length) = w.removed r + 1 := by
    rw [hbox, List.length_cons]
    omega
  refine ⟨?_, ?_, ?_⟩
  · simpa [World.afterResume, hremoved] using hle
  · simpa [World.afterResume, hremoved] using hrest
  · simp only [World.afterResume, Function.update_self, hremoved, List.mem_append,
      Option.mem_toList, Option.map_eq_some_iff, Prod.mk.injEq]
    rintro n message (hold | ⟨message', hnew, rfl, rfl⟩)
    · exact h.contents n message hold
    · obtain ⟨m', rest', hsplit, rfl⟩ := hyielded message' hnew
      refine ⟨m', ?_, rfl⟩
      rw [← List.head?_drop, ← hrest, hsplit, List.head?_cons]

/-- Every step keeps the numbers right. -/
lemma Tracked.step (h : Tracked r w) (hstep : Grpc.step user e w = .ok (x, w')) :
    Tracked r w' := by
  rcases step_cases hstep with ⟨call, rfl, hcall, rfl⟩ | ⟨k, out, rfl, hres, rfl⟩
  · refine ⟨?_, ?_, ?_⟩
    · change w.removed r ≤ (w.accepted r ++ call.acceptedFor r w.db).length
      rw [List.length_append]
      exact Nat.le_add_right_of_le h.removed_le
    · change (call.perform w.db).db.messages r =
        (w.accepted r ++ call.acceptedFor r w.db).drop (w.removed r)
      rw [messages_perform hcall, h.pending, List.drop_append_of_le_length h.removed_le]
    · intro n message hmem
      obtain ⟨request, hrequest, hmessage⟩ := h.contents n message hmem
      obtain ⟨hlt, -⟩ := List.getElem?_eq_some_iff.mp hrequest
      exact ⟨request, (List.getElem?_append_left hlt).trans hrequest, hmessage⟩
  · by_cases hr : user k = r
    · subst hr
      generalize hstream : w.streams k = stream at hres
      cases hres with
      | done hdone => exact h.keep k _
      | startEmpty hbox => exact h.keep k _
      | failPop hbox => exact h.keep k _
      | @start m rest hbox =>
        refine ⟨?_, ?_, ?_⟩
        · simpa [World.afterResume] using h.removed_le
        · simpa [World.afterResume] using h.pending
        · simp only [World.afterResume, Function.update_self, Nat.sub_self, Nat.add_zero,
            Option.map_some, Option.toList_some, List.mem_append, List.mem_singleton,
            Prod.mk.injEq]
          rintro n message (hold | ⟨rfl, rfl⟩)
          · exact h.contents n message hold
          · exact ⟨m, h.head hbox, rfl⟩
      | finish hbox => exact h.afterPop hbox k _ (by simp) _
      | failRead hbox => exact h.afterPop hbox k _ (by simp) _
      | @next left m m' rest hbox =>
        refine h.afterPop hbox k _ ?_ _
        intro message hmessage
        exact ⟨m', rest, rfl, (Option.some.inj hmessage).symm⟩
    · have hne : r ≠ user k := Ne.symm hr
      have hbox := hres.messages_of_ne hne
      refine ⟨?_, ?_, ?_⟩
      · simpa [World.afterResume, Function.update_of_ne hne] using h.removed_le
      · simpa [World.afterResume, Function.update_of_ne hne, hbox] using h.pending
      · simpa [World.afterResume, Function.update_of_ne hne] using h.contents

/-! ## Orderly streams -/

/-- No stream of the user has failed, at most one is suspended, and the messages yielded are those
that have been removed, and the one that the suspended stream has read. -/
structure Orderly (user : ℕ → String) (r : String) (w : World) : Prop where
  noError : ∀ k, user k = r → w.streams k ≠ .raised
  /-- The messages have been yielded once each and in order. -/
  yieldedOnce : (¬ w.Suspended user r ∧ w.numbers r = List.range (w.removed r)) ∨
    ∃ k left, user k = r ∧ w.streams k = .atYield left ∧ left < (w.db.messages r).length ∧
      (∀ j left', user j = r → w.streams j = .atYield left' → j = k) ∧
      w.numbers r = List.range (w.removed r + 1)

/-- At the beginning no stream has done anything. -/
lemma orderly_start (user : ℕ → String) (r : String) (db : Db) : Orderly user r (.start db) := by
  refine ⟨fun k _ => by simp [World.start], .inl ⟨?_, rfl⟩⟩
  rintro ⟨k, left, -, h⟩
  cases h

/-- A call keeps the streams orderly. -/
lemma Orderly.call (h : Orderly user r w) {call : Call} (hcall : ∀ r, call ≠ .receiveMessage r)
    (accepted : String → List SendRequest) :
    Orderly user r { w with db := (call.perform w.db).db, accepted := accepted } := by
  refine ⟨h.noError, h.yieldedOnce.imp id ?_⟩
  rintro ⟨k, left, hk, hstream, hleft, halone, hnumbers⟩
  refine ⟨k, left, hk, hstream, ?_, halone, hnumbers⟩
  rw [messages_perform hcall, List.length_append]
  exact Nat.lt_add_right _ hleft

/-- Resuming a stream of another user keeps the streams orderly. -/
lemma Orderly.other (h : Orderly user r w) {k : ℕ} {out : Resumed} (hk : user k ≠ r)
    (hres : Resumes (user k) w.db (w.streams k) out) :
    Orderly user r (w.afterResume (user k) k out) := by
  have hstreams {j : ℕ} (hj : user j = r) :
      (w.afterResume (user k) k out).streams j = w.streams j := by
    have hne : j ≠ k := fun hjk => hk (hjk ▸ hj)
    exact Function.update_of_ne hne _ _
  have hnumbers : (w.afterResume (user k) k out).numbers r = w.numbers r := by
    simp [World.numbers, World.afterResume, Function.update_of_ne (Ne.symm hk)]
  have hremoved : (w.afterResume (user k) k out).removed r = w.removed r :=
    Function.update_of_ne (Ne.symm hk) _ _
  refine ⟨fun j hj => hstreams hj ▸ h.noError j hj, ?_⟩
  rw [hnumbers, hremoved]
  refine h.yieldedOnce.imp (And.imp_left ?_) ?_
  · rintro hnone ⟨j, left, hj, hstream⟩
    exact hnone ⟨j, left, hj, hstreams hj ▸ hstream⟩
  · rintro ⟨j, left, hj, hstream, hleft, halone, hrange⟩
    refine ⟨j, left, hj, (hstreams hj).trans hstream, ?_, ?_, hrange⟩
    · exact (hres.messages_of_ne (Ne.symm hk)).symm ▸ hleft
    · exact fun i left' hi hi' => halone i left' hi ((hstreams hi).symm.trans hi')

/-- The streams of the user other than the one resumed stay where they are. -/
lemma World.streams_afterResume (w : World) (r : String) (k : ℕ) (out : Resumed) (j : ℕ) :
    (w.afterResume r k out).streams j = if j = k then out.stream else w.streams j := by
  simp [World.afterResume, Function.update_apply]

/-- The numbers yielded after a stream has been resumed. -/
lemma World.numbers_afterResume (w : World) (r : String) (k : ℕ) (out : Resumed) :
    (w.afterResume r k out).numbers r = w.numbers r ++
      if out.yielded.isSome then [(w.afterResume r k out).removed r] else [] := by
  simp only [World.numbers, World.afterResume, Function.update_self]
  cases out.yielded <;> simp

/-- What is known of the mailbox and the numbers while a stream is suspended. -/
lemma Orderly.suspended (h : Orderly user r w) {k left : ℕ} (hk : user k = r)
    (hstream : w.streams k = .atYield left) :
    left < (w.db.messages r).length ∧
      (∀ j left', user j = r → w.streams j = .atYield left' → j = k) ∧
      w.numbers r = List.range (w.removed r + 1) := by
  rcases h.yieldedOnce with ⟨hnone, -⟩ | ⟨k', left', hk', hstream', hleft, halone, hnumbers⟩
  · exact absurd ⟨k, left, hk, hstream⟩ hnone
  · obtain rfl : k = k' := halone k left hk hstream
    rw [hstream'] at hstream
    cases hstream
    exact ⟨hleft, halone, hnumbers⟩

/-- Resuming a stream of the user keeps the streams orderly, unless it starts while another one is
suspended. -/
lemma Orderly.own (h : Orderly user r w) {k : ℕ} {out : Resumed} (hk : user k = r)
    (hres : Resumes r w.db (w.streams k) out)
    (hstarts : w.streams k = .created → ¬ w.Suspended user r) :
    Orderly user r (w.afterResume r k out) := by
  have hothers {j : ℕ} {left : ℕ} (hj : j ≠ k) :
      (w.afterResume r k out).streams j = .atYield left ↔ w.streams j = .atYield left := by
    rw [World.streams_afterResume, if_neg hj]
  have hself : (w.afterResume r k out).streams k = out.stream := by
    rw [World.streams_afterResume, if_pos rfl]
  have hnoError (hout : out.stream ≠ .raised) :
      ∀ j, user j = r → (w.afterResume r k out).streams j ≠ .raised := by
    intro j hj
    rw [World.streams_afterResume]
    split_ifs
    · exact hout
    · exact h.noError j hj
  generalize hstream : w.streams k = stream at hres hstarts
  cases hres with
  | done hdone =>
    have hsame : w.afterResume r k ⟨stream, none, w.db, []⟩ = w := by
      simp [World.afterResume, ← hstream]
    exact hsame.symm ▸ h
  | startEmpty hbox =>
    have hnone := hstarts rfl
    have hnumbers := h.yieldedOnce.resolve_right
      fun ⟨k', left, hk', hstream', _⟩ => hnone ⟨k', left, hk', hstream'⟩
    refine ⟨hnoError (by simp), .inl ⟨?_, ?_⟩⟩
    · rintro ⟨j, left, hj, hyield⟩
      by_cases hjk : j = k
      · rw [hjk, hself] at hyield
        cases hyield
      · exact hnone ⟨j, left, hj, (hothers hjk).mp hyield⟩
    · simpa [World.numbers, World.afterResume] using hnumbers.2
  | @start m rest hbox =>
    have hnone := hstarts rfl
    have hnumbers := h.yieldedOnce.resolve_right
      fun ⟨k', left, hk', hstream', _⟩ => hnone ⟨k', left, hk', hstream'⟩
    refine ⟨hnoError (by simp), .inr ⟨k, rest.length, hk, hself, ?_, ?_, ?_⟩⟩
    · simp [World.afterResume, hbox]
    · intro j left hj hyield
      by_contra hjk
      exact hnone ⟨j, left, hj, (hothers hjk).mp hyield⟩
    · rw [World.numbers_afterResume, hnumbers.2]
      simp [World.afterResume, List.range_succ]
  | failPop hbox =>
    obtain ⟨hleft, -, -⟩ := h.suspended hk hstream
    simp [hbox] at hleft
  | @finish m rest hbox =>
    obtain ⟨-, halone, hnumbers⟩ := h.suspended hk hstream
    refine ⟨hnoError (by simp), .inl ⟨?_, ?_⟩⟩
    · rintro ⟨j, left, hj, hyield⟩
      by_cases hjk : j = k
      · rw [hjk, hself] at hyield
        cases hyield
      · exact hjk (halone j left hj ((hothers hjk).mp hyield))
    · rw [World.numbers_afterResume, hnumbers]
      simp [World.afterResume, hbox]
  | failRead hbox =>
    obtain ⟨hleft, -, -⟩ := h.suspended hk hstream
    simp [hbox] at hleft
  | @next left m m' rest hbox =>
    obtain ⟨hleft, halone, hnumbers⟩ := h.suspended hk hstream
    rw [hbox, List.length_cons, List.length_cons] at hleft
    refine ⟨hnoError (by simp), .inr ⟨k, left, hk, hself, ?_, ?_, ?_⟩⟩
    · simp only [World.afterResume, Function.update_self, List.length_cons]
      omega
    · intro j left' hj hyield
      by_contra hjk
      exact hjk (halone j left' hj ((hothers hjk).mp hyield))
    · rw [World.numbers_afterResume, hnumbers]
      simp [World.afterResume, hbox, List.range_succ]

/-- A stream that starts while another one is suspended yields a message a second time. -/
lemma Orderly.twice (h : Orderly user r w) {k : ℕ} {out : Resumed}
    (hres : Resumes r w.db (w.streams k) out) (hcreated : w.streams k = .created)
    (hsuspended : w.Suspended user r) : ¬ ((w.afterResume r k out).numbers r).Nodup := by
  obtain ⟨j, left, hj, hyield⟩ := hsuspended
  obtain ⟨hleft, -, hnumbers⟩ := h.suspended hj hyield
  rw [hcreated] at hres
  cases hres with
  | done hdone => rcases hdone with h | h <;> cases h
  | startEmpty hbox => simp [hbox] at hleft
  | start hbox =>
    rw [World.numbers_afterResume, hnumbers]
    simp [World.afterResume, List.nodup_append]

/-- Numbers that have been yielded stay yielded. -/
lemma numbers_grow (hstep : Grpc.step user e w = .ok (x, w')) :
    w.numbers r <+: w'.numbers r := by
  rcases step_cases hstep with ⟨call, -, -, rfl⟩ | ⟨k, out, -, -, rfl⟩
  · exact List.prefix_rfl
  · by_cases hk : r = user k
    · subst hk
      rw [World.numbers_afterResume]
      exact List.prefix_append _ _
    · simp only [World.numbers, World.afterResume, Function.update_of_ne hk]
      exact List.prefix_rfl

/-! ## Whole runs -/

/-- The streams of a user stay orderly until one starts while another one is suspended, and from
then on a message has been yielded twice. -/
lemma orderly_or_twice (user : ℕ → String) (r : String) (db : Db) {events : List Event}
    (hrun : run (Grpc.step user) events (.start db) = .ok w) :
    (Guarded (Grpc.step user) (StartsAlone user r) events (.start db) ∧ Orderly user r w) ∨
      ¬ Guarded (Grpc.step user) (StartsAlone user r) events (.start db) ∧
        ¬ (w.numbers r).Nodup := by
  refine run_history
    (P := fun events w =>
      (Guarded (Grpc.step user) (StartsAlone user r) events (.start db) ∧ Orderly user r w) ∨
        ¬ Guarded (Grpc.step user) (StartsAlone user r) events (.start db) ∧
          ¬ (w.numbers r).Nodup)
    (.inl ⟨trivial, orderly_start user r db⟩) ?_ (guarded_true events _) hrun
  intro before e w x w' hbefore ih _ hstep
  have hguarded : Guarded (Grpc.step user) (StartsAlone user r) (before ++ [e]) (.start db) ↔
      Guarded (Grpc.step user) (StartsAlone user r) before (.start db) ∧
        StartsAlone user r e w := by
    rw [guarded_append hbefore, guarded_cons hstep]
    simp
  rw [hguarded]
  rcases ih with ⟨hguard, horderly⟩ | ⟨hguard, htwice⟩
  · rcases step_cases hstep with ⟨call, rfl, hcall, rfl⟩ | ⟨k, out, rfl, hres, rfl⟩
    · exact .inl ⟨⟨hguard, fun k hk => by cases hk⟩, horderly.call hcall _⟩
    · by_cases hk : user k = r
      · subst hk
        by_cases hstarts : w.streams k = .created → ¬ w.Suspended user (user k)
        · refine .inl ⟨⟨hguard, ?_⟩, horderly.own rfl hres hstarts⟩
          rintro _ ⟨⟩ -
          exact hstarts
        · rw [Classical.not_imp, not_not] at hstarts
          refine .inr ⟨fun h => h.2 k rfl rfl hstarts.1 hstarts.2, ?_⟩
          exact horderly.twice hres hstarts.1 hstarts.2
      · refine .inl ⟨⟨hguard, ?_⟩, horderly.other hk hres⟩
        rintro _ ⟨⟩ hk'
        exact absurd hk' hk
  · exact .inr ⟨fun h => hguard h.1, fun h => htwice (h.sublist (numbers_grow hstep).sublist)⟩

/-- When all streams of the user `r` have come to their ends, they have delivered the mailbox if and
only if no stream of `r` has started while another one was suspended. -/
theorem delivered_iff {user : ℕ → String} {db : Db} {events : List Event} {w : World}
    (hrun : run (Grpc.step user) events (.start db) = .ok w) {r : String}
    (hend : ¬ w.Suspended user r) :
    Delivered user r w ↔ Guarded (Grpc.step user) (StartsAlone user r) events (.start db) := by
  have htracked : Tracked r w :=
    run_invariant (G := fun _ _ => True) (fun _ _ _ _ h _ hstep => h.step hstep)
      (guarded_true events _) hrun (tracked_start db r)
  rcases orderly_or_twice user r db hrun with ⟨hguard, horderly⟩ | ⟨hguard, htwice⟩
  · have hnumbers := horderly.yieldedOnce.resolve_right
      fun ⟨k, left, hk, hstream, _⟩ => hend ⟨k, left, hk, hstream⟩
    exact iff_of_true
      ⟨horderly.noError, hnumbers.2, htracked.contents, htracked.pending⟩ hguard
  · refine iff_of_false (fun h => htwice ?_) hguard
    rw [h.yieldedOnce]
    exact List.nodup_range

end Delivery

/-! ## Two streams of one mailbox -/

/-- The database in which `ann` has a message from herself. -/
def annMailbox : Db := (sendMessage ⟨"ann", "ann", "hi"⟩ annDb).db

/-- Two streams, one behind the other, and a message that is sent in between. -/
def oneByOne : List Event :=
  [.resume 0, .resume 0, .call (.sendMessage ⟨"ann", "ann", "again"⟩), .resume 1, .resume 1]

/-- They deliver both messages. -/
theorem delivered_iff_oneByOne :
    ∃ w, run (Grpc.step fun _ => "ann") oneByOne (.start annMailbox) = .ok w ∧
      w.yielded "ann" = [(0, ⟨"ann", "hi"⟩), (1, ⟨"ann", "again"⟩)] ∧
      Delivered (fun _ => "ann") "ann" w := by
  have hrun : run (Grpc.step fun _ => "ann") oneByOne (.start annMailbox) = .ok _ := rfl
  refine ⟨_, hrun, rfl, (delivered_iff hrun ?_).mpr ?_⟩
  · rintro ⟨k, left, -, hyield⟩
    rcases eq_or_ne k 1 with rfl | hk1
    · cases hyield
    rcases eq_or_ne k 0 with rfl | hk0
    · cases hyield
    · simp [Function.update_of_ne hk1, Function.update_of_ne hk0, World.start] at hyield
  · unfold oneByOne
    rw [guarded_cons rfl, guarded_cons rfl, guarded_cons rfl, guarded_cons rfl, guarded_cons rfl]
    refine ⟨?_, ?_, ?_, ?_, ?_, trivial⟩
    · rintro _ ⟨⟩ - - ⟨k, left, -, hyield⟩
      cases hyield
    · rintro _ ⟨⟩ - hcreated
      cases hcreated
    · rintro _ ⟨⟩
    · -- The first stream has ended.
      rintro _ ⟨⟩ - - ⟨k, left, -, hyield⟩
      rcases eq_or_ne k 0 with rfl | hk0
      · cases hyield
      · simp [Function.update_of_ne hk0, World.start] at hyield
    · rintro _ ⟨⟩ - hcreated
      cases hcreated

/-- A second stream starts while the first one is suspended.  Both yield the message, and the second
one fails when it finds nothing to remove. -/
theorem two_streams_yield_twice :
    ∃ w, run (Grpc.step fun _ => "ann") [.resume 0, .resume 1, .resume 0, .resume 1]
        (.start annMailbox) = .ok w ∧ ¬ w.Suspended (fun _ => "ann") "ann" ∧
      w.yielded "ann" = [(0, ⟨"ann", "hi"⟩), (0, ⟨"ann", "hi"⟩)] ∧ w.streams 1 = .raised ∧
      ¬ Delivered (fun _ => "ann") "ann" w := by
  refine ⟨_, rfl, ?_, rfl, rfl, fun h => h.noError 1 rfl rfl⟩
  rintro ⟨k, left, -, hyield⟩
  rcases eq_or_ne k 1 with rfl | hk1
  · cases hyield
  rcases eq_or_ne k 0 with rfl | hk0
  · cases hyield
  · simp [Function.update_of_ne hk1, Function.update_of_ne hk0, World.start] at hyield

end Chat262.Grpc
