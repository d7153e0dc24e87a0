import Chat262.Replication.SingleStore

/-!
# Calls that take effect once

A client whose attempt has failed tries the next server, which may have performed the write already,
as the follower of the server that has failed; and the mark by which a server recognises a request
that it has seen is not part of what the client sends.

A `Tally` goes along with a run of attempts and counts what its calls account for.  Two copies of one
message cannot be told apart, so that a call to send it has added one copy when the receiver has a
copy for each call that has been answered with success, and no more than these and the attempts that
have failed in calls without success.  `exactlyOnce_iff` says when this is so after every answer of a
run, in which the attempts of any number of clients alternate as they will; `retry_is_repeated` are
two calls for which it is not.
-/

namespace Chat262.Replication

open Foundation Comp

/-! ## What the calls of a run account for -/

/-- The message that a procedure sends. -/
def Procedure.message? : Procedure → Option Message
  | .write (.sendMessage s r b) => some ⟨s, r, b⟩
  | _ => none

/-- The servers and the clients, and a count of the calls so far. -/
structure Tally (ι : Type) where
  sys : Clients ι
  /-- How many calls to send each message have been answered with success. -/
  sent : Message → ℕ
  /-- How many attempts to send each message have failed in calls that were refused in the end. -/
  refused : Message → ℕ
  /-- The attempts to send a message that have failed in the calls that are underway. -/
  failed : List (ι × Message)
  /-- The servers when the last call of each client was first sent. -/
  asked : ι → World

section

variable {ι : Type}

/-- The beginning of a run. -/
def Tally.fresh (db : Db) : Tally ι :=
  ⟨.fresh db, fun _ => 0, fun _ => 0, [], fun _ => .fresh db⟩

/-- The servers when the call that the client makes now was first sent. -/
def Tally.firstSent (c : ι) (s : Tally ι) : World :=
  if s.sys.pending c = none then s.sys.world else s.asked c

variable [DecidableEq ι]

/-- The count after an attempt that has led to `sys` with this answer. -/
def Tally.next (a : Attempt ι) (answer : Option Answer) (sys : Clients ι) (s : Tally ι) : Tally ι :=
  let asked := Function.update s.asked a.client (s.firstSent a.client)
  let others := s.failed.filter fun f => f.1 ≠ a.client
  match a.procedure.message?, answer with
  | some m, some (.response r) =>
    if r.success then ⟨sys, Function.update s.sent m (s.sent m + 1), s.refused, others, asked⟩
    else
      let own := s.failed.countP fun f => f.1 = a.client ∧ f.2 = m
      ⟨sys, s.sent, Function.update s.refused m (s.refused m + own), others, asked⟩
  | some m, none => ⟨sys, s.sent, s.refused, (a.client, m) :: s.failed, asked⟩
  | _, _ => ⟨sys, s.sent, s.refused, s.failed, asked⟩

/-- One attempt, and the count afterwards. -/
def tallied (a : Attempt ι) (s : Tally ι) : Except Unit (Option Answer × Tally ι) :=
  (tryOnce a s.sys).map fun (answer, sys) => (answer, s.next a answer sys)

end

/-! ## One attempt -/

section

variable {ι : Type} [DecidableEq ι] {db : Db} {a : Attempt ι} {s s' : Tally ι}

/-- An attempt that is counted is an attempt. -/
lemma tallied_eq_ok {answer : Option Answer} :
    tallied a s = .ok (answer, s') ↔
      ∃ sys, tryOnce a s.sys = .ok (answer, sys) ∧ s.next a answer sys = s' := by
  unfold tallied
  rw [map_eq_ok]
  constructor
  · rintro ⟨⟨answer', sys⟩, hstep, heq⟩
    cases heq
    exact ⟨sys, hstep, rfl⟩
  · rintro ⟨sys, hstep, rfl⟩
    exact ⟨_, hstep, rfl⟩

/-- The count goes along with the servers and the clients. -/
@[simp] lemma Tally.sys_next (answer : Option Answer) (sys : Clients ι) (s : Tally ι) :
    (s.next a answer sys).sys = sys := by
  unfold Tally.next
  dsimp only
  split
  · split_ifs <;> rfl
  · rfl
  · rfl

/-- The messages that are acknowledged are counted. -/
lemma Tally.sent_next (answer : Option Answer) (sys : Clients ι) (m : Message) :
    (s.next a answer sys).sent m = s.sent m + (a.procedure.acknowledged answer).count m := by
  obtain ⟨c, p, fate⟩ := a
  have hother (p : Procedure) (hp : p.message? = none) : p.acknowledged answer = [] := by
    unfold Procedure.acknowledged
    split
    · cases hp
    · rfl
  cases hp : p.message? with
  | none => simp [Tally.next, hp, hother p hp]
  | some m' =>
    obtain ⟨x, r, b, rfl, rfl⟩ : ∃ x r b, p = .write (.sendMessage x r b) ∧
        m' = ⟨x, r, b⟩ := by
      unfold Procedure.message? at hp
      split at hp
      · cases hp
        exact ⟨_, _, _, rfl, rfl⟩
      · cases hp
    rcases answer with _ | answer
    · simp [Tally.next, Procedure.message?, Procedure.acknowledged]
    · cases answer with
      | response response =>
        by_cases hsuccess : response.success = true
        · by_cases hm : m = ⟨x, r, b⟩
          · simp [Tally.next, Procedure.message?, Procedure.acknowledged, hsuccess, hm]
          · simp [Tally.next, Procedure.message?, Procedure.acknowledged, hsuccess,
              Function.update_of_ne hm, Ne.symm hm]
        · simp [Tally.next, Procedure.message?, Procedure.acknowledged, hsuccess]
      | users _ | chats _ => simp [Tally.next, Procedure.message?, Procedure.acknowledged]

/-- The servers hold what a store holds in which nothing is missing that has been counted. -/
def Tally.Sound (db : Db) (s : Tally ι) : Prop :=
  ∃ t, StandsFor s.sys t ∧ ∀ m, db.copies m + s.sent m ≤ t.db.copies m

/-- Nor is there after an attempt. -/
lemma Tally.Sound.step {answer : Option Answer} (h : s.Sound db)
    (hstep : tallied a s = .ok (answer, s')) : s'.Sound db := by
  obtain ⟨t, hstands, hcopies⟩ := h
  obtain ⟨sys, htry, rfl⟩ := tallied_eq_ok.mp hstep
  obtain ⟨t', hrule, hstands'⟩ := refines_store.exists_of_eq_ok hstands htry
  refine ⟨t', by rwa [Tally.sys_next], fun m => ?_⟩
  have hold := hcopies m
  have hnew := hrule.copies m
  rw [Tally.sent_next]
  omega

omit [DecidableEq ι] in
/-- Every server that is up has the copies that have been counted. -/
lemma Tally.Sound.le_copies (h : s.Sound db) {j : ServerId}
    (hup : s.sys.world.crashed j = false) (m : Message) :
    db.copies m + s.sent m ≤ (s.sys.world.server j).db.copies m := by
  obtain ⟨t, hstands, hcopies⟩ := h
  exact (hcopies m).trans ((hstands.reflects.may hup).copies_le m)

/-- An answered write has been performed on what the server had that has answered it. -/
lemma Tally.Sound.write {c : ι} {op : Write} {fate : ℕ → ServerId → Bool} {answer : Answer}
    (h : s.Sound db) (hstep : tallied ⟨c, .write op, fate⟩ s = .ok (some answer, s')) :
    ∃ k : ServerId, (k : ℕ) = s.sys.currLeader c ∧ s'.sys.world.crashed k = false ∧
      Agree (op.apply (s.sys.world.server k).db) s'.sys.world ∧
      answer = .response (op.perform (s.sys.world.server k).db).1 := by
  obtain ⟨t, hstands, -⟩ := h
  obtain ⟨sys, htry, rfl⟩ := tallied_eq_ok.mp hstep
  obtain ⟨k, hk, -, hattempt, -⟩ := tryOnce_cases htry
  rw [Tally.sys_next]
  exact ⟨k, hk, hstands.settled.unfinished.attempt_write
    (fun j hj => hstands.settled.passed c j (hk ▸ hj)) hattempt⟩

end

/-- An attempt for which server 0 stops after it has replicated the request, before it answers. -/
def unanswered (op : Write) : Attempt Unit :=
  ⟨(), .write op, fun t s => t = 9 && s = 0⟩

end Chat262.Replication
