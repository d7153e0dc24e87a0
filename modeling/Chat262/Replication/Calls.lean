import Chat262.Replication.Failover

/-!
# Runs of client calls

Any number of clients make write calls, one at a time, while servers fail.  Each client remembers
the server that it takes for the leader and moves on to the next one when a call raises; once the
third has failed it exits.

What the answered calls of a run amount to is a fact about databases alone (`AtLeastOnce`): each
write has been performed one or more times in a row, and its answer is that to the last time.  The
servers that are up refine it (`run_atLeastOnce`): they agree on a database that the answered calls
lead to.  From this follow the agreement of the replicas and the durability of answered writes
(`replicas_agree_and_keep`).
-/

namespace Chat262.Replication

open Foundation Comp

/-! ## Databases and writes -/

/-- Whether the effect of a write shows in a database. -/
def Write.Reflected (db : Db) : Write → Prop
  | .register u p => db.passwords[u]? = some p
  | .deleteAccount u _ => u ∉ db.passwords
  | .sendMessage s r b => ⟨s, r, b⟩ ∈ db.messages r

/-- Whether a later write may undo the effect of an earlier one.  Nothing undoes the effect of
sending a message. -/
def Write.Undoes : Write → Write → Prop
  | .deleteAccount u p, .register u' p' => u = u' ∧ p = p'
  | .register u _, .deleteAccount u' _ => u = u'
  | _, _ => False

/-- The number of copies of a message that its receiver has. -/
def Db.copies (db : Db) (m : Message) : ℕ := (db.messages m.receiver).count m

/-- Registering a name that is free stores the password. -/
lemma perform_register_of_notMem {u p : String} {db : Db} (h : u ∉ db.passwords) :
    (Write.register u p).perform db =
      (registered, { db with passwords := db.passwords.insert u p }) := if_pos h

/-- Registering a name that is taken changes nothing. -/
lemma perform_register_of_mem {u p : String} {db : Db} (h : u ∈ db.passwords) :
    (Write.register u p).perform db = (alreadyTaken, db) := if_neg (not_not.mpr h)

/-- Sending a message between registered users appends it. -/
lemma perform_sendMessage_of_mem {s r b : String} {db : Db}
    (h : s ∈ db.passwords ∧ r ∈ db.passwords) : (Write.sendMessage s r b).perform db =
      (messageAdded, { db with
        messages := Function.update db.messages r (db.messages r ++ [⟨s, r, b⟩]) }) := if_pos h

/-- Sending a message between users who are not both registered changes nothing. -/
lemma perform_sendMessage_of_not {s r b : String} {db : Db}
    (h : ¬ (s ∈ db.passwords ∧ r ∈ db.passwords)) :
    (Write.sendMessage s r b).perform db = (unknownUsers, db) := if_neg h

/-- Deleting an account takes the right password. -/
lemma deleteAccount_success_iff {u p : String} {db : Db} :
    ((Write.deleteAccount u p).perform db).1.success = true ↔ db.passwords[u]? = some p := by
  change (deleteAccount u p db).1.success = true ↔ _
  unfold deleteAccount
  split_ifs with h h' <;> simp [h, accountDeleted, noSuchAccount, wrongPassword]

/-- Deleting an account removes the name, or changes nothing when the password is wrong. -/
lemma passwords_apply_deleteAccount (u p : String) (db : Db) :
    ((Write.deleteAccount u p).apply db).passwords =
      if db.passwords[u]? = some p then db.passwords.erase u else db.passwords := by
  change (deleteAccount u p db).2.passwords = _
  unfold deleteAccount
  split_ifs <;> rfl

/-- Sending messages leaves the passwords alone. -/
lemma passwords_apply_sendMessage (s r b : String) (db : Db) :
    ((Write.sendMessage s r b).apply db).passwords = db.passwords := by
  change (sendMessage s r b db).2.passwords = _
  unfold sendMessage
  split_ifs <;> rfl

/-- A write that has succeeded shows. -/
lemma Write.reflected_of_success {op : Write} {db : Db} (h : (op.perform db).1.success = true) :
    op.Reflected (op.apply db) := by
  cases op with
  | register u p =>
    by_cases hu : u ∈ db.passwords
    · rw [perform_register_of_mem hu] at h
      cases h
    · unfold Write.apply
      rw [perform_register_of_notMem hu]
      simp [Write.Reflected]
  | deleteAccount u p =>
    rw [deleteAccount_success_iff] at h
    simp [Write.Reflected, passwords_apply_deleteAccount, h]
  | sendMessage s r b =>
    by_cases hsr : s ∈ db.passwords ∧ r ∈ db.passwords
    · unfold Write.apply
      rw [perform_sendMessage_of_mem hsr]
      simp [Write.Reflected]
    · rw [perform_sendMessage_of_not hsr] at h
      cases h

/-- The messages after a write: those before it, and the message that was sent. -/
lemma prefix_messages_apply (op : Write) (db : Db) (r : String) :
    db.messages r <+: (op.apply db).messages r := by
  cases op with
  | register u p =>
    unfold Write.apply
    by_cases hu : u ∈ db.passwords
    · rw [perform_register_of_mem hu]
    · rw [perform_register_of_notMem hu]
  | deleteAccount u p =>
    change _ <+: (deleteAccount u p db).2.messages r
    unfold deleteAccount
    split_ifs <;> exact List.prefix_rfl
  | sendMessage s r' b =>
    unfold Write.apply
    by_cases hsr : s ∈ db.passwords ∧ r' ∈ db.passwords
    · rw [perform_sendMessage_of_mem hsr]
      dsimp only
      by_cases hr : r = r'
      · rw [hr, Function.update_self]
        exact List.prefix_append _ _
      · rw [Function.update_of_ne hr]
    · rw [perform_sendMessage_of_not hsr]

/-- A write that does not undo an earlier one leaves its effect. -/
lemma Write.Reflected.apply {op later : Write} {db : Db} (h : op.Reflected db)
    (hundo : ¬ later.Undoes op) : op.Reflected (later.apply db) := by
  cases op with
  | sendMessage s r b => exact (prefix_messages_apply later db r).subset h
  | register u p =>
    change db.passwords[u]? = some p at h
    change (later.apply db).passwords[u]? = some p
    cases later with
    | register u' p' =>
      unfold Write.apply
      by_cases hu : u' ∈ db.passwords
      · rwa [perform_register_of_mem hu]
      · rw [perform_register_of_notMem hu]
        have hne : u' ≠ u := by
          rintro rfl
          exact hu (Std.ExtTreeMap.mem_iff_isSome_getElem?.mpr (by rw [h]; rfl))
        simpa [Std.ExtTreeMap.getElem?_insert, hne] using h
    | deleteAccount u' p' =>
      rw [passwords_apply_deleteAccount]
      split_ifs with hp
      · have hne : u' ≠ u := by
          rintro rfl
          exact hundo ⟨rfl, Option.some.inj (hp.symm.trans h)⟩
        simpa [Std.ExtTreeMap.getElem?_erase, hne] using h
      · exact h
    | sendMessage s r b => rwa [passwords_apply_sendMessage]
  | deleteAccount u p =>
    change u ∉ db.passwords at h
    change u ∉ (later.apply db).passwords
    cases later with
    | register u' p' =>
      unfold Write.apply
      by_cases hu : u' ∈ db.passwords
      · rwa [perform_register_of_mem hu]
      · rw [perform_register_of_notMem hu]
        have hne : u' ≠ u := fun heq => hundo heq
        simpa [hne] using h
    | deleteAccount u' p' =>
      rw [passwords_apply_deleteAccount]
      split_ifs
      · simpa using fun _ => h
      · exact h
    | sendMessage s r b => rwa [passwords_apply_sendMessage]

/-- No write takes a message away. -/
lemma copies_le_apply (op : Write) (db : Db) (m : Message) : db.copies m ≤ (op.apply db).copies m :=
  (prefix_messages_apply op db m.receiver).sublist.count_le m

/-- However often it is performed. -/
lemma copies_le_iterate (op : Write) (db : Db) (m : Message) (n : ℕ) :
    db.copies m ≤ (op.apply^[n] db).copies m := by
  induction n with
  | zero => exact le_rfl
  | succ n ih =>
    rw [Function.iterate_succ_apply']
    exact ih.trans (copies_le_apply op _ m)

/-- Sending a message with success adds a copy. -/
lemma copies_apply_of_success {m : Message} {db : Db}
    (h : ((Write.sendMessage m.sender m.receiver m.body).perform db).1.success = true) :
    ((Write.sendMessage m.sender m.receiver m.body).apply db).copies m = db.copies m + 1 := by
  unfold Write.apply
  by_cases hsr : m.sender ∈ db.passwords ∧ m.receiver ∈ db.passwords
  · rw [perform_sendMessage_of_mem hsr]
    simp [Db.copies]
  · rw [perform_sendMessage_of_not hsr] at h
    cases h

/-! ## Answered calls -/

/-- What becomes of a database in answered calls when each write is performed at least once, and
answered the last time. -/
inductive AtLeastOnce : Db → List (Write × Response) → Db → Prop
  | nil (E : Db) : AtLeastOnce E [] E
  | cons {E E' : Db} {op : Write} {r : Response} {answers : List (Write × Response)} (n : ℕ)
      (hr : r = (op.perform (op.apply^[n] E)).1)
      (hrest : AtLeastOnce (op.apply^[n + 1] E) answers E') :
      AtLeastOnce E ((op, r) :: answers) E'

namespace AtLeastOnce

variable {E E' : Db} {answers : List (Write × Response)}

/-- An effect stays as long as no write undoes it. -/
lemma reflected {op : Write} (h : AtLeastOnce E answers E') (hop : op.Reflected E)
    (hundo : ∀ a ∈ answers, ¬ a.1.Undoes op) : op.Reflected E' := by
  induction h with
  | nil => exact hop
  | cons n _ _ ih =>
    have hhead := hundo _ List.mem_cons_self
    refine ih ?_ fun a ha => hundo a (List.mem_cons_of_mem _ ha)
    generalize n + 1 = k
    induction k with
    | zero => exact hop
    | succ k ihk =>
      rw [Function.iterate_succ_apply']
      exact ihk.apply hhead

/-- What has been answered with success shows, unless a later write undoes it. -/
lemma reflected_of_mem {before after : List (Write × Response)} {op : Write} {r : Response}
    (h : AtLeastOnce E (before ++ (op, r) :: after) E') (hr : r.success = true)
    (hundo : ∀ a ∈ after, ¬ a.1.Undoes op) : op.Reflected E' := by
  induction before generalizing E with
  | nil =>
    obtain - | ⟨n, hanswer, hrest⟩ := h
    refine hrest.reflected ?_ hundo
    rw [Function.iterate_succ_apply']
    rw [hanswer] at hr
    exact Write.reflected_of_success hr
  | cons a before ih =>
    obtain - | ⟨n, -, hrest⟩ := h
    exact ih hrest

/-- Each message is there at least as often as it has been sent with success. -/
lemma le_copies (h : AtLeastOnce E answers E') (m : Message) :
    E.copies m + answers.countP (fun a =>
      a.1 = .sendMessage m.sender m.receiver m.body ∧ a.2.success = true) ≤ E'.copies m := by
  induction h with
  | nil => simp
  | @cons E E' op r answers n hr _ ih =>
    have hmono := copies_le_iterate op E m n
    rw [Function.iterate_succ_apply'] at ih
    rw [List.countP_cons]
    split_ifs with hsent
    · simp only [decide_eq_true_eq] at hsent
      obtain ⟨hop, hsuccess⟩ := hsent
      subst hop
      rw [hr] at hsuccess
      have := copies_apply_of_success hsuccess
      omega
    · have := copies_le_apply op (op.apply^[n] E) m
      omega

end AtLeastOnce

/-! ## Clients and runs -/

/-- The servers, and the server that each client takes for the leader. -/
structure System (Client : Type) where
  world : World
  /-- `curr_leader` of each client. -/
  currLeader : Client → ℕ

section Runs

variable {Client : Type} [DecidableEq Client]

/-- Freshly started servers with equal databases, and clients that have not called yet. -/
def System.fresh (db : Db) : System Client := ⟨.fresh db, fun _ => 0⟩

/-- A call of the client `c` for a write: `send_request`, and where it leaves `curr_leader`. -/
def clientCall (fate : ℕ → ServerId → Bool) (c : Client) (op : Write) (sys : System Client) :
    Option (ServerId × World × Response) × System Client :=
  match sendRequest fate (.ofClient op) ([0, 1, 2].drop (sys.currLeader c)) sys.world with
  | (some (k, v, r), w) => (some (k, v, r), ⟨w, Function.update sys.currLeader c k⟩)
  | (none, w) => (none, ⟨w, Function.update sys.currLeader c 3⟩)

/-- Calls one after the other: the writes that have been answered with their answers, and the system
afterwards. -/
def run (fate : ℕ → ServerId → Bool) :
    List (Client × Write) → System Client → List (Write × Response) × System Client
  | [], sys => ([], sys)
  | (c, op) :: calls, sys =>
    match clientCall fate c op sys with
    | (some (_, _, r), sys₁) => ((op, r) :: (run fate calls sys₁).1, (run fate calls sys₁).2)
    | (none, sys₁) => run fate calls sys₁

variable {fate : ℕ → ServerId → Bool}

/-- Between calls: the servers that are up agree, and no client has passed over one of them. -/
structure System.Steady (E : Db) (sys : System Client) : Prop where
  agree : Agree E sys.world
  /-- The servers before the one that a client takes for the leader are down. -/
  passed : ∀ c (j : ServerId), j < sys.currLeader c → sys.world.crashed j = true

omit [DecidableEq Client] in
/-- Freshly started servers agree. -/
lemma System.steady_fresh (db : Db) : (System.fresh db : System Client).Steady db where
  agree := {
    standing := {
      first := fun _ => rfl
      leads := fun me _ hlead j hj => by
        have hme : me = 0 := of_decide_eq_true hlead
        rw [hme] at hj
        exact absurd hj (Fin.not_lt_zero j)
      stubs := fun _ _ _ _ _ hstub => by cases hstub }
    db := fun _ _ => rfl
    ahead := fun _ _ _ _ _ => le_rfl
    synced := fun _ _ _ => .inl ⟨rfl, le_rfl⟩ }
  passed _ j hj := absurd hj (Nat.not_lt_zero j)

/-- A server that a client has not left to try comes before the one that it takes for the leader. -/
lemma lt_of_notMem_drop {n : ℕ} {j : ServerId} (h : j ∉ [0, 1, 2].drop n) : j < n := by
  match n with
  | 0 | 1 | 2 => exact (by decide : ∀ j : ServerId, j ∉ [0, 1, 2].drop _ → (j : ℕ) < _) j h
  | n + 3 => exact j.isLt.trans_le (Nat.le_add_left 3 n)

/-- A call leads from steady to steady: the write has been performed at least once, or there is
nobody left. -/
lemma System.Steady.clientCall (fate : ℕ → ServerId → Bool) {E : Db} {sys : System Client}
    (h : sys.Steady E) (c : Client) (op : Write) :
    match clientCall fate c op sys with
    | (some (k, v, r), sys') => Later sys.world sys'.world ∧ ∃ n,
        Answered (fun s => (sys.world.server s).counter) op E k v r sys'.world n ∧
        sys'.Steady (op.apply^[n + 1] E)
    | (none, sys') => (∀ s, sys'.world.crashed s = true) ∧ sys'.Steady E := by
  have hsorted : ([0, 1, 2].drop (sys.currLeader c) : List ServerId).Pairwise (· < ·) :=
    List.Pairwise.drop (by decide)
  have hrest : ∀ j : ServerId, j ∉ [0, 1, 2].drop (sys.currLeader c) →
      sys.world.crashed j = true := fun j hj => h.passed c j (lt_of_notMem_drop hj)
  have hspec := sendRequest_spec fate (h.agree.inCall op) hsorted hrest
  unfold Replication.clientCall
  rcases hsend : sendRequest fate (.ofClient op) ([0, 1, 2].drop (sys.currLeader c)) sys.world
    with ⟨_ | ⟨k, v, r⟩, w⟩
  · rw [hsend] at hspec
    exact ⟨hspec, .of_down hspec, fun _ j _ => hspec j⟩
  · rw [hsend] at hspec
    obtain ⟨hlater, -, n, hn⟩ := hspec
    refine ⟨hlater, n, hn, hn.agree, ?_⟩
    intro c' j hj
    dsimp only at hj ⊢
    by_cases hc : c' = c
    · rw [hc, Function.update_self] at hj
      exact hn.before j hj
    · rw [Function.update_of_ne hc] at hj
      exact hlater j (h.passed c' j hj)

/-- A run leads from steady to steady: when there is somebody left, the servers that are up have
come to their database by the answered calls. -/
theorem System.Steady.run_atLeastOnce (fate : ℕ → ServerId → Bool) {E : Db}
    {sys : System Client} (h : sys.Steady E)
    (calls : List (Client × Write)) :
    Later sys.world (run fate calls sys).2.world ∧ ∃ E', (run fate calls sys).2.Steady E' ∧
      ∀ s, (run fate calls sys).2.world.crashed s = false →
        AtLeastOnce E (run fate calls sys).1 E' := by
  induction calls generalizing E sys with
  | nil => exact ⟨Later.refl _, E, h, fun _ _ => .nil E⟩
  | cons call calls ih =>
    obtain ⟨c, op⟩ := call
    have hcall := h.clientCall fate c op
    unfold run
    rcases hrun : Replication.clientCall fate c op sys with ⟨_ | ⟨k, v, r⟩, sys₁⟩
    · rw [hrun] at hcall
      obtain ⟨hdown, hsteady⟩ := hcall
      obtain ⟨hlater, E', hsteady', -⟩ := ih hsteady
      refine ⟨fun s _ => hlater s (hdown s), E', hsteady', ?_⟩
      intro s hs
      dsimp only at hs
      rw [hlater s (hdown s)] at hs
      cases hs
    · rw [hrun] at hcall
      obtain ⟨hlater₁, n, hn, hsteady⟩ := hcall
      obtain ⟨hlater, E', hsteady', hrest⟩ := ih hsteady
      exact ⟨hlater₁.trans hlater, E', hsteady', fun s hs => .cons n hn.answer (hrest s hs)⟩

/-- In every run, whatever servers fail and when: the servers that are up have the same passwords
and the same messages for every receiver; every write that has been answered with success shows in
them, unless a later answered write undoes it; and every message is there at least as often as it
has been sent with success. -/
theorem replicas_agree_and_keep (fate : ℕ → ServerId → Bool) (db : Db)
    (calls : List (Client × Write)) :
    let answers := (run fate calls (.fresh db)).1
    let w := (run fate calls (.fresh db)).2.world
    (∀ s s', w.crashed s = false → w.crashed s' = false →
      (w.server s).db.passwords = (w.server s').db.passwords ∧
      ∀ receiver, (w.server s).db.messages receiver = (w.server s').db.messages receiver) ∧
    (∀ before op r after, answers = before ++ (op, r) :: after → r.success = true →
      (∀ later ∈ after, ¬ later.1.Undoes op) →
      ∀ s, w.crashed s = false → op.Reflected (w.server s).db) ∧
    ∀ m s, w.crashed s = false →
      db.copies m + answers.countP (fun a =>
        a.1 = .sendMessage m.sender m.receiver m.body ∧ a.2.success = true) ≤
      (w.server s).db.copies m := by
  intro answers w
  obtain ⟨-, E, hsteady, honce⟩ :=
    (System.steady_fresh db).run_atLeastOnce fate calls
  refine ⟨?_, ?_, ?_⟩
  · intro s s' hs hs'
    rw [hsteady.agree.db s hs, hsteady.agree.db s' hs']
    exact ⟨rfl, fun _ => rfl⟩
  · intro before op r after hsplit hr hundo s hs
    rw [hsteady.agree.db s hs]
    have := honce s hs
    rw [show (run fate calls (.fresh db)).1 = before ++ (op, r) :: after from hsplit] at this
    exact this.reflected_of_mem hr hundo
  · intro m s hs
    rw [hsteady.agree.db s hs]
    exact (honce s hs).le_copies m

end Runs

end Chat262.Replication
