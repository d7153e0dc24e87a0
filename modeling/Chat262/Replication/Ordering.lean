import Chat262.Replication.LostWrites

/-!
# The order of concurrent writes

A write comes to follower 1, to follower 2 and to the leader at three separate moments, so two
writes may come to different servers in different orders.  `Write.Conflicts` says for which writes
this matters: those that do not commute (`conflicts_iff`).  When the writes that conflict come to
all servers in the order in which they come to follower 1, the databases agree
(`agree_of_inOrder`); when they do not, they may differ for good (`passing_writes_diverge`).
-/

namespace Chat262.Replication

open Foundation
open Std (ExtTreeMap)
open scoped List

/-! ## Writes that conflict -/

/-- Whether the order of two writes may matter. -/
def Write.Conflicts : Write → Write → Prop
  | .register u p, .register u' p' => u = u' ∧ p ≠ p'
  | .register u _, .deleteAccount u' _ => u = u'
  | .deleteAccount u _, .register u' _ => u = u'
  | .deleteAccount _ _, .deleteAccount _ _ => False
  | .sendMessage s r _, .register u _ => u = s ∨ u = r
  | .register u _, .sendMessage s r _ => u = s ∨ u = r
  | .sendMessage s r _, .deleteAccount u _ => u = s ∨ u = r
  | .deleteAccount u _, .sendMessage s r _ => u = s ∨ u = r
  | .sendMessage s r b, .sendMessage s' r' b' => r = r' ∧ (s ≠ s' ∨ b ≠ b')

/-- The password of a name after a write. -/
def Write.passwordAfter (passwordOf : String → Option String) (v : String) : Write → Option String
  | .register u p => if v = u then some ((passwordOf u).getD p) else passwordOf v
  | .deleteAccount u p => if v = u ∧ passwordOf u = some p then none else passwordOf v
  | .sendMessage _ _ _ => passwordOf v

/-- The messages for a receiver after a write. -/
def Write.messagesAfter (passwordOf : String → Option String) (messages : String → List Message)
    (v : String) : Write → List Message
  | .sendMessage s r b =>
    if v = r ∧ (passwordOf s).isSome ∧ (passwordOf r).isSome then messages v ++ [⟨s, r, b⟩]
    else messages v
  | _ => messages v

/-- What a write does to the passwords. -/
lemma getElem?_apply (op : Write) (db : Db) (v : String) :
    (op.apply db).passwords[v]? = op.passwordAfter (fun u => db.passwords[u]?) v := by
  cases op with
  | register u p =>
    change (register u p db).2.passwords[v]? = _
    simp only [Write.passwordAfter]
    by_cases hu : u ∈ db.passwords
    · obtain ⟨q, hq⟩ := Option.isSome_iff_exists.mp (Std.ExtTreeMap.mem_iff_isSome_getElem?.mp hu)
      rw [register, if_neg (not_not.mpr hu), hq]
      split_ifs with hv
      · rw [hv, hq]
        rfl
      · rfl
    · rw [register, if_pos hu, Std.ExtTreeMap.getElem?_insert,
        Std.ExtTreeMap.getElem?_eq_none hu]
      simp only [Std.LawfulEqCmp.compare_eq_iff_eq, eq_comm (a := u), Option.getD_none]
  | deleteAccount u p =>
    change (deleteAccount u p db).2.passwords[v]? = _
    simp only [Write.passwordAfter]
    by_cases hp : db.passwords[u]? = some p
    · rw [deleteAccount, if_pos hp, Std.ExtTreeMap.getElem?_erase]
      simp only [Std.LawfulEqCmp.compare_eq_iff_eq, eq_comm (a := u), hp, and_true]
    · have hkeep : ¬ (v = u ∧ db.passwords[u]? = some p) := fun h => hp h.2
      rw [deleteAccount, if_neg hp, if_neg hkeep]
      split_ifs <;> rfl
  | sendMessage s r b =>
    change (sendMessage s r b db).2.passwords[v]? = _
    unfold sendMessage
    split_ifs <;> rfl

/-- What a write does to the messages. -/
lemma messages_apply (op : Write) (db : Db) (v : String) :
    (op.apply db).messages v =
      op.messagesAfter (fun u => db.passwords[u]?) db.messages v := by
  cases op with
  | register u p =>
    change (register u p db).2.messages v = _
    unfold register
    split_ifs <;> rfl
  | deleteAccount u p =>
    change (deleteAccount u p db).2.messages v = _
    unfold deleteAccount
    split_ifs <;> rfl
  | sendMessage s r b =>
    change (sendMessage s r b db).2.messages v = _
    simp only [Write.messagesAfter, ← Std.ExtTreeMap.mem_iff_isSome_getElem?]
    by_cases hsr : s ∈ db.passwords ∧ r ∈ db.passwords
    · rw [sendMessage, if_pos hsr]
      by_cases hv : v = r
      · rw [hv, if_pos ⟨rfl, hsr⟩]
        exact Function.update_self ..
      · rw [if_neg fun h => hv h.1]
        exact Function.update_of_ne hv ..
    · rw [sendMessage, if_neg hsr, if_neg fun h => hsr h.2]

/-- Databases are told apart by looking things up. -/
lemma Db.ext_lookup {db db' : Db} (hpasswords : ∀ v : String, db.passwords[v]? = db'.passwords[v]?)
    (hmessages : ∀ v, db.messages v = db'.messages v) : db = db' := by
  obtain ⟨passwords, messages⟩ := db
  obtain ⟨passwords', messages'⟩ := db'
  obtain rfl : passwords = passwords' := Std.ExtTreeMap.ext_getElem? fun v => hpasswords v
  obtain rfl : messages = messages' := funext hmessages
  rfl

/-- Writes that do not conflict commute. -/
lemma apply_comm {a b : Write} (h : ¬ a.Conflicts b) (db : Db) :
    a.apply (b.apply db) = b.apply (a.apply db) := by
  refine Db.ext_lookup ?_ ?_
  · intro v
    cases a <;> cases b <;> simp only [Write.Conflicts] at h <;>
      simp only [getElem?_apply, Write.passwordAfter] <;> grind
  · intro v
    cases a <;> cases b <;> simp only [Write.Conflicts] at h <;>
      simp only [messages_apply, getElem?_apply, Write.passwordAfter, Write.messagesAfter] <;> grind

/-- A database without messages. -/
def Db.ofPasswords (passwords : ExtTreeMap String String compare) : Db := ⟨passwords, fun _ => []⟩

/-- Of two passwords for one name the first one wins. -/
lemma register_register_conflict (u : String) {p p' : String} (h : p ≠ p') :
    ∃ db, (Write.register u p).apply ((Write.register u p').apply db) ≠
      (Write.register u p').apply ((Write.register u p).apply db) := by
  refine ⟨.ofPasswords ∅, fun heq => h ?_⟩
  have hlookup := congrArg (fun db : Db => db.passwords[u]?) heq
  simp only [getElem?_apply, Write.passwordAfter, Db.ofPasswords] at hlookup
  simpa [eq_comm] using hlookup

/-- Registering a name before or after its deletion makes a difference. -/
lemma register_deleteAccount_conflict (u p p' : String) :
    ∃ db, (Write.register u p).apply ((Write.deleteAccount u p').apply db) ≠
      (Write.deleteAccount u p').apply ((Write.register u p).apply db) := by
  refine ⟨.ofPasswords {(u, p')}, ?_⟩
  intro heq
  have hlookup := congrArg (fun db : Db => db.passwords[u]?) heq
  simp only [getElem?_apply, Write.passwordAfter, Db.ofPasswords] at hlookup
  simp at hlookup

/-- A message is lost when one of its users is registered too late. -/
lemma sendMessage_register_conflict {s r : String} (t : String) {u : String} (p : String)
    (h : u = s ∨ u = r) : ∃ db,
      (Write.sendMessage s r t).apply ((Write.register u p).apply db) ≠
        (Write.register u p).apply ((Write.sendMessage s r t).apply db) := by
  refine ⟨.ofPasswords ((({(s, "")} : ExtTreeMap String String compare).insert r "").erase u), ?_⟩
  intro heq
  have hlookup := congrArg (fun db : Db => db.messages r) heq
  simp only [messages_apply, getElem?_apply, Write.messagesAfter, Write.passwordAfter,
    Db.ofPasswords] at hlookup
  rcases h with rfl | rfl <;> simp at hlookup
  all_goals grind

/-- A message is lost when one of its users is deleted too early. -/
lemma sendMessage_deleteAccount_conflict {s r : String} (t : String) {u : String} (p : String)
    (h : u = s ∨ u = r) : ∃ db,
      (Write.sendMessage s r t).apply ((Write.deleteAccount u p).apply db) ≠
        (Write.deleteAccount u p).apply ((Write.sendMessage s r t).apply db) := by
  refine ⟨.ofPasswords (({(s, p)} : ExtTreeMap String String compare).insert r p), ?_⟩
  intro heq
  have hlookup := congrArg (fun db : Db => db.messages r) heq
  simp only [messages_apply, getElem?_apply, Write.messagesAfter, Write.passwordAfter,
    Db.ofPasswords] at hlookup
  rcases h with rfl | rfl <;> simp at hlookup
  all_goals grind

/-- Different messages for one receiver stay in the order in which they come. -/
lemma sendMessage_sendMessage_conflict {s s' : String} (r : String) {t t' : String}
    (h : s ≠ s' ∨ t ≠ t') : ∃ db,
      (Write.sendMessage s r t).apply ((Write.sendMessage s' r t').apply db) ≠
        (Write.sendMessage s' r t').apply ((Write.sendMessage s r t).apply db) := by
  refine ⟨.ofPasswords ((({(s, "")} : ExtTreeMap String String compare).insert r "").insert s' ""),
    ?_⟩
  intro heq
  have hlookup := congrArg (fun db : Db => db.messages r) heq
  simp only [messages_apply, getElem?_apply, Write.messagesAfter, Write.passwordAfter,
    Db.ofPasswords] at hlookup
  simp at hlookup
  grind

/-- The writes that conflict are those that do not commute on some database. -/
theorem conflicts_iff {a b : Write} :
    a.Conflicts b ↔ ∃ db, a.apply (b.apply db) ≠ b.apply (a.apply db) := by
  refine ⟨?_, fun ⟨db, hdb⟩ => by_contra fun h => hdb (apply_comm h db)⟩
  intro h
  have hsymm : ∀ {a b : Write}, (∃ db, a.apply (b.apply db) ≠ b.apply (a.apply db)) →
      ∃ db, b.apply (a.apply db) ≠ a.apply (b.apply db) := fun ⟨db, hdb⟩ => ⟨db, hdb.symm⟩
  match a, b, h with
  | .register u p, .register _ p', ⟨rfl, hp⟩ => exact register_register_conflict u hp
  | .register u p, .deleteAccount _ p', rfl => exact register_deleteAccount_conflict u p p'
  | .deleteAccount u p, .register _ p', rfl => exact hsymm (register_deleteAccount_conflict u p' p)
  | .sendMessage s r t, .register u p, h => exact sendMessage_register_conflict t p h
  | .register u p, .sendMessage s r t, h => exact hsymm (sendMessage_register_conflict t p h)
  | .sendMessage s r t, .deleteAccount u p, h => exact sendMessage_deleteAccount_conflict t p h
  | .deleteAccount u p, .sendMessage s r t, h =>
    exact hsymm (sendMessage_deleteAccount_conflict t p h)
  | .sendMessage s r t, .sendMessage s' _ t', ⟨rfl, h⟩ => exact sendMessage_sendMessage_conflict r h

/-! ## Agreement -/

section Agreement

variable {ι : Type} [DecidableEq ι]

/-- Writes that conflict come to server 2 and to the leader in the order in which they come to
server 1. -/
def InOrder (ops : ι → Write) (es : List (Event ι)) : Prop :=
  ∀ a b, (ops a).Conflicts (ops b) → [a, b] <+ order 1 es →
    [a, b] <+ order 2 es ∧ [a, b] <+ order 0 es

variable {ops : ι → Write} {db : Db} {es : List (Event ι)} {net : Net ι}

/-- What a server has performed is what it has come to, when it has dropped nothing. -/
lemma performed_eq_order (hrun : Foundation.run step es (.start ops db) = .ok net)
    (hkept : ∀ s, ∀ i ∈ order s es, i ∈ net.performed s) (s : ServerId) :
    net.performed s = order s es := by
  obtain ⟨h, hk⟩ := tracked_run hrun
  exact (hk.sublist s).eq_of_length_le ((h.nodup s).subperm (hkept s)).length_le

/-- In every run in which no server drops a request and writes that conflict come to all servers in
one order, the servers have the same passwords and the same messages once all requests have been
answered. -/
theorem agree_of_inOrder (hrun : Foundation.run step es (.start ops db) = .ok net)
    (hanswered : ∀ i, (net.phase i).isAnswered)
    (hkept : ∀ s, ∀ i ∈ order s es, i ∈ net.performed s) (horder : InOrder ops es)
    (s s' : ServerId) :
    (∀ username : String, (net.server s).db.passwords[username]? =
      (net.server s').db.passwords[username]?) ∧
    ∀ receiver, (net.server s).db.messages receiver = (net.server s').db.messages receiver := by
  obtain ⟨h, hk⟩ := tracked_run hrun
  have hone : ∀ t, (net.server t).db = (net.server 1).db := by
    intro t
    have hperm : (order 1 es).Perm (order t es) := by
      refine (List.perm_ext_iff_of_nodup (h.nodup 1) (h.nodup t)).mpr ?_
      intro i
      exact iff_of_true (h.mem_order_of_answered (hanswered i) 1)
        (h.mem_order_of_answered (hanswered i) t)
    rw [hk.db t, hk.db 1, performed_eq_order hrun hkept, performed_eq_order hrun hkept]
    symm
    refine foldl_eq_of_order _ (fun a b => (ops a).Conflicts (ops b))
      (fun a b hab db => apply_comm hab db) hperm (h.nodup 1) ?_ db
    intro a b hab hpair
    match t with
    | 0 => exact (horder a b hab hpair).2
    | 1 => exact hpair
    | 2 => exact (horder a b hab hpair).1
  rw [hone s, hone s']
  exact ⟨fun _ => rfl, fun _ => rfl⟩

end Agreement

/-- Two handlers, one after the other. -/
def oneByOne : List (Event Handler) := alone .first ++ alone .second

/-- Two registrations of one name come to all servers in one order. -/
theorem agree_of_inOrder_oneByOne : ∃ net, Foundation.run step oneByOne
      (.start (twoWrites (.register "ann" "x") (.register "ann" "y")) ⟨∅, fun _ => []⟩) = .ok net ∧
    (∀ username : String, (net.server 1).db.passwords[username]? =
      (net.server 2).db.passwords[username]?) ∧
    ∀ receiver, (net.server 1).db.messages receiver = (net.server 2).db.messages receiver := by
  have hrun : ∃ net, Foundation.run step oneByOne
      (.start (twoWrites (.register "ann" "x") (.register "ann" "y")) ⟨∅, fun _ => []⟩) = .ok net ∧
      (∀ i, (net.phase i).isAnswered) ∧ ∀ s, ∀ i ∈ order s oneByOne, i ∈ net.performed s := by
    refine ⟨_, rfl, ?_, by decide⟩
    intro i
    match i with
    | .first | .second => trivial
  obtain ⟨net, hrun, hanswered, hkept⟩ := hrun
  exact ⟨net, hrun, agree_of_inOrder hrun hanswered hkept (fun _ _ _ h => ⟨h, h⟩) 1 2⟩

/-- Two clients register one name.  The first request comes to server 1 before the second, and to
server 2 after it. -/
def passing : List (Event Handler) :=
  [.send .first 1, .process .first 1, .receive .first 1, .send .second 1, .process .second 1,
    .receive .second 1, .send .second 2, .process .second 2, .receive .second 2, .send .first 2,
    .process .first 2, .receive .first 2, .finish .first, .finish .second]

/-- No server drops a request, and yet the followers end up with different passwords. -/
theorem passing_writes_diverge :
    ∃ net, Foundation.run step passing
        (.start (twoWrites (.register "ann" "x") (.register "ann" "y")) ⟨∅, fun _ => []⟩) =
          .ok net ∧
      (∀ i, (net.phase i).isAnswered) ∧ (∀ s, ∀ i ∈ order s passing, i ∈ net.performed s) ∧
      (net.server 1).db.passwords["ann"]? = some "x" ∧
      (net.server 2).db.passwords["ann"]? = some "y" := by
  refine ⟨_, rfl, ?_, by decide, rfl, rfl⟩
  intro i
  match i with
  | .first | .second => trivial

end Chat262.Replication
