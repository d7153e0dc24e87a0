import Chat262.Server.MessageLog

/-!
# The users refer to each other consistently

The representation invariant of `users_`, read off `MirrorsLog`: every user is stored under its own
name, which is a used one, and chats come in pairs.  The two copies of a chat between two users
exist together and show the same texts with opposite senders (`ChatsPaired`).

`delete_user` relies on it.  Its loop finds every correspondent registered, and afterwards nobody
has a chat with the deleted user.  It does not cover a user who has a chat with itself: then the
loop erases the element it stands on.  `deletesCleanly_iff` says that this, and a session whose user
is no longer registered, are the only ways in which a deletion goes wrong.
-/

namespace Chat262

open Std (ExtTreeMap)
open Foundation

/-! ## Paired chats -/

/-- Two copies of one text: the same content, with opposite senders. -/
def Text.Opposite (t t' : Text) : Prop :=
  t.content = t'.content ∧
    (t.sender = Text.senderYou ∧ t'.sender = Text.senderOther ∨
      t.sender = Text.senderOther ∧ t'.sender = Text.senderYou)

/-- The representation invariant of `users_`. -/
structure ChatsPaired (db : Database) : Prop where
  /-- A user's record carries the name it is stored under, and the name counts as used. -/
  names : ∀ (k : ByteString) (u : User), db.users[k]? = some u →
    u.username = k ∧ k ∈ db.historicalUsers
  /-- Whoever a user has a chat with is registered and has the chat as well. -/
  symmetric : ∀ (k v : ByteString) (u : User), db.users[k]? = some u → v ∈ u.chats →
    ∃ w, db.users[v]? = some w ∧ k ∈ w.chats
  /-- The copies that two users keep of their chat have the same texts with opposite senders. -/
  opposite : ∀ (k v : ByteString) (u w : User) (c c' : Chat), k ≠ v →
    db.users[k]? = some u → db.users[v]? = some w → u.chats[v]? = some c → w.chats[k]? = some c' →
    List.Forall₂ Text.Opposite c.texts c'.texts

/-- Two users see a log entry with opposite senders. -/
lemma opposite_seenBy {u v : ByteString} (huv : u ≠ v) (m : LogEntry) :
    List.Forall₂ Text.Opposite (m.seenBy u v) (m.seenBy v u) := by
  unfold LogEntry.seenBy
  by_cases hto : m.sender = u ∧ m.recipient = v
  · have hfrom : ¬(m.sender = v ∧ m.recipient = u) := fun h => huv (hto.1.symm.trans h.1)
    simp only [if_pos hto, if_neg hfrom, List.append_nil, List.nil_append]
    exact .cons ⟨rfl, .inl ⟨rfl, rfl⟩⟩ .nil
  · by_cases hfrom : m.sender = v ∧ m.recipient = u
    · simp only [if_neg hto, if_pos hfrom, List.append_nil, List.nil_append]
      exact .cons ⟨rfl, .inr ⟨rfl, rfl⟩⟩ .nil
    · simp only [if_neg hto, if_neg hfrom, List.append_nil]
      exact .nil

/-- Two users see the log with opposite senders. -/
lemma opposite_conversation {u v : ByteString} (huv : u ≠ v) (log : List LogEntry) :
    List.Forall₂ Text.Opposite (conversation u v log) (conversation v u log) := by
  induction log with
  | nil => exact .nil
  | cons m log ih =>
    exact List.rel_append (opposite_seenBy huv m) ih

/-- A database that mirrors a log has paired chats. -/
lemma MirrorsLog.chatsPaired {log : List LogEntry} {db : Database} (h : MirrorsLog log db) :
    ChatsPaired db := by
  have hchat {k v : ByteString} {u : User} {c : Chat} (hu : db.users[k]? = some u)
      (hc : u.chats[v]? = some c) :
      (v ∈ db.users ∧ conversation k v log ≠ []) ∧ c = ⟨conversation k v log⟩ := by
    have hk : k ∈ db.users := ExtTreeMap.mem_iff_isSome_getElem?.mpr (by simp [hu])
    have hcopy : chatOf db.users k v = some c := by simp [chatOf, hu, hc]
    rw [h.chats k hk v] at hcopy
    split_ifs at hcopy with htalked
    exact ⟨htalked, (Option.some.inj hcopy).symm⟩
  constructor
  case names =>
    intro k u hu
    exact ⟨h.names k u hu, h.past k (ExtTreeMap.mem_iff_isSome_getElem?.mpr (by simp [hu]))⟩
  case symmetric =>
    intro k v u hu hv
    obtain ⟨c, hc⟩ := Option.isSome_iff_exists.mp (ExtTreeMap.mem_iff_isSome_getElem?.mp hv)
    obtain ⟨hvmem, htalked⟩ := (hchat hu hc).1
    obtain ⟨w, hw⟩ := Option.isSome_iff_exists.mp (ExtTreeMap.mem_iff_isSome_getElem?.mp hvmem)
    have hk : k ∈ db.users := ExtTreeMap.mem_iff_isSome_getElem?.mpr (by simp [hu])
    have hback : chatOf db.users v k = some ⟨conversation v k log⟩ := by
      rw [h.chats v hvmem k, if_pos ⟨hk, conversation_ne_nil_comm.mp htalked⟩]
    refine ⟨w, hw, ExtTreeMap.mem_iff_isSome_getElem?.mpr ?_⟩
    rw [chatOf, hw, Option.bind_some] at hback
    simp [hback]
  case opposite =>
    intro k v u w c c' hkv hu hw hc hc'
    rw [(hchat hu hc).2, (hchat hw hc').2]
    exact opposite_conversation hkv log

/-- In a database with paired chats, the loop of `delete_user` finds every correspondent. -/
lemma ChatsPaired.exec_ne {db : Database} (h : ChatsPaired db) (e : Event) :
    exec e db ≠ .error .correspondentOutOfRange := by
  intro hexec
  obtain ⟨name, -, ⟨-, hlookup⟩ | ⟨u, -, huser, hloop⟩⟩ := of_exec_eq_error hexec
  · cases hlookup
  · rcases of_foldlM_dropChat_eq_error hloop with ⟨-, c, hc, hnot⟩ | ⟨hname, -⟩
    · obtain ⟨w, hw, -⟩ := h.symmetric name c u huser (ExtTreeMap.mem_keys.mp hc)
      exact hnot (ExtTreeMap.mem_iff_isSome_getElem?.mpr (by simp [hw]))
    · cases hname

/-- In a database with paired chats nobody has a chat with a user who is not registered. -/
lemma ChatsPaired.not_mem_chats {db : Database} (h : ChatsPaired db) {name : ByteString}
    (hname : name ∉ db.users) {k : ByteString} {u : User} (hu : db.users[k]? = some u) :
    name ∉ u.chats := by
  intro hmem
  obtain ⟨w, hw, -⟩ := h.symmetric k name u hu hmem
  exact hname (ExtTreeMap.mem_iff_isSome_getElem?.mpr (by simp [hw]))

/-- Every database that a run reaches has paired chats. -/
lemma chatsPaired_of_run {es : List Event} {db : Database} (hrun : run exec es .empty = .ok db) :
    ChatsPaired db :=
  (mirrorsLog_of_run hrun).chatsPaired

/-- A `delete_user` returns ok when the session's user is found and the loop ends, and then it has
erased the user and the session. -/
lemma exec_deleteUser_eq_ok {tid : ThreadId} {name : ByteString} {db db' : Database}
    (hsession : db.threads[tid]? = some name) :
    exec ⟨tid, .deleteUser⟩ db = .ok (.status .ok, db') ↔
      ∃ u users, db.users[name]? = some u ∧
        u.chats.keys.foldlM (Database.dropChat name) db.users = .ok users ∧
        { db with users := users.erase name, threads := db.threads.erase tid } = db' := by
  simp only [exec, Database.deleteUser, hsession, map_eq_ok]
  constructor
  · rintro ⟨p, hp, hpr⟩
    obtain ⟨u, huser, hp⟩ := bind_eq_ok.mp hp
    obtain ⟨users, hloop, hp⟩ := bind_eq_ok.mp hp
    cases hp
    exact ⟨u, users, sessionUser_eq_ok.mp huser, hloop, congrArg Prod.snd hpr⟩
  · rintro ⟨u, users, huser, hloop, rfl⟩
    refine ⟨(.ok, _), bind_eq_ok.mpr ⟨u, sessionUser_eq_ok.mpr huser, ?_⟩, rfl⟩
    exact bind_eq_ok.mpr ⟨users, hloop, rfl⟩

/-- The chats are paired in every state that a run of database operations reaches.  So no
correspondent is missing when a user is deleted, and no chat with it is left behind. -/
theorem chatsPaired_and_deletions {es : List Event} {db : Database}
    (hrun : run exec es .empty = .ok db) :
    ChatsPaired db ∧ (∀ e, exec e db ≠ .error .correspondentOutOfRange) ∧
      ∀ (tid : ThreadId) (name : ByteString) (db' : Database), db.threads[tid]? = some name →
        exec ⟨tid, .deleteUser⟩ db = .ok (.status .ok, db') →
          ∀ (k : ByteString) (u : User), db'.users[k]? = some u → name ∉ u.chats := by
  have hpaired : ChatsPaired db := chatsPaired_of_run hrun
  refine ⟨hpaired, hpaired.exec_ne, ?_⟩
  intro tid name db' hsession hexec k u hu
  have hrun' : run exec (es ++ [⟨tid, .deleteUser⟩]) .empty = .ok db' :=
    run_concat_eq_ok.mpr ⟨db, _, hrun, hexec⟩
  have hgone : name ∉ db'.users := by
    obtain ⟨u, users, -, -, rfl⟩ := (exec_deleteUser_eq_ok hsession).mp hexec
    simp
  exact (chatsPaired_of_run hrun').not_mem_chats hgone hu

/-- After `smallTalk` the user `b` is deleted, and `a` no longer has a chat with it. -/
theorem chatsPaired_and_deletions_smallTalk :
    ∃ db db', run exec smallTalk .empty = .ok db ∧ ChatsPaired db ∧
      exec ⟨1, .deleteUser⟩ db = .ok (.status .ok, db') ∧
      ∃ u, db'.users[([97] : ByteString)]? = some u ∧ [98] ∉ u.chats := by
  obtain ⟨db, hrun⟩ : ∃ db, run exec smallTalk .empty = .ok db := ⟨_, rfl⟩
  obtain ⟨db', hsession, hexec, u, hu⟩ : ∃ db', db.threads[(1 : ThreadId)]? = some [98] ∧
      exec ⟨1, .deleteUser⟩ db = .ok (.status .ok, db') ∧
      ∃ u, db'.users[([97] : ByteString)]? = some u := by
    cases hrun
    exact ⟨_, by decide, rfl, _, rfl⟩
  have h := chatsPaired_and_deletions hrun
  exact ⟨db, db', hrun, h.1, hexec, u, hu, h.2.2 1 [98] db' hsession hexec [97] u hu⟩

/-! ## Clean deletions -/

/-- The correspondents for whom the loop of `delete_user` completes its round, in order. -/
def visited (name : ByteString) : List ByteString → Users → List ByteString
  | [], _ => []
  | c :: keys, users =>
    match Database.dropChat name users c with
    | .ok users' => c :: visited name keys users'
    | .error _ => []

/-- `delete_user` by the thread `tid`, logged in as `name`, goes as intended: the user is there, the
loop visits each of its correspondents once and changes nothing of the record it walks, and then the
user and the session are removed. -/
def DeletesCleanly (tid : ThreadId) (name : ByteString) (db : Database) : Prop :=
  ∃ u users, db.users[name]? = some u ∧
    u.chats.keys.foldlM (Database.dropChat name) db.users = .ok users ∧ users[name]? = some u ∧
    (visited name u.chats.keys db.users).Nodup ∧
    (∀ c, c ∈ visited name u.chats.keys db.users ↔ c ∈ u.chats) ∧
    ∃ db', exec ⟨tid, .deleteUser⟩ db = .ok (.status .ok, db') ∧
      name ∉ db'.users ∧ tid ∉ db'.threads

/-- A loop that ends has visited every correspondent. -/
lemma visited_eq_of_foldlM_eq_ok {name : ByteString} {keys : List ByteString} {users users' : Users}
    (h : keys.foldlM (Database.dropChat name) users = .ok users') :
    visited name keys users = keys := by
  induction keys generalizing users with
  | nil => rfl
  | cons c keys ih =>
    rw [List.foldlM_cons] at h
    obtain ⟨users₁, hround, hrest⟩ := bind_eq_ok.mp h
    simp only [visited, hround, ih hrest]

/-- In a database with paired chats, the loop over a user's chats ends if the user has none with
itself. -/
lemma ChatsPaired.foldlM_dropChat_eq_ok {db : Database} (h : ChatsPaired db) {name : ByteString}
    {u : User} (huser : db.users[name]? = some u) (hself : name ∉ u.chats) :
    ∃ users, u.chats.keys.foldlM (Database.dropChat name) db.users = .ok users := by
  cases hloop : u.chats.keys.foldlM (Database.dropChat name) db.users with
  | ok users => exact ⟨users, rfl⟩
  | error a =>
    rcases of_foldlM_dropChat_eq_error hloop with ⟨-, c, hc, hnot⟩ | ⟨-, hname⟩
    · obtain ⟨w, hw, -⟩ := h.symmetric name c u huser (ExtTreeMap.mem_keys.mp hc)
      exact absurd (ExtTreeMap.mem_iff_isSome_getElem?.mpr (by simp [hw])) hnot
    · exact absurd (ExtTreeMap.mem_keys.mp hname) hself

/-- In every reachable state, `delete_user` by a logged-in thread goes as intended exactly if the
user of the session is registered and has no chat with itself. -/
theorem deletesCleanly_iff {es : List Event} {db : Database} (hrun : run exec es .empty = .ok db)
    {tid : ThreadId} {name : ByteString} (hsession : db.threads[tid]? = some name) :
    DeletesCleanly tid name db ↔ ∃ u, db.users[name]? = some u ∧ name ∉ u.chats := by
  constructor
  · rintro ⟨u, users, huser, hloop, -⟩
    refine ⟨u, huser, fun hself => ?_⟩
    exact ((of_foldlM_dropChat_eq_ok hloop).1 name (ExtTreeMap.mem_keys.mpr hself)).2 rfl
  · rintro ⟨u, huser, hself⟩
    obtain ⟨users, hloop⟩ := (chatsPaired_of_run hrun).foldlM_dropChat_eq_ok huser hself
    have hvisited := visited_eq_of_foldlM_eq_ok hloop
    have hrecord : users[name]? = some u := by
      rw [(of_foldlM_dropChat_eq_ok hloop).2 name, if_neg (by simpa using hself), huser]
    refine ⟨u, users, huser, hloop, hrecord, ?_, ?_, _,
      (exec_deleteUser_eq_ok hsession).mpr ⟨u, users, huser, hloop, rfl⟩, by simp, by simp⟩
    · rw [hvisited]
      exact ExtTreeMap.nodup_keys
    · intro c
      rw [hvisited, ExtTreeMap.mem_keys]

/-- In `smallTalk` the user `b` has a chat with `a` only, so it can be deleted. -/
theorem deletesCleanly_smallTalk :
    ∃ db, run exec smallTalk .empty = .ok db ∧ db.threads[(1 : ThreadId)]? = some [98] ∧
      DeletesCleanly 1 [98] db := by
  obtain ⟨db, hrun⟩ : ∃ db, run exec smallTalk .empty = .ok db := ⟨_, rfl⟩
  have hstate : db.threads[(1 : ThreadId)]? = some [98] ∧
      ∃ u, db.users[([98] : ByteString)]? = some u ∧ [98] ∉ u.chats := by
    cases hrun
    exact ⟨by decide, _, rfl, by decide⟩
  exact ⟨db, hrun, hstate.1, (deletesCleanly_iff hrun hstate.1).mpr hstate.2⟩

/-- In `smallTalk` the user `a` has written to itself, and its deletion erases the element that the
loop stands on. -/
theorem smallTalk_selfErase :
    ∃ db, run exec smallTalk .empty = .ok db ∧ db.threads[(0 : ThreadId)]? = some [97] ∧
      exec ⟨0, .deleteUser⟩ db = .error .iteratorInvalidated ∧ ¬ DeletesCleanly 0 [97] db := by
  obtain ⟨db, hrun⟩ : ∃ db, run exec smallTalk .empty = .ok db := ⟨_, rfl⟩
  have habort : exec ⟨0, .deleteUser⟩ db = .error .iteratorInvalidated := by
    cases hrun
    rfl
  have hsession : db.threads[(0 : ThreadId)]? = some [97] := by
    cases hrun
    decide
  refine ⟨db, hrun, hsession, habort, ?_⟩
  rintro ⟨u, users, -, -, -, -, -, db', hexec, -⟩
  rw [habort] at hexec
  cases hexec

end Chat262
