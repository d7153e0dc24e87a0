import Chat262.Server.MessageLog

/-!
# Conversations are confidential

Two runs of database operations that differ only in texts that other users than `w` send to other
users than `w` look the same to `w`.  `Variant` relates the two runs, `observations` is what `w`
gets to see of a run, together with all registrations and logins, and `noninterference` is the
result.

It is proved by unwinding: `Indistinct w` relates two databases that agree on the users and their
passwords, the sessions, and every chat in which `w` takes part, on either side.  A hidden send
leaves this relation alone, an operation that happens in both runs keeps it, and the thread of `w`
gets the same replies in databases so related.
-/

namespace Chat262

open Std (ExtTreeMap)

/-! ## Runs that differ in hidden texts -/

/-- A text that the thread `tid` sends to `recipient` is hidden from `w`: the thread is logged in as
another user, and the recipient is another user. -/
def Hidden (w : ByteString) (tid : ThreadId) (recipient : ByteString) (db : Database) : Prop :=
  (∃ name, db.threads[tid]? = some name ∧ name ≠ w) ∧ recipient ≠ w

/-- The second run is the first one, from the database `db`, except that some hidden texts are
different or are left out. -/
inductive Variant (w : ByteString) : Database → List Event → List Event → Prop
  /-- Nothing is left. -/
  | nil (db : Database) : Variant w db [] []
  /-- The next operation is the same. -/
  | same {db db' : Database} {es es' : List Event} (e : Event) {reply : Reply}
      (hexec : exec e db = .ok (reply, db')) (hrest : Variant w db' es es') :
      Variant w db (e :: es) (e :: es')
  /-- A hidden text is different. -/
  | changed {db db' : Database} {es es' : List Event} {tid : ThreadId} {recipient txt : ByteString}
      (txt' : ByteString) (hhidden : Hidden w tid recipient db) {reply : Reply}
      (hexec : exec ⟨tid, .sendTxt recipient txt⟩ db = .ok (reply, db'))
      (hrest : Variant w db' es es') :
      Variant w db (⟨tid, .sendTxt recipient txt⟩ :: es) (⟨tid, .sendTxt recipient txt'⟩ :: es')
  /-- A hidden text is left out. -/
  | omitted {db db' : Database} {es es' : List Event} {tid : ThreadId} {recipient txt : ByteString}
      (hhidden : Hidden w tid recipient db) {reply : Reply}
      (hexec : exec ⟨tid, .sendTxt recipient txt⟩ db = .ok (reply, db'))
      (hrest : Variant w db' es es') : Variant w db (⟨tid, .sendTxt recipient txt⟩ :: es) es'

/-! ## What a user observes -/

/-- A reply as it is looked at: the order of the correspondents does not count. -/
inductive View where
  /-- Any other reply. -/
  | reply (r : Reply)
  /-- The correspondents, as a set. -/
  | correspondents (s : Status) (names : Finset ByteString)
deriving DecidableEq

/-- How a reply is looked at. -/
def Reply.view : Reply → View
  | .correspondents s l => .correspondents s l.toFinset
  | r => .reply r

/-- The operation is a registration or a login. -/
def Operation.IsPublic : Operation → Bool
  | .registration _ _ | .login _ _ => true
  | _ => false

/-- What is observed of an operation: its result, if its thread is logged in as `w` or it is a
registration or a login. -/
def observed (w : ByteString) (e : Event) (db : Database) : List (Event × View) :=
  if db.threads[e.tid]? = some w ∨ e.op.IsPublic then
    match exec e db with
    | .ok (reply, _) => [(e, reply.view)]
    | .error _ => []
  else []

/-- What is observed of a run. -/
def observations (w : ByteString) (es : List Event) (db : Database) : List (Event × View) :=
  Foundation.collect exec (observed w) es db

/-! ## Databases that look the same -/

/-- The name and the password of a record. -/
def User.credentials (u : User) : ByteString × ByteString := (u.username, u.password)

/-- Two databases look the same to `w`. -/
structure Indistinct (w : ByteString) (db db' : Database) : Prop where
  threads : db.threads = db'.threads
  historicalUsers : db.historicalUsers = db'.historicalUsers
  credentials : ∀ k : ByteString,
    db.users[k]?.map User.credentials = db'.users[k]?.map User.credentials
  own : ∀ v, chatOf db.users w v = chatOf db'.users w v
  /-- The chats of the others with `w` are the same. -/
  others : ∀ v, chatOf db.users v w = chatOf db'.users v w

namespace Indistinct

variable {w : ByteString} {db db' : Database}

/-- Every database looks like itself. -/
lemma refl (w : ByteString) (db : Database) : Indistinct w db db :=
  ⟨rfl, rfl, fun _ => rfl, fun _ => rfl, fun _ => rfl⟩

/-- Looking the same is symmetric. -/
lemma symm (h : Indistinct w db db') : Indistinct w db' db :=
  ⟨h.threads.symm, h.historicalUsers.symm, fun k => (h.credentials k).symm, fun v => (h.own v).symm,
    fun v => (h.others v).symm⟩

/-- The registered names are the same. -/
lemma mem_users (h : Indistinct w db db') (k : ByteString) : k ∈ db.users ↔ k ∈ db'.users := by
  have hk := congrArg Option.isSome (h.credentials k)
  rw [Option.isSome_map, Option.isSome_map] at hk
  rw [ExtTreeMap.mem_iff_isSome_getElem?, ExtTreeMap.mem_iff_isSome_getElem?, hk]

/-- A registered user is registered in the other database with the same credentials. -/
lemma getElem?_users (h : Indistinct w db db') {k : ByteString} {u : User}
    (hu : db.users[k]? = some u) :
    ∃ u', db'.users[k]? = some u' ∧ u'.username = u.username ∧ u'.password = u.password := by
  have hk := h.credentials k
  rw [hu] at hk
  obtain ⟨u', hu', heq⟩ := Option.map_eq_some_iff.mp hk.symm
  exact ⟨u', hu', congrArg Prod.fst heq, congrArg Prod.snd heq⟩

/-- The registered names are listed in the same order. -/
lemma keys_users (h : Indistinct w db db') : db.users.keys = db'.users.keys := by
  have hmap : db.users.map (fun _ => User.credentials) =
      db'.users.map (fun _ => User.credentials) := by
    apply ExtTreeMap.ext_getElem?
    intro k
    rw [ExtTreeMap.getElem?_map, ExtTreeMap.getElem?_map]
    exact h.credentials k
  have hkeys := congrArg ExtTreeMap.keys hmap
  rwa [ExtTreeMap.keys_map, ExtTreeMap.keys_map] at hkeys

/-- The relation reads the users, the used names and the sessions. -/
lemma of_threads (h : Indistinct w db db')
    {threads threads' : ExtTreeMap ThreadId ByteString compare} (hthreads : threads = threads') :
    Indistinct w { db with threads := threads } { db' with threads := threads' } :=
  ⟨hthreads, h.historicalUsers, h.credentials, h.own, h.others⟩

/-- Registering a name in both databases. -/
lemma registered (h : Indistinct w db db') (u p : ByteString) (hnew : u ∉ db.users) :
    Indistinct w
      { db with
        users := db.users.insertIfNew u ⟨u, p, ∅⟩
        historicalUsers := db.historicalUsers.insert u }
      { db' with
        users := db'.users.insertIfNew u ⟨u, p, ∅⟩
        historicalUsers := db'.historicalUsers.insert u } := by
  have hnew' : u ∉ db'.users := fun hu => hnew ((h.mem_users u).mpr hu)
  have hchat {d : Database} (hu : u ∉ d.users) (a b : ByteString) :
      chatOf (d.users.insertIfNew u ⟨u, p, ∅⟩) a b =
        if a = u then none else chatOf d.users a b := by
    unfold chatOf
    rw [MirrorsLog.getElem?_register hu]
    split_ifs <;> simp
  constructor
  case threads => exact h.threads
  case historicalUsers => exact congrArg (·.insert u) h.historicalUsers
  case credentials =>
    intro k
    have hk := h.credentials k
    simp only [MirrorsLog.getElem?_register hnew, MirrorsLog.getElem?_register hnew']
    split_ifs
    · rfl
    · exact hk
  case own =>
    intro v
    dsimp only
    rw [hchat hnew, hchat hnew', h.own v]
  case others =>
    intro v
    dsimp only
    rw [hchat hnew, hchat hnew', h.others v]

/-- A text that is sent in both databases. -/
lemma sent (h : Indistinct w db db') {name r : ByteString} (hname : name ∈ db.users)
    (hr : r ∈ db.users) (txt : ByteString) :
    Indistinct w { db with users := afterSend name name r txt db.users }
      { db' with users := afterSend name name r txt db'.users } := by
  have hname' := (h.mem_users name).mp hname
  have hr' := (h.mem_users r).mp hr
  constructor
  case threads => exact h.threads
  case historicalUsers => exact h.historicalUsers
  case credentials =>
    intro k
    exact (credentials_afterSend name name r txt k db.users).trans
      ((h.credentials k).trans (credentials_afterSend name name r txt k db'.users).symm)
  case own =>
    intro v
    dsimp only
    rw [chatOf_afterSend hname hr, chatOf_afterSend hname' hr', h.own v]
  case others =>
    intro v
    dsimp only
    rw [chatOf_afterSend hname hr, chatOf_afterSend hname' hr', h.others v]

/-- A text between other users that is sent in the first database only. -/
lemma hiddenSend (h : Indistinct w db db') {name r : ByteString} (hname : name ∈ db.users)
    (hr : r ∈ db.users) (hnamew : name ≠ w) (hrw : r ≠ w) (txt : ByteString) :
    Indistinct w { db with users := afterSend name name r txt db.users } db' := by
  have hunseen (a b : ByteString) (hw : a = w ∨ b = w) :
      chatOf (afterSend name name r txt db.users) a b = chatOf db.users a b := by
    rw [chatOf_afterSend hname hr, if_neg]
    rintro (⟨rfl, rfl⟩ | ⟨rfl, rfl⟩)
    · rcases hw with hw | hw
      · exact hnamew hw
      · exact hrw hw
    · rcases hw with hw | hw
      · exact hrw hw
      · exact hnamew hw
  constructor
  case threads => exact h.threads
  case historicalUsers => exact h.historicalUsers
  case credentials =>
    exact fun k => (credentials_afterSend name name r txt k db.users).trans (h.credentials k)
  case own => exact fun v => (hunseen w v (.inl rfl)).trans (h.own v)
  case others => exact fun v => (hunseen v w (.inr rfl)).trans (h.others v)

/-- A name is among the correspondents of a user exactly when there is a chat. -/
lemma mem_keys_chats {users : Users} {name : ByteString} {u : User} (hu : users[name]? = some u)
    (v : ByteString) : v ∈ u.chats.keys ↔ chatOf users name v ≠ none := by
  rw [ExtTreeMap.mem_keys, ExtTreeMap.mem_iff_isSome_getElem?]
  simp [chatOf, hu]

/-- Deleting a user leaves the credentials of the others alone. -/
lemma credentials_deleted {name : ByteString} {keys : List ByteString} {users users' : Users}
    (hloop : keys.foldlM (Database.dropChat name) users = .ok users') (k : ByteString) :
    (users'.erase name)[k]?.map User.credentials =
      if name = k then none else users[k]?.map User.credentials :=
  getElem?_deleted_map (fun _ _ => rfl) hloop k

/-- A deleted user has no chats. -/
lemma chatOf_erase_self (users : Users) (name v : ByteString) :
    chatOf (users.erase name) name v = none := by
  simp [chatOf]

/-- A user is deleted in both databases.  The correspondents of another user may differ, but `w` is
among them in both or in neither. -/
lemma deleted (h : Indistinct w db db') {name : ByteString} {u u' : User} {users users' : Users}
    (hu : db.users[name]? = some u) (hu' : db'.users[name]? = some u')
    (hloop : u.chats.keys.foldlM (Database.dropChat name) db.users = .ok users)
    (hloop' : u'.chats.keys.foldlM (Database.dropChat name) db'.users = .ok users') :
    Indistinct w { db with users := users.erase name } { db' with users := users'.erase name } := by
  constructor
  case threads => exact h.threads
  case historicalUsers => exact h.historicalUsers
  case credentials =>
    intro k
    dsimp only
    rw [credentials_deleted hloop, credentials_deleted hloop', h.credentials k]
  case own =>
    intro v
    dsimp only
    by_cases hw : w = name
    · subst hw
      rw [chatOf_erase_self, chatOf_erase_self]
    · have hkeys : w ∈ u.chats.keys ↔ w ∈ u'.chats.keys := by
        rw [mem_keys_chats hu, mem_keys_chats hu', h.others name]
      rw [MirrorsLog.chatOf_deleted hloop hw, MirrorsLog.chatOf_deleted hloop' hw, h.own v]
      simp only [hkeys]
  case others =>
    intro v
    dsimp only
    by_cases hv : v = name
    · subst hv
      rw [chatOf_erase_self, chatOf_erase_self]
    · rw [MirrorsLog.chatOf_deleted hloop hv, MirrorsLog.chatOf_deleted hloop' hv, h.others v]
      by_cases hw : w = name
      · subst hw
        have hkeys : v ∈ u.chats.keys ↔ v ∈ u'.chats.keys := by
          rw [mem_keys_chats hu, mem_keys_chats hu', h.own v]
        simp only [hkeys]
      · simp only [hw, and_false, if_false]

/-- The same operations are refused. -/
lemma refused_iff (h : Indistinct w db db') (e : Event) : Refused e db ↔ Refused e db' := by
  unfold Refused
  cases e.op with
  | registration u p =>
    dsimp only
    rw [h.mem_users u, h.historicalUsers]
  | login u p =>
    dsimp only
    rw [h.threads]
    refine or_congr_right ⟨?_, ?_⟩
    · intro hpass user' huser'
      obtain ⟨user, huser, -, hpassword⟩ := h.symm.getElem?_users huser'
      rw [← hpassword]
      exact hpass user huser
    · intro hpass user huser
      obtain ⟨user', huser', -, hpassword⟩ := h.getElem?_users huser
      rw [← hpassword]
      exact hpass user' huser'
  | logout =>
    dsimp only
    rw [h.threads]
  | sendTxt r txt =>
    dsimp only
    rw [h.threads, h.mem_users r]
  | deleteUser =>
    dsimp only
    rw [h.threads]
  | _ => rfl

end Indistinct

/-! ## One operation -/

/-- A refused operation reports an error and changes nothing. -/
lemma of_refused {e : Event} {db d : Database} {reply : Reply} (hwhy : Refused e db)
    (hexec : exec e db = .ok (reply, d)) : reply = .status .error ∧ d = db := by
  cases exec_effect hexec with
  | rejected _ => exact ⟨rfl, rfl⟩
  | registered u p hop hnew hpast =>
    rw [Refused, hop] at hwhy
    exact absurd hwhy (not_or.mpr ⟨hnew, hpast⟩)
  | loggedIn u p user hop hout huser hpass =>
    rw [Refused, hop] at hwhy
    exact absurd hwhy (not_or.mpr ⟨hout, fun hall => hall user huser hpass⟩)
  | loggedOut hop hin =>
    rw [Refused, hop] at hwhy
    exact absurd hin hwhy
  | sent r txt name sender hop hsession hsender hr =>
    rw [Refused, hop] at hwhy
    rcases hwhy with hnone | hnot
    · rw [hsession] at hnone
      cases hnone
    · exact absurd hr hnot
  | deleted name u users hop hsession huser hloop =>
    rw [Refused, hop] at hwhy
    rw [hsession] at hwhy
    cases hwhy
  | read _ hread =>
    unfold Refused at hwhy
    unfold Operation.IsRead at hread
    cases hop : e.op <;> simp only [hop] at hwhy hread

/-- An operation that happens in two databases that look the same leaves two that look the same, and
if it changes anything it gives the same reply in both. -/
lemma Indistinct.exec_same {w : ByteString} {db db' d d' : Database} (h : Indistinct w db db')
    (hnames : ∀ (k : ByteString) (u : User), db.users[k]? = some u → u.username = k)
    {e : Event} {reply reply' : Reply} (hexec : exec e db = .ok (reply, d))
    (hexec' : exec e db' = .ok (reply', d')) :
    Indistinct w d d' ∧ (¬ e.op.IsRead → reply = reply') := by
  by_cases hwhy : Refused e db
  · obtain ⟨rfl, rfl⟩ := of_refused hwhy hexec
    obtain ⟨rfl, rfl⟩ := of_refused ((h.refused_iff e).mp hwhy) hexec'
    exact ⟨h, fun _ => rfl⟩
  have hwhy' : ¬ Refused e db' := fun hwhy' => hwhy ((h.refused_iff e).mpr hwhy')
  cases exec_effect hexec with
  | rejected hrefused => exact absurd hrefused hwhy
  | registered u p hop hnew hpast =>
    cases exec_effect hexec' with
    | rejected hrefused => exact absurd hrefused hwhy'
    | registered u' p' hop' =>
      rw [hop] at hop'
      cases hop'
      exact ⟨h.registered u p hnew, fun _ => rfl⟩
    | read _ hread => simp [hop, Operation.IsRead] at hread
    | _ => simp_all
  | loggedIn u p user hop hout huser hpass =>
    cases exec_effect hexec' with
    | rejected hrefused => exact absurd hrefused hwhy'
    | loggedIn u' p' user' hop' =>
      rw [hop] at hop'
      cases hop'
      exact ⟨h.of_threads (congrArg (·.insertIfNew e.tid u) h.threads), fun _ => rfl⟩
    | read _ hread => simp [hop, Operation.IsRead] at hread
    | _ => simp_all
  | loggedOut hop hin =>
    cases exec_effect hexec' with
    | rejected hrefused => exact absurd hrefused hwhy'
    | loggedOut hop' => exact ⟨h.of_threads (congrArg (·.erase e.tid) h.threads), fun _ => rfl⟩
    | read _ hread => simp [hop, Operation.IsRead] at hread
    | _ => simp_all
  | sent r txt name sender hop hsession hsender hr =>
    cases exec_effect hexec' with
    | rejected hrefused => exact absurd hrefused hwhy'
    | sent r' txt' name' sender' hop' hsession' hsender' hr' =>
      rw [hop] at hop'
      cases hop'
      rw [← h.threads, hsession] at hsession'
      cases hsession'
      obtain ⟨user', huser', husername, -⟩ := h.getElem?_users hsender
      rw [hsender'] at huser'
      cases huser'
      have hname : name ∈ db.users := ExtTreeMap.mem_iff_isSome_getElem?.mpr (by simp [hsender])
      rw [husername, hnames name sender hsender]
      exact ⟨h.sent hname hr txt, fun _ => rfl⟩
    | read _ hread => simp [hop, Operation.IsRead] at hread
    | _ => simp_all
  | deleted name u users hop hsession huser hloop =>
    cases exec_effect hexec' with
    | rejected hrefused => exact absurd hrefused hwhy'
    | deleted name' u' users' hop' hsession' huser' hloop' =>
      rw [← h.threads, hsession] at hsession'
      cases hsession'
      have hdeleted := h.deleted huser huser' hloop hloop'
      exact ⟨hdeleted.of_threads (congrArg (·.erase e.tid) h.threads), fun _ => rfl⟩
    | read _ hread => simp [hop, Operation.IsRead] at hread
    | _ => simp_all
  | read _ hread =>
    have hsame : db' = d' := by
      cases exec_effect hexec' with
      | rejected _ => rfl
      | read _ _ => rfl
      | _ => simp_all [Operation.IsRead]
    exact ⟨hsame ▸ h, fun hnot => absurd hread hnot⟩

/-- A hidden text leaves a database that looks the same. -/
lemma Indistinct.exec_hidden {w : ByteString} {db db' d : Database} (h : Indistinct w db db')
    (hnames : ∀ (k : ByteString) (u : User), db.users[k]? = some u → u.username = k)
    {tid : ThreadId} {recipient txt : ByteString} (hhidden : Hidden w tid recipient db)
    {reply : Reply} (hexec : exec ⟨tid, .sendTxt recipient txt⟩ db = .ok (reply, d)) :
    Indistinct w d db' := by
  cases exec_effect hexec with
  | rejected _ => exact h
  | sent r txt' name sender hop hsession hsender hr =>
    cases hop
    obtain ⟨⟨name', hname', hnamew⟩, hrw⟩ := hhidden
    rw [hsession] at hname'
    cases hname'
    have hname : name ∈ db.users := ExtTreeMap.mem_iff_isSome_getElem?.mpr (by simp [hsender])
    rw [hnames name sender hsender]
    exact h.hiddenSend hname hr hnamew hrw txt
  | read _ _ => exact h
  | _ => contradiction

/-- A hidden text is hidden in a database that looks the same. -/
lemma Indistinct.hidden {w : ByteString} {db db' : Database} (h : Indistinct w db db')
    {tid : ThreadId} {recipient : ByteString} (hhidden : Hidden w tid recipient db) :
    Hidden w tid recipient db' := by
  unfold Hidden at hhidden ⊢
  rwa [← h.threads]

/-- A thread that reads its chats is in charge of a registered user. -/
lemma user_of_read {tid : ThreadId} {op : Operation} {name : ByteString} {db d : Database}
    {reply : Reply} (hsession : db.threads[tid]? = some name)
    (hop : (∃ v c, op = .recvTxt v c) ∨ ∃ l, op = .getCorrespondents l)
    (hexec : exec ⟨tid, op⟩ db = .ok (reply, d)) : ∃ user, db.users[name]? = some user := by
  cases huser : db.users[name]? with
  | some user => exact ⟨user, rfl⟩
  | none =>
    have hlookup : db.sessionUser name = .error .sessionOutOfRange := by
      rw [Database.sessionUser, huser]
    rcases hop with ⟨v, c, rfl⟩ | ⟨l, rfl⟩
    · simp [exec, Database.recvTxt, hsession, hlookup, bind, Except.bind, Except.map] at hexec
    · simp [exec, Database.getCorrespondents, hsession, hlookup, bind, Except.bind,
        Except.map] at hexec

/-- What reads a database gives the thread of `w` the same in two databases that look the same. -/
lemma Indistinct.view_read {w : ByteString} {db db' d d' : Database} (h : Indistinct w db db')
    {e : Event} (hread : e.op.IsRead) (hsession : db.threads[e.tid]? = some w)
    {reply reply' : Reply} (hexec : exec e db = .ok (reply, d))
    (hexec' : exec e db' = .ok (reply', d')) : reply.view = reply'.view := by
  obtain ⟨tid, op⟩ := e
  dsimp only at hread hsession
  have hsession' : db'.threads[tid]? = some w := h.threads ▸ hsession
  cases op with
  | isLoggedIn =>
    cases hexec
    cases hexec'
    rw [Database.isLoggedIn, Database.isLoggedIn, h.threads]
  | getUsernames pattern =>
    cases hexec
    cases hexec'
    rw [Database.getUsernames, Database.getUsernames, h.keys_users]
  | recvTxt v c =>
    obtain ⟨user, huser⟩ := user_of_read hsession (.inl ⟨v, c, rfl⟩) hexec
    obtain ⟨user', huser'⟩ := user_of_read hsession' (.inl ⟨v, c, rfl⟩) hexec'
    by_cases hv : v ∈ db.users
    · rw [exec_recvTxt_of_mem hsession huser hv] at hexec
      rw [exec_recvTxt_of_mem hsession' huser' ((h.mem_users v).mp hv), ← h.own v] at hexec'
      cases hexec
      cases hexec'
      rfl
    · rw [exec_recvTxt_of_not_mem hsession huser hv] at hexec
      rw [exec_recvTxt_of_not_mem hsession' huser' ((h.mem_users v).not.mp hv)] at hexec'
      cases hexec
      cases hexec'
      rfl
  | getCorrespondents l =>
    obtain ⟨user, huser⟩ := user_of_read hsession (.inr ⟨l, rfl⟩) hexec
    obtain ⟨user', huser'⟩ := user_of_read hsession' (.inr ⟨l, rfl⟩) hexec'
    rw [exec_getCorrespondents hsession huser] at hexec
    rw [exec_getCorrespondents hsession' huser'] at hexec'
    cases hexec
    cases hexec'
    have hnames : user.chats.keys.toFinset = user'.chats.keys.toFinset := by
      ext v
      rw [List.mem_toFinset, List.mem_toFinset, mem_keys_chats huser, mem_keys_chats huser',
        h.own v]
    rw [Reply.view, Reply.view, hnames]
  | _ => exact hread.elim

/-- What is observed of an operation is the same in two databases that look the same. -/
lemma Indistinct.observed_same {w : ByteString} {db db' d d' : Database} (h : Indistinct w db db')
    (hnames : ∀ (k : ByteString) (u : User), db.users[k]? = some u → u.username = k)
    {e : Event} {reply reply' : Reply} (hexec : exec e db = .ok (reply, d))
    (hexec' : exec e db' = .ok (reply', d')) : observed w e db = observed w e db' := by
  obtain ⟨-, hreply⟩ := h.exec_same hnames hexec hexec'
  unfold observed
  rw [← h.threads]
  by_cases hseen : db.threads[e.tid]? = some w ∨ e.op.IsPublic
  · rw [if_pos hseen, if_pos hseen, hexec, hexec']
    by_cases hread : e.op.IsRead
    · have hsession : db.threads[e.tid]? = some w := by
        rcases hseen with hsession | hpublic
        · exact hsession
        · cases hop : e.op <;> simp [hop, Operation.IsRead, Operation.IsPublic] at hread hpublic
      dsimp only
      rw [h.view_read hread hsession hexec hexec']
    · dsimp only
      rw [hreply hread]
  · rw [if_neg hseen, if_neg hseen]

/-- Nothing is observed of a hidden text. -/
lemma observed_hidden {w : ByteString} {db : Database} {tid : ThreadId}
    {recipient : ByteString} (hhidden : Hidden w tid recipient db) (txt : ByteString) :
    observed w ⟨tid, .sendTxt recipient txt⟩ db = [] := by
  obtain ⟨⟨name, hsession, hname⟩, -⟩ := hhidden
  rw [observed, if_neg]
  simp [hsession, hname, Operation.IsPublic]

/-! ## Whole runs -/

/-- The users' records carry their names, in every database that mirrors a log. -/
def Mirrored (db : Database) : Prop := ∃ log, MirrorsLog log db

/-- An operation keeps the database mirroring a log. -/
lemma Mirrored.step {db d : Database} (h : Mirrored db) {e : Event} {reply : Reply}
    (hexec : exec e db = .ok (reply, d)) : Mirrored d := by
  obtain ⟨log, hlog⟩ := h
  exact ⟨_, hlog.step hexec⟩

/-- From databases that look the same, a run and a variant of it are observed alike. -/
theorem observations_of_variant {w : ByteString} {db db' f f' : Database} {es es' : List Event}
    (hvariant : Variant w db es es') (h : Indistinct w db db') (hdb : Mirrored db)
    (hdb' : Mirrored db') (hrun : Foundation.run exec es db = .ok f)
    (hrun' : Foundation.run exec es' db' = .ok f') :
    observations w es db = observations w es' db' := by
  induction hvariant generalizing db' with
  | nil db => rfl
  | @same db d es es' e reply hexec hrest ih =>
    obtain ⟨reply', d', hexec', hrest'⟩ := Foundation.run_cons_eq_ok.mp hrun'
    rw [Foundation.run_cons hexec] at hrun
    obtain ⟨log, hlog⟩ := hdb
    have hsame := (h.exec_same hlog.names hexec hexec').1
    have hobserved := h.observed_same hlog.names hexec hexec'
    rw [observations, Foundation.collect_cons hexec, ← observations,
      ih hsame ⟨_, hlog.step hexec⟩ (hdb'.step hexec') hrun hrest', hobserved, observations,
      observations, Foundation.collect_cons hexec']
  | @changed db d es es' tid recipient txt txt' hhidden reply hexec hrest ih =>
    obtain ⟨reply', d', hexec', hrest'⟩ := Foundation.run_cons_eq_ok.mp hrun'
    rw [Foundation.run_cons hexec] at hrun
    obtain ⟨log, hlog⟩ := hdb
    obtain ⟨log', hlog'⟩ := hdb'
    have hfirst := h.exec_hidden hlog.names hhidden hexec
    have hboth := (hfirst.symm.exec_hidden hlog'.names (h.hidden hhidden) hexec').symm
    rw [observations, Foundation.collect_cons hexec, observed_hidden hhidden, ← observations,
      ih hboth ⟨_, hlog.step hexec⟩ ⟨_, hlog'.step hexec'⟩ hrun hrest', observations,
      observations, Foundation.collect_cons hexec', observed_hidden (h.hidden hhidden)]
  | @omitted db d es es' tid recipient txt hhidden reply hexec hrest ih =>
    rw [Foundation.run_cons hexec] at hrun
    obtain ⟨log, hlog⟩ := hdb
    have hfirst := h.exec_hidden hlog.names hhidden hexec
    rw [observations, Foundation.collect_cons hexec, observed_hidden hhidden, ← observations,
      ih hfirst ⟨_, hlog.step hexec⟩ hdb' hrun hrun', List.nil_append]

/-- Conversations are confidential: when a run of database operations and a variant of it both end
without an abort, all that happens while logged in as `w`, and all registrations and logins, have
the same results in both. -/
theorem noninterference {w : ByteString} {es es' : List Event} {db db' : Database}
    (hvariant : Variant w .empty es es') (hrun : Foundation.run exec es .empty = .ok db)
    (hrun' : Foundation.run exec es' .empty = .ok db') :
    observations w es .empty = observations w es' .empty :=
  observations_of_variant hvariant (.refl w .empty) ⟨[], mirrorsLog_empty⟩ ⟨[], mirrorsLog_empty⟩
    hrun hrun'

/-- The user `b` writes to `c` twice, and `a` looks around. -/
def secrets : List Event :=
  [⟨0, .registration [97] [112]⟩, ⟨0, .registration [98] [112]⟩, ⟨0, .registration [99] [112]⟩,
    ⟨0, .login [97] [112]⟩, ⟨1, .login [98] [112]⟩, ⟨1, .sendTxt [99] [104]⟩,
    ⟨1, .sendTxt [99] [105]⟩, ⟨0, .recvTxt [98] ⟨[]⟩⟩, ⟨0, .getCorrespondents []⟩]

/-- The first text of `b` is different, and the second one is left out. -/
def otherSecrets : List Event :=
  [⟨0, .registration [97] [112]⟩, ⟨0, .registration [98] [112]⟩, ⟨0, .registration [99] [112]⟩,
    ⟨0, .login [97] [112]⟩, ⟨1, .login [98] [112]⟩, ⟨1, .sendTxt [99] [7, 7]⟩,
    ⟨0, .recvTxt [98] ⟨[]⟩⟩, ⟨0, .getCorrespondents []⟩]

/-- The user `a` observes the same in both. -/
theorem noninterference_secrets :
    observations [97] secrets .empty = observations [97] otherSecrets .empty :=
  noninterference
    (.same _ rfl (.same _ rfl (.same _ rfl (.same _ rfl (.same _ rfl
      (.changed [7, 7] ⟨⟨[98], by decide, by decide⟩, by decide⟩ rfl
        (.omitted ⟨⟨[98], by decide, by decide⟩, by decide⟩ rfl
          (.same _ rfl (.same _ rfl (.nil _))))))))))
    rfl rfl

end Chat262
