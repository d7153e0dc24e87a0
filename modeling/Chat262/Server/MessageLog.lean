import Chat262.Server.Sessions

/-!
# The chats refine one message log

The database keeps every text twice, in the chat of its sender and in the chat of its recipient.
The abstract state behind all these copies is one list of log entries, the successful sends of a
run in execution order: `messageLog`.  `conversation u v` is what `u` should see of the log when
reading its chat with `v`.

`MirrorsLog` relates a database to a log: each registered user's copy of the chat with each
registered user is the conversation, and there is no chat with anybody else.  Every operation
preserves it (`MirrorsLog.step`).  Registering a name needs that the name is new to the log, which
holds because a name is never registered twice; deleting a user needs that the two copies of a chat
are empty together.
-/

namespace Chat262

open Std (ExtTreeMap)

/-! ## The log and its conversations -/

/-- One successful `send_txt`. -/
structure LogEntry where
  sender : ByteString
  recipient : ByteString
  content : ByteString
deriving DecidableEq, Repr

/-- What the user `u` sees of a log entry in its chat with `v`: its own text, the other's text, or
both in this order when it writes to itself. -/
def LogEntry.seenBy (u v : ByteString) (m : LogEntry) : List Text :=
  (if m.sender = u ∧ m.recipient = v then [⟨Text.senderYou, m.content⟩] else []) ++
    if m.sender = v ∧ m.recipient = u then [⟨Text.senderOther, m.content⟩] else []

/-- What the user `u` sees of the log in its chat with `v`. -/
def conversation (u v : ByteString) (log : List LogEntry) : List Text :=
  log.flatMap (LogEntry.seenBy u v)

/-- A log entry is between two users. -/
def LogEntry.Between (u v : ByteString) (m : LogEntry) : Prop :=
  m.sender = u ∧ m.recipient = v ∨ m.sender = v ∧ m.recipient = u

/-- The log entry of an operation: one for a `send_txt` that returns ok. -/
def sentBy (e : Event) (db : Database) : List LogEntry :=
  match e.op, db.threads[e.tid]?, exec e db with
  | .sendTxt r txt, some name, .ok (.status .ok, _) => [⟨name, r, txt⟩]
  | _, _, _ => []

/-- The successful sends of a run from the empty database, in execution order. -/
def messageLog (es : List Event) : List LogEntry :=
  Foundation.collect exec sentBy es .empty

/-- A user sees a log entry in a chat exactly when the entry is between the two users. -/
lemma seenBy_ne_nil {u v : ByteString} {m : LogEntry} : m.seenBy u v ≠ [] ↔ m.Between u v := by
  unfold LogEntry.seenBy LogEntry.Between
  by_cases h₁ : m.sender = u ∧ m.recipient = v
  · simp [eq_true h₁]
  · by_cases h₂ : m.sender = v ∧ m.recipient = u
    · simp [if_neg h₁, eq_true h₂]
    · simp only [if_neg h₁, if_neg h₂, List.append_nil, ne_eq, not_true_eq_false, false_iff]
      exact not_or.mpr ⟨h₁, h₂⟩

/-- Which users an entry is between. -/
lemma between_iff {u v name r txt : ByteString} :
    LogEntry.Between u v ⟨name, r, txt⟩ ↔ u = name ∧ v = r ∨ u = r ∧ v = name := by
  unfold LogEntry.Between
  simp only [eq_comm, and_comm]

/-- A conversation is nonempty exactly when the log has an entry between the two users. -/
lemma conversation_ne_nil {u v : ByteString} {log : List LogEntry} :
    conversation u v log ≠ [] ↔ ∃ m ∈ log, m.Between u v := by
  simp only [conversation, ne_eq, List.flatMap_eq_nil_iff, not_forall, exists_prop]
  exact exists_congr fun m => and_congr_right fun _ => seenBy_ne_nil

/-- The two sides of a conversation are empty together. -/
lemma conversation_ne_nil_comm {u v : ByteString} {log : List LogEntry} :
    conversation u v log ≠ [] ↔ conversation v u log ≠ [] := by
  rw [conversation_ne_nil, conversation_ne_nil]
  exact exists_congr fun m => and_congr_right fun _ => or_comm

/-- A later log entry is seen after the earlier ones. -/
lemma conversation_concat (u v : ByteString) (log : List LogEntry) (m : LogEntry) :
    conversation u v (log ++ [m]) = conversation u v log ++ m.seenBy u v := by
  simp [conversation]

/-- The entry of a send is seen as the texts that the send stores. -/
lemma seenBy_eq_appended (name r txt u v : ByteString) :
    LogEntry.seenBy u v ⟨name, r, txt⟩ = appended name r txt u v := by
  unfold LogEntry.seenBy appended
  simp only [eq_comm (a := u), eq_comm (a := v), and_comm]

/-! ## The refinement relation -/

/-- The database mirrors the log. -/
structure MirrorsLog (log : List LogEntry) (db : Database) : Prop where
  /-- A user's record carries the name it is stored under. -/
  names : ∀ (k : ByteString) (u : User), db.users[k]? = some u → u.username = k
  past : ∀ k ∈ db.users, k ∈ db.historicalUsers
  /-- The log mentions only names that have been used. -/
  logged : ∀ m ∈ log, m.sender ∈ db.historicalUsers ∧ m.recipient ∈ db.historicalUsers
  /-- A registered user has a chat with a registered user exactly if they have a conversation, and
  the chat is the conversation. -/
  chats : ∀ u ∈ db.users, ∀ v, chatOf db.users u v =
    if v ∈ db.users ∧ conversation u v log ≠ [] then some ⟨conversation u v log⟩ else none

/-- The empty database mirrors the empty log. -/
lemma mirrorsLog_empty : MirrorsLog [] .empty := by
  constructor <;> simp [Database.empty]

namespace MirrorsLog

variable {log : List LogEntry} {db : Database}

/-- The relation reads only the users and the used names. -/
lemma of_threads (h : MirrorsLog log db) (threads : ExtTreeMap ThreadId ByteString compare) :
    MirrorsLog log { db with threads := threads } :=
  ⟨h.names, h.past, h.logged, h.chats⟩

/-- A name that was never used takes part in no conversation. -/
lemma conversation_eq_nil (h : MirrorsLog log db) {k : ByteString}
    (hk : k ∉ db.historicalUsers) (v : ByteString) : ¬conversation k v log ≠ [] := by
  rw [conversation_ne_nil]
  rintro ⟨m, hm, ⟨rfl, -⟩ | ⟨-, rfl⟩⟩
  · exact hk (h.logged m hm).1
  · exact hk (h.logged m hm).2

/-- The record under a key after registering a new name. -/
lemma getElem?_register {u : ByteString} (hnew : u ∉ db.users) (p k : ByteString) :
    (db.users.insertIfNew u ⟨u, p, ∅⟩)[k]? = if k = u then some ⟨u, p, ∅⟩ else db.users[k]? := by
  grind

/-- Registering a new name keeps the relation: the log says nothing about it. -/
lemma registered (h : MirrorsLog log db) {u : ByteString} (p : ByteString) (hnew : u ∉ db.users)
    (hpast : u ∉ db.historicalUsers) :
    MirrorsLog log { db with
      users := db.users.insertIfNew u ⟨u, p, ∅⟩
      historicalUsers := db.historicalUsers.insert u } := by
  have hsilent (v : ByteString) : ¬conversation u v log ≠ [] := h.conversation_eq_nil hpast v
  constructor
  case names =>
    intro k w hw
    simp only [getElem?_register hnew] at hw
    split_ifs at hw with hk
    · cases hw; exact hk.symm
    · exact h.names k w hw
  case past =>
    intro k hk
    have hpast' := h.past k
    grind
  case logged =>
    intro m hm
    have hlogged := h.logged m hm
    grind
  case chats =>
    intro a ha v
    by_cases hau : a = u
    · subst hau
      simp only [chatOf, getElem?_register hnew, if_true, Option.bind_some,
        ExtTreeMap.getElem?_empty]
      rw [if_neg fun hc => hsilent v hc.2]
    · have ha' : a ∈ db.users := by grind
      have hchat : chatOf (db.users.insertIfNew u ⟨u, p, ∅⟩) a v = chatOf db.users a v := by
        simp [chatOf, getElem?_register hnew, hau]
      rw [hchat, h.chats a ha' v]
      by_cases hvu : v = u
      · subst hvu
        rw [if_neg fun hc => hnew hc.1,
          if_neg fun hc => hsilent a (conversation_ne_nil_comm.mp hc.2)]
      · have hv : v ∈ db.users.insertIfNew u ⟨u, p, ∅⟩ ↔ v ∈ db.users := by grind
        simp only [hv]

/-- Sending keeps the relation: both copies of the chat and the log get the text. -/
lemma sent (h : MirrorsLog log db) {name r : ByteString} {sender : User}
    (hsender : db.users[name]? = some sender) (hr : r ∈ db.users) (txt : ByteString) :
    MirrorsLog (log ++ [⟨name, r, txt⟩])
      { db with users := afterSend name sender.username r txt db.users } := by
  have hname : name ∈ db.users := ExtTreeMap.mem_iff_isSome_getElem?.mpr (by simp [hsender])
  rw [h.names name sender hsender]
  constructor
  case names =>
    intro k u hu
    have hcred := credentials_afterSend name name r txt k db.users
    rw [hu] at hcred
    obtain ⟨u', hu', heq⟩ := Option.map_eq_some_iff.mp hcred.symm
    rw [← h.names k u' hu']
    exact (congrArg Prod.fst heq).symm
  case past => exact fun k hk => h.past k (mem_afterSend.mp hk)
  case logged =>
    intro m hm
    rcases List.mem_append.mp hm with hm | hm
    · exact h.logged m hm
    · rw [List.mem_singleton.mp hm]
      exact ⟨h.past name hname, h.past r hr⟩
  case chats =>
    intro u hu v
    have hu' : u ∈ db.users := mem_afterSend.mp hu
    have hv : v ∈ afterSend name name r txt db.users ↔ v ∈ db.users := mem_afterSend
    rw [chatOf_afterSend hname hr, h.chats u hu' v, conversation_concat]
    simp only [hv]
    by_cases hbetween : u = name ∧ v = r ∨ u = r ∧ v = name
    · have hseen : LogEntry.seenBy u v ⟨name, r, txt⟩ ≠ [] :=
        seenBy_ne_nil.mpr (between_iff.mpr hbetween)
      have hvmem : v ∈ db.users := by
        rcases hbetween with ⟨-, rfl⟩ | ⟨-, rfl⟩
        · exact hr
        · exact hname
      have hne : conversation u v log ++ LogEntry.seenBy u v ⟨name, r, txt⟩ ≠ [] :=
        List.append_ne_nil_of_right_ne_nil _ hseen
      simp only [if_pos hbetween, hvmem, true_and]
      rw [if_pos hne, seenBy_eq_appended]
      by_cases hconv : conversation u v log = [] <;> simp [hconv]
    · have hseen : LogEntry.seenBy u v ⟨name, r, txt⟩ = [] :=
        not_not.mp fun hne => hbetween (between_iff.mp (seenBy_ne_nil.mp hne))
      rw [if_neg hbetween, hseen, List.append_nil]

/-- The copies of chats after a deletion: the correspondents of the deleted user have lost their
chat with it. -/
lemma chatOf_deleted {name a : ByteString} {keys : List ByteString} {users : Users}
    (hloop : keys.foldlM (Database.dropChat name) db.users = .ok users) (ha : a ≠ name)
    (v : ByteString) :
    chatOf (users.erase name) a v =
      if a ∈ keys ∧ v = name then none else chatOf db.users a v := by
  have hget := (of_foldlM_dropChat_eq_ok hloop).2 a
  unfold chatOf
  rw [ExtTreeMap.getElem?_erase, hget]
  by_cases hkeys : a ∈ keys
  · by_cases hv : v = name
    · subst hv
      cases db.users[a]? <;> simp [hkeys, Database.eraseChat]
    · cases db.users[a]? <;>
        simp [hkeys, hv, Ne.symm hv, Ne.symm ha, Database.eraseChat, ExtTreeMap.getElem?_erase]
  · simp [hkeys, Ne.symm ha]

/-- Deleting a user keeps the relation: the loop visits exactly the users who have a chat with it,
since the two copies of a chat exist together. -/
lemma deleted (h : MirrorsLog log db) {name : ByteString} {u : User} {users : Users}
    (huser : db.users[name]? = some u)
    (hloop : u.chats.keys.foldlM (Database.dropChat name) db.users = .ok users) :
    MirrorsLog log { db with users := users.erase name } := by
  have hmem (k : ByteString) : k ∈ users.erase name ↔ k ≠ name ∧ k ∈ db.users := by
    rw [ExtTreeMap.mem_erase, mem_foldlM_dropChat hloop k, Ne, Std.LawfulEqCmp.compare_eq_iff_eq,
      eq_comm]
  have hname : name ∈ db.users := ExtTreeMap.mem_iff_isSome_getElem?.mpr (by simp [huser])
  have hkeys (a : ByteString) : a ∈ u.chats.keys ↔ chatOf db.users name a ≠ none := by
    rw [ExtTreeMap.mem_keys, ExtTreeMap.mem_iff_isSome_getElem?]
    simp [chatOf, huser]
  constructor
  case names =>
    intro k w hw
    simp only [ExtTreeMap.getElem?_erase] at hw
    split_ifs at hw
    rw [(of_foldlM_dropChat_eq_ok hloop).2 k] at hw
    split_ifs at hw
    · obtain ⟨w', hw', rfl⟩ := Option.map_eq_some_iff.mp hw
      exact h.names k w' hw'
    · exact h.names k w hw
  case past => exact fun k hk => h.past k ((hmem k).mp hk).2
  case logged => exact h.logged
  case chats =>
    intro a ha v
    obtain ⟨hane, hadb⟩ := (hmem a).mp ha
    change _ = if v ∈ users.erase name ∧ conversation a v log ≠ [] then _ else _
    rw [chatOf_deleted hloop hane, h.chats a hadb v]
    by_cases hv : v = name
    · subst hv
      have hgone : ¬(v ∈ users.erase v ∧ conversation a v log ≠ []) :=
        fun hc => ((hmem v).mp hc.1).1 rfl
      have hconv : ¬(a ∈ u.chats.keys ∧ v = v) → ¬conversation a v log ≠ [] := by
        intro hnot hc
        have hnone : chatOf db.users v a = none :=
          not_not.mp fun hne => hnot ⟨(hkeys a).mpr hne, rfl⟩
        rw [h.chats v hname a, if_pos ⟨hadb, conversation_ne_nil_comm.mp hc⟩] at hnone
        cases hnone
      rw [if_neg hgone]
      split_ifs with hin hc
      · rfl
      · exact absurd hc.2 (hconv hin)
      · rfl
    · have hvmem : v ∈ users.erase name ↔ v ∈ db.users := by rw [hmem v]; simp [hv]
      simp only [hv, and_false, if_false, hvmem]

/-! ## One step and whole runs -/

/-- An operation that returns keeps the relation, its own send added to the log. -/
lemma step (h : MirrorsLog log db) {e : Event} {db' : Database} {reply : Reply}
    (hexec : exec e db = .ok (reply, db')) : MirrorsLog (log ++ sentBy e db) db' := by
  cases exec_effect hexec with
  | rejected hwhy =>
    have hsent : sentBy e db = [] := by
      unfold sentBy
      simp only [hexec]
      split <;> simp_all
    rwa [hsent, List.append_nil]
  | registered u p hop hnew hpast =>
    rw [show sentBy e db = [] by simp [sentBy, hop], List.append_nil]
    exact h.registered p hnew hpast
  | loggedIn u p user hop =>
    rw [show sentBy e db = [] by simp [sentBy, hop], List.append_nil]
    exact h.of_threads _
  | loggedOut hop =>
    rw [show sentBy e db = [] by simp [sentBy, hop], List.append_nil]
    exact h.of_threads _
  | sent r txt name sender hop hsession hsender hr =>
    have hsent : sentBy e db = [⟨name, r, txt⟩] := by
      simp [sentBy, hop, hsession, hexec]
    rw [hsent]
    exact h.sent hsender hr txt
  | deleted name u users hop hsession huser hloop =>
    rw [show sentBy e db = [] by simp [sentBy, hop], List.append_nil]
    exact (h.deleted huser hloop).of_threads _
  | read reply hread =>
    have hsent : sentBy e db = [] := by
      unfold sentBy
      split <;> simp_all [Operation.IsRead]
    rwa [hsent, List.append_nil]

end MirrorsLog

/-- Every database that a run reaches mirrors the log of the run. -/
theorem mirrorsLog_of_run {es : List Event} {db : Database}
    (hrun : Foundation.run exec es .empty = .ok db) : MirrorsLog (messageLog es) db := by
  refine Foundation.run_history (P := fun es db => MirrorsLog (messageLog es) db)
    mirrorsLog_empty ?_ (Foundation.guarded_true es _) hrun
  intro es e s r t hes hP _ he
  rw [messageLog, Foundation.collect_concat hes he]
  exact hP.step he

/-! ## What the readers get -/

section Readers

variable {db : Database} {tid : ThreadId} {u : ByteString} {user : User}

/-- `recv_txt` of a registered user returns the reader's copy of the chat, or no texts. -/
lemma exec_recvTxt_of_mem (hsession : db.threads[tid]? = some u) (huser : db.users[u]? = some user)
    {v : ByteString} (hv : v ∈ db.users) (c : Chat) :
    exec ⟨tid, .recvTxt v c⟩ db = .ok (.chat .ok ((chatOf db.users u v).getD ⟨[]⟩), db) := by
  have hlookup : db.sessionUser u = .ok user := sessionUser_eq_ok.mpr huser
  simp only [exec, Database.recvTxt, hsession, hlookup, bind, Except.bind, if_pos hv, chatOf, huser,
    Option.bind_some]
  cases user.chats[v]? <;> rfl

/-- `recv_txt` of a user who is not registered reports an error. -/
lemma exec_recvTxt_of_not_mem (hsession : db.threads[tid]? = some u)
    (huser : db.users[u]? = some user) {v : ByteString} (hv : v ∉ db.users) (c : Chat) :
    exec ⟨tid, .recvTxt v c⟩ db = .ok (.chat .error c, db) := by
  have hlookup : db.sessionUser u = .ok user := sessionUser_eq_ok.mpr huser
  simp only [exec, Database.recvTxt, hsession, hlookup, bind, Except.bind, if_neg hv]
  rfl

/-- `get_correspondents` lists the chats of the thread's user. -/
lemma exec_getCorrespondents (hsession : db.threads[tid]? = some u)
    (huser : db.users[u]? = some user) (l : List ByteString) :
    exec ⟨tid, .getCorrespondents l⟩ db = .ok (.correspondents .ok user.chats.keys, db) := by
  have hlookup : db.sessionUser u = .ok user := sessionUser_eq_ok.mpr huser
  simp only [exec, Database.getCorrespondents, hsession, hlookup, bind, Except.bind]
  rfl

end Readers

/-- After a run in which no operation aborts, a thread logged in as a registered user `u` reads
from the log: `recv_txt` of a registered `v` returns the conversation of `u` with `v`, `recv_txt`
of any other name reports an error, and `get_correspondents` lists, once each, the registered users
with whom the log has an entry of `u`. -/
theorem readers_see_messageLog {es : List Event} {db : Database}
    (hrun : Foundation.run exec es .empty = .ok db) {tid : ThreadId} {u : ByteString}
    (hsession : db.threads[tid]? = some u) (hu : u ∈ db.users) :
    (∀ v ∈ db.users, ∀ c, exec ⟨tid, .recvTxt v c⟩ db =
        .ok (.chat .ok ⟨conversation u v (messageLog es)⟩, db)) ∧
      (∀ v, v ∉ db.users → ∀ c, exec ⟨tid, .recvTxt v c⟩ db = .ok (.chat .error c, db)) ∧
      ∀ l, ∃ names, exec ⟨tid, .getCorrespondents l⟩ db =
          .ok (.correspondents .ok names, db) ∧
        names.Nodup ∧
        ∀ v, v ∈ names ↔ v ∈ db.users ∧ ∃ m ∈ messageLog es, m.Between u v := by
  have hmirror : MirrorsLog (messageLog es) db := mirrorsLog_of_run hrun
  obtain ⟨user, huser⟩ := Option.isSome_iff_exists.mp (ExtTreeMap.mem_iff_isSome_getElem?.mp hu)
  refine ⟨?_, fun v hv c => exec_recvTxt_of_not_mem hsession huser hv c,
    fun l => ⟨_, exec_getCorrespondents hsession huser l, ExtTreeMap.nodup_keys, ?_⟩⟩
  · intro v hv c
    rw [exec_recvTxt_of_mem hsession huser hv, hmirror.chats u hu v]
    by_cases hconv : conversation u v (messageLog es) = [] <;> simp [hconv, hv]
  · intro v
    have hchat : chatOf db.users u v = user.chats[v]? := by simp [chatOf, huser]
    rw [ExtTreeMap.mem_keys, ExtTreeMap.mem_iff_isSome_getElem?, ← hchat, hmirror.chats u hu v,
      ← conversation_ne_nil]
    split_ifs with hconv <;> simp [hconv]

/-- Two users register, one writes to the other and to itself. -/
def smallTalk : List Event :=
  [⟨0, .registration [97] [112]⟩, ⟨0, .registration [98] [112]⟩, ⟨0, .login [97] [112]⟩,
    ⟨1, .login [98] [112]⟩, ⟨1, .sendTxt [97] [104]⟩, ⟨0, .sendTxt [97] [105]⟩]

/-- The theorem on `smallTalk`: the reader `a` sees the text of `b` in one chat and its own text
twice in the other. -/
theorem readers_see_messageLog_smallTalk :
    ∃ db, Foundation.run exec smallTalk .empty = .ok db ∧
      exec ⟨0, .recvTxt [98] ⟨[]⟩⟩ db = .ok (.chat .ok ⟨[⟨Text.senderOther, [104]⟩]⟩, db) ∧
      exec ⟨0, .recvTxt [97] ⟨[]⟩⟩ db =
        .ok (.chat .ok ⟨[⟨Text.senderYou, [105]⟩, ⟨Text.senderOther, [105]⟩]⟩, db) := by
  obtain ⟨db, hrun⟩ : ∃ db, Foundation.run exec smallTalk .empty = .ok db := ⟨_, rfl⟩
  cases hrun
  have h := @readers_see_messageLog smallTalk _ rfl 0 [97] (by decide) (by decide)
  exact ⟨_, rfl, h.1 [98] (by decide) ⟨[]⟩, h.1 [97] (by decide) ⟨[]⟩⟩

end Chat262
