import Chat262.Foundation.Specification
import Chat262.Server.Accounts
import Chat262.Server.Deletions
import Chat262.Server.Search

/-!
# The database as a message board

What the database is for, without its data structures: a `Board` knows the password of each account,
the names that were ever taken, who is in charge of which thread, and one log of all the texts that
were ever sent.  There are no chats to keep in step, nothing is removed from the log, and a text is
stored once.  `Board.Rule` says how each operation is answered.

`database_refines_board` is the refinement: whatever the threads of a server ask for, in whatever
order, the replies of the database, and the way in which an operation fails to return, are those of
the board.  The rules leave open only the order in which `get_correspondents` lists the names.
`calls_refine_board` carries this over to the running server, whose handlers make the calls.
-/

namespace Chat262

open Foundation
open Std (ExtTreeMap ExtTreeSet)

/-! ## The board -/

/-- The state of the messenger. -/
structure Board where
  password : ByteString → Option ByteString
  taken : Set ByteString
  /-- The account that a thread is in charge of. -/
  account : ThreadId → Option ByteString
  /-- The texts that were ever sent, oldest first. -/
  log : List LogEntry

namespace Board

/-- The board before the first operation. -/
def empty : Board := ⟨fun _ => none, ∅, fun _ => none, []⟩

/-- There is an account of that name. -/
def Open (b : Board) (name : ByteString) : Prop := b.password name ≠ none

/-- The thread is in charge of an account that is open. -/
def Acts (b : Board) (tid : ThreadId) (name : ByteString) : Prop :=
  b.account tid = some name ∧ b.Open name

/-- The two users have exchanged a text. -/
def Talked (b : Board) (u v : ByteString) : Prop := ∃ m ∈ b.log, m.Between u v

/-- What a thread without an account is answered, for the operations that need one. -/
def refusal : Operation → Option Reply
  | .sendTxt _ _ | .deleteUser => some (.status .error)
  | .recvTxt _ c => some (.chat .error c)
  | .getCorrespondents l => some (.correspondents .error l)
  | _ => none

/-- The answers that the board gives to an operation of a thread. -/
inductive Rule : Event → Board → Except Abort (Reply × Board) → Prop
  /-- A name that was never taken can be registered. -/
  | opened {b : Board} (tid : ThreadId) {u : ByteString} (p : ByteString) (hnew : u ∉ b.taken) :
      Rule ⟨tid, .registration u p⟩ b (.ok (.status .ok,
        { b with password := Function.update b.password u (some p), taken := insert u b.taken }))
  /-- Any other name cannot. -/
  | nameTaken {b : Board} (tid : ThreadId) {u : ByteString} (p : ByteString)
      (htaken : u ∈ b.taken) :
      Rule ⟨tid, .registration u p⟩ b (.ok (.status .error, b))
  /-- A thread without an account takes charge of the one whose name and password it gives. -/
  | loggedIn {b : Board} {tid : ThreadId} {u p : ByteString} (hout : b.account tid = none)
      (hpassword : b.password u = some p) :
      Rule ⟨tid, .login u p⟩ b (.ok (.status .ok,
        { b with account := Function.update b.account tid (some u) }))
  /-- Nothing else logs in. -/
  | turnedAway {b : Board} {tid : ThreadId} {u p : ByteString}
      (hnot : ¬(b.account tid = none ∧ b.password u = some p)) :
      Rule ⟨tid, .login u p⟩ b (.ok (.status .error, b))
  /-- A thread gives up its account. -/
  | loggedOut {b : Board} {tid : ThreadId} (hin : b.account tid ≠ none) :
      Rule ⟨tid, .logout⟩ b (.ok (.status .ok,
        { b with account := Function.update b.account tid none }))
  /-- A thread without an account has none to give up. -/
  | notLoggedIn {b : Board} {tid : ThreadId} (hout : b.account tid = none) :
      Rule ⟨tid, .logout⟩ b (.ok (.status .error, b))
  /-- A thread asks whether it is in charge of an account. -/
  | asked {b : Board} {tid : ThreadId} {known : Bool}
      (hknown : known = true ↔ b.account tid ≠ none) :
      Rule ⟨tid, .isLoggedIn⟩ b (.ok (.loggedIn known, b))
  /-- A search finds the names that match the pattern, in ascending order. -/
  | found {b : Board} (tid : ThreadId) {pattern : ByteString} {names : List ByteString}
      (hnames : ∀ u, u ∈ names ↔ b.Open u ∧ LiteralGlob star pattern u)
      (hsorted : names.Pairwise fun u v => compare u v = .lt) :
      Rule ⟨tid, .getUsernames pattern⟩ b (.ok (.usernames names, b))
  /-- A text to an open account is logged. -/
  | sent {b : Board} {tid : ThreadId} {name r : ByteString} (hacts : b.Acts tid name)
      (hr : b.Open r) (txt : ByteString) :
      Rule ⟨tid, .sendTxt r txt⟩ b (.ok (.status .ok, { b with log := b.log ++ [⟨name, r, txt⟩] }))
  /-- A text to anybody else is not. -/
  | notSent {b : Board} {tid : ThreadId} {name r : ByteString} (hacts : b.Acts tid name)
      (hr : ¬ b.Open r) (txt : ByteString) :
      Rule ⟨tid, .sendTxt r txt⟩ b (.ok (.status .error, b))
  /-- A user reads the conversation with an open account. -/
  | received {b : Board} {tid : ThreadId} {name s : ByteString} (hacts : b.Acts tid name)
      (hs : b.Open s) (c : Chat) :
      Rule ⟨tid, .recvTxt s c⟩ b (.ok (.chat .ok ⟨conversation name s b.log⟩, b))
  /-- There is nothing to read of anybody else. -/
  | notReceived {b : Board} {tid : ThreadId} {name s : ByteString} (hacts : b.Acts tid name)
      (hs : ¬ b.Open s) (c : Chat) :
      Rule ⟨tid, .recvTxt s c⟩ b (.ok (.chat .error c, b))
  /-- The correspondents of a user are the open accounts that it has exchanged a text with. -/
  | listed {b : Board} {tid : ThreadId} {name : ByteString} (hacts : b.Acts tid name)
      {names : List ByteString} (hnames : ∀ v, v ∈ names ↔ b.Open v ∧ b.Talked name v)
      (hnodup : names.Nodup) (l : List ByteString) :
      Rule ⟨tid, .getCorrespondents l⟩ b (.ok (.correspondents .ok names, b))
  /-- A user that has not written to itself closes its account.  The log stays. -/
  | closed {b : Board} {tid : ThreadId} {name : ByteString} (hacts : b.Acts tid name)
      (hself : ¬ b.Talked name name) :
      Rule ⟨tid, .deleteUser⟩ b (.ok (.status .ok,
        { b with
          password := Function.update b.password name none
          account := Function.update b.account tid none }))
  /-- A thread without an account is refused what it needs one for. -/
  | refused {b : Board} {tid : ThreadId} (hout : b.account tid = none) {op : Operation}
      {reply : Reply} (hreply : refusal op = some reply) :
      Rule ⟨tid, op⟩ b (.ok (reply, b))
  /-- A thread in charge of an account that was closed does not return from what needs one. -/
  | orphaned {b : Board} {tid : ThreadId} {name : ByteString} (hsession : b.account tid = some name)
      (hclosed : ¬ b.Open name) {op : Operation} (hop : refusal op ≠ none) :
      Rule ⟨tid, op⟩ b (.error .sessionOutOfRange)
  /-- A user that has written to itself does not return from closing its account. -/
  | selfTalk {b : Board} {tid : ThreadId} {name : ByteString} (hacts : b.Acts tid name)
      (hself : b.Talked name name) :
      Rule ⟨tid, .deleteUser⟩ b (.error .iteratorInvalidated)

/-! ## The refinement relation -/

/-- The board is what the database is about. -/
structure Depicts (b : Board) (db : Database) : Prop where
  password : ∀ u : ByteString, b.password u = db.users[u]?.map User.password
  /-- The names that were taken are the historical ones. -/
  taken : ∀ u, u ∈ b.taken ↔ u ∈ db.historicalUsers
  /-- The threads are in charge of the accounts of their sessions. -/
  account : ∀ tid : ThreadId, b.account tid = db.threads[tid]?
  /-- The chats are what their owners see of the log. -/
  mirrors : MirrorsLog b.log db

/-- The board answers the event as the database does, and goes on depicting it. -/
def Answers (b : Board) (e : Event) (db : Database) : Prop :=
  ∃ out, Rule e b out ∧ SameAnswer (fun db b => Depicts b db) (exec e db) out

/-- The empty board depicts the empty database. -/
lemma depicts_empty : Depicts .empty .empty :=
  ⟨fun u => by simp [empty, Database.empty], fun u => by simp [empty, Database.empty],
    fun tid => by simp [empty, Database.empty], mirrorsLog_empty⟩

section Answers

variable {b b' : Board} {db db' : Database} {tid : ThreadId}

/-- An operation that returns is answered by a rule that gives its reply. -/
lemma answers_of_ok {e : Event} {reply : Reply} (hexec : exec e db = .ok (reply, db'))
    (hrule : Rule e b (.ok (reply, b'))) (h : b'.Depicts db') : b.Answers e db := by
  refine ⟨_, hrule, ?_⟩
  rw [hexec]
  exact .ok reply h

/-- An operation that does not return is answered by a rule that says so. -/
lemma answers_of_error {e : Event} {a : Abort} (hexec : exec e db = .error a)
    (hrule : Rule e b (.error a)) : b.Answers e db := by
  refine ⟨_, hrule, ?_⟩
  rw [hexec]
  exact .error a

namespace Depicts

/-- The open accounts are those of the registered users. -/
lemma open_iff (h : b.Depicts db) (u : ByteString) : b.Open u ↔ u ∈ db.users := by
  rw [Board.Open, h.password u, ExtTreeMap.mem_iff_isSome_getElem?]
  cases db.users[u]? <;> simp

/-- A registered user whom a thread is in charge of acts. -/
lemma acts (h : b.Depicts db) {name : ByteString} (hsession : db.threads[tid]? = some name)
    (hname : name ∈ db.users) : b.Acts tid name :=
  ⟨(h.account tid).trans hsession, (h.open_iff name).mpr hname⟩

/-- Users who have exchanged a text have a conversation. -/
lemma talked_iff (u v : ByteString) : b.Talked u v ↔ conversation u v b.log ≠ [] :=
  conversation_ne_nil.symm

/-- Two registered users have exchanged a text exactly if they have a chat. -/
lemma mem_chats_iff (h : b.Depicts db) {name : ByteString} {u : User}
    (huser : db.users[name]? = some u) (v : ByteString) :
    v ∈ u.chats ↔ b.Open v ∧ b.Talked name v := by
  have hname : name ∈ db.users := ExtTreeMap.mem_iff_isSome_getElem?.mpr (by simp [huser])
  have hchat : chatOf db.users name v = u.chats[v]? := by simp [chatOf, huser]
  rw [ExtTreeMap.mem_iff_isSome_getElem?, ← hchat, h.mirrors.chats name hname v, h.open_iff v,
    talked_iff]
  split_ifs with htalked <;> simp [htalked]

/-- A thread whose session is erased is in charge of no account. -/
lemma account_erase (h : b.Depicts db) (tid k : ThreadId) :
    Function.update b.account tid none k = (db.threads.erase tid)[k]? := by
  rw [Function.update_apply, ExtTreeMap.getElem?_erase, h.account k]
  simp only [Std.LawfulEqCmp.compare_eq_iff_eq, eq_comm (a := k)]

/-! ## Accounts and threads -/

/-- Registration. -/
lemma registration (h : b.Depicts db) (u p : ByteString) :
    b.Answers ⟨tid, .registration u p⟩ db := by
  by_cases htaken : u ∈ b.taken
  · have hexec : exec ⟨tid, .registration u p⟩ db = .ok (.status .error, db) := by
      simp [exec, Database.registration, (h.taken u).mp htaken]
    exact answers_of_ok hexec (.nameTaken tid p htaken) h
  · have hpast : u ∉ db.historicalUsers := fun hmem => htaken ((h.taken u).mpr hmem)
    have hnew : u ∉ db.users := fun hmem => hpast (h.mirrors.past u hmem)
    have hexec : exec ⟨tid, .registration u p⟩ db = .ok (.status .ok, { db with
        users := db.users.insertIfNew u ⟨u, p, ∅⟩
        historicalUsers := db.historicalUsers.insert u }) := by
      simp [exec, Database.registration, hpast, hnew]
    refine answers_of_ok hexec (.opened tid p htaken) ⟨?_, ?_, h.account, ?_⟩
    · intro k
      change Function.update b.password u (some p) k = _
      rw [MirrorsLog.getElem?_register hnew p k, Function.update_apply, h.password k]
      split_ifs <;> rfl
    · intro k
      have hk := h.taken k
      grind
    · exact h.mirrors.registered p hnew hpast

/-- Login. -/
lemma login (h : b.Depicts db) (u p : ByteString) : b.Answers ⟨tid, .login u p⟩ db := by
  by_cases hin : b.account tid = none ∧ b.password u = some p
  · have hout : tid ∉ db.threads := by
      have hnone := (h.account tid).symm.trans hin.1
      grind
    obtain ⟨user, huser, rfl⟩ := Option.map_eq_some_iff.mp ((h.password u).symm.trans hin.2)
    have hexec : exec ⟨tid, .login u user.password⟩ db =
        .ok (.status .ok, { db with threads := db.threads.insertIfNew tid u }) := by
      simp [exec, Database.login, hout, huser]
    refine answers_of_ok hexec (.loggedIn hin.1 hin.2) ⟨h.password, h.taken, ?_, ?_⟩
    · intro k
      change Function.update b.account tid (some u) k = _
      rw [Function.update_apply, ExtTreeMap.getElem?_insertIfNew, h.account k]
      simp only [Std.LawfulEqCmp.compare_eq_iff_eq, hout, not_false_eq_true, and_true,
        eq_comm (a := k)]
    · exact h.mirrors.of_threads _
  · have hexec : exec ⟨tid, .login u p⟩ db = .ok (.status .error, db) := by
      simp only [exec, Database.login]
      by_cases hthread : tid ∈ db.threads
      · simp [hthread]
      · cases huser : db.users[u]? with
        | none => simp [hthread]
        | some user =>
          have hpass : p ≠ user.password := by
            rintro rfl
            refine hin ⟨?_, by rw [h.password u, huser]; rfl⟩
            rw [h.account tid]
            grind
          simp [hthread, hpass]
    exact answers_of_ok hexec (.turnedAway hin) h

/-- Logout. -/
lemma logout (h : b.Depicts db) : b.Answers ⟨tid, .logout⟩ db := by
  have haccount := h.account tid
  by_cases hin : tid ∈ db.threads
  · have hexec : exec ⟨tid, .logout⟩ db =
        .ok (.status .ok, { db with threads := db.threads.erase tid }) := by
      simp [exec, Database.logout, hin]
    refine answers_of_ok hexec (.loggedOut ?_)
      ⟨h.password, h.taken, h.account_erase tid, h.mirrors.of_threads _⟩
    rw [haccount]
    grind
  · have hexec : exec ⟨tid, .logout⟩ db = .ok (.status .error, db) := by
      simp [exec, Database.logout, hin]
    refine answers_of_ok hexec (.notLoggedIn ?_) h
    rw [haccount]
    grind

/-- The question whether a thread is logged in. -/
lemma isLoggedIn (h : b.Depicts db) : b.Answers ⟨tid, .isLoggedIn⟩ db := by
  have hknown : db.isLoggedIn tid = true ↔ b.account tid ≠ none := by
    rw [h.account tid, Database.isLoggedIn, decide_eq_true_iff]
    grind
  exact answers_of_ok rfl (.asked hknown) h

/-- The search. -/
lemma getUsernames (h : b.Depicts db) (pattern : ByteString) :
    b.Answers ⟨tid, .getUsernames pattern⟩ db := by
  refine answers_of_ok rfl (.found tid ?_ (getUsernames_ascending pattern db)) h
  intro u
  rw [Database.getUsernames, List.mem_filter, ExtTreeMap.mem_keys, h.open_iff u,
    wildcardMatch_iff_literalGlob]

/-! ## The operations that need an account -/

/-- A thread that is in charge of no account. -/
lemma withoutSession (h : b.Depicts db) (hsession : db.threads[tid]? = none) {op : Operation}
    {reply : Reply} (hop : refusal op = some reply) : b.Answers ⟨tid, op⟩ db := by
  have hexec : exec ⟨tid, op⟩ db = .ok (reply, db) := by
    cases op <;> cases hop <;>
      simp [exec, Database.sendTxt, Database.recvTxt, Database.getCorrespondents,
        Database.deleteUser, hsession, Except.map]
  exact answers_of_ok hexec (.refused ((h.account tid).trans hsession) hop) h

/-- A thread that is in charge of an account that was closed. -/
lemma withOrphan (h : b.Depicts db) {name : ByteString} (hsession : db.threads[tid]? = some name)
    (hname : name ∉ db.users) {op : Operation} (hop : refusal op ≠ none) :
    b.Answers ⟨tid, op⟩ db := by
  have hlookup : db.sessionUser name = .error .sessionOutOfRange :=
    sessionUser_eq_error.mpr ⟨hname, rfl⟩
  have hexec : exec ⟨tid, op⟩ db = .error .sessionOutOfRange := by
    cases op <;> first
      | exact absurd rfl hop
      | simp [exec, Database.sendTxt, Database.recvTxt, Database.getCorrespondents,
          Database.deleteUser, hsession, hlookup, bind, Except.bind, Except.map]
  have hclosed : ¬ b.Open name := fun hopen => hname ((h.open_iff name).mp hopen)
  exact answers_of_error hexec (.orphaned ((h.account tid).trans hsession) hclosed hop)

/-- An operation that needs an account, when it is known what it does for a thread in charge of an
open one. -/
lemma withAccount (h : b.Depicts db) {op : Operation} {reply : Reply}
    (hop : refusal op = some reply)
    (hacting : ∀ name u, db.threads[tid]? = some name → db.users[name]? = some u →
      b.Acts tid name → b.Answers ⟨tid, op⟩ db) : b.Answers ⟨tid, op⟩ db := by
  cases hsession : db.threads[tid]? with
  | none => exact h.withoutSession hsession hop
  | some name =>
    cases huser : db.users[name]? with
    | none =>
      have hname : name ∉ db.users := by
        rw [ExtTreeMap.mem_iff_isSome_getElem?, huser]
        simp
      exact h.withOrphan hsession hname (by simp [hop])
    | some u =>
      have hname : name ∈ db.users := ExtTreeMap.mem_iff_isSome_getElem?.mpr (by simp [huser])
      exact hacting name u hsession huser (h.acts hsession hname)

/-- Sending. -/
lemma sendTxt (h : b.Depicts db) (r txt : ByteString) : b.Answers ⟨tid, .sendTxt r txt⟩ db := by
  refine h.withAccount rfl ?_
  intro name sender hsession hsender hacts
  have hlookup : db.sessionUser name = .ok sender := sessionUser_eq_ok.mpr hsender
  by_cases hr : r ∈ db.users
  · have hexec : exec ⟨tid, .sendTxt r txt⟩ db =
        .ok (.status .ok, { db with users := afterSend name sender.username r txt db.users }) := by
      simp only [exec, Database.sendTxt, hsession, hlookup, bind, Except.bind, if_pos hr]
      rfl
    refine answers_of_ok hexec (.sent hacts ((h.open_iff r).mpr hr) txt)
      ⟨fun k => ?_, h.taken, h.account, h.mirrors.sent hsender hr txt⟩
    exact (h.password k).trans
      (getElem?_afterSend_map (fun _ _ => rfl) name sender.username r txt k db.users).symm
  · have hexec : exec ⟨tid, .sendTxt r txt⟩ db = .ok (.status .error, db) := by
      simp only [exec, Database.sendTxt, hsession, hlookup, bind, Except.bind, if_neg hr]
      rfl
    exact answers_of_ok hexec (.notSent hacts (fun hopen => hr ((h.open_iff r).mp hopen)) txt) h

/-- Reading a chat. -/
lemma recvTxt (h : b.Depicts db) (s : ByteString) (c : Chat) :
    b.Answers ⟨tid, .recvTxt s c⟩ db := by
  refine h.withAccount rfl ?_
  intro name user hsession huser hacts
  by_cases hs : s ∈ db.users
  · have hchat : (chatOf db.users name s).getD ⟨[]⟩ = ⟨conversation name s b.log⟩ := by
      rw [h.mirrors.chats name ((h.open_iff name).mp hacts.2) s]
      by_cases htalked : conversation name s b.log = [] <;> simp [htalked, hs]
    have hexec := exec_recvTxt_of_mem hsession huser hs c
    rw [hchat] at hexec
    exact answers_of_ok hexec (.received hacts ((h.open_iff s).mpr hs) c) h
  · exact answers_of_ok (exec_recvTxt_of_not_mem hsession huser hs c)
      (.notReceived hacts (fun hopen => hs ((h.open_iff s).mp hopen)) c) h

/-- Listing the correspondents. -/
lemma getCorrespondents (h : b.Depicts db) (l : List ByteString) :
    b.Answers ⟨tid, .getCorrespondents l⟩ db := by
  refine h.withAccount rfl ?_
  intro name user hsession huser hacts
  refine answers_of_ok (exec_getCorrespondents hsession huser l)
    (.listed hacts (fun v => ?_) ExtTreeMap.nodup_keys l) h
  rw [ExtTreeMap.mem_keys, h.mem_chats_iff huser v]

/-- Closing the account. -/
lemma deleteUser (h : b.Depicts db) : b.Answers ⟨tid, .deleteUser⟩ db := by
  refine h.withAccount rfl ?_
  intro name user hsession huser hacts
  have hlookup : db.sessionUser name = .ok user := sessionUser_eq_ok.mpr huser
  have hself : name ∈ user.chats ↔ b.Talked name name :=
    (h.mem_chats_iff huser name).trans (and_iff_right hacts.2)
  by_cases htalked : b.Talked name name
  · have hloop : user.chats.keys.foldlM (Database.dropChat name) db.users =
        .error .iteratorInvalidated := by
      cases hend : user.chats.keys.foldlM (Database.dropChat name) db.users with
      | ok users =>
        have hne := (of_foldlM_dropChat_eq_ok hend).1 name
          (ExtTreeMap.mem_keys.mpr (hself.mpr htalked))
        exact absurd rfl hne.2
      | error a =>
        rcases of_foldlM_dropChat_eq_error hend with ⟨-, k, hk, hmissing⟩ | ⟨rfl, -⟩
        · have hopen := ((h.mem_chats_iff huser k).mp (ExtTreeMap.mem_keys.mp hk)).1
          exact absurd ((h.open_iff k).mp hopen) hmissing
        · rfl
    have hexec : exec ⟨tid, .deleteUser⟩ db = .error .iteratorInvalidated := by
      simp only [exec, Database.deleteUser, hsession, hlookup, bind, Except.bind, hloop]
      rfl
    exact answers_of_error hexec (.selfTalk hacts htalked)
  · obtain ⟨users, hloop⟩ := h.mirrors.chatsPaired.foldlM_dropChat_eq_ok huser
      (fun hmem => htalked (hself.mp hmem))
    have hexec := (exec_deleteUser_eq_ok hsession).mpr ⟨user, users, huser, hloop, rfl⟩
    refine answers_of_ok hexec (.closed hacts htalked)
      ⟨fun k => ?_, h.taken, h.account_erase tid, (h.mirrors.deleted huser hloop).of_threads _⟩
    change Function.update b.password name none k = _
    rw [getElem?_deleted_map (fun _ _ => rfl) hloop k, Function.update_apply, h.password k]
    simp only [eq_comm]

end Depicts

end Answers

/-! ## The refinement -/

/-- The database answers every operation by the rules of the board. -/
theorem refines : Refines exec Rule fun db b => Depicts b db := by
  rintro ⟨tid, op⟩ db b h
  change b.Answers ⟨tid, op⟩ db
  cases op with
  | registration u p => exact h.registration u p
  | login u p => exact h.login u p
  | logout => exact h.logout
  | isLoggedIn => exact h.isLoggedIn
  | getUsernames pattern => exact h.getUsernames pattern
  | sendTxt r txt => exact h.sendTxt r txt
  | recvTxt s c => exact h.recvTxt s c
  | getCorrespondents l => exact h.getCorrespondents l
  | deleteUser => exact h.deleteUser

end Board

/-- Whatever operations the threads of a server perform, in whatever order, up to the first one
that does not return: the replies of the database, and the way in which that operation fails, are
those that the board prescribes. -/
theorem database_refines_board (es : List Event) :
    Allows Board.Rule es .empty (transcript exec es .empty) :=
  Board.refines.allows_transcript es Board.depicts_empty

/-! ## The server in front of the database -/

/-- The calls of an action are recorded with the replies that the database gives. -/
lemma transcript_performed {action : Action} {w w' : ServerState} {r : Option Response}
    (h : serverStep action w = .ok (r, w')) :
    transcript exec ((performed action w).map Performed.event) w.db =
      ⟨(performed action w).map Performed.reply, none⟩ := by
  cases serverStep_effect h with
  | called tid op next reply db ha hphase hexec =>
    subst ha
    simp [performed, hphase, hexec, transcript]
  | finished tid ha hphase =>
    subst ha
    rfl
  | _ =>
    subst_vars
    rfl

/-- The calls of a run are recorded with the replies that the database gives. -/
lemma transcript_callsOf {actions : List Action} {w w' : ServerState}
    (hrun : run serverStep actions w = .ok w') :
    transcript exec ((callsOf actions w).map Performed.event) w.db =
      ⟨(callsOf actions w).map Performed.reply, none⟩ := by
  refine run_history (G := fun _ _ => True)
    (P := fun actions _ => transcript exec ((callsOf actions w).map Performed.event) w.db =
      ⟨(callsOf actions w).map Performed.reply, none⟩)
    rfl ?_ (guarded_true actions w) hrun
  intro before action w₁ r w₂ hbefore ih _ hstep
  rw [callsOf, collect_concat hbefore hstep, List.map_append, ← callsOf,
    transcript_append (run_callsOf hbefore), ih, transcript_performed hstep, List.map_append]

/-- In every run of the server, with any number of connections and any interleaving of their
handlers, the database calls that the handlers make are answered by the rules of the board. -/
theorem calls_refine_board {actions : List Action} {w : ServerState}
    (hrun : run serverStep actions .initial = .ok w) :
    Allows Board.Rule ((callsOf actions .initial).map Performed.event) .empty
      ⟨(callsOf actions .initial).map Performed.reply, none⟩ := by
  rw [← transcript_callsOf hrun]
  exact Board.refines.allows_transcript _ Board.depicts_empty

end Chat262
