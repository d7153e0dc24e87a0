import Chat262.Server.Steps

/-!
# Operations and their own session

An operation reads the sessions only under the id of its own thread, and changes only that entry.
`SameView tid` relates two databases that look the same to the thread `tid`: they differ in the
sessions of other threads at most.  `exec_of_sameView` says that an operation of the thread cannot
tell them apart, and `session_of_exec` that it leaves the other sessions alone.
-/

namespace Chat262

open Std (ExtTreeMap)

/-- Two databases look the same to the thread `tid`. -/
structure SameView (tid : ThreadId) (db db' : Database) : Prop where
  users : db.users = db'.users
  historicalUsers : db.historicalUsers = db'.historicalUsers
  session : db.threads[tid]? = db'.threads[tid]?

namespace SameView

variable {tid : ThreadId} {db db' : Database}

/-- Whether a thread has a session is part of its view. -/
lemma mem_threads_iff (h : SameView tid db db') : tid ∈ db.threads ↔ tid ∈ db'.threads := by
  rw [ExtTreeMap.mem_iff_isSome_getElem?, ExtTreeMap.mem_iff_isSome_getElem?, h.session]

/-- Both databases find the same user of a session. -/
lemma sessionUser_eq (h : SameView tid db db') (name : ByteString) :
    db.sessionUser name = db'.sessionUser name := by
  unfold Database.sessionUser
  rw [h.users]

/-- Registering a user keeps the views the same. -/
lemma registered (h : SameView tid db db') (u p : ByteString) :
    SameView tid
      { db with
        users := db.users.insertIfNew u ⟨u, p, ∅⟩
        historicalUsers := db.historicalUsers.insert u }
      { db' with
        users := db.users.insertIfNew u ⟨u, p, ∅⟩
        historicalUsers := db.historicalUsers.insert u } :=
  ⟨rfl, rfl, h.session⟩

/-- Opening a session keeps the views the same. -/
lemma loggedIn (h : SameView tid db db') (u : ByteString) :
    SameView tid { db with threads := db.threads.insertIfNew tid u }
      { db' with threads := db'.threads.insertIfNew tid u } := by
  have hmem := h.mem_threads_iff
  refine ⟨h.users, h.historicalUsers, ?_⟩
  simp only [ExtTreeMap.getElem?_insertIfNew, Std.ReflCmp.compare_self, true_and, hmem, h.session]

/-- Closing the session keeps the views the same. -/
lemma loggedOut (h : SameView tid db db') :
    SameView tid { db with threads := db.threads.erase tid }
      { db' with threads := db'.threads.erase tid } :=
  ⟨h.users, h.historicalUsers, by simp⟩

/-- Changing the users in the same way keeps the views the same. -/
lemma withUsers (h : SameView tid db db') (users : Users) :
    SameView tid { db with users := users } { db' with users := users } :=
  ⟨rfl, h.historicalUsers, h.session⟩

end SameView

/-- Two results of an operation are the same to the thread `tid`: the same reply with databases that
look the same to it, or the same exception. -/
inductive SameResult (tid : ThreadId) :
    Except Abort (Reply × Database) → Except Abort (Reply × Database) → Prop where
  | ok {reply : Reply} {d d' : Database} (h : SameView tid d d') :
      SameResult tid (.ok (reply, d)) (.ok (reply, d'))
  | error (a : Abort) : SameResult tid (.error a) (.error a)

section Operations

variable {tid : ThreadId} {db db' : Database}

/-- An operation that returns in one of the databases returns the same in the other. -/
lemma SameResult.exists_ok {x x' : Except Abort (Reply × Database)} {reply : Reply}
    (h : SameResult tid x x') (hx : x = .ok (reply, db)) :
    ∃ d', x' = .ok (reply, d') ∧ SameView tid db d' := by
  rcases h with hview | a
  · cases hx
    exact ⟨_, rfl, hview⟩
  · cases hx

/-- An operation that is aborted in one of the databases is aborted in the other. -/
lemma SameResult.eq_error {x x' : Except Abort (Reply × Database)} {a : Abort}
    (h : SameResult tid x x') (hx : x = .error a) : x' = .error a := by
  rcases h with hview | a'
  · cases hx
  · exact hx

/-- A registration reads the users and the used names. -/
lemma SameView.exec_registration (h : SameView tid db db') (u p : ByteString) :
    SameResult tid (exec ⟨tid, .registration u p⟩ db) (exec ⟨tid, .registration u p⟩ db') := by
  simp only [exec, Database.registration, ← h.users, ← h.historicalUsers]
  split_ifs
  · exact .ok h
  · exact .ok (h.registered u p)

/-- A login reads the session of the thread and the users. -/
lemma SameView.exec_login (h : SameView tid db db') (u p : ByteString) :
    SameResult tid (exec ⟨tid, .login u p⟩ db) (exec ⟨tid, .login u p⟩ db') := by
  simp only [exec, Database.login, ← h.users, ← h.mem_threads_iff]
  split_ifs
  · exact .ok h
  rcases db.users[u]? with _ | user
  · exact .ok h
  by_cases hpass : p ≠ user.password
  · simp only [if_pos hpass]
    exact .ok h
  · have hview := h.loggedIn u
    rw [← h.users] at hview
    simp only [if_neg hpass]
    exact .ok hview

/-- A logout reads the session of the thread. -/
lemma SameView.exec_logout (h : SameView tid db db') :
    SameResult tid (exec ⟨tid, .logout⟩ db) (exec ⟨tid, .logout⟩ db') := by
  simp only [exec, Database.logout, ← h.mem_threads_iff]
  split_ifs
  · exact .ok h.loggedOut
  · exact .ok h

/-- Sending a text reads the session of the thread and the users. -/
lemma SameView.exec_sendTxt (h : SameView tid db db') (r txt : ByteString) :
    SameResult tid (exec ⟨tid, .sendTxt r txt⟩ db) (exec ⟨tid, .sendTxt r txt⟩ db') := by
  simp only [exec, Database.sendTxt, ← h.session, ← h.sessionUser_eq, ← h.users]
  rcases db.threads[tid]? with _ | name
  · exact .ok h
  dsimp only
  rcases db.sessionUser name with a | sender
  · exact .error a
  by_cases hr : r ∈ db.users
  · simp only [if_pos hr]
    exact .ok (h.withUsers _)
  · simp only [if_neg hr]
    exact .ok h

/-- Receiving texts reads the session of the thread and the users. -/
lemma SameView.exec_recvTxt (h : SameView tid db db') (s : ByteString) (c : Chat) :
    SameResult tid (exec ⟨tid, .recvTxt s c⟩ db) (exec ⟨tid, .recvTxt s c⟩ db') := by
  simp only [exec, Database.recvTxt, ← h.session, ← h.sessionUser_eq, ← h.users]
  rcases db.threads[tid]? with _ | name
  · exact .ok h
  dsimp only
  rcases db.sessionUser name with a | recipient
  · exact .error a
  by_cases hs : s ∈ db.users
  · simp only [bind, Except.bind, if_pos hs]
    rcases recipient.chats[s]? with _ | c'
    · exact .ok h
    · exact .ok h
  · simp only [if_neg hs]
    exact .ok h

/-- Listing the correspondents reads the session of the thread and the users. -/
lemma SameView.exec_getCorrespondents (h : SameView tid db db') (l : List ByteString) :
    SameResult tid (exec ⟨tid, .getCorrespondents l⟩ db)
      (exec ⟨tid, .getCorrespondents l⟩ db') := by
  simp only [exec, Database.getCorrespondents, ← h.session, ← h.sessionUser_eq]
  rcases db.threads[tid]? with _ | name
  · exact .ok h
  dsimp only
  rcases db.sessionUser name with a | user
  · exact .error a
  · exact .ok h

/-- Deleting a user reads the session of the thread and the users. -/
lemma SameView.exec_deleteUser (h : SameView tid db db') :
    SameResult tid (exec ⟨tid, .deleteUser⟩ db) (exec ⟨tid, .deleteUser⟩ db') := by
  simp only [exec, Database.deleteUser, ← h.session, ← h.sessionUser_eq, ← h.users]
  rcases db.threads[tid]? with _ | name
  · exact .ok h
  dsimp only
  rcases db.sessionUser name with a | user
  · exact .error a
  simp only [bind, Except.bind]
  rcases user.chats.keys.foldlM (Database.dropChat name) db.users with a | users
  · exact .error a
  · exact .ok (h.withUsers _).loggedOut

/-- An operation of a thread does the same in two databases that look the same to the thread, and
they look the same to it afterwards. -/
theorem exec_of_sameView (h : SameView tid db db') (op : Operation) :
    SameResult tid (exec ⟨tid, op⟩ db) (exec ⟨tid, op⟩ db') := by
  cases op with
  | registration u p => exact h.exec_registration u p
  | login u p => exact h.exec_login u p
  | logout => exact h.exec_logout
  | isLoggedIn =>
    simp only [exec, Database.isLoggedIn, ← h.mem_threads_iff]
    exact .ok h
  | getUsernames pattern =>
    simp only [exec, Database.getUsernames, ← h.users]
    exact .ok h
  | sendTxt r txt => exact h.exec_sendTxt r txt
  | recvTxt s c => exact h.exec_recvTxt s c
  | getCorrespondents l => exact h.exec_getCorrespondents l
  | deleteUser => exact h.exec_deleteUser

end Operations

/-- An operation of a thread leaves the sessions of the other threads alone. -/
theorem session_of_exec {e : Event} {db db' : Database} {reply : Reply}
    (h : exec e db = .ok (reply, db')) {other : ThreadId} (hother : other ≠ e.tid) :
    db'.threads[other]? = db.threads[other]? := by
  cases exec_effect h with
  | loggedIn u p user hop hout huser hpass =>
    simp [ExtTreeMap.getElem?_insertIfNew, Ne.symm hother]
  | loggedOut hop hin => simp [ExtTreeMap.getElem?_erase, Ne.symm hother]
  | deleted name u users hop hsession huser hloop =>
    simp [ExtTreeMap.getElem?_erase, Ne.symm hother]
  | _ => rfl

/-- Logging a thread out leaves the sessions of the other threads alone. -/
lemma session_logout {tid other : ThreadId} (hother : other ≠ tid) (db : Database) :
    (db.logout tid).2.threads[other]? = db.threads[other]? :=
  have hexec : exec ⟨tid, .logout⟩ db = .ok (.status (db.logout tid).1, (db.logout tid).2) := rfl
  session_of_exec hexec hother

end Chat262
