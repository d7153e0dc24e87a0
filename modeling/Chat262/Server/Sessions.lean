import Chat262.Server.Steps

/-!
# Sessions of deleted users

`threads_` should only name registered users: `SessionsRegistered`.  The operations that need a
login look the thread's user up with `users_.at`, which throws for a name that is not registered.

`delete_user` erases the user and the session of the thread that runs it, but not the sessions that
other threads hold for the same user.  `sessionsSafe_throughout_iff` says exactly what this costs:
a run keeps the sessions safe in all its states if and only if every deletion in it is made by the
only thread logged in as the deleted user.
-/

namespace Chat262

open Std (ExtTreeMap)

/-- Every username in `threads_` is a key of `users_`. -/
def SessionsRegistered (db : Database) : Prop :=
  ∀ (tid : ThreadId) (name : ByteString), db.threads[tid]? = some name → name ∈ db.users

/-- The sessions are those of registered users, and no operation of any thread throws from
`users_.at` on the name of its session. -/
def SessionsSafe (db : Database) : Prop :=
  SessionsRegistered db ∧ ∀ e, exec e db ≠ .error .sessionOutOfRange

/-- A thread that deletes its user is the only one logged in as that user. -/
def SoleSession (e : Event) (db : Database) : Prop :=
  e.op = .deleteUser → ∀ (name : ByteString) (other : ThreadId),
    db.threads[e.tid]? = some name → db.threads[other]? = some name → other = e.tid

/-- A fresh server has no sessions. -/
lemma sessionsRegistered_empty : SessionsRegistered .empty := by
  simp [SessionsRegistered, Database.empty]

/-- When all sessions are those of registered users, no session lookup throws. -/
lemma SessionsRegistered.exec_ne {db : Database} (h : SessionsRegistered db) (e : Event) :
    exec e db ≠ .error .sessionOutOfRange := by
  intro hexec
  obtain ⟨name, hsession, ⟨hname, -⟩ | ⟨u, -, -, hloop⟩⟩ := of_exec_eq_error hexec
  · exact hname (h e.tid name hsession)
  · rcases of_foldlM_dropChat_eq_error hloop with ⟨h, -⟩ | ⟨h, -⟩ <;> cases h

/-- The second half of `SessionsSafe` follows from the first. -/
lemma sessionsSafe_iff (db : Database) : SessionsSafe db ↔ SessionsRegistered db :=
  ⟨And.left, fun h => ⟨h, h.exec_ne⟩⟩

/-! ## One step -/

/-- Registering keeps the registered users registered. -/
lemma SessionsRegistered.registered {db : Database} (h : SessionsRegistered db)
    (u p : ByteString) :
    SessionsRegistered { db with
      users := db.users.insertIfNew u ⟨u, p, ∅⟩
      historicalUsers := db.historicalUsers.insert u } := by
  intro tid name hsession
  exact ExtTreeMap.mem_insertIfNew.mpr (.inr (h tid name hsession))

/-- Logging in as a registered user adds a session of that user. -/
lemma SessionsRegistered.loggedIn {db : Database} (h : SessionsRegistered db) {u : ByteString}
    (hu : u ∈ db.users) (tid : ThreadId) :
    SessionsRegistered { db with threads := db.threads.insertIfNew tid u } := by
  intro other name hsession
  simp only [ExtTreeMap.getElem?_insertIfNew] at hsession
  split_ifs at hsession
  · cases hsession; exact hu
  · exact h other name hsession

/-- Logging out removes a session. -/
lemma SessionsRegistered.loggedOut {db : Database} (h : SessionsRegistered db) (tid : ThreadId) :
    SessionsRegistered { db with threads := db.threads.erase tid } := by
  intro other name hsession
  simp only [ExtTreeMap.getElem?_erase] at hsession
  split_ifs at hsession
  exact h other name hsession

/-- Deleting a user keeps the sessions registered exactly when no other thread holds one of that
user. -/
lemma SessionsRegistered.deleted_iff {db : Database} (h : SessionsRegistered db) {tid : ThreadId}
    {name : ByteString} {users : Users} (husers : ∀ k, k ∈ users ↔ k ∈ db.users) :
    SessionsRegistered { db with users := users.erase name, threads := db.threads.erase tid } ↔
      ∀ other : ThreadId, db.threads[other]? = some name → other = tid := by
  constructor
  · intro hafter other hother
    by_contra hne
    have hmem : name ∈ users.erase name :=
      hafter other name (by simp [ExtTreeMap.getElem?_erase, Ne.symm hne, hother])
    simp at hmem
  · intro hsole other k hother
    simp only [ExtTreeMap.getElem?_erase, Std.LawfulEqCmp.compare_eq_iff_eq] at hother
    split_ifs at hother with hne
    have hk : name ≠ k := by
      rintro rfl
      exact hne (hsole other hother).symm
    simp only [ExtTreeMap.mem_erase, ne_eq, Std.LawfulEqCmp.compare_eq_iff_eq]
    exact ⟨hk, (husers k).mpr (h other k hother)⟩

/-- The loop of `delete_user` adds and removes no user. -/
lemma mem_foldlM_dropChat {name : ByteString} {keys : List ByteString} {users users' : Users}
    (h : keys.foldlM (Database.dropChat name) users = .ok users') (k : ByteString) :
    k ∈ users' ↔ k ∈ users := by
  rw [ExtTreeMap.mem_iff_isSome_getElem?, ExtTreeMap.mem_iff_isSome_getElem?,
    (of_foldlM_dropChat_eq_ok h).2 k]
  split_ifs <;> simp

/-- An operation keeps the sessions registered exactly when it is not a deletion that leaves
another session of the deleted user behind. -/
lemma sessionsRegistered_step {e : Event} {db db' : Database} {reply : Reply}
    (h : SessionsRegistered db) (hexec : exec e db = .ok (reply, db')) :
    SessionsRegistered db' ↔ SoleSession e db := by
  cases exec_effect hexec with
  | rejected hwhy =>
    refine iff_of_true h fun hop name other hsession => ?_
    simp [Refused, hop, hsession] at hwhy
  | registered u p hop =>
    exact iff_of_true (h.registered u p) (by simp [SoleSession, hop])
  | loggedIn u p user hop hout huser =>
    have hu : u ∈ db.users := ExtTreeMap.mem_iff_isSome_getElem?.mpr (by simp [huser])
    exact iff_of_true (h.loggedIn hu e.tid) (by simp [SoleSession, hop])
  | loggedOut hop =>
    exact iff_of_true (h.loggedOut e.tid) (by simp [SoleSession, hop])
  | sent r txt name sender hop =>
    refine iff_of_true (fun tid k hk => ?_) (by simp [SoleSession, hop])
    exact mem_afterSend.mpr (h tid k hk)
  | deleted name u users hop hsession huser hloop =>
    rw [h.deleted_iff (mem_foldlM_dropChat hloop)]
    simp only [SoleSession, hop, hsession, Option.some.injEq, forall_const]
    exact ⟨fun hsole k other hk => hk ▸ hsole other, fun hsole other => hsole name other rfl⟩
  | read reply hread =>
    refine iff_of_true h fun hop => ?_
    simp [hop, Operation.IsRead] at hread

/-! ## Whole runs -/

/-- In a run from the empty database, all states have safe sessions if and only if every thread
that deletes its user is the only one logged in as that user. -/
theorem sessionsSafe_throughout_iff (es : List Event) :
    Foundation.Throughout exec SessionsSafe es .empty ↔
      Foundation.Guarded exec SoleSession es .empty := by
  refine Foundation.throughout_iff_guarded ?_ ((sessionsSafe_iff _).mpr sessionsRegistered_empty)
  intro e db reply db' hdb hexec
  rw [sessionsSafe_iff]
  exact sessionsRegistered_step hdb.1 hexec

/-- Two threads log in as the same user and one of them deletes it. -/
def orphanedSession : List Event :=
  [⟨0, .registration [97] [112]⟩, ⟨0, .login [97] [112]⟩, ⟨1, .login [97] [112]⟩,
    ⟨0, .deleteUser⟩]

/-- After `orphanedSession` the other thread is still in charge of the deleted user, and its next
`get_correspondents` throws. -/
theorem orphanedSession_throws :
    ∃ db, Foundation.run exec orphanedSession .empty = .ok db ∧
      db.threads[1]? = some [97] ∧ ([97] : ByteString) ∉ db.users ∧
      exec ⟨1, .getCorrespondents []⟩ db = .error .sessionOutOfRange :=
  ⟨_, rfl, by decide, by decide, by rfl⟩

end Chat262
