import Chat262.Foundation.Since
import Chat262.Server.Sessions

/-!
# The life of an account

What `login` and `registration` answer is said here by what has happened before, not by what the
maps hold: `accountLog` lists the successful registrations and deletions of a run.  A name is in
`users_` with the password `p` exactly when it has been registered with `p` and not been deleted
since, and in `historical_users_` exactly when it has been registered at all (`KeepsAccounts`).
Every operation preserves this, and `accounts_of_run` reads the answers off it.
-/

namespace Chat262

open Std (ExtTreeMap ExtTreeSet)
open Foundation

/-! ## The log of the accounts -/

/-- What becomes of an account. -/
inductive AccountEntry where
  /-- `registration` has returned ok for the name, with this password. -/
  | registered (username password : ByteString)
  /-- `delete_user` has returned ok for a thread logged in as the name. -/
  | deleted (username : ByteString)
deriving DecidableEq, Repr

/-- The log entry of an operation: one for a registration or a deletion that returns ok. -/
def accountEntry (e : Event) (db : Database) : List AccountEntry :=
  match e.op, db.threads[e.tid]?, exec e db with
  | .registration u p, _, .ok (.status .ok, _) => [.registered u p]
  | .deleteUser, some name, .ok (.status .ok, _) => [.deleted name]
  | _, _, _ => []

/-- The successful registrations and deletions of a run from the empty database, in order. -/
def accountLog (es : List Event) : List AccountEntry :=
  collect exec accountEntry es .empty

/-- The name that a log entry registers. -/
def AccountEntry.registeredName : AccountEntry → Option ByteString
  | .registered u _ => some u
  | .deleted _ => none

/-- The account has been opened with this password and not been deleted since. -/
def Opened (u p : ByteString) (log : List AccountEntry) : Prop :=
  Since (fun entry => entry = .registered u p) (fun entry => entry = .deleted u) log

/-- An entry behind the others opens the account or, unless it deletes it, leaves it open. -/
lemma opened_concat {u p : ByteString} {log : List AccountEntry} {entry : AccountEntry} :
    Opened u p (log ++ [entry]) ↔
      entry = .registered u p ∨ Opened u p log ∧ entry ≠ .deleted u :=
  since_concat

/-- An account that is open has been registered. -/
lemma Opened.registered {u p : ByteString} {log : List AccountEntry} (h : Opened u p log) :
    u ∈ log.filterMap AccountEntry.registeredName := by
  obtain ⟨before, entry, after, rfl, rfl, -⟩ := h
  simp [AccountEntry.registeredName]

/-! ## What the maps say about the log -/

/-- The database agrees with the log of the accounts. -/
structure KeepsAccounts (log : List AccountEntry) (db : Database) : Prop where
  /-- The users are the open accounts, with the passwords they were registered with. -/
  users : ∀ u p, db.users[u]?.map User.password = some p ↔ Opened u p log
  /-- The historical names are those that were registered. -/
  historical : ∀ u, u ∈ db.historicalUsers ↔ u ∈ log.filterMap AccountEntry.registeredName
  nodup : (log.filterMap AccountEntry.registeredName).Nodup

/-- The empty database agrees with the empty log. -/
lemma keepsAccounts_empty : KeepsAccounts [] .empty := by
  constructor <;> simp [Database.empty, Opened]

namespace KeepsAccounts

variable {log : List AccountEntry} {db : Database}

/-- The relation reads only the passwords and the used names. -/
lemma congr (h : KeepsAccounts log db) {db' : Database}
    (husers : ∀ u : ByteString,
      db'.users[u]?.map User.password = db.users[u]?.map User.password)
    (hpast : db'.historicalUsers = db.historicalUsers) : KeepsAccounts log db' := by
  refine ⟨fun u p => ?_, fun u => ?_, h.nodup⟩
  · rw [husers u]
    exact h.users u p
  · rw [hpast]
    exact h.historical u

/-- A name that was never used opens its account. -/
lemma registered (h : KeepsAccounts log db) {u : ByteString} (p : ByteString)
    (hnew : u ∉ db.users) (hpast : u ∉ db.historicalUsers) :
    KeepsAccounts (log ++ [AccountEntry.registered u p]) { db with
      users := db.users.insertIfNew u ⟨u, p, ∅⟩
      historicalUsers := db.historicalUsers.insert u } := by
  have hunused : u ∉ log.filterMap AccountEntry.registeredName :=
    fun hmem => hpast ((h.historical u).mpr hmem)
  have hnames : (log ++ [AccountEntry.registered u p]).filterMap AccountEntry.registeredName =
      log.filterMap AccountEntry.registeredName ++ [u] := by
    simp [AccountEntry.registeredName]
  constructor
  case users =>
    intro k q
    rw [opened_concat, ← h.users k q]
    by_cases hk : k = u
    · subst hk
      have hnone : db.users[k]? = none := by grind
      have hget : (db.users.insertIfNew k ⟨k, p, ∅⟩)[k]? = some ⟨k, p, ∅⟩ := by grind
      rw [hnone, hget]
      simp
    · have hget : (db.users.insertIfNew u ⟨u, p, ∅⟩)[k]? = db.users[k]? := by grind
      simp [hget, Ne.symm hk]
  case historical =>
    intro k
    rw [hnames, List.mem_append, List.mem_singleton, ← h.historical k]
    grind
  case nodup =>
    rw [hnames, List.nodup_append]
    refine ⟨h.nodup, List.nodup_singleton u, ?_⟩
    rintro k hk l hl rfl
    rw [List.mem_singleton.mp hl] at hk
    exact hunused hk

/-- Deleting the user closes its account and no other. -/
lemma deleted (h : KeepsAccounts log db) {name : ByteString} {u : User} {users : Users}
    (hloop : u.chats.keys.foldlM (Database.dropChat name) db.users = .ok users)
    (threads : ExtTreeMap ThreadId ByteString compare) :
    KeepsAccounts (log ++ [AccountEntry.deleted name])
      { db with users := users.erase name, threads := threads } := by
  have hnames : (log ++ [AccountEntry.deleted name]).filterMap AccountEntry.registeredName =
      log.filterMap AccountEntry.registeredName := by
    simp [AccountEntry.registeredName]
  constructor
  case users =>
    intro k p
    have hpassword : (users.erase name)[k]?.map User.password =
        if name = k then none else db.users[k]?.map User.password :=
      getElem?_deleted_map (fun _ _ => rfl) hloop k
    rw [opened_concat, ← h.users k p, hpassword]
    by_cases hk : name = k <;> simp [hk]
  case historical =>
    intro k
    rw [hnames]
    exact h.historical k
  case nodup =>
    rw [hnames]
    exact h.nodup

/-- An operation that returns keeps the agreement, its own entry added to the log. -/
lemma step (h : KeepsAccounts log db) {e : Event} {db' : Database} {reply : Reply}
    (hexec : exec e db = .ok (reply, db')) : KeepsAccounts (log ++ accountEntry e db) db' := by
  cases exec_effect hexec with
  | rejected hwhy =>
    have hnone : accountEntry e db = [] := by
      unfold accountEntry
      simp only [hexec]
      split <;> simp_all
    rwa [hnone, List.append_nil]
  | registered u p hop hnew hpast =>
    have hone : accountEntry e db = [.registered u p] := by simp [accountEntry, hop, hexec]
    rw [hone]
    exact h.registered p hnew hpast
  | loggedIn u p user hop =>
    rw [show accountEntry e db = [] by simp [accountEntry, hop], List.append_nil]
    exact h.congr (fun _ => rfl) rfl
  | loggedOut hop =>
    rw [show accountEntry e db = [] by simp [accountEntry, hop], List.append_nil]
    exact h.congr (fun _ => rfl) rfl
  | sent r txt name sender hop =>
    rw [show accountEntry e db = [] by simp [accountEntry, hop], List.append_nil]
    refine h.congr (fun k => ?_) rfl
    exact getElem?_afterSend_map (fun _ _ => rfl) name sender.username r txt k db.users
  | deleted name u users hop hsession huser hloop =>
    have hone : accountEntry e db = [.deleted name] := by
      simp [accountEntry, hop, hsession, hexec]
    rw [hone]
    exact h.deleted hloop _
  | read reply hread =>
    have hnone : accountEntry e db = [] := by
      unfold accountEntry
      split <;> simp_all [Operation.IsRead]
    rwa [hnone, List.append_nil]

end KeepsAccounts

/-- Every database that a run reaches agrees with the accounts of the run. -/
theorem keepsAccounts_of_run {es : List Event} {db : Database}
    (hrun : run exec es .empty = .ok db) : KeepsAccounts (accountLog es) db := by
  refine run_history (P := fun es db => KeepsAccounts (accountLog es) db)
    keepsAccounts_empty ?_ (guarded_true es _) hrun
  intro es e s r t hes hP _ he
  rw [accountLog, collect_concat hes he]
  exact hP.step he

/-! ## What the answers say about the past -/

/-- No name is registered twice, in a run that ends or up to the operation that a run is cut short
by. -/
lemma accountLog_nodup (es : List Event) :
    ((accountLog es).filterMap AccountEntry.registeredName).Nodup := by
  cases hrun : run exec es .empty with
  | ok db => exact (keepsAccounts_of_run hrun).nodup
  | error a =>
    obtain ⟨before, e, after, db, rfl, hbefore, hexec⟩ := run_eq_error.mp hrun
    rw [accountLog, collect_append_of_error hbefore hexec]
    exact (keepsAccounts_of_run hbefore).nodup

/-- What a thread that is not logged in is answered, by the record of the name it asks for. -/
lemma login_of_notMem {tid : ThreadId} {db : Database} (hout : tid ∉ db.threads)
    (u p : ByteString) :
    (db.login tid u p).1 = .ok ↔ db.users[u]?.map User.password = some p := by
  unfold Database.login
  rw [if_neg hout]
  cases huser : db.users[u]? with
  | none => simp
  | some user => by_cases hpass : p = user.password <;> simp [hpass, eq_comm]

/-- In every run, a name is registered at most once.  After it, a thread that is not logged in can
log in as `u` with `p` if and only if `u` has been registered with `p` and no thread logged in as
`u` has deleted it since. -/
theorem accounts_of_run (es : List Event) (u : ByteString) :
    ((accountLog es).filterMap AccountEntry.registeredName).count u ≤ 1 ∧
      ∀ db, run exec es .empty = .ok db → ∀ (tid : ThreadId) (p : ByteString),
        tid ∉ db.threads →
          ∃ s db', exec ⟨tid, .login u p⟩ db = .ok (.status s, db') ∧
            (s = .ok ↔
              Since (fun entry => entry = .registered u p) (fun entry => entry = .deleted u)
                (accountLog es)) := by
  refine ⟨List.nodup_iff_count_le_one.mp (accountLog_nodup es) u, ?_⟩
  intro db hrun tid p hout
  refine ⟨(db.login tid u p).1, (db.login tid u p).2, rfl, ?_⟩
  exact (login_of_notMem hout u p).trans ((keepsAccounts_of_run hrun).users u p)

/-- A third thread asks for the account that `orphanedSession` has deleted. -/
theorem accounts_of_orphanedSession :
    ∃ db, run exec orphanedSession .empty = .ok db ∧ (2 : ThreadId) ∉ db.threads ∧
      ∃ s db', exec ⟨2, .login [97] [112]⟩ db = .ok (.status s, db') ∧
        (s = .ok ↔
          Since (fun entry => entry = .registered [97] [112]) (fun entry => entry = .deleted [97])
            (accountLog orphanedSession)) := by
  obtain ⟨db, hrun⟩ : ∃ db, run exec orphanedSession .empty = .ok db := ⟨_, rfl⟩
  have hout : (2 : ThreadId) ∉ db.threads := by
    cases hrun
    decide
  exact ⟨db, hrun, hout, (accounts_of_run orphanedSession [97]).2 db hrun 2 [112] hout⟩

end Chat262
