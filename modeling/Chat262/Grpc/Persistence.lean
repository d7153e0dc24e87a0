import Chat262.Foundation.PartialRun
import Chat262.Foundation.Since
import Chat262.Grpc.Server

/-!
# What the database file keeps

`Register` and `ReceiveMessage` give the database to `storeData` when they change it;
`DeleteAccount` and `SendMessage` do not.  What they change is written to the file by whichever
method stores the database next, and is lost if the server stops before.  `persists_iff` says that
this is all: after any sequence of completed calls, a server that is stopped comes back with the
same accounts and the same pending messages if and only if no deletion and no sent message has come
after the last store.

What `pickle` does is a parameter, of which only the round trip is assumed.
-/

namespace Chat262.Grpc

open Foundation

/-! ## The file -/

/-- `pickle`, as far as databases go. -/
structure Pickle where
  /-- The bytes are what `pickle.dump` writes for the database. -/
  Dumps : Db → List UInt8 → Prop
  /-- `pickle.load`: the database, or an exception. -/
  load : List UInt8 → Option Db

/-- What is assumed of `pickle`: a dump is restored. -/
def Pickle.RoundTrips (p : Pickle) : Prop := ∀ db bytes, p.Dumps db bytes → p.load bytes = some db

/-- `loadData`: what a server starts with that finds the file, or finds none. -/
def loadData (p : Pickle) (file : Option (List UInt8)) : Db :=
  match file with
  | some bytes => (p.load bytes).getD .empty
  | none => .empty

/-- A server and its file. -/
structure Server where
  /-- `db`. -/
  db : Db
  /-- `db.pkl`, if it exists. -/
  file : Option (List UInt8)

/-- A server that starts with a file. -/
def Server.start (p : Pickle) (file : Option (List UInt8)) : Server := ⟨loadData p file, file⟩

/-- `storeData` for some databases, one after the other: each dump takes the place of what was in
the file. -/
inductive Written (p : Pickle) : Option (List UInt8) → List Db → Option (List UInt8) → Prop
  | nothing (file : Option (List UInt8)) : Written p file [] file
  | store {file file' : Option (List UInt8)} {db : Db} {rest : List Db} {bytes : List UInt8}
      (hdump : p.Dumps db bytes) (hrest : Written p (some bytes) rest file') :
      Written p file (db :: rest) file'

/-- The servers that completed calls lead to. -/
inductive Serves (p : Pickle) (start : Server) : List Call → Server → Prop
  | start : Serves p start [] start
  | call {calls : List Call} {s : Server} {file : Option (List UInt8)} (call : Call)
      (hbefore : Serves p start calls s)
      (hfile : Written p s.file (call.perform s.db).stored file) :
      Serves p start (calls ++ [call]) ⟨(call.perform s.db).db, file⟩

/-- The server that is started after this one has been stopped has the same usernames and passwords
and the same pending messages. -/
def Server.Persists (p : Pickle) (s : Server) : Prop :=
  (∀ u, (loadData p s.file).passwords.lookup u = s.db.passwords.lookup u) ∧
    ∀ r, (loadData p s.file).messages r = s.db.messages r

/-! ## What calls do to the database and the file -/

/-- What becomes of a change that a call makes. -/
inductive Change where
  /-- There is none. -/
  | none
  /-- The database is stored with it. -/
  | stored
  /-- The database is not stored. -/
  | unsaved
deriving DecidableEq, Repr

/-- The change that a call makes of a database, and whether it is stored. -/
def Call.change : Call → Db → Change
  | .register u _, db => if u ∉ db.passwords then .stored else .none
  | .login _ _, _ => .none
  | .deleteAccount u p, db => if db.passwords.lookup u = some p then .unsaved else .none
  | .sendMessage request, db =>
    if request.sender ∈ db.passwords ∧ request.receiver ∈ db.passwords then .unsaved else .none
  | .getUsers, _ => .none
  | .receiveMessage r, db => if db.messages r = [] then .none else .stored

/-- A call on the database alone, which always completes. -/
def performStep (call : Call) (db : Db) : Except Empty (Reply × Db) :=
  .ok ((call.perform db).reply, (call.perform db).db)

/-- The changes that some calls make, in order. -/
def changes (calls : List Call) (db : Db) : List Change :=
  collect performStep (fun call db => [call.change db]) calls db

/-- A database has drifted away from an older one: an account is gone, or there are more messages
for somebody. -/
def Drifted (old db : Db) : Prop :=
  (∃ u ∈ old.passwords, u ∉ db.passwords) ∨
    ∃ r, (old.messages r).length < (db.messages r).length

/-- A database that has drifted away is another one. -/
lemma Drifted.not_persists {p : Pickle} {s : Server} (h : Drifted (loadData p s.file) s.db) :
    ¬ s.Persists p := by
  rintro ⟨hpasswords, hmessages⟩
  rcases h with ⟨u, hold, hnew⟩ | ⟨r, hlt⟩
  · rw [← AList.lookup_isSome, hpasswords u] at hold
    exact hnew (AList.lookup_isSome.mp hold)
  · rw [hmessages r] at hlt
    exact lt_irrefl _ hlt

/-- Deleting an account makes a database drift away from itself, and further away from another. -/
lemma drifted_erase {old db : Db} {u : String} (hu : u ∈ db.passwords)
    (h : old = db ∨ Drifted old db) :
    Drifted old { db with passwords := db.passwords.erase u } := by
  rcases h with rfl | ⟨v, hold, hnew⟩ | hmore
  · exact .inl ⟨u, hu, fun hv => (AList.mem_erase.mp hv).1 rfl⟩
  · exact .inl ⟨v, hold, fun hv => hnew (AList.mem_erase.mp hv).2⟩
  · exact .inr hmore

/-- Adding a message makes a database drift away from itself, and further away from another. -/
lemma drifted_append {old db : Db} (r : String) (m : SendRequest)
    (h : old = db ∨ Drifted old db) :
    Drifted old
      { db with messages := Function.update db.messages r (db.messages r ++ [m]) } := by
  rcases h with rfl | ⟨v, hold, hnew⟩ | ⟨r', hlt⟩
  · exact .inr ⟨r, by simp⟩
  · exact .inl ⟨v, hold, hnew⟩
  · refine .inr ⟨r', hlt.trans_le ?_⟩
    by_cases hr : r' = r
    · subst hr
      simp
    · simp [Function.update_of_ne hr]

/-- What a call does: it makes no change and stores nothing; or it makes a change and stores, last
of all, the database that it leaves; or it makes a change, lets the database drift away and stores
nothing. -/
lemma Call.change_cases (call : Call) (db : Db) :
    (call.change db = .none ∧ (call.perform db).db = db ∧ (call.perform db).stored = []) ∨
    (call.change db = .stored ∧
      (call.perform db).stored.getLast? = some (call.perform db).db) ∨
    (call.change db = .unsaved ∧ (call.perform db).stored = [] ∧
      ∀ old, old = db ∨ Drifted old db → Drifted old (call.perform db).db) := by
  cases call with
  | register u p =>
    simp only [Call.change, Call.perform, Outcome.map, Grpc.register]
    by_cases hnew : u ∉ db.passwords
    · exact .inr (.inl ⟨if_pos hnew, by simp only [if_pos hnew]; rfl⟩)
    · exact .inl ⟨if_neg hnew, by simp only [if_neg hnew], by simp only [if_neg hnew]⟩
  | login u p =>
    simp only [Call.change, Call.perform, Outcome.map, Grpc.login]
    refine .inl ⟨trivial, ?_⟩
    split_ifs <;> exact ⟨rfl, rfl⟩
  | deleteAccount u p =>
    simp only [Call.change, Call.perform, Outcome.map, Grpc.deleteAccount]
    by_cases hright : db.passwords.lookup u = some p
    · have hu : u ∈ db.passwords := AList.lookup_isSome.mp (by simp [hright])
      simp only [if_pos hright]
      exact .inr (.inr ⟨trivial, trivial, fun old => drifted_erase hu⟩)
    · simp only [if_neg hright]
      refine .inl ⟨trivial, ?_⟩
      split_ifs <;> exact ⟨rfl, rfl⟩
  | sendMessage request =>
    simp only [Call.change, Call.perform, Outcome.map, Grpc.sendMessage]
    by_cases hknown : request.sender ∈ db.passwords ∧ request.receiver ∈ db.passwords
    · simp only [if_pos hknown]
      exact .inr (.inr ⟨trivial, trivial, fun old => drifted_append request.receiver request⟩)
    · simp only [if_neg hknown]
      exact .inl ⟨trivial, trivial, trivial⟩
  | getUsers => exact .inl ⟨rfl, rfl, rfl⟩
  | receiveMessage r =>
    obtain ⟨-, hdb, hstored⟩ := receiveMessage_eq r db
    simp only [Call.change, Call.perform, Outcome.map]
    by_cases hbox : db.messages r = []
    · refine .inl ⟨if_pos hbox, ?_, ?_⟩
      · rw [hdb, ← hbox, Function.update_eq_self]
      · rw [if_pos hbox] at hstored
        exact List.getLast?_eq_none_iff.mp hstored
    · rw [if_neg hbox] at hstored
      exact .inr (.inl ⟨if_neg hbox, hstored⟩)

/-! ## Whole sequences of calls -/

section Persistence

variable {p : Pickle} {s s' start : Server} {file file' : Option (List UInt8)} {calls : List Call}

/-- The file holds the last of the databases that have been stored, or what it held before. -/
lemma Written.loadData_eq (hp : p.RoundTrips) {dbs : List Db} (h : Written p file dbs file') :
    loadData p file' = dbs.getLast?.getD (loadData p file) := by
  induction h with
  | nothing file => rfl
  | @store file file' db rest bytes hdump hrest ih =>
    rw [ih]
    cases rest with
    | nil => simp [loadData, hp db bytes hdump]
    | cons db' rest => simp [List.getLast?_cons]

/-- The database of a server is the one that the calls make of it. -/
lemma Serves.run_eq (h : Serves p start calls s) :
    run performStep calls start.db = .ok s.db := by
  induction h with
  | start => rfl
  | call call hbefore hfile ih => exact run_concat_eq_ok.mpr ⟨_, _, ih, rfl⟩

/-- One more call adds its change. -/
lemma Serves.changes_concat (h : Serves p start calls s) (call : Call) :
    changes (calls ++ [call]) start.db = changes calls start.db ++ [call.change s.db] :=
  collect_concat h.run_eq rfl

/-- After completed calls, either no change has been made since the last store and the file holds
the database, or one has and the database has drifted away from what the file holds. -/
lemma Serves.persists_or_drifted (hp : p.RoundTrips) (h : Serves p (.start p file) calls s) :
    (¬ Since (· = .unsaved) (· = .stored) (changes calls (loadData p file)) ∧
        loadData p s.file = s.db) ∨
      Since (· = .unsaved) (· = .stored) (changes calls (loadData p file)) ∧
        Drifted (loadData p s.file) s.db := by
  induction h with
  | start => exact .inl ⟨by simp [changes], rfl⟩
  | @call calls s file' call hbefore hfile ih =>
    have hchanges := hbefore.changes_concat call
    change changes (calls ++ [call]) (loadData p file) =
      changes calls (loadData p file) ++ [call.change s.db] at hchanges
    have hload := hfile.loadData_eq hp
    rw [hchanges, since_concat]
    rcases call.change_cases s.db with ⟨hchange, hdb, hstored⟩ | ⟨hchange, hstored⟩ |
      ⟨hchange, hstored, hdrift⟩
    · rw [hstored] at hload
      simpa [hchange, hdb, hload] using ih
    · rw [hstored] at hload
      exact .inl ⟨by simp [hchange], hload⟩
    · rw [hstored] at hload
      refine .inr ⟨.inl hchange, ?_⟩
      rw [hload]
      exact hdrift _ (ih.imp And.right And.right)

/-- After any completed calls, a server that is stopped and started again has the same accounts and
the same pending messages if and only if no account has been deleted and no message been sent since
the database was last stored. -/
theorem persists_iff (hp : p.RoundTrips) (h : Serves p (.start p file) calls s) :
    s.Persists p ↔
      ¬ Since (· = .unsaved) (· = .stored) (changes calls (loadData p file)) := by
  rcases h.persists_or_drifted hp with ⟨hsaved, hload⟩ | ⟨hunsaved, hdrift⟩
  · refine iff_of_true ⟨?_, ?_⟩ hsaved
    · exact fun u => by rw [hload]
    · exact fun r => by rw [hload]
  · exact iff_of_false hdrift.not_persists (not_not_intro hunsaved)

end Persistence

/-! ## A message that is lost -/

/-- The database after `ann` has registered. -/
def annDb : Db := (register "ann" "x" .empty).db

/-- What `pickle.dump` writes for this database, in protocol 4. -/
def annDump : List UInt8 :=
  [128, 4, 149, 95, 0, 0, 0, 0, 0, 0, 0, 125, 148, 40, 140, 9, 112, 97, 115, 115, 119, 111, 114,
    100, 115, 148, 125, 148, 140, 3, 97, 110, 110, 148, 140, 1, 120, 148, 115, 140, 8, 109, 101,
    115, 115, 97, 103, 101, 115, 148, 140, 11, 99, 111, 108, 108, 101, 99, 116, 105, 111, 110, 115,
    148, 140, 11, 100, 101, 102, 97, 117, 108, 116, 100, 105, 99, 116, 148, 147, 148, 140, 8, 98,
    117, 105, 108, 116, 105, 110, 115, 148, 140, 4, 108, 105, 115, 116, 148, 147, 148, 133, 148, 82,
    148, 117, 46]

/-- `pickle` on this database. -/
def annPickle : Pickle where
  Dumps db bytes := db = annDb ∧ bytes = annDump
  load bytes := if bytes = annDump then some annDb else none

/-- The dump is restored. -/
lemma roundTrips_annPickle : annPickle.RoundTrips := by
  rintro db bytes ⟨rfl, rfl⟩
  change (if annDump = annDump then some annDb else none) = some annDb
  exact if_pos rfl

/-- A server that finds no file registers `ann`. -/
lemma serves_register :
    Serves annPickle (.start annPickle none) [.register "ann" "x"] ⟨annDb, some annDump⟩ :=
  Serves.call (.register "ann" "x") .start (.store ⟨rfl, rfl⟩ (.nothing _))

/-- The database after `ann` has been deleted and `bob` has registered. -/
def bobDb : Db := (register "bob" "y" (deleteAccount "ann" "x" annDb).db).db

/-- What `pickle.dump` writes for this one. -/
def bobDump : List UInt8 :=
  [128, 4, 149, 95, 0, 0, 0, 0, 0, 0, 0, 125, 148, 40, 140, 9, 112, 97, 115, 115, 119, 111, 114,
    100, 115, 148, 125, 148, 140, 3, 98, 111, 98, 148, 140, 1, 121, 148, 115, 140, 8, 109, 101,
    115, 115, 97, 103, 101, 115, 148, 140, 11, 99, 111, 108, 108, 101, 99, 116, 105, 111, 110, 115,
    148, 140, 11, 100, 101, 102, 97, 117, 108, 116, 100, 105, 99, 116, 148, 147, 148, 140, 8, 98,
    117, 105, 108, 116, 105, 110, 115, 148, 140, 4, 108, 105, 115, 116, 148, 147, 148, 133, 148, 82,
    148, 117, 46]

/-- `pickle` on both databases. -/
def bothPickle : Pickle where
  Dumps db bytes := (db = annDb ∧ bytes = annDump) ∨ (db = bobDb ∧ bytes = bobDump)
  load bytes :=
    if bytes = annDump then some annDb else if bytes = bobDump then some bobDb else none

/-- Both dumps are restored. -/
lemma roundTrips_bothPickle : bothPickle.RoundTrips := by
  rintro db bytes (⟨rfl, rfl⟩ | ⟨rfl, rfl⟩)
  · simp [bothPickle]
  · have hne : bobDump ≠ annDump := by decide
    simp [bothPickle, hne]

/-- `ann` registers and deletes her account, and `bob` registers. -/
def accountCalls : List Call :=
  [.register "ann" "x", .deleteAccount "ann" "x", .register "bob" "y"]

/-- The second call stores nothing, and the third one stores what both have changed. -/
lemma serves_accountCalls :
    Serves bothPickle (.start bothPickle none) accountCalls ⟨bobDb, some bobDump⟩ := by
  have hfirst : Serves bothPickle (.start bothPickle none) [.register "ann" "x"]
      ⟨annDb, some annDump⟩ :=
    Serves.call (.register "ann" "x") .start (.store (.inl ⟨rfl, rfl⟩) (.nothing _))
  have hsecond := Serves.call (.deleteAccount "ann" "x") hfirst (.nothing _)
  exact Serves.call (.register "bob" "y") hsecond (.store (.inr ⟨rfl, rfl⟩) (.nothing _))

/-- The accounts are the same when the server is started again. -/
theorem persists_iff_accountCalls : Server.Persists bothPickle ⟨bobDb, some bobDump⟩ := by
  refine (persists_iff roundTrips_bothPickle serves_accountCalls).mpr ?_
  have hchanges : changes accountCalls (loadData bothPickle none) =
      [.stored, .unsaved] ++ [.stored] := by decide
  rw [hchanges, since_concat]
  simp

/-- `ann` sends herself a message, and the server is stopped.  The next one does not have it. -/
theorem sent_message_is_lost :
    annPickle.RoundTrips ∧ ∃ s, Serves annPickle (.start annPickle none)
        [.register "ann" "x", .sendMessage ⟨"ann", "ann", "hi"⟩] s ∧
      s.db.messages "ann" = [⟨"ann", "ann", "hi"⟩] ∧
      (loadData annPickle s.file).messages "ann" = [] ∧ ¬ s.Persists annPickle := by
  have hserves := Serves.call (.sendMessage ⟨"ann", "ann", "hi"⟩) serves_register (.nothing _)
  refine ⟨roundTrips_annPickle, _, hserves, rfl, rfl, ?_⟩
  rintro ⟨-, hmessages⟩
  exact absurd (hmessages "ann") (by decide)

end Chat262.Grpc
