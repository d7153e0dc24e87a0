import Mathlib.Logic.Relation
import Chat262.Replication.Procedures

/-!
# The database file

A server that changes its database writes it to a file before it answers: `storeData` truncates the
file and dumps the database into it.  When the server is started again, `loadData` reads the file,
and takes any file that it cannot read for one that is not there.

What `pickle` does is a parameter: which bytes are a complete dump of a database, and what loading
bytes gives.  `Pickle.Lawful` is what the server relies on: a complete dump loads as the database,
and the beginning of one does not load.

A server handles one request at a time here, and may stop between any two steps, also when it has
written only a part of the dump.  What comes back is then the database as it was before the last
change or after it, or nothing at all (`recovers_iff`).  A request that changes nothing does not
touch the file, be it that it fails or that it has been seen before.
-/

namespace Chat262.Replication

/-! ## Dumping and loading -/

/-- `pickle`, as far as databases go. -/
structure Pickle where
  /-- The bytes are what `pickle.dump` writes for the database. -/
  Dumps : Db → List UInt8 → Prop
  /-- `pickle.load`: the database, or an exception. -/
  load : List UInt8 → Option Db

/-- What is known of `pickle`. -/
structure Pickle.Lawful (p : Pickle) : Prop where
  /-- A complete dump is restored. -/
  restores : ∀ {db bytes}, p.Dumps db bytes → p.load bytes = some db
  /-- A dump of which the end is missing raises. -/
  raises : ∀ {db bytes start}, p.Dumps db bytes → start <+: bytes → start ≠ bytes →
    p.load start = none

/-- The database of a server that has nothing to load. -/
def Db.empty : Db := ⟨∅, fun _ => []⟩

/-- `loadData`: what a server starts with that finds the file, or finds none. -/
def loadData (p : Pickle) (file : Option (List UInt8)) : Db :=
  match file with
  | some bytes => (p.load bytes).getD .empty
  | none => .empty

/-! ## A server and its file -/

/-- What the handler of a request is doing. -/
inductive Task where
  | idle
  /-- It has changed the database for the write, and comes to `storeData`. -/
  | storing (op : Write)
  /-- The file has been opened, and the rest of the dump is to be written. -/
  | dumping (op : Write) (rest : List UInt8)
deriving DecidableEq, Repr

/-- A server with its file. -/
structure Store where
  /-- `g_params.db`. -/
  db : Db
  /-- The file `g_params.db_name`, if it exists. -/
  file : Option (List UInt8)
  task : Task
  /-- The database before it was changed last. -/
  previous : Db
  /-- The writes that have changed the database and have been answered, in order. -/
  acknowledged : List Write

/-- A server that starts with a file. -/
def Store.start (p : Pickle) (file : Option (List UInt8)) : Store :=
  ⟨loadData p file, file, .idle, loadData p file, []⟩

/-- What the handler of a write does before `storeData`.  A write that changes the database is one
that is answered with `success = True`, and the others do not come to `storeData`. -/
def Store.change (op : Write) (s : Store) : Store :=
  if (op.perform s.db).1.success then
    { s with db := op.apply s.db, previous := s.db, task := .storing op }
  else s

/-- One step of a server. -/
inductive Step (p : Pickle) : Store → Store → Prop where
  /-- The handler of a write changes the database. -/
  | change {s : Store} (op : Write) (htask : s.task = .idle) : Step p s (s.change op)
  /-- `open(g_params.db_name, 'wb')` -/
  | truncate {s : Store} {op : Write} {bytes : List UInt8} (htask : s.task = .storing op)
    (hdump : p.Dumps s.db bytes) : Step p s { s with file := some [], task := .dumping op bytes }
  /-- The next `n` bytes of the dump get to the file. -/
  | write {s : Store} {op : Write} {written rest : List UInt8} (n : ℕ)
    (htask : s.task = .dumping op rest) (hfile : s.file = some written) :
    Step p s { s with file := some (written ++ rest.take n), task := .dumping op (rest.drop n) }
  /-- The file is closed, and the client has its answer. -/
  | answer {s : Store} {op : Write} (htask : s.task = .dumping op []) :
    Step p s { s with task := .idle, acknowledged := s.acknowledged ++ [op] }

/-! ## What comes back -/

/-- Nobody can tell two databases apart by reading. -/
def Db.Alike (db db' : Db) : Prop := ∀ op : Read, op.perform db = op.perform db'

/-- A database after some writes. -/
def performAll (ops : List Write) (db : Db) : Db := ops.foldl (fun db op => op.apply db) db

/-- If the server stops now, the next one starts with the database as it was before the last change
or after it, and has lost no write that has been answered: its database is what all these writes
have made of `origin`, or these and the one that the handler is at. -/
def Store.Recovers (p : Pickle) (origin : Db) (s : Store) : Prop :=
  ((loadData p s.file).Alike s.previous ∨ (loadData p s.file).Alike s.db) ∧
  ((loadData p s.file).Alike (performAll s.acknowledged origin) ∨
    ∃ op, (s.task = .storing op ∨ ∃ rest, s.task = .dumping op rest) ∧
      (loadData p s.file).Alike (op.apply (performAll s.acknowledged origin)))

/-- The file has been truncated, and a part of the dump is still missing. -/
def Store.MidDump (s : Store) : Prop := ∃ op rest, s.task = .dumping op rest ∧ rest ≠ []

/-- What is true of a server and its file in every run that starts with the database `origin`. -/
def Store.Kept (p : Pickle) (origin : Db) (s : Store) : Prop :=
  match s.task with
  | .idle => s.db = performAll s.acknowledged origin ∧ loadData p s.file = s.db
  | .storing op => s.previous = performAll s.acknowledged origin ∧ s.db = op.apply s.previous ∧
      loadData p s.file = s.previous
  | .dumping op rest => s.previous = performAll s.acknowledged origin ∧
      s.db = op.apply s.previous ∧ ∃ written, s.file = some written ∧ p.Dumps s.db (written ++ rest)

section Recovery

variable {p : Pickle} {origin : Db} {s s' : Store} {file : Option (List UInt8)}

/-- A database is like itself. -/
lemma Db.Alike.refl (db : Db) : db.Alike db := fun _ => rfl

/-- A step keeps the server and its file together. -/
lemma Store.Kept.step (hp : p.Lawful) (h : s.Kept p origin) (hstep : Step p s s') :
    s'.Kept p origin := by
  unfold Store.Kept at h
  cases hstep with
  | change op htask =>
    rw [htask] at h
    unfold Store.change
    split_ifs
    · exact ⟨h.1, rfl, h.2⟩
    · unfold Store.Kept
      rw [htask]
      exact h
  | truncate htask hdump =>
    rw [htask] at h
    exact ⟨h.1, h.2.1, [], rfl, hdump⟩
  | write n htask hfile =>
    rw [htask] at h
    obtain ⟨hprevious, hdb, written, hwritten, hdump⟩ := h
    rw [hfile] at hwritten
    cases hwritten
    refine ⟨hprevious, hdb, _, rfl, ?_⟩
    rwa [List.append_assoc, List.take_append_drop]
  | answer htask =>
    rw [htask] at h
    obtain ⟨hprevious, hdb, written, hwritten, hdump⟩ := h
    refine ⟨?_, ?_⟩
    · change s.db = performAll (s.acknowledged ++ [_]) origin
      rw [performAll, List.foldl_append, hdb, hprevious]
      rfl
    · rw [List.append_nil] at hdump
      change loadData p s.file = s.db
      rw [hwritten, loadData, hp.restores hdump]
      rfl

/-- Every run keeps the server and its file together. -/
lemma kept_of_run (hp : p.Lawful)
    (hrun : Relation.ReflTransGen (Step p) (.start p file) s) : s.Kept p (loadData p file) := by
  induction hrun with
  | refl => exact ⟨rfl, rfl⟩
  | tail _ hstep ih => exact ih.step hp hstep

/-- A server that handles no request has its database in its file. -/
lemma loadData_of_idle (hp : p.Lawful)
    (hrun : Relation.ReflTransGen (Step p) (.start p file) s) (htask : s.task = .idle) :
    loadData p s.file = s.db := by
  have hkept := kept_of_run hp hrun
  unfold Store.Kept at hkept
  rw [htask] at hkept
  exact hkept.2

/-- In the middle of a dump nothing comes back. -/
lemma loadData_of_midDump (hp : p.Lawful) (h : s.Kept p origin) (hmid : s.MidDump) :
    loadData p s.file = .empty := by
  obtain ⟨op, rest, htask, hrest⟩ := hmid
  unfold Store.Kept at h
  rw [htask] at h
  obtain ⟨-, -, written, hwritten, hdump⟩ := h
  have hne : written ≠ written ++ rest := fun heq => hrest (by simpa using heq)
  rw [hwritten, loadData, hp.raises hdump (List.prefix_append _ _) hne]
  rfl

/-- Whenever the server stops: it recovers if and only if it is not in the middle of a dump, or the
database before the last change or after it cannot be told from an empty one. -/
theorem recovers_iff (hp : p.Lawful)
    (hrun : Relation.ReflTransGen (Step p) (.start p file) s) :
    s.Recovers p (loadData p file) ↔
      (s.MidDump → Db.empty.Alike s.previous ∨ Db.empty.Alike s.db) := by
  have hkept := kept_of_run hp hrun
  constructor
  · intro hrecovers hmid
    rw [← loadData_of_midDump hp hkept hmid]
    exact hrecovers.1
  · intro hempty
    by_cases hmid : s.MidDump
    · obtain ⟨op, rest, htask, -⟩ := id hmid
      have hload := loadData_of_midDump hp hkept hmid
      unfold Store.Kept at hkept
      rw [htask] at hkept
      obtain ⟨hprevious, hdb, -⟩ := hkept
      unfold Store.Recovers
      rw [hload, ← hprevious]
      refine ⟨hempty hmid, (hempty hmid).imp id fun hnew => ⟨op, .inr ⟨rest, htask⟩, ?_⟩⟩
      rwa [← hdb]
    · unfold Store.Kept at hkept
      cases htask : s.task with
      | idle =>
        rw [htask] at hkept
        obtain ⟨hdb, hload⟩ := hkept
        refine ⟨.inr ?_, .inl ?_⟩
        · rw [hload]
          exact Db.Alike.refl _
        · rw [hload, hdb]
          exact Db.Alike.refl _
      | storing op =>
        rw [htask] at hkept
        obtain ⟨hprevious, -, hload⟩ := hkept
        refine ⟨.inl ?_, .inl ?_⟩
        · rw [hload]
          exact Db.Alike.refl _
        · rw [hload, hprevious]
          exact Db.Alike.refl _
      | dumping op rest =>
        rw [htask] at hkept
        obtain ⟨hprevious, hdb, written, hwritten, hdump⟩ := hkept
        -- The dump is complete.
        obtain rfl : rest = [] := by
          by_contra hrest
          exact hmid ⟨op, rest, htask, hrest⟩
        have hload : loadData p s.file = s.db := by
          rw [List.append_nil] at hdump
          rw [hwritten, loadData, hp.restores hdump]
          rfl
        refine ⟨.inr ?_, .inr ⟨op, .inr ⟨[], htask⟩, ?_⟩⟩
        · rw [hload]
          exact Db.Alike.refl _
        · rw [hload, hdb, hprevious]
          exact Db.Alike.refl _

/-- The whole dump may get to the file at once. -/
lemma Step.whole {op : Write} {rest : List UInt8} (htask : s.task = .dumping op rest)
    (hfile : s.file = some []) :
    Step p s { s with file := some rest, task := .dumping op [] } := by
  have hstep := Step.write (p := p) rest.length htask hfile
  rwa [List.take_length, List.drop_length, List.nil_append] at hstep

end Recovery

/-! ## A dump that is cut off -/

/-- The database after `ann` has registered. -/
def annDb : Db := (Write.register "ann" "x").apply .empty

/-- The database after `bob` has registered as well. -/
def annBobDb : Db := (Write.register "bob" "y").apply annDb

/-- What `pickle.dump` writes for the database with `ann`, in protocol 4. -/
def annDump : List UInt8 :=
  [128, 4, 149, 95, 0, 0, 0, 0, 0, 0, 0, 125, 148, 40, 140, 9, 112, 97, 115, 115, 119, 111, 114,
    100, 115, 148, 125, 148, 140, 3, 97, 110, 110, 148, 140, 1, 120, 148, 115, 140, 8, 109, 101,
    115, 115, 97, 103, 101, 115, 148, 140, 11, 99, 111, 108, 108, 101, 99, 116, 105, 111, 110, 115,
    148, 140, 11, 100, 101, 102, 97, 117, 108, 116, 100, 105, 99, 116, 148, 147, 148, 140, 8, 98,
    117, 105, 108, 116, 105, 110, 115, 148, 140, 4, 108, 105, 115, 116, 148, 147, 148, 133, 148, 82,
    148, 117, 46]

/-- What `pickle.dump` writes for the database with `ann` and `bob`, in protocol 4. -/
def annBobDump : List UInt8 :=
  [128, 4, 149, 106, 0, 0, 0, 0, 0, 0, 0, 125, 148, 40, 140, 9, 112, 97, 115, 115, 119, 111, 114,
    100, 115, 148, 125, 148, 40, 140, 3, 97, 110, 110, 148, 140, 1, 120, 148, 140, 3, 98, 111, 98,
    148, 140, 1, 121, 148, 117, 140, 8, 109, 101, 115, 115, 97, 103, 101, 115, 148, 140, 11, 99,
    111, 108, 108, 101, 99, 116, 105, 111, 110, 115, 148, 140, 11, 100, 101, 102, 97, 117, 108, 116,
    100, 105, 99, 116, 148, 147, 148, 140, 8, 98, 117, 105, 108, 116, 105, 110, 115, 148, 140, 4,
    108, 105, 115, 116, 148, 147, 148, 133, 148, 82, 148, 117, 46]

/-- Loading one of the two dumps. -/
def loadTwo (bytes : List UInt8) : Option Db :=
  if bytes = annDump then some annDb else if bytes = annBobDump then some annBobDb else none

/-- `pickle` on these two databases. -/
def twoDumps : Pickle where
  Dumps db bytes := db = annDb ∧ bytes = annDump ∨ db = annBobDb ∧ bytes = annBobDump
  load := loadTwo

/-- The dumps are restored, and beginnings of them raise. -/
lemma lawful_twoDumps : twoDumps.Lawful where
  restores := by
    rintro db bytes (⟨rfl, rfl⟩ | ⟨rfl, rfl⟩)
    · change loadTwo annDump = some annDb
      rw [loadTwo, if_pos rfl]
    · have hne : annBobDump ≠ annDump := by decide
      change loadTwo annBobDump = some annBobDb
      rw [loadTwo, if_neg hne, if_pos rfl]
  raises := by
    rintro db bytes start (⟨rfl, rfl⟩ | ⟨rfl, rfl⟩) hprefix hne
    · have hother : start ≠ annBobDump := by
        rintro rfl
        exact absurd hprefix (by decide)
      exact (if_neg hne).trans (if_neg hother)
    · have hother : start ≠ annDump := by
        rintro rfl
        exact absurd hprefix (by decide)
      exact (if_neg hother).trans (if_neg hne)

/-- The server when it has answered `ann`, with the dump in its file. -/
def annStored : Store :=
  ⟨annDb, some annDump, .idle, .empty, [.register "ann" "x"]⟩

/-- A server that finds no file gets there. -/
lemma run_annStored : Relation.ReflTransGen (Step twoDumps) (.start twoDumps none) annStored := by
  have hchange : Step twoDumps (.start twoDumps none)
      ⟨annDb, none, .storing (.register "ann" "x"), .empty, []⟩ :=
    Step.change (.register "ann" "x") rfl
  have htruncate : Step twoDumps ⟨annDb, none, .storing (.register "ann" "x"), .empty, []⟩
      ⟨annDb, some [], .dumping (.register "ann" "x") annDump, .empty, []⟩ :=
    Step.truncate rfl (.inl ⟨rfl, rfl⟩)
  have hwrite : Step twoDumps ⟨annDb, some [], .dumping (.register "ann" "x") annDump, .empty, []⟩
      ⟨annDb, some annDump, .dumping (.register "ann" "x") [], .empty, []⟩ :=
    Step.whole rfl rfl
  exact .tail (.tail (.tail (.single hchange) htruncate) hwrite) (Step.answer rfl)

/-- A server that stops when it has answered recovers. -/
theorem recovers_iff_annStored : annStored.Recovers twoDumps (loadData twoDumps none) := by
  refine (recovers_iff lawful_twoDumps run_annStored).mpr ?_
  rintro ⟨op, rest, htask, -⟩
  cases htask

/-- A server that has answered `ann` stops when it has truncated the file for `bob`.  The next one
starts with nobody registered, and `ann` cannot log in. -/
theorem torn_dump_loses_all : ∃ s, Relation.ReflTransGen (Step twoDumps) (.start twoDumps none) s ∧
    s.acknowledged = [.register "ann" "x"] ∧ loadData twoDumps s.file = .empty ∧
    ¬ s.Recovers twoDumps (loadData twoDumps none) := by
  have hchange : Step twoDumps annStored ⟨annBobDb, some annDump, .storing (.register "bob" "y"),
      annDb, [.register "ann" "x"]⟩ := Step.change (.register "bob" "y") rfl
  have htruncate := Step.truncate (p := twoDumps) (s := ⟨annBobDb, some annDump,
    .storing (.register "bob" "y"), annDb, [.register "ann" "x"]⟩) rfl (.inr ⟨rfl, rfl⟩)
  refine ⟨_, .tail (.tail run_annStored hchange) htruncate, rfl, rfl, ?_⟩
  rintro ⟨hbefore | hafter, -⟩
  · exact absurd (hbefore (.login "ann" "x")) (by decide)
  · exact absurd (hafter (.login "ann" "x")) (by decide)

end Chat262.Replication
