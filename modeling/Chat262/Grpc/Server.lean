import Mathlib

/-!
# The gRPC chat service

The service methods of the single server in `server.py`, with its database.  A method is a function
of its request and the database to an `Outcome`: the reply, the database afterwards, and the
databases that it has handed to `storeData` on the way.

`ReceiveMessage` is a generator, so it is a `Stream`: `resume` runs it from where it stands to its
next `yield` or to its end, and other methods may act on the database before it is resumed again.
`receiveMessage` is what a client gets that consumes it with nobody in between.

A dictionary is an association list whose keys are distinct, the latest one first, and the
`defaultdict(list)` of the messages is the function that it stands for.
-/

namespace Chat262.Grpc

/-! ## The database -/

/-- `SendRequest`, which is also what is stored for a message. -/
structure SendRequest where
  sender : String
  receiver : String
  body : String
deriving DecidableEq, Repr

/-- `ChatMessage`: a message as it is received. -/
structure ChatMessage where
  sender : String
  body : String
deriving DecidableEq, Repr

/-- `RegisterResponse`, `LoginResponse`, `DeleteResponse` or `SendResponse`. -/
structure Response where
  success : Bool
  message : String
deriving DecidableEq, Repr

/-- `db`. -/
structure Db where
  /-- `db['passwords']`. -/
  passwords : AList fun _ : String => String
  /-- `db['messages']`. -/
  messages : String → List SendRequest

/-- The database of a server that has nothing to load. -/
def Db.empty : Db := ⟨∅, fun _ => []⟩

/-- What a method does. -/
structure Outcome (α : Type) where
  reply : α
  db : Db
  /-- The databases given to `storeData`, in order. -/
  stored : List Db

/-! ## `AuthService` -/

/-- The answer of `Register` when it registers. -/
def registered : Response := ⟨true, "\nRegistration successful."⟩

/-- The answer of `Register` to a name that is taken. -/
def alreadyTaken : Response := ⟨false, "\nThe username you requested is already taken."⟩

/-- The answer of `Login` to the right password. -/
def loggedIn : Response := ⟨true, "\nLogin successful."⟩

/-- The answer of `Login` to a name that is not registered. -/
def noSuchUser : Response :=
  ⟨false, "\nERROR: Username does not exist in the database. Please try again."⟩

/-- The answer of `Login` and of `DeleteAccount` to a wrong password. -/
def wrongPassword : Response := ⟨false, "\nERROR: Invalid password. Please try again."⟩

/-- The answer of `DeleteAccount` when it deletes. -/
def accountDeleted : Response := ⟨true, "\nAccount successfully deleted."⟩

/-- The answer of `DeleteAccount` to a name that is not registered. -/
def noSuchAccount : Response := ⟨false, "\nERROR: Username does not exist in the database."⟩

/-- `AuthService.Register`. -/
def register (u p : String) (db : Db) : Outcome Response :=
  if u ∉ db.passwords then
    let db' := { db with passwords := db.passwords.insert u p }
    ⟨registered, db', [db']⟩
  else ⟨alreadyTaken, db, []⟩

/-- `AuthService.Login`. -/
def login (u p : String) (db : Db) : Outcome Response :=
  if db.passwords.lookup u = some p then ⟨loggedIn, db, []⟩
  else if u ∉ db.passwords then ⟨noSuchUser, db, []⟩
  else ⟨wrongPassword, db, []⟩

/-- `AuthService.DeleteAccount`. -/
def deleteAccount (u p : String) (db : Db) : Outcome Response :=
  if db.passwords.lookup u = some p then
    ⟨accountDeleted, { db with passwords := db.passwords.erase u }, []⟩
  else if u ∉ db.passwords then ⟨noSuchAccount, db, []⟩
  else ⟨wrongPassword, db, []⟩

/-! ## `ChatService` -/

/-- The answer of `SendMessage` when it stores. -/
def messageAdded : Response := ⟨true, "Message successfully added."⟩

/-- The answer of `SendMessage` when one of the names is not registered. -/
def unknownUsers : Response :=
  ⟨false, "\nERROR: either sender or receiver are not in username database. Please try again!\n"⟩

/-- `ChatService.SendMessage`. -/
def sendMessage (request : SendRequest) (db : Db) : Outcome Response :=
  if request.sender ∈ db.passwords ∧ request.receiver ∈ db.passwords then
    let r := request.receiver
    ⟨messageAdded,
      { db with messages := Function.update db.messages r (db.messages r ++ [request]) }, []⟩
  else ⟨unknownUsers, db, []⟩

/-- `ChatService.GetUsers`: the names in the order in which they have been registered. -/
def getUsers (db : Db) : Outcome (List String) := ⟨db.passwords.keys.reverse, db, []⟩

/-- Where a call of `ReceiveMessage` stands. -/
inductive Stream where
  | created
  /-- At the `yield`, with as many rounds of the loop still to come. -/
  | atYield (left : ℕ)
  | ended
  /-- An `IndexError` has been raised. -/
  | raised
deriving DecidableEq, Repr

/-- What a stream does when it is resumed. -/
structure Resumed where
  stream : Stream
  /-- The message that it yields, if it does. -/
  yielded : Option ChatMessage
  db : Db
  /-- The databases given to `storeData`, in order. -/
  stored : List Db

/-- The head of the loop of `ReceiveMessage` for the user `r`, with `left` rounds to come: the first
message is read and yielded. -/
def loopHead (r : String) (left : ℕ) (db : Db) : Stream × Option ChatMessage :=
  match left with
  | 0 => (.ended, none)
  | left + 1 =>
    match db.messages r with
    | [] => (.raised, none)
    | m :: _ => (.atYield left, some ⟨m.sender, m.body⟩)

/-- `ChatService.ReceiveMessage` of the user `r`, from where it stands to its next `yield` or its
end.  The number of rounds is fixed when the generator is started; the message that has been yielded
is removed when it is resumed. -/
def resume (r : String) (stream : Stream) (db : Db) : Resumed :=
  match stream with
  | .created =>
    let (stream', yielded) := loopHead r (db.messages r).length db
    ⟨stream', yielded, db, []⟩
  | .atYield left =>
    match db.messages r with
    | [] => ⟨.raised, none, db, []⟩
    | _ :: rest =>
      let db' := { db with messages := Function.update db.messages r rest }
      let (stream', yielded) := loopHead r left db'
      ⟨stream', yielded, db', [db']⟩
  | .ended => ⟨.ended, none, db, []⟩
  | .raised => ⟨.raised, none, db, []⟩

/-- Resume a stream at most `n` times, until it yields nothing any more. -/
def consume (r : String) : ℕ → Stream → Db → Outcome (List ChatMessage)
  | 0, _, db => ⟨[], db, []⟩
  | n + 1, stream, db =>
    let step := resume r stream db
    match step.yielded with
    | none => ⟨[], step.db, step.stored⟩
    | some m =>
      let rest := consume r n step.stream step.db
      ⟨m :: rest.reply, rest.db, step.stored ++ rest.stored⟩

/-- `ChatService.ReceiveMessage`, consumed to its end.  It yields as many messages as there are, and
is resumed once more. -/
def receiveMessage (r : String) (db : Db) : Outcome (List ChatMessage) :=
  consume r ((db.messages r).length + 1) .created db

/-! ## Calls -/

/-- The methods, with their requests. -/
inductive Call where
  | register (username password : String)
  | login (username password : String)
  | deleteAccount (username password : String)
  | sendMessage (request : SendRequest)
  | getUsers
  | receiveMessage (username : String)
deriving DecidableEq, Repr

/-- What a client gets for an answer. -/
inductive Reply where
  | response (response : Response)
  | users (usernames : List String)
  | messages (messages : List ChatMessage)
deriving DecidableEq, Repr

/-- The same outcome with another reply. -/
def Outcome.map {α β : Type} (f : α → β) (o : Outcome α) : Outcome β := ⟨f o.reply, o.db, o.stored⟩

/-- What a completed call does. -/
def Call.perform : Call → Db → Outcome Reply
  | .register u p, db => (Grpc.register u p db).map .response
  | .login u p, db => (Grpc.login u p db).map .response
  | .deleteAccount u p, db => (Grpc.deleteAccount u p db).map .response
  | .sendMessage request, db => (Grpc.sendMessage request db).map .response
  | .getUsers, db => (Grpc.getUsers db).map .users
  | .receiveMessage r, db => (Grpc.receiveMessage r db).map .messages

/-! ## A stream that is consumed at once -/

/-- A stream at the `yield` in front of all the messages but the first one yields these, and has
stored the database without the messages when it ends. -/
lemma consume_atYield {r : String} {ms : List SendRequest} {m : SendRequest} {db : Db}
    (hbox : db.messages r = m :: ms) :
    (consume r (ms.length + 1) (.atYield ms.length) db).reply =
        ms.map (fun m => ⟨m.sender, m.body⟩) ∧
      (consume r (ms.length + 1) (.atYield ms.length) db).db =
        { db with messages := Function.update db.messages r [] } ∧
      (consume r (ms.length + 1) (.atYield ms.length) db).stored.getLast? =
        some { db with messages := Function.update db.messages r [] } := by
  induction ms generalizing m db with
  | nil => simp [consume, resume, loopHead, hbox]
  | cons m' ms ih =>
    have hnext := @ih m' { db with messages := Function.update db.messages r (m' :: ms) } (by simp)
    simp only [Function.update_idem] at hnext
    obtain ⟨hreply, hdb, hstored⟩ := hnext
    rw [consume]
    simp only [resume, hbox, loopHead, List.length_cons, Function.update_self]
    refine ⟨by rw [hreply, List.map_cons], hdb, ?_⟩
    rw [List.getLast?_append, hstored]
    rfl

/-- A stream that is consumed at once yields all the messages of the user and leaves none.  It has
stored this database in the end, unless there were no messages. -/
theorem receiveMessage_eq (r : String) (db : Db) :
    (receiveMessage r db).reply = (db.messages r).map (fun m => ⟨m.sender, m.body⟩) ∧
      (receiveMessage r db).db = { db with messages := Function.update db.messages r [] } ∧
      (receiveMessage r db).stored.getLast? =
        if db.messages r = [] then none else some (receiveMessage r db).db := by
  unfold receiveMessage
  cases hbox : db.messages r with
  | nil =>
    have hsame : Function.update db.messages r [] = db.messages := by
      rw [← hbox, Function.update_eq_self]
    simp [consume, resume, loopHead, hbox, hsame]
  | cons m ms =>
    obtain ⟨hreply, hdb, hstored⟩ := consume_atYield hbox
    rw [List.length_cons, consume]
    simp only [resume, hbox, loopHead, List.length_cons]
    refine ⟨by rw [hreply, List.map_cons], hdb, ?_⟩
    rw [List.nil_append, hstored, hdb]
    simp

end Chat262.Grpc
