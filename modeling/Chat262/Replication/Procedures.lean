import Chat262.Replication.Server

/-!
# The remote procedures of the replicated service

`Login`, `GetUsers` and `ReceiveMessage` answer from the database of the server that they come to,
and change nothing.  With the writes of `Replication.Server` they make up what a client can ask for.

The names that `GetUsers` lists come in the order of the keys of the map; the order in which they
have been registered is not part of the model of a dictionary.
-/

namespace Chat262.Replication

/-! ## Procedures that read -/

/-- The remote procedures that only read, with their arguments. -/
inductive Read where
  | login (username password : String)
  | getUsers
  | receiveMessage (username : String)
deriving DecidableEq, Repr

/-- What a client gets for an answer. -/
inductive Answer where
  /-- `RegisterResponse`, `DeleteResponse`, `SendResponse` or `LoginResponse`. -/
  | response (response : Response)
  /-- `AllUsers`. -/
  | users (users : List String)
  /-- `AllChats`. -/
  | chats (chats : List String)
deriving DecidableEq, Repr

/-- The answer of `Login` to the right password. -/
def loggedIn : Response := ⟨true, "\nLogin successful."⟩

/-- The answer of `Login` to a name that is not registered. -/
def noSuchUser : Response :=
  ⟨false, "\nERROR: Username does not exist in the database. Please try again."⟩

/-- `AuthService.Login`. -/
def login (u p : String) (db : Db) : Response :=
  if db.passwords[u]? = some p then loggedIn
  else if u ∉ db.passwords then noSuchUser
  else wrongPassword

/-- `ChatService.GetUsers`. -/
def getUsers (db : Db) : List String := db.passwords.keys

/-- The line that is listed for a message. -/
def Message.chat (m : Message) : String := "From " ++ m.sender ++ ": " ++ m.body

/-- `ChatService.ReceiveMessage`. -/
def receiveMessage (r : String) (db : Db) : List String := (db.messages r).map Message.chat

/-- The answer to a procedure that reads. -/
def Read.perform : Read → Db → Answer
  | .login u p, db => .response (Replication.login u p db)
  | .getUsers, db => .users (Replication.getUsers db)
  | .receiveMessage r, db => .chats (Replication.receiveMessage r db)

/-! ## All procedures -/

/-- What a client asks for. -/
inductive Procedure where
  | write (op : Write)
  | read (op : Read)
deriving DecidableEq, Repr

end Chat262.Replication
