import Chat262.Foundation.PartialRun
import Chat262.Server.Wildcard

/-!
# The server's database

The in-memory database behind the wire-protocol server, translated operation by operation.  Every
operation holds the one mutex from its first line to its last, so an execution by any number of
connection threads is a sequence of whole operations, each by some thread: an `Event` is an
operation with the id of its thread, `exec` performs one, and `Foundation.run exec` a sequence.

An operation that does not return is an `Abort`: a `std::map::at` that throws (nothing above the
connection thread catches it), or an erase from the map that a range-for loop is walking.

The `std::map` and the `std::unordered_map`s are extensional finite maps.  Walking one visits its
keys in ascending order, which for a `std::unordered_map` is one of the orders the implementation
may choose.
-/

namespace Chat262

open Std (ExtTreeMap ExtTreeSet)

/-- A finite map keyed by byte strings. -/
abbrev ByteMap (V : Type) := ExtTreeMap ByteString V compare

/-- A `std::thread::id`. -/
abbrev ThreadId := ℕ

/-- `status`: the outcome of an operation. -/
inductive Status where
  | ok
  | error
  | sendError
  | receiveError
  | closedConnection
  | headerError
  | bodyError
deriving DecidableEq, Repr

/-- `text`: one message of a chat. -/
structure Text where
  /-- Who sent it, seen from the owner of the chat. -/
  sender : UInt8
  /-- The message. -/
  content : ByteString
deriving DecidableEq, Repr

/-- `text::sender_you`. -/
def Text.senderYou : UInt8 := 0

/-- `text::sender_other`. -/
def Text.senderOther : UInt8 := 1

/-- `chat`: the messages exchanged with one correspondent, oldest first. -/
structure Chat where
  texts : List Text
deriving DecidableEq, Repr

/-- `database::user`. -/
structure User where
  /-- The name, stored a second time beside the key. -/
  username : ByteString
  /-- The password, in the clear. -/
  password : ByteString
  /-- The user's copy of the chat with each correspondent. -/
  chats : ByteMap Chat

/-- The map from usernames to users. -/
abbrev Users := ByteMap User

/-- `database`, without the mutex. -/
structure Database where
  /-- `users_`: the registered users. -/
  users : Users
  /-- `historical_users_`: every username ever registered. -/
  historicalUsers : ExtTreeSet ByteString compare
  /-- `threads_`: the user each logged-in thread is in charge of. -/
  threads : ExtTreeMap ThreadId ByteString compare

/-- The database of a freshly started server. -/
def Database.empty : Database := ⟨∅, ∅, ∅⟩

/-- Why an operation does not return. -/
inductive Abort where
  /-- `users_.at((*thread_it).second)` throws `std::out_of_range`. -/
  | sessionOutOfRange
  /-- `users_.at(correspondent_username)` throws `std::out_of_range`. -/
  | correspondentOutOfRange
  /-- An element of the map under the range-for loop is erased. -/
  | iteratorInvalidated
deriving DecidableEq, Repr

namespace Database

/-! ## Registration and sessions -/

/-- `database::login`, run by the thread `tid`. -/
def login (tid : ThreadId) (username password : ByteString) (db : Database) : Status × Database :=
  if tid ∈ db.threads then (.error, db)
  else
    match db.users[username]? with
    | none => (.error, db)
    | some u =>
      if password ≠ u.password then (.error, db)
      else (.ok, { db with threads := db.threads.insertIfNew tid username })

/-- `database::registration`. -/
def registration (username password : ByteString) (db : Database) : Status × Database :=
  if username ∈ db.users ∨ username ∈ db.historicalUsers then (.error, db)
  else
    (.ok, { db with
      users := db.users.insertIfNew username ⟨username, password, ∅⟩
      historicalUsers := db.historicalUsers.insert username })

/-- `database::logout`, run by the thread `tid`. -/
def logout (tid : ThreadId) (db : Database) : Status × Database :=
  if tid ∈ db.threads then (.ok, { db with threads := db.threads.erase tid })
  else (.error, db)

/-- `database::is_logged_in`, run by the thread `tid`. -/
def isLoggedIn (tid : ThreadId) (db : Database) : Bool := tid ∈ db.threads

/-- `database::get_usernames`: the users are walked in the order of the `std::map`. -/
def getUsernames (pattern : ByteString) (db : Database) : List ByteString :=
  db.users.keys.filter (wildcardMatch pattern)

/-- `users_.at((*thread_it).second)`: the user whom a logged-in thread is in charge of. -/
def sessionUser (name : ByteString) (db : Database) : Except Abort User :=
  match db.users[name]? with
  | some u => .ok u
  | none => .error .sessionOutOfRange

/-! ## Texts -/

/-- `chats_.insert({name, {}})` for a name with no chat yet. -/
def openChat (name : ByteString) (u : User) : User :=
  { u with chats := u.chats.insertIfNew name ⟨[]⟩ }

/-- `chats_.at(name).texts_.push_back(txt)`, for a chat that is there. -/
def pushText (name : ByteString) (txt : Text) (u : User) : User :=
  { u with chats := u.chats.modify name fun c => ⟨c.texts ++ [txt]⟩ }

/-- `database::send_txt`, run by the thread `tid`.  The references `sender` and `recipient` may
name the same user, so the four updates are made one after the other, in the source's order, on
the map they point into. -/
def sendTxt (tid : ThreadId) (recipientUsername txt : ByteString) (db : Database) :
    Except Abort (Status × Database) :=
  match db.threads[tid]? with
  | none => .ok (.error, db)
  | some name => do
    let sender ← db.sessionUser name
    if recipientUsername ∈ db.users then
      let users := db.users
        |>.modify name (openChat recipientUsername)
        |>.modify recipientUsername (openChat sender.username)
        |>.modify name (pushText recipientUsername ⟨Text.senderYou, txt⟩)
        |>.modify recipientUsername (pushText sender.username ⟨Text.senderOther, txt⟩)
      return (.ok, { db with users := users })
    else return (.error, db)

/-- `database::recv_txt`, run by the thread `tid`; `c` is the out parameter, returned with the
value it is left with. -/
def recvTxt (tid : ThreadId) (senderUsername : ByteString) (c : Chat) (db : Database) :
    Except Abort (Status × Chat) :=
  match db.threads[tid]? with
  | none => .ok (.error, c)
  | some name => do
    let recipient ← db.sessionUser name
    if senderUsername ∈ db.users then
      match recipient.chats[senderUsername]? with
      | none => return (.ok, { c with texts := [] })
      | some c' => return (.ok, c')
    else return (.error, c)

/-- `database::get_correspondents`, run by the thread `tid`; `usernames` is the out parameter. -/
def getCorrespondents (tid : ThreadId) (usernames : List ByteString) (db : Database) :
    Except Abort (Status × List ByteString) :=
  match db.threads[tid]? with
  | none => .ok (.error, usernames)
  | some name => do
    let thisUser ← db.sessionUser name
    return (.ok, thisUser.chats.keys)

/-! ## Deletion -/

/-- `chats_.erase(name)`. -/
def eraseChat (name : ByteString) (u : User) : User :=
  { u with chats := u.chats.erase name }

/-- One round of the loop of `database::delete_user`: `correspondent.chats_.erase(username)`.  When
the correspondent is the deleted user, the erased element is the one the loop stands on. -/
def dropChat (username : ByteString) (users : Users) (correspondentUsername : ByteString) :
    Except Abort Users :=
  if correspondentUsername ∈ users then
    if correspondentUsername = username then .error .iteratorInvalidated
    else .ok (users.modify correspondentUsername (eraseChat username))
  else .error .correspondentOutOfRange

/-- `database::delete_user`, run by the thread `tid`. -/
def deleteUser (tid : ThreadId) (db : Database) : Except Abort (Status × Database) :=
  match db.threads[tid]? with
  | none => .ok (.error, db)
  | some username => do
    let u ← db.sessionUser username
    let users ← u.chats.keys.foldlM (dropChat username) db.users
    return (.ok, { db with users := users.erase username, threads := db.threads.erase tid })

end Database

/-! ## Events -/

/-- The operations of the database, with their arguments and the initial values of their out
parameters. -/
inductive Operation where
  | registration (username password : ByteString)
  | login (username password : ByteString)
  | logout
  | isLoggedIn
  | getUsernames (pattern : ByteString)
  | sendTxt (recipientUsername txt : ByteString)
  | recvTxt (senderUsername : ByteString) (c : Chat)
  | getCorrespondents (usernames : List ByteString)
  | deleteUser
deriving DecidableEq, Repr

/-- An operation and the thread that performs it. -/
structure Event where
  tid : ThreadId
  op : Operation
deriving DecidableEq, Repr

/-- What an operation returns, out parameters included. -/
inductive Reply where
  | status (s : Status)
  | loggedIn (b : Bool)
  | usernames (l : List ByteString)
  | chat (s : Status) (c : Chat)
  | correspondents (s : Status) (l : List ByteString)
deriving DecidableEq, Repr

/-- Perform one operation. -/
def exec (e : Event) (db : Database) : Except Abort (Reply × Database) :=
  match e.op with
  | .registration u p => .ok ((db.registration u p).map .status id)
  | .login u p => .ok ((db.login e.tid u p).map .status id)
  | .logout => .ok ((db.logout e.tid).map .status id)
  | .isLoggedIn => .ok (.loggedIn (db.isLoggedIn e.tid), db)
  | .getUsernames pattern => .ok (.usernames (db.getUsernames pattern), db)
  | .sendTxt r txt => (db.sendTxt e.tid r txt).map (Prod.map .status id)
  | .recvTxt s c => (db.recvTxt e.tid s c).map fun p => (.chat p.1 p.2, db)
  | .getCorrespondents l =>
    (db.getCorrespondents e.tid l).map fun p => (.correspondents p.1 p.2, db)
  | .deleteUser => (db.deleteUser e.tid).map (Prod.map .status id)

end Chat262
