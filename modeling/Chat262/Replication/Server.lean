import Chat262.Foundation.Interruptible

/-!
# The replicated chat service

The servers of `server.py` with their write requests, and `send_request` of the client.  Three
servers with the ids 0, 1 and 2 keep a database each; a client writes to the one it takes for the
leader, and the leader sends the request on to the servers with greater ids before it performs it.

Servers fail by stopping.  Code that runs on a server passes a `crashPoint` before and after each
remote call, before it touches its database and before it replies; between two such points nobody
else can tell how far it has got.  At a crash point any servers may stop, those that run no code
included, as the `fate` of the run tells; when the one that runs the code is among them, the code is
cut off there, and whoever has called it gets an exception.  A remote call to a server that is down
is an exception at once, and one to a live server is executed to its end before anything else
happens.

Counters are natural numbers.  The order of the keys of a dictionary plays no role for writes, and a
`defaultdict(list)` is the function that it stands for.  The file that `storeData` writes is read
only by a server that is started again, which a stopped server never is.
-/

namespace Chat262.Replication

open Foundation
open Std (ExtTreeMap)

/-! ## The database -/

/-- A stored message: what is read of the `SendRequest` that is appended. -/
structure Message where
  sender : String
  receiver : String
  body : String
deriving DecidableEq, Repr

/-- `g_params.db`. -/
structure Db where
  /-- `db['passwords']`. -/
  passwords : ExtTreeMap String String compare
  /-- `db['messages']`. -/
  messages : String → List Message

/-- `RegisterResponse`, `DeleteResponse` or `SendResponse`. -/
structure Response where
  success : Bool
  message : String
deriving DecidableEq, Repr

/-- The answer of `Register` when it registers, and to a request that has been seen before. -/
def registered : Response := ⟨true, "\nRegistration successful."⟩

/-- The answer of `Register` to a name that is taken. -/
def alreadyTaken : Response := ⟨false, "\nThe username you requested is already taken."⟩

/-- The answer of `DeleteAccount` when it deletes, and to a request that has been seen before. -/
def accountDeleted : Response := ⟨true, "\nAccount successfully deleted."⟩

/-- The answer of `DeleteAccount` to a name that is not registered. -/
def noSuchAccount : Response := ⟨false, "\nERROR: Username does not exist in the database."⟩

/-- The answer of `DeleteAccount` to a wrong password. -/
def wrongPassword : Response := ⟨false, "\nERROR: Invalid password. Please try again."⟩

/-- The answer of `SendMessage` when it stores, and to a request that has been seen before. -/
def messageAdded : Response := ⟨true, "Message successfully added."⟩

/-- The answer of `SendMessage` when one of the names is not registered. -/
def unknownUsers : Response :=
  ⟨false, "\nERROR: either sender or receiver are not in username database. Please try again!\n"⟩

/-- The part of `AuthService.Register` behind the test for duplicates. -/
def register (u p : String) (db : Db) : Response × Db :=
  if u ∉ db.passwords then (registered, { db with passwords := db.passwords.insert u p })
  else (alreadyTaken, db)

/-- The part of `AuthService.DeleteAccount` behind the test for duplicates. -/
def deleteAccount (u p : String) (db : Db) : Response × Db :=
  if db.passwords[u]? = some p then
    (accountDeleted, { db with passwords := db.passwords.erase u })
  else if u ∉ db.passwords then (noSuchAccount, db)
  else (wrongPassword, db)

/-- The part of `ChatService.SendMessage` behind the test for duplicates. -/
def sendMessage (s r b : String) (db : Db) : Response × Db :=
  if s ∈ db.passwords ∧ r ∈ db.passwords then
    (messageAdded,
      { db with messages := Function.update db.messages r (db.messages r ++ [⟨s, r, b⟩]) })
  else (unknownUsers, db)

/-! ## Requests -/

/-- The remote procedures that write, with their arguments. -/
inductive Write where
  | register (username password : String)
  | deleteAccount (username password : String)
  | sendMessage (sender receiver body : String)
deriving DecidableEq, Repr

/-- Perform a write on a database. -/
def Write.perform : Write → Db → Response × Db
  | .register u p => Replication.register u p
  | .deleteAccount u p => Replication.deleteAccount u p
  | .sendMessage s r b => Replication.sendMessage s r b

/-- The database after a write. -/
def Write.apply (op : Write) (db : Db) : Db := (op.perform db).2

/-- The answer to a request that has been seen before. -/
def Write.seen : Write → Response
  | .register _ _ => registered
  | .deleteAccount _ _ => accountDeleted
  | .sendMessage _ _ _ => messageAdded

/-- `RegisterRequest`, `DeleteRequest` or `SendRequest`. -/
structure Request where
  write : Write
  /-- `is_client`. -/
  isClient : Bool
  /-- `counter`, a `uint64` in `chat.proto`. -/
  counter : ℕ
deriving DecidableEq, Repr

/-- A request as a client makes it. -/
def Request.ofClient (op : Write) : Request := ⟨op, true, 0⟩

/-- The two lists of stubs that a server has. -/
inductive Service where
  | auth
  | chat
deriving DecidableEq, Repr

/-- The list of stubs that a procedure is replicated with. -/
def Write.service : Write → Service
  | .register _ _ | .deleteAccount _ _ => .auth
  | .sendMessage _ _ _ => .chat

/-! ## Servers -/

/-- `my_id`. -/
abbrev ServerId := Fin 3

/-- There are servers, so their ids can be written as numerals. -/
instance neZeroServers : NeZero 3 := ⟨by decide⟩

/-- `server_params`: the changing part of it. -/
structure Params where
  /-- `am_i_leader`. -/
  amILeader : Bool
  /-- `auth_stubs` and `chat_stubs`: whether the stub for a server with a greater id is still in the
  list, and not replaced by `None`. -/
  stubs : Service → ServerId → Bool
  /-- `db`. -/
  db : Db
  /-- `counter`. -/
  counter : ℕ
  /-- `last_request`: the stubs and the name of the procedure go with the request. -/
  lastRequest : Option Request

/-- A freshly started server. -/
def Params.fresh (me : ServerId) (db : Db) : Params where
  amILeader := me = 0
  stubs := fun _ _ => true
  db := db
  counter := 0
  lastRequest := none

/-- All servers. -/
structure World where
  server : ServerId → Params
  crashed : ServerId → Bool
  /-- The number of crash points passed so far. -/
  clock : ℕ

/-- Three freshly started servers. -/
def World.fresh (db : Db) : World := ⟨fun me => .fresh me db, fun _ => false, 0⟩

/-- Change what one server keeps in memory. -/
def World.set (w : World) (me : ServerId) (f : Params → Params) : World :=
  { w with server := Function.update w.server me (f (w.server me)) }

section Fate

variable (fate : ℕ → ServerId → Bool)

/-- A moment passes, and the servers whose time has come stop. -/
def World.tick (w : World) : World :=
  { w with clock := w.clock + 1, crashed := fun s => w.crashed s || fate w.clock s }

/-- A crash point in code that runs on the server `me`. -/
def crashPoint (me : ServerId) : Comp World Unit :=
  .proceed (World.tick fate) fun w => !w.crashed me

/-- What the server `me` keeps in memory. -/
def params (me : ServerId) : Comp World Params := do return (← Comp.get).server me

/-- Change what the server `me` keeps in memory. -/
def setParams (me : ServerId) (f : Params → Params) : Comp World Unit := .modify fun w => w.set me f

/-- A remote call: the reply, or an exception. -/
def rpc {α : Type} (target : ServerId) (body : Comp World α) : Comp World (Option α) := do
  if (← Comp.get).crashed target then return none else body.attempt

/-- The servers that a server has stubs for, in the order of the list. -/
def followers : ServerId → List ServerId
  | 0 => [1, 2]
  | 1 => [2]
  | 2 => []

/-- The loop of `replicate` over the stubs, on the server `me`; `handle` is what the servers called
do.  The request is changed in place, so it is returned as it is left. -/
def replicateLoop (handle : ServerId → Request → Comp World Response) (me : ServerId) :
    List ServerId → Request → Comp World Request
  | [], request => return request
  | j :: js, request => do
    if !(← params me).stubs request.write.service j then replicateLoop handle me js request
    else
      crashPoint fate me
      let sent := { request with isClient := false, counter := (← params me).counter + 1 }
      let reply ← rpc j (handle j sent)
      crashPoint fate me
      match reply with
      | some _ =>
        setParams me fun p => { p with counter := p.counter + 1 }
        replicateLoop handle me js { sent with isClient := true }
      | none =>
        -- The request keeps the fields that it was sent with.
        setParams me fun p => { p with
          stubs := fun service => if service = request.write.service then
            Function.update (p.stubs service) j false else p.stubs service }
        replicateLoop handle me js sent

/-- The beginning of `replicate` on a server that becomes the leader.  The inner call replays the
last request seen; its caller is the leader now, so it goes straight to the loop. -/
def takeOver (handle : ServerId → Request → Comp World Response) (me : ServerId) :
    Comp World Unit := do
  setParams me fun p => { p with amILeader := true }
  match (← params me).lastRequest with
  | some last =>
    let last' ← replicateLoop fate handle me (followers me) last
    setParams me fun p => { p with lastRequest := some last' }
  | none => return ()

/-- `replicate`: the request as it is left. -/
def replicate (handle : ServerId → Request → Comp World Response) (me : ServerId)
    (request : Request) : Comp World Request := do
  let p ← params me
  (if request.isClient && !p.amILeader then takeOver fate handle me else return ())
  let p ← params me
  if p.amILeader then replicateLoop fate handle me (followers me) request
  else
    setParams me fun p => { p with lastRequest := some request }
    return request

/-- What `Register`, `DeleteAccount` and `SendMessage` do after `replicate`, on the server `me`. -/
def finish (me : ServerId) (request : Request) : Comp World Response := do
  crashPoint fate me
  let p ← params me
  -- Don't do anything if we have seen this request before
  if !request.isClient && request.counter ≤ p.counter then
    crashPoint fate me
    return request.write.seen
  else
    if !request.isClient then setParams me fun p => { p with counter := request.counter }
    setParams me fun p => { p with db := request.write.apply p.db }
    crashPoint fate me
    return (request.write.perform p.db).1

/-- `Register`, `DeleteAccount` or `SendMessage` on the server `me`. -/
def serve (handle : ServerId → Request → Comp World Response) (me : ServerId)
    (request : Request) : Comp World Response := do
  let request ← replicate fate handle me request
  finish fate me request

/-- The procedures on server 2, which has no stubs. -/
def handle2 : Request → Comp World Response := serve fate (fun _ _ => fun w => (none, w)) 2

/-- The procedures on server 1. -/
def handle1 : Request → Comp World Response := serve fate (fun _ => handle2 fate) 1

/-- The procedures on server 0. -/
def handle0 : Request → Comp World Response :=
  serve fate (fun j => if j = 1 then handle1 fate else handle2 fate) 0

/-- The procedures on any server. -/
def handle : ServerId → Request → Comp World Response
  | 0 => handle0 fate
  | 1 => handle1 fate
  | 2 => handle2 fate

/-! ## Clients -/

/-- `send_request` of a client that has the servers `targets` left to try: the server that answers,
the world in which the request reaches it, and the answer.  A client that has none left exits. -/
def sendRequest (request : Request) :
    List ServerId → World → Option (ServerId × World × Response) × World
  | [], w => (none, w)
  | k :: ks, w =>
    match rpc k (handle fate k request) (w.tick fate) with
    | (some (some response), w') => (some (k, w.tick fate, response), w')
    | (_, w') => sendRequest request ks w'

end Fate

end Chat262.Replication
