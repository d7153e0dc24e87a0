import Chat262.Foundation.PartialRun
import Chat262.Replication.Procedures

/-!
# Concurrent calls, statement by statement

Any number of clients call the servers at the same time, and a server handles the calls that come to
it in as many threads, which share `g_params`; that its pool has no more than ten threads is left
out.  A run is any order of the statements of all threads, of the moments at which calls are made
and answers arrive, and of servers that stop.  The part of a procedure behind `replicate` is one
step.

A request comes to a server as an object of its own, which is named by the call that has brought it.
`replicate` writes to two of its fields, and `last_request` keeps hold of the object, so threads may
share it.

A call to a server that is up is answered.  A call raises when its server is down: the request or
the answer is lost.  What has been sent before its sender stopped still arrives.
-/

namespace Chat262.Replication.Threads

open Foundation

/-! ## One statement of `replicate` -/

/-- `is_client` and `counter` of a request. -/
structure Label where
  /-- `is_client`. -/
  isClient : Bool
  /-- `counter`. -/
  counter : ℕ
deriving DecidableEq, Repr

/-- The arguments of `replicate`. -/
structure Arguments where
  /-- The write, which tells the stubs, the name of the procedure and the other fields of the
  request. -/
  write : Write
  request : ℕ
deriving DecidableEq, Repr

/-- `server_params`, as the threads of a server share it. -/
structure Shared where
  /-- `am_i_leader`. -/
  amILeader : Bool
  /-- `auth_stubs` and `chat_stubs`: whether the stub for a server with a greater id is still in the
  list, and not replaced by `None`. -/
  stubs : Service → ServerId → Bool
  /-- `db`. -/
  db : Db
  /-- `counter`. -/
  counter : ℕ
  /-- `last_request`. -/
  lastRequest : Option Arguments

/-- A freshly started server. -/
def Shared.fresh (me : ServerId) (db : Db) : Shared where
  amILeader := me = 0
  stubs := fun _ _ => true
  db := db
  counter := 0
  lastRequest := none

/-- The statement of `replicate` that comes next. -/
inductive Point where
  /-- `if request.is_client and not g_params.am_i_leader` -/
  | check
  /-- `g_params.am_i_leader = True` -/
  | promote
  /-- `if g_params.last_request is not None`, and the inner call. -/
  | lookup
  /-- `if g_params.am_i_leader`, and its other branch. -/
  | branch
  /-- The loop has the stubs `js` left: `if stubs[i] is None`. -/
  | loop (js : List ServerId)
  /-- `request.is_client = False` -/
  | clear (j : ServerId) (js : List ServerId)
  /-- `request.counter = g_params.counter + 1` -/
  | number (j : ServerId) (js : List ServerId)
  /-- `getattr(stubs[i], rpc_name)(request)` -/
  | send (j : ServerId) (js : List ServerId)
  /-- The call `id` is under way. -/
  | wait (j : ServerId) (js : List ServerId) (id : ℕ)
  /-- `g_params.counter += 1` -/
  | count (js : List ServerId)
deriving DecidableEq, Repr

/-- A call of `replicate` that has not returned. -/
structure Frame where
  args : Arguments
  point : Point
deriving DecidableEq, Repr

/-- One statement of `replicate` on the server `me`: what becomes of the memory of the server and of
the fields of the request, and what takes the place of the call.  A statement that calls another
server is none of these, unless it raises because there is no stub. -/
def execute (me : ServerId) (s : Shared) (label : Label) :
    Frame → Option (Shared × Label × List Frame)
  | ⟨args, .check⟩ =>
    some (s, label, [⟨args, if label.isClient && !s.amILeader then .promote else .branch⟩])
  | ⟨args, .promote⟩ => some ({ s with amILeader := true }, label, [⟨args, .lookup⟩])
  | ⟨args, .lookup⟩ =>
    match s.lastRequest with
    | some last => some (s, label, [⟨last, .check⟩, ⟨args, .branch⟩])
    | none => some (s, label, [⟨args, .branch⟩])
  | ⟨args, .branch⟩ =>
    if s.amILeader then some (s, label, [⟨args, .loop (followers me)⟩])
    else some ({ s with lastRequest := some args }, label, [])
  | ⟨_, .loop []⟩ => some (s, label, [])
  | ⟨args, .loop (j :: js)⟩ =>
    some (s, label, [⟨args, if s.stubs args.write.service j then .clear j js else .loop js⟩])
  | ⟨args, .clear j js⟩ => some (s, { label with isClient := false }, [⟨args, .number j js⟩])
  | ⟨args, .number j js⟩ => some (s, { label with counter := s.counter + 1 }, [⟨args, .send j js⟩])
  | ⟨args, .send j js⟩ =>
    -- Another thread may have found out that the server is down.
    if s.stubs args.write.service j then none else some (s, label, [⟨args, .loop js⟩])
  | ⟨_, .wait _ _ _⟩ => none
  | ⟨args, .count js⟩ => some ({ s with counter := s.counter + 1 }, label, [⟨args, .loop js⟩])

/-- The part of a procedure behind `replicate`. -/
def Shared.complete (op : Write) (label : Label) (s : Shared) : Answer × Shared :=
  -- Don't do anything if we have seen this request before
  if !label.isClient && label.counter ≤ s.counter then (.response op.seen, s)
  else (.response (op.perform s.db).1, { s with
    counter := if label.isClient then s.counter else label.counter
    db := op.apply s.db })

/-- The memory of a server after a call to `j` that has raised: `stubs[i] = None`. -/
def Shared.unplugged (service : Service) (j : ServerId) (s : Shared) : Shared :=
  { s with stubs := fun service' => if service' = service then
      Function.update (s.stubs service') j false else s.stubs service' }

/-! ## Calls, clients and servers -/

/-- Who has made a call: a client, or the thread that handles another call. -/
inductive Caller (ι : Type) where
  | client (c : ι)
  | thread (id : ℕ)

/-- How far a call has got. -/
inductive Phase where
  /-- It is on its way, or its handler has not done anything yet. -/
  | arriving
  /-- Its handler is in `replicate`: the calls that have not returned, the innermost first. -/
  | replicating (frames : List Frame)
  | answered (answer : Answer)
  /-- The caller has the answer, or an exception. -/
  | over

/-- A remote call. -/
structure Call (ι : Type) where
  caller : Caller ι
  target : ServerId
  procedure : Procedure
  phase : Phase

/-- What a client is doing. -/
inductive Activity where
  | idle
  /-- In `send_request`, and about to call. -/
  | ready (p : Procedure)
  /-- In `send_request`, with the call `id` under way. -/
  | waiting (p : Procedure) (id : ℕ)
  | exited

/-- A client. -/
structure Client where
  /-- `curr_leader`. -/
  currLeader : ℕ
  activity : Activity

/-- All servers, clients and calls. -/
structure Cluster (ι : Type) where
  server : ServerId → Shared
  crashed : ServerId → Bool
  /-- The fields of the request of each call, as they are at the moment. -/
  label : ℕ → Label
  call : ℕ → Option (Call ι)
  client : ι → Client

/-- Three freshly started servers, and clients that have not called yet. -/
def Cluster.start {ι : Type} (db : Db) : Cluster ι where
  server := fun me => .fresh me db
  crashed := fun _ => false
  label := fun _ => ⟨true, 0⟩
  call := fun _ => none
  client := fun _ => ⟨0, .idle⟩

/-- The calls of `replicate` that the handler of the call `id` is in: before its first statement,
the one that is about to begin. -/
def Call.frames {ι : Type} (id : ℕ) (call : Call ι) : List Frame :=
  match call.procedure, call.phase with
  | .write op, .arriving => [⟨⟨op, id⟩, .check⟩]
  | .write _, .replicating frames => frames
  | _, _ => []

/-! ## Steps -/

/-- The steps of a run. -/
inductive Event (ι : Type) where
  /-- The client `c` calls `send_request`. -/
  | request (c : ι) (p : Procedure)
  /-- The client `c` makes the call `id` to the server that it takes for the leader. -/
  | call (c : ι) (id : ℕ)
  /-- The handler of the call `id` executes the next statement of `replicate`. -/
  | advance (id : ℕ)
  /-- The handler of the call `h` makes the call `id` to a follower. -/
  | send (h id : ℕ)
  /-- The handler of the call `id` comes to its end. -/
  | answer (id : ℕ)
  /-- The call `id` returns. -/
  | receive (id : ℕ)
  /-- The call `id` raises. -/
  | fail (id : ℕ)
  /-- The server `k` stops. -/
  | crash (k : ServerId)

section Steps

variable {ι : Type}

/-- Change what a server keeps in memory. -/
@[simps]
def Cluster.setServer (w : Cluster ι) (k : ServerId) (s : Shared) : Cluster ι :=
  { w with server := Function.update w.server k s }

/-- Change the fields of a request. -/
@[simps]
def Cluster.setLabel (w : Cluster ι) (id : ℕ) (label : Label) : Cluster ι :=
  { w with label := Function.update w.label id label }

/-- Make a call, or change it. -/
@[simps]
def Cluster.setCall (w : Cluster ι) (id : ℕ) (call : Call ι) : Cluster ι :=
  { w with call := Function.update w.call id (some call) }

/-- `send_request`, when the call raises. -/
def Client.failed (p : Procedure) (client : Client) : Client :=
  ⟨client.currLeader + 1, if client.currLeader + 1 > 2 then .exited else .ready p⟩

variable [DecidableEq ι]

/-- Change what a client is doing. -/
@[simps]
def Cluster.setClient (w : Cluster ι) (c : ι) (client : Client) : Cluster ι :=
  { w with client := Function.update w.client c client }

/-- One step.  A step that is not due is refused. -/
def step : Event ι → Cluster ι → Except Unit (Unit × Cluster ι)
  | .request c p, w =>
    match w.client c with
    | ⟨k, .idle⟩ => .ok ((), w.setClient c ⟨k, .ready p⟩)
    | _ => .error ()
  | .call c id, w =>
    match w.client c, w.call id with
    | ⟨k, .ready p⟩, none =>
      if hk : k < 3 then
        .ok ((), ((w.setCall id ⟨.client c, ⟨k, hk⟩, p, .arriving⟩).setLabel id ⟨true, 0⟩).setClient
          c ⟨k, .waiting p id⟩)
      else .error ()
    | _, _ => .error ()
  | .advance id, w =>
    match w.call id with
    | some call =>
      if w.crashed call.target then .error ()
      else match call.frames id with
        | f :: fs =>
          match execute call.target (w.server call.target) (w.label f.args.request) f with
          | some (s, label, fs') =>
            .ok ((), ((w.setServer call.target s).setLabel f.args.request label).setCall id
              { call with phase := .replicating (fs' ++ fs) })
          | none => .error ()
        | [] => .error ()
    | none => .error ()
  | .send h id, w =>
    match w.call h, w.call id with
    | some call, none =>
      match call.frames h with
      | ⟨args, .send j js⟩ :: fs =>
        if !w.crashed call.target && (w.server call.target).stubs args.write.service j then
          .ok ((), ((w.setCall id ⟨.thread h, j, .write args.write, .arriving⟩).setLabel id
            (w.label args.request)).setCall h
              { call with phase := .replicating (⟨args, .wait j js id⟩ :: fs) })
        else .error ()
      | _ => .error ()
    | _, _ => .error ()
  | .answer id, w =>
    match w.call id with
    | some call =>
      if w.crashed call.target then .error ()
      else match call.procedure, call.phase with
        | .read op, .arriving =>
          .ok ((), w.setCall id
            { call with phase := .answered (op.perform (w.server call.target).db) })
        | .write op, .replicating [] =>
          let r := (w.server call.target).complete op (w.label id)
          .ok ((), (w.setServer call.target r.2).setCall id { call with phase := .answered r.1 })
        | _, _ => .error ()
    | none => .error ()
  | .receive id, w =>
    match w.call id with
    | some call =>
      match call.phase, call.caller with
      | .answered _, .client c =>
        match w.client c with
        | ⟨k, .waiting _ id'⟩ =>
          if id' = id then
            .ok ((), (w.setCall id { call with phase := .over }).setClient c ⟨k, .idle⟩)
          else .error ()
        | _ => .error ()
      | .answered _, .thread h =>
        match w.call h with
        | some outer =>
          match outer.frames h with
          | ⟨args, .wait _ js id'⟩ :: fs =>
            if id' = id ∧ w.crashed outer.target = false then
              -- request.is_client = True
              .ok ((), ((w.setCall id { call with phase := .over }).setLabel args.request
                { w.label args.request with isClient := true }).setCall h
                  { outer with phase := .replicating (⟨args, .count js⟩ :: fs) })
            else .error ()
          | _ => .error ()
        | none => .error ()
      | _, _ => .error ()
    | none => .error ()
  | .fail id, w =>
    match w.call id with
    | some call =>
      if w.crashed call.target = false then .error ()
      else match call.caller with
        | .client c =>
          match w.client c with
          | ⟨k, .waiting p id'⟩ =>
            if id' = id then
              .ok ((), (w.setCall id { call with phase := .over }).setClient c
                (Client.failed p ⟨k, .waiting p id⟩))
            else .error ()
          | _ => .error ()
        | .thread h =>
          match w.call h with
          | some outer =>
            match outer.frames h with
            | ⟨args, .wait j js id'⟩ :: fs =>
              if id' = id ∧ w.crashed outer.target = false then
                .ok ((), ((w.setCall id { call with phase := .over }).setServer outer.target
                  ((w.server outer.target).unplugged args.write.service j)).setCall h
                    { outer with phase := .replicating (⟨args, .loop js⟩ :: fs) })
              else .error ()
            | _ => .error ()
          | none => .error ()
    | none => .error ()
  | .crash k, w => .ok ((), { w with crashed := Function.update w.crashed k true })

end Steps

end Chat262.Replication.Threads
