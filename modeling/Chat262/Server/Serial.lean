import Chat262.Server.Frames
import Chat262.Server.Histories

/-!
# Serving requests one at a time

The server that handles one request from its beginning to its end before it looks at the next one.
`Script.serve` runs what is left of a handler without anybody in between, a `Task` is what a
connection asks for, a message or the logout at its end, and `serveTask` serves it.
`Foundation.run serveTask` is a one-at-a-time execution of some tasks.
-/

namespace Chat262

open Foundation

/-- Run what is left of a handler of the thread `tid` to its end: the response it builds, if it
builds one, and the database it leaves. -/
def Script.serve (tid : ThreadId) : Script → Database → Except Halt (Option Response × Database)
  | .respond r, db => .ok (some r, db)
  | .call op next, db =>
    match exec ⟨tid, op⟩ db with
    | .ok (reply, db') => (next reply).serve tid db'
    | .error a => .error (.abort a)
  | .failed s, db => if s = .bodyError then .ok (some .invalidBody, db) else .ok (none, db)
  | .fault f, _ => .error (.fault f)

/-- What a connection asks of the server. -/
inductive Task where
  | request (tid : ThreadId) (version : UInt16) (type : MessageType) (body : ByteString)
  /-- The logout at the end of the connection. -/
  | leave (tid : ThreadId)
deriving DecidableEq, Repr

/-- The thread of a task. -/
def Task.thread : Task → ThreadId
  | .request tid _ _ _ | .leave tid => tid

/-- Serve a task without anybody in between. -/
def serveTask : Task → Database → Except Halt (Option Response × Database)
  | .request tid version type body, db =>
    if version ≠ protocolVersion then .ok (some (.wrongVersion protocolVersion), db)
    else (handleMessage type body).serve tid db
  | .leave tid, db => .ok (none, (db.logout tid).2)

/-- The tasks of the thread `tid`. -/
def tasksOf (tid : ThreadId) (tasks : List Task) : List Task :=
  tasks.filter fun task => task.thread = tid

/-- The response to a task. -/
def served (task : Task) (db : Database) : List Response :=
  match serveTask task db with
  | .ok (r, _) => r.toList
  | .error _ => []

/-- The responses to the tasks of the thread `tid` in a one-at-a-time execution. -/
def servedTo (tid : ThreadId) (tasks : List Task) (db : Database) : List Response :=
  collect serveTask (fun task db => if task.thread = tid then served task db else []) tasks db

/-! ## The same in a run of the server -/

/-- The task that an action begins or, at the end of a connection, performs. -/
def Action.task : Action → List Task
  | .receive tid version type body => [.request tid version type body]
  | .finish tid => [.leave tid]
  | _ => []

/-- The response that an action builds. -/
def built (action : Action) (w : ServerState) : List Response :=
  match serverStep action w with
  | .ok (r, _) => r.toList
  | .error _ => []

/-- The tasks of the thread `tid` in a run, in their order. -/
def requestsOf (tid : ThreadId) (actions : List Action) (w : ServerState) : List Task :=
  collect serverStep (fun action _ => if action.thread = tid then action.task else []) actions w

/-- The responses that the thread `tid` builds in a run, in their order. -/
def responsesOf (tid : ThreadId) (actions : List Action) (w : ServerState) : List Response :=
  collect serverStep (fun action w => if action.thread = tid then built action w else []) actions w

/-- No request of the thread is being handled. -/
def Phase.Quiet : Phase → Prop
  | .idle | .receiving | .closing => True
  | _ => False

/-! ## Serving leaves other sessions alone -/

/-- A handler of one thread leaves the sessions of the others alone. -/
lemma session_of_serve {tid other : ThreadId} (hother : other ≠ tid) {script : Script}
    {db db' : Database} {r : Option Response} (h : script.serve tid db = .ok (r, db')) :
    db'.threads[other]? = db.threads[other]? := by
  induction script generalizing db with
  | respond r' =>
    cases h
    rfl
  | call op next ih =>
    unfold Script.serve at h
    cases hexec : exec ⟨tid, op⟩ db with
    | error a => simp [hexec] at h
    | ok p =>
      obtain ⟨reply, d⟩ := p
      simp only [hexec] at h
      rw [ih reply h, session_of_exec hexec hother]
  | failed s =>
    unfold Script.serve at h
    split_ifs at h <;> cases h <;> rfl
  | fault f => cases h

/-- A logout looks the same in databases that look the same, and leaves other sessions alone. -/
lemma logout_sameView {tid : ThreadId} {db db' : Database} (h : SameView tid db db') :
    SameView tid (db.logout tid).2 (db'.logout tid).2 := by
  have hexec (db : Database) : exec ⟨tid, .logout⟩ db =
      .ok (.status (db.logout tid).1, (db.logout tid).2) := rfl
  obtain ⟨d', hd', hview⟩ := (exec_of_sameView h .logout).exists_ok (hexec db)
  rw [hexec, Except.ok.injEq, Prod.mk.injEq] at hd'
  rwa [hd'.2]

/-- A task of one thread leaves the sessions of the others alone. -/
lemma session_of_serveTask {task : Task} {other : ThreadId} (hother : other ≠ task.thread)
    {db db' : Database} {r : Option Response} (h : serveTask task db = .ok (r, db')) :
    db'.threads[other]? = db.threads[other]? := by
  cases task with
  | request tid version type body =>
    simp only [serveTask] at h
    split_ifs at h
    · cases h
      rfl
    · exact session_of_serve hother h
  | leave tid =>
    cases h
    exact session_logout hother db

end Chat262
