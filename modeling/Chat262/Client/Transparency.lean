import Chat262.Client.Calls
import Chat262.Server.Connection
import Chat262.Server.Serial

/-!
# Remote calls are transparent

A call of the client, from the request that it sends to the response that it decodes, against the
server that handles the request in between.  `Direct` is what the call is for: the checks and the
database operations, run on the spot.  `Transparent` says that the call returns what `Direct`
prescribes and leaves the database that `Direct` produces, and `remote_calls_transparent` that all
eight calls are.

What is left of a handler has a value, `Script.serve`, that every step of the thread keeps
(`OnTheWay`), so it is enough to compute it for the handler of the request.
-/

namespace Chat262

open Foundation

/-! ## What the calls are for -/

/-- What a call is to return, and the database that it is to leave. -/
structure Outcome (α : Type) where
  statCode : StatusCode
  /-- The value of the second out parameter, if the status code is OK. -/
  value : α
  db : Database

namespace Direct

/-- Do something for a thread that is logged in, and answer `unauthorized` otherwise. -/
def authorized {α : Type} (tid : ThreadId) (db : Database) (value : α)
    (outcome : Except Abort (Outcome α)) : Except Abort (Outcome α) :=
  if db.isLoggedIn tid then outcome else .ok ⟨StatusCode.unauthorized, value, db⟩

/-- Registration: the username is checked first, and then the password. -/
def registration (username password : ByteString) (db : Database) : Outcome Unit :=
  if ¬ (4 ≤ username.length ∧ username.length ≤ 40 ∧ star ∉ username ∧ space ∉ username) then
    ⟨StatusCode.usernameInvalid, (), db⟩
  else if ¬ (4 ≤ password.length ∧ password.length ≤ 60) then
    ⟨StatusCode.passwordInvalid, (), db⟩
  else
    let (s, db') := db.registration username password
    ⟨if s = .ok then StatusCode.ok else StatusCode.userExists, (), db'⟩

/-- Login: a thread that is logged in is logged out first. -/
def login (tid : ThreadId) (username password : ByteString) (db : Database) : Outcome Unit :=
  let (s, db') := (if db.isLoggedIn tid then (db.logout tid).2 else db).login tid username password
  ⟨if s = .ok then StatusCode.ok else StatusCode.invalidCredentials, (), db'⟩

/-- Logout. -/
def logout (tid : ThreadId) (db : Database) : Except Abort (Outcome Unit) :=
  authorized tid db () (.ok ⟨StatusCode.ok, (), (db.logout tid).2⟩)

/-- The account search. -/
def listAccounts (tid : ThreadId) (pattern : ByteString) (db : Database) :
    Except Abort (Outcome (List ByteString)) :=
  authorized tid db [] (.ok ⟨StatusCode.ok, db.getUsernames pattern, db⟩)

/-- Sending a text. -/
def sendTxt (tid : ThreadId) (recipient txt : ByteString) (db : Database) :
    Except Abort (Outcome Unit) :=
  authorized tid db () ((db.sendTxt tid recipient txt).map fun p =>
    ⟨if p.1 = .ok then StatusCode.ok else StatusCode.userNoexist, (), p.2⟩)

/-- Reading a chat. -/
def recvTxt (tid : ThreadId) (sender : ByteString) (db : Database) :
    Except Abort (Outcome Chat) :=
  authorized tid db ⟨[]⟩ ((db.recvTxt tid sender ⟨[]⟩).map fun p =>
    ⟨if p.1 = .ok then StatusCode.ok else StatusCode.userNoexist, p.2, db⟩)

/-- Listing the correspondents. -/
def recvCorrespondents (tid : ThreadId) (db : Database) :
    Except Abort (Outcome (List ByteString)) :=
  authorized tid db [] ((db.getCorrespondents tid []).map fun p => ⟨StatusCode.ok, p.2, db⟩)

/-- Deleting the account. -/
def deleteAccount (tid : ThreadId) (db : Database) : Except Abort (Outcome Unit) :=
  authorized tid db () ((db.deleteUser tid).map fun p => ⟨StatusCode.ok, (), p.2⟩)

end Direct

/-! ## Transparency -/

/-- The thread waits for a message, and has read all there is. -/
def Linked.Waiting (tid : ThreadId) (l : Linked) : Prop :=
  l.server.phase tid = .receiving ∧ l.toServer = []

/-- The step is one of the connection's thread, with full transfers. -/
def OwnStep (action : LinkAction) (l : Linked) : Prop :=
  (∀ a, action ≠ .other a) ∧ FullLength action l

/-- A run of steps of the connection's thread only, all with full transfers. -/
def Alone (tid : ThreadId) (actions : List LinkAction) (l l' : Linked) : Prop :=
  Guarded (linkStep tid) OwnStep actions l ∧ run (linkStep tid) actions l = .ok l'

/-- A call over the connection of the thread `tid`, which waits with nothing in either direction
of its socket, is the same as `direct`, where `bodySize` is the size of the body that a response
has.  The request is sent in full.  The thread can handle it up to where it waits again if `direct`
returns and the response is shorter than `2 ^ 32` bytes; and whenever the thread has got there,
`direct` returns, the server is as before but for the database that `direct` leaves, and if the
response is shorter than `2 ^ 32` bytes the second half of the call returns `ok` with the status code
of `direct` and, if that is OK, its value, and reads all that the thread has sent. -/
def Transparent {α : Type} (tid : ThreadId) (w : ServerState) (call : ClientCall α)
    (direct : Except Abort (Outcome α)) (bodySize : StatusCode → α → ℕ) : Prop :=
  ∀ block, block.length = call.request.totalLen →
    ∃ sent, call.send block [.accepted block.length] = some (.ok (.ok, sent)) ∧
      (∀ outcome, direct = .ok outcome → bodySize outcome.statCode outcome.value < 2 ^ 32 →
        ∃ actions l, Alone tid actions ⟨w, sent, []⟩ l ∧ l.Waiting tid) ∧
      ∀ actions l, Alone tid actions ⟨w, sent, []⟩ l → l.Waiting tid →
        ∃ outcome, direct = .ok outcome ∧ l.server = { w with db := outcome.db } ∧
          (bodySize outcome.statCode outcome.value < 2 ^ 32 →
            ∀ statCode out, call.receive statCode out l.toClient (fullReads l.toClient) =
              some (.ok (.ok, outcome.statCode,
                if outcome.statCode = StatusCode.ok then outcome.value else out), []))

/-! ## The thread on its own -/

/-- The server `w` with another database, where the thread `tid` is in the given phase. -/
def ServerState.inPhase (w : ServerState) (tid : ThreadId) (db : Database) (phase : Phase) :
    ServerState := { w with db := db }.withPhase tid phase

/-- How far the thread is with the message `m` alone, when the server was `w` before: serving what
is left of its handler gives what serving the message gives. -/
inductive OnTheWay (tid : ThreadId) (m : ClientMessage) (w : ServerState) : Linked → Prop
  | unread : OnTheWay tid m w ⟨w, m.bytes, []⟩
  | handling {script : Script} {db : Database}
      (hserve : script.serve tid db = (handleMessage m.type m.body).serve tid w.db) :
      OnTheWay tid m w ⟨w.inPhase tid db (.handling script), [], []⟩
  | answered {r : Response} {db : Database} {block data : ByteString}
      (hserve : (handleMessage m.type m.body).serve tid w.db = .ok (some r, db))
      (hblock : block.length = r.serialize.totalLen) (hstore : r.serialize.store block = .ok data) :
      OnTheWay tid m w ⟨{ w with db := db }, [], data⟩
  | closed {l : Linked} (hphase : l.server.phase tid = .closing ∨ l.server.phase tid = .idle) :
      OnTheWay tid m w l

/-- The phase of the thread. -/
lemma ServerState.phase_inPhase (w : ServerState) (tid : ThreadId) (db : Database) (phase : Phase) :
    (w.inPhase tid db phase).phase tid = phase := ServerState.phase_withPhase_self _ tid phase

/-- The phase that the thread had before does not matter. -/
lemma ServerState.withPhase_inPhase (w : ServerState) (tid : ThreadId) (db db' : Database)
    (phase phase' : Phase) :
    ServerState.withPhase { w.inPhase tid db phase with db := db' } tid phase' =
      w.inPhase tid db' phase' := by
  simp only [ServerState.inPhase, ServerState.withPhase, Function.update_idem]

/-- A thread that waits again is where it was before. -/
lemma ServerState.receiving_inPhase {w : ServerState} {tid : ThreadId}
    (hphase : w.phase tid = .receiving) (db : Database) (phase : Phase) :
    ServerState.withPhase (w.inPhase tid db phase) tid .receiving = { w with db := db } := by
  calc ServerState.withPhase (w.inPhase tid db phase) tid .receiving
      = w.inPhase tid db .receiving := w.withPhase_inPhase tid db db phase .receiving
    _ = { w with db := db } := by
      simp only [ServerState.inPhase, ServerState.withPhase, ← hphase, Function.update_eq_self]

/-- The thread receives the message. -/
lemma linkStep_receive {tid : ThreadId} {m : ClientMessage} {w : ServerState}
    (hphase : w.phase tid = .receiving) (hversion : m.version = protocolVersion) :
    linkStep tid (.receive (fullReads m.bytes)) ⟨w, m.bytes, []⟩ =
      .ok (none, ⟨w.inPhase tid w.db (.handling (handleMessage m.type m.body)), [], []⟩) := by
  have hreceive := receiveMessage_full tid m []
  rw [List.append_nil, if_pos hversion] at hreceive
  have hshort : m.body.length < 2 ^ 32 := m.short
  simp only [linkStep, hreceive, serverStep, hphase, hversion, ne_eq, not_true_eq_false, if_false,
    if_pos hshort]
  rfl

/-- The handler calls the database. -/
lemma linkStep_call {tid : ThreadId} {w : ServerState} {op : Operation} {next : Reply → Script}
    {db db' : Database} {reply : Reply} (hexec : exec ⟨tid, op⟩ db = .ok (reply, db')) :
    linkStep tid .call ⟨w.inPhase tid db (.handling (.call op next)), [], []⟩ =
      .ok (none, ⟨w.inPhase tid db' (.handling (next reply)), [], []⟩) := by
  have hdb : (w.inPhase tid db (.handling (.call op next))).db = db := rfl
  simp only [linkStep, serverStep, ServerState.phase_inPhase, hdb, hexec, Except.map,
    ServerState.withPhase_inPhase]

/-- What the end of a handler responds is what serving it gives. -/
lemma serverStep_respond {tid : ThreadId} {w : ServerState} (hphase : w.phase tid = .receiving)
    {script : Script} (hcall : ∀ op next, script ≠ .call op next) {db db' : Database}
    {r : Response} (hserve : script.serve tid db = .ok (some r, db')) :
    serverStep (.respond tid true) (w.inPhase tid db (.handling script)) =
      .ok (some r, { w with db := db' }) := by
  have hagain := ServerState.receiving_inPhase hphase db (.handling script)
  cases script with
  | respond r' =>
    cases hserve
    simp only [serverStep, ServerState.phase_inPhase, Phase.afterSend, if_true, hagain]
  | call op next => exact absurd rfl (hcall op next)
  | failed s =>
    unfold Script.serve at hserve
    split_ifs at hserve with hs
    · cases hserve
      simp only [serverStep, ServerState.phase_inPhase, if_pos hs, Phase.afterSend, if_true, hagain]
    · cases hserve
  | fault f => cases hserve

/-- A response that the end of a handler sends is what serving it gives. -/
lemma serve_of_serverStep {tid : ThreadId} {w : ServerState} (hphase : w.phase tid = .receiving)
    {script : Script} {db : Database} {r : Response} {w' : ServerState}
    (hstep : serverStep (.respond tid true) (w.inPhase tid db (.handling script)) =
      .ok (some r, w')) :
    script.serve tid db = .ok (some r, db) ∧ w' = { w with db := db } := by
  have hagain := ServerState.receiving_inPhase hphase db (.handling script)
  cases script with
  | respond r' =>
    simp only [serverStep, ServerState.phase_inPhase] at hstep
    cases hstep
    exact ⟨rfl, hagain⟩
  | call op next => simp [serverStep, ServerState.phase_inPhase] at hstep
  | failed s =>
    simp only [serverStep, ServerState.phase_inPhase] at hstep
    split_ifs at hstep with hs
    · cases hstep
      exact ⟨if_pos hs, hagain⟩
    · cases hstep
  | fault f => simp [serverStep, ServerState.phase_inPhase] at hstep

/-- A call of a thread that waits, or has ended, is not possible. -/
lemma OnTheWay.step_call {tid : ThreadId} {m : ClientMessage} {w : ServerState} {l l' : Linked}
    {r : Option Response} (hphase : w.phase tid = .receiving) (h : OnTheWay tid m w l)
    (hstep : linkStep tid .call l = .ok (r, l')) : OnTheWay tid m w l' := by
  obtain ⟨⟨r', server⟩, hserver, hl'⟩ := map_eq_ok.mp hstep
  cases serverStep_effect hserver with
  | called _ op next reply db ha hcall hexec =>
    cases ha
    cases h with
    | unread => simp [hphase] at hcall
    | @handling script d hserve =>
      rw [ServerState.phase_inPhase, Phase.handling.injEq] at hcall
      subst hcall
      rw [show (w.inPhase tid d _).db = d from rfl] at hexec
      rw [linkStep_call hexec] at hstep
      cases hstep
      refine .handling ?_
      rw [← hserve, Script.serve, hexec]
    | answered hserve hblock hstore => simp [hphase] at hcall
    | closed hclosed => rcases hclosed with hclosed | hclosed <;> simp [hclosed] at hcall
  | _ => contradiction

/-- The message is read once. -/
lemma OnTheWay.step_receive {tid : ThreadId} {m : ClientMessage} {w : ServerState} {l l' : Linked}
    {results : List RecvResult} {r : Option Response} (hphase : w.phase tid = .receiving)
    (hversion : m.version = protocolVersion) (h : OnTheWay tid m w l)
    (hfull : FullRead l.toServer results)
    (hstep : linkStep tid (.receive results) l = .ok (r, l')) : OnTheWay tid m w l' := by
  have hreceiving : l.server.phase tid = .receiving := by
    obtain ⟨action, unread, server, hreceive, hserver, -⟩ := linkStep_receive_cases hstep
    exact receiving_of_receiveMessage hreceive hserver
  cases h with
  | unread =>
    rw [FullRead, if_neg m.bytes_ne_nil] at hfull
    subst hfull
    rw [linkStep_receive hphase hversion] at hstep
    cases hstep
    exact .handling rfl
  | handling hserve =>
    rw [ServerState.phase_inPhase] at hreceiving
    cases hreceiving
  | answered hserve hblock hstore =>
    rw [FullRead, if_pos rfl] at hfull
    simp only [linkStep, receiveMessage_nil tid hfull, serverStep, hphase] at hstep
    cases hstep
    exact .closed (.inl (ServerState.phase_withPhase_self _ tid _))
  | closed hclosed => rcases hclosed with hclosed | hclosed <;> simp [hclosed] at hreceiving

/-- The message is answered once. -/
lemma OnTheWay.step_respond {tid : ThreadId} {m : ClientMessage} {w : ServerState} {l l' : Linked}
    {block : ByteString} {r : Option Response} (hphase : w.phase tid = .receiving)
    (h : OnTheWay tid m w l)
    (hstep : linkStep tid (.respond block [.accepted block.length]) l = .ok (r, l')) :
    OnTheWay tid m w l' := by
  cases hserver : serverStep (.respond tid true) l.server with
  | error a => simp [linkStep, hserver] at hstep
  | ok p =>
    obtain ⟨r', w'⟩ := p
    cases h with
    | unread => simp [serverStep, hphase] at hserver
    | @handling script d hserve =>
      cases r' with
      | none =>
        -- The connection is given up.
        simp only [linkStep, hserver] at hstep
        cases hstep
        cases serverStep_effect hserver with
        | gaveUp _ _ s ha hgiveUp hs =>
          cases ha
          exact .closed (.inl (ServerState.phase_withPhase_self _ tid _))
        | _ => contradiction
      | some response =>
        obtain ⟨hresponse, rfl⟩ := serve_of_serverStep hphase hserver
        obtain ⟨hblock, data, hstore⟩ := store_of_linkStep_respond hserver hstep
        rw [linkStep_respond hserver hblock hstore] at hstep
        cases hstep
        exact .answered (hserve ▸ hresponse) hblock hstore
    | answered hserve hblock hstore => simp [serverStep, hphase] at hserver
    | closed hclosed =>
      rcases hclosed with hclosed | hclosed <;> simp [serverStep, hclosed] at hserver

/-- Every step of the thread keeps it on the way. -/
lemma OnTheWay.step {tid : ThreadId} {m : ClientMessage} {w : ServerState} {l l' : Linked}
    {action : LinkAction} {r : Option Response} (hphase : w.phase tid = .receiving)
    (hversion : m.version = protocolVersion) (h : OnTheWay tid m w l)
    (hown : ∀ a, action ≠ .other a) (hfull : FullLength action l)
    (hstep : linkStep tid action l = .ok (r, l')) : OnTheWay tid m w l' := by
  cases action with
  | receive results => exact h.step_receive hphase hversion hfull hstep
  | call => exact h.step_call hphase hstep
  | respond block results =>
    rw [show results = [.accepted block.length] from hfull] at hstep
    exact h.step_respond hphase hstep
  | finish =>
    obtain ⟨⟨r', server⟩, hserver, hl'⟩ := map_eq_ok.mp hstep
    cases serverStep_effect hserver with
    | finished _ ha hclosing =>
      cases ha
      cases hl'
      exact .closed (.inr (ServerState.phase_withPhase_self _ tid _))
    | _ => contradiction
  | other a => exact absurd rfl (hown a)

/-- A run of the thread alone from a message that it has not read is on the way. -/
lemma Alone.onTheWay {tid : ThreadId} {m : ClientMessage} {w : ServerState}
    {actions : List LinkAction} {l : Linked} (hphase : w.phase tid = .receiving)
    (hversion : m.version = protocolVersion) (h : Alone tid actions ⟨w, m.bytes, []⟩ l) :
    OnTheWay tid m w l := by
  exact run_invariant (P := OnTheWay tid m w)
    (fun _ _ _ _ h hstep hlink => h.step hphase hversion hstep.1 hstep.2 hlink) h.1 h.2 .unread

/-- A call is a step of the thread. -/
lemma ownStep_call (l : Linked) : OwnStep .call l := ⟨by simp, trivial⟩

/-- Sending in one piece is a step of the thread. -/
lemma ownStep_respond (block : ByteString) (l : Linked) :
    OwnStep (.respond block [.accepted block.length]) l := ⟨by simp, rfl⟩

/-- Receiving a message in full is a step of the thread. -/
lemma ownStep_receive {l : Linked} (h : l.toServer ≠ []) :
    OwnStep (.receive (fullReads l.toServer)) l :=
  ⟨by simp, by rw [FullLength, FullRead, if_neg h]⟩

/-- No step is a run of the thread alone. -/
lemma alone_nil (tid : ThreadId) (l : Linked) : Alone tid [] l l := ⟨trivial, rfl⟩

/-- A step of the thread and a run of the thread alone are such a run. -/
lemma Alone.cons {tid : ThreadId} {action : LinkAction} {actions : List LinkAction}
    {l l' l'' : Linked} {r : Option Response} (h : Alone tid actions l' l'')
    (hown : OwnStep action l) (hstep : linkStep tid action l = .ok (r, l')) :
    Alone tid (action :: actions) l l'' :=
  ⟨(guarded_cons hstep).mpr ⟨hown, h.1⟩, by rw [run_cons hstep]; exact h.2⟩

/-- The thread can get from the end of a handler to where it waits again. -/
lemma alone_respond {tid : ThreadId} {w : ServerState} (hphase : w.phase tid = .receiving)
    {script : Script} (hcall : ∀ op next, script ≠ .call op next) {db db' : Database}
    {r : Response} (hserve : script.serve tid db = .ok (some r, db')) (hfits : r.copied < 2 ^ 32) :
    ∃ actions l, Alone tid actions ⟨w.inPhase tid db (.handling script), [], []⟩ l ∧
      l.Waiting tid := by
  have hblock : (List.replicate r.serialize.totalLen (0 : UInt8)).length =
      r.serialize.totalLen := List.length_replicate
  obtain ⟨data, hstore⟩ := Message.exists_store (r.fits_iff.mpr hfits) hblock
  have hrespond := linkStep_respond (l := ⟨w.inPhase tid db (.handling script), [], []⟩)
    (serverStep_respond hphase hcall hserve) hblock hstore
  exact ⟨_, _, (alone_nil tid _).cons (ownStep_respond _ _) hrespond, hphase, rfl⟩

/-- The thread can get from a handler that can be served to where it waits again. -/
lemma alone_handling {tid : ThreadId} {w : ServerState} (hphase : w.phase tid = .receiving)
    {script : Script} {db db' : Database} {r : Response}
    (hserve : script.serve tid db = .ok (some r, db')) (hfits : r.copied < 2 ^ 32) :
    ∃ actions l, Alone tid actions ⟨w.inPhase tid db (.handling script), [], []⟩ l ∧
      l.Waiting tid := by
  induction script generalizing db with
  | call op next ih =>
    cases hexec : exec ⟨tid, op⟩ db with
    | error a => simp [Script.serve, hexec] at hserve
    | ok p =>
      obtain ⟨reply, d⟩ := p
      simp only [Script.serve, hexec] at hserve
      obtain ⟨actions, l, halone, hwaiting⟩ := ih reply hserve
      exact ⟨_, l, halone.cons (ownStep_call _) (linkStep_call hexec), hwaiting⟩
  | respond r' => exact alone_respond hphase (by simp) hserve hfits
  | failed s => exact alone_respond hphase (by simp) hserve hfits
  | fault f => cases hserve

/-! ## From serving to transparency -/

/-- A response that round-trips fits. -/
lemma Response.copied_of_roundTrips {α : Type} {r : Response} {type : MessageType} {bodySize : ℕ}
    {deserialize : ByteString → StatusCode → α → Except Fault (Status × StatusCode × α)}
    {code : StatusCode} {value : α}
    (h : RoundTrips r.serialize type bodySize deserialize code value) : r.copied < 2 ^ 32 := by
  have hblock : (List.replicate r.serialize.totalLen (0 : UInt8)).length = r.serialize.totalLen :=
    List.length_replicate
  obtain ⟨data, hstore, -⟩ := h _ ⟨0, 0, 0⟩ code value hblock
  rw [← r.fits_iff, ← hblock]
  exact (writeAll_eq_ok.mp hstore).1

/-- What serving a request gives when `direct` is what it is for and `response` makes the response
of what that prescribes. -/
def servedAs {α : Type} (response : StatusCode → α → Response)
    (direct : Except Abort (Outcome α)) : Except Halt (Option Response × Database) :=
  match direct with
  | .ok outcome => .ok (some (response outcome.statCode outcome.value), outcome.db)
  | .error a => .error (.abort a)

/-- A call is transparent when its request is the message `m`, serving `m` gives what `direct`
prescribes, as the response `response`, and the response round-trips. -/
theorem transparent_of_serve {α : Type} {tid : ThreadId} {w : ServerState}
    (hphase : w.phase tid = .receiving) {call : ClientCall α} {m : ClientMessage}
    (hversion : m.version = protocolVersion)
    (hrequest : ∃ ws, call.request = .build m.type (UInt32.ofNat m.body.length) ws)
    (hstored : ∀ block : ByteString, block.length = call.request.totalLen →
      call.request.store block = .ok m.bytes)
    {direct : Except Abort (Outcome α)} {response : StatusCode → α → Response}
    (hserve : (handleMessage m.type m.body).serve tid w.db = servedAs response direct)
    {bodySize : StatusCode → α → ℕ}
    (hresponse : ∀ code value, bodySize code value < 2 ^ 32 →
      RoundTrips (response code value).serialize call.responseType (bodySize code value)
        call.deserialize code value) :
    Transparent tid w call direct bodySize := by
  intro block hblock
  have hbytes := hstored block hblock
  obtain ⟨ws, hrequest⟩ := hrequest
  refine ⟨m.bytes, ?_, ?_, ?_⟩
  · rw [hrequest] at hblock hbytes
    rw [ClientCall.send, hrequest, hbytes]
    exact congrArg (Option.map Except.ok) (sendMsg_full hblock hbytes)
  · intro outcome houtcome hsize
    rw [houtcome] at hserve
    have hfits := Response.copied_of_roundTrips (hresponse outcome.statCode outcome.value hsize)
    obtain ⟨actions, l, halone, hwaiting⟩ := alone_handling hphase hserve hfits
    exact ⟨_, l, halone.cons (ownStep_receive m.bytes_ne_nil) (linkStep_receive hphase hversion),
      hwaiting⟩
  · intro actions l halone hwaiting
    obtain ⟨hreceiving, hnil⟩ := hwaiting
    cases halone.onTheWay hphase hversion with
    | unread => exact absurd hnil m.bytes_ne_nil
    | handling _ =>
      rw [ServerState.phase_inPhase] at hreceiving
      cases hreceiving
    | @answered r db block' data hanswer hblock' hstore =>
      rw [hserve] at hanswer
      cases direct with
      | error a => cases hanswer
      | ok outcome =>
        cases hanswer
        refine ⟨outcome, rfl, rfl, ?_⟩
        intro hsize statCode out
        have hround := hresponse outcome.statCode outcome.value hsize
        exact ClientCall.receive_response hround hsize hblock' hstore statCode out
    | closed hclosed => rcases hclosed with hclosed | hclosed <;> simp [hclosed] at hreceiving

/-! ## Serving the requests -/

/-- A handler that needs a login answers `unauthorized` first. -/
lemma serve_requireLogin {α : Type} (response : StatusCode → α → Response) {tid : ThreadId}
    {db : Database} {value : α} {next : Script}
    {outcome : Except Abort (Outcome α)} (hnext : next.serve tid db = servedAs response outcome) :
    (Script.requireLogin (response StatusCode.unauthorized value) next).serve tid db =
      servedAs response (Direct.authorized tid db value outcome) := by
  have hexec : exec ⟨tid, .isLoggedIn⟩ db = .ok (.loggedIn (db.isLoggedIn tid), db) := rfl
  simp only [Script.requireLogin, Script.serve, hexec, Reply.isLoggedIn, Direct.authorized]
  cases db.isLoggedIn tid with
  | false => rfl
  | true => exact hnext

/-- A last call whose status decides between two status codes. -/
lemma serve_status (response : StatusCode → Unit → Response) {tid : ThreadId} {op : Operation}
    {db db' : Database} {s : Status} {code code' : StatusCode}
    (hexec : exec ⟨tid, op⟩ db = .ok (.status s, db')) :
    (Script.call op fun reply => if reply.isOk then .respond (response code ())
        else .respond (response code' ())).serve tid db =
      servedAs response (.ok ⟨if s = .ok then code else code', (), db'⟩) := by
  by_cases hs : s = .ok
  · simp [Script.serve, hexec, Reply.isOk, hs, servedAs]
  · simp [Script.serve, hexec, Reply.isOk, hs, servedAs]

/-- Serving a registration. -/
lemma serve_registration {u p : ByteString} (hu : Short u) (hp : Short p) (tid : ThreadId)
    (db : Database) :
    (handleMessage MessageType.registrationRequest (pairBody u p)).serve tid db =
      servedAs (fun code _ => .registration code) (.ok (Direct.registration u p db)) := by
  rw [handleMessage_registration, handleRegistration, RegistrationRequest.deserialize,
    PairRequest.deserialize_pairBody hu hp]
  have hname : (u.length < 4 ∨ u.length > 40 ∨ star ∈ u ∨ space ∈ u) ↔
      ¬ (4 ≤ u.length ∧ u.length ≤ 40 ∧ star ∉ u ∧ space ∉ u) := by
    rw [not_and_or, not_and_or, not_and_or, not_not, not_not, not_le, not_le]
  have hpass : (p.length < 4 ∨ p.length > 60) ↔ ¬ (4 ≤ p.length ∧ p.length ≤ 60) := by
    rw [not_and_or, not_le, not_le]
  simp only [Script.decode, ne_eq, not_true_eq_false, if_false, hname, hpass, Direct.registration]
  by_cases hu : ¬ (4 ≤ u.length ∧ u.length ≤ 40 ∧ star ∉ u ∧ space ∉ u)
  · rw [if_pos hu, if_pos hu]
    rfl
  by_cases hp : ¬ (4 ≤ p.length ∧ p.length ≤ 60)
  · rw [if_neg hu, if_neg hu, if_pos hp, if_pos hp]
    rfl
  · rw [if_neg hu, if_neg hu, if_neg hp, if_neg hp]
    exact serve_status (fun code _ => .registration code) rfl

/-- Serving a login. -/
lemma serve_login {u p : ByteString} (hu : Short u) (hp : Short p) (tid : ThreadId)
    (db : Database) :
    (handleMessage MessageType.loginRequest (pairBody u p)).serve tid db =
      servedAs (fun code _ => .login code) (.ok (Direct.login tid u p db)) := by
  rw [handleMessage_login, handleLogin, LoginRequest.deserialize,
    PairRequest.deserialize_pairBody hu hp]
  have hfinish (d : Database) : (finishLogin u p).serve tid d =
      servedAs (fun code _ => .login code)
        (.ok ⟨if (d.login tid u p).1 = .ok then StatusCode.ok else StatusCode.invalidCredentials,
          (), (d.login tid u p).2⟩) :=
    serve_status (fun code _ => .login code) rfl
  have hexec : exec ⟨tid, .isLoggedIn⟩ db = .ok (.loggedIn (db.isLoggedIn tid), db) := rfl
  simp only [Script.decode, ne_eq, not_true_eq_false, if_false, Script.serve, hexec,
    Reply.isLoggedIn, Direct.login]
  cases db.isLoggedIn tid with
  | false => exact hfinish db
  | true => exact hfinish (db.logout tid).2

/-- Serving a logout. -/
lemma serve_logout (tid : ThreadId) (db : Database) :
    (handleMessage MessageType.logoutRequest []).serve tid db =
      servedAs (fun code _ => .logout code) (Direct.logout tid db) :=
  serve_requireLogin (fun code _ => .logout code) rfl

/-- Serving an account search. -/
lemma serve_accounts {pattern : ByteString} (hs : Short pattern) (tid : ThreadId)
    (db : Database) :
    (handleMessage MessageType.accountsRequest (stringBody pattern)).serve tid db =
      servedAs .accounts (Direct.listAccounts tid pattern db) := by
  rw [handleMessage_accounts, handleListAccounts, AccountsRequest.deserialize,
    StringRequest.deserialize_stringBody hs]
  exact serve_requireLogin .accounts rfl

/-- Serving a text. -/
lemma serve_sendTxt {r txt : ByteString} (hr : Short r) (htxt : Short txt) (tid : ThreadId)
    (db : Database) :
    (handleMessage MessageType.sendTxtRequest (pairBody r txt)).serve tid db =
      servedAs (fun code _ => .sendTxt code) (Direct.sendTxt tid r txt db) := by
  rw [handleMessage_sendTxt, handleSendTxt, SendTxtRequest.deserialize,
    PairRequest.deserialize_pairBody hr htxt]
  refine serve_requireLogin (fun code _ => .sendTxt code) ?_
  cases hsend : db.sendTxt tid r txt with
  | error a => simp [Script.serve, exec, hsend, Except.map, servedAs]
  | ok p =>
    have hexec : exec ⟨tid, .sendTxt r txt⟩ db = .ok (.status p.1, p.2) := by
      simp [exec, hsend, Except.map, Prod.map]
    exact serve_status (fun code _ => .sendTxt code) hexec

/-- Serving a request for a chat. -/
lemma serve_recvTxt {s : ByteString} (hs : Short s) (tid : ThreadId) (db : Database) :
    (handleMessage MessageType.recvTxtRequest (stringBody s)).serve tid db =
      servedAs .recvTxt (Direct.recvTxt tid s db) := by
  rw [handleMessage_recvTxt, handleRecvTxt, RecvTxtRequest.deserialize,
    StringRequest.deserialize_stringBody hs]
  refine serve_requireLogin .recvTxt ?_
  cases hrecv : db.recvTxt tid s ⟨[]⟩ with
  | error a => simp [Script.serve, exec, hrecv, Except.map, servedAs]
  | ok p =>
    by_cases hs : p.1 = .ok
    · simp [Script.serve, exec, hrecv, Except.map, Reply.isOk, Reply.chatOut, hs, servedAs]
    · simp [Script.serve, exec, hrecv, Except.map, Reply.isOk, Reply.chatOut, hs, servedAs]

/-- Serving a request for the correspondents. -/
lemma serve_correspondents (tid : ThreadId) (db : Database) :
    (handleMessage MessageType.correspondentsRequest []).serve tid db =
      servedAs .correspondents (Direct.recvCorrespondents tid db) := by
  refine serve_requireLogin .correspondents ?_
  cases hlist : db.getCorrespondents tid [] with
  | error a => simp [Script.serve, exec, hlist, Except.map, servedAs]
  | ok p => simp [Script.serve, exec, hlist, Except.map, Reply.usernamesOut, servedAs]

/-- Serving a deletion. -/
lemma serve_delete (tid : ThreadId) (db : Database) :
    (handleMessage MessageType.deleteRequest []).serve tid db =
      servedAs (fun code _ => .delete code) (Direct.deleteAccount tid db) := by
  refine serve_requireLogin (fun code _ => .delete code) ?_
  cases hdelete : db.deleteUser tid with
  | error a => simp [Script.serve, exec, hdelete, Except.map, servedAs]
  | ok p => simp [Script.serve, exec, hdelete, Except.map, servedAs]

/-! ## The eight calls -/

/-- The size of the body of a response with a status code only. -/
def statusSize (_ : StatusCode) (_ : Unit) : ℕ := 4

/-- The two strings in a short body are short. -/
lemma short_of_pairBody {a b : ByteString} (h : Short (pairBody a b)) : Short a ∧ Short b := by
  rw [Short, length_pairBody] at h
  exact ⟨by rw [Short]; omega, by rw [Short]; omega⟩

/-- The string in a short body is short. -/
lemma short_of_stringBody {s : ByteString} (h : Short (stringBody s)) : Short s := by
  rw [Short, length_stringBody] at h
  rw [Short]
  omega

section

variable {α : Type} {tid : ThreadId} {w : ServerState} {call : ClientCall α} {type : MessageType}
  {direct : Except Abort (Outcome α)} {response : StatusCode → α → Response}
  {bodySize : StatusCode → α → ℕ}

/-- A call with two strings is transparent when its request is served right. -/
lemma transparent_pair (hphase : w.phase tid = .receiving) {a b : ByteString}
    (h : Short (pairBody a b)) (hrequest : call.request = PairRequest.serialize type a b)
    (hserve : (handleMessage type (pairBody a b)).serve tid w.db = servedAs response direct)
    (hresponse : ∀ code value, bodySize code value < 2 ^ 32 →
      RoundTrips (response code value).serialize call.responseType (bodySize code value)
        call.deserialize code value) :
    Transparent tid w call direct bodySize := by
  let m : ClientMessage := ⟨protocolVersion, type, pairBody a b, h⟩
  have hbuild : ∃ ws, call.request = .build m.type (UInt32.ofNat m.body.length) ws := by
    rw [hrequest, show m.body.length = 2 * 4 + a.length + b.length from length_pairBody a b]
    exact ⟨_, rfl⟩
  refine transparent_of_serve (m := m) hphase rfl hbuild ?_ hserve hresponse
  intro block hblock
  rw [hrequest] at hblock ⊢
  exact PairRequest.store_serialize type h hblock

/-- A call with one string is transparent when its request is served right. -/
lemma transparent_string (hphase : w.phase tid = .receiving) {a : ByteString}
    (h : Short (stringBody a)) (hrequest : call.request = StringRequest.serialize type a)
    (hserve : (handleMessage type (stringBody a)).serve tid w.db = servedAs response direct)
    (hresponse : ∀ code value, bodySize code value < 2 ^ 32 →
      RoundTrips (response code value).serialize call.responseType (bodySize code value)
        call.deserialize code value) :
    Transparent tid w call direct bodySize := by
  let m : ClientMessage := ⟨protocolVersion, type, stringBody a, h⟩
  have hbuild : ∃ ws, call.request = .build m.type (UInt32.ofNat m.body.length) ws := by
    rw [hrequest, show m.body.length = 4 + a.length from length_stringBody a]
    exact ⟨_, rfl⟩
  refine transparent_of_serve (m := m) hphase rfl hbuild ?_ hserve hresponse
  intro block hblock
  rw [hrequest] at hblock ⊢
  exact StringRequest.store_serialize type h hblock

/-- A call without strings is transparent when its request is served right. -/
lemma transparent_empty (hphase : w.phase tid = .receiving)
    (hrequest : call.request = EmptyRequest.serialize type)
    (hserve : (handleMessage type []).serve tid w.db = servedAs response direct)
    (hresponse : ∀ code value, bodySize code value < 2 ^ 32 →
      RoundTrips (response code value).serialize call.responseType (bodySize code value)
        call.deserialize code value) :
    Transparent tid w call direct bodySize := by
  let m : ClientMessage := ⟨protocolVersion, type, [], by decide⟩
  have hbuild : ∃ ws, call.request = .build m.type (UInt32.ofNat m.body.length) ws := by
    rw [hrequest]
    exact ⟨_, rfl⟩
  refine transparent_of_serve (m := m) hphase rfl hbuild ?_ hserve hresponse
  intro block hblock
  rw [hrequest] at hblock ⊢
  rw [EmptyRequest.store_serialize type hblock]
  exact congrArg Except.ok (List.append_nil _).symm

end

/-- Remote calls are transparent, in every state of the server in which the thread of the
connection waits for a message: the calls with two strings and those with one when the body of the
request is shorter than `2 ^ 32` bytes, and those without a string always. -/
theorem remote_calls_transparent {tid : ThreadId} {w : ServerState}
    (hphase : w.phase tid = .receiving) :
    (∀ a b, (pairBody a b).length < 2 ^ 32 →
        Transparent tid w (Client.registration a b) (.ok (Direct.registration a b w.db))
            statusSize ∧
          Transparent tid w (Client.login a b) (.ok (Direct.login tid a b w.db)) statusSize ∧
          Transparent tid w (Client.sendTxt a b) (Direct.sendTxt tid a b w.db) statusSize) ∧
      (∀ a, (stringBody a).length < 2 ^ 32 →
        Transparent tid w (Client.listAccounts a) (Direct.listAccounts tid a w.db)
            UsernamesResponse.bodySize ∧
          Transparent tid w (Client.recvTxt a) (Direct.recvTxt tid a w.db)
            RecvTxtResponse.bodySize) ∧
      Transparent tid w Client.logout (Direct.logout tid w.db) statusSize ∧
      Transparent tid w Client.recvCorrespondents (Direct.recvCorrespondents tid w.db)
        UsernamesResponse.bodySize ∧
      Transparent tid w Client.deleteAccount (Direct.deleteAccount tid w.db) statusSize := by
  refine ⟨?_, ?_, ?_, ?_, ?_⟩
  · intro a b h
    obtain ⟨ha, hb⟩ := short_of_pairBody h
    exact ⟨transparent_pair hphase h rfl (serve_registration ha hb tid w.db)
        fun code _ _ => StatusResponse.roundTrips _ code,
      transparent_pair hphase h rfl (serve_login ha hb tid w.db)
        fun code _ _ => StatusResponse.roundTrips _ code,
      transparent_pair hphase h rfl (serve_sendTxt ha hb tid w.db)
        fun code _ _ => StatusResponse.roundTrips _ code⟩
  · intro a h
    have ha := short_of_stringBody h
    exact ⟨transparent_string hphase h rfl (serve_accounts ha tid w.db)
        fun _ _ hsize => UsernamesResponse.roundTrips _ hsize,
      transparent_string hphase h rfl (serve_recvTxt ha tid w.db)
        fun _ _ hsize => RecvTxtResponse.roundTrips hsize⟩
  · exact transparent_empty hphase rfl (serve_logout tid w.db)
      fun code _ _ => StatusResponse.roundTrips _ code
  · exact transparent_empty hphase rfl (serve_correspondents tid w.db)
      fun _ _ hsize => UsernamesResponse.roundTrips _ hsize
  · exact transparent_empty hphase rfl (serve_delete tid w.db)
      fun code _ _ => StatusResponse.roundTrips _ code

/-- A registration and a search over the first connection of a fresh server. -/
theorem remote_calls_transparent_fresh :
    Transparent 0 ⟨.empty, fun _ => .receiving⟩ (Client.registration [97, 98, 99, 100] [1, 2, 3, 4])
        (.ok (Direct.registration [97, 98, 99, 100] [1, 2, 3, 4] .empty)) statusSize ∧
      Transparent 0 ⟨.empty, fun _ => .receiving⟩ (Client.listAccounts [star])
        (.ok ⟨StatusCode.unauthorized, [], .empty⟩) UsernamesResponse.bodySize := by
  obtain ⟨hpairs, hstrings, -⟩ :=
    @remote_calls_transparent 0 ⟨.empty, fun _ => .receiving⟩ rfl
  exact ⟨(hpairs _ _ (by decide)).1, (hstrings _ (by decide)).1⟩

end Chat262
