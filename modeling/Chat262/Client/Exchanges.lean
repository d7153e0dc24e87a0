import Chat262.Client.Calls
import Chat262.Server.SessionEffects

/-!
# A call of the client with the server running

From the request that a call sends to the response that it receives, the connection's thread takes
its steps and all other threads take theirs.  `Underway` says how far the thread is with the
request, and every step of the server keeps it (`Underway.step`) as long as the messages on this
connection are transferred whole.  `ClientCall.Serves` is what comes of it: the status code that the
call returns and the session that the thread then has.
-/

namespace Chat262

open Foundation

/-! ## The status code of a response -/

/-- A decoder that returns `ok` has read the status code from the first word of the body. -/
def ClientCall.ReadsCode {α : Type} (call : ClientCall α) : Prop :=
  ∀ data statCode out statCode' out',
    call.deserialize data statCode out = .ok (.ok, statCode', out') →
      4 ≤ data.length ∧ statCode' = wordAt data 0

/-- The decoder of a response with a status code only reads it. -/
lemma readsCode_ofStatus (request : Message) (responseType : MessageType) :
    (ClientCall.ofStatus request responseType StatusResponse.deserialize).ReadsCode := by
  intro data statCode out statCode' out' h
  simp only [ClientCall.ofStatus, StatusResponse.deserialize] at h
  split_ifs at h with hlen
  · cases h
  · cases h
    exact ⟨by omega, rfl⟩

/-- A list decoder reads the status code. -/
lemma decodeList_readsCode {α : Type} {data : ByteString} {lens : List UInt32} {fixed : ℕ}
    {statCode statCode' : StatusCode} {out out' : α} {make : List ByteString → α}
    (h : decodeList data lens fixed statCode out make = .ok (.ok, statCode', out')) :
    4 ≤ data.length ∧ statCode' = wordAt data 0 := by
  unfold decodeList at h
  split_ifs at h with hshort hcode hlen
  · cases h
  · cases h
    exact ⟨by omega, rfl⟩
  · cases h
  · obtain ⟨ss, -, hss⟩ := map_eq_ok.mp h
    cases hss
    exact ⟨by omega, (not_not.mp hcode).symm⟩

/-- The loop that copies usernames writes behind the status code. -/
lemma UsernamesResponse.le_off_copyLoop {us : List ByteString} {lenOff nameOff : ℕ}
    (hlen : 4 ≤ lenOff) (hname : 4 ≤ nameOff) :
    ∀ w ∈ UsernamesResponse.copyLoop us lenOff nameOff, 4 ≤ w.off := by
  induction us generalizing lenOff nameOff with
  | nil => simp [UsernamesResponse.copyLoop]
  | cons u us ih =>
    simp only [UsernamesResponse.copyLoop, List.mem_cons, forall_eq_or_imp]
    exact ⟨hlen, hname, ih (by omega) (by omega)⟩

/-- The loop that copies texts writes behind the status code. -/
lemma RecvTxtResponse.le_off_copyLoop {txts : List Text} {senderOff lenOff txtOff : ℕ}
    (hsender : 4 ≤ senderOff) (hlen : 4 ≤ lenOff) (htxt : 4 ≤ txtOff) :
    ∀ w ∈ RecvTxtResponse.copyLoop txts senderOff lenOff txtOff, 4 ≤ w.off := by
  induction txts generalizing senderOff lenOff txtOff with
  | nil => simp [RecvTxtResponse.copyLoop]
  | cons txt txts ih =>
    simp only [RecvTxtResponse.copyLoop, List.mem_cons, forall_eq_or_imp]
    exact ⟨hsender, hlen, htxt, ih (by omega) (by omega) (by omega)⟩

/-- A response with a status code writes it at the front of its body, and nothing else there. -/
lemma Response.serialize_of_statCode {r : Response} {code : StatusCode}
    (h : r.statCode? = some code) :
    ∃ bodyLen ws, r.serialize = .build r.type bodyLen (⟨0, leBytes 4 code.toNat⟩ :: ws) ∧
      ∀ w ∈ ws, 4 ≤ w.off := by
  have hnames (s : StatusCode) (l : List ByteString) :
      ∀ w ∈ (if s = StatusCode.ok then
        (⟨4, leBytes 4 l.length⟩ : Write) :: UsernamesResponse.copyLoop l 8 (8 + l.length * 4)
        else []), 4 ≤ w.off := by
    split_ifs
    · simp only [List.mem_cons, forall_eq_or_imp]
      exact ⟨le_rfl, UsernamesResponse.le_off_copyLoop (by omega) (by omega)⟩
    · simp
  cases r with
  | accounts s l | correspondents s l =>
    cases h
    exact ⟨_, _, rfl, hnames _ l⟩
  | recvTxt s c =>
    cases h
    refine ⟨_, _, rfl, ?_⟩
    split_ifs
    · simp only [List.mem_cons, forall_eq_or_imp]
      exact ⟨le_rfl, RecvTxtResponse.le_off_copyLoop (by omega) (by omega) (by omega)⟩
    · simp
  | wrongVersion v => cases h
  | invalidType => cases h
  | invalidBody => cases h
  | _ =>
    cases h
    exact ⟨_, [], rfl, by simp⟩

/-- What is stored of a response, behind its header, begins with the status code. -/
lemma Response.wordAt_stored {r : Response} {code : StatusCode} (h : r.statCode? = some code)
    {block data : ByteString} (hstore : r.serialize.store block = .ok data)
    (hlen : 12 ≤ block.length) : wordAt (data.drop 8) 0 = code := by
  obtain ⟨bodyLen, ws, hserialize, hws⟩ := r.serialize_of_statCode h
  let hdr : MessageHeader := ⟨protocolVersion, r.type, bodyLen⟩
  have hfills := hdr.fills_bytes.concat 8 hdr.length_bytes.symm (leBytes 4 code.toNat)
  have hfront : (hdr.bytes ++ leBytes 4 code.toNat).length = 12 := by simp
  have hbehind : ∀ w ∈ ws.map (Write.shift MessageHeader.size),
      (hdr.bytes ++ leBytes 4 code.toNat).length ≤ w.off := by
    intro w hw
    obtain ⟨w', hw', rfl⟩ := List.mem_map.mp hw
    rw [hfront]
    exact Nat.add_le_add_left (hws w' hw') 8
  have htake := hfills.take_fill_append (hfront.trans_le hlen) hbehind
  rw [hfront] at htake
  have hstored : data.take 12 = hdr.bytes ++ leBytes 4 code.toNat := by
    rw [← (writeAll_eq_ok.mp hstore).2, hserialize]
    exact htake
  have hword : ((data.drop 8).drop 0).take 4 = leBytes 4 code.toNat := by
    have hdrop := congrArg (List.drop 8) hstored
    rw [List.drop_take, List.drop_left' hdr.length_bytes] at hdrop
    exact hdrop
  rw [wordAt, hword, leNat_leBytes_of_lt (by simpa using code.toNat_lt), UInt32.ofNat_toNat]

/-- A call that returns `ok` has received a response of the type that it expects, and its status
code; nothing is left in the stream. -/
lemma ClientCall.receive_sent {α : Type} {call : ClientCall α} (hcode : call.ReadsCode)
    {r : Response} {block stream : ByteString} (hblock : block.length = r.serialize.totalLen)
    (hstore : r.serialize.store block = .ok stream) {results : List RecvResult}
    {statCode statCode' : StatusCode} {out out' : α} {unread : ByteString}
    (hwhole : ReadsWhole stream results)
    (h : call.receive statCode out stream results =
      some (.ok (.ok, statCode', out'), unread)) :
    r.type = call.responseType ∧ (∀ code, r.statCode? = some code → statCode' = code) ∧
      unread = [] := by
  obtain ⟨bodyLen, htake, hlength⟩ := (r.sendMsg_full hblock hstore).2
  have hword (code : StatusCode) (hcode : r.statCode? = some code) (hlen : 12 ≤ block.length) :=
    r.wordAt_stored hcode hstore hlen
  have hle : stream.length ≤ block.length := by
    obtain ⟨hinside, rfl⟩ := writeAll_eq_ok.mp hstore
    exact (length_fill hinside).le
  have hdecode : MessageHeader.decode stream = ⟨protocolVersion, r.type, bodyLen⟩ := by
    have h := MessageHeader.decode_bytes ⟨protocolVersion, r.type, bodyLen⟩ []
    rwa [List.append_nil, ← htake, MessageHeader.decode_take] at h
  obtain ⟨received, received', hhdr, hok, hbody, hok', hdata, hunread⟩ :=
    hwhole.received Client.receivesHeader
  have hannounced : announced stream = bodyLen.toNat := by rw [announced, hdecode]
  rw [ClientCall.receive, hhdr] at h
  dsimp only [Option.bind_eq_bind, Option.bind_some] at h
  rw [if_neg (not_not.mpr hok), hdecode] at h
  rw [hdecode] at hbody
  split_ifs at h with hvalid
  · simp only [Option.pure_def, Option.some.injEq, Prod.mk.injEq, Except.ok.injEq] at h
    exact absurd h.1.1 hvalid
  · have htype : r.type = call.responseType := by
      by_contra hne
      exact hvalid (by simp [Client.validateHdr, hne])
    rw [show Client.recvBody bodyLen [] received.unread received.results = some received'
      from hbody] at h
    dsimp only [Option.bind_some] at h
    rw [if_neg (not_not.mpr hok')] at h
    simp only [Option.pure_def, Option.some.injEq, Prod.mk.injEq] at h
    obtain ⟨hdeserialize, rfl⟩ := h
    obtain ⟨hfour, rfl⟩ := hcode _ _ _ _ _ hdeserialize
    have hrest : (stream.drop 8).take (announced stream) = stream.drop 8 := by
      rw [List.take_of_length_le]
      rw [List.length_drop, hannounced]
      omega
    rw [hdata, hrest] at hfour ⊢
    refine ⟨htype, ?_, ?_⟩
    · intro code hstat
      rw [List.length_drop] at hfour
      exact hword code hstat (by omega)
    · rw [hunread, hannounced, List.drop_of_length_le hlength.le]

/-! ## Requests -/

/-- What is stored of any request is a message of its type. -/
lemma exists_clientMessage {type : MessageType} {bodyLen : UInt32} {ws : List Write}
    {block data : ByteString} (hblock : block.length = (Message.build type bodyLen ws).totalLen)
    (hstore : (Message.build type bodyLen ws).store block = .ok data) :
    ∃ m : ClientMessage, m.version = protocolVersion ∧ m.type = type ∧ m.bytes = data := by
  obtain ⟨hheader, hlen⟩ := Message.take_store hblock hstore
  have hbody : (data.drop 8).length = bodyLen.toNat := by
    rw [List.length_drop]
    omega
  have hshort : Short (data.drop 8) := by
    rw [Short, hbody]
    exact bodyLen.toNat_lt
  refine ⟨⟨protocolVersion, type, data.drop 8, hshort⟩, rfl, rfl, ?_⟩
  rw [ClientMessage.bytes, ClientMessage.hdr, hbody, UInt32.ofNat_toNat, ← hheader,
    List.take_append_drop]

/-- The thread receives a message that is read whole. -/
lemma receiveMessage_of_readsWhole (tid : ThreadId) {m : ClientMessage}
    (hversion : m.version = protocolVersion) {results : List RecvResult}
    (h : ReadsWhole m.bytes results) :
    receiveMessage tid m.bytes results = some (.receive tid m.version m.type m.body, []) := by
  have hdecode := m.decode_bytes []
  have hannounced := m.announced_bytes []
  rw [List.append_nil] at hdecode hannounced
  obtain ⟨r, r', hhdr, hok, hbody, hok', hdata, hunread⟩ := h.received Server.receivesHeader
  rw [hdecode] at hhdr hbody
  have hdrop : m.bytes.drop 8 = m.body := List.drop_left' m.hdr.length_bytes
  rw [hdrop, hannounced, List.take_length] at hdata
  rw [hannounced, List.drop_of_length_le m.length_bytes.le] at hunread
  rw [receiveMessage, hhdr]
  dsimp only [Option.bind_eq_bind, Option.bind_some]
  have hcorrect : ¬ m.hdr.version ≠ protocolVersion := not_not.mpr hversion
  rw [if_neg (not_not.mpr hok), if_neg hcorrect,
    show Server.recvBody m.hdr.bodyLen [] r.unread r.results = some r' from hbody]
  dsimp only [Option.bind_some]
  rw [if_neg (not_not.mpr hok'), hdata, hunread]
  rfl

/-! ## The thread while a call is underway -/

/-- The messages on the connection are transferred whole: the thread only reads a message that has
arrived, and no reading or writing fails or distorts a message. -/
def TransfersWhole (tid : ThreadId) (action : LinkAction) (l : Linked) : Prop :=
  match action with
  | .receive results => ReadsWhole l.toServer results
  | .respond block results => ∀ r w data,
      serverStep (.respond tid true) l.server = .ok (some r, w) →
      r.serialize.store block = .ok data → SendsWhole data results
  | _ => True

/-- The session of a thread. -/
def Linked.session (tid : ThreadId) (l : Linked) : Option ByteString := l.server.db.threads[tid]?

/-- Nothing is underway: the thread waits for a message, and there is nothing in either direction of
the socket. -/
structure Linked.Quiet (tid : ThreadId) (l : Linked) : Prop where
  receiving : l.server.phase tid = .receiving
  toServer : l.toServer = []
  toClient : l.toClient = []

/-- How far the thread is with the message `m`, whose handler ends with a response and a session
that `Q` allows. -/
inductive Underway (tid : ThreadId) (m : ClientMessage)
    (Q : Response → Option ByteString → Prop) (l : Linked) : Prop
  | unread (hphase : l.server.phase tid = .receiving) (hread : l.toServer = m.bytes)
      (hsent : l.toClient = [])
      (hends : (handleMessage m.type m.body).EndsIn tid Q (l.session tid))
  | handling {script : Script} (hphase : l.server.phase tid = .handling script)
      (hread : l.toServer = []) (hsent : l.toClient = [])
      (hends : script.EndsIn tid Q (l.session tid))
  | answered {r : Response} {block : ByteString} (hphase : l.server.phase tid = .receiving)
      (hread : l.toServer = []) (hblock : block.length = r.serialize.totalLen)
      (hsent : r.serialize.store block = .ok l.toClient)
      (hends : Q r (l.session tid))

/-- Nothing can be read whole from an empty stream. -/
lemma not_readsWhole_nil {results : List RecvResult} : ¬ ReadsWhole [] results := by
  rintro ⟨hlen, -⟩
  simp at hlen

/-- A step of another thread leaves this one and its session alone. -/
lemma linkStep_other {tid : ThreadId} {action : Action} {l l' : Linked} {r : Option Response}
    (hstep : linkStep tid (.other action) l = .ok (r, l')) :
    l'.server.phase tid = l.server.phase tid ∧ l'.session tid = l.session tid ∧
      l'.toServer = l.toServer ∧ l'.toClient = l.toClient := by
  rw [linkStep] at hstep
  split_ifs at hstep with hthread
  obtain ⟨⟨r', server⟩, hserver, hl'⟩ := map_eq_ok.mp hstep
  cases hl'
  obtain ⟨hphase, hsession⟩ :=
    others_of_serverStep (serverStep_of_otherStep hserver) (Ne.symm hthread)
  exact ⟨hphase, hsession, rfl, rfl⟩

/-- A thread that waits for a message that has not come does nothing. -/
lemma Linked.Quiet.step {tid : ThreadId} {action : LinkAction} {l l' : Linked}
    {r : Option Response} (h : l.Quiet tid) (hwhole : TransfersWhole tid action l)
    (hstep : linkStep tid action l = .ok (r, l')) :
    l'.Quiet tid ∧ l'.session tid = l.session tid := by
  obtain ⟨hreceiving, hread, hsent⟩ := h
  cases action with
  | receive results =>
    rw [TransfersWhole, hread] at hwhole
    exact absurd hwhole not_readsWhole_nil
  | call => simp [linkStep, serverStep, hreceiving, Except.map] at hstep
  | respond block results => simp [linkStep, serverStep, hreceiving] at hstep
  | finish => simp [linkStep, serverStep, hreceiving, Except.map] at hstep
  | other action =>
    obtain ⟨hphase, hsession, htoServer, htoClient⟩ := linkStep_other hstep
    exact ⟨⟨hphase.trans hreceiving, htoServer.trans hread, htoClient.trans hsent⟩, hsession⟩

section

variable {tid : ThreadId} {m : ClientMessage} {Q : Response → Option ByteString → Prop}
  {l l' : Linked} {r : Option Response}

/-- The message is read once. -/
lemma Underway.receive {results : List RecvResult} (hversion : m.version = protocolVersion)
    (h : Underway tid m Q l) (hwhole : ReadsWhole l.toServer results)
    (hstep : linkStep tid (.receive results) l = .ok (r, l')) : Underway tid m Q l' := by
  obtain ⟨action, unread, server, hreceive, hserver, rfl⟩ := linkStep_receive_cases hstep
  cases h with
  | unread hphase hread hsent hends =>
    rw [hread] at hwhole hreceive
    rw [receiveMessage_of_readsWhole tid hversion hwhole] at hreceive
    cases hreceive
    cases serverStep_effect hserver with
    | wrongVersion _ _ _ _ ha hphase hne =>
      cases ha
      exact absurd hversion hne
    | received _ _ _ ha hphase hbody =>
      obtain ⟨rfl, -, rfl, rfl⟩ := Action.receive.inj ha
      exact .handling (ServerState.phase_withPhase_self _ tid _) rfl hsent hends
    | _ => contradiction
  | handling hphase hread hsent hends =>
    rw [hread] at hwhole
    exact absurd hwhole not_readsWhole_nil
  | answered hphase hread hblock hsent hends =>
    rw [hread] at hwhole
    exact absurd hwhole not_readsWhole_nil

/-- A thread in a handler has read the message and not answered it. -/
lemma Underway.inHandler (h : Underway tid m Q l) {script : Script}
    (hscript : l.server.phase tid = .handling script) :
    l.toServer = [] ∧ l.toClient = [] ∧ script.EndsIn tid Q (l.session tid) := by
  cases h with
  | unread hphase =>
    rw [hphase] at hscript
    cases hscript
  | handling hphase hread hsent hends =>
    rw [hphase, Phase.handling.injEq] at hscript
    subst hscript
    exact ⟨hread, hsent, hends⟩
  | answered hphase =>
    rw [hphase] at hscript
    cases hscript

/-- The thread waits for a message, or is in a handler. -/
lemma Underway.phase_cases (h : Underway tid m Q l) :
    l.server.phase tid = .receiving ∨ ∃ script, l.server.phase tid = .handling script := by
  cases h with
  | unread hphase => exact .inl hphase
  | handling hphase => exact .inr ⟨_, hphase⟩
  | answered hphase => exact .inl hphase

/-- The handler goes on after a call. -/
lemma Underway.call (h : Underway tid m Q l) (hstep : linkStep tid .call l = .ok (r, l')) :
    Underway tid m Q l' := by
  obtain ⟨⟨r', server⟩, hserver, hl'⟩ := map_eq_ok.mp hstep
  cases hl'
  cases serverStep_effect hserver with
  | called _ op next reply db ha hcalling hexec =>
    cases ha
    obtain ⟨hread, hsent, hends⟩ := h.inHandler hcalling
    exact .handling (ServerState.phase_withPhase_self _ tid _) hread hsent (hends _ _ _ rfl hexec)
  | _ => contradiction

/-- A response that is sent whole answers the message. -/
lemma Underway.sent {block : ByteString} {results : List SendResult} {response : Response}
    {w : ServerState} (hserver : serverStep (.respond tid true) l.server = .ok (some response, w))
    (hphase : w.phase tid = .receiving) (hdb : w.db = l.server.db) (hread : l.toServer = [])
    (hsent : l.toClient = []) (hends : Q response (l.session tid))
    (hwhole : TransfersWhole tid (.respond block results) l)
    (hstep : linkStep tid (.respond block results) l = .ok (r, l')) : Underway tid m Q l' := by
  obtain ⟨hblock, data, hstore⟩ := store_of_linkStep_respond hserver hstep
  obtain ⟨bodyLen, ws, hbuild⟩ := response.serialize_eq_build
  have hmsg : Server.sendMsg data results = some (.ok, data) := by
    have hwhole' := hwhole response w data hserver hstore
    rw [hbuild] at hblock hstore
    exact sendMsg_of_sendsWhole hblock hstore hwhole'
  simp only [linkStep, hserver, if_neg (not_not.mpr hblock), hstore, hmsg, decide_true, Except.map,
    hsent, List.nil_append] at hstep
  cases hstep
  exact .answered hphase hread hblock hstore (by rwa [Linked.session, hdb])

/-- The message is answered once. -/
lemma Underway.respond {block : ByteString} {results : List SendResult} (h : Underway tid m Q l)
    (hwhole : TransfersWhole tid (.respond block results) l)
    (hstep : linkStep tid (.respond block results) l = .ok (r, l')) : Underway tid m Q l' := by
  cases hserver : serverStep (.respond tid true) l.server with
  | error a => simp [linkStep, hserver] at hstep
  | ok p =>
    obtain ⟨response, w⟩ := p
    have hself := fun phase => ServerState.phase_withPhase_self l.server tid phase
    cases serverStep_effect hserver with
    | responded _ _ r' ha hresponding =>
      cases ha
      obtain ⟨hread, hsent, hends⟩ := h.inHandler hresponding
      exact .sent hserver (hself _) rfl hread hsent hends hwhole hstep
    | rejectedBody _ _ ha hresponding =>
      cases ha
      obtain ⟨hread, hsent, hends⟩ := h.inHandler hresponding
      exact .sent hserver (hself _) rfl hread hsent hends.2 hwhole hstep
    | gaveUp _ _ s ha hresponding hs =>
      cases ha
      obtain ⟨-, -, hends⟩ := h.inHandler hresponding
      exact absurd hends.1 hs
    | rejectedVersion _ _ ha hresponding =>
      cases ha
      rcases h.phase_cases with hphase | ⟨script, hphase⟩ <;> simp [hphase] at hresponding
    | _ => contradiction

/-- Every step of the server leaves the message underway. -/
theorem Underway.step {action : LinkAction} (hversion : m.version = protocolVersion)
    (h : Underway tid m Q l) (hwhole : TransfersWhole tid action l)
    (hstep : linkStep tid action l = .ok (r, l')) : Underway tid m Q l' := by
  cases action with
  | receive results => exact h.receive hversion hwhole hstep
  | call => exact h.call hstep
  | respond block results => exact h.respond hwhole hstep
  | finish =>
    obtain ⟨⟨r', server⟩, hserver, -⟩ := map_eq_ok.mp hstep
    cases serverStep_effect hserver with
    | finished _ ha hclosing =>
      cases ha
      rcases h.phase_cases with hphase | ⟨script, hphase⟩ <;> simp [hphase] at hclosing
    | _ => contradiction
  | other action =>
    obtain ⟨hphase', hsession, htoServer, htoClient⟩ := linkStep_other hstep
    cases h with
    | unread hphase hread hsent hends =>
      exact .unread (hphase'.trans hphase) (htoServer.trans hread) (htoClient.trans hsent)
        (hsession ▸ hends)
    | handling hphase hread hsent hends =>
      exact .handling (hphase'.trans hphase) (htoServer.trans hread) (htoClient.trans hsent)
        (hsession ▸ hends)
    | answered hphase hread hblock hsent hends =>
      exact .answered (hphase'.trans hphase) (htoServer.trans hread) hblock
        (htoClient ▸ hsent) (hsession ▸ hends)

end

/-! ## The calls and the session -/

/-- Weaker demands on the end of a handler are met too. -/
lemma Script.EndsIn.mono {tid : ThreadId} {Q Q' : Response → Option ByteString → Prop}
    (hQ : ∀ r session, Q r session → Q' r session) {script : Script}
    {session : Option ByteString} (h : script.EndsIn tid Q session) :
    script.EndsIn tid Q' session := by
  induction script generalizing session with
  | respond r => exact hQ r session h
  | call op next ih => exact fun db db' reply hdb hexec => ih reply (h db db' reply hdb hexec)
  | failed s => exact ⟨h.1, hQ _ _ h.2⟩
  | fault f => trivial

/-- A call of a thread with the session `session` is answered with a status code, and leaves a
session, that `After` allows. -/
structure ClientCall.Serves {α : Type} (call : ClientCall α) (tid : ThreadId)
    (session : Option ByteString) (After : StatusCode → Option ByteString → Prop) : Prop where
  readsCode : call.ReadsCode
  built : ∃ type bodyLen ws, call.request = .build type bodyLen ws
  /-- What is sent of the request is a message whose handler ends like this. -/
  handled : ∀ block data : ByteString, block.length = call.request.totalLen →
    call.request.store block = .ok data →
    ∃ m : ClientMessage, m.version = protocolVersion ∧ m.bytes = data ∧
      (handleMessage m.type m.body).EndsIn tid (Answered call.responseType After) session

/-- Weaker demands on a call are met too. -/
lemma ClientCall.Serves.mono {α : Type} {call : ClientCall α} {tid : ThreadId}
    {session : Option ByteString} {After After' : StatusCode → Option ByteString → Prop}
    (h : call.Serves tid session After)
    (hAfter : ∀ code session, After code session → After' code session) :
    call.Serves tid session After' := by
  refine ⟨h.readsCode, h.built, ?_⟩
  intro block data hblock hstore
  obtain ⟨m, hversion, hbytes, hends⟩ := h.handled block data hblock hstore
  refine ⟨m, hversion, hbytes, hends.mono ?_⟩
  intro r session hanswered htype
  obtain ⟨code, hcode, hafter⟩ := hanswered htype
  exact ⟨code, hcode, hAfter code session hafter⟩

/-- A call is served in a way if all messages of the type of its request are. -/
lemma serves_of_type {α : Type} {call : ClientCall α} {tid : ThreadId}
    {session : Option ByteString} {After : StatusCode → Option ByteString → Prop}
    (hcode : call.ReadsCode) {type : MessageType}
    (hrequest : ∃ bodyLen ws, call.request = .build type bodyLen ws)
    (hends : ∀ body, (handleMessage type body).EndsIn tid
      (Answered call.responseType After) session) : call.Serves tid session After := by
  obtain ⟨bodyLen, ws, hrequest⟩ := hrequest
  refine ⟨hcode, ⟨type, bodyLen, ws, hrequest⟩, ?_⟩
  intro block data hblock hstore
  rw [hrequest] at hblock hstore
  obtain ⟨m, hversion, rfl, hbytes⟩ := exists_clientMessage hblock hstore
  exact ⟨m, hversion, hbytes, hends m.body⟩

namespace Client

variable {tid : ThreadId}

/-- A login, of a thread with any session, as long as its request fits into its block. -/
lemma serves_login {username password : ByteString}
    (h : (pairBody username password).length < 2 ^ 32) (session : Option ByteString) :
    (Client.login username password).Serves tid session (AfterLogin username) := by
  refine ⟨readsCode_ofStatus _ _, ⟨_, _, _, rfl⟩, ?_⟩
  intro block data hblock hstore
  let m : ClientMessage :=
    ⟨protocolVersion, MessageType.loginRequest, pairBody username password, h⟩
  have hstored : (Client.login username password).request.store block = .ok m.bytes :=
    PairRequest.store_serialize MessageType.loginRequest h hblock
  have hbody := length_pairBody username password
  have hname : Short username := by
    rw [Short]
    omega
  have hpassword : Short password := by
    rw [Short]
    omega
  exact ⟨m, rfl, Except.ok.inj (hstored.symm.trans hstore), endsIn_login hname hpassword session⟩

/-- A registration keeps every session. -/
lemma serves_registration (username password : ByteString) (session : Option ByteString) :
    (Client.registration username password).Serves tid session (SameSession session) :=
  serves_of_type (readsCode_ofStatus _ _) ⟨_, _, rfl⟩ fun body => endsIn_registration body session

section

variable (name : ByteString)

/-- A logout ends the session. -/
lemma serves_logout : Client.logout.Serves tid (some name) NoSession :=
  serves_of_type (readsCode_ofStatus _ _) ⟨_, _, rfl⟩ fun body => endsIn_logout body name

/-- The deletion of the account ends the session. -/
lemma serves_deleteAccount : Client.deleteAccount.Serves tid (some name) NoSession :=
  serves_of_type (readsCode_ofStatus _ _) ⟨_, _, rfl⟩ fun body => endsIn_delete body name

/-- An account search keeps the session. -/
lemma serves_listAccounts (pattern : ByteString) :
    (Client.listAccounts pattern).Serves tid (some name) (SameSession (some name)) := by
  refine serves_of_type ?_ ⟨_, _, rfl⟩ fun body => endsIn_accounts body name
  intro data statCode out statCode' out' h
  exact decodeList_readsCode ((UsernamesResponse.deserialize_eq data statCode out).symm.trans h)

/-- Sending a text keeps the session. -/
lemma serves_sendTxt (recipient txt : ByteString) :
    (Client.sendTxt recipient txt).Serves tid (some name) (SameSession (some name)) :=
  serves_of_type (readsCode_ofStatus _ _) ⟨_, _, rfl⟩ fun body => endsIn_sendTxt body name

/-- Reading a chat keeps the session. -/
lemma serves_recvTxt (sender : ByteString) :
    (Client.recvTxt sender).Serves tid (some name) (SameSession (some name)) := by
  refine serves_of_type ?_ ⟨_, _, rfl⟩ fun body => endsIn_recvTxt body name
  intro data statCode out statCode' out' h
  exact decodeList_readsCode ((RecvTxtResponse.deserialize_eq data statCode out).symm.trans h)

/-- Listing the correspondents keeps the session. -/
lemma serves_recvCorrespondents :
    Client.recvCorrespondents.Serves tid (some name) (SameSession (some name)) := by
  refine serves_of_type ?_ ⟨_, _, rfl⟩ fun body => endsIn_correspondents body name
  intro data statCode out statCode' out' h
  exact decodeList_readsCode ((UsernamesResponse.deserialize_eq data statCode out).symm.trans h)

end

end Client

end Chat262
