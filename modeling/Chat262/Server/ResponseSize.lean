import Chat262.Server.Steps
import Chat262.Server.Handlers
import Chat262.Wire.RoundTrip

/-!
# Sizes of the responses of a running server

Every string that reaches the database came in a request whose body is shorter than `2 ^ 32`, so
every username and every stored text is short on its own.  `Database.ShortStrings` states it of a
database, `Script.ShortStrings` of what a thread is still going to do, and every step of the server
preserves both.  Nothing bounds the sum of the lengths: a chat or a list of users may grow past
`2 ^ 32` bytes one legal request at a time, and `responses_wellSized_iff` says that exactly then
the serializer announces, and allocates, less than it writes.
-/

namespace Chat262

open Foundation
open Std (ExtTreeMap)

/-! ## Short strings in the database -/

/-- All contents of a chat are short. -/
def Chat.ShortStrings (c : Chat) : Prop := ∀ t ∈ c.texts, Short t.content

/-- The name, the correspondents and all texts of a user are short. -/
structure User.ShortStrings (u : User) : Prop where
  username : Short u.username
  /-- The correspondents and the texts exchanged with them. -/
  chats : ∀ v c, u.chats[v]? = some c → Short v ∧ c.ShortStrings

/-- All usernames are short, and so are the strings of their records. -/
def Users.ShortStrings (users : Users) : Prop :=
  ∀ (k : ByteString) (u : User), users[k]? = some u → Short k ∧ u.ShortStrings

/-- A chat without texts has short strings. -/
lemma Chat.shortStrings_nil : Chat.ShortStrings ⟨[]⟩ := by simp [Chat.ShortStrings]

/-- Opening a chat with a correspondent whose name is short keeps the strings short. -/
lemma User.ShortStrings.openChat {u : User} (h : u.ShortStrings) {name : ByteString}
    (hname : Short name) : (Database.openChat name u).ShortStrings := by
  refine ⟨h.username, ?_⟩
  intro v c hc
  simp only [Database.openChat, ExtTreeMap.getElem?_insertIfNew] at hc
  split_ifs at hc with hnew
  · rw [Std.LawfulEqCmp.compare_eq_iff_eq] at hnew
    obtain ⟨rfl, -⟩ := hnew
    cases hc
    exact ⟨hname, Chat.shortStrings_nil⟩
  · exact h.chats v c hc

/-- Pushing a short text keeps the strings short. -/
lemma User.ShortStrings.pushText {u : User} (h : u.ShortStrings) (name : ByteString) (txt : Text)
    (htxt : Short txt.content) : (Database.pushText name txt u).ShortStrings := by
  refine ⟨h.username, ?_⟩
  intro v c hc
  simp only [Database.pushText, ExtTreeMap.getElem?_modify] at hc
  split_ifs at hc with hv
  · obtain ⟨c', hc', rfl⟩ := Option.map_eq_some_iff.mp hc
    rw [Std.LawfulEqCmp.compare_eq_iff_eq] at hv
    subst hv
    obtain ⟨hname, hshort⟩ := h.chats _ c' hc'
    refine ⟨hname, ?_⟩
    intro t ht
    rcases List.mem_append.mp ht with ht | ht
    · exact hshort t ht
    · rw [List.mem_singleton.mp ht]
      exact htxt
  · exact h.chats v c hc

/-- Erasing a chat keeps the strings short. -/
lemma User.ShortStrings.eraseChat {u : User} (h : u.ShortStrings) (name : ByteString) :
    (Database.eraseChat name u).ShortStrings := by
  refine ⟨h.username, ?_⟩
  intro v c hc
  simp only [Database.eraseChat, ExtTreeMap.getElem?_erase] at hc
  split_ifs at hc
  exact h.chats v c hc

/-- Changing one record so that its strings stay short keeps all of them short. -/
lemma Users.ShortStrings.modify {users : Users} (h : users.ShortStrings) (k : ByteString)
    {f : User → User} (hf : ∀ u, u.ShortStrings → (f u).ShortStrings) :
    Users.ShortStrings (users.modify k f) := by
  intro j u hu
  rw [ExtTreeMap.getElem?_modify] at hu
  split_ifs at hu with hj
  · obtain ⟨u', hu', rfl⟩ := Option.map_eq_some_iff.mp hu
    rw [Std.LawfulEqCmp.compare_eq_iff_eq] at hj
    subst hj
    exact ⟨(h _ u' hu').1, hf u' (h _ u' hu').2⟩
  · exact h j u hu

/-- Sending a short text between users with short names keeps the strings short. -/
lemma Users.ShortStrings.afterSend {users : Users} (h : users.ShortStrings)
    (name : ByteString) {username r txt : ByteString} (husername : Short username) (hr : Short r)
    (htxt : Short txt) : Users.ShortStrings (afterSend name username r txt users) := by
  have hopen₁ := h.modify name fun u hu => hu.openChat hr
  have hopen₂ := hopen₁.modify r fun u hu => hu.openChat husername
  have hpush := hopen₂.modify name fun u hu =>
    hu.pushText r ⟨Text.senderYou, txt⟩ htxt
  exact hpush.modify r fun u hu => hu.pushText username ⟨Text.senderOther, txt⟩ htxt

/-! ## Short strings in operations, replies and responses -/

/-- The strings that an operation may store, and the initial values of its out parameters, are
short. -/
def Operation.ShortStrings : Operation → Prop
  | .registration u _ => Short u
  | .sendTxt _ txt => Short txt
  | .recvTxt _ c => c.ShortStrings
  | .getCorrespondents l => ∀ u ∈ l, Short u
  | _ => True

/-- The strings that an operation returns are short. -/
def Reply.ShortStrings : Reply → Prop
  | .usernames l | .correspondents _ l => ∀ u ∈ l, Short u
  | .chat _ c => c.ShortStrings
  | _ => True

/-- The strings of a response are short. -/
def Response.ShortStrings : Response → Prop
  | .accounts _ l | .correspondents _ l => ∀ u ∈ l, Short u
  | .recvTxt _ c => c.ShortStrings
  | _ => True

/-- As long as the database returns short strings, a script stores only short strings and responds
with short strings. -/
def Script.ShortStrings : Script → Prop
  | .respond r => r.ShortStrings
  | .call op next => op.ShortStrings ∧ ∀ reply, reply.ShortStrings → (next reply).ShortStrings
  | .failed _ => True
  | .fault _ => True

/-- A database whose strings are short returns short strings. -/
lemma reply_shortStrings {e : Event} {db db' : Database} {reply : Reply}
    (hdb : db.users.ShortStrings) (hop : e.op.ShortStrings) (h : exec e db = .ok (reply, db')) :
    reply.ShortStrings := by
  unfold exec at h
  cases hcase : e.op with
  | getUsernames pattern =>
    simp only [hcase] at h
    cases h
    intro u hu
    have hmem : u ∈ db.users := ExtTreeMap.mem_keys.mp (List.mem_filter.mp hu).1
    obtain ⟨user, huser⟩ := Option.isSome_iff_exists.mp (ExtTreeMap.mem_iff_isSome_getElem?.mp hmem)
    exact (hdb u user huser).1
  | recvTxt s c =>
    rw [hcase] at hop
    simp only [hcase, Database.recvTxt] at h
    obtain ⟨p, hp, hpr⟩ := map_eq_ok.mp h
    cases hpr
    rcases of_session_eq_ok hp with ⟨-, rfl⟩ | ⟨name, u, -, huser, hp⟩
    · exact hop
    · have hshort := (hdb name u huser).2
      split_ifs at hp with hs
      · cases hchat : u.chats[s]? with
        | none =>
          simp only [hchat] at hp
          cases hp
          exact Chat.shortStrings_nil
        | some c' =>
          simp only [hchat] at hp
          cases hp
          exact (hshort.chats s c' hchat).2
      · cases hp
        exact hop
  | getCorrespondents l =>
    rw [hcase] at hop
    simp only [hcase, Database.getCorrespondents] at h
    obtain ⟨p, hp, hpr⟩ := map_eq_ok.mp h
    cases hpr
    rcases of_session_eq_ok hp with ⟨-, rfl⟩ | ⟨name, u, -, huser, hp⟩
    · exact hop
    · have hshort := (hdb name u huser).2
      cases hp
      intro v hv
      obtain ⟨c, hc⟩ := Option.isSome_iff_exists.mp
        (ExtTreeMap.mem_iff_isSome_getElem?.mp (ExtTreeMap.mem_keys.mp hv))
      exact (hshort.chats v c hc).1
  | sendTxt r txt =>
    simp only [hcase] at h
    obtain ⟨p, -, hpr⟩ := map_eq_ok.mp h
    cases hpr
    trivial
  | deleteUser =>
    simp only [hcase] at h
    obtain ⟨p, -, hpr⟩ := map_eq_ok.mp h
    cases hpr
    trivial
  | _ =>
    simp only [hcase] at h
    cases h
    trivial

/-- An operation that stores only short strings keeps the strings of the database short. -/
lemma users_shortStrings {e : Event} {db db' : Database} {reply : Reply}
    (hdb : db.users.ShortStrings) (hop : e.op.ShortStrings) (h : exec e db = .ok (reply, db')) :
    db'.users.ShortStrings := by
  cases exec_effect h with
  | rejected hwhy => exact hdb
  | loggedIn u p user hop' hout huser hpass => exact hdb
  | loggedOut hop' hin => exact hdb
  | read reply hread => exact hdb
  | registered u p hop' hnew hpast =>
    rw [hop'] at hop
    intro k user hk
    rw [ExtTreeMap.getElem?_insertIfNew] at hk
    split_ifs at hk with hcmp
    · rw [Std.LawfulEqCmp.compare_eq_iff_eq] at hcmp
      obtain ⟨rfl, -⟩ := hcmp
      cases hk
      exact ⟨hop, hop, by simp⟩
    · exact hdb k user hk
  | sent r txt name sender hop' hsession hsender hr =>
    rw [hop'] at hop
    obtain ⟨u, hu⟩ := Option.isSome_iff_exists.mp (ExtTreeMap.mem_iff_isSome_getElem?.mp hr)
    exact hdb.afterSend name (hdb name sender hsender).2.username (hdb r u hu).1 hop
  | deleted name u users hop' hsession huser hloop =>
    obtain ⟨-, hget⟩ := of_foldlM_dropChat_eq_ok hloop
    intro k user hk
    rw [ExtTreeMap.getElem?_erase] at hk
    split_ifs at hk
    rw [hget k] at hk
    split_ifs at hk
    · obtain ⟨user', huser', rfl⟩ := Option.map_eq_some_iff.mp hk
      exact ⟨(hdb k user' huser').1, (hdb k user' huser').2.eraseChat name⟩
    · exact hdb k user hk

/-! ## Short strings in the running server -/

/-- What is read from a body is not longer than the body. -/
lemma length_le_of_readAt_eq_ok {data s : ByteString} {off len : ℕ}
    (h : readAt data off len = .ok s) : s.length ≤ data.length := by
  obtain ⟨-, rfl⟩ := readAt_eq_ok.mp h
  simp only [List.length_take, List.length_drop]
  omega

/-- Two strings decoded from a body are not longer than the body. -/
lemma PairRequest.length_le_of_deserialize {data a b a' b' : ByteString}
    (h : PairRequest.deserialize data a b = .ok (.ok, a', b')) :
    a'.length ≤ data.length ∧ b'.length ≤ data.length := by
  unfold PairRequest.deserialize at h
  split_ifs at h with h8
  · cases h
  obtain ⟨aLen, -, h⟩ := bind_eq_ok.mp h
  obtain ⟨bLen, -, h⟩ := bind_eq_ok.mp h
  split_ifs at h with hlen
  · cases h
  obtain ⟨s, hs, h⟩ := bind_eq_ok.mp h
  obtain ⟨s', hs', h⟩ := bind_eq_ok.mp h
  cases h
  exact ⟨length_le_of_readAt_eq_ok hs, length_le_of_readAt_eq_ok hs'⟩

/-- A handler's script has short strings when what it does with the decoded values has. -/
lemma Script.shortStrings_decode {α : Type} {decoded : Except Fault (Status × α)}
    {next : α → Script} (h : ∀ a, decoded = .ok (.ok, a) → (next a).ShortStrings) :
    (Script.decode decoded next).ShortStrings := by
  unfold Script.decode
  match decoded with
  | .error f => trivial
  | .ok (s, a) =>
    dsimp only
    split_ifs with hs
    · trivial
    · rw [not_not.mp hs] at h
      exact h a rfl

/-- Asking for a login keeps the strings of a script short. -/
lemma Script.shortStrings_requireLogin {unauthorized : Response} {next : Script}
    (hun : unauthorized.ShortStrings) (hnext : next.ShortStrings) :
    (Script.requireLogin unauthorized next).ShortStrings := by
  refine ⟨trivial, ?_⟩
  intro reply _
  dsimp only
  split_ifs
  · exact hun
  · exact hnext

/-- The usernames that a reply with short strings carries are short. -/
lemma Reply.ShortStrings.usernamesOut {reply : Reply} (h : reply.ShortStrings) :
    ∀ u ∈ reply.usernamesOut, Short u := by
  cases reply with
  | usernames l => exact h
  | correspondents s l => exact h
  | _ => simp [Reply.usernamesOut]

/-- The chat that a reply with short strings carries has short strings. -/
lemma Reply.ShortStrings.chatOut {reply : Reply} (h : reply.ShortStrings) :
    reply.chatOut.ShortStrings := by
  cases reply with
  | chat s c => exact h
  | _ => exact Chat.shortStrings_nil

/-- The end of a login stores nothing and responds with a status code. -/
lemma shortStrings_finishLogin (username password : ByteString) :
    (finishLogin username password).ShortStrings := by
  refine ⟨trivial, ?_⟩
  intro reply _
  dsimp only
  split_ifs <;> trivial

/-- The handlers store only strings from the body, which are short when the body is. -/
lemma shortStrings_handleMessage (type : MessageType) {body : ByteString} (hbody : Short body) :
    (handleMessage type body).ShortStrings := by
  unfold handleMessage
  split_ifs
  · -- registration
    refine Script.shortStrings_decode fun (u, p) h => ?_
    have hu : Short u := (PairRequest.length_le_of_deserialize h).1.trans_lt hbody
    dsimp only
    split_ifs
    · trivial
    · trivial
    · refine ⟨hu, ?_⟩
      intro reply _
      dsimp only
      split_ifs <;> trivial
  · -- login
    refine Script.shortStrings_decode fun (u, p) _ => ⟨trivial, fun reply _ => ?_⟩
    dsimp only
    split_ifs
    · exact ⟨trivial, fun _ _ => shortStrings_finishLogin u p⟩
    · exact shortStrings_finishLogin u p
  · -- logout
    exact Script.shortStrings_decode fun _ _ =>
      Script.shortStrings_requireLogin trivial ⟨trivial, fun _ _ => trivial⟩
  · -- accounts
    exact Script.shortStrings_decode fun _ _ =>
      Script.shortStrings_requireLogin (by simp [Response.ShortStrings])
        ⟨trivial, fun _ h => h.usernamesOut⟩
  · -- send text
    refine Script.shortStrings_decode fun (r, txt) h => ?_
    have htxt : Short txt := (PairRequest.length_le_of_deserialize h).2.trans_lt hbody
    refine Script.shortStrings_requireLogin trivial ⟨htxt, fun reply _ => ?_⟩
    dsimp only
    split_ifs <;> trivial
  · -- receive text
    refine Script.shortStrings_decode fun _ _ =>
      Script.shortStrings_requireLogin Chat.shortStrings_nil
        ⟨Chat.shortStrings_nil, fun reply h => ?_⟩
    dsimp only
    split_ifs
    · exact h.chatOut
    · exact h.chatOut
  · -- correspondents
    exact Script.shortStrings_decode fun _ _ =>
      Script.shortStrings_requireLogin (by simp [Response.ShortStrings])
        ⟨by simp [Operation.ShortStrings], fun _ h => h.usernamesOut⟩
  · -- delete
    exact Script.shortStrings_decode fun _ _ =>
      Script.shortStrings_requireLogin trivial ⟨trivial, fun _ _ => trivial⟩
  · trivial

/-- All strings that the server stores, and all that its handlers are still going to store or to
respond with, are short. -/
structure ServerState.ShortStrings (w : ServerState) : Prop where
  users : w.db.users.ShortStrings
  scripts : ∀ tid script, w.phase tid = .handling script → script.ShortStrings

/-- The strings stay short when a thread moves on to a phase without a script, or to one whose
script has short strings. -/
lemma ServerState.ShortStrings.withPhase {w : ServerState} (h : w.ShortStrings) (tid : ThreadId)
    {phase : Phase} (hphase : ∀ script, phase = .handling script → script.ShortStrings) :
    (w.withPhase tid phase).ShortStrings := by
  refine ⟨h.users, ?_⟩
  intro tid' script hscript
  simp only [ServerState.withPhase, Function.update_apply] at hscript
  split_ifs at hscript
  · exact hphase script hscript
  · exact h.scripts tid' script hscript

/-- The strings stay short when the database changes to one whose strings are short. -/
lemma ServerState.ShortStrings.withDb {w : ServerState} (h : w.ShortStrings) {db : Database}
    (hdb : db.users.ShortStrings) : ServerState.ShortStrings { w with db := db } :=
  ⟨hdb, h.scripts⟩

/-- Every step of the server keeps the strings short. -/
lemma ServerState.ShortStrings.step {w w' : ServerState} {action : Action} {r : Option Response}
    (hw : w.ShortStrings) (h : serverStep action w = .ok (r, w')) : w'.ShortStrings := by
  cases action with
  | accept tid =>
    cases hphase : w.phase tid <;> simp only [serverStep, hphase] at h <;> cases h
    exact hw.withPhase tid (by simp)
  | receive tid version type body =>
    cases hphase : w.phase tid <;> simp only [serverStep, hphase] at h <;> try cases h
    split_ifs at h with hversion hbody
    · cases h
      exact hw.withPhase tid (by simp)
    · cases h
      refine hw.withPhase tid ?_
      intro script hscript
      cases hscript
      exact shortStrings_handleMessage type hbody
  | call tid =>
    cases hphase : w.phase tid <;> simp only [serverStep, hphase] at h <;> try cases h
    rename_i script
    have hscript := hw.scripts tid script hphase
    cases script with
    | call op next =>
      cases hexec : exec ⟨tid, op⟩ w.db with
      | error a => simp [hexec] at h
      | ok p =>
        obtain ⟨reply, db⟩ := p
        simp only [hexec] at h
        cases h
        have hreply := reply_shortStrings hw.users (e := ⟨tid, op⟩) hscript.1 hexec
        have hdb := users_shortStrings hw.users (e := ⟨tid, op⟩) hscript.1 hexec
        refine (hw.withDb hdb).withPhase tid ?_
        intro script' hscript'
        cases hscript'
        exact hscript.2 reply hreply
    | _ => cases h
  | respond tid sent =>
    have hafter : (w.withPhase tid (.afterSend sent)).ShortStrings := by
      refine hw.withPhase tid ?_
      cases sent <;> simp [Phase.afterSend]
    have hclosing : (w.withPhase tid .closing).ShortStrings := hw.withPhase tid (by simp)
    cases hphase : w.phase tid <;> simp only [serverStep, hphase] at h <;> try cases h
    · rename_i script
      cases script with
      | respond r' => cases h; exact hafter
      | failed s =>
        dsimp only at h
        split_ifs at h
        · cases h; exact hafter
        · cases h; exact hclosing
      | _ => cases h
    · exact hclosing
  | hangUp tid =>
    cases hphase : w.phase tid <;> simp only [serverStep, hphase] at h <;> cases h
    exact hw.withPhase tid (by simp)
  | finish tid =>
    cases hphase : w.phase tid <;> simp only [serverStep, hphase] at h <;> cases h
    have hlogout : (w.db.logout tid).2.users = w.db.users := by
      unfold Database.logout
      split_ifs <;> rfl
    exact (hw.withDb (hlogout ▸ hw.users)).withPhase tid (by simp)

/-- In every state that the server can reach, all strings are short. -/
theorem shortStrings_of_run {actions : List Action} {w : ServerState}
    (h : run serverStep actions .initial = .ok w) : w.ShortStrings := by
  refine run_invariant (G := fun _ _ => True) (fun _ _ _ _ hw _ hstep => hw.step hstep)
    (guarded_true actions _) h ⟨?_, ?_⟩
  · simp [ServerState.initial, Database.empty, Users.ShortStrings]
  · simp [ServerState.initial]

/-! ## Sizes of the list responses -/

/-- The number of bytes that the serializer of a list response copies into the body. -/
def Response.listBodySize : Response → Option ℕ
  | .accounts s l | .correspondents s l => some (UsernamesResponse.bodySize s l)
  | .recvTxt s c => some (RecvTxtResponse.bodySize s c)
  | _ => none

/-- In every state that the server can reach, the accounts, receive-text or correspondents response
that a thread is about to build announces what is written, and all writes stay inside the block,
exactly when the status code, the counts and the strings to be sent fit into `2 ^ 32 - 1` bytes. -/
theorem responses_wellSized_iff {actions : List Action} {w : ServerState}
    (hrun : run serverStep actions .initial = .ok w) {tid : ThreadId} {r : Response}
    (hr : w.phase tid = .handling (.respond r)) {n : ℕ} (hn : r.listBodySize = some n) :
    r.serialize.WellSized ↔ n < 2 ^ 32 := by
  have hshort := (shortStrings_of_run hrun).scripts tid _ hr
  cases r with
  | accounts s l =>
    cases hn
    exact UsernamesResponse.serialize_wellSized_iff _ s hshort
  | correspondents s l =>
    cases hn
    exact UsernamesResponse.serialize_wellSized_iff _ s hshort
  | recvTxt s c =>
    cases hn
    exact RecvTxtResponse.serialize_wellSized_iff s hshort
  | _ => cases hn

/-- The number of bytes that the serializer of a response copies into the body. -/
def Response.copied (r : Response) : ℕ := bytesWritten r.serialize.bodyWrites

/-- A response stays inside its block exactly when the bytes that are copied into the body are counted
right in 32 bits. -/
lemma Response.fits_iff (r : Response) :
    (∀ w ∈ r.serialize.writes, w.Fits r.serialize.totalLen) ↔ r.copied < 2 ^ 32 := by
  have hstatus (type : MessageType) (statCode : StatusCode) :
      (∀ w ∈ (StatusResponse.serialize type statCode).writes,
          w.Fits (StatusResponse.serialize type statCode).totalLen) ↔
        bytesWritten (StatusResponse.serialize type statCode).bodyWrites < 2 ^ 32 :=
    iff_of_true (by simp [StatusResponse.serialize, Message.writes, Message.build, Write.Fits,
      Write.shift, MessageHeader.size])
      (by simp [StatusResponse.serialize, Message.build])
  cases r with
  | accounts s l => exact UsernamesResponse.fits_iff _ s l
  | correspondents s l => exact UsernamesResponse.fits_iff _ s l
  | recvTxt s c => exact RecvTxtResponse.fits_iff s c
  | wrongVersion v =>
    exact iff_of_true (by simp [Response.serialize, WrongVersionResponse.serialize, Message.writes,
      Message.build, Write.Fits, Write.shift, MessageHeader.size])
      (by simp [Response.copied, Response.serialize, WrongVersionResponse.serialize, Message.build])
  | invalidType => exact iff_of_true (by decide) (by decide)
  | invalidBody => exact iff_of_true (by decide) (by decide)
  | registration s | login s | logout s | sendTxt s | delete s => exact hstatus _ s

/-- A name, and a password, that pass the checks. -/
def writer : ByteString := [97, 97, 97, 97]

/-- One user registers and logs in. -/
def signUp : List Action :=
  [.accept 0, .receive 0 1 101 (pairBody writer writer), .call 0, .respond 0 true,
    .receive 0 1 102 (pairBody writer writer), .call 0, .call 0, .respond 0 true]

/-- The logged-in user sends a text to itself and asks for the chat. -/
def selfTalk (txt : ByteString) : List Action :=
  [.receive 0 1 105 (pairBody writer txt), .call 0, .call 0, .respond 0 true,
    .receive 0 1 106 (leBytes 4 4 ++ writer), .call 0, .call 0]

/-- A chat with one short text is sent in a well-sized response. -/
theorem responses_wellSized_hello :
    ∃ w r, run serverStep (signUp ++ selfTalk [104]) .initial = .ok w ∧
      w.phase 0 = .handling (.respond r) ∧ (r.serialize.WellSized ↔ 20 < 2 ^ 32) :=
  ⟨_, .recvTxt 0 ⟨[⟨0, [104]⟩, ⟨1, [104]⟩]⟩, rfl, rfl,
    @responses_wellSized_iff (signUp ++ selfTalk [104]) _ rfl 0 _ rfl _ rfl⟩

/-- After a user has sent itself any text that fits into one request, the thread is about to
respond with that text twice. -/
lemma run_selfTalk (txt : ByteString) (htxt : txt.length + 12 < 2 ^ 32) :
    ∃ w, run serverStep (signUp ++ selfTalk txt) .initial = .ok w ∧
      w.phase 0 = .handling (.respond (.recvTxt StatusCode.ok
        ⟨[⟨Text.senderYou, txt⟩, ⟨Text.senderOther, txt⟩]⟩)) := by
  obtain ⟨w, hsignUp, hdb, hphase⟩ : ∃ w, run serverStep signUp .initial = .ok w ∧
      w.db = ⟨(∅ : Users).insertIfNew writer ⟨writer, writer, ∅⟩,
        (∅ : Std.ExtTreeSet ByteString compare).insert writer,
        (∅ : ExtTreeMap ThreadId ByteString compare).insertIfNew 0 writer⟩ ∧
      w.phase 0 = .receiving := ⟨_, rfl, rfl, rfl⟩
  have hbody : (pairBody writer txt).length < 2 ^ 32 := by
    simp only [pairBody, List.length_append, length_leBytes, writer, List.length_cons,
      List.length_nil]
    omega
  -- The text is too long to compute with, so its decoding goes through the lemma.
  have hreceive : serverStep (.receive 0 1 105 (pairBody writer txt)) w =
      .ok (none, w.withPhase 0 (.handling (.requireLogin (.sendTxt StatusCode.unauthorized)
        (.call (.sendTxt writer txt) fun reply =>
          if reply.isOk then .respond (.sendTxt StatusCode.ok)
          else .respond (.sendTxt StatusCode.userNoexist))))) := by
    have hhandle : handleMessage 105 (pairBody writer txt) = handleSendTxt (pairBody writer txt) :=
      handleMessage_sendTxt _
    simp only [serverStep, hphase]
    rw [if_neg (by decide), if_pos hbody, hhandle, handleSendTxt, SendTxtRequest.deserialize,
      PairRequest.deserialize_pairBody (by decide) (by omega)]
    rfl
  obtain ⟨db, phase⟩ := w
  subst hdb
  exact ⟨_, by rw [run_append hsignUp, selfTalk, run_cons hreceive]; rfl, rfl⟩

/-- A user who sends itself `2 ^ 31` bytes gets a response whose header announces 18 bytes, while
`2 ^ 32 + 18` are written. -/
theorem selfTalk_misSized :
    ∃ w c, run serverStep (signUp ++ selfTalk (List.replicate (2 ^ 31) 104)) .initial = .ok w ∧
      w.phase 0 = .handling (.respond (.recvTxt StatusCode.ok c)) ∧
      ¬ (Response.recvTxt StatusCode.ok c).serialize.WellSized := by
  have hlen : (List.replicate (2 ^ 31) (104 : UInt8)).length = 2 ^ 31 := List.length_replicate
  obtain ⟨w, hrun, hphase⟩ := run_selfTalk (List.replicate (2 ^ 31) 104) (by omega)
  generalize List.replicate (2 ^ 31) (104 : UInt8) = txt at hlen hrun hphase
  refine ⟨w, _, hrun, hphase, ?_⟩
  intro hsized
  have hsize := (RecvTxtResponse.serialize_wellSized_iff _
    ((shortStrings_of_run hrun).scripts 0 _ hphase)).mp hsized
  simp only [RecvTxtResponse.bodySize, if_true, List.map_cons, List.map_nil, List.sum_cons,
    List.sum_nil, hlen] at hsize
  omega

end Chat262
