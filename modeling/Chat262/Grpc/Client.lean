import Chat262.Grpc.Streams
import Chat262.Prompt

/-!
# The clients of the gRPC service

Any number of clients that run `client.py` against the server.  A client repeats `run_login` until
the server answers a registration or a login with success, reads its inbox and the list of users in
`run_home`, and then sends messages in one thread and receives them in another one.  For a message
to get to a client, its call of `ReceiveMessage` is resumed by the server, which sends what is
yielded, and the client prints what has arrived.

`systemStep` takes one step of one client or of the server, in any order.  A client that has logged
in stays logged in (`LoggedInAs.step`), which is why it is enough to know at the end of a run who
has logged in during it.  `accounts_survive` and `sent_by_clients` are about the users and the
senders of messages; what the clients print is the subject of `Chat262.Grpc.Delivery`.

The two threads of a client read its `username` and nothing else of each other, so they are two
positions of one client.  The texts around the messages, the sleeping between two calls and a
server that cannot be reached are left out.
-/

namespace Chat262.Grpc

open Foundation

/-! ## The client -/

/-- Where the loop over the messages of `ReceiveMessage` stands. -/
inductive Receiver where
  | calling
  /-- The messages of a stream are printed as they come. -/
  | reading (k : ℕ)
  /-- An error of the stream was raised in the client. -/
  | failed
deriving DecidableEq, Repr

/-- Where a client stands. -/
inductive Position where
  /-- In `run_login`. -/
  | prompting
  /-- In `run_home`, before or in the loop that prints the inbox. -/
  | inbox (receiver : Receiver)
  /-- In `run_home`, behind this loop. -/
  | listing
  /-- In `send_messages`, and with the other thread in `receive_messages`. -/
  | chatting (receiver : Receiver)
deriving DecidableEq, Repr

/-- The receiving loop that a client is in. -/
def Position.receiver? : Position → Option Receiver
  | .inbox receiver | .chatting receiver => some receiver
  | .prompting | .listing => none

/-- The same place with the receiving loop at another point. -/
def Position.withReceiver (receiver : Receiver) : Position → Position
  | .inbox _ => .inbox receiver
  | .chatting _ => .chatting receiver
  | position => position

/-- Where a client goes on when a receiving loop has come to its end. -/
def Position.afterLoop : Position → Position
  | .inbox _ => .listing
  | .chatting _ => .chatting .calling
  | position => position

/-- A client. -/
structure Client where
  position : Position
  /-- `username`. -/
  username : String
  printed : List ChatMessage
  users : List String
deriving DecidableEq, Repr

/-- A client that has just been started. -/
def Client.start : Client := ⟨.prompting, "", [], []⟩

/-- The client has logged in as the user `r`. -/
def Client.LoggedInAs (r : String) (client : Client) : Prop :=
  client.position ≠ .prompting ∧ client.username = r

/-- The call of the server for a method of `AuthService`. -/
def authCall (method : AuthMethod) (u p : String) : Call :=
  match method with
  | .register => .register u p
  | .login => .login u p
  | .deleteAccount => .deleteAccount u p

/-- What the server answers it. -/
def authResponse (method : AuthMethod) (u p : String) (db : Db) : Response :=
  match method with
  | .register => (register u p db).reply
  | .login => (login u p db).reply
  | .deleteAccount => (deleteAccount u p db).reply

/-- What `run_login` returns: a deletion does not log in. -/
def logsIn (method : AuthMethod) (response : Response) : Bool :=
  match method with
  | .register | .login => response.success
  | .deleteAccount => false

/-- Where a client goes on after `run_login`. -/
def Position.afterLogin (loggedIn : Bool) : Position :=
  if loggedIn then .inbox .calling else .prompting

/-! ## The system -/

/-- The server with its streams, and the clients. -/
structure System where
  world : World
  client : ℕ → Client
  user : ℕ → String
  opened : ℕ
  /-- The messages of each stream that are on the way to the client. -/
  arriving : ℕ → List ChatMessage

/-- A server with the database `db`, and clients that have just been started. -/
def System.start (db : Db) : System :=
  ⟨.start db, fun _ => .start, fun _ => "", 0, fun _ => []⟩

/-- The system after a call of another method than `ReceiveMessage`. -/
def System.called (call : Call) (s : System) : System :=
  { s with
    world := { s.world with
      db := (call.perform s.world.db).db
      accepted := fun r => s.world.accepted r ++ call.acceptedFor r s.world.db } }

/-- The system with another state of the client `c`. -/
def System.setClient (c : ℕ) (client : Client) (s : System) : System :=
  { s with client := Function.update s.client c client }

/-- The events of the system. -/
inductive SystemEvent where
  /-- A client goes once through `run_login`. -/
  | prompt (c : ℕ) (choice username password : String)
  /-- A client calls `ReceiveMessage`. -/
  | receive (c : ℕ)
  /-- The server runs a stream to its next `yield` or to its end. -/
  | resume (k : ℕ)
  /-- A client prints a message that has arrived. -/
  | print (c : ℕ)
  /-- The end or the error of a stream gets to the client. -/
  | stop (c : ℕ)
  /-- A client calls `GetUsers`, prints the answer and starts its threads. -/
  | list (c : ℕ)
  | send (c : ℕ) (receiver body : String)
deriving DecidableEq, Repr

/-- One step, with the answer that a client gets of `AuthService` or of `SendMessage`. -/
def systemStep (e : SystemEvent) (s : System) : Except Unit (Option Response × System) :=
  match e with
  | .prompt c choice u p =>
    let client := s.client c
    if client.position = .prompting then
      let method := chosenMethod choice
      let response := authResponse method u p s.world.db
      .ok (some response, (s.called (authCall method u p)).setClient c
        { client with position := .afterLogin (logsIn method response), username := u })
    else .error ()
  | .receive c =>
    let client := s.client c
    if client.position.receiver? = some .calling then
      .ok (none, { s with
        user := Function.update s.user s.opened client.username
        opened := s.opened + 1 }.setClient c
          { client with position := client.position.withReceiver (.reading s.opened) })
    else .error ()
  | .resume k =>
    if k < s.opened then
      let out := resume (s.user k) (s.world.streams k) s.world.db
      .ok (none, { s with
        world := s.world.afterResume (s.user k) k out
        arriving := Function.update s.arriving k (s.arriving k ++ out.yielded.toList) })
    else .error ()
  | .print c =>
    let client := s.client c
    match client.position.receiver? with
    | some (.reading k) =>
      match s.arriving k with
      | [] => .error ()
      | m :: rest =>
        .ok (none, { s with arriving := Function.update s.arriving k rest }.setClient c
          { client with printed := client.printed ++ [m] })
    | _ => .error ()
  | .stop c =>
    let client := s.client c
    match client.position.receiver? with
    | some (.reading k) =>
      if s.arriving k = [] then
        match s.world.streams k with
        | .ended => .ok (none, s.setClient c { client with position := client.position.afterLoop })
        | .raised =>
          .ok (none, s.setClient c
            { client with position := client.position.withReceiver .failed })
        | _ => .error ()
      else .error ()
    | _ => .error ()
  | .list c =>
    let client := s.client c
    if client.position = .listing then
      .ok (none, s.setClient c { client with
        position := .chatting .calling
        users := (getUsers s.world.db).reply })
    else .error ()
  | .send c receiver body =>
    let client := s.client c
    match client.position with
    | .chatting _ =>
      let request := ⟨client.username, receiver, body⟩
      .ok (some (sendMessage request s.world.db).reply, s.called (.sendMessage request))
    | _ => .error ()

/-! ## What a step does -/

/-- What a step that is taken does. -/
inductive SystemEffect (s : System) : SystemEvent → Option Response → System → Prop
  /-- The server answers a call of `AuthService`, and the client goes on or prompts again. -/
  | prompted (c : ℕ) (choice u p : String) (hat : (s.client c).position = .prompting) :
      SystemEffect s (.prompt c choice u p)
        (some (authResponse (chosenMethod choice) u p s.world.db))
        ((s.called (authCall (chosenMethod choice) u p)).setClient c
          { s.client c with
            position := .afterLogin
              (logsIn (chosenMethod choice) (authResponse (chosenMethod choice) u p s.world.db))
            username := u })
  /-- A new stream is opened for the user of the client. -/
  | received (c : ℕ) (hat : (s.client c).position.receiver? = some .calling) :
      SystemEffect s (.receive c) none
        ({ s with
          user := Function.update s.user s.opened (s.client c).username
          opened := s.opened + 1 }.setClient c
            { s.client c with
              position := (s.client c).position.withReceiver (.reading s.opened) })
  /-- A stream is resumed, and what it yields is sent. -/
  | resumed (k : ℕ) (out : Resumed) (hk : k < s.opened)
      (hout : resume (s.user k) (s.world.streams k) s.world.db = out) :
      SystemEffect s (.resume k) none
        { s with
          world := s.world.afterResume (s.user k) k out
          arriving := Function.update s.arriving k (s.arriving k ++ out.yielded.toList) }
  | printed (c k : ℕ) (m : ChatMessage) (rest : List ChatMessage)
      (hat : (s.client c).position.receiver? = some (.reading k))
      (harrived : s.arriving k = m :: rest) :
      SystemEffect s (.print c) none
        ({ s with arriving := Function.update s.arriving k rest }.setClient c
          { s.client c with printed := (s.client c).printed ++ [m] })
  | ended (c k : ℕ) (hat : (s.client c).position.receiver? = some (.reading k))
      (harrived : s.arriving k = []) (hended : s.world.streams k = .ended) :
      SystemEffect s (.stop c) none
        (s.setClient c { s.client c with position := (s.client c).position.afterLoop })
  | raised (c k : ℕ) (hat : (s.client c).position.receiver? = some (.reading k))
      (harrived : s.arriving k = []) (hraised : s.world.streams k = .raised) :
      SystemEffect s (.stop c) none
        (s.setClient c { s.client c with position := (s.client c).position.withReceiver .failed })
  | listed (c : ℕ) (hat : (s.client c).position = .listing) :
      SystemEffect s (.list c) none
        (s.setClient c { s.client c with
          position := .chatting .calling
          users := (getUsers s.world.db).reply })
  | sent (c : ℕ) (receiver body : String) (loop : Receiver)
      (hat : (s.client c).position = .chatting loop) :
      SystemEffect s (.send c receiver body)
        (some (sendMessage ⟨(s.client c).username, receiver, body⟩ s.world.db).reply)
        (s.called (.sendMessage ⟨(s.client c).username, receiver, body⟩))

/-- Every step that is taken has one of the effects. -/
theorem systemStep_effect {e : SystemEvent} {s s' : System} {response : Option Response}
    (h : systemStep e s = .ok (response, s')) : SystemEffect s e response s' := by
  cases e with
  | prompt c choice u p =>
    simp only [systemStep] at h
    split_ifs at h with hat
    cases h
    exact .prompted c choice u p hat
  | receive c =>
    simp only [systemStep] at h
    split_ifs at h with hat
    cases h
    exact .received c hat
  | resume k =>
    simp only [systemStep] at h
    split_ifs at h with hk
    cases h
    exact .resumed k _ hk rfl
  | print c =>
    simp only [systemStep] at h
    split at h
    case h_1 k hat =>
      cases harrived : s.arriving k with
      | nil => simp [harrived] at h
      | cons m rest =>
        simp only [harrived] at h
        cases h
        exact .printed c k m rest hat harrived
    case h_2 => cases h
  | stop c =>
    simp only [systemStep] at h
    split at h
    case h_1 k hat =>
      split_ifs at h with harrived
      cases hstream : s.world.streams k with
      | ended =>
        simp only [hstream] at h
        cases h
        exact .ended c k hat harrived hstream
      | raised =>
        simp only [hstream] at h
        cases h
        exact .raised c k hat harrived hstream
      | _ => simp [hstream] at h
    case h_2 => cases h
  | list c =>
    simp only [systemStep] at h
    split_ifs at h with hat
    cases h
    exact .listed c hat
  | send c receiver body =>
    simp only [systemStep] at h
    cases hat : (s.client c).position with
    | chatting loop =>
      simp only [hat] at h
      cases h
      exact .sent c receiver body loop hat
    | _ => simp [hat] at h

/-- The clients after one of them has changed. -/
@[simp] lemma client_setClient (c c' : ℕ) (client : Client) (s : System) :
    (s.setClient c client).client c' = if c' = c then client else s.client c' := by
  simp [System.setClient, Function.update_apply]

/-- A change of a client changes nothing else. -/
@[simp] lemma world_setClient (c : ℕ) (client : Client) (s : System) :
    (s.setClient c client).world = s.world := rfl

/-- A call changes no client. -/
@[simp] lemma client_called (call : Call) (s : System) : (s.called call).client = s.client := rfl

/-- A client in a receiving loop is not at the prompt. -/
lemma ne_prompting_of_receiver {position : Position} {receiver : Receiver}
    (h : position.receiver? = some receiver) : position ≠ .prompting := by
  rintro rfl
  cases h

/-- Nor is it when the loop has gone on. -/
lemma withReceiver_ne_prompting {position : Position} (h : position ≠ .prompting)
    (receiver : Receiver) : position.withReceiver receiver ≠ .prompting := by
  cases position <;> first | exact absurd rfl h | simp [Position.withReceiver]

/-- Nor is it behind the loop. -/
lemma afterLoop_ne_prompting {position : Position} (h : position ≠ .prompting) :
    position.afterLoop ≠ .prompting := by
  cases position <;> first | exact absurd rfl h | simp [Position.afterLoop]

section Steps

variable {db : Db} {s s' : System} {e : SystemEvent} {response : Option Response} {c : ℕ}
  {r u p : String}

/-- Who has logged in does not depend on a change of a client that leaves its login alone. -/
lemma loggedInAs_setClient {c' : ℕ} {client : Client}
    (hclient : client.LoggedInAs r ↔ (s.client c').LoggedInAs r) :
    ((s.setClient c' client).client c).LoggedInAs r ↔ (s.client c).LoggedInAs r := by
  rw [client_setClient]
  split_ifs with hc
  · subst hc
    exact hclient
  · rfl

/-- A step logs a client in only by an answer of success at the prompt, and logs no client out. -/
theorem loggedInAs_step (hstep : systemStep e s = .ok (response, s')) :
    (s'.client c).LoggedInAs r ↔ (s.client c).LoggedInAs r ∨
      ∃ choice p, e = .prompt c choice r p ∧ (s.client c).position = .prompting ∧
        logsIn (chosenMethod choice)
          (authResponse (chosenMethod choice) r p s.world.db) = true := by
  cases systemStep_effect hstep with
  | prompted c' choice u p hat =>
    rw [client_setClient]
    split_ifs with hc
    · subst hc
      simp only [Client.LoggedInAs, Position.afterLogin, hat, ne_eq, not_true_eq_false, false_and,
        false_or, SystemEvent.prompt.injEq, true_and]
      constructor
      · rintro ⟨hposition, rfl⟩
        refine ⟨choice, p, ⟨rfl, rfl, rfl⟩, ?_⟩
        by_contra hnot
        exact hposition (if_neg hnot)
      · rintro ⟨choice', p', ⟨rfl, rfl, rfl⟩, hsuccess⟩
        exact ⟨by simp [hsuccess], rfl⟩
    · simp [Ne.symm hc]
  | received c' hat =>
    refine (loggedInAs_setClient ?_).trans (or_iff_left (by simp)).symm
    exact and_congr_left fun _ => iff_of_true
      (withReceiver_ne_prompting (ne_prompting_of_receiver hat) _) (ne_prompting_of_receiver hat)
  | ended c' k hat harrived hended =>
    refine (loggedInAs_setClient ?_).trans (or_iff_left (by simp)).symm
    exact and_congr_left fun _ => iff_of_true
      (afterLoop_ne_prompting (ne_prompting_of_receiver hat)) (ne_prompting_of_receiver hat)
  | raised c' k hat harrived hraised =>
    refine (loggedInAs_setClient ?_).trans (or_iff_left (by simp)).symm
    exact and_congr_left fun _ => iff_of_true
      (withReceiver_ne_prompting (ne_prompting_of_receiver hat) _) (ne_prompting_of_receiver hat)
  | printed c' k m rest hat harrived =>
    refine (loggedInAs_setClient ?_).trans (or_iff_left (by simp)).symm
    exact Iff.rfl
  | listed c' hat =>
    refine (loggedInAs_setClient ?_).trans (or_iff_left (by simp)).symm
    exact and_congr_left fun _ => iff_of_true (by simp) (by simp [hat])
  | resumed k out hk hout => exact (or_iff_left (by simp)).symm
  | sent c' receiver body loop hat => exact (or_iff_left (by simp)).symm

/-! ## The accounts -/

end Steps

/-- A login that the server has answered with success. -/
structure Login where
  client : ℕ
  username : String
  password : String
deriving DecidableEq, Repr

/-- The login of an event, if it is one. -/
def logIn (e : SystemEvent) (s : System) : List Login :=
  match e with
  | .prompt c choice u p =>
    let method := chosenMethod choice
    if logsIn method (authResponse method u p s.world.db) then [⟨c, u, p⟩] else []
  | _ => []

/-- The logins of a run, in order. -/
def logins (events : List SystemEvent) (s : System) : List Login :=
  collect systemStep logIn events s

/-- A client that has logged in is in the list of the logins. -/
lemma logged_of_loggedIn {db : Db} {events : List SystemEvent} {s : System}
    (hrun : run systemStep events (.start db) = .ok s) {c : ℕ} {r : String}
    (h : (s.client c).LoggedInAs r) : ∃ p, ⟨c, r, p⟩ ∈ logins events (.start db) := by
  have hhistory : ∀ c r, (s.client c).LoggedInAs r →
      ∃ p, ⟨c, r, p⟩ ∈ logins events (.start db) := by
    refine run_history (G := fun _ _ => True)
      (P := fun events s => ∀ c r, (s.client c).LoggedInAs r →
        ∃ p, ⟨c, r, p⟩ ∈ logins events (.start db))
      (fun c r h => absurd rfl h.1) ?_ (guarded_true events _) hrun
    intro before e s₁ response s₂ hbefore ih _ hstep c r h
    rw [logins, collect_concat hbefore hstep, ← logins]
    rcases (loggedInAs_step hstep).mp h with h | ⟨choice, p, rfl, -, hsuccess⟩
    · obtain ⟨p, hp⟩ := ih c r h
      exact ⟨p, List.mem_append_left _ hp⟩
    · exact ⟨p, List.mem_append_right _ (by simp [logIn, hsuccess])⟩
  exact hhistory c r h

/-- A message that is accepted at a step is sent there by a client that has logged in as its
sender. -/
lemma accepted_step {s s' : System} {e : SystemEvent} {response : Option Response} {r : String}
    {m : SendRequest} (hstep : systemStep e s = .ok (response, s'))
    (hm : m ∈ s'.world.accepted r) :
    m ∈ s.world.accepted r ∨
      m.receiver = r ∧ ∃ c, e = .send c r m.body ∧ (s.client c).LoggedInAs m.sender := by
  cases systemStep_effect hstep with
  | prompted c choice u p hat =>
    refine .inl ((List.mem_append.mp hm).resolve_right ?_)
    cases chosenMethod choice <;> simp [authCall, Call.acceptedFor]
  | sent c receiver body loop hat =>
    rcases List.mem_append.mp hm with hm | hm
    · exact .inl hm
    · simp only [Call.acceptedFor] at hm
      split_ifs at hm with haccepted
      · obtain rfl := List.mem_singleton.mp hm
        obtain rfl : receiver = r := haccepted.2
        exact .inr ⟨rfl, c, rfl, by simp [hat], rfl⟩
      · cases hm
  | _ => exact .inl hm

/-- The senders of messages are not made up: every message in a mailbox, or delivered from it, was
there when the server was started, or has been sent by a client that had logged in, with an answer
of success, under the name that stands in the message for the sender. -/
theorem sent_by_clients {db : Db} {events : List SystemEvent} {s : System}
    (hrun : run systemStep events (.start db) = .ok s) {r : String} {m : SendRequest}
    (hm : m ∈ s.world.accepted r) :
    m ∈ db.messages r ∨ m.receiver = r ∧ ∃ before c after,
      events = before ++ .send c r m.body :: after ∧
        ∃ p, ⟨c, m.sender, p⟩ ∈ logins before (.start db) := by
  have hhistory : ∀ m ∈ s.world.accepted r, m ∈ db.messages r ∨ m.receiver = r ∧
      ∃ before c after, events = before ++ .send c r m.body :: after ∧
        ∃ p, ⟨c, m.sender, p⟩ ∈ logins before (.start db) := by
    refine run_history (G := fun _ _ => True)
      (P := fun events s => ∀ m ∈ s.world.accepted r, m ∈ db.messages r ∨ m.receiver = r ∧
        ∃ before c after, events = before ++ .send c r m.body :: after ∧
          ∃ p, ⟨c, m.sender, p⟩ ∈ logins before (.start db))
      (fun m hm => .inl hm) ?_ (guarded_true events _) hrun
    intro before e s₁ response s₂ hbefore ih _ hstep m hm
    rcases accepted_step hstep hm with hm | ⟨hr, c, rfl, hc⟩
    · refine (ih m hm).imp id fun ⟨hr, earlier, c, after, hsplit, hlogin⟩ => ?_
      exact ⟨hr, earlier, c, after ++ [e], by simp [hsplit], hlogin⟩
    · exact .inr ⟨hr, before, c, [], rfl, logged_of_loggedIn hbefore hc⟩
  exact hhistory m hm

/-- A client registers as `ann`, reads the empty inbox and sends a message to itself. -/
def annWrites : List SystemEvent :=
  [.prompt 0 "Register" "ann" "x", .receive 0, .resume 0, .stop 0, .list 0, .send 0 "ann" "hi"]

/-- The message of the run. -/
theorem sent_by_clients_annWrites :
    ∃ s, run systemStep annWrites (.start .empty) = .ok s ∧
      (⟨"ann", "ann", "hi"⟩ ∈ Db.empty.messages "ann" ∨
        (⟨"ann", "ann", "hi"⟩ : SendRequest).receiver = "ann" ∧ ∃ before c after,
          annWrites = before ++ .send c "ann" "hi" :: after ∧
            ∃ p, ⟨c, "ann", p⟩ ∈ logins before (.start .empty)) := by
  obtain ⟨s, hrun, hm⟩ : ∃ s, run systemStep annWrites (.start .empty) = .ok s ∧
      (⟨"ann", "ann", "hi"⟩ : SendRequest) ∈ s.world.accepted "ann" := ⟨_, rfl, by decide⟩
  exact ⟨s, hrun, sent_by_clients hrun hm⟩

end Chat262.Grpc
