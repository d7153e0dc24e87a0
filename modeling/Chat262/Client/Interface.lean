import Chat262.Client.Calls
import Chat262.Server.Connection

/-!
# The terminal interface

`interface.cc`: the screens, the loops that read the keyboard, and the loop of `interface::start`
that goes from screen to screen and calls the client.  What is drawn is left out; what the drawing
reads, the members of the class, is kept.

A round of the loop is interrupted by the calls of the client, so `Interface.iteration` is a `Plan`:
a tree of calls, each followed by what `start` does with the status and the out parameters that the
call leaves.  `sessionStep` runs the interface against the server: the interface goes round its
loop, a call sends its request and later receives its response, and in between the connection's
thread and all the other threads of the server do what they do.
-/

namespace Chat262

open Foundation

/-! ## The keyboard -/

/-- `interface::keypress`. -/
inductive Keypress where
  | regular (c : UInt8)
  | escape
  | enter
  | backspace
  | upArrow
  | downArrow
  | unknown
deriving DecidableEq, Repr

/-- `user_choice`. -/
abbrev UserChoice := UInt32

/-- `ESCAPE`. -/
def UserChoice.escape : UserChoice := 4294967295

/-- The selection above another one among `n`, or the last one. -/
def UserChoice.up (n : ℕ) (selection : UserChoice) : UserChoice :=
  if selection = 0 then UInt32.ofNat (n - 1) else UInt32.ofNat ((selection - 1).toNat % n)

/-- The selection below another one among `n`, or the first one. -/
def UserChoice.down (n : ℕ) (selection : UserChoice) : UserChoice :=
  UInt32.ofNat ((selection + 1).toNat % n)

/-- The loop of `interface::make_selection` among `n` choices.  As for every function that reads
keys, the result has the keys that are left, and is `none` when there are too few. -/
def makeSelection (n : ℕ) : UserChoice → List Keypress → Option (UserChoice × List Keypress)
  | _, [] => none
  | _, .escape :: keys => some (UserChoice.escape, keys)
  | selection, .upArrow :: keys => makeSelection n (selection.up n) keys
  | selection, .downArrow :: keys => makeSelection n (selection.down n) keys
  | selection, .enter :: keys => some (selection, keys)
  | selection, .regular c :: keys =>
    -- `w` or `W`, and `s` or `S`.
    if c = 119 ∨ c = 87 then makeSelection n (selection.up n) keys
    else if c = 115 ∨ c = 83 then makeSelection n (selection.down n) keys
    else makeSelection n selection keys
  | selection, .backspace :: keys | selection, .unknown :: keys => makeSelection n selection keys

/-- The loop of `interface::get_user_string`: the string, and the value of `hit_escape_`. -/
def getUserString (minLen maxLen : ℕ) :
    ByteString → List Keypress → Option (ByteString × Bool × List Keypress)
  | _, [] => none
  | input, .backspace :: keys => getUserString minLen maxLen input.dropLast keys
  | input, .enter :: keys =>
    if input.length ≥ minLen ∧ input.length ≤ maxLen then some (input, false, keys)
    else getUserString minLen maxLen [] keys
  | input, .regular c :: keys => getUserString minLen maxLen (input ++ [c]) keys
  | input, .escape :: keys => some (input, true, keys)
  | input, .upArrow :: keys | input, .downArrow :: keys | input, .unknown :: keys =>
    getUserString minLen maxLen input keys

/-- The loop of `interface::get_user_txt`: the text, and the value of `hit_escape_`. -/
def getUserTxt : ByteString → List Keypress → Option (ByteString × Bool × List Keypress)
  | _, [] => none
  | txt, .backspace :: keys => getUserTxt txt.dropLast keys
  | txt, .enter :: keys => some (txt, false, keys)
  | txt, .regular c :: keys => getUserTxt (txt ++ [c]) keys
  | txt, .escape :: keys => some (txt, true, keys)
  | txt, .upArrow :: keys | txt, .downArrow :: keys | txt, .unknown :: keys => getUserTxt txt keys

/-- A string is read from at least one key. -/
lemma length_getUserString {minLen maxLen : ℕ} {input username : ByteString} {hitEscape : Bool}
    {keys rest : List Keypress}
    (h : getUserString minLen maxLen input keys = some (username, hitEscape, rest)) :
    rest.length < keys.length := by
  fun_induction getUserString minLen maxLen input keys with
  | case1 => cases h
  | case3 | case6 =>
    cases h
    exact Nat.lt_succ_self _
  | case4 input keys hlen ih => exact (ih h).trans (Nat.lt_succ_self _)
  | case2 input keys ih | case5 input c keys ih | case7 input keys ih | case8 input keys ih
    | case9 input keys ih => exact (ih h).trans (Nat.lt_succ_self _)

/-- A string that is entered has the length that is asked for. -/
lemma length_of_getUserString {minLen maxLen : ℕ} {input s : ByteString} {hitEscape : Bool}
    {keys rest : List Keypress}
    (h : getUserString minLen maxLen input keys = some (s, hitEscape, rest))
    (hentered : hitEscape = false) : minLen ≤ s.length ∧ s.length ≤ maxLen := by
  fun_induction getUserString minLen maxLen input keys with
  | case1 => cases h
  | case3 input keys hlen =>
    cases h
    exact hlen
  | case6 => cases h; cases hentered
  | case4 input keys hlen ih => exact ih h
  | case2 input keys ih | case5 input c keys ih | case7 input keys ih | case8 input keys ih
    | case9 input keys ih => exact ih h

/-! ## The members -/

/-- `interface::screen_type`. -/
inductive ScreenType where
  | loginRegistration
  | login
  | loginFail
  | registration
  | registrationSuccess
  | registrationFail
  | mainMenu
  | searchAccounts
  | searchAccountsSuccess
  | searchAccountsFail
  | openChats
  | openChatsSuccess
  | openChatsFail
  | newChat
  | recvTxt
  | recvTxtFail
  | sendTxt
  | sendTxtFail
  | deleteAccount
  | deleteAccountSuccess
  | deleteAccountFail
  | exit
deriving DecidableEq, Repr

/-- The members of `interface` that its functions read and write, and the keys that the user is
still going to press. -/
structure Interface where
  /-- `next_`. -/
  next : ScreenType
  /-- `stat_code_`. -/
  statCode : StatusCode
  /-- `curr_chat_`. -/
  currChat : Chat
  /-- `username_`. -/
  username : ByteString
  /-- `password_`. -/
  password : ByteString
  /-- `pattern_`. -/
  pattern : ByteString
  /-- `matched_usernames_`. -/
  matchedUsernames : List ByteString
  /-- `all_correspondents_`. -/
  allCorrespondents : List ByteString
  /-- `correspondent_`. -/
  correspondent : ByteString
  /-- `partial_txt_`. -/
  partialTxt : ByteString
  /-- `hit_escape_`. -/
  hitEscape : Bool
  keys : List Keypress
deriving DecidableEq, Repr

namespace Interface

/-- `next_ = next`. -/
def goto (i : Interface) (next : ScreenType) : Interface := { i with next := next }

/-- `interface::make_selection`, with `n` choices. -/
def makeSelection (n : ℕ) (i : Interface) : Option (UserChoice × Interface) :=
  (Chat262.makeSelection n 0 i.keys).map fun (choice, keys) => (choice, { i with keys := keys })

/-- `interface::get_user_string`. -/
def getUserString (minLen maxLen : ℕ) (i : Interface) : Option (ByteString × Interface) :=
  (Chat262.getUserString minLen maxLen [] i.keys).map fun (input, hitEscape, keys) =>
    (input, { i with hitEscape := hitEscape, keys := keys })

/-- `interface::get_user_txt`. -/
def getUserTxt (i : Interface) : Option Interface :=
  (Chat262.getUserTxt i.partialTxt i.keys).map fun (txt, hitEscape, keys) =>
    { i with partialTxt := txt, hitEscape := hitEscape, keys := keys }

/-- `interface::wait_anykey`. -/
def waitAnykey (i : Interface) : Option Interface :=
  match i.keys with
  | [] => none
  | _ :: keys => some { i with keys := keys }

/-- The end of `interface::login` and of `interface::registration`, with the username entered. -/
def enterPassword (i : Interface) : Option Interface :=
  if i.hitEscape then some i
  else (i.getUserString 4 60).map fun (password, i) => { i with password := password }

/-- `interface::login`. -/
def login (i : Interface) : Option Interface :=
  (i.getUserString 4 40).bind fun (username, i) => { i with username := username }.enterPassword

/-- The loop of `interface::registration`. -/
def enterUsername (i : Interface) : Option Interface :=
  match _h : i.getUserString 4 40 with
  | none => none
  | some (username, i') =>
    if star ∈ username ∨ space ∈ username then { i' with username := username }.enterUsername
    else some { i' with username := username }
termination_by i.keys.length
decreasing_by
  obtain ⟨⟨input, hitEscape, keys⟩, hread, hi⟩ := Option.map_eq_some_iff.mp _h
  cases hi
  exact length_getUserString hread

/-- `interface::registration`. -/
def registration (i : Interface) : Option Interface := i.enterUsername.bind enterPassword

/-- `interface::search_accounts`. -/
def searchAccounts (i : Interface) : Option Interface :=
  (i.getUserString 1 40).map fun (pattern, i) => { i with pattern := pattern }

/-- `interface::new_chat`. -/
def newChat (i : Interface) : Option Interface :=
  (i.getUserString 4 40).map fun (correspondent, i) => { i with correspondent := correspondent }

end Interface

/-! ## The loop of `interface::start` -/

/-- What is left of a round of the loop. -/
inductive Plan : Type 1 where
  | done (i : Interface)
  /-- `start` returns this status. -/
  | stop (s : Status)
  /-- Undefined behaviour: an index is out of range. -/
  | fault
  /-- A call of the client with these out parameters, and what follows with its status and the
  values that it leaves. -/
  | call {α : Type} (call : ClientCall α) (statCode : StatusCode) (out : α)
      (next : Status → StatusCode → α → Plan)

/-- A call after which `start` returns unless the status is `ok`. -/
def Plan.checked {α : Type} (call : ClientCall α) (statCode : StatusCode) (out : α)
    (next : StatusCode → α → Plan) : Plan :=
  .call call statCode out fun s statCode out => if s ≠ .ok then .stop s else next statCode out

/-- The calls of `interface::background_listener`, whose timer runs out `n` times: the status that
they return is not looked at. -/
def Plan.listen (sender : ByteString) : ℕ → StatusCode → Chat → (StatusCode → Chat → Plan) → Plan
  | 0, statCode, c, next => next statCode c
  | n + 1, statCode, c, next =>
    .call (Client.recvTxt sender) statCode c fun _ statCode c =>
      Plan.listen sender n statCode c next

namespace Interface

/-- The call of `client::login` in `interface::start`. -/
def callLogin (i : Interface) : Plan :=
  .checked (Client.login i.username i.password) i.statCode () fun statCode _ =>
    .done ({ i with statCode := statCode }.goto
      (if statCode = StatusCode.ok then .mainMenu else .loginFail))

/-- The end of `case screen_type::send_txt`, when the background listener has ended. -/
def callSendTxt (i : Interface) : Plan :=
  if i.hitEscape then .done (i.goto .openChats)
  else
    .checked (Client.sendTxt i.correspondent i.partialTxt) i.statCode () fun statCode _ =>
      if statCode ≠ StatusCode.ok then .done ({ i with statCode := statCode }.goto .sendTxtFail)
      else
        .checked (Client.recvTxt i.correspondent) statCode i.currChat fun statCode c =>
          .done ({ i with statCode := statCode, currChat := c }.goto
            (if statCode ≠ StatusCode.ok then .recvTxtFail else i.next))

/-- A round of the loop of `interface::start`, where the timer of the background listener runs out
`listened` times if there is one. -/
def iteration (listened : ℕ) (i : Interface) : Option Plan :=
  match i.next with
  | .loginRegistration => (i.makeSelection 3).map fun (choice, i) =>
    .done (i.goto
      (if choice = 0 then .login
      else if choice = 1 then .registration
      else if choice = 2 ∨ choice = UserChoice.escape then .exit
      else i.next))
  | .login => i.login.map fun i =>
    if i.hitEscape then .done (i.goto .loginRegistration) else i.callLogin
  | .loginFail => (i.makeSelection 2).map fun (choice, i) =>
    .done (i.goto
      (if choice = 0 then .login
      else if choice = 1 ∨ choice = UserChoice.escape then .loginRegistration
      else i.next))
  | .registration => i.registration.map fun i =>
    if i.hitEscape then .done (i.goto .loginRegistration)
    else
      .checked (Client.registration i.username i.password) i.statCode () fun statCode _ =>
        .done ({ i with statCode := statCode }.goto
          (if statCode = StatusCode.ok then .registrationSuccess else .registrationFail))
  | .registrationSuccess => some i.callLogin
  | .registrationFail => (i.makeSelection 2).map fun (choice, i) =>
    .done (i.goto
      (if choice = 0 then .registration
      else if choice = 1 ∨ choice = UserChoice.escape then .loginRegistration
      else i.next))
  | .mainMenu => (i.makeSelection 4).map fun (choice, i) =>
    if choice = 0 then .done (i.goto .openChats)
    else if choice = 1 then .done (i.goto .searchAccounts)
    else if choice = 2 then .done (i.goto .deleteAccount)
    else if choice = 3 ∨ choice = UserChoice.escape then
      -- When the status code is not OK, `next_` stays what it is.
      .checked Client.logout i.statCode () fun statCode _ =>
        .done ({ i with statCode := statCode }.goto
          (if statCode = StatusCode.ok then .loginRegistration else i.next))
    else .done i
  | .openChats => some
    (.checked Client.recvCorrespondents i.statCode i.allCorrespondents fun statCode l =>
      .done ({ i with statCode := statCode, allCorrespondents := l }.goto
        (if statCode = StatusCode.ok then .openChatsSuccess else .openChatsFail)))
  | .openChatsSuccess =>
    (i.makeSelection (i.allCorrespondents.length + 2)).map fun (choice, i) =>
      if choice = 0 then .done (i.goto .newChat)
      else if choice = 1 ∨ choice = UserChoice.escape then .done (i.goto .mainMenu)
      else
        match i.allCorrespondents[(choice - 2).toNat]? with
        | none => .fault
        | some correspondent => .done ({ i with correspondent := correspondent }.goto .recvTxt)
  | .openChatsFail => i.waitAnykey.map fun i => .done (i.goto .mainMenu)
  | .newChat => i.newChat.map fun i =>
    .done (i.goto (if i.hitEscape then .openChats else .recvTxt))
  | .recvTxt => some
    (.checked (Client.recvTxt i.correspondent) i.statCode i.currChat fun statCode c =>
      .done ({ i with statCode := statCode, currChat := c }.goto
        (if statCode = StatusCode.ok then .sendTxt else .recvTxtFail)))
  | .recvTxtFail => i.waitAnykey.map fun i => .done (i.goto .openChats)
  | .sendTxt => (getUserTxt { i with partialTxt := [] }).map fun i =>
    -- The listener writes to `stat_code_` and `curr_chat_` while the text is typed.
    .listen i.correspondent listened i.statCode i.currChat fun statCode c =>
      { i with statCode := statCode, currChat := c }.callSendTxt
  | .sendTxtFail => i.waitAnykey.map fun i => .done (i.goto .openChats)
  | .searchAccounts => i.searchAccounts.map fun i =>
    if i.hitEscape then .done (i.goto .mainMenu)
    else
      .checked (Client.listAccounts i.pattern) i.statCode i.matchedUsernames fun statCode l =>
        .done ({ i with statCode := statCode, matchedUsernames := l }.goto
          (if statCode = StatusCode.ok then .searchAccountsSuccess else .searchAccountsFail))
  | .searchAccountsSuccess => i.waitAnykey.map fun i => .done (i.goto .searchAccounts)
  | .searchAccountsFail => i.waitAnykey.map fun i => .done (i.goto .mainMenu)
  | .deleteAccount => (i.makeSelection 2).map fun (choice, i) =>
    if choice = 0 ∨ choice = UserChoice.escape then .done (i.goto .mainMenu)
    else if choice = 1 then
      .checked Client.deleteAccount i.statCode () fun statCode _ =>
        .done ({ i with statCode := statCode }.goto
          (if statCode = StatusCode.ok then .deleteAccountSuccess else .deleteAccountFail))
    else .done i
  | .deleteAccountSuccess => i.waitAnykey.map fun i => .done (i.goto .loginRegistration)
  | .deleteAccountFail => i.waitAnykey.map fun i => .done (i.goto .mainMenu)
  | .exit => some (.stop .ok)

end Interface

/-! ## The interface and the server -/

/-- Where the interface stands. -/
inductive Control : Type 1 where
  | doing (plan : Plan)
  /-- In a call of the client, whose request has been sent. -/
  | awaiting {α : Type} (call : ClientCall α) (statCode : StatusCode) (out : α)
      (next : Status → StatusCode → α → Plan)

/-- The interface, the server and the connection between them. -/
structure Session : Type 1 where
  control : Control
  link : Linked

/-- The interface with the members `i` at the head of its loop, and a server that has just accepted
the connection. -/
def Session.start (w : ServerState) (i : Interface) : Session :=
  ⟨.doing (.done (i.goto .loginRegistration)), ⟨w, [], []⟩⟩

/-- What can happen next. -/
inductive SessionEvent where
  /-- The interface begins the next round of its loop. -/
  | iterate (listened : ℕ)
  /-- A call builds its request in a block that held `block` before, and sends it. -/
  | send (block : ByteString) (results : List SendResult)
  | receive (results : List RecvResult)
  /-- The connection's thread, or another thread of the server, takes a step. -/
  | server (action : LinkAction)

/-- One step, where the connection has the thread `tid`.  The reply is the status of the client call
that returns, if one does. -/
def sessionStep (tid : ThreadId) (e : SessionEvent) (s : Session) :
    Except Halt (Option Status × Session) :=
  match e with
  | .iterate listened =>
    match s.control with
    | .doing (.done i) =>
      match i.iteration listened with
      | none => .error .disabled
      | some plan => .ok (none, { s with control := .doing plan })
    | _ => .error .disabled
  | .send block results =>
    match s.control with
    | .doing (.call call statCode out next) =>
      if block.length ≠ call.request.totalLen then .error .disabled
      else
        match call.send block results with
        | none => .error .disabled
        | some (.error f) => .error (.fault f)
        | some (.ok (st, sent)) =>
          let link := { s.link with toServer := s.link.toServer ++ sent }
          if st ≠ .ok then .ok (some st, ⟨.doing (next st statCode out), link⟩)
          else .ok (none, ⟨.awaiting call statCode out next, link⟩)
    | _ => .error .disabled
  | .receive results =>
    match s.control with
    | .awaiting call statCode out next =>
      match call.receive statCode out s.link.toClient results with
      | none => .error .disabled
      | some (.error f, _) => .error (.fault f)
      | some (.ok (st, statCode', out'), unread) =>
        .ok (some st, ⟨.doing (next st statCode' out'), { s.link with toClient := unread }⟩)
    | _ => .error .disabled
  | .server action =>
    match linkStep tid action s.link with
    | .error h => .error h
    | .ok (_, link) => .ok (none, { s with link := link })

end Chat262
