import Chat262.Client.Interface

/-!
# The two threads of the chat screen

On the screen on which a text is typed, `interface::start` runs a second thread: while the main
thread reads keys in `get_user_txt`, `background_listener` asks for new texts each time that its
timer runs out, and draws the screen anew when there are some.  `mutex_` is held for each key and
for each drawing, but not while the listener waits for the server.

`ChatScreen` is where the two threads stand, the mutex, the members that they share and the
connection to the server, and `screenStep` one step of one thread, from one operation on the mutex
or on the condition variable to the next, or a step of the server: `run screenStep` is any
interleaving.  `ScreenEffect` says once what a step can do.

`Locked` is the invariant of the mutex.  From it follows that the output of the two threads is not
mixed and that there is no data race (`race_free`), and that the listener is never left in its wait
when it is to exit (`tearsDown`).
-/

namespace Chat262

open Foundation

/-! ## The threads -/

/-- Where the main thread is between the start of the listener and the end of its `join`. -/
inductive MainAt where
  /-- In `read_keypress`. -/
  | reading
  /-- It has read a key and locks `mutex_`. -/
  | locking (k : Keypress)
  /-- It does what the key stands for, and then unlocks `mutex_`. -/
  | handling (k : Keypress)
  /-- `get_user_txt` has returned, and it locks `mutex_`. -/
  | tearingDown
  /-- It sets `listener_should_exit_`. -/
  | flagging
  | notifying
  /-- It unlocks `mutex_`. -/
  | unlocking
  | joining
  /-- The listener has ended, and it goes on alone. -/
  | joined
deriving DecidableEq, Repr

/-- Where `background_listener` is. -/
inductive ListenerAt where
  /-- It locks `mutex_` for the first time. -/
  | locking
  | testing
  | arming
  /-- In `wait_until`, which has unlocked `mutex_`. -/
  | waiting
  /-- The wait is over, because of the timer or not, and it locks `mutex_` again. -/
  | waking (timedOut : Bool)
  /-- `wait_until` has returned. -/
  | woken (timedOut : Bool)
  /-- It has unlocked `mutex_`, and reads the number of texts. -/
  | sizing
  /-- In the call of the client, before the request. -/
  | calling (prevSize : ℕ)
  /-- In the call of the client, behind the request. -/
  | awaiting (prevSize : ℕ)
  /-- The call has returned, and it locks `mutex_`. -/
  | relocking (prevSize : ℕ)
  /-- It compares the number of texts, and draws the screen if that has changed. -/
  | comparing (prevSize : ℕ)
  | ended
deriving DecidableEq, Repr

/-- The two threads. -/
inductive ScreenThread where
  | main
  | listener
deriving DecidableEq, Repr

/-- The main thread holds `mutex_`. -/
def MainAt.holds : MainAt → Bool
  | .handling _ | .flagging | .notifying | .unlocking => true
  | _ => false

/-- The listener holds `mutex_`. -/
def ListenerAt.holds : ListenerAt → Bool
  | .testing | .arming | .woken _ | .comparing _ => true
  | _ => false

/-- The chat screen: its two threads, and what they share. -/
structure ChatScreen where
  main : MainAt
  listener : ListenerAt
  /-- The thread that holds `mutex_`. -/
  holder : Option ScreenThread
  /-- `listener_should_exit_`. -/
  shouldExit : Bool
  /-- The members of `interface`. -/
  members : Interface
  /-- What has been written to the standard output since it was cleared. -/
  output : ByteString
  link : Linked

/-! ## The output -/

/-- The bytes of an ASCII string. -/
def ascii (s : String) : ByteString := s.toList.map fun c => UInt8.ofNat c.toNat

/-- A text in `interface::draw_send_txt`. -/
def Interface.drawText (i : Interface) (t : Text) : ByteString :=
  if t.sender = Text.senderYou then
    i.username ++ ascii " (you): " ++ t.content ++ ascii "\n\n"
  else i.correspondent ++ ascii ": " ++ t.content ++ ascii "\n\n"

/-- What `interface::draw_send_txt` writes before the prompt, when the chat is `c`. -/
def Interface.drawChat (i : Interface) (c : Chat) : ByteString :=
  let line := List.replicate 80 61
  ascii "\n*** Chat262 ***\n\nYour chat with " ++ i.correspondent ++ ascii "\n\n" ++ line ++
    ascii "\n" ++
    (if c.texts.length = 0 then ascii "This chat is empty. Start chatting now!\n" else []) ++
    (c.texts.map i.drawText).flatten ++ line ++ ascii "\n\n" ++
    ascii "Type your message and press ENTER when you're done. Press ESC to cancel.\n\n"

/-- The prompt. -/
def prompt : ByteString := ascii "Chat262> "

/-- `interface::draw_send_txt`: what is written after the screen has been cleared. -/
def Interface.drawSendTxt (i : Interface) : ByteString :=
  i.drawChat i.currChat ++ prompt ++ i.partialTxt

namespace ChatScreen

/-- The listener has been started on a screen with the members `i`. -/
def start (i : Interface) (link : Linked) : ChatScreen where
  main := .reading
  listener := .locking
  holder := none
  shouldExit := false
  members := { i with partialTxt := [] }
  output := { i with partialTxt := [] }.drawSendTxt
  link := link

/-- Lock `mutex_`, which must be free. -/
def lock (thread : ScreenThread) (s : ChatScreen) : Option ChatScreen :=
  if s.holder = none then some { s with holder := some thread } else none

/-- The end of a round of the loop of `interface::get_user_txt`, whose lock is released. -/
def handle (k : Keypress) (s : ChatScreen) : ChatScreen :=
  match k with
  | .backspace =>
    if s.members.partialTxt.length > 0 then
      { s with
        main := .reading, holder := none, output := s.output ++ [8, 32, 8],
        members := { s.members with partialTxt := s.members.partialTxt.dropLast } }
    else { s with main := .reading, holder := none }
  | .enter =>
    { s with
      main := .tearingDown, holder := none, output := s.output ++ [10],
      members := { s.members with hitEscape := false } }
  | .regular c =>
    { s with
      main := .reading, holder := none, output := s.output ++ [c],
      members := { s.members with partialTxt := s.members.partialTxt ++ [c] } }
  | .escape =>
    { s with
      main := .tearingDown, holder := none, members := { s.members with hitEscape := true } }
  | .upArrow | .downArrow | .unknown => { s with main := .reading, holder := none }

/-- The next step of the main thread, if it is not blocked. -/
def mainStep (s : ChatScreen) : Option ChatScreen :=
  match s.main with
  | .reading =>
    match s.members.keys with
    | [] => none
    | k :: keys => some { s with main := .locking k, members := { s.members with keys := keys } }
  | .locking k => lock .main { s with main := .handling k }
  | .handling k => some (s.handle k)
  | .tearingDown => lock .main { s with main := .flagging }
  | .flagging => some { s with main := .notifying, shouldExit := true }
  | .notifying =>
    some { s with
      main := .unlocking,
      listener := if s.listener = .waiting then .waking false else s.listener }
  | .unlocking => some { s with main := .joining, holder := none }
  | .joining => if s.listener = .ended then some { s with main := .joined } else none
  | .joined => none

/-- The next step of the listener, if it is not blocked and not in the call of the client. -/
def listenerStep (s : ChatScreen) : Option ChatScreen :=
  match s.listener with
  | .locking => lock .listener { s with listener := .testing }
  | .testing =>
    if s.shouldExit then some { s with listener := .ended, holder := none }
    else some { s with listener := .arming }
  | .arming => some { s with listener := .waiting, holder := none }
  | .waiting => none
  | .waking timedOut => lock .listener { s with listener := .woken timedOut }
  | .woken timedOut =>
    if timedOut then some { s with listener := .sizing, holder := none }
    else some { s with listener := .testing }
  | .sizing => some { s with listener := .calling s.members.currChat.texts.length }
  | .calling _ | .awaiting _ => none
  | .relocking prevSize => lock .listener { s with listener := .comparing prevSize }
  | .comparing prevSize =>
    if prevSize = s.members.currChat.texts.length then some { s with listener := .testing }
    else some { s with listener := .testing, output := s.members.drawSendTxt }
  | .ended => none

end ChatScreen

/-- What can happen on the chat screen. -/
inductive ScreenEvent where
  | main
  | listener
  /-- The wait of the listener ends, because of the timer or for no reason. -/
  | wake (timedOut : Bool)
  /-- The listener sends its request, which it builds in a block that held `block` before. -/
  | send (block : ByteString) (results : List SendResult)
  | receive (results : List RecvResult)
  /-- The connection's thread, or another thread of the server, takes a step. -/
  | server (action : LinkAction)

/-- One step, where the connection has the thread `tid`.  The reply is the status of the call of the
client that returns, if it does. -/
def screenStep (tid : ThreadId) (e : ScreenEvent) (s : ChatScreen) :
    Except Halt (Option Status × ChatScreen) :=
  match e with
  | .main =>
    match s.mainStep with
    | none => .error .disabled
    | some s' => .ok (none, s')
  | .listener =>
    match s.listenerStep with
    | none => .error .disabled
    | some s' => .ok (none, s')
  | .wake timedOut =>
    if s.listener = .waiting then .ok (none, { s with listener := .waking timedOut })
    else .error .disabled
  | .send block results =>
    match s.listener with
    | .calling prevSize =>
      let call := Client.recvTxt s.members.correspondent
      if block.length ≠ call.request.totalLen then .error .disabled
      else
        match call.send block results with
        | none => .error .disabled
        | some (.error f) => .error (.fault f)
        | some (.ok (st, sent)) =>
          let link := { s.link with toServer := s.link.toServer ++ sent }
          if st ≠ .ok then .ok (some st, { s with listener := .relocking prevSize, link := link })
          else .ok (none, { s with listener := .awaiting prevSize, link := link })
    | _ => .error .disabled
  | .receive results =>
    match s.listener with
    | .awaiting prevSize =>
      match (Client.recvTxt s.members.correspondent).receive s.members.statCode s.members.currChat
        s.link.toClient results with
      | none => .error .disabled
      | some (.error f, _) => .error (.fault f)
      | some (.ok (st, statCode, c), unread) =>
        .ok (some st,
          { s with
            listener := .relocking prevSize,
            members := { s.members with statCode := statCode, currChat := c },
            link := { s.link with toClient := unread } })
    | _ => .error .disabled
  | .server action =>
    match linkStep tid action s.link with
    | .error h => .error h
    | .ok (_, link) => .ok (none, { s with link := link })

/-! ## What a step can do -/

/-- What a key does: it may change the text and `hit_escape_`, and the mutex is free behind it. -/
lemma ChatScreen.handle_eq (k : Keypress) (s : ChatScreen) :
    ∃ main output txt hitEscape, (main = .reading ∨ main = .tearingDown) ∧
      s.handle k = { s with
        main := main, holder := none, output := output,
        members := { s.members with partialTxt := txt, hitEscape := hitEscape } } := by
  cases k with
  | regular c => exact ⟨_, _, _, s.members.hitEscape, .inl rfl, rfl⟩
  | escape => exact ⟨_, s.output, s.members.partialTxt, _, .inr rfl, rfl⟩
  | enter => exact ⟨_, _, s.members.partialTxt, _, .inr rfl, rfl⟩
  | backspace =>
    rw [ChatScreen.handle]
    split_ifs
    · exact ⟨_, _, _, s.members.hitEscape, .inl rfl, rfl⟩
    · exact ⟨_, s.output, s.members.partialTxt, s.members.hitEscape, .inl rfl, rfl⟩
  | upArrow | downArrow | unknown =>
    exact ⟨_, s.output, s.members.partialTxt, s.members.hitEscape, .inl rfl, rfl⟩

/-- What a step does: `ScreenEffect tid s e reply s'` lists the ways in which the event `e` can lead
from `s` to `s'`. -/
inductive ScreenEffect (tid : ThreadId) (s : ChatScreen) :
    ScreenEvent → Option Status → ChatScreen → Prop
  | pressed {k : Keypress} {keys : List Keypress} (hmain : s.main = .reading)
      (hkeys : s.members.keys = k :: keys) :
      ScreenEffect tid s .main none
        { s with main := .locking k, members := { s.members with keys := keys } }
  /-- The main thread locks the mutex for a key. -/
  | lockedKey {k : Keypress} (hmain : s.main = .locking k) (hfree : s.holder = none) :
      ScreenEffect tid s .main none { s with main := .handling k, holder := some .main }
  | handled {k : Keypress} (hmain : s.main = .handling k) :
      ScreenEffect tid s .main none (s.handle k)
  /-- The main thread locks the mutex to tear down the listener. -/
  | lockedFlag (hmain : s.main = .tearingDown) (hfree : s.holder = none) :
      ScreenEffect tid s .main none { s with main := .flagging, holder := some .main }
  | flagged (hmain : s.main = .flagging) :
      ScreenEffect tid s .main none { s with main := .notifying, shouldExit := true }
  | notified (hmain : s.main = .notifying) :
      ScreenEffect tid s .main none
        { s with
          main := .unlocking,
          listener := if s.listener = .waiting then .waking false else s.listener }
  | unlocked (hmain : s.main = .unlocking) :
      ScreenEffect tid s .main none { s with main := .joining, holder := none }
  /-- The main thread finds that the listener has ended. -/
  | joined (hmain : s.main = .joining) (hended : s.listener = .ended) :
      ScreenEffect tid s .main none { s with main := .joined }
  /-- The listener locks the mutex, at a place behind which it stands at `next`. -/
  | locked {next : ListenerAt} (hfree : s.holder = none)
      (hnext : (s.listener = .locking ∧ next = .testing) ∨
        (∃ timedOut, s.listener = .waking timedOut ∧ next = .woken timedOut) ∨
        ∃ prevSize, s.listener = .relocking prevSize ∧ next = .comparing prevSize) :
      ScreenEffect tid s .listener none { s with listener := next, holder := some .listener }
  | exited (hlistener : s.listener = .testing) (hexit : s.shouldExit = true) :
      ScreenEffect tid s .listener none { s with listener := .ended, holder := none }
  | armed (hlistener : s.listener = .testing) (hexit : s.shouldExit = false) :
      ScreenEffect tid s .listener none { s with listener := .arming }
  | waited (hlistener : s.listener = .arming) :
      ScreenEffect tid s .listener none { s with listener := .waiting, holder := none }
  | timedOut (hlistener : s.listener = .woken true) :
      ScreenEffect tid s .listener none { s with listener := .sizing, holder := none }
  | continued (hlistener : s.listener = .woken false) :
      ScreenEffect tid s .listener none { s with listener := .testing }
  | sized (hlistener : s.listener = .sizing) :
      ScreenEffect tid s .listener none
        { s with listener := .calling s.members.currChat.texts.length }
  | unchanged {prevSize : ℕ} (hlistener : s.listener = .comparing prevSize)
      (hsize : prevSize = s.members.currChat.texts.length) :
      ScreenEffect tid s .listener none { s with listener := .testing }
  | drawn {prevSize : ℕ} (hlistener : s.listener = .comparing prevSize)
      (hsize : prevSize ≠ s.members.currChat.texts.length) :
      ScreenEffect tid s .listener none
        { s with listener := .testing, output := s.members.drawSendTxt }
  | woken {timedOut : Bool} (hlistener : s.listener = .waiting) :
      ScreenEffect tid s (.wake timedOut) none { s with listener := .waking timedOut }
  | sent {prevSize : ℕ} {block sent : ByteString} {results : List SendResult}
      (hlistener : s.listener = .calling prevSize)
      (hblock : block.length = (Client.recvTxt s.members.correspondent).request.totalLen)
      (hsend : (Client.recvTxt s.members.correspondent).send block results =
        some (.ok (.ok, sent))) :
      ScreenEffect tid s (.send block results) none
        { s with
          listener := .awaiting prevSize,
          link := { s.link with toServer := s.link.toServer ++ sent } }
  | unsent {prevSize : ℕ} {block sent : ByteString} {results : List SendResult} {st : Status}
      (hlistener : s.listener = .calling prevSize)
      (hblock : block.length = (Client.recvTxt s.members.correspondent).request.totalLen)
      (hsend : (Client.recvTxt s.members.correspondent).send block results =
        some (.ok (st, sent)))
      (hst : st ≠ .ok) :
      ScreenEffect tid s (.send block results) (some st)
        { s with
          listener := .relocking prevSize,
          link := { s.link with toServer := s.link.toServer ++ sent } }
  | received {prevSize : ℕ} {results : List RecvResult} {st : Status} {statCode : StatusCode}
      {c : Chat} {unread : ByteString} (hlistener : s.listener = .awaiting prevSize)
      (hreceive : (Client.recvTxt s.members.correspondent).receive s.members.statCode
        s.members.currChat s.link.toClient results = some (.ok (st, statCode, c), unread)) :
      ScreenEffect tid s (.receive results) (some st)
        { s with
          listener := .relocking prevSize,
          members := { s.members with statCode := statCode, currChat := c },
          link := { s.link with toClient := unread } }
  | served {action : LinkAction} {r : Option Response} {link : Linked}
      (hstep : linkStep tid action s.link = .ok (r, link)) :
      ScreenEffect tid s (.server action) none { s with link := link }

/-- A lock that is taken was free. -/
lemma ChatScreen.lock_eq_some {thread : ScreenThread} {s s' : ChatScreen}
    (h : lock thread s = some s') : s.holder = none ∧ s' = { s with holder := some thread } := by
  unfold lock at h
  split_ifs at h with hfree
  cases h
  exact ⟨hfree, rfl⟩

/-- The steps of the main thread. -/
lemma ChatScreen.mainStep_effect (tid : ThreadId) {s s' : ChatScreen} (h : s.mainStep = some s') :
    ScreenEffect tid s .main none s' := by
  unfold mainStep at h
  split at h
  · rename_i hmain
    split at h
    · cases h
    · rename_i k keys hkeys
      cases h
      exact .pressed hmain hkeys
  · rename_i k hmain
    obtain ⟨hfree, rfl⟩ := lock_eq_some h
    exact .lockedKey hmain hfree
  · rename_i k hmain
    cases h
    exact .handled hmain
  · rename_i hmain
    obtain ⟨hfree, rfl⟩ := lock_eq_some h
    exact .lockedFlag hmain hfree
  · rename_i hmain
    cases h
    exact .flagged hmain
  · rename_i hmain
    cases h
    exact .notified hmain
  · rename_i hmain
    cases h
    exact .unlocked hmain
  · rename_i hmain
    split_ifs at h with hended
    cases h
    exact .joined hmain hended
  · cases h

/-- The steps of the listener. -/
lemma ChatScreen.listenerStep_effect (tid : ThreadId) {s s' : ChatScreen}
    (h : s.listenerStep = some s') : ScreenEffect tid s .listener none s' := by
  unfold listenerStep at h
  split at h
  · rename_i hlistener
    obtain ⟨hfree, rfl⟩ := lock_eq_some h
    exact .locked hfree (.inl ⟨hlistener, rfl⟩)
  · rename_i hlistener
    split_ifs at h with hexit
    · cases h
      exact .exited hlistener hexit
    · cases h
      exact .armed hlistener (by simpa using hexit)
  · rename_i hlistener
    cases h
    exact .waited hlistener
  · cases h
  · rename_i timedOut hlistener
    obtain ⟨hfree, rfl⟩ := lock_eq_some h
    exact .locked hfree (.inr (.inl ⟨timedOut, hlistener, rfl⟩))
  · rename_i timedOut hlistener
    split_ifs at h with hout
    · cases h
      exact .timedOut (hout ▸ hlistener)
    · cases h
      rw [Bool.not_eq_true] at hout
      exact .continued (hout ▸ hlistener)
  · rename_i hlistener
    cases h
    exact .sized hlistener
  · cases h
  · cases h
  · rename_i prevSize hlistener
    obtain ⟨hfree, rfl⟩ := lock_eq_some h
    exact .locked hfree (.inr (.inr ⟨prevSize, hlistener, rfl⟩))
  · rename_i prevSize hlistener
    split_ifs at h with hsize
    · cases h
      exact .unchanged hlistener hsize
    · cases h
      exact .drawn hlistener hsize
  · cases h

/-- Every step that is taken has one of the effects. -/
theorem screenStep_effect {tid : ThreadId} {e : ScreenEvent} {s s' : ChatScreen}
    {reply : Option Status} (h : screenStep tid e s = .ok (reply, s')) :
    ScreenEffect tid s e reply s' := by
  cases e with
  | main =>
    simp only [screenStep] at h
    split at h
    · cases h
    · rename_i hstep
      cases h
      exact ChatScreen.mainStep_effect tid hstep
  | listener =>
    simp only [screenStep] at h
    split at h
    · cases h
    · rename_i hstep
      cases h
      exact ChatScreen.listenerStep_effect tid hstep
  | wake timedOut =>
    simp only [screenStep] at h
    split_ifs at h with hwaiting
    cases h
    exact .woken hwaiting
  | send block results =>
    simp only [screenStep] at h
    split at h
    · rename_i prevSize hlistener
      split_ifs at h with hblock
      rw [not_not] at hblock
      split at h
      · cases h
      · cases h
      · rename_i st sent hsend
        split_ifs at h with hst
        · cases h
          exact .unsent hlistener hblock hsend hst
        · cases h
          rw [not_not] at hst
          subst hst
          exact .sent hlistener hblock hsend
    · cases h
  | receive results =>
    simp only [screenStep] at h
    split at h
    · rename_i prevSize hlistener
      split at h
      · cases h
      · cases h
      · rename_i hreceive
        cases h
        exact .received hlistener hreceive
    · cases h
  | server action =>
    simp only [screenStep] at h
    split at h
    · cases h
    · rename_i hstep
      cases h
      exact .served hstep

/-! ## The mutex -/

/-- The mutex is held by the thread that stands where it is held, if there is one. -/
structure ChatScreen.Locked (s : ChatScreen) : Prop where
  main : s.main.holds = true ↔ s.holder = some .main
  listener : s.listener.holds = true ↔ s.holder = some .listener

/-- The main thread has set `listener_should_exit_`. -/
def MainAt.flagged : MainAt → Bool
  | .notifying | .unlocking | .joining | .joined => true
  | _ => false

/-- The main thread has notified the listener. -/
def MainAt.announced : MainAt → Bool
  | .unlocking | .joining | .joined => true
  | _ => false

/-- A listener that has been notified has been told to exit. -/
lemma MainAt.flagged_of_announced {m : MainAt} (h : m.announced = true) : m.flagged = true := by
  cases m <;> first | rfl | cases h

namespace ChatScreen

variable {tid : ThreadId}

/-- A thread that stands where the mutex is held keeps the other one from it. -/
lemma Locked.not_both {s : ChatScreen} (h : s.Locked) :
    ¬ (s.main.holds = true ∧ s.listener.holds = true) := by
  rintro ⟨hmain, hlistener⟩
  have hholder := (h.main.mp hmain).symm.trans (h.listener.mp hlistener)
  cases hholder

/-- A step of the main thread that releases the mutex. -/
lemma Locked.release_main {s : ChatScreen} (h : s.Locked) (hholds : s.main.holds = true)
    {s' : ChatScreen} (hmain : s'.main.holds = false) (hlistener : s'.listener = s.listener)
    (hholder : s'.holder = none) : s'.Locked := by
  have hfree : s.listener.holds = false := by
    by_contra hboth
    exact h.not_both ⟨hholds, by simpa using hboth⟩
  constructor
  · simp [hmain, hholder]
  · simp [hlistener, hholder, hfree]

/-- A step of the listener that releases the mutex. -/
lemma Locked.release_listener {s : ChatScreen} (h : s.Locked) (hholds : s.listener.holds = true)
    {s' : ChatScreen} (hlistener : s'.listener.holds = false) (hmain : s'.main = s.main)
    (hholder : s'.holder = none) : s'.Locked := by
  have hfree : s.main.holds = false := by
    by_contra hboth
    exact h.not_both ⟨by simpa using hboth, hholds⟩
  constructor
  · simp [hmain, hholder, hfree]
  · simp [hlistener, hholder]

/-- A step that leaves both threads on the side of the mutex on which they are. -/
lemma Locked.keep {s : ChatScreen} (h : s.Locked) {s' : ChatScreen}
    (hmain : s'.main.holds = s.main.holds) (hlistener : s'.listener.holds = s.listener.holds)
    (hholder : s'.holder = s.holder) : s'.Locked :=
  ⟨by rw [hmain, hholder, h.main], by rw [hlistener, hholder, h.listener]⟩

/-- When the mutex is free, no thread stands where it is held. -/
lemma Locked.of_free {s : ChatScreen} (h : s.Locked) (hfree : s.holder = none) :
    s.main.holds = false ∧ s.listener.holds = false := by
  constructor
  · by_contra hholds
    have := h.main.mp (by simpa using hholds)
    simp [hfree] at this
  · by_contra hholds
    have := h.listener.mp (by simpa using hholds)
    simp [hfree] at this

/-- Every step keeps the mutex. -/
theorem Locked.step {s s' : ChatScreen} {e : ScreenEvent} {reply : Option Status} (h : s.Locked)
    (hstep : screenStep tid e s = .ok (reply, s')) : s'.Locked := by
  cases screenStep_effect hstep with
  | pressed hmain | flagged hmain | joined hmain =>
    exact h.keep (by simp [hmain, MainAt.holds]) rfl rfl
  | notified hmain =>
    refine h.keep (by simp [hmain, MainAt.holds]) ?_ rfl
    dsimp only
    split_ifs with hwaiting
    · simp [hwaiting, ListenerAt.holds]
    · rfl
  | lockedKey hmain hfree | lockedFlag hmain hfree =>
    have hlistener := (h.of_free hfree).2
    exact ⟨by simp [MainAt.holds], by simp [hlistener]⟩
  | @handled k hmain =>
    have hholds : s.main.holds = true := by rw [hmain, MainAt.holds]
    obtain ⟨main, output, txt, hitEscape, hnext, heq⟩ := s.handle_eq k
    rw [heq]
    refine h.release_main hholds ?_ rfl rfl
    rcases hnext with rfl | rfl <;> rfl
  | unlocked hmain => exact h.release_main (by rw [hmain, MainAt.holds]) rfl rfl rfl
  | locked hfree hnext =>
    have hmain := (h.of_free hfree).1
    refine ⟨by simp [hmain], ?_⟩
    rcases hnext with ⟨-, rfl⟩ | ⟨timedOut, -, rfl⟩ | ⟨prevSize, -, rfl⟩ <;>
      simp [ListenerAt.holds]
  | exited hlistener | waited hlistener | timedOut hlistener =>
    exact h.release_listener (by rw [hlistener, ListenerAt.holds]) rfl rfl rfl
  | armed hlistener | continued hlistener | sized hlistener | unchanged hlistener | drawn hlistener
    | woken hlistener | sent hlistener | unsent hlistener | received hlistener =>
    exact h.keep rfl (by simp [hlistener, ListenerAt.holds]) rfl
  | served => exact h.keep rfl rfl rfl

/-- A new screen. -/
lemma locked_start (i : Interface) (link : Linked) : (start i link).Locked :=
  ⟨by simp [start, MainAt.holds], by simp [start, ListenerAt.holds]⟩

/-! ## The end of the listener -/

/-- The listener is told to exit before it is notified, and has ended when it has been joined. -/
structure Announced (s : ChatScreen) : Prop where
  flag : s.shouldExit = true ↔ s.main.flagged = true
  /-- The listener does not go on to its wait when the flag is set. -/
  armed : s.shouldExit = true → s.listener ≠ .arming
  /-- It does not wait any more when it has been notified. -/
  notified : s.main.announced = true → s.listener ≠ .waiting
  ended : s.listener = .ended → s.shouldExit = true
  joined : s.main = .joined → s.listener = .ended

/-- A new screen. -/
lemma announced_start (i : Interface) (link : Linked) : (start i link).Announced := by
  constructor <;> simp [start, MainAt.flagged, MainAt.announced]

/-- A step of the listener that neither begins to wait nor ends. -/
lemma Announced.keep {s s' : ChatScreen} (h : s.Announced) (hmain : s'.main = s.main)
    (hflag : s'.shouldExit = s.shouldExit)
    (hlistener : s'.listener = s.listener ∨ s.main ≠ .joined ∧ s'.listener ≠ .arming ∧
      s'.listener ≠ .waiting ∧ s'.listener ≠ .ended) : s'.Announced := by
  rcases hlistener with heq | ⟨hjoined, harming, hwaiting, hended⟩
  · exact ⟨by rw [hmain, hflag, h.flag], by rw [hflag, heq]; exact h.armed,
      by rw [hmain, heq]; exact h.notified, by rw [hflag, heq]; exact h.ended,
      by rw [hmain, heq]; exact h.joined⟩
  · exact ⟨by rw [hmain, hflag, h.flag], fun _ => harming, fun _ => hwaiting,
      fun h => absurd h hended, fun h => absurd (hmain.symm.trans h) hjoined⟩

/-- Every step keeps the order of what the main thread announces. -/
theorem Announced.step {s s' : ChatScreen} {e : ScreenEvent} {reply : Option Status}
    (h : s.Announced) (hlocked : s.Locked) (hstep : screenStep tid e s = .ok (reply, s')) :
    s'.Announced := by
  have hgoing {next : ListenerAt} (hlistener : s.listener = next) (hne : next ≠ .ended) :
      s.main ≠ .joined := fun hjoined => hne (hlistener.symm.trans (h.joined hjoined))
  cases screenStep_effect hstep with
  | pressed hmain | lockedKey hmain hfree | lockedFlag hmain hfree =>
    have hflag := h.flag
    simp only [hmain, MainAt.flagged] at hflag
    exact ⟨by simpa [MainAt.flagged] using hflag, h.armed, by simp [MainAt.announced], h.ended,
      by simp⟩
  | @handled k hmain =>
    have hflag := h.flag
    simp only [hmain, MainAt.flagged] at hflag
    obtain ⟨main, output, txt, hitEscape, hnext, heq⟩ := s.handle_eq k
    rw [heq]
    rcases hnext with rfl | rfl <;>
      exact ⟨by simpa [MainAt.flagged] using hflag, h.armed, by simp [MainAt.announced], h.ended,
        by simp⟩
  | flagged hmain =>
    -- The listener does not hold the mutex, so it is not about to wait.
    have hlistener : s.listener ≠ .arming := by
      intro harming
      exact hlocked.not_both ⟨by rw [hmain, MainAt.holds], by rw [harming, ListenerAt.holds]⟩
    exact ⟨by simp [MainAt.flagged], fun _ => hlistener, by simp [MainAt.announced],
      fun _ => rfl, by simp⟩
  | notified hmain =>
    have hflag : s.shouldExit = true := h.flag.mpr (by rw [hmain, MainAt.flagged])
    refine ⟨by simp [hflag, MainAt.flagged], ?_, ?_, fun _ => hflag, by simp⟩
    · dsimp only
      split_ifs with hwaiting
      · simp
      · exact h.armed
    · dsimp only
      split_ifs with hwaiting
      · simp
      · exact fun _ => hwaiting
  | unlocked hmain =>
    have hflag : s.shouldExit = true := h.flag.mpr (by rw [hmain, MainAt.flagged])
    exact ⟨by simp [hflag, MainAt.flagged], h.armed,
      fun _ => h.notified (by rw [hmain, MainAt.announced]), h.ended, by simp⟩
  | joined hmain hended =>
    have hflag : s.shouldExit = true := h.flag.mpr (by rw [hmain, MainAt.flagged])
    exact ⟨by simp [hflag, MainAt.flagged], h.armed,
      fun _ => h.notified (by rw [hmain, MainAt.announced]), h.ended, fun _ => hended⟩
  | locked hfree hnext =>
    refine h.keep rfl rfl (.inr ?_)
    rcases hnext with ⟨hlistener, rfl⟩ | ⟨timedOut, hlistener, rfl⟩ | ⟨prevSize, hlistener, rfl⟩ <;>
      exact ⟨hgoing hlistener (by simp), by simp⟩
  | exited hlistener hexit =>
    exact ⟨h.flag, by simp, by simp, fun _ => hexit, fun _ => rfl⟩
  | armed hlistener hexit =>
    exact ⟨h.flag, by simp [hexit], by simp, by simp,
      fun hjoined => absurd hjoined (hgoing hlistener (by simp))⟩
  | waited hlistener =>
    have hflag : s.shouldExit ≠ true := fun hexit => h.armed hexit hlistener
    exact ⟨h.flag, by simp,
      fun hannounced => absurd (h.flag.mpr (MainAt.flagged_of_announced hannounced)) hflag,
      by simp, fun hjoined => absurd hjoined (hgoing hlistener (by simp))⟩
  | timedOut hlistener | continued hlistener | sized hlistener | unchanged hlistener
    | drawn hlistener | woken hlistener | sent hlistener | unsent hlistener
    | received hlistener =>
    exact h.keep rfl rfl (.inr ⟨hgoing hlistener (by simp), by simp⟩)
  | served => exact h.keep rfl rfl (.inl rfl)

/-! ## Races -/

end ChatScreen

/-- What the two threads share, apart from `mutex_` and `listener_cv_`. -/
inductive Shared where
  | partialTxt
  | hitEscape
  | shouldExit
  | statCode
  | currChat
  | correspondent
  | username
  | output
  | connection
deriving DecidableEq, Repr

/-- All that is shared. -/
def Shared.all : List Shared :=
  [.partialTxt, .hitEscape, .shouldExit, .statCode, .currChat, .correspondent, .username, .output,
    .connection]

/-- What `interface::get_user_txt` reads when it handles a key. -/
def Keypress.reads : Keypress → List Shared
  | .backspace | .regular _ => [.partialTxt]
  | .enter | .escape | .upArrow | .downArrow | .unknown => []

/-- What `interface::get_user_txt` writes to when it handles a key. -/
def Keypress.writes : Keypress → List Shared
  | .backspace | .regular _ => [.partialTxt, .output]
  | .enter => [.hitEscape, .output]
  | .escape => [.hitEscape]
  | .upArrow | .downArrow | .unknown => []

/-- What the main thread reads in its next step. -/
def MainAt.reads : MainAt → List Shared
  | .handling k => k.reads
  -- The rest of `interface::start`.
  | .joined => Shared.all
  | .reading | .locking _ | .tearingDown | .flagging | .notifying | .unlocking | .joining => []

/-- What the main thread writes to in its next step. -/
def MainAt.writes : MainAt → List Shared
  | .handling k => k.writes
  | .flagging => [.shouldExit]
  | .joined => Shared.all
  | .reading | .locking _ | .tearingDown | .notifying | .unlocking | .joining => []

/-- What the listener reads in its next step. -/
def ListenerAt.reads : ListenerAt → List Shared
  | .testing => [.shouldExit]
  | .sizing => [.currChat]
  | .calling _ => [.correspondent]
  | .awaiting _ => [.correspondent, .statCode, .currChat]
  | .comparing _ => [.currChat, .correspondent, .username, .partialTxt]
  | .locking | .arming | .waiting | .waking _ | .woken _ | .relocking _ | .ended => []

/-- What the listener writes to in its next step. -/
def ListenerAt.writes : ListenerAt → List Shared
  | .calling _ => [.connection]
  | .awaiting _ => [.connection, .statCode, .currChat]
  | .comparing _ => [.output]
  | .locking | .testing | .arming | .waiting | .waking _ | .woken _ | .sizing | .relocking _
  | .ended => []

namespace ChatScreen

/-- A data race: the next step of one thread writes to what the next step of the other one
accesses. -/
def Race (s : ChatScreen) : Prop :=
  ∃ x, (x ∈ s.main.writes ∧ x ∈ s.listener.reads ++ s.listener.writes) ∨
    (x ∈ s.listener.writes ∧ x ∈ s.main.reads ++ s.main.writes)

/-- The value of what is shared is the same in two states. -/
def SameAt (s t : ChatScreen) : Shared → Prop
  | .partialTxt => s.members.partialTxt = t.members.partialTxt
  | .hitEscape => s.members.hitEscape = t.members.hitEscape
  | .shouldExit => s.shouldExit = t.shouldExit
  | .statCode => s.members.statCode = t.members.statCode
  | .currChat => s.members.currChat = t.members.currChat
  | .correspondent => s.members.correspondent = t.members.correspondent
  | .username => s.members.username = t.members.username
  | .output => s.output = t.output
  | .connection => s.link = t.link

/-- What the thread of a step writes to. -/
def writtenBy (s : ChatScreen) : ScreenEvent → List Shared
  | .main => s.main.writes
  | .listener | .wake _ | .send _ _ | .receive _ => s.listener.writes
  -- The server only writes to the connection.
  | .server _ => [.connection]

/-- A step leaves everything alone that its thread does not write to. -/
theorem sameAt_of_step {s s' : ChatScreen} {e : ScreenEvent} {reply : Option Status}
    (hstep : screenStep tid e s = .ok (reply, s')) {x : Shared} (hx : x ∉ s.writtenBy e) :
    SameAt s s' x := by
  cases screenStep_effect hstep with
  | @handled k hmain =>
    simp only [writtenBy, hmain] at hx
    simp only [MainAt.writes] at hx
    cases k <;> cases x <;> first | rfl | simp [Keypress.writes] at hx
    all_goals
      simp only [SameAt, handle]
      split_ifs <;> rfl
  | flagged hmain =>
    simp only [writtenBy, hmain, MainAt.writes, List.mem_singleton] at hx
    cases x <;> first | rfl | simp at hx
  | drawn hlistener =>
    simp only [writtenBy, hlistener, ListenerAt.writes, List.mem_singleton] at hx
    cases x <;> first | rfl | simp at hx
  | sent hlistener | unsent hlistener | received hlistener =>
    simp only [writtenBy, hlistener, ListenerAt.writes, List.mem_cons, List.not_mem_nil] at hx
    cases x <;> first | rfl | simp at hx
  | served =>
    simp only [writtenBy, List.mem_singleton] at hx
    cases x <;> first | rfl | simp at hx
  | _ => cases x <;> rfl

/-- Until the listener has been joined, the main thread accesses what is shared only under the
mutex, and only the text, the flags and the output. -/
lemma accessed_of_main {s : ChatScreen} {x : Shared} (hx : x ∈ s.main.reads ++ s.main.writes) :
    s.main = .joined ∨
      s.main.holds = true ∧ x ∈ [Shared.partialTxt, .hitEscape, .shouldExit, .output] := by
  cases hmain : s.main with
  | joined => exact .inl rfl
  | handling k =>
    rw [hmain] at hx
    refine .inr ⟨rfl, ?_⟩
    simp only [MainAt.reads, MainAt.writes] at hx
    cases k <;> simp [Keypress.reads, Keypress.writes] at hx ⊢ <;> tauto
  | flagging =>
    rw [hmain] at hx
    exact .inr ⟨rfl, by simp_all [MainAt.reads, MainAt.writes]⟩
  | _ => simp [hmain, MainAt.reads, MainAt.writes] at hx

/-- Where it does not hold the mutex, the listener accesses only the results of its call and what
the call needs. -/
lemma accessed_of_listener {s : ChatScreen} {x : Shared}
    (hx : x ∈ s.listener.reads ++ s.listener.writes) :
    s.listener.holds = true ∨
      x ∈ [Shared.statCode, .currChat, .correspondent, .connection] := by
  cases hlistener : s.listener with
  | testing | comparing prevSize => exact .inl rfl
  | sizing | calling prevSize | awaiting prevSize =>
    rw [hlistener] at hx
    simp only [ListenerAt.reads, ListenerAt.writes] at hx
    exact .inr (by revert hx; revert x; decide)
  | _ => simp [hlistener, ListenerAt.reads, ListenerAt.writes] at hx

/-- There is no race between threads of which at most one holds the mutex, when the listener has
ended before the main thread goes on alone. -/
lemma Locked.not_race {s : ChatScreen} (hlocked : s.Locked) (hannounced : s.Announced) :
    ¬ s.Race := by
  rintro ⟨x, hx⟩
  have hmain : x ∈ s.main.reads ++ s.main.writes := by
    rcases hx with ⟨hwrites, -⟩ | ⟨-, haccess⟩
    · exact List.mem_append_right _ hwrites
    · exact haccess
  have hlistener : x ∈ s.listener.reads ++ s.listener.writes := by
    rcases hx with ⟨-, haccess⟩ | ⟨hwrites, -⟩
    · exact haccess
    · exact List.mem_append_right _ hwrites
  rcases accessed_of_main hmain with hjoined | ⟨hholds, htext⟩
  · have hended := hannounced.joined hjoined
    simp [hended, ListenerAt.reads, ListenerAt.writes] at hlistener
  · rcases accessed_of_listener hlistener with hheld | hcall
    · exact hlocked.not_both ⟨hholds, hheld⟩
    · simp only [List.mem_cons, List.not_mem_nil, or_false] at htext hcall
      rcases htext with rfl | rfl | rfl | rfl <;> simp at hcall

/-! ## Runs -/

/-- What holds on every chat screen: who holds the mutex, and what has been announced. -/
lemma invariants_of_run {i : Interface} {link : Linked} {events : List ScreenEvent}
    {s : ChatScreen} (hrun : run (screenStep tid) events (start i link) = .ok s) :
    s.Locked ∧ s.Announced :=
  run_invariant (P := fun s => s.Locked ∧ s.Announced)
    (fun _ _ _ _ h _ hstep => ⟨h.1.step hstep, h.2.step h.1 hstep⟩) (guarded_true _ _) hrun
    ⟨locked_start i link, announced_start i link⟩

end ChatScreen

/-- The listener is in the call of the client. -/
def ListenerAt.inCall : ListenerAt → Bool
  | .calling _ | .awaiting _ => true
  | _ => false

/-- The steps that the listener still takes when it has been told to exit and is not waiting. -/
def ListenerAt.left : ListenerAt → ℕ
  | .ended | .arming | .waiting => 0
  | .testing => 1
  | .locking | .woken false | .comparing _ => 2
  | .waking false | .relocking _ => 3
  | .awaiting _ => 4
  | .calling _ => 5
  | .sizing => 6
  | .woken true => 7
  | .waking true => 8

/-- The requests that the listener still sends then. -/
def ListenerAt.requests : ListenerAt → ℕ
  | .waking true | .woken true | .sizing | .calling _ => 1
  | _ => 0

/-- A step of the listener. -/
def ScreenEvent.ofListener : ScreenEvent → Bool
  | .listener | .wake _ | .send _ _ | .receive _ => true
  | .main | .server _ => false

/-- A request of the listener. -/
def ScreenEvent.isSend : ScreenEvent → Bool
  | .send _ _ => true
  | _ => false

/-- There are at most eight such steps. -/
lemma ListenerAt.left_le (l : ListenerAt) : l.left ≤ 8 := by
  cases l with
  | waking timedOut | woken timedOut => cases timedOut <;> simp [left]
  | _ => simp [left]

/-- There is at most one such request. -/
lemma ListenerAt.requests_le (l : ListenerAt) : l.requests ≤ 1 := by
  cases l with
  | waking timedOut | woken timedOut => cases timedOut <;> simp [requests]
  | _ => simp [requests]

namespace ChatScreen

variable {tid : ThreadId}

/-- Behind the notification, every step of the listener brings it nearer to its end. -/
lemma Announced.left_step {s s' : ChatScreen} {e : ScreenEvent} {reply : Option Status}
    (h : s.Announced) (hmain : s.main.announced = true)
    (hstep : screenStep tid e s = .ok (reply, s')) :
    s'.main.announced = true ∧
      s'.listener.left + (if e.ofListener then 1 else 0) ≤ s.listener.left ∧
      s'.listener.requests + (if e.isSend then 1 else 0) ≤ s.listener.requests := by
  have hflag := h.flag.mpr (MainAt.flagged_of_announced hmain)
  cases screenStep_effect hstep with
  | pressed hat | lockedKey hat | handled hat | lockedFlag hat | flagged hat | notified hat =>
    simp [hat, MainAt.announced] at hmain
  | unlocked hat | joined hat => exact ⟨rfl, by simp [ScreenEvent.ofListener, ScreenEvent.isSend]⟩
  | locked hfree hnext =>
    refine ⟨hmain, ?_⟩
    rcases hnext with ⟨hlistener, rfl⟩ | ⟨timedOut, hlistener, rfl⟩ | ⟨prevSize, hlistener, rfl⟩
    · simp [hlistener, ListenerAt.left, ListenerAt.requests, ScreenEvent.ofListener,
        ScreenEvent.isSend]
    · cases timedOut <;> simp [hlistener, ListenerAt.left, ListenerAt.requests,
        ScreenEvent.ofListener, ScreenEvent.isSend]
    · simp [hlistener, ListenerAt.left, ListenerAt.requests, ScreenEvent.ofListener,
        ScreenEvent.isSend]
  | armed hlistener hexit => simp [hflag] at hexit
  | waited hlistener => exact absurd hlistener (h.armed hflag)
  | woken hlistener => exact absurd hlistener (h.notified hmain)
  | exited hlistener | timedOut hlistener | continued hlistener | sized hlistener
    | unchanged hlistener | drawn hlistener | sent hlistener | unsent hlistener
    | received hlistener =>
    exact ⟨hmain, by simp [hlistener, ListenerAt.left, ListenerAt.requests,
      ScreenEvent.ofListener, ScreenEvent.isSend]⟩
  | served => exact ⟨hmain, by simp [ScreenEvent.ofListener, ScreenEvent.isSend]⟩

/-- A lock that cannot be taken is held. -/
lemma lock_eq_none {thread : ScreenThread} {s : ChatScreen} (h : lock thread s = none) :
    s.holder ≠ none := by
  intro hfree
  simp [lock, hfree] at h

/-- A thread that holds the mutex can take a step. -/
lemma Locked.free_of_blocked {s : ChatScreen} (h : s.Locked) (hmain : s.mainStep = none)
    (hlistener : s.listenerStep = none) : s.holder = none := by
  rcases hholder : s.holder with _ | _ | _
  · rfl
  · have hholds := h.main.mpr hholder
    unfold mainStep at hmain
    split at hmain <;> simp_all [MainAt.holds]
  · have hholds := h.listener.mpr hholder
    unfold listenerStep at hlistener
    split at hlistener <;> simp_all [ListenerAt.holds]
    all_goals split_ifs at hlistener

/-- Where the main thread is when it cannot take a step although the mutex is free. -/
lemma main_of_blocked {s : ChatScreen} (hfree : s.holder = none) (h : s.mainStep = none) :
    (s.main = .reading ∧ s.members.keys = []) ∨ (s.main = .joining ∧ s.listener ≠ .ended) ∨
      s.main = .joined := by
  unfold mainStep at h
  split at h
  · rename_i hmain
    split at h
    · rename_i hkeys
      exact .inl ⟨hmain, hkeys⟩
    · cases h
  · exact (lock_eq_none h hfree).elim
  · cases h
  · exact (lock_eq_none h hfree).elim
  · cases h
  · cases h
  · cases h
  · rename_i hmain
    split_ifs at h with hended
    exact .inr (.inl ⟨hmain, hended⟩)
  · rename_i hmain
    exact .inr (.inr hmain)

/-- Where the listener is when it cannot take a step although the mutex is free. -/
lemma listener_of_blocked {s : ChatScreen} (hfree : s.holder = none) (h : s.listenerStep = none) :
    s.listener = .waiting ∨ s.listener.inCall = true ∨ s.listener = .ended := by
  unfold listenerStep at h
  split at h
  · exact (lock_eq_none h hfree).elim
  · split_ifs at h
  · cases h
  · rename_i hlistener
    exact .inl hlistener
  · exact (lock_eq_none h hfree).elim
  · split_ifs at h
  · cases h
  · rename_i hlistener
    exact .inr (.inl (by rw [hlistener, ListenerAt.inCall]))
  · rename_i hlistener
    exact .inr (.inl (by rw [hlistener, ListenerAt.inCall]))
  · exact (lock_eq_none h hfree).elim
  · split_ifs at h
  · rename_i hlistener
    exact .inr (.inr hlistener)

/-- When neither thread can take a step, the main thread waits for a key or for the listener, unless
it has joined it, and the listener waits for its timer or for the server, unless it has ended. -/
lemma Locked.blocked {s : ChatScreen} (hlocked : s.Locked) (hannounced : s.Announced)
    (hmain : s.mainStep = none) (hlistener : s.listenerStep = none) :
    (s.main = .joined ∧ s.listener = .ended) ∨
      (s.main = .reading ∧ s.members.keys = [] ∧
        (s.listener = .waiting ∨ s.listener.inCall = true)) ∨
      (s.main = .joining ∧ s.listener.inCall = true) := by
  have hfree := hlocked.free_of_blocked hmain hlistener
  have hat := main_of_blocked hfree hmain
  have hat' := listener_of_blocked hfree hlistener
  rcases hat with ⟨hreading, hkeys⟩ | ⟨hjoining, hgoing⟩ | hjoined
  · have hflag : s.shouldExit ≠ true := by simp [hannounced.flag, hreading, MainAt.flagged]
    refine .inr (.inl ⟨hreading, hkeys, ?_⟩)
    rcases hat' with hwaiting | hcall | hended
    · exact .inl hwaiting
    · exact .inr hcall
    · exact absurd (hannounced.ended hended) hflag
  · refine .inr (.inr ⟨hjoining, ?_⟩)
    rcases hat' with hwaiting | hcall | hended
    · exact absurd hwaiting (hannounced.notified (by rw [hjoining, MainAt.announced]))
    · exact hcall
    · exact absurd hended hgoing
  · exact .inl ⟨hjoined, hannounced.joined hjoined⟩

end ChatScreen

/-- The output of the two threads is not mixed, and they do not race: at most one of them is where
the mutex is held, and neither is about to write to what the other one is about to access. -/
theorem race_free {tid : ThreadId} {i : Interface} {link : Linked} {events : List ScreenEvent}
    {s : ChatScreen} (hrun : run (screenStep tid) events (.start i link) = .ok s) :
    ¬ (s.main.holds = true ∧ s.listener.holds = true) ∧ ¬ s.Race := by
  obtain ⟨hlocked, hannounced⟩ := ChatScreen.invariants_of_run hrun
  exact ⟨hlocked.not_both, hlocked.not_race hannounced⟩

/-- A user who types `x` and sends it. -/
def typingX : Interface where
  next := .sendTxt
  statCode := StatusCode.ok
  currChat := ⟨[]⟩
  username := [97, 98, 99, 100]
  password := []
  pattern := []
  matchedUsernames := []
  allCorrespondents := []
  correspondent := [101, 102, 103, 104]
  partialTxt := []
  hitEscape := false
  keys := [.regular 120, .enter]

/-- The main thread has the mutex for the first key, and the listener waits for the mutex. -/
theorem race_free_typing :
    ∃ s, run (screenStep 0) [.main, .main] (.start typingX ⟨.initial, [], []⟩) = .ok s ∧
      s.main = .handling (.regular 120) ∧ s.listener = .locking ∧
      ¬ (s.main.holds = true ∧ s.listener.holds = true) ∧ ¬ s.Race := by
  have hrun : run (screenStep 0) [.main, .main] (.start typingX ⟨.initial, [], []⟩) = .ok _ := rfl
  exact ⟨_, hrun, rfl, rfl, race_free hrun⟩

/-- The threads never block each other: when neither of them can take a step, the main thread has
joined the listener, or the one waits for a key and the other one for its timer or the server, or
the main thread waits for a listener whose call of the client is underway. -/
theorem no_deadlock {tid : ThreadId} {i : Interface} {link : Linked} {events : List ScreenEvent}
    {s : ChatScreen} (hrun : run (screenStep tid) events (.start i link) = .ok s)
    (hmain : s.mainStep = none) (hlistener : s.listenerStep = none) :
    (s.main = .joined ∧ s.listener = .ended) ∨
      (s.main = .reading ∧ s.members.keys = [] ∧
        (s.listener = .waiting ∨ s.listener.inCall = true)) ∨
      (s.main = .joining ∧ s.listener.inCall = true) := by
  obtain ⟨hlocked, hannounced⟩ := ChatScreen.invariants_of_run hrun
  exact hlocked.blocked hannounced hmain hlistener

/-- A user who types nothing. -/
theorem no_deadlock_idle :
    ∃ s, run (screenStep 0) [.listener, .listener, .listener]
        (.start { typingX with keys := [] } ⟨.initial, [], []⟩) = .ok s ∧
      s.mainStep = none ∧ s.listenerStep = none ∧
      ((s.main = .joined ∧ s.listener = .ended) ∨
        (s.main = .reading ∧ s.members.keys = [] ∧
          (s.listener = .waiting ∨ s.listener.inCall = true)) ∨
        (s.main = .joining ∧ s.listener.inCall = true)) := by
  have hrun : run (screenStep 0) [.listener, .listener, .listener]
      (.start { typingX with keys := [] } ⟨.initial, [], []⟩) = .ok _ := rfl
  exact ⟨_, hrun, rfl, rfl, no_deadlock hrun rfl rfl⟩

/-- A listener that has been told to exit ends: it does not wait again, so that `join` does not wait
for its timer, and whatever the other threads do, it takes at most eight more steps, with at most
one request among them. -/
theorem tears_down {tid : ThreadId} {i : Interface} {link : Linked}
    {before after : List ScreenEvent} {s t : ChatScreen}
    (hbefore : run (screenStep tid) before (.start i link) = .ok s)
    (hannounced : s.main.announced = true) (hafter : run (screenStep tid) after s = .ok t) :
    t.listener ≠ .waiting ∧ after.countP ScreenEvent.ofListener ≤ 8 ∧
      after.countP ScreenEvent.isSend ≤ 1 := by
  let I (s : ChatScreen) := (s.Locked ∧ s.Announced) ∧ s.main.announced = true
  have hinv (e : ScreenEvent) (s : ChatScreen) (r : Option Status) (t : ChatScreen) (h : I s)
      (hstep : screenStep tid e s = .ok (r, t)) : I t :=
    ⟨⟨h.1.1.step hstep, h.1.2.step h.1.1 hstep⟩, (h.1.2.left_step h.2 hstep).1⟩
  have hs : I s := ⟨ChatScreen.invariants_of_run hbefore, hannounced⟩
  have ht : I t := run_invariant (fun e s r t h _ => hinv e s r t h) (guarded_true _ _) hafter hs
  have hsteps := countP_add_le_of_run (μ := fun s => s.listener.left) hinv
    (fun e s r t h hstep => (h.1.2.left_step h.2 hstep).2.1) hs hafter
  have hrequests := countP_add_le_of_run (μ := fun s => s.listener.requests) hinv
    (fun e s r t h hstep => (h.1.2.left_step h.2 hstep).2.2) hs hafter
  have hleft := s.listener.left_le
  have hasks := s.listener.requests_le
  exact ⟨ht.1.2.notified ht.2, by omega, by omega⟩

/-- The text has been typed while the listener waits; then the listener is told to exit, and
ends. -/
theorem tears_down_typing :
    ∃ s t, run (screenStep 0) (List.replicate 3 .listener ++ List.replicate 9 .main)
        (.start typingX ⟨.initial, [], []⟩) = .ok s ∧ s.main.announced = true ∧
      run (screenStep 0) ([.main] ++ List.replicate 3 .listener ++ [.main]) s = .ok t ∧
      t.main = .joined ∧ t.listener ≠ .waiting := by
  have hbefore : run (screenStep 0) (List.replicate 3 .listener ++ List.replicate 9 .main)
      (.start typingX ⟨.initial, [], []⟩) = .ok _ := rfl
  have hafter := tears_down hbefore rfl
    (show run (screenStep 0) ([.main] ++ List.replicate 3 .listener ++ [.main]) _ = .ok _ from rfl)
  exact ⟨_, _, hbefore, rfl, rfl, rfl, hafter.1⟩

end Chat262
