import Chat262.Prompt
import Chat262.Replication.SingleStore

/-!
# The clients of the replicated service

The program of `client.py`: `run_login`, `run_home`, and then `send_messages` and `receive_messages`
in two threads, which take turns in `send_request` by `chat_stub_lock`.  A step is what the user
types, the way of a thread through its lock, one attempt of `send_request`, or the comparison of
the number of messages behind a call of `ReceiveMessage`.

`programs_refine_attempts` says what the lock is for: the two threads of a client never have
requests underway at the same time, so that the clients make attempts as in `Replication.Attempts`,
and all that is said of these holds of the programs.  The lock does not stop anybody for good, and a
program exits only when all servers have crashed (`program_goes_on`).
-/

namespace Chat262.Replication

open Foundation Comp

/-! ## The program -/

/-- Where `receive_messages` stands in its loop. -/
inductive Receiving where
  /-- Before `chat_stub_lock.acquire()`. -/
  | acquiring
  /-- In `send_request`. -/
  | calling
  /-- Behind `chat_stub_lock.release()`, with the list that it has received. -/
  | showing (chats : List String)
deriving DecidableEq, Repr

/-- Where `send_messages` stands in its loop. -/
inductive Sending where
  | typing
  /-- Before `chat_stub_lock.acquire()`. -/
  | acquiring (receiver body : String)
  /-- In `send_request`. -/
  | calling (receiver body : String)
deriving DecidableEq, Repr

/-- Where a program stands. -/
inductive Position where
  /-- In `run_login`, waiting for the user. -/
  | prompting
  /-- In `run_login`, in `send_request`. -/
  | entering (method : AuthMethod) (username password : String)
  /-- In `run_home`, in `receive_messages`. -/
  | inbox (receiving : Receiving)
  /-- In `run_home`, in `send_request` for `GetUsers`. -/
  | listing
  /-- In `send_messages` and `receive_messages`, in two threads. -/
  | chatting (sending : Sending) (receiving : Receiving)
  /-- Behind `os._exit(0)`. -/
  | exited
deriving DecidableEq, Repr

/-- `client_params`, and what is to be seen on the screen. -/
structure Program where
  position : Position
  /-- `curr_leader`, with the stubs that `connect` makes for it. -/
  currLeader : ℕ
  /-- `chat_stub_lock` is locked. -/
  locked : Bool
  /-- `username`. -/
  username : Option String
  /-- `num_messages`. -/
  numMessages : ℕ
  screen : List String
  /-- The messages that were received last.  This is only noted. -/
  received : List String
deriving DecidableEq, Repr

/-- The threads of a program. -/
inductive Thread where
  | main
  | sender
  | receiver
deriving DecidableEq, Repr

/-- A program that has just been started. -/
def Program.start : Program := ⟨.prompting, 0, false, none, 0, [], []⟩

/-- The username that goes with a request. -/
def Program.name (program : Program) : String := program.username.getD ""

/-- The method of `AuthService` that `run_login` calls. -/
def authProcedure (method : AuthMethod) (u p : String) : Procedure :=
  match method with
  | .register => .write (.register u p)
  | .login => .read (.login u p)
  | .deleteAccount => .write (.deleteAccount u p)

/-- What a thread has called `send_request` for. -/
def Position.request? (name : String) : Thread → Position → Option Procedure
  | .main, .entering method u p => some (authProcedure method u p)
  | .main, .inbox .calling => some (.read (.receiveMessage name))
  | .main, .listing => some (.read .getUsers)
  | .sender, .chatting (.calling r b) _ => some (.write (.sendMessage name r b))
  | .receiver, .chatting _ .calling => some (.read (.receiveMessage name))
  | _, _ => none

/-- What a thread of the program has called `send_request` for. -/
def Program.request? (program : Program) (thread : Thread) : Option Procedure :=
  program.position.request? program.name thread

/-- Where a program goes on when a thread has got the lock. -/
def Position.acquired? : Thread → Position → Option Position
  | .main, .inbox .acquiring => some (.inbox .calling)
  | .sender, .chatting (.acquiring r b) receiving => some (.chatting (.calling r b) receiving)
  | .receiver, .chatting sending .acquiring => some (.chatting sending .calling)
  | _, _ => none

/-- The list that is about to be compared. -/
def Position.showing? : Position → Option (List String)
  | .inbox (.showing chats) | .chatting _ (.showing chats) => some chats
  | _ => none

/-- Where a program goes on behind the comparison. -/
def Position.shown : Position → Position
  | .inbox _ => .listing
  | .chatting sending _ => .chatting sending .acquiring
  | position => position

/-- Only print messages if there is a change in the number of messages. -/
def Program.print (chats : List String) (program : Program) : Program :=
  if chats.length ≠ program.numMessages then
    { program with screen := chats, numMessages := chats.length }
  else program

/-- What `run_login` returns: a deletion does not log in. -/
def logsIn (method : AuthMethod) (response : Response) : Bool :=
  match method with
  | .register | .login => response.success
  | .deleteAccount => false

/-- The program behind a `send_request` of a thread that has returned. -/
def Program.answered (thread : Thread) (answer : Answer) (program : Program) : Program :=
  match thread, program.position, answer with
  | .main, .entering method u _, .response response =>
    if logsIn method response then
      { program with position := .inbox .acquiring, username := some u }
    else { program with position := .prompting }
  | .main, .inbox .calling, .chats chats =>
    { program with position := .inbox (.showing chats), locked := false, received := chats }
  | .main, .listing, .users _ => { program with position := .chatting .typing .acquiring }
  | .sender, .chatting (.calling _ _) receiving, .response _ =>
    { program with position := .chatting .typing receiving, locked := false }
  | .receiver, .chatting sending .calling, .chats chats =>
    { program with
      position := .chatting sending (.showing chats), locked := false, received := chats }
  | _, _, _ => program

/-- The program behind an attempt in `send_request` that has raised. -/
def Program.failed (program : Program) : Program :=
  { program with
    currLeader := program.currLeader + 1
    position := if program.currLeader + 1 > 2 then .exited else program.position }

/-- What a program does between its calls. -/
inductive Act where
  /-- The user answers the questions of `run_login`. -/
  | enter (choice username password : String)
  /-- The user answers the questions of `send_messages`. -/
  | compose (receiver body : String)
  | acquire (thread : Thread)
  | compare
deriving DecidableEq, Repr

/-- The program behind an act that it can do. -/
def Program.act (program : Program) : Act → Option Program
  | .enter choice u p =>
    if program.position = .prompting then
      some { program with position := .entering (chosenMethod choice) u p }
    else none
  | .compose r b =>
    match program.position with
    | .chatting .typing receiving =>
      some { program with position := .chatting (.acquiring r b) receiving }
    | _ => none
  | .acquire thread =>
    if program.locked then none
    else (program.position.acquired? thread).map fun position =>
      { program with position := position, locked := true }
  | .compare =>
    program.position.showing?.map fun chats =>
      { program.print chats with position := program.position.shown }

/-! ## Programs and servers -/

/-- The servers, and the programs of the clients. -/
structure Programs (ι : Type) where
  world : World
  program : ι → Program

/-- Freshly started servers with equal databases, and programs that have just been started. -/
def Programs.start {ι : Type} (db : Db) : Programs ι := ⟨.fresh db, fun _ => .start⟩

/-- The events of the system. -/
inductive ProgramEvent (ι : Type) where
  /-- An attempt of a thread in `send_request`, and what happens to the servers in its course. -/
  | attempt (client : ι) (thread : Thread) (fate : ℕ → ServerId → Bool)
  | act (client : ι) (act : Act)

section Programs

variable {ι : Type} [DecidableEq ι]

/-- One step, with the answer to an attempt. -/
def programStep (e : ProgramEvent ι) (sys : Programs ι) :
    Except Unit (Option Answer × Programs ι) :=
  match e with
  | .attempt c thread fate =>
    let program := sys.program c
    match program.request? thread with
    | some p =>
      if h : program.currLeader < 3 then
        match attempt fate ⟨program.currLeader, h⟩ p sys.world with
        | (some answer, w) =>
          .ok (some answer, ⟨w, Function.update sys.program c (program.answered thread answer)⟩)
        | (none, w) => .ok (none, ⟨w, Function.update sys.program c program.failed⟩)
      else .error ()
    | none => .error ()
  | .act c act =>
    match (sys.program c).act act with
    | some program => .ok (none, ⟨sys.world, Function.update sys.program c program⟩)
    | none => .error ()

end Programs

/-! ## What a step does -/

/-- What an act does. -/
inductive ActEffect (program : Program) : Act → Program → Prop
  /-- A method of `AuthService` has been chosen. -/
  | entered (choice u p : String) (hat : program.position = .prompting) :
      ActEffect program (.enter choice u p)
        { program with position := .entering (chosenMethod choice) u p }
  | composed (r b : String) (receiving : Receiving)
      (hat : program.position = .chatting .typing receiving) :
      ActEffect program (.compose r b)
        { program with position := .chatting (.acquiring r b) receiving }
  | acquired (thread : Thread) (position : Position) (hfree : program.locked = false)
      (hat : program.position.acquired? thread = some position) :
      ActEffect program (.acquire thread) { program with position := position, locked := true }
  | shown (chats : List String) (hat : program.position.showing? = some chats) :
      ActEffect program .compare
        { program.print chats with position := program.position.shown }

/-- An act that is done has its effect. -/
lemma act_effect {program program' : Program} {act : Act} (h : program.act act = some program') :
    ActEffect program act program' := by
  cases act with
  | enter choice u p =>
    simp only [Program.act] at h
    split_ifs at h with hat
    cases h
    exact .entered choice u p hat
  | compose r b =>
    simp only [Program.act] at h
    split at h
    · next receiving hat =>
      cases h
      exact .composed r b receiving hat
    · cases h
  | acquire thread =>
    simp only [Program.act] at h
    split_ifs at h with hlocked
    obtain ⟨position, hat, rfl⟩ := Option.map_eq_some_iff.mp h
    exact .acquired thread position (by simpa using hlocked) hat
  | compare =>
    obtain ⟨chats, hat, rfl⟩ := Option.map_eq_some_iff.mp h
    exact .shown chats hat

/-- What an answer does. -/
inductive AnswerEffect (program : Program) : Thread → Answer → Program → Prop
  /-- `run_login` has returned `True`. -/
  | loggedIn (method : AuthMethod) (u p : String) (response : Response)
      (hat : program.position = .entering method u p) :
      AnswerEffect program .main (.response response)
        { program with position := .inbox .acquiring, username := some u }
  /-- `run_login` has returned `False`. -/
  | turnedAway (method : AuthMethod) (u p : String) (response : Response)
      (hat : program.position = .entering method u p) :
      AnswerEffect program .main (.response response) { program with position := .prompting }
  /-- Messages have been received for the home page. -/
  | opened (chats : List String) (hat : program.position = .inbox .calling) :
      AnswerEffect program .main (.chats chats)
        { program with
          position := .inbox (.showing chats), locked := false, received := chats }
  /-- The usernames have been received, and the threads are started. -/
  | listed (users : List String) (hat : program.position = .listing) :
      AnswerEffect program .main (.users users)
        { program with position := .chatting .typing .acquiring }
  | sent (r b : String) (receiving : Receiving) (response : Response)
      (hat : program.position = .chatting (.calling r b) receiving) :
      AnswerEffect program .sender (.response response)
        { program with position := .chatting .typing receiving, locked := false }
  | polled (sending : Sending) (chats : List String)
      (hat : program.position = .chatting sending .calling) :
      AnswerEffect program .receiver (.chats chats)
        { program with
          position := .chatting sending (.showing chats), locked := false, received := chats }
  | ignored (thread : Thread) (answer : Answer) : AnswerEffect program thread answer program

/-- An answer has its effect. -/
lemma answer_effect (program : Program) (thread : Thread) (answer : Answer) :
    AnswerEffect program thread answer (program.answered thread answer) := by
  unfold Program.answered
  split
  · next method u p response hat =>
    split_ifs
    · exact .loggedIn method u p response hat
    · exact .turnedAway method u p response hat
  · next chats hat => exact .opened chats hat
  · next users hat => exact .listed users hat
  · next r b receiving response hat => exact .sent r b receiving response hat
  · next sending chats hat => exact .polled sending chats hat
  · exact .ignored _ _

/-- What a thread has requested, by where the program stands. -/
inductive RequestOf (program : Program) : Thread → Procedure → Prop
  /-- In `run_login`. -/
  | entering (method : AuthMethod) (u p : String) (hat : program.position = .entering method u p) :
      RequestOf program .main (authProcedure method u p)
  /-- In `receive_messages`, for the home page. -/
  | inbox (hat : program.position = .inbox .calling) :
      RequestOf program .main (.read (.receiveMessage program.name))
  /-- In `run_home`. -/
  | listing (hat : program.position = .listing) : RequestOf program .main (.read .getUsers)
  /-- In `send_messages`. -/
  | sending (r b : String) (receiving : Receiving)
      (hat : program.position = .chatting (.calling r b) receiving) :
      RequestOf program .sender (.write (.sendMessage program.name r b))
  /-- In `receive_messages`. -/
  | receiving (sending : Sending) (hat : program.position = .chatting sending .calling) :
      RequestOf program .receiver (.read (.receiveMessage program.name))

/-- A request that is underway is that of a place in the program. -/
lemma request_eq_some {program : Program} {thread : Thread} {p : Procedure} :
    program.request? thread = some p ↔ RequestOf program thread p := by
  constructor
  · intro h
    unfold Program.request? Position.request? at h
    split at h
    · next method u p' hat => exact Option.some.inj h ▸ .entering method u p' hat
    · next hat => exact Option.some.inj h ▸ .inbox hat
    · next hat => exact Option.some.inj h ▸ .listing hat
    · next r b receiving hat => exact Option.some.inj h ▸ .sending r b receiving hat
    · next sending hat => exact Option.some.inj h ▸ .receiving sending hat
    · cases h
  · rintro (⟨method, u, p', hat⟩ | hat | hat | ⟨r, b, receiving, hat⟩ | ⟨sending, hat⟩) <;>
      simp [Program.request?, Position.request?, hat]

section Steps

variable {ι : Type} [DecidableEq ι] {sys sys' : Programs ι} {answer : Option Answer} {c : ι}

/-- What an attempt of a thread is to the servers and to the program. -/
lemma programStep_attempt {thread : Thread} {fate : ℕ → ServerId → Bool}
    (hstep : programStep (.attempt c thread fate) sys = .ok (answer, sys')) :
    ∃ p, (sys.program c).request? thread = some p ∧
      ∃ k : ServerId, (k : ℕ) = (sys.program c).currLeader ∧
        attempt fate k p sys.world = (answer, sys'.world) ∧
        sys'.program = Function.update sys.program c
          (answer.elim (sys.program c).failed fun a => (sys.program c).answered thread a) := by
  unfold programStep at hstep
  dsimp only at hstep
  split at hstep
  · next p hrequest =>
    split_ifs at hstep with hlt
    refine ⟨p, hrequest, ⟨_, hlt⟩, rfl, ?_⟩
    split at hstep
    · next a w hattempt =>
      cases hstep
      exact ⟨hattempt, rfl⟩
    · next w hattempt =>
      cases hstep
      exact ⟨hattempt, rfl⟩
  · cases hstep

/-- What an act is to the servers and to the program. -/
lemma programStep_act {act : Act} (hstep : programStep (.act c act) sys = .ok (answer, sys')) :
    answer = none ∧ sys'.world = sys.world ∧ ∃ program', ActEffect (sys.program c) act program' ∧
      sys'.program = Function.update sys.program c program' := by
  unfold programStep at hstep
  dsimp only at hstep
  split at hstep
  · next program' hact =>
    cases hstep
    exact ⟨rfl, rfl, program', act_effect hact, rfl⟩
  · cases hstep

end Steps

/-! ## The lock -/

/-- A thread is where the lock is held. -/
def Position.Holds : Position → Prop
  | .inbox receiving => receiving = .calling
  | .chatting sending receiving => (∃ r b, sending = .calling r b) ∨ receiving = .calling
  | .prompting | .entering _ _ _ | .listing | .exited => False

/-- The lock is locked where it is held, and the two threads do not hold it together. -/
structure Program.Locked (program : Program) : Prop where
  locked : program.position.Holds → program.locked = true
  once : ∀ r b, program.position ≠ .chatting (.calling r b) .calling

section Locked

variable {program program' : Program} {thread thread' : Thread} {p p' : Procedure}

/-- A program is started with the lock free. -/
lemma locked_start : Program.start.Locked where
  locked := by simp [Program.start, Position.Holds]
  once := by simp [Program.start]

/-- One thread at most has a request underway. -/
lemma Program.Locked.same (h : program.Locked) (hp : program.request? thread = some p)
    (hp' : program.request? thread' = some p') : thread = thread' := by
  rcases request_eq_some.mp hp with ⟨_, _, _, hat⟩ | hat | hat | ⟨r, b, receiving, hat⟩ |
    ⟨sending, hat⟩ <;>
  rcases request_eq_some.mp hp' with ⟨_, _, _, hat'⟩ | hat' | hat' | ⟨r', b', receiving', hat'⟩ |
    ⟨sending', hat'⟩ <;>
  rw [hat] at hat' <;> cases hat' <;> first | rfl | exact absurd hat (h.once _ _)

/-- A thread that gets a free lock is the only one to hold it. -/
lemma once_of_acquired {position position' : Position} (hfree : ¬ position.Holds)
    (hat : position.acquired? thread = some position') (r b : String) :
    position' ≠ .chatting (.calling r b) .calling := by
  rintro rfl
  unfold Position.acquired? at hat
  split at hat
  · cases hat
  · cases hat
    exact hfree (.inr rfl)
  · cases hat
    exact hfree (.inl ⟨r, b, rfl⟩)
  · cases hat

/-- An act keeps the lock in order. -/
lemma Program.Locked.act {act : Act} (h : program.Locked)
    (heffect : ActEffect program act program') : program'.Locked := by
  cases heffect with
  | entered choice u p hat => exact ⟨by simp [Position.Holds], by simp⟩
  | composed r b receiving hat =>
    have hlocked := h.locked
    rw [hat] at hlocked
    exact ⟨fun hholds => hlocked (by simpa [Position.Holds] using hholds), by simp⟩
  | acquired thread position hfree hat =>
    have hholds : ¬ program.position.Holds := fun hholds => by
      rw [h.locked hholds] at hfree
      cases hfree
    exact ⟨fun _ => rfl, once_of_acquired hholds hat⟩
  | shown chats hat =>
    have hkept : (program.print chats).locked = program.locked := by
      unfold Program.print
      split_ifs <;> rfl
    rcases hposition : program.position with _ | _ | receiving | _ | ⟨sending, receiving⟩ | _ <;>
      rw [hposition] at hat
    · cases hat
    · cases hat
    · exact ⟨by simp [Position.shown, Position.Holds], by simp [Position.shown]⟩
    · cases hat
    · refine ⟨fun hholds => hkept.trans (h.locked ?_), by simp [Position.shown]⟩
      rw [hposition]
      simpa [Position.shown, Position.Holds] using hholds.elim .inl (by simp)
    · cases hat

/-- An answer keeps the lock in order. -/
lemma Program.Locked.answered {answer : Answer} (h : program.Locked)
    (heffect : AnswerEffect program thread answer program') : program'.Locked := by
  cases heffect with
  | loggedIn method u p response hat => exact ⟨by simp [Position.Holds], by simp⟩
  | turnedAway method u p response hat => exact ⟨by simp [Position.Holds], by simp⟩
  | opened chats hat => exact ⟨by simp [Position.Holds], by simp⟩
  | listed users hat => exact ⟨by simp [Position.Holds], by simp⟩
  | sent r b receiving response hat =>
    have hreceiving : receiving ≠ .calling := by
      rintro rfl
      exact h.once r b hat
    exact ⟨by simp [Position.Holds, hreceiving], by simp⟩
  | polled sending chats hat =>
    have hsending (r b : String) : sending ≠ .calling r b := by
      rintro rfl
      exact h.once r b hat
    exact ⟨by simp [Position.Holds, hsending], by simp⟩
  | ignored thread answer => exact h

/-- A failure keeps the lock in order. -/
lemma Program.Locked.failed (h : program.Locked) : program.failed.Locked := by
  unfold Program.failed
  split_ifs
  · exact ⟨by simp [Position.Holds], by simp⟩
  · exact ⟨h.locked, h.once⟩

/-- What the receiving thread has requested does not depend on the sending one. -/
lemma request_receiver (name : String) (sending sending' : Sending) (receiving : Receiving) :
    (Position.chatting sending receiving).request? name .receiver =
      (Position.chatting sending' receiving).request? name .receiver := by
  cases receiving <;> rfl

/-- Nor the other way round. -/
lemma request_sender (name : String) (sending : Sending) (receiving receiving' : Receiving) :
    (Position.chatting sending receiving).request? name .sender =
      (Position.chatting sending receiving').request? name .sender := by
  cases sending <;> rfl

/-- A thread that gets the lock disturbs no other one. -/
lemma request_acquired {position position' : Position} {name : String}
    (hat : position.acquired? thread' = some position')
    (hp : position.request? name thread = some p) : position'.request? name thread = some p := by
  unfold Position.acquired? at hat
  split at hat
  · cases thread <;> cases hp
  · cases hat
    cases thread with
    | main | sender => cases hp
    | receiver => rwa [request_receiver] at hp
  · cases hat
    cases thread with
    | main | receiver => cases hp
    | sender => rwa [request_sender] at hp
  · cases hat

/-- Nor does a comparison. -/
lemma request_shown {position : Position} {name : String} {chats : List String}
    (hat : position.showing? = some chats) (hp : position.request? name thread = some p) :
    position.shown.request? name thread = some p := by
  unfold Position.showing? at hat
  split at hat
  · cases thread <;> cases hp
  · cases thread with
    | main | receiver => cases hp
    | sender => rwa [request_sender] at hp
  · cases hat

/-- What has been requested is still underway behind an act. -/
lemma ActEffect.request {act : Act} (heffect : ActEffect program act program')
    (hp : program.request? thread = some p) : program'.request? thread = some p := by
  unfold Program.request? at hp ⊢
  cases heffect with
  | entered choice u p' hat =>
    rw [hat] at hp
    cases thread <;> cases hp
  | composed r b receiving hat =>
    rw [hat] at hp
    cases thread with
    | main | sender => cases hp
    | receiver => rwa [request_receiver] at hp
  | acquired thread' position hfree hat => exact request_acquired hat hp
  | shown chats hat =>
    have hname : (program.print chats).name = program.name := by
      unfold Program.print
      split_ifs <;> rfl
    rw [← hname] at hp
    exact request_shown hat hp

/-- A program that has exited does nothing. -/
lemma ActEffect.ne_exited {act : Act} (heffect : ActEffect program act program') :
    program.position ≠ .exited := by
  intro hexited
  cases heffect with
  | entered _ _ _ hat | composed _ _ _ hat =>
    rw [hexited] at hat
    cases hat
  | acquired thread _ _ hat =>
    rw [hexited] at hat
    cases thread <;> cases hat
  | shown _ hat =>
    rw [hexited] at hat
    cases hat

/-- An act leaves the leader alone. -/
lemma ActEffect.currLeader {act : Act} (heffect : ActEffect program act program') :
    program'.currLeader = program.currLeader := by
  cases heffect with
  | shown chats hat =>
    unfold Program.print
    split_ifs <;> rfl
  | _ => rfl

/-- So does an answer. -/
lemma AnswerEffect.currLeader {answer : Answer}
    (heffect : AnswerEffect program thread answer program') :
    program'.currLeader = program.currLeader := by
  cases heffect <;> rfl

/-- A request is underway until it is answered, or the program exits. -/
lemma request_failed (hp : program.request? thread = some p) :
    program.failed.position = .exited ∨ program.failed.request? thread = some p := by
  unfold Program.failed
  split_ifs
  · exact .inl rfl
  · exact .inr hp

end Locked

/-! ## The attempts of the programs -/

section Attempts

variable {ι : Type} [DecidableEq ι]

/-- The attempt that an event is. -/
def attempts (e : ProgramEvent ι) (sys : Programs ι) : List (Attempt ι) :=
  match e with
  | .attempt c thread fate =>
    match (sys.program c).request? thread with
    | some p => [⟨c, p, fate⟩]
    | none => []
  | .act _ _ => []

/-- Clients that make the attempts of the programs. -/
structure Attempting (sys : Programs ι) (cl : Clients ι) : Prop where
  world : cl.world = sys.world
  leader : ∀ c, cl.currLeader c = (sys.program c).currLeader
  /-- What a client waits for is the request of one of the threads, or the program has exited. -/
  pending : ∀ c p, cl.pending c = some p →
    (sys.program c).position = .exited ∨ ∃ thread, (sys.program c).request? thread = some p
  locked : ∀ c, (sys.program c).Locked

omit [DecidableEq ι] in
/-- At the beginning nobody has tried anything. -/
lemma attempting_start (db : Db) : Attempting (Programs.start db : Programs ι) (.fresh db) where
  world := rfl
  leader _ := rfl
  pending _ _ h := by cases h
  locked _ := locked_start

omit [DecidableEq ι] in
/-- A client whose thread has a request underway may attempt it. -/
lemma Attempting.due {sys : Programs ι} {cl : Clients ι} (h : Attempting sys cl) {c : ι}
    {thread : Thread} {p : Procedure} (hrequest : (sys.program c).request? thread = some p) :
    cl.pending c = none ∨ cl.pending c = some p := by
  rcases hpending : cl.pending c with _ | p'
  · exact .inl rfl
  · refine .inr ?_
    rcases h.pending c p' hpending with hexited | ⟨thread', hrequest'⟩
    · unfold Program.request? at hrequest
      rw [hexited] at hrequest
      cases thread <;> cases hrequest
    · rw [(h.locked c).same hrequest hrequest', hrequest'] at hrequest
      exact hrequest

/-- The program of one client changes, with what it waits for. -/
lemma Attempting.update {sys sys' : Programs ι} {cl cl' : Clients ι} (h : Attempting sys cl) {c : ι}
    {program' : Program} {waiting : Option Procedure} (hworld : cl'.world = sys'.world)
    (hprogram : sys'.program = Function.update sys.program c program')
    (hleader : cl'.currLeader = Function.update cl.currLeader c program'.currLeader)
    (hpending : cl'.pending = Function.update cl.pending c waiting)
    (hwaiting : ∀ p, waiting = some p →
      program'.position = .exited ∨ ∃ thread, program'.request? thread = some p)
    (hlocked : program'.Locked) : Attempting sys' cl' := by
  have hself : sys'.program c = program' := by rw [hprogram, Function.update_self]
  have hother (c' : ι) (hc : c' ≠ c) : sys'.program c' = sys.program c' := by
    rw [hprogram, Function.update_of_ne hc]
  refine ⟨hworld, fun c' => ?_, fun c' p hp => ?_, fun c' => ?_⟩ <;> by_cases hc : c' = c
  · rw [hc, hself, hleader, Function.update_self]
  · rw [hother c' hc, hleader, Function.update_of_ne hc]
    exact h.leader c'
  · rw [hc, hpending, Function.update_self] at hp
    rw [hc, hself]
    exact hwaiting p hp
  · rw [hpending, Function.update_of_ne hc] at hp
    rw [hother c' hc]
    exact h.pending c' p hp
  · rw [hc, hself]
    exact hlocked
  · rw [hother c' hc]
    exact h.locked c'

/-- A step of the programs is an attempt of the clients, or it is nothing to them. -/
lemma Attempting.step {e : ProgramEvent ι} {sys sys' : Programs ι} {cl : Clients ι}
    {answer : Option Answer} (h : Attempting sys cl)
    (hstep : programStep e sys = .ok (answer, sys')) :
    (∃ c thread fate p cl', e = .attempt c thread fate ∧
      (sys.program c).request? thread = some p ∧
      tryOnce ⟨c, p, fate⟩ cl = .ok (answer, cl') ∧ Attempting sys' cl') ∨
    (∃ c act, e = .act c act ∧ answer = none ∧ Attempting sys' cl) := by
  cases e with
  | attempt c thread fate =>
    obtain ⟨p, hrequest, k, hk, hattempt, hprogram⟩ := programStep_attempt hstep
    refine .inl ⟨c, thread, fate, p, ?_⟩
    have hleader : (k : ℕ) = cl.currLeader c := hk.trans (h.leader c).symm
    rw [← h.world] at hattempt
    rcases answer with _ | a
    · refine ⟨_, rfl, hrequest, tryOnce_of_failure cl hleader (h.due hrequest) hattempt, ?_⟩
      refine h.update rfl hprogram ?_ rfl ?_ (h.locked c).failed
      · rw [h.leader c]
        rfl
      · rintro _ ⟨⟩
        exact (request_failed hrequest).imp id fun hp => ⟨thread, hp⟩
    · have heffect := answer_effect (sys.program c) thread a
      refine ⟨_, rfl, hrequest, tryOnce_of_answer cl hleader (h.due hrequest) hattempt, ?_⟩
      refine h.update rfl hprogram ?_ rfl (fun p' hp' => by cases hp')
        ((h.locked c).answered heffect)
      rw [Option.elim_some, heffect.currLeader, ← h.leader c, Function.update_eq_self]
  | act c act =>
    obtain ⟨rfl, hworld, program', heffect, hprogram⟩ := programStep_act hstep
    refine .inr ⟨c, act, rfl, rfl, ?_⟩
    refine h.update (h.world.trans hworld.symm) hprogram ?_ (Function.update_eq_self c _).symm ?_
      ((h.locked c).act heffect)
    · rw [heffect.currLeader, ← h.leader c, Function.update_eq_self]
    · intro p hp
      obtain ⟨thread, hrequest⟩ := (h.pending c p hp).resolve_left heffect.ne_exited
      exact .inr ⟨thread, heffect.request hrequest⟩

/-- There is one account. -/
def annOnly : Db := ⟨{("ann", "x")}, fun _ => []⟩

/-- The user of the client `c` logs in as `ann`, and the program gets to its threads. -/
def annLogsIn (c : Fin 2) : List (ProgramEvent (Fin 2)) :=
  [.act c (.enter "Login" "ann" "x"), .attempt c .main fun _ _ => false, .act c (.acquire .main),
    .attempt c .main fun _ _ => false, .act c .compare, .attempt c .main fun _ _ => false]

/-- Any number of clients with their two threads each: in every run of their programs, the servers
and the leaders that the clients go by are those of a run of attempts, in which each client waits
for the answer to one request before it makes another. -/
theorem programs_refine_attempts {db : Db} {events : List (ProgramEvent ι)} {sys : Programs ι}
    (hrun : Foundation.run programStep events (.start db) = .ok sys) :
    ∃ cl : Clients ι, Foundation.run tryOnce (collect programStep attempts events (.start db))
        (.fresh db) = .ok cl ∧ Attempting sys cl := by
  refine run_collect_simulation ?_ (attempting_start db) hrun
  intro e sys₁ answer sys₂ cl h hstep
  rcases h.step hstep with ⟨c, thread, fate, p, cl', rfl, hrequest, htry, h'⟩ |
    ⟨c, act, rfl, -, h'⟩
  · refine ⟨cl', ?_, h'⟩
    rw [attempts, hrequest, run_cons htry]
    rfl
  · exact ⟨cl, rfl, h'⟩

/-- A login makes three attempts. -/
theorem programs_refine_attempts_ann : ∃ (sys : Programs (Fin 2)) (cl : Clients (Fin 2)),
    Foundation.run programStep (annLogsIn 0) (.start annOnly) = .ok sys ∧
    (collect programStep attempts (annLogsIn 0) (.start annOnly)).map Attempt.procedure =
      [.read (.login "ann" "x"), .read (.receiveMessage "ann"), .read .getUsers] ∧
    Foundation.run tryOnce (collect programStep attempts (annLogsIn 0) (.start annOnly))
      (.fresh annOnly) = .ok cl ∧ Attempting sys cl := by
  obtain ⟨sys, hrun, -⟩ := map_eq_ok.mp
    (show (Foundation.run programStep (annLogsIn 0) (.start annOnly)).map
      (fun sys => (sys.program 0).position) = .ok (.chatting .typing .acquiring) by decide +kernel)
  obtain ⟨cl, hattempts, hattempting⟩ := programs_refine_attempts hrun
  exact ⟨sys, cl, hrun, by decide +kernel, hattempts, hattempting⟩

end Attempts

/-! ## The end of a program -/

/-- What holds of a program that has passed over `currLeader` servers. -/
structure Program.Underway (program : Program) : Prop where
  passed : program.currLeader ≤ 3
  exited : program.position = .exited ↔ program.currLeader = 3
  freed : program.locked = true → program.position.Holds ∨ program.position = .exited

section Exit

variable {program program' : Program} {thread : Thread} {p : Procedure}

/-- A program starts with server 0. -/
lemma underway_start : Program.start.Underway where
  passed := Nat.zero_le 3
  exited := by simp [Program.start]
  freed := by simp [Program.start]

/-- A program goes from one place to another, and holds the lock at both or at none. -/
lemma Program.Underway.move (h : program.Underway) {position : Position}
    (hexited : program.position ≠ .exited) (hexited' : position ≠ .exited)
    (hholds : program.position.Holds → position.Holds) :
    { program with position := position }.Underway where
  passed := h.passed
  exited := iff_of_false hexited' (mt h.exited.mpr hexited)
  freed hlocked := .inl (hholds ((h.freed hlocked).resolve_right hexited))

/-- A program gets to a place where it holds the lock if it is locked. -/
lemma Program.Underway.lock (h : program.Underway) {position : Position} {locked : Bool}
    (hexited : program.position ≠ .exited) (hexited' : position ≠ .exited)
    (hholds : locked = true → position.Holds) :
    { program with position := position, locked := locked }.Underway where
  passed := h.passed
  exited := iff_of_false hexited' (mt h.exited.mpr hexited)
  freed hlocked := .inl (hholds hlocked)

/-- A thread that has got the lock holds it. -/
lemma holds_acquired {position position' : Position}
    (hat : position.acquired? thread = some position') : position'.Holds := by
  unfold Position.acquired? at hat
  split at hat
  · cases hat
    rfl
  · next r b receiving =>
    cases hat
    exact .inl ⟨r, b, rfl⟩
  · cases hat
    exact .inr rfl
  · cases hat

/-- Behind a comparison the lock is held as before. -/
lemma holds_shown {position : Position} {chats : List String}
    (hat : position.showing? = some chats) :
    position.shown ≠ .exited ∧ (position.Holds → position.shown.Holds) := by
  unfold Position.showing? at hat
  split at hat
  · exact ⟨by simp [Position.shown], by simp [Position.Holds]⟩
  · next sending chats' =>
    refine ⟨by simp [Position.shown], ?_⟩
    rintro (hsending | hreceiving)
    · exact .inl hsending
    · cases hreceiving
  · cases hat

/-- An act does not end a program. -/
lemma Program.Underway.act {act : Act} (h : program.Underway)
    (heffect : ActEffect program act program') : program'.Underway := by
  have hexited := heffect.ne_exited
  cases heffect with
  | entered choice u p hat => exact h.move hexited (by simp) (by simp [hat, Position.Holds])
  | composed r b receiving hat => exact h.move hexited (by simp) (by simp [hat, Position.Holds])
  | acquired thread position hfree hat =>
    have hholds := holds_acquired hat
    exact h.lock hexited (by rintro rfl; exact hholds) fun _ => hholds
  | shown chats hat =>
    obtain ⟨hexited', hholds⟩ := holds_shown hat
    unfold Program.print
    split_ifs
    · have hprinted : { program with screen := chats, numMessages := chats.length }.Underway :=
        ⟨h.passed, h.exited, h.freed⟩
      exact hprinted.move hexited hexited' hholds
    · exact h.move hexited hexited' hholds

/-- An answer does not either. -/
lemma Program.Underway.answered {answer : Answer} (h : program.Underway)
    (heffect : AnswerEffect program thread answer program') : program'.Underway := by
  cases heffect with
  | loggedIn method u p response hat =>
    have hnamed : { program with username := some u }.Underway := ⟨h.passed, h.exited, h.freed⟩
    exact hnamed.move (by simp [hat]) (by simp) (by simp [hat, Position.Holds])
  | turnedAway method u p response hat =>
    exact h.move (by simp [hat]) (by simp) (by simp [hat, Position.Holds])
  | opened chats hat | polled sending chats hat =>
    have hreceived : { program with received := chats }.Underway := ⟨h.passed, h.exited, h.freed⟩
    exact hreceived.lock (by simp [hat]) (by simp) (by simp)
  | listed users hat => exact h.move (by simp [hat]) (by simp) (by simp [hat, Position.Holds])
  | sent r b receiving response hat => exact h.lock (by simp [hat]) (by simp) (by simp)
  | ignored thread answer => exact h

/-- A program that fails at the last server exits. -/
lemma Program.Underway.failed (h : program.Underway) (hlt : program.currLeader < 3) :
    program.failed.Underway := by
  have hexited : program.position ≠ .exited := mt h.exited.mp (by omega)
  unfold Program.failed
  split_ifs with hlast
  · exact ⟨by dsimp only; omega, iff_of_true rfl (by dsimp only; omega), fun _ => .inr rfl⟩
  · exact ⟨by dsimp only; omega, iff_of_false hexited (by dsimp only; omega), h.freed⟩

/-- A thread that holds the lock has a request underway. -/
lemma Position.Holds.request {position : Position} (h : position.Holds) (name : String) :
    ∃ thread p, position.request? name thread = some p := by
  rcases position with _ | _ | receiving | _ | ⟨sending, receiving⟩ | _
  · exact h.elim
  · exact h.elim
  · obtain rfl : receiving = .calling := h
    exact ⟨.main, _, rfl⟩
  · exact h.elim
  · rcases h with ⟨r, b, rfl⟩ | rfl
    · exact ⟨.sender, _, rfl⟩
    · exact ⟨.receiver, _, rfl⟩
  · exact h.elim

/-- A program that has no request underway, and the lock free, can do something. -/
lemma Program.exists_act (program : Program) (hexited : program.position ≠ .exited)
    (hidle : ∀ thread, program.request? thread = none) (hfree : program.locked = false) :
    ∃ act program', program.act act = some program' := by
  unfold Program.request? at hidle
  rcases hat : program.position with _ | ⟨method, u, p⟩ | receiving | _ | ⟨sending, receiving⟩ | _
  · exact ⟨.enter "" "" "", _, if_pos hat⟩
  · rw [hat] at hidle
    cases hidle .main
  · rcases receiving with _ | _ | chats
    · exact ⟨.acquire .main, by simp [Program.act, hfree, hat, Position.acquired?]⟩
    · rw [hat] at hidle
      cases hidle .main
    · exact ⟨.compare, by simp [Program.act, hat, Position.showing?]⟩
  · rw [hat] at hidle
    cases hidle .main
  · rcases receiving with _ | _ | chats
    · exact ⟨.acquire .receiver, by simp [Program.act, hfree, hat, Position.acquired?]⟩
    · rw [hat] at hidle
      cases hidle .receiver
    · exact ⟨.compare, by simp [Program.act, hat, Position.showing?]⟩
  · exact absurd hat hexited

variable {ι : Type} [DecidableEq ι] {sys sys' : Programs ι} {cl : Clients ι} {e : ProgramEvent ι}
  {answer : Option Answer}

/-- A step keeps the programs in order. -/
lemma underway_step (h : ∀ c, (sys.program c).Underway)
    (hstep : programStep e sys = .ok (answer, sys')) (c : ι) : (sys'.program c).Underway := by
  have hupdate {c' : ι} {program' : Program} (h' : program'.Underway) :
      (Function.update sys.program c' program' c).Underway := by
    by_cases hc : c = c'
    · rwa [hc, Function.update_self]
    · rw [Function.update_of_ne hc]
      exact h c
  cases e with
  | attempt c' thread fate =>
    obtain ⟨p, -, k, hk, -, hprogram⟩ := programStep_attempt hstep
    rw [hprogram]
    rcases answer with _ | a
    · exact hupdate ((h c').failed (hk ▸ k.isLt))
    · exact hupdate ((h c').answered (answer_effect _ _ _))
  | act c' act =>
    obtain ⟨-, -, program', heffect, hprogram⟩ := programStep_act hstep
    rw [hprogram]
    exact hupdate ((h c').act heffect)

/-- A step keeps the clients that make the attempts settled. -/
lemma Attempting.settled (h : Attempting sys cl) (hsettled : cl.Settled)
    (hstep : programStep e sys = .ok (answer, sys')) :
    ∃ cl', Attempting sys' cl' ∧ cl'.Settled := by
  rcases h.step hstep with ⟨c, thread, fate, p, cl', -, -, htry, h'⟩ | ⟨c, act, -, -, h'⟩
  · exact ⟨cl', h', hsettled.tryOnce htry⟩
  · exact ⟨cl, h', hsettled⟩

/-- A request that is underway can be attempted, whatever happens to the servers. -/
lemma exists_attempt {c : ι} (hrequest : (sys.program c).request? thread = some p)
    (hlt : (sys.program c).currLeader < 3) (fate : ℕ → ServerId → Bool) :
    ∃ out, programStep (.attempt c thread fate) sys = .ok out := by
  simp only [programStep, hrequest, dif_pos hlt]
  split <;> exact ⟨_, rfl⟩

/-- In every run of the programs, each of them has exited and all servers have crashed, or it has a
request underway and may attempt it, or it can do something else, and every thread of it that waits
for the lock can get it. -/
theorem program_goes_on {db : Db} {events : List (ProgramEvent ι)}
    (hrun : Foundation.run programStep events (.start db) = .ok sys) (c : ι) :
    ((sys.program c).position = .exited ∧ ∀ s, sys.world.crashed s = true) ∨
    (∃ thread p, (sys.program c).request? thread = some p ∧
      ∀ fate, ∃ out, programStep (.attempt c thread fate) sys = .ok out) ∨
    ((∃ act out, programStep (.act c act) sys = .ok out) ∧
      ∀ thread position, (sys.program c).position.acquired? thread = some position →
        ∃ out, programStep (.act c (.acquire thread)) sys = .ok out) := by
  obtain ⟨cl, h, hsettled, hunderway⟩ : ∃ cl : Clients ι, Attempting sys cl ∧ cl.Settled ∧
      ∀ c, (sys.program c).Underway := by
    refine run_invariant (G := fun _ _ => True) (P := fun t => ∃ cl : Clients ι, Attempting t cl ∧
      cl.Settled ∧ ∀ c, (t.program c).Underway) ?_ (guarded_true events _) hrun
      ⟨_, attempting_start db, (standsFor_fresh db).settled, fun _ => underway_start⟩
    rintro e sys₁ answer sys₂ ⟨cl, h, hsettled, hunderway⟩ - hstep
    obtain ⟨cl', h', hsettled'⟩ := h.settled hsettled hstep
    exact ⟨cl', h', hsettled', underway_step hunderway hstep⟩
  by_cases hexited : (sys.program c).position = .exited
  · refine .inl ⟨hexited, fun s => ?_⟩
    rw [← h.world]
    refine hsettled.passed c s ?_
    rw [h.leader c, (hunderway c).exited.mp hexited]
    exact s.isLt
  · right
    have hlt : (sys.program c).currLeader < 3 :=
      lt_of_le_of_ne (hunderway c).passed (mt (hunderway c).exited.mpr hexited)
    by_cases hrequest : ∃ thread p, (sys.program c).request? thread = some p
    · obtain ⟨thread, p, hrequest⟩ := hrequest
      exact .inl ⟨thread, p, hrequest, exists_attempt hrequest hlt⟩
    · have hidle (thread : Thread) : (sys.program c).request? thread = none :=
        Option.eq_none_iff_forall_ne_some.mpr fun p hp => hrequest ⟨thread, p, hp⟩
      -- Who holds the lock has a request underway.
      have hfree : (sys.program c).locked = false := by
        rw [← Bool.not_eq_true]
        intro hlocked
        have hholds := ((hunderway c).freed hlocked).resolve_right hexited
        exact hrequest (hholds.request _)
      obtain ⟨act, program', hact⟩ := (sys.program c).exists_act hexited hidle hfree
      refine .inr ⟨⟨act, by simp [programStep, hact]⟩, fun thread position hat => ?_⟩
      simp [programStep, Program.act, hfree, hat]

/-- The user of client 1 logs in when all servers have stopped. -/
theorem program_goes_on_ann : ∃ sys : Programs (Fin 2),
    Foundation.run programStep [.act 1 (.enter "Login" "ann" "x"),
      .attempt 1 .main fun _ _ => true, .attempt 1 .main fun _ _ => true,
      .attempt 1 .main fun _ _ => true] (.start annOnly) = .ok sys ∧
    (sys.program 1).position = .exited ∧ ∀ s, sys.world.crashed s = true := by
  obtain ⟨sys, hrun, hposition⟩ := map_eq_ok.mp
    (show (Foundation.run programStep [.act (1 : Fin 2) (.enter "Login" "ann" "x"),
      .attempt 1 .main fun _ _ => true, .attempt 1 .main fun _ _ => true,
      .attempt 1 .main fun _ _ => true] (.start annOnly)).map
        (fun sys => (sys.program 1).position) = .ok .exited by decide +kernel)
  rcases program_goes_on hrun 1 with hexited | ⟨thread, p, hrequest, -⟩ | ⟨⟨act, out, hact⟩, -⟩
  · exact ⟨sys, hrun, hexited⟩
  · unfold Program.request? at hrequest
    rw [hposition] at hrequest
    cases thread <;> cases hrequest
  · obtain ⟨answer, sys'⟩ := out
    obtain ⟨-, -, program', heffect, -⟩ := programStep_act hact
    exact absurd hposition heffect.ne_exited

end Exit

end Chat262.Replication
