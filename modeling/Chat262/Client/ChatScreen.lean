import Chat262.Client.Listener
import Chat262.Foundation.TerminalLine

/-!
# The chat screen as a whole

The round of `interface::start` for the chat screen is sequential in `Interface.iteration`: first
the text is typed, and then the listener makes its calls.  `screen_refines_session` says that this
is what the two threads do, however they take turns: the connection to the server goes through the
same steps, and what is left to do when the listener has been joined is the same.

`screen_shows` is about what the user sees in the meantime: the line of the cursor is the prompt and
the text as far as it has been typed, and the chat above it is the one that has been received last.
-/

namespace Chat262

open Foundation

/-! ## The text that is being typed -/

namespace ChatScreen

/-- What `get_user_txt` is going to leave: the text, `hit_escape_` and the keys behind it. -/
def typing (s : ChatScreen) : Option (ByteString × Bool × List Keypress) :=
  match s.main with
  | .reading => getUserTxt s.members.partialTxt s.members.keys
  | .locking k | .handling k => getUserTxt s.members.partialTxt (k :: s.members.keys)
  | .tearingDown | .flagging | .notifying | .unlocking | .joining | .joined =>
    some (s.members.partialTxt, s.members.hitEscape, s.members.keys)

/-- The text that is going to be left is that of `typed`, which has all other members but the
results of the listener from the screen. -/
structure Follows (typed : Interface) (s : ChatScreen) : Prop where
  typing_eq : s.typing = some (typed.partialTxt, typed.hitEscape, typed.keys)
  members_eq : typed = { s.members with
    statCode := typed.statCode, currChat := typed.currChat, partialTxt := typed.partialTxt,
    hitEscape := typed.hitEscape, keys := typed.keys }

/-- A key does what `getUserTxt` makes of it. -/
lemma typing_handle {k : Keypress} {s : ChatScreen} (hmain : s.main = .handling k) :
    (s.handle k).typing = s.typing := by
  simp only [typing, hmain]
  cases k with
  | backspace =>
    rw [handle]
    split_ifs with hlen
    · rfl
    · have hempty : s.members.partialTxt = [] := List.eq_nil_of_length_eq_zero (by omega)
      simp [hempty, getUserTxt]
  | _ => rfl

variable {tid : ThreadId}

/-- Every step leaves what is going to be typed as it is. -/
theorem typing_step {s s' : ChatScreen} {e : ScreenEvent} {reply : Option Status}
    (hstep : screenStep tid e s = .ok (reply, s')) : s'.typing = s.typing := by
  cases screenStep_effect hstep with
  | pressed hmain hkeys => simp only [typing, hmain, hkeys]
  | handled hmain => exact typing_handle hmain
  | lockedKey hmain | lockedFlag hmain | flagged hmain | notified hmain | unlocked hmain
    | joined hmain => simp only [typing, hmain]
  | _ => rfl

/-- No step touches any other member than the results of the listener and what is typed. -/
theorem members_step {s s' : ChatScreen} {e : ScreenEvent} {reply : Option Status}
    (hstep : screenStep tid e s = .ok (reply, s')) :
    s'.members = { s.members with
      statCode := s'.members.statCode, currChat := s'.members.currChat,
      partialTxt := s'.members.partialTxt, hitEscape := s'.members.hitEscape,
      keys := s'.members.keys } := by
  cases screenStep_effect hstep with
  | @handled k hmain =>
    obtain ⟨main, output, txt, hitEscape, -, heq⟩ := s.handle_eq k
    rw [heq]
  | _ => rfl

/-- Every step leaves the text that is followed. -/
theorem Follows.step {typed : Interface} {s s' : ChatScreen} {e : ScreenEvent}
    {reply : Option Status} (h : Follows typed s)
    (hstep : screenStep tid e s = .ok (reply, s')) : Follows typed s' := by
  refine ⟨(typing_step hstep).trans h.typing_eq, ?_⟩
  rw [members_step hstep]
  exact h.members_eq

end ChatScreen

/-! ## The round of the loop -/

/-- What `interface::start` does behind the listener, which leaves these results. -/
def Interface.afterListener (typed : Interface) (statCode : StatusCode) (c : Chat) : Plan :=
  { typed with statCode := statCode, currChat := c }.callSendTxt

/-- The step of the session that a step of the screen is. -/
def ScreenEvent.session? : ScreenEvent → Option SessionEvent
  | .send block results => some (.send block results)
  | .receive results => some (.receive results)
  | .server action => some (.server action)
  | .main | .listener | .wake _ => none

namespace ChatScreen

/-- What is left of the round when the listener is going to send `n` requests. -/
def pending (n : ℕ) (typed : Interface) (s : ChatScreen) : Control :=
  match s.listener with
  | .awaiting _ =>
    .awaiting (Client.recvTxt s.members.correspondent) s.members.statCode s.members.currChat
      fun _ statCode c => .listen s.members.correspondent n statCode c typed.afterListener
  | _ =>
    .doing (.listen s.members.correspondent n s.members.statCode s.members.currChat
      typed.afterListener)

/-- The session that a screen stands for when these events are still to come. -/
def Simulates (typed : Interface) (events : List ScreenEvent) (s : ChatScreen)
    (session : Session) : Prop :=
  Follows typed s ∧ session = ⟨s.pending (events.countP ScreenEvent.isSend) typed, s.link⟩

/-- What is left of the round when the listener is not waiting for the server. -/
lemma pending_of_ne {n : ℕ} {typed : Interface} {s : ChatScreen}
    (h : ∀ prevSize, s.listener ≠ .awaiting prevSize) :
    s.pending n typed = .doing (.listen s.members.correspondent n s.members.statCode
      s.members.currChat typed.afterListener) := by
  unfold pending
  split
  · rename_i prevSize hat
    exact absurd hat (h prevSize)
  · rfl

/-- What the two threads do apart from the calls of the client leaves the session as it is. -/
lemma pending_congr {n : ℕ} {typed : Interface} {s s' : ChatScreen}
    (hlistener : s'.listener = s.listener ∨ (∀ prevSize, s.listener ≠ .awaiting prevSize) ∧
      ∀ prevSize, s'.listener ≠ .awaiting prevSize)
    (hcorrespondent : s'.members.correspondent = s.members.correspondent)
    (hstatCode : s'.members.statCode = s.members.statCode)
    (hchat : s'.members.currChat = s.members.currChat) :
    s'.pending n typed = s.pending n typed := by
  rcases hlistener with heq | ⟨hbefore, hafter⟩
  · rw [pending, pending, heq, hcorrespondent, hstatCode, hchat]
  · rw [pending_of_ne hbefore, pending_of_ne hafter, hcorrespondent, hstatCode, hchat]

/-- A key leaves alone what the session depends on. -/
lemma pending_handle (n : ℕ) (typed : Interface) (k : Keypress) (s : ChatScreen) :
    (s.handle k).pending n typed = s.pending n typed ∧ (s.handle k).link = s.link := by
  obtain ⟨main, output, txt, hitEscape, -, heq⟩ := s.handle_eq k
  rw [heq]
  exact ⟨pending_congr (.inl rfl) rfl rfl rfl, rfl⟩

/-- Every step of the screen is a step of the session, or none. -/
theorem Simulates.step {typed : Interface} {e : ScreenEvent} {events : List ScreenEvent}
    {s s' : ChatScreen} {session : Session} {reply : Option Status}
    (h : Simulates typed (e :: events) s session)
    (hstep : screenStep tid e s = .ok (reply, s')) :
    (e.session? = none ∧ Simulates typed events s' session) ∨
      ∃ e' r' session', e.session? = some e' ∧
        sessionStep tid e' session = .ok (r', session') ∧ Simulates typed events s' session' := by
  obtain ⟨hfollows, rfl⟩ := h
  have hfollows' := hfollows.step hstep
  have hstay (hsend : e.isSend = false) (hsession : e.session? = none)
      (hpending : ∀ n, s'.pending n typed = s.pending n typed) (hlink : s'.link = s.link) :
      (e.session? = none ∧ Simulates typed events s'
        ⟨s.pending ((e :: events).countP ScreenEvent.isSend) typed, s.link⟩) := by
    refine ⟨hsession, hfollows', ?_⟩
    rw [List.countP_cons_of_neg (by simp [hsend]), hpending, hlink]
  cases screenStep_effect hstep with
  | pressed hmain | lockedKey hmain | lockedFlag hmain | flagged hmain | unlocked hmain
    | joined hmain =>
    exact .inl (hstay rfl rfl (fun n => pending_congr (.inl rfl) rfl rfl rfl) rfl)
  | @handled k hmain =>
    exact .inl (hstay rfl rfl (fun n => (pending_handle n typed k s).1)
      (pending_handle 0 typed k s).2)
  | notified hmain =>
    refine .inl (hstay rfl rfl (fun n => pending_congr ?_ rfl rfl rfl) rfl)
    dsimp only
    split_ifs with hwaiting
    · exact .inr ⟨by simp [hwaiting], by simp⟩
    · exact .inl rfl
  | locked hfree hnext =>
    refine .inl (hstay rfl rfl (fun n => pending_congr (.inr ?_) rfl rfl rfl) rfl)
    rcases hnext with ⟨hlistener, rfl⟩ | ⟨timedOut, hlistener, rfl⟩ | ⟨prevSize, hlistener, rfl⟩ <;>
      simp [hlistener]
  | exited hlistener | armed hlistener | waited hlistener | timedOut hlistener
    | continued hlistener | sized hlistener | unchanged hlistener | drawn hlistener
    | woken hlistener =>
    exact .inl (hstay rfl rfl
      (fun n => pending_congr (.inr ⟨by simp [hlistener], by simp⟩) rfl rfl rfl) rfl)
  | sent hlistener hblock hsend =>
    refine .inr ⟨_, none, _, rfl, ?_, hfollows', rfl⟩
    rw [pending_of_ne (by simp [hlistener]), List.countP_cons_of_pos rfl]
    simp [sessionStep, Plan.listen, pending, hblock, hsend]
  | @unsent prevSize block sent results st hlistener hblock hsend hst =>
    refine .inr ⟨_, some st, _, rfl, ?_, hfollows', rfl⟩
    rw [pending_of_ne (by simp [hlistener]), List.countP_cons_of_pos rfl]
    simp [sessionStep, Plan.listen, pending, hblock, hsend, hst]
  | @received prevSize results st statCode c unread hlistener hreceive =>
    refine .inr ⟨_, some st, _, rfl, ?_, hfollows', rfl⟩
    rw [List.countP_cons_of_neg (by simp [ScreenEvent.isSend])]
    simp [sessionStep, pending, hlistener, hreceive]
  | served hlink =>
    refine .inr ⟨_, none, _, rfl, ?_, hfollows', rfl⟩
    rw [List.countP_cons_of_neg (by simp [ScreenEvent.isSend])]
    simp [sessionStep, hlink]
    rfl

end ChatScreen

/-- The two threads of the chat screen do what the round of the loop does that types the text first
and then listens, as often as the listener has sent a request: the connection and the server go
through the same steps in the same order, and behind the end of the listener the same is left to
do, with the same text. -/
theorem screen_refines_session {tid : ThreadId} {i : Interface} {link : Linked}
    {events : List ScreenEvent} {s : ChatScreen} (hscreen : i.next = .sendTxt)
    (hrun : run (screenStep tid) events (.start i link) = .ok s) (hjoined : s.main = .joined) :
    run (sessionStep tid)
        (.iterate (events.countP ScreenEvent.isSend) :: events.filterMap ScreenEvent.session?)
        ⟨.doing (.done i), link⟩ = .ok ⟨.doing s.members.callSendTxt, s.link⟩ := by
  have htyped : s.typing = some (s.members.partialTxt, s.members.hitEscape, s.members.keys) := by
    simp only [ChatScreen.typing, hjoined]
  have hsame : s.typing = (ChatScreen.start i link).typing :=
    run_invariant (P := fun s => s.typing = (ChatScreen.start i link).typing)
      (fun _ _ _ _ h _ hstep => (ChatScreen.typing_step hstep).trans h) (guarded_true _ _) hrun rfl
  let typed : Interface := { i with
    partialTxt := s.members.partialTxt, hitEscape := s.members.hitEscape, keys := s.members.keys }
  have hstart : ChatScreen.Follows typed (.start i link) := ⟨hsame.symm.trans htyped, rfl⟩
  -- The threads against the session, from the beginning of the listener on.
  obtain ⟨session, hsession, hfollows, rfl⟩ := run_simulation
    (fun _ _ _ _ _ _ h hstep => h.step hstep)
    (R := ChatScreen.Simulates typed) ⟨hstart, rfl⟩ hrun
  have hended : s.listener = .ended := (ChatScreen.invariants_of_run hrun).2.joined hjoined
  have hiterate : sessionStep tid (.iterate (events.countP ScreenEvent.isSend))
      ⟨.doing (.done i), link⟩ = .ok (none, ⟨(ChatScreen.start i link).pending
        (events.countP ScreenEvent.isSend) typed, (ChatScreen.start i link).link⟩) := by
    have hread : getUserTxt [] i.keys =
        some (s.members.partialTxt, s.members.hitEscape, s.members.keys) :=
      hsame.symm.trans htyped
    simp only [sessionStep, Interface.iteration, hscreen, Interface.getUserTxt, hread,
      Option.map_some]
    rw [← hscreen]
    rfl
  have hplan : typed.afterListener s.members.statCode s.members.currChat =
      s.members.callSendTxt := by
    rw [Interface.afterListener, hfollows.members_eq]
  rw [run_cons hiterate, hsession, ChatScreen.pending_of_ne (by simp [hended]), List.countP_nil,
    Plan.listen, hplan]

/-- The text is typed and sent while the listener waits for its timer. -/
theorem screen_refines_session_typing :
    ∃ s, run (screenStep 0) (List.replicate 3 .listener ++ List.replicate 10 .main ++
        List.replicate 3 .listener ++ [.main]) (.start typingX ⟨.initial, [], []⟩) = .ok s ∧
      s.main = .joined ∧ s.members.partialTxt = [120] ∧
      run (sessionStep 0) [.iterate 0] ⟨.doing (.done typingX), ⟨.initial, [], []⟩⟩ =
        .ok ⟨.doing s.members.callSendTxt, s.link⟩ := by
  have hrun : run (screenStep 0) (List.replicate 3 .listener ++ List.replicate 10 .main ++
      List.replicate 3 .listener ++ [.main]) (.start typingX ⟨.initial, [], []⟩) = .ok _ := rfl
  exact ⟨_, hrun, rfl, rfl, screen_refines_session rfl hrun rfl⟩

/-! ## What the user sees -/

/-- The text is being typed. -/
def MainAt.typing : MainAt → Bool
  | .reading | .locking _ | .handling _ => true
  | .tearingDown | .flagging | .notifying | .unlocking | .joining | .joined => false

/-- A chat has been received, and the screen is still the one from before. -/
def ListenerAt.redraws : ListenerAt → Bool
  | .relocking _ | .comparing _ => true
  | _ => false

/-- A chat that is received with as many texts as the one before is the one before. -/
def Steady (tid : ThreadId) (e : ScreenEvent) (s : ChatScreen) : Prop :=
  ∀ reply s', screenStep tid e s = .ok (reply, s') →
    s'.members.currChat.texts.length = s.members.currChat.texts.length →
    s'.members.currChat = s.members.currChat

/-- No key is a backspace in the disguise of a regular character. -/
def Typable (keys : List Keypress) : Prop := ∀ c, .regular c ∈ keys → c ≠ backspace

namespace ChatScreen

/-- The chat that is shown, where the listener stands. -/
def ShowsChat (currChat c : Chat) : ListenerAt → Prop
  | .calling prevSize | .awaiting prevSize => currChat = c ∧ prevSize = c.texts.length
  | .relocking prevSize | .comparing prevSize =>
    prevSize = c.texts.length ∧ (prevSize = currChat.texts.length → currChat = c)
  | _ => currChat = c

/-- The screen shows the chat `c`, and behind it `tail` has been written. -/
structure Drawn (c : Chat) (tail : ByteString) (s : ChatScreen) : Prop where
  output : s.output = s.members.drawChat c ++ tail
  line : s.main.typing = true → (Line.empty.write tail).Shows (prompt ++ s.members.partialTxt)
  chat : ShowsChat s.members.currChat c s.listener

/-- Nothing that has been or will be typed moves the cursor back. -/
structure Clean (s : ChatScreen) : Prop where
  txt : backspace ∉ s.members.partialTxt
  keys : Typable s.members.keys
  key : ∀ k, s.main = .locking k ∨ s.main = .handling k → Typable [k]

/-- The prompt moves the cursor on. -/
lemma backspace_notMem_prompt : backspace ∉ prompt := by decide

/-- A new screen shows the chat, the prompt and the text. -/
lemma drawn_drawSendTxt {i : Interface} (htxt : backspace ∉ i.partialTxt) :
    ∃ tail, i.drawSendTxt = i.drawChat i.currChat ++ tail ∧
      (Line.empty.write tail).Shows (prompt ++ i.partialTxt) := by
  refine ⟨prompt ++ i.partialTxt, by rw [Interface.drawSendTxt, List.append_assoc], ?_⟩
  have hclean : backspace ∉ prompt ++ i.partialTxt := by
    simp [backspace_notMem_prompt, htxt]
  simpa using Line.shows_empty.write hclean

/-- Every step keeps what is typed clean. -/
theorem Clean.step {s s' : ChatScreen} {e : ScreenEvent} {reply : Option Status} (h : s.Clean)
    (hstep : screenStep tid e s = .ok (reply, s')) : s'.Clean := by
  cases screenStep_effect hstep with
  | @pressed k keys hmain hkeys =>
    have hall := h.keys
    rw [hkeys] at hall
    refine ⟨h.txt, fun c hc => hall c (List.mem_cons_of_mem k hc), ?_⟩
    rintro k' (hk | hk)
    · cases hk
      exact fun c hc => hall c (List.mem_cons.mpr (.inl (List.mem_singleton.mp hc)))
    · cases hk
  | @lockedKey k hmain hfree =>
    refine ⟨h.txt, h.keys, ?_⟩
    rintro k' (hk | hk)
    · cases hk
    · cases hk
      exact h.key k (.inl hmain)
  | @handled k hmain =>
    have hkey := h.key k (.inr hmain)
    cases k with
    | regular c =>
      have hc : c ≠ backspace := hkey c (List.mem_singleton_self _)
      exact ⟨by simp [handle, h.txt, Ne.symm hc], h.keys, by simp [handle]⟩
    | backspace =>
      rw [handle]
      split_ifs
      · exact ⟨fun hmem => h.txt (List.mem_of_mem_dropLast hmem), h.keys, by simp⟩
      · exact ⟨h.txt, h.keys, by simp⟩
    | enter | escape | upArrow | downArrow | unknown =>
      exact ⟨h.txt, h.keys, by simp [handle]⟩
  | lockedFlag | flagged | notified | unlocked | joined => exact ⟨h.txt, h.keys, by simp⟩
  | _ => exact ⟨h.txt, h.keys, h.key⟩

/-- What is written goes behind what has been written. -/
lemma Drawn.output_append {c : Chat} {tail : ByteString} {s : ChatScreen} (h : s.Drawn c tail)
    (written : ByteString) : s.output ++ written = s.members.drawChat c ++ (tail ++ written) := by
  rw [h.output, List.append_assoc]

/-- A key shows what it does to the text. -/
lemma Drawn.handle {c : Chat} {tail : ByteString} {k : Keypress} {s : ChatScreen}
    (h : s.Drawn c tail) (hclean : s.Clean) (hmain : s.main = .handling k) :
    ∃ tail', (s.handle k).Drawn c tail' := by
  have hline := h.line (by rw [hmain, MainAt.typing])
  cases k with
  | regular b =>
    have hb : b ≠ Foundation.backspace := hclean.key _ (.inr hmain) b (List.mem_singleton_self _)
    refine ⟨tail ++ [b], h.output_append [b], fun _ => ?_, h.chat⟩
    rw [Line.write_append, ChatScreen.handle, ← List.append_assoc]
    exact hline.put hb
  | backspace =>
    rw [ChatScreen.handle]
    split_ifs with hlen
    · have hne : s.members.partialTxt ≠ [] := List.length_pos_iff.mp hlen
      refine ⟨tail ++ Line.erase, h.output_append Line.erase, fun _ => ?_, h.chat⟩
      rw [Line.write_append]
      refine Line.Shows.erase (c := s.members.partialTxt.getLast hne) ?_
      rwa [List.append_assoc, List.dropLast_append_getLast hne]
    · exact ⟨tail, h.output, fun _ => hline, h.chat⟩
  | enter =>
    exact ⟨tail ++ [10], h.output_append [10], by simp [ChatScreen.handle, MainAt.typing], h.chat⟩
  | escape => exact ⟨tail, h.output, by simp [ChatScreen.handle, MainAt.typing], h.chat⟩
  | upArrow | downArrow | unknown => exact ⟨tail, h.output, fun _ => hline, h.chat⟩

/-- Every step leaves a screen that shows what it is to show. -/
theorem Drawn.step {c : Chat} {tail : ByteString} {s s' : ChatScreen} {e : ScreenEvent}
    {reply : Option Status} (h : s.Drawn c tail) (hclean : s.Clean) (hsteady : Steady tid e s)
    (hstep : screenStep tid e s = .ok (reply, s')) : ∃ c' tail', s'.Drawn c' tail' := by
  have hchat := h.chat
  cases screenStep_effect hstep with
  | pressed hmain | lockedKey hmain =>
    exact ⟨c, tail, h.output, fun _ => h.line (by rw [hmain, MainAt.typing]), h.chat⟩
  | handled hmain => exact ⟨c, h.handle hclean hmain⟩
  | lockedFlag hmain | flagged hmain | unlocked hmain | joined hmain =>
    exact ⟨c, tail, h.output, by simp [MainAt.typing], h.chat⟩
  | notified hmain =>
    refine ⟨c, tail, h.output, by simp [MainAt.typing], ?_⟩
    dsimp only
    split_ifs with hwaiting
    · rw [hwaiting] at hchat
      exact hchat
    · exact hchat
  | locked hfree hnext =>
    refine ⟨c, tail, h.output, h.line, ?_⟩
    rcases hnext with ⟨hlistener, rfl⟩ | ⟨timedOut, hlistener, rfl⟩ | ⟨prevSize, hlistener, rfl⟩ <;>
      rwa [hlistener] at hchat
  | exited hlistener | armed hlistener | waited hlistener | timedOut hlistener
    | continued hlistener | woken hlistener | sent hlistener =>
    rw [hlistener] at hchat
    exact ⟨c, tail, h.output, h.line, hchat⟩
  | sized hlistener =>
    rw [hlistener] at hchat
    exact ⟨c, tail, h.output, h.line, hchat, by rw [show s.members.currChat = c from hchat]⟩
  | unchanged hlistener hsize =>
    rw [hlistener] at hchat
    exact ⟨c, tail, h.output, h.line, hchat.2 hsize⟩
  | drawn hlistener hsize =>
    obtain ⟨tail', houtput, hline⟩ := drawn_drawSendTxt hclean.txt
    exact ⟨s.members.currChat, tail', houtput, fun _ => hline, rfl⟩
  | unsent hlistener =>
    rw [hlistener] at hchat
    exact ⟨c, tail, h.output, h.line, hchat.2, fun _ => hchat.1⟩
  | @received prevSize results st statCode c' unread hlistener hreceive =>
    rw [hlistener] at hchat
    refine ⟨c, tail, h.output, h.line, hchat.2, fun hsize => ?_⟩
    have hsame := hsteady _ _ hstep (by rw [← hsize, hchat.2, hchat.1])
    exact hsame.trans hchat.1
  | served => exact ⟨c, tail, h.output, h.line, h.chat⟩

end ChatScreen

/-- The screen shows what it is to show, at every moment.  As long as a chat that is received with
as many texts as the one before is the one before, what has been written since the screen was
cleared is a chat and a line.  While the text is typed, the line reads as the prompt and the text as
far as it has been typed, and the cursor stands behind it.  The chat is the one that has been
received last, unless the listener is about to draw. -/
theorem screen_shows {tid : ThreadId} {i : Interface} {link : Linked} {events : List ScreenEvent}
    {s : ChatScreen} (hkeys : Typable i.keys)
    (hsteady : Guarded (screenStep tid) (Steady tid) events (.start i link))
    (hrun : run (screenStep tid) events (.start i link) = .ok s) :
    ∃ c tail, s.output = s.members.drawChat c ++ tail ∧
      (s.main.typing = true → (Line.empty.write tail).Shows (prompt ++ s.members.partialTxt)) ∧
      (s.listener.redraws = false → s.members.currChat = c) := by
  have hstart : (ChatScreen.start i link).Clean := ⟨by simp [ChatScreen.start], hkeys, by
    simp [ChatScreen.start]⟩
  obtain ⟨tail, houtput, hline⟩ := ChatScreen.drawn_drawSendTxt hstart.txt
  have hdrawn : (ChatScreen.start i link).Drawn i.currChat tail := ⟨houtput, fun _ => hline, rfl⟩
  obtain ⟨-, c, tail', h⟩ : s.Clean ∧ ∃ c tail, s.Drawn c tail := by
    refine run_invariant (P := fun s => s.Clean ∧ ∃ c tail, s.Drawn c tail) ?_ hsteady hrun
      ⟨hstart, _, _, hdrawn⟩
    rintro e s r s' ⟨hclean, c, tail, h⟩ hG hstep
    exact ⟨hclean.step hstep, h.step hclean hG hstep⟩
  refine ⟨c, tail', h.output, h.line, fun hredraws => ?_⟩
  have hchat := h.chat
  cases hlistener : s.listener with
  | relocking prevSize | comparing prevSize => rw [hlistener] at hredraws; cases hredraws
  | calling prevSize | awaiting prevSize =>
    rw [hlistener] at hchat
    exact hchat.1
  | _ =>
    rw [hlistener] at hchat
    exact hchat

/-- Only a response can bring another chat. -/
lemma steady_of_isReceive {tid : ThreadId} {e : ScreenEvent} {s : ChatScreen}
    (h : ∀ results, e ≠ .receive results) : Steady tid e s := by
  intro reply s' hstep _
  cases screenStep_effect hstep with
  | received => exact absurd rfl (h _)
  | @handled k =>
    obtain ⟨main, output, txt, hitEscape, -, heq⟩ := s.handle_eq k
    rw [heq]
  | _ => rfl

/-- One character has been typed, and the other thread waits. -/
theorem screen_shows_typing :
    ∃ s c tail, run (screenStep 0) (List.replicate 3 .main) (.start typingX ⟨.initial, [], []⟩) =
        .ok s ∧ s.output = s.members.drawChat c ++ tail ∧
      (Line.empty.write tail).Shows (prompt ++ [120]) ∧ c = ⟨[]⟩ := by
  have hrun : run (screenStep 0) (List.replicate 3 .main) (.start typingX ⟨.initial, [], []⟩) =
      .ok _ := rfl
  have hkeys : Typable typingX.keys := by simp [Typable, typingX, backspace]
  have hsteady : Guarded (screenStep 0) (Steady 0) (List.replicate 3 .main)
      (.start typingX ⟨.initial, [], []⟩) := by
    have hmain (s : ChatScreen) : Steady 0 .main s := steady_of_isReceive (by simp)
    exact ⟨hmain _, hmain _, hmain _, trivial⟩
  obtain ⟨c, tail, houtput, hline, hchat⟩ := screen_shows hkeys hsteady hrun
  exact ⟨_, c, tail, hrun, houtput, hline rfl, (hchat rfl).symm⟩

end Chat262
