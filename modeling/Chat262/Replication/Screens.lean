import Chat262.Replication.Client

/-!
# What the clients of the replicated service show

A client prints the list of messages when its length has changed.  As long as no client reads a
message that is missing behind the server which answers, lists only grow, and the screen shows the
last one that was received (`screen_is_current`).  A message whose sending has been answered with
success is then on the screen of its receiver after the next poll (`acknowledged_on_screen`).
Without this condition a list may be another one of the same length, and is not printed
(`screen_goes_stale`).
-/

namespace Chat262.Replication

open Foundation Comp

/-! ## What is on the screen -/

/-- The program has not logged in yet. -/
def Position.Early : Position → Prop
  | .prompting | .entering _ _ _ => True
  | .inbox _ | .listing | .chatting _ _ | .exited => False

/-- The screen of a program, with the servers of the world `w`. -/
structure Program.Shows (w : World) (program : Program) : Prop where
  /-- The number of messages is that of the messages on the screen. -/
  number : program.numMessages = program.screen.length
  held : ∀ s, w.crashed s = false →
    program.received <+: receiveMessage program.name (w.server s).db
  behind : program.screen <+: program.received
  /-- What is about to be compared is what has been received last. -/
  showing : ∀ chats, program.position.showing? = some chats → chats = program.received
  current : program.position ≠ .exited → program.position.showing? = none →
    program.screen = program.received
  early : program.position.Early → program.received = []

section Shows

variable {program program' : Program} {w w' : World} {thread : Thread}

/-- A program starts with an empty screen. -/
lemma shows_start (w : World) : Program.start.Shows w where
  number := rfl
  held _ _ := List.nil_prefix
  behind := List.nil_prefix
  showing _ h := by cases h
  current _ _ := rfl
  early _ := rfl

/-- What happens to the servers does not matter to the screen. -/
lemma Program.Shows.grown (h : program.Shows w) (hgrown : Grown w w') : program.Shows w' where
  __ := h
  held s hs := (h.held s (hgrown.later.alive hs)).trans ((hgrown.messages s _).map _)

/-- Nor does a change of the place that neither shows nor logs in. -/
lemma Program.Shows.move (h : program.Shows w) {position : Position} {locked : Bool}
    (hshowing : position.showing? = program.position.showing?)
    (hexited : position ≠ .exited → program.position ≠ .exited)
    (hearly : position.Early → program.position.Early) :
    { program with position := position, locked := locked }.Shows w where
  number := h.number
  held := h.held
  behind := h.behind
  showing chats hat := h.showing chats (hshowing.symm.trans hat)
  current hne hat := h.current (hexited hne) (hshowing.symm.trans hat)
  early hat := h.early (hearly hat)

/-- Messages are received that the servers hold. -/
lemma Program.Shows.receive (h : program.Shows w) {position : Position} {chats : List String}
    (hshowing : position.showing? = some chats) (hearly : ¬ position.Early)
    (hgrown : program.received <+: chats)
    (hheld : ∀ s, w.crashed s = false → chats <+: receiveMessage program.name (w.server s).db) :
    { program with position := position, locked := false, received := chats }.Shows w where
  number := h.number
  held := hheld
  behind := h.behind.trans hgrown
  showing chats' hat := Option.some.inj (hat.symm.trans hshowing)
  current _ hat := by
    rw [hshowing] at hat
    cases hat
  early hat := absurd hat hearly

/-- Behind a comparison nothing is about to be compared. -/
lemma shown_of_showing {position : Position} {chats : List String}
    (hat : position.showing? = some chats) :
    position.shown.showing? = none ∧ ¬ position.shown.Early := by
  cases position with
  | inbox | chatting => exact ⟨rfl, id⟩
  | prompting | entering | listing | exited => cases hat

/-- Behind a comparison the screen shows what has been received. -/
lemma Program.Shows.compare (h : program.Shows w) {chats : List String}
    (hat : program.position.showing? = some chats) :
    { program.print chats with position := program.position.shown }.Shows w := by
  obtain rfl := h.showing chats hat
  obtain ⟨hnone, hlate⟩ := shown_of_showing hat
  have hshowing (chats : List String) (hat : program.position.shown.showing? = some chats) :
      chats = program.received := by
    rw [hnone] at hat
    cases hat
  unfold Program.print
  split_ifs with hlength
  · exact ⟨rfl, h.held, List.prefix_rfl, hshowing, fun _ _ => rfl, fun hat => absurd hat hlate⟩
  · -- A list that starts with the one on the screen and is no longer is the one on the screen.
    have hsame : program.screen = program.received :=
      h.behind.eq_of_length (h.number.symm.trans (not_not.mp hlength).symm)
    exact ⟨h.number, h.held, h.behind, hshowing, fun _ _ => hsame, fun hat => absurd hat hlate⟩

/-- A thread that gets the lock shows nothing. -/
lemma showing_acquired {position position' : Position}
    (hat : position.acquired? thread = some position') :
    position'.showing? = position.showing? ∧ position ≠ .exited ∧ ¬ position'.Early := by
  unfold Position.acquired? at hat
  split at hat
  · cases hat
    exact ⟨rfl, by simp, id⟩
  · next receiving =>
    cases hat
    cases receiving <;> exact ⟨rfl, by simp, id⟩
  · cases hat
    exact ⟨rfl, by simp, id⟩
  · cases hat

/-- An act keeps the screen in order. -/
lemma Program.Shows.act {act : Act} (h : program.Shows w)
    (heffect : ActEffect program act program') : program'.Shows w := by
  cases heffect with
  | entered choice u p hat =>
    exact h.move (by rw [hat]; rfl) (fun _ => by simp [hat]) fun _ => by simp [hat, Position.Early]
  | composed r b receiving hat =>
    exact h.move (by rw [hat]; cases receiving <;> rfl) (fun _ => by simp [hat]) False.elim
  | acquired thread position hfree hat =>
    obtain ⟨hshowing, hexited, hlate⟩ := showing_acquired hat
    exact h.move hshowing (fun _ => hexited) fun hearly => absurd hearly hlate
  | shown chats hat => exact h.compare hat

/-- So does a failure. -/
lemma Program.Shows.failed (h : program.Shows w) : program.failed.Shows w := by
  unfold Program.failed
  split_ifs
  · exact ⟨h.number, h.held, h.behind, fun _ hat => (by cases hat), fun hne => absurd rfl hne,
      False.elim⟩
  · exact ⟨h.number, h.held, h.behind, h.showing, h.current, h.early⟩

/-- An answer keeps the screen in order, when messages that are received are held by the servers and
continue those that were received before. -/
lemma Program.Shows.answered {a : Answer} (h : program.Shows w)
    (heffect : AnswerEffect program thread a program')
    (hreceived : program.request? thread = some (.read (.receiveMessage program.name)) →
      ∀ chats, a = .chats chats → program.received <+: chats ∧ ∀ s, w.crashed s = false →
        chats <+: receiveMessage program.name (w.server s).db) : program'.Shows w := by
  cases heffect with
  | loggedIn method u p response hat =>
    have hnone : program.received = [] := h.early (by simp [hat, Position.Early])
    have hscreen : program.screen = [] := by simpa [hnone] using h.behind
    exact ⟨h.number, fun s _ => by simp [hnone], h.behind, fun _ hat' => (by cases hat'),
      fun _ _ => hscreen.trans hnone.symm, False.elim⟩
  | turnedAway method u p response hat =>
    exact h.move (by rw [hat]; rfl) (fun _ => by simp [hat]) fun _ => by simp [hat, Position.Early]
  | opened chats hat =>
    obtain ⟨hgrown, hheld⟩ := hreceived (request_eq_some.mpr (.inbox hat)) chats rfl
    exact h.receive rfl id hgrown hheld
  | listed users hat => exact h.move (by rw [hat]; rfl) (fun _ => by simp [hat]) False.elim
  | sent r b receiving response hat =>
    exact h.move (by rw [hat]; cases receiving <;> rfl) (fun _ => by simp [hat]) False.elim
  | polled sending chats hat =>
    obtain ⟨hgrown, hheld⟩ := hreceived (request_eq_some.mpr (.receiving sending hat)) chats rfl
    exact h.receive rfl id hgrown hheld
  | ignored thread answer => exact h

/-- What has been received is continued by what is received then. -/
lemma AnswerEffect.received {a : Answer} (heffect : AnswerEffect program thread a program')
    (hreceived : program.request? thread = some (.read (.receiveMessage program.name)) →
      ∀ chats, a = .chats chats → program.received <+: chats) :
    program.received <+: program'.received := by
  cases heffect with
  | opened chats hat => exact hreceived (request_eq_some.mpr (.inbox hat)) chats rfl
  | polled sending chats hat =>
    exact hreceived (request_eq_some.mpr (.receiving sending hat)) chats rfl
  | _ => exact List.prefix_rfl

/-- An act receives nothing. -/
lemma ActEffect.received {act : Act} (heffect : ActEffect program act program') :
    program'.received = program.received := by
  cases heffect with
  | shown chats hat =>
    unfold Program.print
    split_ifs <;> rfl
  | _ => rfl

/-- Messages that are asked for are those of the user, and are received. -/
lemma received_answered {r : String} (hrequest :
    program.request? thread = some (.read (.receiveMessage r))) (chats : List String) :
    r = program.name ∧ (program.answered thread (.chats chats)).received = chats := by
  generalize hp : Procedure.read (.receiveMessage r) = p at hrequest
  rcases request_eq_some.mp hrequest with ⟨method, u, p', hat⟩ | hat | hat | ⟨_, _, _, hat⟩ |
    ⟨_, hat⟩
  · cases method <;> cases hp
  · cases hp
    simp [Program.answered, hat]
  · cases hp
  · cases hp
  · cases hp
    simp [Program.answered, hat]

end Shows

/-! ## Runs of the programs -/

section Runs

variable {ι : Type} [DecidableEq ι] {sys sys' : Programs ι} {cl : Clients ι} {e : ProgramEvent ι}
  {answer : Option Answer}

/-- No message is read that is missing behind the server which answers. -/
def ReadsSettled (e : ProgramEvent ι) (sys : Programs ι) : Prop :=
  ∀ c thread fate r, e = .attempt c thread fate →
    (sys.program c).request? thread = some (.read (.receiveMessage r)) →
    ∀ k : ServerId, (k : ℕ) = (sys.program c).currLeader → ¬ Missing r k sys.world

/-- A step of the programs lets the servers grow. -/
lemma grown_programStep (hstep : programStep e sys = .ok (answer, sys')) :
    Grown sys.world sys'.world := by
  cases e with
  | attempt c thread fate =>
    obtain ⟨p, -, k, -, hattempt, -⟩ := programStep_attempt hstep
    have hgrown := grown_attempt fate k p sys.world
    rwa [hattempt] at hgrown
  | act c act =>
    obtain ⟨-, hworld, -⟩ := programStep_act hstep
    rw [hworld]
    exact Std.Refl.refl _

omit [DecidableEq ι] in
/-- Messages that a program receives continue those that it has received before, and every server
that is up holds them. -/
lemma Attempting.received (h : Attempting sys cl) (hsettled : cl.Settled) {c : ι} {k : ServerId}
    {fate : ℕ → ServerId → Bool} {chats : List String} {w' : World}
    (hshows : (sys.program c).Shows sys.world) (hk : (k : ℕ) = (sys.program c).currLeader)
    (hmissing : ¬ Missing (sys.program c).name k sys.world)
    (hattempt : attempt fate k (.read (.receiveMessage (sys.program c).name)) sys.world =
      (some (.chats chats), w')) :
    (sys.program c).received <+: chats ∧ ∀ s, w'.crashed s = false →
      chats <+: receiveMessage (sys.program c).name (w'.server s).db := by
  obtain ⟨hlater, hsame, hup, -, hchats⟩ := attempt_read hattempt
  obtain rfl := Answer.chats.inj hchats
  have hbefore (j : ServerId) (hj : j < k) : sys.world.crashed j = true := by
    rw [← h.world]
    exact hsettled.passed c j (by rw [h.leader c, ← hk]; exact hj)
  have hunfinished : Unfinished sys.world := h.world ▸ hsettled.unfinished
  refine ⟨hshows.held k hup, fun s hs => ?_⟩
  have hshown := hunfinished.shown hup hbefore hmissing (hlater.alive hs)
  unfold receiveMessage
  rw [hsame, hshown]

/-- A step keeps the screens in order, if it reads nothing that is missing, and what has been
received is continued by what is received. -/
lemma shows_step (h : Attempting sys cl) (hsettled : cl.Settled)
    (hshows : ∀ c, (sys.program c).Shows sys.world) (hreads : ReadsSettled e sys)
    (hstep : programStep e sys = .ok (answer, sys')) (c : ι) :
    (sys'.program c).Shows sys'.world ∧
      (sys.program c).received <+: (sys'.program c).received := by
  have hgrown := grown_programStep hstep
  cases e with
  | attempt c' thread fate =>
    obtain ⟨p, hrequest, k, hk, hattempt, hprogram⟩ := programStep_attempt hstep
    by_cases hc : c = c'
    · subst hc
      rw [hprogram, Function.update_self]
      rcases answer with _ | a
      · exact ⟨((hshows c).grown hgrown).failed, List.prefix_rfl⟩
      · have hreceived : (sys.program c).request? thread =
              some (.read (.receiveMessage (sys.program c).name)) → ∀ chats, a = .chats chats →
            (sys.program c).received <+: chats ∧ ∀ s, sys'.world.crashed s = false →
              chats <+: receiveMessage (sys.program c).name (sys'.world.server s).db := by
          rintro hreceive chats rfl
          obtain rfl := Option.some.inj (hrequest.symm.trans hreceive)
          exact h.received hsettled (hshows c) hk (hreads c thread fate _ rfl hrequest k hk)
            hattempt
        have heffect := answer_effect (sys.program c) thread a
        exact ⟨((hshows c).grown hgrown).answered heffect hreceived,
          heffect.received fun hreceive chats ha => (hreceived hreceive chats ha).1⟩
    · rw [hprogram, Function.update_of_ne hc]
      exact ⟨(hshows c).grown hgrown, List.prefix_rfl⟩
  | act c' act =>
    obtain ⟨-, hworld, program', heffect, hprogram⟩ := programStep_act hstep
    rw [hworld]
    by_cases hc : c = c'
    · subst hc
      rw [hprogram, Function.update_self, heffect.received]
      exact ⟨(hshows c).act heffect, List.prefix_rfl⟩
    · rw [hprogram, Function.update_of_ne hc]
      exact ⟨hshows c, List.prefix_rfl⟩

/-- A run that reads nothing that is missing keeps the screens in order. -/
lemma shows_of_run {events : List (ProgramEvent ι)} (h : Attempting sys cl) (hsettled : cl.Settled)
    (hshows : ∀ c, (sys.program c).Shows sys.world)
    (hreads : Guarded programStep ReadsSettled events sys)
    (hrun : Foundation.run programStep events sys = .ok sys') (c : ι) :
    (sys'.program c).Shows sys'.world ∧
      (sys.program c).received <+: (sys'.program c).received := by
  have hinvariant : ∃ cl : Clients ι, (Attempting sys' cl ∧ cl.Settled) ∧
      (∀ c, (sys'.program c).Shows sys'.world) ∧
        (sys.program c).received <+: (sys'.program c).received := by
    refine run_invariant (P := fun t => ∃ cl : Clients ι, (Attempting t cl ∧ cl.Settled) ∧
      (∀ c, (t.program c).Shows t.world) ∧
        (sys.program c).received <+: (t.program c).received) ?_ hreads hrun
      ⟨cl, ⟨h, hsettled⟩, hshows, List.prefix_rfl⟩
    rintro e sys₁ answer sys₂ ⟨cl₁, ⟨h₁, hsettled₁⟩, hshows₁, hreceived⟩ hG hstep
    have hnext := shows_step h₁ hsettled₁ hshows₁ hG hstep
    obtain ⟨cl₂, h₂, hsettled₂⟩ := h₁.settled hsettled₁ hstep
    exact ⟨cl₂, ⟨h₂, hsettled₂⟩, fun c => (hnext c).1, hreceived.trans (hnext c).2⟩
  obtain ⟨-, -, hshows', hreceived⟩ := hinvariant
  exact ⟨hshows' c, hreceived⟩

/-- The message that an event has sent when it is answered so. -/
def confirmed (e : ProgramEvent ι) (sys : Programs ι) : List Message :=
  match e with
  | .attempt c thread fate =>
    match (sys.program c).request? thread, programStep (.attempt c thread fate) sys with
    | some p, .ok (answer, _) => p.acknowledged answer
    | _, _ => []
  | .act _ _ => []

/-- In every run of the programs the store holds the messages that have been acknowledged. -/
lemma exists_store_of_run {db : Db} {events : List (ProgramEvent ι)}
    (hrun : Foundation.run programStep events (.start db) = .ok sys) :
    ∃ (cl : Clients ι) (t : SingleStore ι), Attempting sys cl ∧ StandsFor cl t ∧
      ∀ m : Message, db.copies m + (collect programStep confirmed events (.start db)).count m ≤
        t.db.copies m := by
  refine run_history (G := fun _ _ => True)
    (P := fun events sys => ∃ (cl : Clients ι) (t : SingleStore ι), Attempting sys cl ∧
      StandsFor cl t ∧ ∀ m : Message, db.copies m +
        (collect programStep confirmed events (.start db)).count m ≤ t.db.copies m)
    ⟨.fresh db, .fresh db, attempting_start db, standsFor_fresh db, fun m => by
      simp [SingleStore.fresh]⟩ ?_ (guarded_true events _) hrun
  rintro before e sys₁ answer sys₂ hbefore ⟨cl, t, h, hstands, hcopies⟩ - hstep
  rcases h.step hstep with ⟨c, thread, fate, p, cl', rfl, hrequest, htry, h'⟩ |
    ⟨c, act, rfl, -, h'⟩
  · obtain ⟨t', hrule, hstands'⟩ := refines_store.exists_of_eq_ok hstands htry
    refine ⟨cl', t', h', hstands', fun m => ?_⟩
    have hold := hcopies m
    have hnew : t.db.copies m + (p.acknowledged answer).count m ≤ t'.db.copies m :=
      hrule.copies m
    have hseen : confirmed (.attempt c thread fate) sys₁ = p.acknowledged answer := by
      simp only [confirmed, hstep, hrequest]
    rw [collect_concat hbefore hstep, List.count_append, hseen]
    omega
  · refine ⟨cl, t, h', hstands, fun m => ?_⟩
    rw [collect_concat hbefore hstep, confirmed, List.append_nil]
    exact hcopies m

/-- In every run that reads nothing that is missing, every program that is running and not about to
compare what it has received shows the messages that it has received last. -/
theorem screen_is_current {db : Db} {events : List (ProgramEvent ι)}
    (hreads : Guarded programStep ReadsSettled events (.start db))
    (hrun : Foundation.run programStep events (.start db) = .ok sys) {c : ι}
    (hexited : (sys.program c).position ≠ .exited)
    (hshowing : (sys.program c).position.showing? = none) :
    (sys.program c).screen = (sys.program c).received :=
  (shows_of_run (attempting_start db) (standsFor_fresh db).settled (fun _ => shows_start _) hreads
    hrun c).1.current hexited hshowing

omit [DecidableEq ι] in
/-- Nothing is missing behind server 0 as long as it leads. -/
lemma readsSettled_of_leader {e : ProgramEvent ι} {sys : Programs ι}
    (h : (sys.world.server 0).amILeader = true ∧ ∀ c, (sys.program c).currLeader = 0) :
    ReadsSettled e sys := by
  intro c thread fate r _ _ k hk hmissing
  obtain rfl : k = 0 := Fin.ext (hk.trans (h.2 c))
  have hrole := hmissing.2.1
  rw [h.1] at hrole
  cases hrole

/-- The screen of a user who has logged in to an empty inbox. -/
theorem screen_is_current_ann : ∃ sys : Programs (Fin 2),
    Foundation.run programStep (annLogsIn 0) (.start annOnly) = .ok sys ∧
    (sys.program 0).screen = (sys.program 0).received := by
  obtain ⟨sys, hrun, hposition⟩ := map_eq_ok.mp
    (show (Foundation.run programStep (annLogsIn 0) (.start annOnly)).map
      (fun sys => (sys.program 0).position) = .ok (.chatting .typing .acquiring) by decide +kernel)
  have hleader : Guarded programStep (fun _ sys => (sys.world.server 0).amILeader = true ∧
      ∀ c, (sys.program c).currLeader = 0) (annLogsIn 0) (.start annOnly) := by
    decide +kernel
  exact ⟨sys, hrun, screen_is_current (hleader.mono fun _ _ => readsSettled_of_leader) hrun
    (by rw [hposition]; simp) (by rw [hposition]; rfl)⟩

/-- A message that has been sent comes to the screen.  In every run that reads nothing that is
missing, when a message to a user has been acknowledged before the program of the user calls
`ReceiveMessage`, then it is on the screen from the comparison behind this call on, as often as it
has been acknowledged. -/
theorem acknowledged_on_screen {db : Db} {before after : List (ProgramEvent ι)}
    {sys₁ sys₂ sys₃ : Programs ι} {c : ι} {thread : Thread} {fate : ℕ → ServerId → Bool}
    {chats : List String} (hbefore : Foundation.run programStep before (.start db) = .ok sys₁)
    (hpoll : programStep (.attempt c thread fate) sys₁ = .ok (some (.chats chats), sys₂))
    (hafter : Foundation.run programStep after sys₂ = .ok sys₃)
    (hreads : Guarded programStep ReadsSettled (before ++ .attempt c thread fate :: after)
      (.start db))
    (hexited : (sys₃.program c).position ≠ .exited)
    (hshowing : (sys₃.program c).position.showing? = none) {m : Message}
    (hm : m.receiver = (sys₁.program c).name) :
    db.copies m + (collect programStep confirmed before (.start db)).count m ≤
      (sys₃.program c).screen.count m.chat := by
  obtain ⟨hreads₁, hreads₂⟩ := (guarded_append hbefore).mp hreads
  obtain ⟨hread, hreads₃⟩ := (guarded_cons hpoll).mp hreads₂
  obtain ⟨cl₁, t, h₁, hstands, hcopies⟩ := exists_store_of_run hbefore
  have hshows₁ (c : ι) : (sys₁.program c).Shows sys₁.world :=
    (shows_of_run (attempting_start db) (standsFor_fresh db).settled (fun _ => shows_start _)
      hreads₁ hbefore c).1
  have hshows₂ (c : ι) : (sys₂.program c).Shows sys₂.world :=
    (shows_step h₁ hstands.settled hshows₁ hread hpoll c).1
  rcases h₁.step hpoll with ⟨_, _, _, p, cl₂, he, hrequest, htry, h₂⟩ | ⟨_, _, -, hnone, -⟩
  · obtain ⟨rfl, rfl, rfl⟩ := ProgramEvent.attempt.inj he
    obtain ⟨t', hrule, hstands₂⟩ := refines_store.exists_of_eq_ok hstands htry
    obtain ⟨r, E, rfl, hE, rfl⟩ := hrule.exists_of_chats
    obtain ⟨p', hrequest', k, -, -, hprogram⟩ := programStep_attempt hpoll
    obtain ⟨rfl, hchats⟩ := received_answered hrequest (receiveMessage r E)
    obtain ⟨hshows₃, hreceived⟩ := shows_of_run h₂ hstands₂.settled hshows₂ hreads₃ hafter c
    rw [hprogram, Function.update_self, Option.elim_some, hchats] at hreceived
    rw [hshows₃.current hexited hshowing]
    calc db.copies m + (collect programStep confirmed before (.start db)).count m
        ≤ t.db.copies m := hcopies m
      _ ≤ E.copies m := hE.copies_le m
      _ ≤ (receiveMessage (sys₁.program c).name E).count m.chat := by
          rw [Db.copies, hm]
          exact List.count_le_count_map
      _ ≤ (sys₃.program c).received.count m.chat := hreceived.sublist.count_le m.chat
  · cases hnone

/-- The user sends herself a message, and her program is about to poll. -/
def annSends (c : Fin 2) : List (ProgramEvent (Fin 2)) :=
  annLogsIn c ++ [.act c (.compose "ann" "hi"), .act c (.acquire .sender),
    .attempt c .sender fun _ _ => false, .act c (.acquire .receiver)]

/-- It polls, and the message is on the screen. -/
theorem acknowledged_on_screen_ann : ∃ sys₁ sys₂ sys₃ : Programs (Fin 2),
    Foundation.run programStep (annSends 0) (.start annOnly) = .ok sys₁ ∧
    programStep (.attempt 0 .receiver fun _ _ => false) sys₁ =
      .ok (some (.chats ["From ann: hi"]), sys₂) ∧
    Foundation.run programStep [.act 0 .compare] sys₂ = .ok sys₃ ∧
    annOnly.copies ⟨"ann", "ann", "hi"⟩ +
        (collect programStep confirmed (annSends 0) (.start annOnly)).count ⟨"ann", "ann", "hi"⟩ ≤
      (sys₃.program 0).screen.count "From ann: hi" ∧
    collect programStep confirmed (annSends 0) (.start annOnly) = [⟨"ann", "ann", "hi"⟩] := by
  obtain ⟨sys₁, hbefore, hsys₁⟩ := map_eq_ok.mp
    (show (Foundation.run programStep (annSends 0) (.start annOnly)).map (fun sys =>
      ((sys.program 0).name,
        (programStep (.attempt 0 .receiver fun _ _ => false) sys).map fun out =>
          (out.1, (Foundation.run programStep [.act 0 .compare] out.2).map fun sys =>
            (sys.program 0).position))) =
      .ok ("ann", .ok (some (.chats ["From ann: hi"]), .ok (.chatting .typing .acquiring))) by
    decide +kernel)
  obtain ⟨hname, hpolled⟩ := Prod.mk.inj hsys₁
  obtain ⟨⟨answer, sys₂⟩, hpoll, hout⟩ := map_eq_ok.mp hpolled
  obtain ⟨rfl, hcompared⟩ := Prod.mk.inj hout
  obtain ⟨sys₃, hafter, hposition⟩ := map_eq_ok.mp hcompared
  have hleader : Guarded programStep (fun _ sys => (sys.world.server 0).amILeader = true ∧
      ∀ c, (sys.program c).currLeader = 0)
      (annSends 0 ++ [.attempt 0 .receiver fun _ _ => false, .act 0 .compare])
      (.start annOnly) := by decide +kernel
  exact ⟨sys₁, sys₂, sys₃, hbefore, hpoll, hafter,
    acknowledged_on_screen hbefore hpoll hafter (hleader.mono fun _ _ => readsSettled_of_leader)
      (by rw [hposition]; simp) (by rw [hposition]; rfl) hname.symm, by decide +kernel⟩

/-- Both users log in as `ann`.  Server 0 stops when server 1 has stored `hi` and server 2 has not.
The other client reads it at server 1, which stops then, and sends `ho` at server 2. -/
def annLoses (c d : Fin 2) : List (ProgramEvent (Fin 2)) :=
  annLogsIn c ++ annLogsIn d ++
    [.act c (.compose "ann" "hi"), .act c (.acquire .sender),
      .attempt c .sender fun t s => t = 22 && s = 0, .act d (.acquire .receiver),
      .attempt d .receiver fun _ _ => false, .attempt d .receiver fun _ _ => false,
      .act d .compare, .act d (.compose "ann" "ho"), .act d (.acquire .sender),
      .attempt d .sender fun _ s => s = 1, .attempt d .sender fun _ _ => false,
      .act d (.acquire .receiver), .attempt d .receiver fun _ _ => false, .act d .compare]

/-- The list that it polls then has one message as before, and is not printed: the screen shows the
message that is lost, and not the one that has been acknowledged. -/
theorem screen_goes_stale :
    collect programStep confirmed (annLoses 0 1) (.start annOnly) = [⟨"ann", "ann", "ho"⟩] ∧
    ∃ sys : Programs (Fin 2), Foundation.run programStep (annLoses 0 1) (.start annOnly) = .ok sys ∧
      (sys.program 1).received = ["From ann: ho"] ∧ (sys.program 1).screen = ["From ann: hi"] := by
  obtain ⟨sys, hrun, hscreen⟩ := map_eq_ok.mp
    (show (Foundation.run programStep (annLoses 0 1) (.start annOnly)).map
      (fun sys => ((sys.program 1).received, (sys.program 1).screen)) =
      .ok (["From ann: ho"], ["From ann: hi"]) by decide +kernel)
  obtain ⟨hreceived, hscreen⟩ := Prod.mk.inj hscreen
  exact ⟨by decide +kernel, sys, hrun, hreceived, hscreen⟩

end Runs

end Chat262.Replication
