import Chat262.Client.Exchanges
import Chat262.Client.Interface
import Chat262.Server.Ownership

/-!
# The interface and the server agree on who is logged in

Every screen of the interface is one for a user who is logged in or one for a user who is not.
`Agrees` says that the session which the server has for the connection is the one that the screen
stands for.  A round of the loop keeps the agreement if all its calls are served as they are, which
is `Plan.Sound`; `Session.Sound` extends this to the moments in which a call is underway, and every
step of the interface, of the connection's thread and of the other threads keeps it.

The agreement is lost when a response is distorted on its way: a refused login whose status code
comes in two pieces reads as a login (`torn_login_disagrees`).  `interface_agrees` is about the runs
in which the messages on the connection are transferred whole.
-/

namespace Chat262

open Foundation
open Std (ExtTreeMap)

/-! ## The agreement -/

/-- The screens for a user who is logged in. -/
def ScreenType.loggedIn : ScreenType → Bool
  | .mainMenu | .searchAccounts | .searchAccountsSuccess | .searchAccountsFail | .openChats
  | .openChatsSuccess | .openChatsFail | .newChat | .recvTxt | .recvTxtFail | .sendTxt
  | .sendTxtFail | .deleteAccount | .deleteAccountFail => true
  | .loginRegistration | .login | .loginFail | .registration | .registrationSuccess
  | .registrationFail | .deleteAccountSuccess | .exit => false

/-- The screens that show the status code of a call that has failed. -/
def ScreenType.showsFailure : ScreenType → Bool
  | .loginFail | .registrationFail | .searchAccountsFail | .openChatsFail | .recvTxtFail
  | .sendTxtFail | .deleteAccountFail => true
  | _ => false

/-- The server has the session that the screen stands for, and the screen does not show a failure
for want of one. -/
structure Agrees (i : Interface) (session : Option ByteString) : Prop where
  session_eq : session = if i.next.loggedIn then some i.username else none
  authorized : i.next.showsFailure → i.statCode ≠ StatusCode.unauthorized

/-- The interface is at the head of its loop. -/
def Session.head? (s : Session) : Option Interface :=
  match s.control with
  | .doing (.done i) => some i
  | _ => none

/-- The status of the client call that returns in a step. -/
def returned (tid : ThreadId) (e : SessionEvent) (s : Session) : Option Status :=
  match sessionStep tid e s with
  | .ok (reply, _) => reply
  | .error _ => none

/-- The client call that returns in this step, if one does, returns `ok`. -/
def CallsOk (tid : ThreadId) (e : SessionEvent) (s : Session) : Prop :=
  ∀ st ∈ returned tid e s, st = .ok

instance (tid : ThreadId) (e : SessionEvent) (s : Session) : Decidable (CallsOk tid e s) :=
  inferInstanceAs (Decidable (∀ st ∈ returned tid e s, st = .ok))

/-- A client call that returns when all calls return `ok` does. -/
lemma CallsOk.eq_ok {tid : ThreadId} {e : SessionEvent} {s s' : Session} {st : Status}
    (h : CallsOk tid e s) (hstep : sessionStep tid e s = .ok (some st, s')) : st = .ok := by
  refine h st ?_
  rw [returned, hstep]
  exact Option.mem_some_self st

/-- The messages on the connection are transferred whole, in both directions. -/
def MessagesWhole (tid : ThreadId) (e : SessionEvent) (s : Session) : Prop :=
  match e with
  | .iterate _ => True
  | .send block results =>
    match s.control with
    | .doing (.call call _ _ _) =>
      ∀ data, call.request.store block = .ok data → SendsWhole data results
    | _ => True
  | .receive results => ReadsWhole s.link.toClient results
  | .server action => TransfersWhole tid action s.link

/-! ## What a step can do -/

/-- What a step does: `SessionEffect tid s e reply s'` lists the ways in which the event `e` can
lead from `s` to `s'`. -/
inductive SessionEffect (tid : ThreadId) (s : Session) :
    SessionEvent → Option Status → Session → Prop
  | iterated {listened : ℕ} {i : Interface} {plan : Plan} (hcontrol : s.control = .doing (.done i))
      (hplan : i.iteration listened = some plan) :
      SessionEffect tid s (.iterate listened) none ⟨.doing plan, s.link⟩
  | sent {α : Type} {call : ClientCall α} {statCode : StatusCode} {out : α}
      {next : Status → StatusCode → α → Plan} {block sent : ByteString} {results : List SendResult}
      (hcontrol : s.control = .doing (.call call statCode out next))
      (hblock : block.length = call.request.totalLen)
      (hsend : call.send block results = some (.ok (.ok, sent))) :
      SessionEffect tid s (.send block results) none
        ⟨.awaiting call statCode out next, { s.link with toServer := s.link.toServer ++ sent }⟩
  | unsent {block : ByteString} {results : List SendResult} {st : Status} {s' : Session}
      (hst : st ≠ .ok) : SessionEffect tid s (.send block results) (some st) s'
  | received {α : Type} {call : ClientCall α} {statCode statCode' : StatusCode} {out out' : α}
      {next : Status → StatusCode → α → Plan} {results : List RecvResult} {st : Status}
      {unread : ByteString} (hcontrol : s.control = .awaiting call statCode out next)
      (hreceive : call.receive statCode out s.link.toClient results =
        some (.ok (st, statCode', out'), unread)) :
      SessionEffect tid s (.receive results) (some st)
        ⟨.doing (next st statCode' out'), { s.link with toClient := unread }⟩
  | served {action : LinkAction} {r : Option Response} {link : Linked}
      (hstep : linkStep tid action s.link = .ok (r, link)) :
      SessionEffect tid s (.server action) none { s with link := link }

/-- Every step that is taken has one of the effects. -/
theorem sessionStep_effect {tid : ThreadId} {e : SessionEvent} {s s' : Session}
    {reply : Option Status} (h : sessionStep tid e s = .ok (reply, s')) :
    SessionEffect tid s e reply s' := by
  cases e with
  | iterate listened =>
    simp only [sessionStep] at h
    split at h
    · rename_i i hcontrol
      cases hplan : i.iteration listened with
      | none => simp [hplan] at h
      | some plan =>
        simp only [hplan] at h
        cases h
        exact .iterated hcontrol hplan
    · cases h
  | send block results =>
    simp only [sessionStep] at h
    split at h
    · rename_i α call statCode out next hcontrol
      split_ifs at h with hblock
      rw [not_not] at hblock
      split at h
      · cases h
      · cases h
      · rename_i st sent hsend
        split_ifs at h with hst
        · cases h
          exact .unsent hst
        · cases h
          rw [not_not] at hst
          subst hst
          exact .sent hcontrol hblock hsend
    · cases h
  | receive results =>
    simp only [sessionStep] at h
    split at h
    · rename_i α call statCode out next hcontrol
      split at h
      · cases h
      · cases h
      · rename_i hreceive
        cases h
        exact .received hcontrol hreceive
    · cases h
  | server action =>
    simp only [sessionStep] at h
    split at h
    · cases h
    · rename_i r link hstep
      cases h
      exact .served hstep

/-! ## Sound plans -/

/-- The interface is at the head of its loop, agrees with the server, and is ready for its next
round: a user who has just been registered is logged in with a request that fits into its block. -/
structure Ready (i : Interface) (session : Option ByteString) : Prop where
  agrees : Agrees i session
  short : i.next = .registrationSuccess → (pairBody i.username i.password).length < 2 ^ 32

/-- If all calls of the plan return `ok`, and are served as they are from the session `session` on,
the round ends in a state that is ready for the next one. -/
def Plan.Sound (tid : ThreadId) : Plan → Option ByteString → Prop
  | .done i, session => Ready i session
  | .stop _, _ => True
  | .fault, _ => True
  | .call c _ _ next, session =>
    c.Serves tid session fun code session => ∀ out, (next .ok code out).Sound tid session

/-- The agreement, between the rounds, and what it depends on within a round. -/
def Session.Sound (tid : ThreadId) (s : Session) : Prop :=
  match s.control with
  | .doing plan => s.link.Quiet tid ∧ plan.Sound tid (s.link.session tid)
  | .awaiting call _ _ next => call.ReadsCode ∧ ∃ m : ClientMessage, m.version = protocolVersion ∧
    Underway tid m (Answered call.responseType fun code session =>
      ∀ out, (next .ok code out).Sound tid session) s.link

section

variable {tid : ThreadId}

/-- A checked call is sound when what follows is, after everything that the call allows. -/
lemma Plan.sound_checked {α : Type} {call : ClientCall α} {session : Option ByteString}
    {After : StatusCode → Option ByteString → Prop} (hserves : call.Serves tid session After)
    {statCode : StatusCode} {out : α} {next : StatusCode → α → Plan}
    (hnext : ∀ code session, After code session → ∀ out, (next code out).Sound tid session) :
    (Plan.checked call statCode out next).Sound tid session := by
  refine hserves.mono ?_
  intro code session hafter out
  simp only [ne_eq, not_true_eq_false, if_false]
  exact hnext code session hafter out

/-- The background listener keeps the session. -/
lemma Plan.sound_listen {name : ByteString} (sender : ByteString) (n : ℕ)
    {next : StatusCode → Chat → Plan} (hnext : ∀ code c, (next code c).Sound tid (some name))
    (statCode : StatusCode) (c : Chat) :
    (Plan.listen sender n statCode c next).Sound tid (some name) := by
  induction n generalizing statCode c with
  | zero => exact hnext statCode c
  | succ n ih =>
    refine (Client.serves_recvTxt name sender).mono ?_
    rintro code session ⟨rfl, -⟩ out
    exact ih code out

/-- A screen for a user who is logged in. -/
lemma ready_loggedIn {i : Interface} {next : ScreenType} (hnext : next.loggedIn = true)
    (hcode : next.showsFailure = false ∨ i.statCode ≠ StatusCode.unauthorized) :
    Ready (i.goto next) (some i.username) := by
  refine ⟨⟨by simp [Interface.goto, hnext], ?_⟩, ?_⟩
  · intro hshows
    exact hcode.resolve_left (by simp_all [Interface.goto])
  · rintro rfl
    cases hnext

/-- A screen for a user who is not logged in. -/
lemma ready_loggedOut {i : Interface} {next : ScreenType} (hnext : next.loggedIn = false)
    (hcode : next.showsFailure = false ∨ i.statCode ≠ StatusCode.unauthorized)
    (hshort : next ≠ .registrationSuccess ∨ (pairBody i.username i.password).length < 2 ^ 32) :
    Ready (i.goto next) none := by
  refine ⟨⟨by simp [Interface.goto, hnext], ?_⟩, ?_⟩
  · intro hshows
    exact hcode.resolve_left (by simp_all [Interface.goto])
  · intro hregistered
    exact hshort.resolve_left (not_not.mpr hregistered)

/-- The same screen after some keys. -/
lemma Ready.withKeys {i : Interface} {session : Option ByteString} (h : Ready i session)
    (keys : List Keypress) : Ready { i with keys := keys } session :=
  ⟨⟨h.agrees.session_eq, h.agrees.authorized⟩, h.short⟩

/-! ## Reading the keyboard -/

/-- A selection takes keys only. -/
lemma Interface.of_makeSelection {n : ℕ} {i : Interface} {f : UserChoice × Interface → Plan}
    {plan : Plan} (h : (i.makeSelection n).map f = some plan) :
    ∃ choice keys, plan = f (choice, { i with keys := keys }) := by
  obtain ⟨⟨choice, i'⟩, hread, rfl⟩ := Option.map_eq_some_iff.mp h
  obtain ⟨⟨choice', keys⟩, -, hi⟩ := Option.map_eq_some_iff.mp hread
  cases hi
  exact ⟨choice, keys, rfl⟩

/-- So does waiting for a key. -/
lemma Interface.waitAnykey_keys {i i' : Interface} (h : i.waitAnykey = some i') :
    ∃ keys, i' = { i with keys := keys } := by
  unfold Interface.waitAnykey at h
  split at h
  · cases h
  · cases h
    exact ⟨_, rfl⟩

/-- Entering a string changes no member but `hit_escape_`. -/
lemma Interface.getUserString_eq {minLen maxLen : ℕ} {i i' : Interface} {s : ByteString}
    (h : i.getUserString minLen maxLen = some (s, i')) :
    ∃ hitEscape keys, i' = { i with hitEscape := hitEscape, keys := keys } ∧
      (hitEscape = false → s.length ≤ maxLen) := by
  obtain ⟨⟨input, hitEscape, keys⟩, hread, hi⟩ := Option.map_eq_some_iff.mp h
  cases hi
  exact ⟨hitEscape, keys, rfl, fun hentered => (length_of_getUserString hread hentered).2⟩

/-- Entering a text changes neither the screen nor the username. -/
lemma Interface.getUserTxt_keeps {i i' : Interface} (h : i.getUserTxt = some i') :
    i'.next = i.next ∧ i'.username = i.username := by
  obtain ⟨⟨txt, hitEscape, keys⟩, -, hi⟩ := Option.map_eq_some_iff.mp h
  cases hi
  exact ⟨rfl, rfl⟩

/-- Credentials that are entered fit into a request. -/
lemma Interface.short_of_enterPassword {i i' : Interface} (h : i.enterPassword = some i')
    (hname : i.hitEscape = false → i.username.length ≤ 40) (hentered : i'.hitEscape = false) :
    (pairBody i'.username i'.password).length < 2 ^ 32 := by
  unfold Interface.enterPassword at h
  split_ifs at h with hescape
  · cases h
    rw [hescape] at hentered
    cases hentered
  · obtain ⟨⟨password, i''⟩, hread, hi⟩ := Option.map_eq_some_iff.mp h
    obtain ⟨hitEscape, keys, rfl, hlen⟩ := Interface.getUserString_eq hread
    cases hi
    have hpassword := hlen hentered
    have husername := hname (by simpa using hescape)
    rw [length_pairBody]
    dsimp only
    omega

/-- The credentials of a login fit into its request. -/
lemma Interface.short_of_login {i i' : Interface} (h : i.login = some i')
    (hentered : i'.hitEscape = false) : (pairBody i'.username i'.password).length < 2 ^ 32 := by
  obtain ⟨⟨username, i''⟩, hread, h⟩ := Option.bind_eq_some_iff.mp h
  obtain ⟨hitEscape, keys, rfl, hlen⟩ := Interface.getUserString_eq hread
  exact Interface.short_of_enterPassword h hlen hentered

/-- The loop that asks for the username of a registration leaves one that is not too long. -/
lemma Interface.length_of_enterUsername {i i' : Interface} (h : i.enterUsername = some i')
    (hentered : i'.hitEscape = false) : i'.username.length ≤ 40 := by
  fun_induction Interface.enterUsername i with
  | case1 i hread => cases h
  | case2 i username i'' hread hchars ih => exact ih h
  | case3 i username i'' hread hchars =>
    obtain ⟨hitEscape, keys, rfl, hlen⟩ := Interface.getUserString_eq hread
    cases h
    exact hlen hentered

/-- The credentials of a registration fit into its request. -/
lemma Interface.short_of_registration {i i' : Interface} (h : i.registration = some i')
    (hentered : i'.hitEscape = false) : (pairBody i'.username i'.password).length < 2 ^ 32 := by
  obtain ⟨i'', hname, h⟩ := Option.bind_eq_some_iff.mp h
  exact Interface.short_of_enterPassword h (Interface.length_of_enterUsername hname) hentered

/-! ## The rounds of the loop -/

/-- The call that logs the user in. -/
lemma Interface.sound_callLogin {i : Interface}
    (hshort : (pairBody i.username i.password).length < 2 ^ 32) (session : Option ByteString) :
    i.callLogin.Sound tid session := by
  refine Plan.sound_checked (Client.serves_login hshort session) ?_
  rintro code session (⟨rfl, rfl⟩ | ⟨rfl, rfl⟩) out
  · exact ready_loggedIn rfl (.inl rfl)
  · have hcode : StatusCode.invalidCredentials ≠ StatusCode.unauthorized := by decide
    exact ready_loggedOut rfl (.inr hcode) (.inl (by decide))

/-- A round that begins with a user who is not logged in. -/
lemma Interface.sound_loggedOut {i : Interface} (h : Ready i none)
    (hout : i.next.loggedIn = false) {listened : ℕ} {plan : Plan}
    (hplan : i.iteration listened = some plan) : plan.Sound tid none := by
  have hsome {α : Type} {x : Option α} {f : α → Plan} (hmap : x.map f = some plan) :=
    Option.map_eq_some_iff.mp hmap
  cases hscreen : i.next with
  | loginRegistration =>
    simp only [Interface.iteration, hscreen] at hplan
    obtain ⟨choice, keys, rfl⟩ := Interface.of_makeSelection hplan
    dsimp only
    split_ifs
    · exact ready_loggedOut rfl (.inl rfl) (.inl (by decide))
    · exact ready_loggedOut rfl (.inl rfl) (.inl (by decide))
    · exact ready_loggedOut rfl (.inl rfl) (.inl (by decide))
    · exact h.withKeys keys
  | login =>
    simp only [Interface.iteration, hscreen] at hplan
    obtain ⟨i', hread, rfl⟩ := hsome hplan
    split_ifs with hescape
    · exact ready_loggedOut rfl (.inl rfl) (.inl (by decide))
    · exact Interface.sound_callLogin
        (Interface.short_of_login hread (by simpa using hescape)) none
  | loginFail =>
    simp only [Interface.iteration, hscreen] at hplan
    obtain ⟨choice, keys, rfl⟩ := Interface.of_makeSelection hplan
    dsimp only
    split_ifs
    · exact ready_loggedOut rfl (.inl rfl) (.inl (by decide))
    · exact ready_loggedOut rfl (.inl rfl) (.inl (by decide))
    · exact h.withKeys keys
  | registration =>
    simp only [Interface.iteration, hscreen] at hplan
    obtain ⟨i', hread, rfl⟩ := hsome hplan
    split_ifs with hescape
    · exact ready_loggedOut rfl (.inl rfl) (.inl (by decide))
    · have hshort := Interface.short_of_registration hread (by simpa using hescape)
      refine Plan.sound_checked (Client.serves_registration _ _ none) ?_
      rintro code session ⟨rfl, hcode⟩ out
      split_ifs
      · exact ready_loggedOut rfl (.inl rfl) (.inr hshort)
      · exact ready_loggedOut rfl (.inr hcode) (.inl (by decide))
  | registrationSuccess =>
    simp only [Interface.iteration, hscreen, Option.some.injEq] at hplan
    subst hplan
    exact Interface.sound_callLogin (h.short hscreen) none
  | registrationFail =>
    simp only [Interface.iteration, hscreen] at hplan
    obtain ⟨choice, keys, rfl⟩ := Interface.of_makeSelection hplan
    dsimp only
    split_ifs
    · exact ready_loggedOut rfl (.inl rfl) (.inl (by decide))
    · exact ready_loggedOut rfl (.inl rfl) (.inl (by decide))
    · exact h.withKeys keys
  | deleteAccountSuccess =>
    simp only [Interface.iteration, hscreen] at hplan
    obtain ⟨i', hread, rfl⟩ := hsome hplan
    exact ready_loggedOut rfl (.inl rfl) (.inl (by decide))
  | exit =>
    simp only [Interface.iteration, hscreen, Option.some.injEq] at hplan
    subst hplan
    trivial
  | _ => simp [hscreen, ScreenType.loggedIn] at hout

/-- A call that keeps the session, and leads from a screen to one of two others. -/
lemma Interface.sound_keeping {α : Type} {call : ClientCall α} {i : Interface}
    (hserves : call.Serves tid (some i.username) (SameSession (some i.username)))
    {statCode : StatusCode} {out : α} {store : StatusCode → α → Interface}
    (hstore : ∀ code out, (store code out).username = i.username ∧
      (store code out).statCode = code)
    {success failure : ScreenType} (hsuccess : success.loggedIn = true ∧
      success.showsFailure = false) (hfailure : failure.loggedIn = true) :
    (Plan.checked call statCode out fun code out => .done ((store code out).goto
      (if code = StatusCode.ok then success else failure))).Sound tid (some i.username) := by
  refine Plan.sound_checked hserves ?_
  rintro code session ⟨rfl, hcode⟩ out
  obtain ⟨hname, hstat⟩ := hstore code out
  rw [← hname]
  split_ifs
  · exact ready_loggedIn hsuccess.1 (.inl hsuccess.2)
  · exact ready_loggedIn hfailure (.inr (by rwa [hstat]))

/-- The end of the screen that sends a text. -/
lemma Interface.sound_callSendTxt {i : Interface} (hscreen : i.next = .sendTxt) :
    i.callSendTxt.Sound tid (some i.username) := by
  unfold Interface.callSendTxt
  split_ifs
  · exact ready_loggedIn rfl (.inl rfl)
  refine Plan.sound_checked (Client.serves_sendTxt i.username _ _) ?_
  rintro code session ⟨rfl, hcode⟩ out
  split_ifs
  · exact ready_loggedIn rfl (.inr hcode)
  refine Plan.sound_checked (Client.serves_recvTxt i.username _) ?_
  rintro code' session ⟨rfl, hcode'⟩ out'
  split_ifs
  · exact ready_loggedIn rfl (.inr hcode')
  · rw [hscreen]
    exact ready_loggedIn rfl (.inl rfl)

/-- A round that begins with a user who is logged in. -/
lemma Interface.sound_loggedIn {i : Interface} (h : Ready i (some i.username))
    (hin : i.next.loggedIn = true) {listened : ℕ} {plan : Plan}
    (hplan : i.iteration listened = some plan) : plan.Sound tid (some i.username) := by
  have hsome {α : Type} {x : Option α} {f : α → Plan} (hmap : x.map f = some plan) :=
    Option.map_eq_some_iff.mp hmap
  have hkey {next : ScreenType} (hmap : i.waitAnykey.map (fun i => Plan.done (i.goto next)) =
      some plan) (hnext : next.loggedIn = true ∧ next.showsFailure = false) :
      plan.Sound tid (some i.username) := by
    obtain ⟨i', hread, rfl⟩ := hsome hmap
    obtain ⟨keys, rfl⟩ := Interface.waitAnykey_keys hread
    exact ready_loggedIn hnext.1 (.inl hnext.2)
  cases hscreen : i.next with
  | mainMenu =>
    simp only [Interface.iteration, hscreen] at hplan
    obtain ⟨choice, keys, rfl⟩ := Interface.of_makeSelection hplan
    dsimp only
    split_ifs
    · exact ready_loggedIn rfl (.inl rfl)
    · exact ready_loggedIn rfl (.inl rfl)
    · exact ready_loggedIn rfl (.inl rfl)
    · refine Plan.sound_checked (Client.serves_logout i.username) ?_
      rintro code session ⟨rfl, rfl⟩ out
      rw [if_pos rfl]
      exact ready_loggedOut rfl (.inl rfl) (.inl (by decide))
    · exact h.withKeys keys
  | searchAccounts =>
    simp only [Interface.iteration, hscreen] at hplan
    obtain ⟨i', hread, rfl⟩ := hsome hplan
    obtain ⟨⟨pattern, i''⟩, hstring, hi⟩ := Option.map_eq_some_iff.mp hread
    obtain ⟨hitEscape, keys, rfl, -⟩ := Interface.getUserString_eq hstring
    cases hi
    split_ifs
    · exact ready_loggedIn rfl (.inl rfl)
    · refine Interface.sound_keeping (Client.serves_listAccounts i.username _) ?_ ?_ ?_
      · exact fun _ _ => ⟨rfl, rfl⟩
      · exact ⟨rfl, rfl⟩
      · rfl
  | searchAccountsSuccess =>
    simp only [Interface.iteration, hscreen] at hplan
    exact hkey hplan ⟨rfl, rfl⟩
  | searchAccountsFail =>
    simp only [Interface.iteration, hscreen] at hplan
    exact hkey hplan ⟨rfl, rfl⟩
  | openChats =>
    simp only [Interface.iteration, hscreen, Option.some.injEq] at hplan
    subst hplan
    refine Interface.sound_keeping (Client.serves_recvCorrespondents i.username) ?_ ?_ ?_
    · exact fun _ _ => ⟨rfl, rfl⟩
    · exact ⟨rfl, rfl⟩
    · rfl
  | openChatsSuccess =>
    simp only [Interface.iteration, hscreen] at hplan
    obtain ⟨choice, keys, rfl⟩ := Interface.of_makeSelection hplan
    dsimp only
    split_ifs
    · exact ready_loggedIn rfl (.inl rfl)
    · exact ready_loggedIn rfl (.inl rfl)
    · cases i.allCorrespondents[(choice - 2).toNat]? with
      | none => trivial
      | some correspondent => exact ready_loggedIn rfl (.inl rfl)
  | openChatsFail =>
    simp only [Interface.iteration, hscreen] at hplan
    exact hkey hplan ⟨rfl, rfl⟩
  | newChat =>
    simp only [Interface.iteration, hscreen] at hplan
    obtain ⟨i', hread, rfl⟩ := hsome hplan
    obtain ⟨⟨correspondent, i''⟩, hstring, hi⟩ := Option.map_eq_some_iff.mp hread
    obtain ⟨hitEscape, keys, rfl, -⟩ := Interface.getUserString_eq hstring
    cases hi
    split_ifs
    · exact ready_loggedIn rfl (.inl rfl)
    · exact ready_loggedIn rfl (.inl rfl)
  | recvTxt =>
    simp only [Interface.iteration, hscreen, Option.some.injEq] at hplan
    subst hplan
    refine Interface.sound_keeping (Client.serves_recvTxt i.username _) ?_ ?_ ?_
    · exact fun _ _ => ⟨rfl, rfl⟩
    · exact ⟨rfl, rfl⟩
    · rfl
  | recvTxtFail =>
    simp only [Interface.iteration, hscreen] at hplan
    exact hkey hplan ⟨rfl, rfl⟩
  | sendTxt =>
    simp only [Interface.iteration, hscreen] at hplan
    obtain ⟨i', hread, rfl⟩ := hsome hplan
    obtain ⟨hnext, hname⟩ := Interface.getUserTxt_keeps hread
    rw [show i.username = i'.username from hname.symm]
    refine Plan.sound_listen _ listened ?_ _ _
    intro code c
    exact Interface.sound_callSendTxt (i := { i' with statCode := code, currChat := c }) hnext
  | sendTxtFail =>
    simp only [Interface.iteration, hscreen] at hplan
    exact hkey hplan ⟨rfl, rfl⟩
  | deleteAccount =>
    simp only [Interface.iteration, hscreen] at hplan
    obtain ⟨choice, keys, rfl⟩ := Interface.of_makeSelection hplan
    dsimp only
    split_ifs
    · exact ready_loggedIn rfl (.inl rfl)
    · refine Plan.sound_checked (Client.serves_deleteAccount i.username) ?_
      rintro code session ⟨rfl, rfl⟩ out
      rw [if_pos rfl]
      exact ready_loggedOut rfl (.inl rfl) (.inl (by decide))
    · exact h.withKeys keys
  | deleteAccountFail =>
    simp only [Interface.iteration, hscreen] at hplan
    exact hkey hplan ⟨rfl, rfl⟩
  | _ => simp [hscreen, ScreenType.loggedIn] at hin

/-- A round of the loop that begins in a state that is ready for it is sound. -/
theorem Interface.sound_iteration {i : Interface} {session : Option ByteString}
    (h : Ready i session) {listened : ℕ} {plan : Plan}
    (hplan : i.iteration listened = some plan) : plan.Sound tid session := by
  have hsession := h.agrees.session_eq
  cases hin : i.next.loggedIn with
  | false =>
    rw [hin] at hsession
    subst hsession
    exact Interface.sound_loggedOut h hin hplan
  | true =>
    rw [hin] at hsession
    subst hsession
    exact Interface.sound_loggedIn h hin hplan

/-! ## Runs -/

/-- The request of a call sets out. -/
lemma Session.Sound.sent {s : Session} {α : Type} {call : ClientCall α} {statCode : StatusCode}
    {out : α} {next : Status → StatusCode → α → Plan} {block sent : ByteString}
    {results : List SendResult} (h : s.Sound tid)
    (hcontrol : s.control = .doing (.call call statCode out next))
    (hblock : block.length = call.request.totalLen)
    (hwhole : ∀ data, call.request.store block = .ok data → SendsWhole data results)
    (hsend : call.send block results = some (.ok (.ok, sent))) :
    Session.Sound tid
      ⟨.awaiting call statCode out next, { s.link with toServer := s.link.toServer ++ sent }⟩ := by
  simp only [Session.Sound, hcontrol] at h
  obtain ⟨hquiet, hserves⟩ := h
  obtain ⟨type, bodyLen, ws, hbuilt⟩ := hserves.built
  obtain ⟨data, hstore, hmsg⟩ := ClientCall.store_of_send hsend
  obtain ⟨m, hversion, hbytes, hends⟩ := hserves.handled block data hblock hstore
  have hwhole' := hwhole data hstore
  rw [hbuilt] at hblock hstore
  rw [show Client.sendMsg data results = some (.ok, data) from
    sendMsg_of_sendsWhole hblock hstore hwhole'] at hmsg
  cases hmsg
  refine ⟨hserves.readsCode, m, hversion, .unread hquiet.receiving ?_ hquiet.toClient hends⟩
  dsimp only
  rw [hquiet.toServer, List.nil_append, hbytes]

/-- The response of a call arrives. -/
lemma Session.Sound.received {s : Session} {α : Type} {call : ClientCall α}
    {statCode statCode' : StatusCode} {out out' : α} {next : Status → StatusCode → α → Plan}
    {results : List RecvResult} {unread : ByteString} (h : s.Sound tid)
    (hcontrol : s.control = .awaiting call statCode out next)
    (hwhole : ReadsWhole s.link.toClient results)
    (hreceive : call.receive statCode out s.link.toClient results =
      some (.ok (.ok, statCode', out'), unread)) :
    Session.Sound tid ⟨.doing (next .ok statCode' out'), { s.link with toClient := unread }⟩ := by
  simp only [Session.Sound, hcontrol] at h
  obtain ⟨hcode, m, -, hunderway⟩ := h
  cases hunderway with
  | unread hphase hread hsent hends =>
    rw [hsent] at hwhole
    exact absurd hwhole not_readsWhole_nil
  | handling hphase hread hsent hends =>
    rw [hsent] at hwhole
    exact absurd hwhole not_readsWhole_nil
  | answered hphase hread hblock hsent hends =>
    obtain ⟨htype, hstat, rfl⟩ := ClientCall.receive_sent hcode hblock hsent hwhole hreceive
    obtain ⟨code, hsome, hsound⟩ := hends htype
    rw [hstat code hsome]
    exact ⟨⟨hphase, hread, rfl⟩, hsound out'⟩

/-- Every step of the interface and of the server keeps the session sound, as long as calls return
`ok` and messages are transferred whole. -/
theorem Session.Sound.step {s s' : Session} {e : SessionEvent} {reply : Option Status}
    (h : s.Sound tid) (hok : CallsOk tid e s) (hwhole : MessagesWhole tid e s)
    (hstep : sessionStep tid e s = .ok (reply, s')) : s'.Sound tid := by
  cases sessionStep_effect hstep with
  | iterated hcontrol hplan =>
    simp only [Session.Sound, hcontrol] at h ⊢
    exact ⟨h.1, Interface.sound_iteration h.2 hplan⟩
  | sent hcontrol hblock hsend =>
    simp only [MessagesWhole, hcontrol] at hwhole
    exact h.sent hcontrol hblock hwhole hsend
  | unsent hst => exact absurd (hok.eq_ok hstep) hst
  | received hcontrol hreceive =>
    obtain rfl := hok.eq_ok hstep
    exact h.received hcontrol hwhole hreceive
  | served hlink =>
    cases hcontrol : s.control with
    | doing plan =>
      simp only [Session.Sound, hcontrol] at h ⊢
      obtain ⟨hquiet, hsession⟩ := h.1.step hwhole hlink
      rw [hsession]
      exact ⟨hquiet, h.2⟩
    | awaiting call statCode out next =>
      simp only [Session.Sound, hcontrol] at h ⊢
      obtain ⟨hcode, m, hversion, hunderway⟩ := h
      exact ⟨hcode, m, hversion, hunderway.step hversion hwhole hlink⟩

/-- A session starts sound: the thread of a new connection waits for a message, and its id has no
session. -/
lemma Session.sound_start {before : List Action} {w₀ w₁ : ServerState} {r : Option Response}
    (hbefore : run serverStep before .initial = .ok w₀)
    (haccept : serverStep (.accept tid) w₀ = .ok (r, w₁)) (i : Interface) :
    (Session.start w₁ i).Sound tid := by
  cases serverStep_effect haccept with
  | accepted tid' ha hphase =>
    cases ha
    have hnone : w₀.db.threads[tid]? = none :=
      ExtTreeMap.getElem?_eq_none ((fresh_of_run hbefore).1 tid hphase)
    refine ⟨⟨ServerState.phase_withPhase_self w₀ tid _, rfl, rfl⟩, ?_⟩
    have hsession : Linked.session tid ⟨w₀.withPhase tid .receiving, [], []⟩ = none := hnone
    dsimp only [Session.start]
    rw [hsession]
    exact ready_loggedOut rfl (.inl rfl) (.inl (by decide))
  | _ => contradiction

end

/-- The terminal interface and the server agree on who is logged in.  Whatever has happened on the
server before, and whatever the user types and the other connections do: in every run in which all
client calls return `ok` and the messages on the connection are transferred whole, each time that
the interface is at the head of its loop, the server has a session for the connection exactly when
the screen is one for a user who is logged in, it is that of `username_`, and no screen shows a
failure for want of a session. -/
theorem interface_agrees {before : List Action} {w₀ w₁ : ServerState} {tid : ThreadId}
    {r : Option Response} (hbefore : run serverStep before .initial = .ok w₀)
    (haccept : serverStep (.accept tid) w₀ = .ok (r, w₁)) (i₀ : Interface)
    {events : List SessionEvent} {s : Session}
    (hok : Guarded (sessionStep tid) (CallsOk tid) events (.start w₁ i₀))
    (hwhole : Guarded (sessionStep tid) (MessagesWhole tid) events (.start w₁ i₀))
    (hrun : run (sessionStep tid) events (.start w₁ i₀) = .ok s) :
    ∀ i, s.head? = some i → Agrees i s.link.server.db.threads[tid]? := by
  have hsound : s.Sound tid :=
    run_invariant (P := fun s => s.Sound tid)
      (fun _ _ _ _ h hguard hstep => h.step hguard.1 hguard.2 hstep) (hok.and hwhole) hrun
      (Session.sound_start hbefore haccept i₀)
  intro i hhead
  unfold Session.head? at hhead
  split at hhead
  · rename_i i' hcontrol
    cases hhead
    simp only [Session.Sound, hcontrol] at hsound
    exact hsound.2.agrees
  · cases hhead

/-- What is sent is accepted in one piece, and what is received comes in one piece. -/
def InOnePiece (e : SessionEvent) (s : Session) : Prop :=
  match e with
  | .send block results | .server (.respond block results) =>
    block ≠ [] ∧ results = [.accepted block.length]
  | .receive results =>
    8 + announced s.link.toClient ≤ s.link.toClient.length ∧ results = fullReads s.link.toClient
  | .server (.receive results) =>
    8 + announced s.link.toServer ≤ s.link.toServer.length ∧ results = fullReads s.link.toServer
  | _ => True

instance : ∀ e s, Decidable (InOnePiece e s)
  | .send _ _, _ | .receive _, _ | .server (.respond _ _), _ | .server (.receive _), _ =>
    inferInstanceAs (Decidable (_ ∧ _))
  | .iterate _, _ | .server .call, _ | .server .finish, _ | .server (.other _), _ => .isTrue trivial

/-- A block that is accepted in one piece is sent whole. -/
lemma sendsWhole_store {block data : ByteString} (hblock : block ≠ []) {msg : Message}
    (hstore : msg.store block = .ok data) : SendsWhole data [.accepted block.length] := by
  obtain ⟨hinside, rfl⟩ := writeAll_eq_ok.mp hstore
  have hlen := length_fill hinside
  have hne : fill msg.writes block ≠ [] := by
    apply List.ne_nil_of_length_pos
    rw [hlen]
    exact List.length_pos_of_ne_nil hblock
  have hwhole := sendsWhole_singleton hne
  rwa [hlen] at hwhole

/-- Messages that are transferred in one piece are transferred whole. -/
lemma messagesWhole_of_inOnePiece {tid : ThreadId} {e : SessionEvent} {s : Session}
    (h : InOnePiece e s) : MessagesWhole tid e s := by
  cases e with
  | iterate listened => trivial
  | send block results =>
    obtain ⟨hblock, rfl⟩ := h
    unfold MessagesWhole
    dsimp only
    split
    · exact fun data hstore => sendsWhole_store hblock hstore
    · trivial
  | receive results =>
    obtain ⟨hlen, rfl⟩ := h
    exact readsWhole_fullReads hlen
  | server action =>
    cases action with
    | receive results =>
      obtain ⟨hlen, rfl⟩ := h
      exact readsWhole_fullReads hlen
    | respond block results =>
      obtain ⟨hblock, rfl⟩ := h
      exact fun r w data _ hstore => sendsWhole_store hblock hstore
    | _ => trivial

/-- The keys that enter a string. -/
def typed (s : ByteString) : List Keypress := s.map .regular ++ [.enter]

/-- A user who logs in as `abcd` with the password `1234`, and then opens the first entry of the
menu. -/
def abcd : Interface where
  next := .loginRegistration
  statCode := StatusCode.ok
  currChat := ⟨[]⟩
  username := []
  password := []
  pattern := []
  matchedUsernames := []
  allCorrespondents := []
  correspondent := []
  partialTxt := []
  hitEscape := false
  keys := [.enter] ++ typed [97, 98, 99, 100] ++ typed [49, 50, 51, 52] ++ [.enter]

/-- The steps of a login, whose response is received in these pieces. -/
def loginEvents (results : List RecvResult) : List SessionEvent :=
  [.iterate 0, .iterate 0, .send (List.replicate 24 0) [.accepted 24],
    .server (.receive [.bytes 8, .bytes 16]), .server .call, .server .call,
    .server (.respond (List.replicate 12 0) [.accepted 12]), .receive results]

/-- Another connection registers the user `abcd`, who then logs in. -/
def registeredLogin : List SessionEvent :=
  [.server (.other (.accept 1)),
    .server (.other (.receive 1 1 101 (pairBody [97, 98, 99, 100] [49, 50, 51, 52]))),
    .server (.other (.call 1))] ++ loginEvents [.bytes 8, .bytes 4]

/-- What a run shows at its end, if the interface is at the head of its loop then: the screen, the
status code and the session. -/
def shown (tid : ThreadId) (events : List SessionEvent) (s : Session) :
    Option (ScreenType × StatusCode × Option ByteString) :=
  match run (sessionStep tid) events s with
  | .ok s' => s'.head?.map fun i => (i.next, i.statCode, s'.link.server.db.threads[tid]?)
  | .error _ => none

/-- A run that shows something reaches the head of the loop. -/
lemma exists_of_shown {tid : ThreadId} {events : List SessionEvent} {s : Session}
    {screen : ScreenType} {code : StatusCode} {session : Option ByteString}
    (h : shown tid events s = some (screen, code, session)) :
    ∃ s' i, run (sessionStep tid) events s = .ok s' ∧ s'.head? = some i ∧ i.next = screen ∧
      i.statCode = code ∧ s'.link.server.db.threads[tid]? = session := by
  unfold shown at h
  split at h
  · rename_i s' hrun
    obtain ⟨i, hhead, hshown⟩ := Option.map_eq_some_iff.mp h
    simp only [Prod.mk.injEq] at hshown
    obtain ⟨hscreen, hcode, hsession⟩ := hshown
    exact ⟨s', i, hrun, hhead, hscreen, hcode, hsession⟩
  · cases h

/-- The interface shows the main menu to `abcd`, and the server has the session. -/
theorem interface_agrees_login :
    ∃ w₁ s i, serverStep (.accept 0) .initial = .ok (none, w₁) ∧
      run (sessionStep 0) registeredLogin (.start w₁ abcd) = .ok s ∧ s.head? = some i ∧
      i.next = .mainMenu ∧ s.link.server.db.threads[0]? = some [97, 98, 99, 100] ∧
      Agrees i s.link.server.db.threads[0]? := by
  let w₁ := ServerState.initial.withPhase 0 .receiving
  have haccept : serverStep (.accept 0) .initial = .ok (none, w₁) := rfl
  have hok : Guarded (sessionStep 0) (CallsOk 0) registeredLogin (.start w₁ abcd) := by
    decide +kernel
  have hpieces : Guarded (sessionStep 0) InOnePiece registeredLogin (.start w₁ abcd) := by
    decide +kernel
  have hwhole : Guarded (sessionStep 0) (MessagesWhole 0) registeredLogin (.start w₁ abcd) :=
    hpieces.mono fun _ _ h => messagesWhole_of_inOnePiece h
  obtain ⟨s, i, hrun, hhead, hscreen, -, hsession⟩ := exists_of_shown
    (show shown 0 registeredLogin (.start w₁ abcd) =
      some (.mainMenu, StatusCode.ok, some [97, 98, 99, 100]) by decide +kernel)
  have hbefore : run serverStep [] .initial = .ok .initial := rfl
  have hagrees := interface_agrees hbefore haccept abcd hok hwhole hrun i hhead
  exact ⟨w₁, s, i, haccept, hrun, hhead, hscreen, hsession, hagrees⟩

/-- A user `abcd` who does not exist logs in, and the status code of the response comes in two
pieces; then the user opens the chats. -/
def tornLogin : List SessionEvent :=
  loginEvents [.bytes 8, .bytes 1, .bytes 3] ++
    [.iterate 0, .iterate 0, .send (List.replicate 8 0) [.accepted 8],
      .server (.receive [.bytes 8]), .server .call,
      .server (.respond (List.replicate 12 0) [.accepted 12]), .receive [.bytes 8, .bytes 4]]

/-- The second piece of the status code is stored on top of the first one, so the refusal is read as
OK: the interface goes on to the screens for a user who is logged in, and there shows the failure
`unauthorized`, although all client calls have returned `ok`. -/
theorem torn_login_disagrees :
    ∃ w₁ s i, serverStep (.accept 0) .initial = .ok (none, w₁) ∧
      Guarded (sessionStep 0) (CallsOk 0) tornLogin (.start w₁ abcd) ∧
      run (sessionStep 0) tornLogin (.start w₁ abcd) = .ok s ∧ s.head? = some i ∧
      i.next = .openChatsFail ∧ i.statCode = StatusCode.unauthorized ∧
      s.link.server.db.threads[0]? = none ∧ ¬ Agrees i s.link.server.db.threads[0]? := by
  let w₁ := ServerState.initial.withPhase 0 .receiving
  have hok : Guarded (sessionStep 0) (CallsOk 0) tornLogin (.start w₁ abcd) := by
    decide +kernel
  obtain ⟨s, i, hrun, hhead, hscreen, hcode, hsession⟩ := exists_of_shown
    (show shown 0 tornLogin (.start w₁ abcd) =
      some (.openChatsFail, StatusCode.unauthorized, none) by decide +kernel)
  refine ⟨w₁, s, i, rfl, hok, hrun, hhead, hscreen, hcode, hsession, ?_⟩
  intro hagrees
  exact hagrees.authorized (by rw [hscreen]; rfl) hcode

end Chat262
