import Chat262.Client.Agreement
import Chat262.Wire.Acceptance

/-!
# What the user chooses

`interface::make_selection` lets the user choose with the arrow keys, or with `w` and `s`, and
computes in 32 bits on the way.  `makeSelection_eq_some_iff` says what comes out: the number of
steps down less the number of steps up, modulo the number of choices, or `ESCAPE`.

`interface::start` uses a choice as an index into `all_correspondents_`, less the two entries above
the list.  `never_faults` says that the index is in range in every run, whatever the server has
sent: a list of correspondents that has been received has fewer entries than there are choices
below `ESCAPE`.
-/

namespace Chat262

open Foundation

/-! ## Selections -/

/-- The key ends a selection. -/
def Keypress.endsSelection : Keypress → Bool
  | .escape | .enter => true
  | .regular _ | .backspace | .upArrow | .downArrow | .unknown => false

/-- How far a key moves the selection down. -/
def Keypress.offset : Keypress → ℤ
  | .downArrow => 1
  | .upArrow => -1
  | .regular c => if c = 119 ∨ c = 87 then -1 else if c = 115 ∨ c = 83 then 1 else 0
  | .escape | .enter | .backspace | .unknown => 0

/-- The selection after a key that does not end it. -/
def Keypress.move (n : ℕ) (selection : UserChoice) : Keypress → UserChoice
  | .downArrow => selection.down n
  | .upArrow => selection.up n
  | .regular c =>
    if c = 119 ∨ c = 87 then selection.up n
    else if c = 115 ∨ c = 83 then selection.down n
    else selection
  | .escape | .enter | .backspace | .unknown => selection

section

variable {n : ℕ} {selection : UserChoice}

/-- One step up. -/
lemma UserChoice.toNat_up (hn : n < 2 ^ 32) (h : selection.toNat < n) :
    ((selection.up n).toNat : ℤ) = (selection.toNat - 1) % n := by
  unfold UserChoice.up
  split_ifs with hzero
  · subst hzero
    rw [UInt32.toNat_ofNat_of_lt' (by simp [UInt32.size]; omega), UInt32.toNat_zero]
    have hmod : ((0 : ℕ) - 1 : ℤ) % n = n - 1 := by
      rw [← Int.add_emod_right, Int.emod_eq_of_lt (by omega) (by omega)]
      omega
    rw [hmod]
    omega
  · have hpos : 0 < selection.toNat := by
      rcases Nat.eq_zero_or_pos selection.toNat with hz | hpos
      · exact absurd (UInt32.toNat_inj.mp hz) hzero
      · exact hpos
    have hsub : (selection - 1).toNat = selection.toNat - 1 := by
      rw [UInt32.toNat_sub_of_le _ _ (by rw [UInt32.le_iff_toNat_le]; exact hpos)]
      rfl
    rw [hsub, Nat.mod_eq_of_lt (by omega), UInt32.toNat_ofNat_of_lt' (by simp [UInt32.size]; omega),
      Int.emod_eq_of_lt (by omega) (by omega)]
    omega

/-- One step down. -/
lemma UserChoice.toNat_down (hn : n < 2 ^ 32) (h : selection.toNat < n) :
    ((selection.down n).toNat : ℤ) = (selection.toNat + 1) % n := by
  have hadd : (selection + 1).toNat = selection.toNat + 1 := by
    rw [UInt32.toNat_add, UInt32.toNat_one, Nat.mod_eq_of_lt (by omega)]
  have hlt : (selection.toNat + 1) % n < n := Nat.mod_lt _ (by omega)
  rw [UserChoice.down, hadd, UInt32.toNat_ofNat_of_lt' (by simp [UInt32.size]; omega)]
  norm_cast

/-- A key moves the selection by its offset, around the ends of the list. -/
lemma Keypress.toNat_move (hn : n < 2 ^ 32) (h : selection.toNat < n) (k : Keypress) :
    ((k.move n selection).toNat : ℤ) = (selection.toNat + k.offset) % n := by
  have hstay : ((selection.toNat : ℕ) : ℤ) = (selection.toNat + 0) % n := by
    rw [add_zero, Int.emod_eq_of_lt (by omega) (by omega)]
  cases k with
  | regular c =>
    simp only [Keypress.move, Keypress.offset]
    split_ifs
    · exact UserChoice.toNat_up hn h
    · exact UserChoice.toNat_down hn h
    · exact hstay
  | upArrow => exact UserChoice.toNat_up hn h
  | downArrow => exact UserChoice.toNat_down hn h
  | escape | enter | backspace | unknown => exact hstay

/-- A selection stays among the choices. -/
lemma Keypress.move_lt (hn : n < 2 ^ 32) (h : selection.toNat < n) (k : Keypress) :
    (k.move n selection).toNat < n := by
  have hmove := k.toNat_move hn h
  have hlt := Int.emod_lt_of_pos (selection.toNat + k.offset) (show (0 : ℤ) < n by omega)
  omega

/-- The loop goes on behind a key that does not end it. -/
lemma makeSelection_cons {k : Keypress} (hk : k.endsSelection = false) (keys : List Keypress) :
    makeSelection n selection (k :: keys) = makeSelection n (k.move n selection) keys := by
  cases k with
  | regular c =>
    simp only [makeSelection, Keypress.move]
    split_ifs <;> rfl
  | escape | enter => cases hk
  | upArrow | downArrow | backspace | unknown => rfl

/-- A choice is `ESCAPE` or one of the `n`. -/
lemma eq_escape_or_lt_of_makeSelection (hn : n < 2 ^ 32) (h : selection.toNat < n)
    {keys rest : List Keypress} {choice : UserChoice}
    (hread : makeSelection n selection keys = some (choice, rest)) :
    choice = UserChoice.escape ∨ choice.toNat < n := by
  induction keys generalizing selection with
  | nil => cases hread
  | cons k keys ih =>
    cases hk : k.endsSelection with
    | false =>
      rw [makeSelection_cons hk] at hread
      exact ih (k.move_lt hn h) hread
    | true =>
      cases k with
      | escape =>
        cases hread
        exact .inl rfl
      | enter =>
        cases hread
        exact .inr h
      | regular c | backspace | upArrow | downArrow | unknown => cases hk

end

/-- What `make_selection` returns among `n` choices: `ESCAPE` when that is the first key that ends
the selection, and when it is ENTER, the place that the keys before it lead to. -/
theorem makeSelection_eq_some_iff {n : ℕ} (hn : n < 2 ^ 32) {selection : UserChoice}
    (h : selection.toNat < n) {keys rest : List Keypress} {choice : UserChoice} :
    makeSelection n selection keys = some (choice, rest) ↔
      ∃ moves last, keys = moves ++ last :: rest ∧ (∀ k ∈ moves, k.endsSelection = false) ∧
        ((last = .escape ∧ choice = UserChoice.escape) ∨
          (last = .enter ∧
            (choice.toNat : ℤ) = (selection.toNat + (moves.map Keypress.offset).sum) % n)) := by
  induction keys generalizing selection with
  | nil => simp [makeSelection]
  | cons k keys ih =>
    cases hk : k.endsSelection with
    | false =>
      rw [makeSelection_cons hk, ih (k.move_lt hn h), k.toNat_move hn h]
      constructor
      · rintro ⟨moves, last, rfl, hmoves, hlast⟩
        refine ⟨k :: moves, last, rfl, by simpa [hk] using hmoves, ?_⟩
        simpa [Int.emod_add_emod, add_assoc] using hlast
      · rintro ⟨moves, last, hsplit, hmoves, hlast⟩
        rcases moves with _ | ⟨k', moves⟩
        · obtain ⟨rfl, rfl⟩ := List.cons.inj hsplit
          rcases hlast with ⟨rfl, -⟩ | ⟨rfl, -⟩ <;> cases hk
        · obtain ⟨rfl, rfl⟩ := List.cons.inj hsplit
          refine ⟨moves, last, rfl, fun k' hk' => hmoves k' (List.mem_cons_of_mem k hk'), ?_⟩
          simpa [Int.emod_add_emod, add_assoc] using hlast
    | true =>
      -- Nothing comes before the key that ends the selection.
      have hfirst {moves : List Keypress} {last : Keypress} (hsplit : k :: keys =
          moves ++ last :: rest) (hmoves : ∀ k ∈ moves, k.endsSelection = false) :
          moves = [] ∧ k = last ∧ keys = rest := by
        rcases moves with _ | ⟨k', moves⟩
        · exact ⟨rfl, List.cons.inj hsplit⟩
        · obtain ⟨rfl, -⟩ := List.cons.inj hsplit
          have hk' := hmoves k List.mem_cons_self
          rw [hk] at hk'
          cases hk'
      have hstay : ((selection.toNat : ℕ) : ℤ) = (selection.toNat + 0) % n := by
        rw [add_zero, Int.emod_eq_of_lt (by omega) (by omega)]
      cases k with
      | escape =>
        constructor
        · rintro ⟨⟩
          exact ⟨[], .escape, rfl, by simp, .inl ⟨rfl, rfl⟩⟩
        · rintro ⟨moves, last, hsplit, hmoves, hlast⟩
          obtain ⟨rfl, rfl, rfl⟩ := hfirst hsplit hmoves
          rcases hlast with ⟨-, rfl⟩ | ⟨hlast, -⟩
          · rfl
          · cases hlast
      | enter =>
        constructor
        · rintro ⟨⟩
          exact ⟨[], .enter, rfl, by simp, .inr ⟨rfl, hstay⟩⟩
        · rintro ⟨moves, last, hsplit, hmoves, hlast⟩
          obtain ⟨rfl, rfl, rfl⟩ := hfirst hsplit hmoves
          rcases hlast with ⟨hlast, -⟩ | ⟨-, hchoice⟩
          · cases hlast
          · rw [List.map_nil, List.sum_nil, ← hstay] at hchoice
            rw [makeSelection, UInt32.toNat_inj.mp (Int.ofNat_inj.mp hchoice)]
      | regular c | backspace | upArrow | downArrow | unknown => cases hk

/-- One step up from the first of three choices. -/
theorem makeSelection_up : makeSelection 3 0 [.upArrow, .enter] = some (2, []) :=
  (makeSelection_eq_some_iff (by decide) (by decide)).mpr
    ⟨[.upArrow], .enter, rfl, by decide, .inr ⟨rfl, by decide⟩⟩

/-! ## What a call leaves -/

/-- A receiving loop that returns `ok` has received as many bytes as it was to receive. -/
lemma length_of_recvLoop {len total : ℕ} {data unread : ByteString} {results : List RecvResult}
    {r : Received} (h : recvLoop len total data unread results = some r) (hok : r.status = .ok) :
    total ≤ len ∧ (data.length = len → r.data.length = len) := by
  induction results generalizing total data unread with
  | nil =>
    unfold recvLoop at h
    split_ifs at h with hexit
    cases h
    exact ⟨hexit.le, id⟩
  | cons result results ih =>
    unfold recvLoop at h
    split_ifs at h with hexit
    · cases h
      exact ⟨hexit.le, id⟩
    · cases result with
      | error | closed =>
        cases h
        cases hok
      | bytes k =>
        obtain ⟨htotal, hlength⟩ := ih h
        refine ⟨by omega, fun hdata => hlength ?_⟩
        simp only [overwriteFront, List.length_append, List.length_take, List.length_drop]
        omega

/-- The values that a call can leave in its second out parameter: the one from before, or the one
that the decoder makes of a body. -/
def ClientCall.Leaves {α : Type} (call : ClientCall α) (out out' : α) : Prop :=
  out' = out ∨ ∃ data statCode s statCode', data.length < 2 ^ 32 ∧
    call.deserialize data statCode out = .ok (s, statCode', out')

/-- A call leaves such a value, whatever it receives. -/
lemma ClientCall.leaves_receive {α : Type} {call : ClientCall α} {statCode statCode' : StatusCode}
    {out out' : α} {stream unread : ByteString} {results : List RecvResult} {st : Status}
    (h : call.receive statCode out stream results = some (.ok (st, statCode', out'), unread)) :
    call.Leaves out out' := by
  unfold ClientCall.receive at h
  obtain ⟨⟨hdrReceived, hdr⟩, -, h⟩ := Option.bind_eq_some_iff.mp h
  dsimp only at h
  split_ifs at h with hhdr hvalid
  · cases h
    exact .inl rfl
  · cases h
    exact .inl rfl
  · obtain ⟨bodyReceived, hreceived, h⟩ := Option.bind_eq_some_iff.mp h
    split_ifs at h with hbody
    · cases h
      exact .inl rfl
    · simp only [Option.pure_def, Option.some.injEq, Prod.mk.injEq] at h
      have hlength := (length_of_recvLoop hreceived (not_not.mp hbody)).2 (by simp [resize])
      refine .inr ⟨_, statCode, st, statCode', ?_, h.1⟩
      rw [hlength]
      exact hdr.bodyLen.toNat_lt

/-- The list of correspondents can be chosen from: with the two entries above it, every choice is
below `ESCAPE`. -/
def Listed (l : List ByteString) : Prop := l.length + 2 < 2 ^ 32

instance (l : List ByteString) : Decidable (Listed l) := inferInstanceAs (Decidable (_ < _))

/-- A list that is received can be chosen from. -/
lemma listed_of_leaves {l l' : List ByteString} (h : Client.recvCorrespondents.Leaves l l')
    (hl : Listed l) : Listed l' := by
  rcases h with rfl | ⟨data, statCode, s, statCode', hdata, hdecode⟩
  · exact hl
  · change UsernamesResponse.deserialize data statCode l = _ at hdecode
    rw [UsernamesResponse.deserialize_eq, decodeList] at hdecode
    split_ifs at hdecode with hshort hcode hlen
    · cases hdecode
      exact hl
    · cases hdecode
      exact hl
    · cases hdecode
      exact hl
    · obtain ⟨ss, hcopy, hss⟩ := map_eq_ok.mp hdecode
      cases hss
      -- Each of the strings has a length of four bytes in the body.
      have hcount := length_of_copyStrings hcopy
      rw [UsernamesResponse.lengths, length_wordsAt] at hcount
      rw [not_not, UsernamesResponse.fixedPart] at hlen
      rw [Listed, id, hcount]
      omega

/-! ## The index into the correspondents -/

/-- The plan does not index out of range, whatever its calls leave. -/
def Plan.Safe : Plan → Prop
  | .done i => Listed i.allCorrespondents
  | .stop _ => True
  | .fault => False
  | .call c _ out next => ∀ s statCode' out', c.Leaves out out' → (next s statCode' out').Safe

/-- Where the interface stands, the index is going to be in range. -/
def Session.Safe (s : Session) : Prop :=
  match s.control with
  | .doing plan => plan.Safe
  | .awaiting call _ out next =>
    ∀ s statCode' out', call.Leaves out out' → (next s statCode' out').Safe

/-- A checked call is safe when what follows is. -/
lemma Plan.safe_checked {α : Type} {call : ClientCall α} {statCode : StatusCode} {out : α}
    {next : StatusCode → α → Plan}
    (h : ∀ statCode' out', call.Leaves out out' → (next statCode' out').Safe) :
    (Plan.checked call statCode out next).Safe := by
  intro s statCode' out' hleaves
  dsimp only
  split_ifs
  · trivial
  · exact h statCode' out' hleaves

/-- The background listener is safe when what follows is. -/
lemma Plan.safe_listen {sender : ByteString} {next : StatusCode → Chat → Plan}
    (h : ∀ statCode c, (next statCode c).Safe) (n : ℕ) (statCode : StatusCode) (c : Chat) :
    (Plan.listen sender n statCode c next).Safe := by
  induction n generalizing statCode c with
  | zero => exact h statCode c
  | succ n ih => exact fun s statCode' c' _ => ih statCode' c'

namespace Interface

/-- Entering credentials leaves the list. -/
lemma allCorrespondents_enterPassword {i i' : Interface} (h : i.enterPassword = some i') :
    i'.allCorrespondents = i.allCorrespondents := by
  unfold enterPassword at h
  split_ifs at h
  · cases h
    rfl
  · obtain ⟨⟨password, i''⟩, hread, rfl⟩ := Option.map_eq_some_iff.mp h
    obtain ⟨⟨input, hitEscape, keys⟩, -, hi⟩ := Option.map_eq_some_iff.mp hread
    cases hi
    rfl

/-- So does entering a username. -/
lemma allCorrespondents_enterUsername {i i' : Interface} (h : i.enterUsername = some i') :
    i'.allCorrespondents = i.allCorrespondents := by
  fun_induction enterUsername i with
  | case1 i hread => cases h
  | case2 i username i'' hread hchars ih =>
    obtain ⟨⟨input, hitEscape, keys⟩, -, hi⟩ := Option.map_eq_some_iff.mp hread
    cases hi
    exact ih h
  | case3 i username i'' hread hchars =>
    obtain ⟨⟨input, hitEscape, keys⟩, -, hi⟩ := Option.map_eq_some_iff.mp hread
    cases hi
    cases h
    rfl

/-- A login leaves the list. -/
lemma allCorrespondents_login {i i' : Interface} (h : i.login = some i') :
    i'.allCorrespondents = i.allCorrespondents := by
  obtain ⟨⟨username, i''⟩, hread, h⟩ := Option.bind_eq_some_iff.mp h
  obtain ⟨⟨input, hitEscape, keys⟩, -, hi⟩ := Option.map_eq_some_iff.mp hread
  cases hi
  exact (allCorrespondents_enterPassword h).trans rfl

/-- A registration leaves the list. -/
lemma allCorrespondents_registration {i i' : Interface} (h : i.registration = some i') :
    i'.allCorrespondents = i.allCorrespondents := by
  obtain ⟨i'', hname, h⟩ := Option.bind_eq_some_iff.mp h
  exact (allCorrespondents_enterPassword h).trans (allCorrespondents_enterUsername hname)

/-- A choice that is neither one of the first two entries nor `ESCAPE` is one of the list. -/
lemma exists_of_makeSelection {i i' : Interface} {choice : UserChoice}
    (hlisted : Listed i.allCorrespondents)
    (h : i.makeSelection (i.allCorrespondents.length + 2) = some (choice, i'))
    (h₀ : choice ≠ 0) (h₁ : ¬ (choice = 1 ∨ choice = UserChoice.escape)) :
    (choice - 2).toNat < i.allCorrespondents.length := by
  obtain ⟨⟨choice', keys⟩, hread, hi⟩ := Option.map_eq_some_iff.mp h
  cases hi
  rcases eq_escape_or_lt_of_makeSelection hlisted (by simp) hread with hescape | hlt
  · exact absurd (.inr hescape) h₁
  · have hne₀ : choice.toNat ≠ 0 := fun hz => h₀ (UInt32.toNat_inj.mp hz)
    have hne₁ : choice.toNat ≠ 1 := fun hone => h₁ (.inl (UInt32.toNat_inj.mp hone))
    have hle : (2 : UInt32) ≤ choice := by
      rw [UInt32.le_iff_toNat_le]
      change 2 ≤ choice.toNat
      omega
    rw [UInt32.toNat_sub_of_le _ _ hle]
    change choice.toNat - 2 < _
    omega

/-- The round of the loop is safe when the list can be chosen from. -/
theorem safe_iteration {i : Interface} (h : Listed i.allCorrespondents) {listened : ℕ}
    {plan : Plan} (hplan : i.iteration listened = some plan) : plan.Safe := by
  have hsome {α : Type} {x : Option α} {f : α → Plan} (hmap : x.map f = some plan) :=
    Option.map_eq_some_iff.mp hmap
  have hkey {next : ScreenType} (hmap : i.waitAnykey.map (fun i => Plan.done (i.goto next)) =
      some plan) : plan.Safe := by
    obtain ⟨i', hread, rfl⟩ := hsome hmap
    obtain ⟨keys, rfl⟩ := waitAnykey_keys hread
    exact h
  have hlogin {i' : Interface} (hi : i'.allCorrespondents = i.allCorrespondents) :
      i'.callLogin.Safe :=
    Plan.safe_checked fun _ _ _ => by
      change Listed i'.allCorrespondents
      rwa [hi]
  cases hscreen : i.next with
  | loginRegistration | loginFail | registrationFail =>
    simp only [iteration, hscreen] at hplan
    obtain ⟨choice, keys, rfl⟩ := of_makeSelection hplan
    exact h
  | login =>
    simp only [iteration, hscreen] at hplan
    obtain ⟨i', hread, rfl⟩ := hsome hplan
    have hi := allCorrespondents_login hread
    split_ifs
    · change Listed i'.allCorrespondents
      rwa [hi]
    · exact hlogin hi
  | registration =>
    simp only [iteration, hscreen] at hplan
    obtain ⟨i', hread, rfl⟩ := hsome hplan
    have hi := allCorrespondents_registration hread
    have hlisted : Listed i'.allCorrespondents := by rwa [hi]
    split_ifs
    · exact hlisted
    · exact Plan.safe_checked fun _ _ _ => hlisted
  | registrationSuccess =>
    simp only [iteration, hscreen, Option.some.injEq] at hplan
    subst hplan
    exact hlogin rfl
  | mainMenu =>
    simp only [iteration, hscreen] at hplan
    obtain ⟨choice, keys, rfl⟩ := of_makeSelection hplan
    dsimp only
    split_ifs
    · exact h
    · exact h
    · exact h
    · exact Plan.safe_checked fun _ _ _ => h
    · exact h
  | openChats =>
    simp only [iteration, hscreen, Option.some.injEq] at hplan
    subst hplan
    exact Plan.safe_checked fun _ _ hleaves => listed_of_leaves hleaves h
  | openChatsSuccess =>
    simp only [iteration, hscreen] at hplan
    obtain ⟨⟨choice, i'⟩, hread, rfl⟩ := hsome hplan
    obtain ⟨⟨choice', keys⟩, -, hi⟩ := Option.map_eq_some_iff.mp hread
    have hlist : i'.allCorrespondents = i.allCorrespondents := by
      cases hi
      rfl
    have hlisted : Listed i'.allCorrespondents := by rwa [hlist]
    dsimp only
    split_ifs with h₀ h₁
    · exact hlisted
    · exact hlisted
    · have hindex := exists_of_makeSelection h hread h₀ h₁
      rw [← hlist] at hindex
      rw [List.getElem?_eq_getElem hindex]
      exact hlisted
  | newChat =>
    simp only [iteration, hscreen] at hplan
    obtain ⟨i', hread, rfl⟩ := hsome hplan
    obtain ⟨⟨correspondent, i''⟩, hstring, hi⟩ := Option.map_eq_some_iff.mp hread
    obtain ⟨hitEscape, keys, rfl, -⟩ := getUserString_eq hstring
    cases hi
    exact h
  | recvTxt =>
    simp only [iteration, hscreen, Option.some.injEq] at hplan
    subst hplan
    exact Plan.safe_checked fun _ _ _ => h
  | sendTxt =>
    simp only [iteration, hscreen] at hplan
    obtain ⟨i', hread, rfl⟩ := hsome hplan
    obtain ⟨⟨txt, hitEscape, keys⟩, -, hi⟩ := Option.map_eq_some_iff.mp hread
    cases hi
    refine Plan.safe_listen (fun statCode c => ?_) listened _ _
    unfold callSendTxt
    split_ifs
    · exact h
    · refine Plan.safe_checked fun _ _ _ => ?_
      dsimp only
      split_ifs
      · exact h
      · exact Plan.safe_checked fun _ _ _ => h
  | searchAccounts =>
    simp only [iteration, hscreen] at hplan
    obtain ⟨i', hread, rfl⟩ := hsome hplan
    obtain ⟨⟨pattern, i''⟩, hstring, hi⟩ := Option.map_eq_some_iff.mp hread
    obtain ⟨hitEscape, keys, rfl, -⟩ := getUserString_eq hstring
    cases hi
    split_ifs
    · exact h
    · exact Plan.safe_checked fun _ _ _ => h
  | deleteAccount =>
    simp only [iteration, hscreen] at hplan
    obtain ⟨choice, keys, rfl⟩ := of_makeSelection hplan
    dsimp only
    split_ifs
    · exact h
    · exact Plan.safe_checked fun _ _ _ => h
    · exact h
  | openChatsFail | recvTxtFail | sendTxtFail | searchAccountsSuccess | searchAccountsFail
    | deleteAccountSuccess | deleteAccountFail =>
    simp only [iteration, hscreen] at hplan
    exact hkey hplan
  | exit =>
    simp only [iteration, hscreen, Option.some.injEq] at hplan
    subst hplan
    trivial

end Interface

/-- Every step of the interface and of the server keeps the index in range. -/
theorem Session.Safe.step {tid : ThreadId} {s s' : Session} {e : SessionEvent}
    {reply : Option Status} (h : s.Safe) (hstep : sessionStep tid e s = .ok (reply, s')) :
    s'.Safe := by
  unfold sessionStep at hstep
  split at hstep
  · split at hstep
    · rename_i i hcontrol
      split at hstep
      · cases hstep
      · rename_i plan hplan
        cases hstep
        simp only [Session.Safe, hcontrol] at h ⊢
        exact Interface.safe_iteration h hplan
    · cases hstep
  · split at hstep
    · rename_i α call statCode out next hcontrol
      simp only [Session.Safe, hcontrol] at h
      split_ifs at hstep
      split at hstep
      · cases hstep
      · cases hstep
      · split_ifs at hstep with hst
        · cases hstep
          -- The request has not been sent, and the out parameters are what they were.
          exact h _ _ _ (.inl rfl)
        · cases hstep
          exact h
    · cases hstep
  · split at hstep
    · rename_i α call statCode out next hcontrol
      simp only [Session.Safe, hcontrol] at h
      split at hstep
      · cases hstep
      · cases hstep
      · rename_i hreceive
        cases hstep
        exact h _ _ _ (call.leaves_receive hreceive)
    · cases hstep
  · split at hstep
    · cases hstep
    · cases hstep
      exact h

/-- The interface never indexes `all_correspondents_` out of range, whatever the user types, and
whatever the server sends and the calls of the client return. -/
theorem never_faults {tid : ThreadId} {w : ServerState} {i : Interface}
    (hlisted : Listed i.allCorrespondents) {events : List SessionEvent} {s : Session}
    (hrun : run (sessionStep tid) events (.start w i) = .ok s) : s.control ≠ .doing .fault := by
  have hsafe : s.Safe := run_invariant (P := fun s => s.Safe)
    (fun _ _ _ _ h _ hstep => h.step hstep) (guarded_true _ _) hrun hlisted
  intro hfault
  rw [Session.Safe, hfault] at hsafe
  exact hsafe

/-- The user logs in and reaches the main menu. -/
theorem never_faults_login :
    ∃ s, run (sessionStep 0) registeredLogin (.start (ServerState.initial.withPhase 0 .receiving)
      abcd) = .ok s ∧ s.control ≠ .doing .fault := by
  obtain ⟨s, -, hrun, -⟩ := exists_of_shown
    (show shown 0 registeredLogin (.start (ServerState.initial.withPhase 0 .receiving) abcd) =
      some (.mainMenu, StatusCode.ok, some [97, 98, 99, 100]) by decide +kernel)
  have hlisted : Listed abcd.allCorrespondents := by decide
  exact ⟨s, hrun, never_faults hlisted hrun⟩

end Chat262
