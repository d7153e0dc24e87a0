import Chat262.Client.Interface

/-!
# ESC during a registration

`interface::registration` asks for a username until it gets one without an asterisk and without a
space, and only then looks at `hit_escape_`.  What `get_user_string` returns when ESC is hit is the
line as far as it has been typed, so an ESC behind an asterisk or a space asks for the username
once more, and the registration goes on.

`usernameLoop` is the two loops of the username as one, which takes a key at a time.
`escCancels_iff` says exactly which keys make an ESC cancel the registration: when the first ESC
comes while the username is typed, the line must hold neither an asterisk nor a space.
-/

namespace Chat262

/-! ## The line that is typed -/

/-- A username that `interface::registration` takes. -/
def Acceptable (username : ByteString) : Prop :=
  (4 ≤ username.length ∧ username.length ≤ 40) ∧ star ∉ username ∧ space ∉ username

instance (username : ByteString) : Decidable (Acceptable username) :=
  inferInstanceAs (Decidable (_ ∧ _))

/-- The line after one more key, when the key does not end the input. -/
def typeKey (line : ByteString) : Keypress → ByteString
  | .regular c => line ++ [c]
  | .backspace => line.dropLast
  | .enter | .escape => []
  | .upArrow | .downArrow | .unknown => line

/-- What stands in the line after the keys `keys`. -/
def typedLine (keys : List Keypress) : ByteString := keys.foldl typeKey []

/-- The loop of `interface::registration` together with the loop of `get_user_string` in it: the
username, the value of `hit_escape_` and the keys that are left. -/
def usernameLoop : ByteString → List Keypress → Option (ByteString × Bool × List Keypress)
  | _, [] => none
  | line, key :: keys =>
    if key = .enter ∧ Acceptable line then some (line, false, keys)
    else if key = .escape ∧ star ∉ line ∧ space ∉ line then some (line, true, keys)
    else usernameLoop (typeKey line key) keys

/-- The inner loop, and the outer loop from where the inner one returns. -/
lemma usernameLoop_eq (line : ByteString) (keys : List Keypress) :
    usernameLoop line keys = (getUserString 4 40 line keys).bind fun (username, hitEscape, rest) =>
      if star ∈ username ∨ space ∈ username then usernameLoop [] rest
      else some (username, hitEscape, rest) := by
  fun_induction getUserString 4 40 line keys with
  | case1 => rfl
  | case2 input keys ih | case5 input c keys ih | case7 input keys ih | case8 input keys ih
    | case9 input keys ih => simpa [usernameLoop, typeKey] using ih
  | case3 input keys hlen =>
    by_cases hchars : star ∈ input ∨ space ∈ input
    · have hnot : ¬ Acceptable input := fun h => hchars.elim h.2.1 h.2.2
      simp [usernameLoop, typeKey, hnot, hchars]
    · have hok : Acceptable input := ⟨hlen, not_or.mp hchars⟩
      simp [usernameLoop, hok, hchars]
  | case4 input keys hlen ih =>
    have hnot : ¬ Acceptable input := fun h => hlen h.1
    simpa [usernameLoop, typeKey, hnot] using ih
  | case6 input keys =>
    by_cases hchars : star ∈ input ∨ space ∈ input
    · have hnot : ¬ (star ∉ input ∧ space ∉ input) := fun h => hchars.elim h.1 h.2
      simp [usernameLoop, typeKey, hnot, hchars]
    · have hok : star ∉ input ∧ space ∉ input := not_or.mp hchars
      simp [usernameLoop, hok]

/-! ## The loop of the username -/

section

variable {line username : ByteString} {hitEscape : Bool} {keys rest : List Keypress}

/-- The loop takes at least one key. -/
lemma length_usernameLoop (h : usernameLoop line keys = some (username, hitEscape, rest)) :
    rest.length < keys.length := by
  fun_induction usernameLoop line keys with
  | case1 => cases h
  | case2 | case3 =>
    cases h
    exact Nat.lt_succ_self _
  | case4 line key keys henter hescape ih => exact (ih h).trans (Nat.lt_succ_self _)

/-- A username that is entered is acceptable. -/
lemma acceptable_of_usernameLoop (h : usernameLoop line keys = some (username, hitEscape, rest))
    (hentered : hitEscape = false) : Acceptable username := by
  fun_induction usernameLoop line keys with
  | case1 => cases h
  | case2 line key keys henter =>
    cases h
    exact henter.2
  | case3 => cases h; cases hentered
  | case4 line key keys henter hescape ih => exact ih h

/-- A loop that has not ended goes on with the line that has been typed. -/
lemma usernameLoop_append_of_none (h : usernameLoop line keys = none) :
    usernameLoop line (keys ++ rest) = usernameLoop (keys.foldl typeKey line) rest := by
  fun_induction usernameLoop line keys with
  | case1 => rfl
  | case2 | case3 => cases h
  | case4 line key keys henter hescape ih =>
    rw [List.cons_append, usernameLoop, if_neg henter, if_neg hescape, ih h, List.foldl_cons]

/-- A loop that has ended does not look at the keys behind. -/
lemma usernameLoop_append_of_some {keys' : List Keypress}
    (h : usernameLoop line keys = some (username, hitEscape, rest)) :
    usernameLoop line (keys ++ keys') = some (username, hitEscape, rest ++ keys') := by
  fun_induction usernameLoop line keys with
  | case1 => cases h
  | case2 line key keys henter =>
    cases h
    rw [List.cons_append, usernameLoop, if_pos henter]
  | case3 line key keys henter hescape =>
    cases h
    rw [List.cons_append, usernameLoop, if_neg henter, if_pos hescape]
  | case4 line key keys henter hescape ih =>
    rw [List.cons_append, usernameLoop, if_neg henter, if_neg hescape, ih h]

/-- Without an ESC, the loop goes on as long as no acceptable username is entered. -/
lemma usernameLoop_eq_none_iff (hkeys : Keypress.escape ∉ keys) :
    usernameLoop line keys = none ↔
      ∀ before behind, keys = before ++ .enter :: behind →
        ¬ Acceptable (before.foldl typeKey line) := by
  induction keys generalizing line with
  | nil => simp [usernameLoop]
  | cons key keys ih =>
    have hkey : ¬ (key = .escape ∧ star ∉ line ∧ space ∉ line) :=
      fun h => hkeys (h.1 ▸ List.mem_cons_self)
    have hrest : Keypress.escape ∉ keys := fun hmem => hkeys (List.mem_cons_of_mem _ hmem)
    rw [usernameLoop, if_neg hkey]
    constructor
    · intro h before behind hsplit
      split_ifs at h with henter
      rcases List.cons_eq_append_iff.mp hsplit with ⟨rfl, hcons⟩ | ⟨before', rfl, hkeys'⟩
      · obtain ⟨rfl, -⟩ := List.cons.inj hcons
        exact fun hline => henter ⟨rfl, hline⟩
      · exact (ih hrest).mp h before' behind hkeys'
    · intro h
      have henter : ¬ (key = .enter ∧ Acceptable line) := by
        rintro ⟨rfl, hline⟩
        exact h [] keys rfl hline
      rw [if_neg henter]
      refine (ih hrest).mpr fun before behind hsplit => ?_
      exact h (key :: before) behind (by rw [hsplit, List.cons_append])

/-- ESC ends the loop when the line holds no asterisk and no space. -/
lemma usernameLoop_escape (hclear : star ∉ line ∧ space ∉ line) :
    usernameLoop line (.escape :: keys) = some (line, true, keys) := by
  simp [usernameLoop, hclear]

/-- Otherwise the loop goes on with an empty line. -/
lemma usernameLoop_escape_of_not (hclear : ¬ (star ∉ line ∧ space ∉ line)) :
    usernameLoop line (.escape :: keys) = usernameLoop [] keys := by
  simp [usernameLoop, typeKey, hclear]

end

/-- ESC ends the input of a string that has not ended. -/
lemma getUserString_append_escape {minLen maxLen : ℕ} {line : ByteString} {keys : List Keypress}
    (h : getUserString minLen maxLen line keys = none) (rest : List Keypress) :
    ∃ s, getUserString minLen maxLen line (keys ++ .escape :: rest) = some (s, true, rest) := by
  fun_induction getUserString minLen maxLen line keys with
  | case1 line => exact ⟨line, rfl⟩
  | case3 | case6 => cases h
  | case4 input keys hlen ih =>
    rw [List.cons_append, getUserString, if_neg hlen]
    exact ih h
  | case2 input keys ih | case5 input c keys ih | case7 input keys ih | case8 input keys ih
    | case9 input keys ih => exact ih h

/-! ## The whole function -/

namespace Interface

variable {i : Interface} {username : ByteString} {keys : List Keypress}

/-- The loop of `interface::registration` leaves the last username that is read. -/
lemma enterUsername_eq (i : Interface) :
    i.enterUsername = (usernameLoop [] i.keys).map fun (username, hitEscape, keys) =>
      { i with username := username, hitEscape := hitEscape, keys := keys } := by
  fun_induction Interface.enterUsername i with
  | case1 i hread =>
    have hnone := Option.map_eq_none_iff.mp hread
    rw [usernameLoop_eq, hnone]
    rfl
  | case2 i username i' hread hchars ih =>
    obtain ⟨⟨input, hitEscape, keys⟩, hkeys, hi⟩ := Option.map_eq_some_iff.mp hread
    cases hi
    have hloop : usernameLoop [] i.keys = usernameLoop [] keys := by
      rw [usernameLoop_eq [] i.keys, hkeys]
      exact if_pos hchars
    rw [ih, hloop]
  | case3 i username i' hread hchars =>
    obtain ⟨⟨input, hitEscape, keys⟩, hkeys, hi⟩ := Option.map_eq_some_iff.mp hread
    cases hi
    have hloop : usernameLoop [] i.keys = some (username, hitEscape, keys) := by
      rw [usernameLoop_eq, hkeys]
      exact if_neg hchars
    rw [hloop]
    rfl

/-- While the username is typed the function does not return. -/
lemma registration_of_none (h : usernameLoop [] i.keys = none) : i.registration = none := by
  rw [registration, enterUsername_eq, h]
  rfl

/-- The function returns when ESC ends the input of the username. -/
lemma registration_of_escape (h : usernameLoop [] i.keys = some (username, true, keys)) :
    i.registration = some { i with username := username, hitEscape := true, keys := keys } := by
  rw [registration, enterUsername_eq, h]
  rfl

/-- Behind the username the password is read. -/
lemma registration_of_entered (h : usernameLoop [] i.keys = some (username, false, keys)) :
    i.registration = (Chat262.getUserString 4 60 [] keys).map fun (password, hitEscape, keys) =>
      { i with
        username := username
        password := password
        hitEscape := hitEscape
        keys := keys } := by
  rw [registration, enterUsername_eq, h]
  let i' : Interface := { i with username := username, hitEscape := false, keys := keys }
  change (i'.getUserString 4 60).map _ = _
  rw [Interface.getUserString, Option.map_map]
  rfl

/-- The function leaves fewer keys than the loop of the username gets. -/
lemma length_registration {i' : Interface} (h : i.registration = some i') {hitEscape : Bool}
    (hloop : usernameLoop [] i.keys = some (username, hitEscape, keys)) :
    i'.keys.length ≤ keys.length := by
  cases hitEscape with
  | true =>
    rw [registration_of_escape hloop] at h
    cases h
    exact le_rfl
  | false =>
    rw [registration_of_entered hloop] at h
    obtain ⟨⟨password, hitEscape, rest⟩, hread, hi⟩ := Option.map_eq_some_iff.mp h
    cases hi
    exact (length_getUserString hread).le

/-- ESC cancels the registration: when it is hit while the function has not returned, the function
returns there with `hit_escape_` set, and `start` goes to the first screen without a call of the
client.  A registration that is not cancelled has a username and a password of the right form. -/
structure EscCancels (i : Interface) : Prop where
  /-- The function returns at the ESC. -/
  cancels : ∀ keys rest, i.keys = keys ++ .escape :: rest →
    { i with keys := keys }.registration = none →
      ∃ i', i.registration = some i' ∧ i'.hitEscape = true ∧ i'.keys = rest ∧
        (i.next = .registration → ∀ listened,
          i.iteration listened = some (.done (i'.goto .loginRegistration)))
  /-- What is entered otherwise. -/
  enters : ∀ i', i.registration = some i' → i'.hitEscape = false →
    Acceptable i'.username ∧ 4 ≤ i'.password.length ∧ i'.password.length ≤ 60

end Interface

/-- When the first ESC of the keys comes before an acceptable username has been entered, the line
that it finds holds neither an asterisk nor a space. -/
def ClearAtEscape (keys : List Keypress) : Prop :=
  ∀ before rest, keys = before ++ .escape :: rest → Keypress.escape ∉ before →
    (∀ entered behind, before = entered ++ .enter :: behind → ¬ Acceptable (typedLine entered)) →
    star ∉ typedLine before ∧ space ∉ typedLine before

namespace Interface

variable {i : Interface}

/-- A registration that is not cancelled has entered both. -/
lemma acceptable_of_registration {i' : Interface} (h : i.registration = some i')
    (hentered : i'.hitEscape = false) :
    Acceptable i'.username ∧ 4 ≤ i'.password.length ∧ i'.password.length ≤ 60 := by
  cases hloop : usernameLoop [] i.keys with
  | none =>
    rw [registration_of_none hloop] at h
    cases h
  | some result =>
    obtain ⟨username, hitEscape, keys⟩ := result
    cases hitEscape with
    | true =>
      rw [registration_of_escape hloop] at h
      cases h
      cases hentered
    | false =>
      rw [registration_of_entered hloop] at h
      obtain ⟨⟨password, hitEscape, rest⟩, hread, hi⟩ := Option.map_eq_some_iff.mp h
      cases hi
      exact ⟨acceptable_of_usernameLoop hloop rfl, length_of_getUserString hread hentered⟩

/-- The round of the loop of `start` in which the registration is cancelled. -/
lemma iteration_of_cancelled {i' : Interface} (h : i.registration = some i')
    (hescape : i'.hitEscape = true) (hnext : i.next = .registration) (listened : ℕ) :
    i.iteration listened = some (.done (i'.goto .loginRegistration)) := by
  simp [iteration, hnext, h, hescape]

/-- A line that holds no asterisk and no space when ESC is hit is where the function returns. -/
lemma registration_of_clear {keys rest : List Keypress} (hkeys : i.keys = keys ++ .escape :: rest)
    (hopen : usernameLoop [] keys = none)
    (hclear : star ∉ typedLine keys ∧ space ∉ typedLine keys) :
    i.registration =
      some { i with username := typedLine keys, hitEscape := true, keys := rest } := by
  apply registration_of_escape
  rw [hkeys, usernameLoop_append_of_none hopen]
  exact usernameLoop_escape hclear

/-- The password is given up at an ESC. -/
lemma registration_of_password {keys rest behind : List Keypress} {username : ByteString}
    (hkeys : i.keys = keys ++ .escape :: rest)
    (hloop : usernameLoop [] keys = some (username, false, behind))
    (hopen : Chat262.getUserString 4 60 [] behind = none) :
    ∃ password, i.registration = some { i with
      username := username
      password := password
      hitEscape := true
      keys := rest } := by
  have hwhole : usernameLoop [] i.keys = some (username, false, behind ++ .escape :: rest) := by
    rw [hkeys]
    exact usernameLoop_append_of_some hloop
  obtain ⟨password, hread⟩ := getUserString_append_escape hopen rest
  refine ⟨password, ?_⟩
  rw [registration_of_entered hwhole, hread]
  rfl

/-- While the loop of the username has not ended, the next ESC is the first one, or all before it
have found lines that are not clear. -/
lemma clear_of_open {keys rest : List Keypress} (h : ClearAtEscape (keys ++ .escape :: rest))
    (hopen : usernameLoop [] keys = none) : star ∉ typedLine keys ∧ space ∉ typedLine keys := by
  by_cases hmem : Keypress.escape ∈ keys
  · obtain ⟨before, behind, rfl, hfirst⟩ := List.eq_append_cons_of_mem hmem
    have hbefore : usernameLoop [] before = none := by
      cases hloop : usernameLoop [] before with
      | none => rfl
      | some result =>
        rw [usernameLoop_append_of_some hloop] at hopen
        cases hopen
    have hsplit : (before ++ .escape :: behind) ++ .escape :: rest =
        before ++ .escape :: (behind ++ .escape :: rest) := by simp
    have hclear := h before _ hsplit hfirst ((usernameLoop_eq_none_iff hfirst).mp hbefore)
    -- The first of these ESCs would have ended the loop.
    have hreturn : usernameLoop [] (before ++ .escape :: behind) =
        some (typedLine before, true, behind) := by
      rw [usernameLoop_append_of_none hbefore]
      exact usernameLoop_escape hclear
    rw [hreturn] at hopen
    cases hopen
  · exact h keys rest rfl hmem ((usernameLoop_eq_none_iff hmem).mp hopen)

/-- ESC cancels a registration exactly when the line that the first ESC finds, if it comes before an
acceptable username has been entered, holds neither an asterisk nor a space. -/
theorem escCancels_iff (i : Interface) : i.EscCancels ↔ ClearAtEscape i.keys := by
  constructor
  · intro h before rest hkeys hfirst hentered
    have hopen : usernameLoop [] before = none := (usernameLoop_eq_none_iff hfirst).mpr hentered
    obtain ⟨i', hreturn, -, hrest, -⟩ := h.cancels before rest hkeys (registration_of_none hopen)
    by_contra hclear
    -- The function has returned at the ESC, but its loop has not.
    have hgoes : usernameLoop [] i.keys = usernameLoop [] rest := by
      rw [hkeys, usernameLoop_append_of_none hopen]
      exact usernameLoop_escape_of_not hclear
    cases hloop : usernameLoop [] rest with
    | none =>
      rw [registration_of_none (hgoes.trans hloop)] at hreturn
      cases hreturn
    | some result =>
      obtain ⟨username, hitEscape, keys⟩ := result
      have hless := length_usernameLoop hloop
      have hleft := length_registration hreturn (hgoes.trans hloop)
      rw [hrest] at hleft
      omega
  · intro h
    refine ⟨?_, fun i' hreturn hentered => acceptable_of_registration hreturn hentered⟩
    intro keys rest hkeys hnone
    cases hloop : usernameLoop [] keys with
    | none =>
      have hreturn := registration_of_clear hkeys hloop (clear_of_open (hkeys ▸ h) hloop)
      exact ⟨_, hreturn, rfl, rfl, iteration_of_cancelled hreturn rfl⟩
    | some result =>
      obtain ⟨username, hitEscape, behind⟩ := result
      cases hitEscape with
      | true =>
        rw [registration_of_escape hloop] at hnone
        cases hnone
      | false =>
        rw [registration_of_entered hloop] at hnone
        obtain ⟨password, hreturn⟩ :=
          registration_of_password hkeys hloop (Option.map_eq_none_iff.mp hnone)
        exact ⟨_, hreturn, rfl, rfl, iteration_of_cancelled hreturn rfl⟩

/-- A user types an asterisk, hits ESC, and goes on typing what could be a name and a password. -/
def undeterred : Interface where
  next := .registration
  statCode := 0
  currChat := ⟨[]⟩
  username := []
  password := []
  pattern := []
  matchedUsernames := []
  allCorrespondents := []
  correspondent := []
  partialTxt := []
  hitEscape := false
  keys := [.regular 42, .escape, .regular 98, .regular 111, .regular 98, .regular 98, .enter,
    .regular 112, .regular 97, .regular 115, .regular 115, .enter]

/-- The ESC is lost, and the registration ends with the name and the password. -/
theorem undeterred_registers :
    (∃ i', undeterred.registration = some i' ∧ i'.hitEscape = false ∧
      i'.username = [98, 111, 98, 98] ∧ i'.password = [112, 97, 115, 115]) ∧
      ¬ undeterred.EscCancels := by
  have hloop : usernameLoop [] undeterred.keys = some ([98, 111, 98, 98], false,
      [.regular 112, .regular 97, .regular 115, .regular 115, .enter]) := by decide
  obtain ⟨i', hreturn, hentered, husername, hpassword⟩ :
      ∃ i', undeterred.registration = some i' ∧ i'.hitEscape = false ∧
        i'.username = [98, 111, 98, 98] ∧ i'.password = [112, 97, 115, 115] := by
    rw [registration_of_entered hloop]
    exact ⟨_, rfl, rfl, rfl, rfl⟩
  refine ⟨⟨i', hreturn, hentered, husername, hpassword⟩, ?_⟩
  intro h
  have hnone : ({ undeterred with keys := [.regular 42] } : Interface).registration = none :=
    registration_of_none (by decide)
  obtain ⟨i'', hreturn', hescape, -⟩ := h.cancels [.regular 42] _ rfl hnone
  rw [hreturn] at hreturn'
  cases hreturn'
  rw [hentered] at hescape
  cases hescape

end Interface

end Chat262
