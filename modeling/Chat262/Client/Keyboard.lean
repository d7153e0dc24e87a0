import Chat262.Client.ChatScreen

/-!
# From bytes to keys

`interface::read_keypress` reads the terminal a byte at a time.  Most keys send one byte; the arrow
keys send three, of which the first one is the ESC character, so behind an ESC the function polls
the terminal: when nothing has arrived it was the ESC key, and otherwise two more bytes belong to
the key.  What a byte stands for thus depends on what has arrived when.

`Keyboard` is the terminal, with the bytes that have arrived, and where `read_keypress` stands, and
`keyboardStep` its next system call, or the arrival of some bytes: `run keyboardStep` is any order
of the two.  `keys_account_for_bytes` says for all bytes and every order that each byte goes into
exactly one key.  `keys_roundTrip` is about keys that are pressed: each of them is read as itself
when nothing is pressed behind an ESC that has not been read yet.
-/

namespace Chat262

open Foundation

/-! ## The terminal and the function -/

/-- The ESC character. -/
def escByte : UInt8 := 27

/-- Where `interface::read_keypress` stands. -/
inductive ReadAt where
  /-- It waits until there is something available, and reads a byte. -/
  | first
  /-- It has read an ESC character, and polls the terminal. -/
  | polling
  | rest
deriving DecidableEq, Repr

/-- The terminal, and the function that reads it again and again. -/
structure Keyboard where
  queue : ByteString
  phase : ReadAt
  keys : List Keypress
deriving DecidableEq, Repr

/-- Nothing has arrived. -/
def Keyboard.idle : Keyboard := ⟨[], .first, []⟩

/-- A key that is one byte, which is not the ESC character.  A `char` is signed, so a byte from 128
on is no `VERASE`. -/
def byteKey (verase c : UInt8) : Keypress :=
  if c < 128 ∧ c = verase then .backspace
  else if c = 10 then .enter
  else if 32 ≤ c ∧ c ≤ 126 then .regular c
  else .unknown

/-- A key that begins with an ESC character, with the bytes that `read` has returned behind it. -/
def escapeKey : ByteString → Keypress
  | [91, 65] => .upArrow
  | [91, 66] => .downArrow
  | _ => .unknown

/-- The function returns a key. -/
def Keyboard.emit (k : Keypress) (queue : ByteString) (kb : Keyboard) : Keyboard :=
  ⟨queue, .first, kb.keys ++ [k]⟩

/-- The next system call of `interface::read_keypress`, where `verase` is `new_t_.c_cc[VERASE]`. -/
def readStep (verase : UInt8) (kb : Keyboard) : Option Keyboard :=
  match kb.phase with
  | .first =>
    match kb.queue with
    | [] => none
    | c :: queue =>
      -- `VERASE` is tested first.
      if c = escByte ∧ c ≠ verase then some { kb with queue := queue, phase := .polling }
      else some (kb.emit (byteKey verase c) queue)
  | .polling =>
    if kb.queue = [] then some (kb.emit .escape []) else some { kb with phase := .rest }
  | .rest =>
    if kb.queue = [] then none else some (kb.emit (escapeKey (kb.queue.take 2)) (kb.queue.drop 2))

/-- What can happen at the terminal. -/
inductive KeyboardEvent where
  | arrive (bytes : ByteString)
  /-- The function makes its next system call. -/
  | read
deriving DecidableEq, Repr

/-- One step.  A call that has to wait is refused. -/
def keyboardStep (verase : UInt8) (e : KeyboardEvent) (kb : Keyboard) :
    Except Unit (Unit × Keyboard) :=
  match e with
  | .arrive bytes => .ok ((), { kb with queue := kb.queue ++ bytes })
  | .read =>
    match readStep verase kb with
    | none => .error ()
    | some kb' => .ok ((), kb')

/-- What a step does: the ways in which the event `e` can lead from `kb` to `kb'`. -/
inductive KeyboardEffect (verase : UInt8) (kb : Keyboard) : KeyboardEvent → Keyboard → Prop
  | arrived (bytes : ByteString) :
      KeyboardEffect verase kb (.arrive bytes) { kb with queue := kb.queue ++ bytes }
  | single {c : UInt8} {queue : ByteString} (hphase : kb.phase = .first)
      (hqueue : kb.queue = c :: queue) (hbyte : ¬ (c = escByte ∧ c ≠ verase)) :
      KeyboardEffect verase kb .read (kb.emit (byteKey verase c) queue)
  | escaped {queue : ByteString} (hphase : kb.phase = .first)
      (hqueue : kb.queue = escByte :: queue) (hverase : escByte ≠ verase) :
      KeyboardEffect verase kb .read { kb with queue := queue, phase := .polling }
  | alone (hphase : kb.phase = .polling) (hqueue : kb.queue = []) :
      KeyboardEffect verase kb .read (kb.emit .escape [])
  | followed (hphase : kb.phase = .polling) (hqueue : kb.queue ≠ []) :
      KeyboardEffect verase kb .read { kb with phase := .rest }
  | sequence (hphase : kb.phase = .rest) (hqueue : kb.queue ≠ []) :
      KeyboardEffect verase kb .read
        (kb.emit (escapeKey (kb.queue.take 2)) (kb.queue.drop 2))

/-- Every step has one of the effects. -/
theorem keyboardStep_effect {verase : UInt8} {e : KeyboardEvent} {kb kb' : Keyboard} {r : Unit}
    (h : keyboardStep verase e kb = .ok (r, kb')) : KeyboardEffect verase kb e kb' := by
  cases e with
  | arrive bytes =>
    cases h
    exact .arrived bytes
  | read =>
    simp only [keyboardStep] at h
    split at h
    · cases h
    · rename_i hread
      cases h
      unfold readStep at hread
      split at hread
      · rename_i hphase
        split at hread
        · cases hread
        · rename_i c queue hqueue
          split_ifs at hread with hesc
          · cases hread
            obtain ⟨rfl, hverase⟩ := hesc
            exact .escaped hphase hqueue hverase
          · cases hread
            exact .single hphase hqueue hesc
      · rename_i hphase
        split_ifs at hread with hqueue
        · cases hread
          exact .alone hphase hqueue
        · cases hread
          exact .followed hphase hqueue
      · rename_i hphase
        split_ifs at hread with hqueue
        cases hread
        exact .sequence hphase hqueue

/-! ## Every byte goes into one key -/

/-- The bytes that have arrived in some events. -/
def arrived (events : List KeyboardEvent) : ByteString :=
  (events.map fun
    | .arrive bytes => bytes
    | .read => []).flatten

/-- The bytes that make a key. -/
inductive IsKey (verase : UInt8) : ByteString → Keypress → Prop
  | single {c : UInt8} (hbyte : ¬ (c = escByte ∧ c ≠ verase)) :
      IsKey verase [c] (byteKey verase c)
  | escape (hverase : escByte ≠ verase) : IsKey verase [escByte] .escape
  /-- The ESC character, and one or two bytes behind it. -/
  | sequence {rest : ByteString} (hverase : escByte ≠ verase)
      (hlen : rest.length = 1 ∨ rest.length = 2) :
      IsKey verase (escByte :: rest) (escapeKey rest)

/-- The bytes that make some keys, one after the other. -/
inductive AreKeys (verase : UInt8) : ByteString → List Keypress → Prop
  | nil : AreKeys verase [] []
  | concat {bytes key : ByteString} {ks : List Keypress} {k : Keypress}
      (h : AreKeys verase bytes ks) (hkey : IsKey verase key k) :
      AreKeys verase (bytes ++ key) (ks ++ [k])

/-- The bytes that have been read of a key that is still underway. -/
def ReadAt.underway : ReadAt → ByteString
  | .first => []
  | .polling | .rest => [escByte]

/-- An ESC character is underway when it is not `VERASE`, and there is more behind it when that has
been found. -/
structure Keyboard.Sound (verase : UInt8) (kb : Keyboard) : Prop where
  esc : kb.phase ≠ .first → escByte ≠ verase
  more : kb.phase = .rest → kb.queue ≠ []

/-- Some more bytes arrive. -/
lemma arrived_concat (events : List KeyboardEvent) (e : KeyboardEvent) :
    arrived (events ++ [e]) = arrived events ++ arrived [e] := by
  simp [arrived]

/-- What `read` returns behind an ESC character. -/
lemma length_take_two {bytes : ByteString} (h : bytes ≠ []) :
    (bytes.take 2).length = 1 ∨ (bytes.take 2).length = 2 := by
  have hpos := List.length_pos_iff.mpr h
  rw [List.length_take]
  omega

section

variable {verase : UInt8}

/-- Every step keeps what has been found. -/
lemma Keyboard.Sound.step {kb kb' : Keyboard} {e : KeyboardEvent} {r : Unit}
    (h : kb.Sound verase) (hstep : keyboardStep verase e kb = .ok (r, kb')) :
    kb'.Sound verase := by
  cases keyboardStep_effect hstep with
  | arrived bytes => exact ⟨h.esc, fun hrest => by simp [h.more hrest]⟩
  | escaped hphase hqueue hverase => exact ⟨fun _ => hverase, by simp⟩
  | followed hphase hqueue => exact ⟨fun _ => h.esc (by simp [hphase]), fun _ => hqueue⟩
  | single | alone | sequence => exact ⟨by simp [Keyboard.emit], by simp [Keyboard.emit]⟩

/-- The bytes that have arrived are those of the keys that have been returned, those of the key that
is underway, and those that have not been read. -/
def Keyboard.Accounts (verase : UInt8) (events : List KeyboardEvent) (kb : Keyboard) : Prop :=
  ∃ bytes, AreKeys verase bytes kb.keys ∧
    arrived events = bytes ++ kb.phase.underway ++ kb.queue

/-- Every step accounts for its bytes. -/
lemma Keyboard.Accounts.step {events : List KeyboardEvent} {e : KeyboardEvent} {kb kb' : Keyboard}
    {r : Unit} (h : kb.Accounts verase events) (hsound : kb.Sound verase)
    (hstep : keyboardStep verase e kb = .ok (r, kb')) : kb'.Accounts verase (events ++ [e]) := by
  obtain ⟨bytes, hkeys, harrived⟩ := h
  have hread : arrived (events ++ [.read]) = arrived events := by simp [arrived]
  cases keyboardStep_effect hstep with
  | arrived more =>
    refine ⟨bytes, hkeys, ?_⟩
    rw [arrived_concat, harrived, List.append_assoc]
    simp [arrived]
  | @single c queue hphase hqueue hbyte =>
    refine ⟨bytes ++ [c], hkeys.concat (.single hbyte), ?_⟩
    rw [hread, harrived, hphase, hqueue]
    simp [Keyboard.emit, ReadAt.underway]
  | escaped hphase hqueue hverase =>
    refine ⟨bytes, hkeys, ?_⟩
    rw [hread, harrived, hphase, hqueue]
    simp [ReadAt.underway]
  | alone hphase hqueue =>
    refine ⟨bytes ++ [escByte], hkeys.concat (.escape (hsound.esc (by simp [hphase]))), ?_⟩
    rw [hread, harrived, hphase, hqueue]
    simp [Keyboard.emit, ReadAt.underway]
  | followed hphase hqueue =>
    refine ⟨bytes, hkeys, ?_⟩
    rw [hread, harrived, hphase]
    rfl
  | sequence hphase hqueue =>
    refine ⟨bytes ++ (escByte :: kb.queue.take 2), hkeys.concat
      (.sequence (hsound.esc (by simp [hphase])) (length_take_two hqueue)), ?_⟩
    rw [hread, harrived, hphase]
    simp [Keyboard.emit, ReadAt.underway, List.take_append_drop]

/-- Bytes without an ESC character are a key each. -/
lemma AreKeys.eq_map {bytes : ByteString} {ks : List Keypress} (h : AreKeys verase bytes ks)
    (hesc : escByte ∉ bytes) : ks = bytes.map (byteKey verase) := by
  induction h with
  | nil => rfl
  | concat h hkey ih =>
    rw [List.mem_append, not_or] at hesc
    rw [List.map_append, ← ih hesc.1]
    cases hkey with
    | single hbyte => rfl
    | escape | sequence => simp at hesc

end

/-- Every byte goes into one key.  Whatever bytes arrive, and in whatever pieces, the keys that
`read_keypress` returns are made of the bytes that have arrived, in order, without a byte lost or
read twice.  Bytes without an ESC character are a key each, however they have arrived. -/
theorem keys_account_for_bytes {verase : UInt8} {events : List KeyboardEvent} {kb : Keyboard}
    (hrun : run (keyboardStep verase) events .idle = .ok kb) :
    (∃ bytes, AreKeys verase bytes kb.keys ∧
      arrived events = bytes ++ kb.phase.underway ++ kb.queue) ∧
      (escByte ∉ arrived events → ∃ bytes, arrived events = bytes ++ kb.queue ∧
        kb.keys = bytes.map (byteKey verase)) := by
  have hinvariant : kb.Sound verase ∧ kb.Accounts verase events :=
    run_history (P := fun es kb => kb.Sound verase ∧ kb.Accounts verase es)
      ⟨⟨by simp [Keyboard.idle], by simp [Keyboard.idle]⟩, [], .nil, rfl⟩
      (fun _ _ _ _ _ _ h _ hstep => ⟨h.1.step hstep, h.2.step h.1 hstep⟩) (guarded_true _ _) hrun
  obtain ⟨bytes, hkeys, harrived⟩ := hinvariant.2
  refine ⟨⟨bytes, hkeys, harrived⟩, fun hesc => ?_⟩
  rw [harrived, List.mem_append, List.mem_append, not_or, not_or] at hesc
  have hunderway : kb.phase.underway = [] := by
    cases hphase : kb.phase with
    | first => rfl
    | polling | rest => exact absurd (by simp [hphase, ReadAt.underway]) hesc.1.2
  rw [hunderway, List.append_nil] at harrived
  exact ⟨bytes, harrived, hkeys.eq_map hesc.1.1⟩

/-- A key of one byte is printable if it is a regular one. -/
lemma typable_byteKey (verase c : UInt8) : Typable [byteKey verase c] := by
  intro b hb
  have hbyte : byteKey verase c = .regular b := (List.mem_singleton.mp hb).symm
  unfold byteKey at hbyte
  split_ifs at hbyte with herase henter hprintable
  cases hbyte
  rintro rfl
  exact absurd hprintable.1 (by decide)

/-- The regular keys that `read_keypress` returns are printable, so the line in which they are shown
moves on. -/
theorem typable_of_areKeys {verase : UInt8} {bytes : ByteString} {ks : List Keypress}
    (h : AreKeys verase bytes ks) : Typable ks := by
  induction h with
  | nil => simp [Typable]
  | @concat bytes key ks k h hkey ih =>
    intro c hc
    rcases List.mem_append.mp hc with hold | hnew
    · exact ih c hold
    · cases hkey with
      | single hbyte => exact typable_byteKey verase _ c hnew
      | escape => simp at hnew
      | @sequence rest hverase hlen =>
        rw [List.mem_singleton] at hnew
        unfold escapeKey at hnew
        split at hnew <;> cases hnew

/-- The first byte of an arrow key arrives early enough to be polled for, and the others late. -/
theorem keys_account_for_bytes_arrow :
    ∃ kb, run (keyboardStep 127) [.arrive [120, 27], .read, .read, .arrive [91], .read,
        .arrive [65, 121], .read, .read] .idle = .ok kb ∧
      kb.keys = [.regular 120, .upArrow, .regular 121] ∧ ∃ bytes, AreKeys 127 bytes kb.keys ∧
        [120, 27, 91, 65, 121] = bytes ++ kb.phase.underway ++ kb.queue := by
  have hrun : run (keyboardStep 127) [.arrive [120, 27], .read, .read, .arrive [91], .read,
      .arrive [65, 121], .read, .read] .idle = .ok _ := rfl
  exact ⟨_, hrun, rfl, (keys_account_for_bytes hrun).1⟩

/-- In time for the arrow, but not for the whole of it: what is left of the sequence is a character
of its own. -/
example : run (keyboardStep 127) [.arrive [27, 91], .read, .read, .read, .arrive [65], .read]
    .idle = .ok ⟨[], .first, [.unknown, .regular 65]⟩ := by
  rfl

/-! ## Every key that is pressed is read -/

/-- The bytes that a key sends. -/
def Keypress.bytes (verase : UInt8) : Keypress → ByteString
  | .regular c => [c]
  | .escape => [escByte]
  | .enter => [10]
  | .backspace => [verase]
  | .upArrow => [escByte, 91, 65]
  | .downArrow => [escByte, 91, 66]
  | .unknown => []

/-- A key that can be pressed: a regular one is printable, and does not erase. -/
def Keypress.Pressable (verase : UInt8) : Keypress → Prop
  | .regular c => 32 ≤ c ∧ c ≤ 126 ∧ c ≠ verase
  | .unknown => False
  | _ => True

/-- A key is pressed, or `read_keypress` makes its next system call. -/
inductive PressEvent where
  | press (k : Keypress)
  | read
deriving DecidableEq, Repr

/-- One step.  A key arrives as a whole. -/
def pressStep (verase : UInt8) (e : PressEvent) (kb : Keyboard) : Except Unit (Unit × Keyboard) :=
  match e with
  | .press k => keyboardStep verase (.arrive (k.bytes verase)) kb
  | .read => keyboardStep verase .read kb

/-- The keys that are pressed in some events. -/
def pressed (events : List PressEvent) : List Keypress :=
  events.filterMap fun
    | .press k => some k
    | .read => none

/-- An ESC character is the last byte that has arrived, and it is not known yet whether it is a key
of its own. -/
def Keyboard.EscOpen (kb : Keyboard) : Prop :=
  (kb.phase = .polling ∧ kb.queue = []) ∨ kb.queue.getLast? = some escByte

/-- The key can be pressed, and is not pressed right behind the ESC key. -/
def InTime (verase : UInt8) (e : PressEvent) (kb : Keyboard) : Prop :=
  match e with
  | .press k => k.Pressable verase ∧ ¬ kb.EscOpen
  | .read => True

instance (verase : UInt8) : (k : Keypress) → Decidable (k.Pressable verase)
  | .regular _ => inferInstanceAs (Decidable (_ ∧ _))
  | .unknown => .isFalse id
  | .escape | .enter | .backspace | .upArrow | .downArrow => .isTrue trivial

instance (kb : Keyboard) : Decidable kb.EscOpen := inferInstanceAs (Decidable (_ ∨ _))

instance (verase : UInt8) : (e : PressEvent) → (kb : Keyboard) → Decidable (InTime verase e kb)
  | .press _, _ => inferInstanceAs (Decidable (_ ∧ _))
  | .read, _ => .isTrue trivial

/-- `VERASE` is an ASCII character, and neither ENTER nor ESC. -/
structure PlainErase (verase : UInt8) : Prop where
  /-- It is an ASCII character. -/
  ascii : verase < 128
  /-- It is not ENTER. -/
  ne_enter : verase ≠ 10
  /-- It is not ESC. -/
  ne_esc : verase ≠ escByte

section

variable {verase : UInt8}

/-- The bytes of some keys. -/
def bytesOf (verase : UInt8) (ks : List Keypress) : ByteString := ks.flatMap (·.bytes verase)

/-- The bytes of one more key. -/
lemma bytesOf_concat (ks : List Keypress) (k : Keypress) :
    bytesOf verase (ks ++ [k]) = bytesOf verase ks ++ k.bytes verase := by
  simp [bytesOf]

/-- A key that can be pressed sends something. -/
lemma Keypress.Pressable.bytes_ne_nil {k : Keypress} (h : k.Pressable verase) :
    k.bytes verase ≠ [] := by
  cases k with
  | unknown => cases h
  | _ => simp [Keypress.bytes]

/-- A key whose first byte is not the ESC character is that byte. -/
lemma Keypress.Pressable.of_ne_esc {k : Keypress} (h : k.Pressable verase)
    (hverase : PlainErase verase) {c : UInt8} {t : ByteString} (hbytes : k.bytes verase = c :: t)
    (hc : c ≠ escByte) : t = [] ∧ byteKey verase c = k := by
  cases k with
  | regular b =>
    cases hbytes
    obtain ⟨hlow, hhigh, hne⟩ := h
    have henter : c ≠ 10 := by
      rintro rfl
      exact absurd hlow (by decide)
    simp [byteKey, hne, henter, hlow, hhigh]
  | enter =>
    cases hbytes
    simp [byteKey, Ne.symm hverase.ne_enter]
  | backspace =>
    cases hbytes
    simp [byteKey, hverase.ascii]
  | escape | upArrow | downArrow =>
    cases hbytes
    exact absurd rfl hc
  | unknown => cases h

/-- A key whose first byte is the ESC character is ESC or an arrow. -/
lemma Keypress.Pressable.of_esc {k : Keypress} (h : k.Pressable verase)
    (hverase : PlainErase verase) {t : ByteString} (hbytes : k.bytes verase = escByte :: t) :
    (k = .escape ∧ t = []) ∨ (t.length = 2 ∧ escapeKey t = k) := by
  cases k with
  | regular b =>
    cases hbytes
    exact absurd h.1 (by decide)
  | enter => cases hbytes
  | backspace =>
    cases hbytes
    exact absurd rfl hverase.ne_esc
  | escape =>
    cases hbytes
    exact .inl ⟨rfl, rfl⟩
  | upArrow | downArrow =>
    cases hbytes
    exact .inr ⟨rfl, rfl⟩
  | unknown => cases h

/-- The keys `pending` have been pressed and not been returned; ESC can only be the last one. -/
structure Keyboard.Holds (verase : UInt8) (pending : List Keypress) (kb : Keyboard) : Prop where
  pressable : ∀ k ∈ pending, k.Pressable verase
  escLast : .escape ∉ pending.dropLast
  bytes : kb.phase.underway ++ kb.queue = bytesOf verase pending
  /-- There is more behind an ESC character when more has been found. -/
  more : kb.phase = .rest → kb.queue ≠ []

/-- While ESC is pending, it is open whether it is a key of its own. -/
lemma Keyboard.Holds.escape_notMem {pending : List Keypress} {kb : Keyboard}
    (h : kb.Holds verase pending) (hopen : ¬ kb.EscOpen) : .escape ∉ pending := by
  intro hmem
  rcases pending.eq_nil_or_concat with rfl | ⟨init, k, rfl⟩
  · cases hmem
  · have hlast := h.escLast
    rw [List.concat_eq_append] at hmem hlast
    rw [List.dropLast_concat] at hlast
    obtain rfl : .escape = k := by simpa [hlast] using hmem
    have hbytes := h.bytes
    rw [List.concat_eq_append, bytesOf_concat] at hbytes
    rcases hqueue : kb.queue with _ | ⟨b, queue⟩
    · cases hphase : kb.phase with
      | first => simp [hphase, hqueue, ReadAt.underway, Keypress.bytes] at hbytes
      | polling => exact hopen (.inl ⟨hphase, hqueue⟩)
      | rest => exact h.more hphase hqueue
    · have hgetLast := congrArg List.getLast? hbytes
      rw [hqueue, List.getLast?_append, List.getLast?_append] at hgetLast
      refine hopen (.inr ?_)
      rw [hqueue]
      simpa [Keypress.bytes, List.getLast?_cons] using hgetLast

/-- The first of the pending keys, when bytes are pending. -/
lemma Keyboard.Holds.exists_first {pending : List Keypress} {kb : Keyboard}
    (h : kb.Holds verase pending) {c : UInt8} {t : ByteString}
    (hbytes : kb.phase.underway ++ kb.queue = c :: t) :
    ∃ k rest u, pending = k :: rest ∧ k.Pressable verase ∧ k.bytes verase = c :: u ∧
      t = u ++ bytesOf verase rest ∧ (k = .escape → rest = []) ∧
      (∀ k' ∈ rest, k'.Pressable verase) ∧ .escape ∉ rest.dropLast := by
  have hpending := h.bytes.symm.trans hbytes
  rcases pending with _ | ⟨k, rest⟩
  · cases hpending
  · have hk := h.pressable k List.mem_cons_self
    rcases hu : k.bytes verase with _ | ⟨c', u⟩
    · exact absurd hu hk.bytes_ne_nil
    · rw [bytesOf, List.flatMap_cons, hu, List.cons_append] at hpending
      obtain ⟨rfl, rfl⟩ := List.cons.inj hpending
      have hlast := h.escLast
      refine ⟨k, rest, u, rfl, hk, hu, rfl, ?_, fun k' hk' =>
        h.pressable k' (List.mem_cons_of_mem k hk'), ?_⟩
      · rintro rfl
        rcases rest with _ | ⟨k', rest⟩
        · rfl
        · simp at hlast
      · rcases rest with _ | ⟨k', rest⟩
        · simp
        · rw [List.dropLast_cons_cons, List.mem_cons, not_or] at hlast
          exact hlast.2

/-- The first of the pending keys is returned. -/
lemma Keyboard.Holds.emit {k : Keypress} {rest : List Keypress} {queue : ByteString}
    {kb : Keyboard} (hrest : ∀ k' ∈ rest, k'.Pressable verase) (hlast : .escape ∉ rest.dropLast)
    (hqueue : queue = bytesOf verase rest) : (kb.emit k queue).Holds verase rest :=
  ⟨hrest, hlast, hqueue, by simp [Keyboard.emit]⟩

/-- Every step of the function leaves what has been pressed in the terminal, or returns the next
key of it. -/
lemma Keyboard.Holds.read {pending : List Keypress} {kb kb' : Keyboard} {r : Unit}
    (h : kb.Holds verase pending) (hverase : PlainErase verase)
    (hstep : keyboardStep verase .read kb = .ok (r, kb')) :
    ∃ pending', kb'.Holds verase pending' ∧ kb'.keys ++ pending' = kb.keys ++ pending := by
  have hemit (k : Keypress) (rest : List Keypress) (queue : ByteString) :
      (kb.emit k queue).keys ++ rest = kb.keys ++ k :: rest := by
    simp [Keyboard.emit]
  cases keyboardStep_effect hstep with
  | @single c queue hphase hqueue hbyte =>
    have hc : c ≠ escByte := fun hesc =>
      hbyte ⟨hesc, fun hsame => hverase.ne_esc (hsame.symm.trans hesc)⟩
    obtain ⟨k, rest, u, rfl, hk, hu, hqueue', -, hrest, hlast⟩ :=
      h.exists_first (c := c) (t := queue) (by rw [hphase, hqueue]; rfl)
    obtain ⟨rfl, hkey⟩ := hk.of_ne_esc hverase hu hc
    rw [hkey]
    exact ⟨rest, .emit hrest hlast (by simpa using hqueue'), hemit k rest queue⟩
  | @escaped queue hphase hqueue hesc =>
    have hbytes := h.bytes
    rw [hphase, hqueue] at hbytes
    exact ⟨pending, ⟨h.pressable, h.escLast, hbytes, by simp⟩, rfl⟩
  | alone hphase hqueue =>
    obtain ⟨k, rest, u, rfl, hk, hu, hqueue', -, hrest, hlast⟩ :=
      h.exists_first (c := escByte) (t := []) (by rw [hphase, hqueue]; rfl)
    obtain ⟨hu', hrest'⟩ := List.append_eq_nil_iff.mp hqueue'.symm
    rcases hk.of_esc hverase hu with ⟨rfl, -⟩ | ⟨hlen, -⟩
    · exact ⟨rest, .emit hrest hlast hrest'.symm, hemit .escape rest []⟩
    · simp [hu'] at hlen
  | followed hphase hqueue =>
    have hbytes := h.bytes
    rw [hphase] at hbytes
    exact ⟨pending, ⟨h.pressable, h.escLast, hbytes, fun _ => hqueue⟩, rfl⟩
  | sequence hphase hqueue =>
    obtain ⟨k, rest, u, rfl, hk, hu, hqueue', hescape, hrest, hlast⟩ :=
      h.exists_first (c := escByte) (t := kb.queue) (by rw [hphase]; rfl)
    rcases hk.of_esc hverase hu with ⟨rfl, rfl⟩ | ⟨hlen, rfl⟩
    · rw [hescape rfl] at hqueue'
      exact absurd hqueue' hqueue
    · have htake : kb.queue.take 2 = u := by rw [hqueue', ← hlen, List.take_left]
      have hdrop : kb.queue.drop 2 = bytesOf verase rest := by rw [hqueue', ← hlen, List.drop_left]
      rw [htake]
      exact ⟨rest, .emit hrest hlast hdrop, hemit _ rest _⟩

/-- A key that is pressed in time is pending behind the others. -/
lemma Keyboard.Holds.press {pending : List Keypress} {k : Keypress} {kb : Keyboard}
    (h : kb.Holds verase pending) (hk : k.Pressable verase) (hopen : ¬ kb.EscOpen) :
    ({ kb with queue := kb.queue ++ k.bytes verase } : Keyboard).Holds verase (pending ++ [k]) := by
  refine ⟨?_, ?_, ?_, fun hrest => by simp [h.more hrest]⟩
  · intro k' hk'
    rcases List.mem_append.mp hk' with hold | hnew
    · exact h.pressable k' hold
    · rwa [List.mem_singleton.mp hnew]
  · rw [List.dropLast_concat]
    exact h.escape_notMem hopen
  · rw [bytesOf_concat, ← h.bytes, List.append_assoc]

end

/-- Every key that is pressed is read as itself.  Whenever the keys are pressed and however many are
pressed between two system calls of `read_keypress`, as long as none is pressed right behind an ESC
that is still to be told from the beginning of a sequence: the keys that are returned are the first
ones of those that have been pressed, and all of them when the function waits. -/
theorem keys_roundTrip {verase : UInt8} (hverase : PlainErase verase) {events : List PressEvent}
    {kb : Keyboard} (hintime : Guarded (pressStep verase) (InTime verase) events .idle)
    (hrun : run (pressStep verase) events .idle = .ok kb) :
    kb.keys <+: pressed events ∧ (readStep verase kb = none → kb.keys = pressed events) := by
  have hholds : ∃ pending, kb.Holds verase pending ∧ kb.keys ++ pending = pressed events := by
    refine run_history
      (P := fun es kb => ∃ pending, kb.Holds verase pending ∧ kb.keys ++ pending = pressed es)
      ⟨[], ⟨by simp, by simp, rfl, by simp [Keyboard.idle]⟩, rfl⟩ ?_ hintime hrun
    rintro es e kb r kb' - ⟨pending, h, hpressed⟩ hG hstep
    cases e with
    | press k =>
      obtain ⟨hk, hopen⟩ := hG
      cases hstep
      refine ⟨pending ++ [k], h.press hk hopen, ?_⟩
      rw [← List.append_assoc, hpressed]
      simp [pressed]
    | read =>
      obtain ⟨pending', h', hkeys⟩ := h.read hverase hstep
      refine ⟨pending', h', ?_⟩
      rw [hkeys, hpressed]
      simp [pressed]
  obtain ⟨pending, h, hpressed⟩ := hholds
  refine ⟨⟨pending, hpressed⟩, fun hwaits => ?_⟩
  have hempty : kb.phase = .first ∧ kb.queue = [] := by
    unfold readStep at hwaits
    split at hwaits
    · rename_i hphase
      split at hwaits
      · rename_i hqueue
        exact ⟨hphase, hqueue⟩
      · split_ifs at hwaits
    · split_ifs at hwaits
    · rename_i hphase
      split_ifs at hwaits with hqueue
      exact absurd hqueue (h.more hphase)
  have hnil : pending = [] := by
    rcases pending with _ | ⟨k, rest⟩
    · rfl
    · have hbytes := h.bytes
      rw [hempty.1, hempty.2, bytesOf, List.flatMap_cons] at hbytes
      exact absurd (List.append_eq_nil_iff.mp hbytes.symm).1
        (h.pressable k List.mem_cons_self).bytes_ne_nil
  rwa [hnil, List.append_nil] at hpressed

/-- An arrow, a character and ENTER are pressed at once, and then ESC. -/
theorem keys_roundTrip_pressed :
    ∃ kb, run (pressStep 127) [.press .upArrow, .press (.regular 120), .press .enter, .read, .read,
        .read, .read, .read, .press .escape, .read, .read] .idle = .ok kb ∧
      kb.keys = [.upArrow, .regular 120, .enter, .escape] := by
  have hverase : PlainErase 127 := ⟨by decide, by decide, by decide⟩
  have hrun : run (pressStep 127) [.press .upArrow, .press (.regular 120), .press .enter, .read,
      .read, .read, .read, .read, .press .escape, .read, .read] .idle = .ok _ := rfl
  have hintime : Guarded (pressStep 127) (InTime 127) [.press .upArrow, .press (.regular 120),
      .press .enter, .read, .read, .read, .read, .read, .press .escape, .read, .read] .idle := by
    decide
  exact ⟨_, hrun, (keys_roundTrip hverase hintime hrun).2 rfl⟩

end Chat262
