import Chat262.Server.Database

/-!
# What a database operation does

`exec_effect` is the one inversion lemma of `exec`: an operation that returns has one of the
`Effect`s, each with the guards that it passed, the reply it gives and the database it leaves.
Invariants of the database are proved from it and never unfold an operation.

The chats are read through `chatOf`, one user's copy of the chat with one correspondent;
`chatOf_afterSend` and `getElem?_dropChats` say how the two operations that write chats change it.
-/

namespace Chat262

open Std (ExtTreeMap ExtTreeSet)

/-! ## Chats seen from outside -/

/-- The copy that the user `owner` keeps of the chat with `correspondent`. -/
def chatOf (users : Users) (owner correspondent : ByteString) : Option Chat :=
  users[owner]?.bind fun u => u.chats[correspondent]?

/-- The users after `send_txt` by the user `name`, whose `username_` is `username`. -/
def afterSend (name username recipientUsername txt : ByteString) (users : Users) : Users :=
  users
    |>.modify name (Database.openChat recipientUsername)
    |>.modify recipientUsername (Database.openChat username)
    |>.modify name (Database.pushText recipientUsername ⟨Text.senderYou, txt⟩)
    |>.modify recipientUsername (Database.pushText username ⟨Text.senderOther, txt⟩)

/-- The texts that one `send_txt` from `name` to `recipientUsername` appends to the copy that
`owner` keeps of the chat with `correspondent`. -/
def appended (name recipientUsername txt owner correspondent : ByteString) : List Text :=
  (if owner = name ∧ correspondent = recipientUsername then [⟨Text.senderYou, txt⟩] else []) ++
    if owner = recipientUsername ∧ correspondent = name then [⟨Text.senderOther, txt⟩] else []

/-- Changing one user's record changes that user's copies of chats. -/
lemma chatOf_modify (k owner correspondent : ByteString) (f : User → User) (users : Users) :
    chatOf (users.modify k f) owner correspondent =
      if owner = k then users[k]?.bind fun u => (f u).chats[correspondent]?
      else chatOf users owner correspondent := by
  unfold chatOf
  by_cases h : owner = k
  · subst h
    simp [Option.bind_map]
  · simp [ExtTreeMap.getElem?_modify, h, Ne.symm h]

/-- Opening a chat makes sure that it is there and leaves the other chats as they are. -/
lemma chatOf_openChat {k : ByteString} {users : Users} (hk : k ∈ users)
    (name owner correspondent : ByteString) :
    chatOf (users.modify k (Database.openChat name)) owner correspondent =
      if owner = k ∧ correspondent = name then
        some ((chatOf users owner correspondent).getD ⟨[]⟩)
      else chatOf users owner correspondent := by
  obtain ⟨u, hu⟩ := Option.isSome_iff_exists.mp (ExtTreeMap.mem_iff_isSome_getElem?.mp hk)
  rw [chatOf_modify]
  unfold Database.openChat chatOf
  grind

/-- Pushing a text changes the chat it is pushed to and no other. -/
lemma chatOf_pushText (k name owner correspondent : ByteString) (txt : Text) (users : Users) :
    chatOf (users.modify k (Database.pushText name txt)) owner correspondent =
      if owner = k ∧ correspondent = name then
        (chatOf users owner correspondent).map fun c => ⟨c.texts ++ [txt]⟩
      else chatOf users owner correspondent := by
  rw [chatOf_modify]
  unfold Database.pushText chatOf
  grind

/-- After a `send_txt` between registered users, the copies of their chat have the sent text at the
end and every other copy is what it was. -/
lemma chatOf_afterSend {name r : ByteString} {users : Users} (hname : name ∈ users)
    (hr : r ∈ users) (txt owner correspondent : ByteString) :
    chatOf (afterSend name name r txt users) owner correspondent =
      if owner = name ∧ correspondent = r ∨ owner = r ∧ correspondent = name then
        some ⟨((chatOf users owner correspondent).getD ⟨[]⟩).texts ++
          appended name r txt owner correspondent⟩
      else chatOf users owner correspondent := by
  have hr' : r ∈ users.modify name (Database.openChat r) := by grind
  unfold afterSend appended
  rw [chatOf_pushText, chatOf_pushText, chatOf_openChat hr', chatOf_openChat hname]
  by_cases h₁ : owner = name ∧ correspondent = r <;>
    by_cases h₂ : owner = r ∧ correspondent = name
  · simp [if_pos h₁, if_pos h₂, if_pos (Or.inl h₁)]
  · simp [if_pos h₁, if_neg h₂, if_pos (Or.inl h₁)]
  · simp [if_neg h₁, if_pos h₂, if_pos (Or.inr h₂)]
  · simp [if_neg h₁, if_neg h₂, if_neg (not_or.mpr ⟨h₁, h₂⟩)]

/-- Sending adds and removes no user. -/
lemma mem_afterSend {name username r txt k : ByteString} {users : Users} :
    k ∈ afterSend name username r txt users ↔ k ∈ users := by
  unfold afterSend
  grind

/-- What every `f u` shares with `u` is not changed by modifying a record with `f`. -/
lemma getElem?_modify_map {β : Type} {f : User → User} {g : User → β} (hf : ∀ u, g (f u) = g u)
    (j k : ByteString) (users : Users) :
    (users.modify j f)[k]?.map g = users[k]?.map g := by
  rw [ExtTreeMap.getElem?_modify]
  by_cases h : j = k
  · subst h
    simp [Option.map_map, Function.comp_def, hf]
  · simp [h]

/-- Sending changes nothing of a record but the chats. -/
lemma getElem?_afterSend_map {β : Type} {g : User → β}
    (hg : ∀ (u : User) (chats : ByteMap Chat), g { u with chats := chats } = g u)
    (name username r txt k : ByteString) (users : Users) :
    (afterSend name username r txt users)[k]?.map g = users[k]?.map g := by
  have hopen (n : ByteString) (u : User) : g (Database.openChat n u) = g u := hg u _
  have hpush (n : ByteString) (t : Text) (u : User) : g (Database.pushText n t u) = g u := hg u _
  unfold afterSend
  rw [getElem?_modify_map (hpush _ _), getElem?_modify_map (hpush _ _),
    getElem?_modify_map (hopen _), getElem?_modify_map (hopen _)]

/-- Sending changes neither a user's name nor a password. -/
lemma credentials_afterSend (name username r txt k : ByteString) (users : Users) :
    (afterSend name username r txt users)[k]?.map (fun u => (u.username, u.password)) =
      users[k]?.map fun u => (u.username, u.password) :=
  getElem?_afterSend_map (fun _ _ => rfl) name username r txt k users

/-! ## The loop of `delete_user` -/

/-- A round ends normally for a registered correspondent other than the deleted user, and then
erases that user's chat from the correspondent's. -/
lemma dropChat_eq_ok {name c : ByteString} {users users' : Users} :
    Database.dropChat name users c = .ok users' ↔
      (c ∈ users ∧ c ≠ name) ∧ users.modify c (Database.eraseChat name) = users' := by
  unfold Database.dropChat
  split_ifs with hc hname <;> simp_all

/-- Erasing a chat twice is erasing it once. -/
lemma eraseChat_eraseChat (name : ByteString) (u : User) :
    Database.eraseChat name (Database.eraseChat name u) = Database.eraseChat name u := by
  unfold Database.eraseChat
  congr 1
  ext1 k
  grind

/-- If the loop ends, every correspondent was registered and none of them was the deleted user, and
exactly the correspondents have lost their chat with that user. -/
lemma of_foldlM_dropChat_eq_ok {name : ByteString} {keys : List ByteString} {users users' : Users}
    (h : keys.foldlM (Database.dropChat name) users = .ok users') :
    (∀ c ∈ keys, c ∈ users ∧ c ≠ name) ∧
      ∀ k, users'[k]? =
        if k ∈ keys then users[k]?.map (Database.eraseChat name) else users[k]? := by
  induction keys generalizing users with
  | nil =>
    cases h
    simp
  | cons c keys ih =>
    rw [List.foldlM_cons] at h
    obtain ⟨users₁, hround, hrest⟩ := Foundation.bind_eq_ok.mp h
    obtain ⟨hc, rfl⟩ := dropChat_eq_ok.mp hround
    obtain ⟨hkeys, hget⟩ := ih hrest
    refine ⟨?_, ?_⟩
    · rintro d (_ | ⟨_, hd⟩)
      · exact hc
      · exact ⟨ExtTreeMap.mem_modify.mp (hkeys d hd).1, (hkeys d hd).2⟩
    · intro k
      rw [hget k, ExtTreeMap.getElem?_modify]
      by_cases hk : c = k
      · subst hk
        by_cases hmem : c ∈ keys <;>
          simp [hmem, Option.map_map, Function.comp_def, eraseChat_eraseChat]
      · simp [hk, Ne.symm hk]

/-- Deleting a user changes nothing of the other records but the chats. -/
lemma getElem?_deleted_map {β : Type} {g : User → β}
    (hg : ∀ (u : User) (chats : ByteMap Chat), g { u with chats := chats } = g u)
    {name : ByteString} {keys : List ByteString} {users users' : Users}
    (hloop : keys.foldlM (Database.dropChat name) users = .ok users') (k : ByteString) :
    (users'.erase name)[k]?.map g = if name = k then none else users[k]?.map g := by
  rw [ExtTreeMap.getElem?_erase, (of_foldlM_dropChat_eq_ok hloop).2 k]
  by_cases hk : name = k
  · simp [hk]
  · simp only [Std.LawfulEqCmp.compare_eq_iff_eq, hk, if_false]
    split_ifs
    · rw [Option.map_map]
      exact congrArg (users[k]?.map ·) (funext fun u => hg u _)
    · rfl

/-- The loop is cut short only by a correspondent who is not registered, or by the deleted user
itself among the correspondents. -/
lemma of_foldlM_dropChat_eq_error {name : ByteString} {keys : List ByteString} {users : Users}
    {a : Abort} (h : keys.foldlM (Database.dropChat name) users = .error a) :
    a = .correspondentOutOfRange ∧ (∃ c ∈ keys, c ∉ users) ∨
      a = .iteratorInvalidated ∧ name ∈ keys := by
  induction keys generalizing users with
  | nil => cases h
  | cons c keys ih =>
    rw [List.foldlM_cons] at h
    cases hround : Database.dropChat name users c with
    | error b =>
      rw [hround] at h
      cases h
      unfold Database.dropChat at hround
      split_ifs at hround with hc hname
      · cases hround; exact .inr ⟨rfl, by simp [hname]⟩
      · cases hround; exact .inl ⟨rfl, c, List.mem_cons_self, hc⟩
    | ok users₁ =>
      rw [hround] at h
      obtain ⟨-, rfl⟩ := dropChat_eq_ok.mp hround
      rcases ih h with ⟨ha, d, hd, hnot⟩ | ⟨ha, hname⟩
      · exact .inl ⟨ha, d, List.mem_cons_of_mem c hd, fun hmem =>
          hnot (ExtTreeMap.mem_modify.mpr hmem)⟩
      · exact .inr ⟨ha, List.mem_cons_of_mem c hname⟩

/-! ## The effects -/

/-- The operations that change nothing. -/
def Operation.IsRead : Operation → Prop
  | .isLoggedIn | .getUsernames _ | .recvTxt _ _ | .getCorrespondents _ => True
  | _ => False

/-- The reasons for which an operation reports an error. -/
def Refused (e : Event) (db : Database) : Prop :=
  match e.op with
  | .registration u _ => u ∈ db.users ∨ u ∈ db.historicalUsers
  | .login u p => e.tid ∈ db.threads ∨ ∀ user, db.users[u]? = some user → p ≠ user.password
  | .logout => e.tid ∉ db.threads
  | .sendTxt r _ => db.threads[e.tid]? = none ∨ r ∉ db.users
  | .deleteUser => db.threads[e.tid]? = none
  | _ => False

/-- What an operation that returns does: `Effect e db reply db'` lists the ways in which the event
`e` can be answered with `reply` in `db` and leave `db'`. -/
inductive Effect (e : Event) (db : Database) : Reply → Database → Prop
  /-- The operation reports an error and changes nothing. -/
  | rejected (hwhy : Refused e db) : Effect e db (.status .error) db
  | registered (u p : ByteString) (hop : e.op = .registration u p) (hnew : u ∉ db.users)
      (hpast : u ∉ db.historicalUsers) :
      Effect e db (.status .ok)
        { db with
          users := db.users.insertIfNew u ⟨u, p, ∅⟩
          historicalUsers := db.historicalUsers.insert u }
  /-- A thread that is not logged in takes charge of a user. -/
  | loggedIn (u p : ByteString) (user : User) (hop : e.op = .login u p)
      (hout : e.tid ∉ db.threads) (huser : db.users[u]? = some user) (hpass : p = user.password) :
      Effect e db (.status .ok) { db with threads := db.threads.insertIfNew e.tid u }
  | loggedOut (hop : e.op = .logout) (hin : e.tid ∈ db.threads) :
      Effect e db (.status .ok) { db with threads := db.threads.erase e.tid }
  /-- A text is stored in both users' copies of the chat. -/
  | sent (r txt name : ByteString) (sender : User) (hop : e.op = .sendTxt r txt)
      (hsession : db.threads[e.tid]? = some name) (hsender : db.users[name]? = some sender)
      (hr : r ∈ db.users) :
      Effect e db (.status .ok) { db with users := afterSend name sender.username r txt db.users }
  | deleted (name : ByteString) (u : User) (users : Users) (hop : e.op = .deleteUser)
      (hsession : db.threads[e.tid]? = some name) (huser : db.users[name]? = some u)
      (hloop : u.chats.keys.foldlM (Database.dropChat name) db.users = .ok users) :
      Effect e db (.status .ok)
        { db with users := users.erase name, threads := db.threads.erase e.tid }
  | read (reply : Reply) (hread : e.op.IsRead) : Effect e db reply db

/-- The session lookup returns the registered user of that name. -/
lemma sessionUser_eq_ok {name : ByteString} {db : Database} {u : User} :
    db.sessionUser name = .ok u ↔ db.users[name]? = some u := by
  unfold Database.sessionUser
  cases db.users[name]? <;> simp

/-- The session lookup throws exactly for a name that is not registered. -/
lemma sessionUser_eq_error {name : ByteString} {db : Database} {a : Abort} :
    db.sessionUser name = .error a ↔ name ∉ db.users ∧ a = .sessionOutOfRange := by
  unfold Database.sessionUser
  rw [ExtTreeMap.mem_iff_isSome_getElem?]
  cases db.users[name]? <;> simp [eq_comm]

/-- A request for the session and its user that returns: nobody is logged in, or what is done with
the user returns. -/
lemma of_session_eq_ok {α : Type} {tid : ThreadId} {db : Database} {default x : α}
    {f : ByteString → User → Except Abort α}
    (h : (match db.threads[tid]? with
      | none => Except.ok default
      | some name => db.sessionUser name >>= f name) = .ok x) :
    (db.threads[tid]? = none ∧ x = default) ∨
      ∃ name u, db.threads[tid]? = some name ∧ db.users[name]? = some u ∧ f name u = .ok x := by
  cases hsession : db.threads[tid]? with
  | none =>
    simp only [hsession] at h
    cases h
    exact .inl ⟨rfl, rfl⟩
  | some name =>
    simp only [hsession] at h
    obtain ⟨u, huser, h⟩ := Foundation.bind_eq_ok.mp h
    exact .inr ⟨name, u, rfl, sessionUser_eq_ok.mp huser, h⟩

/-- A request for the session and its user that throws: the user is not registered, or what is done
with the user throws. -/
lemma of_session_eq_error {α : Type} {tid : ThreadId} {db : Database} {default : α} {a : Abort}
    {f : ByteString → User → Except Abort α}
    (h : (match db.threads[tid]? with
      | none => Except.ok default
      | some name => db.sessionUser name >>= f name) = .error a) :
    ∃ name, db.threads[tid]? = some name ∧ (name ∉ db.users ∧ a = .sessionOutOfRange ∨
      ∃ u, db.users[name]? = some u ∧ f name u = .error a) := by
  cases hsession : db.threads[tid]? with
  | none =>
    simp only [hsession] at h
    cases h
  | some name =>
    simp only [hsession] at h
    rcases Foundation.bind_eq_error.mp h with h | ⟨u, huser, h⟩
    · exact ⟨name, rfl, .inl (sessionUser_eq_error.mp h)⟩
    · exact ⟨name, rfl, .inr ⟨u, sessionUser_eq_ok.mp huser, h⟩⟩

/-- Every operation that returns has one of the effects. -/
theorem exec_effect {e : Event} {db db' : Database} {reply : Reply}
    (h : exec e db = .ok (reply, db')) : Effect e db reply db' := by
  unfold exec at h
  cases hop : e.op with
  | registration u p =>
    simp only [hop, Database.registration] at h
    split_ifs at h with hmem
    · cases h; exact .rejected (by simpa [Refused, hop] using hmem)
    · obtain ⟨hnew, hpast⟩ := not_or.mp hmem
      cases h; exact .registered u p hop hnew hpast
  | login u p =>
    simp only [hop, Database.login] at h
    split_ifs at h with hin
    · cases h; exact .rejected (by simp [Refused, hop, hin])
    · cases huser : db.users[u]? with
      | none =>
        simp only [huser] at h
        cases h; exact .rejected (by simp [Refused, hop, huser])
      | some user =>
        simp only [huser] at h
        split_ifs at h with hpass
        · cases h; exact .rejected (by simp [Refused, hop, huser, hpass])
        · cases h; exact .loggedIn u p user hop hin huser (not_not.mp hpass)
  | logout =>
    simp only [hop, Database.logout] at h
    split_ifs at h with hin
    · cases h; exact .loggedOut hop hin
    · cases h; exact .rejected (by simpa [Refused, hop] using hin)
  | isLoggedIn =>
    simp only [hop] at h
    cases h; exact .read _ (by simp [hop, Operation.IsRead])
  | getUsernames pattern =>
    simp only [hop] at h
    cases h; exact .read _ (by simp [hop, Operation.IsRead])
  | sendTxt r txt =>
    simp only [hop, Database.sendTxt] at h
    obtain ⟨p, hp, hpr⟩ := Foundation.map_eq_ok.mp h
    rcases of_session_eq_ok hp with ⟨hsession, rfl⟩ | ⟨name, sender, hsession, hsender, hp⟩
    · cases hpr; exact .rejected (by simp [Refused, hop, hsession])
    · split_ifs at hp with hr
      · cases hp; cases hpr; exact .sent r txt name sender hop hsession hsender hr
      · cases hp; cases hpr; exact .rejected (by simp [Refused, hop, hr])
  | recvTxt s c =>
    simp only [hop] at h
    obtain ⟨p, -, hpr⟩ := Foundation.map_eq_ok.mp h
    cases hpr; exact .read _ (by simp [hop, Operation.IsRead])
  | getCorrespondents l =>
    simp only [hop] at h
    obtain ⟨p, -, hpr⟩ := Foundation.map_eq_ok.mp h
    cases hpr; exact .read _ (by simp [hop, Operation.IsRead])
  | deleteUser =>
    simp only [hop, Database.deleteUser] at h
    obtain ⟨p, hp, hpr⟩ := Foundation.map_eq_ok.mp h
    rcases of_session_eq_ok hp with ⟨hsession, rfl⟩ | ⟨name, u, hsession, huser, hp⟩
    · cases hpr; exact .rejected (by simp [Refused, hop, hsession])
    · obtain ⟨users, hloop, hp⟩ := Foundation.bind_eq_ok.mp hp
      cases hp; cases hpr
      exact .deleted name u users hop hsession huser hloop

/-- An operation that does not return is one of a logged-in thread: its session lookup throws, or
it deletes its user and the loop over the user's chats is cut short. -/
theorem of_exec_eq_error {e : Event} {db : Database} {a : Abort} (h : exec e db = .error a) :
    ∃ name, db.threads[e.tid]? = some name ∧
      (name ∉ db.users ∧ a = .sessionOutOfRange ∨
        ∃ u, e.op = .deleteUser ∧ db.users[name]? = some u ∧
          u.chats.keys.foldlM (Database.dropChat name) db.users = .error a) := by
  unfold exec at h
  cases hop : e.op with
  | sendTxt r txt =>
    simp only [hop, Database.sendTxt, Foundation.map_eq_error] at h
    obtain ⟨name, hsession, hlookup | ⟨u, -, h⟩⟩ := of_session_eq_error h
    · exact ⟨name, hsession, .inl hlookup⟩
    · split_ifs at h <;> cases h
  | recvTxt s c =>
    simp only [hop, Database.recvTxt, Foundation.map_eq_error] at h
    obtain ⟨name, hsession, hlookup | ⟨u, -, h⟩⟩ := of_session_eq_error h
    · exact ⟨name, hsession, .inl hlookup⟩
    · cases hchat : u.chats[s]? <;> simp only [hchat] at h <;> split_ifs at h <;> cases h
  | getCorrespondents l =>
    simp only [hop, Database.getCorrespondents, Foundation.map_eq_error] at h
    obtain ⟨name, hsession, hlookup | ⟨u, -, h⟩⟩ := of_session_eq_error h
    · exact ⟨name, hsession, .inl hlookup⟩
    · cases h
  | deleteUser =>
    simp only [hop, Database.deleteUser, Foundation.map_eq_error] at h
    obtain ⟨name, hsession, hlookup | ⟨u, huser, h⟩⟩ := of_session_eq_error h
    · exact ⟨name, hsession, .inl hlookup⟩
    · rcases Foundation.bind_eq_error.mp h with h | ⟨users, -, h⟩
      · exact ⟨name, hsession, .inr ⟨u, rfl, huser, h⟩⟩
      · cases h
  | _ => simp [hop] at h

end Chat262
