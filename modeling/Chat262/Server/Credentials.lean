import Chat262.Server.Search

/-!
# Names and passwords of registered users

`handleRegistration` is the only way into the database, and it looks at the username before it
calls `registration`.  It looks for a space and for no other whitespace, though, so a client that
does not come through the terminal can register a name with a tab or a newline in it.
`validAccounts_throughout_iff` says that this is all that goes wrong: a run of the server has valid
accounts in all its states if and only if no new name with such a byte is registered in it.
-/

namespace Chat262

open Foundation
open Std (ExtTreeMap)

/-- The whitespace characters apart from the space: tab, newline, vertical tab, form feed and
carriage return. -/
def otherWhitespace : List UInt8 := [9, 10, 11, 12, 13]

/-- A username as the specification asks for it. -/
def ValidUsername (u : ByteString) : Prop :=
  (4 ≤ u.length ∧ u.length ≤ 40) ∧ star ∉ u ∧ ∀ b ∈ space :: otherWhitespace, b ∉ u

/-- A password as the specification asks for it. -/
def ValidPassword (p : ByteString) : Prop := 4 ≤ p.length ∧ p.length ≤ 60

/-- Every key of `users_` is a valid username, and every stored password is a valid one. -/
def ValidAccounts (db : Database) : Prop :=
  ∀ (u : ByteString) (user : User), db.users[u]? = some user →
    ValidUsername u ∧ ValidPassword user.password

/-- An action does not register a new name that holds whitespace other than a space. -/
def RegistersNoBlank (action : Action) (w : ServerState) : Prop :=
  ∀ tid u p next, action = .call tid → w.phase tid = .handling (.call (.registration u p) next) →
    u ∉ w.db.users → u ∉ w.db.historicalUsers → ∀ b ∈ otherWhitespace, b ∉ u

/-- What the handler checks and what it does not check make a valid account. -/
lemma PassesChecks.valid_iff {u p : ByteString} (h : PassesChecks u p) :
    ValidUsername u ∧ ValidPassword p ↔ ∀ b ∈ otherWhitespace, b ∉ u := by
  obtain ⟨⟨hmin, hmax, hstar, hspace⟩, hpassword⟩ := h
  unfold ValidUsername ValidPassword
  rw [List.forall_mem_cons]
  constructor
  · rintro ⟨⟨-, -, -, hother⟩, -⟩
    exact hother
  · intro hother
    exact ⟨⟨⟨hmin, hmax⟩, hstar, hspace, hother⟩, hpassword⟩

/-! ## One step -/

/-- Only a registration that takes effect can make an account invalid. -/
lemma ValidAccounts.exec {db db' : Database} (h : ValidAccounts db) {e : Event} {reply : Reply}
    (hexec : exec e db = .ok (reply, db')) (hop : ∀ u p, e.op ≠ .registration u p) :
    ValidAccounts db' := by
  intro u user huser
  rcases registered_of_exec hexec huser with ⟨user', huser', hpassword⟩ | hregistration
  · rw [← hpassword]
    exact h u user' huser'
  · exact absurd hregistration (hop u user.password)

/-- A new account keeps all accounts valid exactly when it is valid itself. -/
lemma ValidAccounts.registered_iff {db : Database} (h : ValidAccounts db) {u p : ByteString}
    (hnew : u ∉ db.users) :
    ValidAccounts { db with
      users := db.users.insertIfNew u ⟨u, p, ∅⟩
      historicalUsers := db.historicalUsers.insert u } ↔ ValidUsername u ∧ ValidPassword p := by
  constructor
  · intro hafter
    refine hafter u ⟨u, p, ∅⟩ ?_
    rw [ExtTreeMap.getElem?_insertIfNew, if_pos ⟨Std.LawfulEqCmp.compare_eq_iff_eq.mpr rfl, hnew⟩]
  · intro hvalid k user hk
    simp only [ExtTreeMap.getElem?_insertIfNew] at hk
    split_ifs at hk with hcmp
    · rw [Std.LawfulEqCmp.compare_eq_iff_eq] at hcmp
      obtain ⟨rfl, -⟩ := hcmp
      cases hk
      exact hvalid
    · exact h k user hk

/-- A step of the server keeps the accounts valid exactly when it does not register a new name that
holds whitespace other than a space. -/
lemma validAccounts_step {action : Action} {w w' : ServerState} {r : Option Response}
    (hpending : ∀ tid script, w.phase tid = .handling script → script.Pending)
    (h : ValidAccounts w.db) (hstep : serverStep action w = .ok (r, w')) :
    ValidAccounts w'.db ↔ RegistersNoBlank action w := by
  cases serverStep_effect hstep with
  | called tid op next reply db ha hphase hexec =>
    subst ha
    by_cases hop : ∃ u p, op = .registration u p
    · obtain ⟨u, p, rfl⟩ := hop
      have hchecks : PassesChecks u p := by
        cases hpending tid _ hphase with
        | last hanswer =>
          cases hanswer with
          | registration _ _ hchecks => exact hchecks
      have hblank : RegistersNoBlank (.call tid) w ↔
          (u ∉ w.db.users → u ∉ w.db.historicalUsers → ∀ b ∈ otherWhitespace, b ∉ u) := by
        constructor
        · intro hguard
          exact hguard tid u p next rfl hphase
        · intro hguard tid' u' p' next' htid hphase'
          cases htid
          rw [hphase] at hphase'
          cases hphase'
          exact hguard
      rw [hblank]
      cases exec_effect hexec with
      | rejected hwhy =>
        refine iff_of_true h fun hnew hpast => ?_
        exact absurd hwhy (not_or.mpr ⟨hnew, hpast⟩)
      | registered u' p' hop hnew hpast =>
        cases hop
        rw [ServerState.db_withPhase, h.registered_iff hnew, hchecks.valid_iff]
        simp only [hnew, hpast, not_false_eq_true, forall_const]
      | read reply hread => cases hread
      | loggedIn _ _ _ hop | loggedOut hop | sent _ _ _ _ hop | deleted _ _ _ hop => cases hop
    · have hother : ∀ u p, op ≠ .registration u p := fun u p heq => hop ⟨u, p, heq⟩
      refine iff_of_true (h.exec hexec hother) ?_
      intro tid' u p next' htid hphase'
      cases htid
      rw [hphase] at hphase'
      cases hphase'
      exact absurd rfl (hother u p)
  | finished tid ha hphase =>
    subst ha
    have hlogout : exec ⟨tid, .logout⟩ w.db =
        .ok (.status (w.db.logout tid).1, (w.db.logout tid).2) := rfl
    refine iff_of_true (h.exec hlogout fun _ _ heq => ?_) fun _ _ _ _ heq => ?_
    · cases heq
    · cases heq
  | _ =>
    subst_vars
    refine iff_of_true h fun _ _ _ _ heq => ?_
    cases heq

/-! ## Whole runs -/

/-- In a run of the server, all states have valid accounts if and only if no new name that holds
whitespace other than a space is registered. -/
theorem validAccounts_throughout_iff (actions : List Action) :
    Throughout serverStep (fun w => ValidAccounts w.db) actions .initial ↔
      Guarded serverStep RegistersNoBlank actions .initial := by
  refine throughout_iff_guarded_of_invariant
    (I := fun w => ∀ tid script, w.phase tid = .handling script → script.Pending)
    (fun _ _ _ _ hw hstep => pending_of_step hw hstep)
    (fun _ _ _ _ hpending hvalid hstep => validAccounts_step hpending hvalid hstep) ?_ ?_
  · simp [ServerState.initial]
  · simp [ValidAccounts, ServerState.initial, Database.empty]

/-- A client registers the name `ab\tc`. -/
def tabSignUp : List Action :=
  [.accept 0, .receive 0 1 101 (pairBody [97, 98, 9, 99] writer), .call 0, .respond 0 true]

/-- The server answers that all is well, and the tab is in `users_`. -/
theorem tabSignUp_invalid :
    ∃ w, run serverStep tabSignUp .initial = .ok w ∧ ¬ ValidAccounts w.db ∧
      ([97, 98, 9, 99] : ByteString) ∈ w.db.users := by
  obtain ⟨w, hrun, hmem⟩ : ∃ w, run serverStep tabSignUp .initial = .ok w ∧
      ([97, 98, 9, 99] : ByteString) ∈ w.db.users := ⟨_, rfl, by decide⟩
  refine ⟨w, hrun, ?_, hmem⟩
  intro hvalid
  obtain ⟨user, huser⟩ := Option.isSome_iff_exists.mp (ExtTreeMap.mem_iff_isSome_getElem?.mp hmem)
  obtain ⟨⟨-, -, hblank⟩, -⟩ := hvalid _ user huser
  exact absurd (hblank 9 (by decide)) (by decide)

end Chat262
