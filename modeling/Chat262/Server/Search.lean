import Chat262.Server.Histories
import Chat262.Server.Matcher
import Chat262.Server.ResponseSize

/-!
# The account search

`getUsernames` filters the registered names with the wildcard matcher, which is exact for names
without a star (`wildcardMatch_iff_glob`).  A name is only ever registered behind the check of
`handleRegistration`, so no registered name has a star in any state that the server can reach, and
`search_exact` follows: the search answers with the registered names that the pattern stands for.
-/

namespace Chat262

open Foundation
open Std (ExtTreeMap)

/-! ## Where registered users come from -/

/-- A user in the database after an operation was there before it, with the same password, or has
just been registered. -/
lemma registered_of_exec {e : Event} {db db' : Database} {reply : Reply}
    (h : exec e db = .ok (reply, db')) {k : ByteString} {user : User}
    (hk : db'.users[k]? = some user) :
    (∃ user', db.users[k]? = some user' ∧ user'.password = user.password) ∨
      e.op = .registration k user.password := by
  cases exec_effect h with
  | registered u p hop hnew hpast =>
    rw [ExtTreeMap.getElem?_insertIfNew] at hk
    split_ifs at hk with hcmp
    · rw [Std.LawfulEqCmp.compare_eq_iff_eq] at hcmp
      obtain ⟨rfl, -⟩ := hcmp
      cases hk
      exact .inr hop
    · exact .inl ⟨user, hk, rfl⟩
  | sent r txt name sender hop hsession hsender hr =>
    have hcred := credentials_afterSend name sender.username r txt k db.users
    rw [hk] at hcred
    obtain ⟨user', huser', heq⟩ := Option.map_eq_some_iff.mp hcred.symm
    exact .inl ⟨user', huser', congrArg Prod.snd heq⟩
  | deleted name u users hop hsession huser hloop =>
    obtain ⟨-, hget⟩ := of_foldlM_dropChat_eq_ok hloop
    rw [ExtTreeMap.getElem?_erase] at hk
    split_ifs at hk
    rw [hget k] at hk
    split_ifs at hk
    · obtain ⟨user', huser', rfl⟩ := Option.map_eq_some_iff.mp hk
      exact .inl ⟨user', huser', rfl⟩
    · exact .inl ⟨user, hk, rfl⟩
  | _ => exact .inl ⟨user, hk, rfl⟩

/-- Every user in the database has been registered by an operation of the run, with that name and
password. -/
theorem registered_of_run {es : List Event} {db : Database} (hrun : run exec es .empty = .ok db)
    {k : ByteString} {user : User} (hk : db.users[k]? = some user) :
    ∃ e ∈ es, e.op = .registration k user.password := by
  have hhistory : ∀ k user, db.users[k]? = some user →
      ∃ e ∈ es, e.op = .registration k user.password := by
    refine run_history (G := fun _ _ => True)
      (P := fun es db => ∀ (k : ByteString) (user : User), db.users[k]? = some user →
        ∃ e ∈ es, e.op = .registration k user.password)
      (by simp [Database.empty]) ?_ (guarded_true es _) hrun
    intro es e db reply db' hes ih _ he k user hk
    rcases registered_of_exec he hk with ⟨user', huser', hpass⟩ | hop
    · obtain ⟨d, hd, hop⟩ := ih k user' huser'
      exact ⟨d, List.mem_append_left _ hd, hpass ▸ hop⟩
    · exact ⟨e, by simp, hop⟩
  exact hhistory k user hk

/-! ## The search -/

/-- No name that is registered in a running server has a star. -/
lemma star_not_mem_of_run {actions : List Action} {w : ServerState}
    (hrun : run serverStep actions .initial = .ok w) {t : ByteString} (ht : t ∈ w.db.users) :
    star ∉ t := by
  obtain ⟨user, huser⟩ := Option.isSome_iff_exists.mp (ExtTreeMap.mem_iff_isSome_getElem?.mp ht)
  obtain ⟨e, he, hop⟩ := registered_of_run (run_callsOf hrun) huser
  obtain ⟨call, hcall, rfl⟩ := List.mem_map.mp he
  have hchecks := checked_of_run hrun call hcall t user.password hop
  exact hchecks.1.2.2.1

/-- A search lists names in strictly ascending order. -/
lemma getUsernames_ascending (pattern : ByteString) (db : Database) :
    (db.getUsernames pattern).Pairwise fun a b => compare a b = .lt :=
  ExtTreeMap.ordered_keys.filter _

/-- In every state that the server can reach, a search finds exactly the registered names that the
pattern stands for, each once and in ascending order, and a thread whose handler is about to search
is left with the response that carries them. -/
theorem search_exact {actions : List Action} {w : ServerState}
    (hrun : run serverStep actions .initial = .ok w) (pattern : ByteString) :
    (∀ t, t ∈ w.db.getUsernames pattern ↔ t ∈ w.db.users ∧ Glob star pattern t) ∧
      ((w.db.getUsernames pattern).Pairwise fun a b => compare a b = .lt) ∧
      ∀ tid next, w.phase tid = .handling (.call (.getUsernames pattern) next) →
        serverStep (.call tid) w = .ok (none, w.withPhase tid
          (.handling (.respond (.accounts StatusCode.ok (w.db.getUsernames pattern))))) := by
  refine ⟨?_, getUsernames_ascending pattern w.db, ?_⟩
  · intro t
    rw [Database.getUsernames, List.mem_filter, ExtTreeMap.mem_keys]
    refine and_congr_right fun ht => ?_
    exact wildcardMatch_iff_glob (star_not_mem_of_run hrun ht) pattern
  · intro tid next hphase
    cases pending_of_run hrun hphase with
    | last h =>
      cases h with
      | getUsernames => simp only [serverStep, hphase, exec, Reply.usernamesOut]

/-- Two users have registered and one of them is logged in and searches. -/
def searching : List Action :=
  signUp ++ [.receive 0 1 101 (pairBody [97, 98, 99, 97] writer), .call 0, .respond 0 true,
    .receive 0 1 104 (stringBody [42, 98, 42]), .call 0]

/-- The pattern finds one of the two names. -/
theorem search_exact_searching :
    ∃ w, run serverStep searching .initial = .ok w ∧
      w.db.getUsernames [42, 98, 42] = [[97, 98, 99, 97]] ∧
      (([97, 98, 99, 97] : ByteString) ∈ w.db.getUsernames [42, 98, 42] ↔
        ([97, 98, 99, 97] : ByteString) ∈ w.db.users ∧
          Glob star [42, 98, 42] [97, 98, 99, 97]) := by
  obtain ⟨w, hrun, hsearch⟩ : ∃ w, run serverStep searching .initial = .ok w ∧
      w.db.getUsernames [42, 98, 42] = [[97, 98, 99, 97]] := ⟨_, rfl, by decide⟩
  exact ⟨w, hrun, hsearch, (search_exact hrun [42, 98, 42]).1 [97, 98, 99, 97]⟩

end Chat262
