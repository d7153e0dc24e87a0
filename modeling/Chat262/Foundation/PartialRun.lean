import Mathlib

/-!
# Runs of a partial step function

A step function `step : ε → σ → Except α (ρ × σ)` answers an event in a state with a reply and a
next state, or refuses it with an `α` (an exception, a crash).  `run` folds it along a list of
events and stops at the first refusal; `collect` gathers what an observer sees of each step on the
way, in order.

A condition `G : ε → σ → Prop` on the events of a run is `Guarded`: it holds of each event in the
state where the event is answered.  `Throughout P` says that every state of the run satisfies `P`.
`run_history` is the one induction over runs: a property of the events done so far and the state
reached, preserved by every guarded step, holds at the end of every guarded run.  `run_invariant`
is the case of a property of the state alone, and `throughout_iff_guarded` the case of a step that
preserves the property exactly when it meets the condition.  `run_simulation` and
`run_collect_simulation` are the inductions over two systems that go along with each other.  A run
of which an observer sees nothing is `Unnoticed`.
-/

namespace Foundation

/-! ## Results of partial computations -/

/-- A sequence of two computations returns when the first returns and then the second does. -/
lemma bind_eq_ok {α β γ : Type*} {x : Except α β} {f : β → Except α γ} {c : γ} :
    x.bind f = .ok c ↔ ∃ b, x = .ok b ∧ f b = .ok c := by
  cases x with
  | error a => simp [Except.bind]
  | ok b => simp [Except.bind]

/-- A mapped computation returns the image of what the computation returns. -/
lemma map_eq_ok {α β γ : Type*} {x : Except α β} {f : β → γ} {c : γ} :
    x.map f = .ok c ↔ ∃ b, x = .ok b ∧ f b = c := by
  cases x with
  | error a => simp [Except.map]
  | ok b => simp [Except.map]

/-- A sequence of two computations is refused by the first, or by the second after the first
returns. -/
lemma bind_eq_error {α β γ : Type*} {x : Except α β} {f : β → Except α γ} {a : α} :
    x.bind f = .error a ↔ x = .error a ∨ ∃ b, x = .ok b ∧ f b = .error a := by
  cases x with
  | error a => simp [Except.bind]
  | ok b => simp [Except.bind]

/-- A mapped computation is refused exactly when the computation is. -/
lemma map_eq_error {α β γ : Type*} {x : Except α β} {f : β → γ} {a : α} :
    x.map f = .error a ↔ x = .error a := by
  cases x with
  | error a => simp [Except.map]
  | ok b => simp [Except.map]

variable {ε σ α ρ β : Type*} (step : ε → σ → Except α (ρ × σ))

/-! ## Running a list of events -/

/-- The state after the events `es` from `s`, or the refusal the run stopped at. -/
def run : List ε → σ → Except α σ
  | [], s => .ok s
  | e :: es, s =>
    match step e s with
    | .ok (_, s') => run es s'
    | .error a => .error a

/-- What the observer `obs` collects along a run: its view of every step that is taken, up to the
first refusal. -/
def collect (obs : ε → σ → List β) : List ε → σ → List β
  | [], _ => []
  | e :: es, s =>
    match step e s with
    | .ok (_, s') => obs e s ++ collect obs es s'
    | .error _ => []

/-- Every event of the run that is answered satisfies `G` in the state where it is taken. -/
def Guarded (G : ε → σ → Prop) : List ε → σ → Prop
  | [], _ => True
  | e :: es, s =>
    match step e s with
    | .ok (_, s') => G e s ∧ Guarded G es s'
    | .error _ => True

/-- Every state of the run satisfies `P`, the first and the last included. -/
def Throughout (P : σ → Prop) : List ε → σ → Prop
  | [], s => P s
  | e :: es, s =>
    P s ∧ match step e s with
      | .ok (_, s') => Throughout P es s'
      | .error _ => True

variable {step}

/-- The empty run ends where it starts. -/
@[simp] lemma run_nil (s : σ) : run step [] s = .ok s := rfl

/-- Nothing is collected along the empty run. -/
@[simp] lemma collect_nil (obs : ε → σ → List β) (s : σ) : collect step obs [] s = [] := rfl

/-- The empty run meets every condition. -/
@[simp] lemma guarded_nil (G : ε → σ → Prop) (s : σ) : Guarded step G [] s := trivial

/-- A run whose first event is answered goes on from the answer's state. -/
lemma run_cons {e : ε} {es : List ε} {s s' : σ} {r : ρ} (h : step e s = .ok (r, s')) :
    run step (e :: es) s = run step es s' := by
  simp [run, h]

/-- The observer sees the first step and then the rest of the run. -/
lemma collect_cons {obs : ε → σ → List β} {e : ε} {es : List ε} {s s' : σ} {r : ρ}
    (h : step e s = .ok (r, s')) :
    collect step obs (e :: es) s = obs e s ++ collect step obs es s' := by
  simp [collect, h]

/-- A guarded run is a guarded first step followed by a guarded run. -/
lemma guarded_cons {G : ε → σ → Prop} {e : ε} {es : List ε} {s s' : σ} {r : ρ}
    (h : step e s = .ok (r, s')) :
    Guarded step G (e :: es) s ↔ G e s ∧ Guarded step G es s' := by
  simp [Guarded, h]

/-- A condition that can be decided of each event can be decided of a run. -/
instance decidableGuarded (G : ε → σ → Prop) [∀ e s, Decidable (G e s)] :
    ∀ es s, Decidable (Guarded step G es s)
  | [], _ => .isTrue trivial
  | e :: es, s =>
    match h : step e s with
    | .ok (_, s') =>
      have := decidableGuarded G es s'
      decidable_of_iff (G e s ∧ Guarded step G es s') (guarded_cons h).symm
    | .error _ => .isTrue (by simp [Guarded, h])

/-- A run that ends splits into an answered first step and a run that ends. -/
lemma run_cons_eq_ok {e : ε} {es : List ε} {s t : σ} :
    run step (e :: es) s = .ok t ↔ ∃ r s', step e s = .ok (r, s') ∧ run step es s' = .ok t := by
  cases h : step e s with
  | error a => simp [run, h]
  | ok p => obtain ⟨r, s'⟩ := p; simp [run, h]

-- What is left of a number from which others are taken away.
example : run (fun e s : ℕ => if e ≤ s then .ok ((), s - e) else .error e) [1, 2] 5 = .ok 2 := by
  decide +kernel

/-- A run of `es ++ [e]` that ends is a run of `es` that ends, followed by one answered step. -/
lemma run_concat_eq_ok {e : ε} {es : List ε} {s t : σ} :
    run step (es ++ [e]) s = .ok t ↔ ∃ s' r, run step es s = .ok s' ∧ step e s' = .ok (r, t) := by
  induction es generalizing s with
  | nil => simp [run_cons_eq_ok]
  | cons d es ih =>
    rw [List.cons_append, run_cons_eq_ok]
    constructor
    · rintro ⟨r, s', hd, hrun⟩
      obtain ⟨s'', r', hes, he⟩ := ih.mp hrun
      exact ⟨s'', r', by rw [run_cons hd, hes], he⟩
    · rintro ⟨s'', r', hes, he⟩
      obtain ⟨r, s', hd, hrun⟩ := run_cons_eq_ok.mp hes
      exact ⟨r, s', hd, ih.mpr ⟨s'', r', hrun, he⟩⟩

/-- Running `es ++ fs` is running `es` and then, from where it ends, `fs`. -/
lemma run_append {es fs : List ε} {s t : σ} (h : run step es s = .ok t) :
    run step (es ++ fs) s = run step fs t := by
  induction es generalizing s with
  | nil => cases h; rfl
  | cons d es ih =>
    obtain ⟨r, s', hd, hrun⟩ := run_cons_eq_ok.mp h
    rw [List.cons_append, run_cons hd, ih hrun]

/-- The last step of a run adds what the observer sees of it. -/
lemma collect_concat {obs : ε → σ → List β} {e : ε} {es : List ε} {s s' t : σ} {r : ρ}
    (hrun : run step es s = .ok s') (he : step e s' = .ok (r, t)) :
    collect step obs (es ++ [e]) s = collect step obs es s ++ obs e s' := by
  induction es generalizing s with
  | nil =>
    cases hrun
    simp [collect, he]
  | cons d es ih =>
    obtain ⟨r', s'', hd, hrun'⟩ := run_cons_eq_ok.mp hrun
    rw [List.cons_append, collect_cons hd, collect_cons hd, ih hrun', List.append_assoc]

/-- A guarded run of `es ++ fs` is a guarded run of `es` and then, from where it ends, of `fs`. -/
lemma guarded_append {G : ε → σ → Prop} {es fs : List ε} {s t : σ} (h : run step es s = .ok t) :
    Guarded step G (es ++ fs) s ↔ Guarded step G es s ∧ Guarded step G fs t := by
  induction es generalizing s with
  | nil =>
    cases h
    simp
  | cons d es ih =>
    obtain ⟨r, s', hd, hrun⟩ := run_cons_eq_ok.mp h
    rw [List.cons_append, guarded_cons hd, guarded_cons hd, ih hrun, and_assoc]

/-- The condition of a guarded run holds of its last step and of the run before it. -/
lemma guarded_concat {G : ε → σ → Prop} {e : ε} {es : List ε} {s s' t : σ} {r : ρ}
    (hrun : run step es s = .ok s') (he : step e s' = .ok (r, t))
    (h : Guarded step G (es ++ [e]) s) : Guarded step G es s ∧ G e s' := by
  obtain ⟨hes, hlast⟩ := (guarded_append hrun).mp h
  exact ⟨hes, ((guarded_cons he).mp hlast).1⟩

/-- Every run meets the condition that asks for nothing. -/
lemma guarded_true (es : List ε) (s : σ) : Guarded step (fun _ _ => True) es s := by
  induction es generalizing s with
  | nil => trivial
  | cons e es ih =>
    cases h : step e s with
    | error a => simp [Guarded, h]
    | ok p => exact (guarded_cons h).mpr ⟨trivial, ih p.2⟩

/-- A run that meets a condition meets every weaker one. -/
lemma Guarded.mono {G H : ε → σ → Prop} {es : List ε} {s : σ} (h : Guarded step G es s)
    (hGH : ∀ e s, G e s → H e s) : Guarded step H es s := by
  induction es generalizing s with
  | nil => trivial
  | cons e es ih =>
    cases hstep : step e s with
    | error a => simp [Guarded, hstep]
    | ok p =>
      obtain ⟨hfirst, hrest⟩ := (guarded_cons hstep).mp h
      exact (guarded_cons hstep).mpr ⟨hGH e s hfirst, ih hrest⟩

/-- A run that meets two conditions meets both of them in every step. -/
lemma Guarded.and {G H : ε → σ → Prop} {es : List ε} {s : σ} (hG : Guarded step G es s)
    (hH : Guarded step H es s) : Guarded step (fun e s => G e s ∧ H e s) es s := by
  induction es generalizing s with
  | nil => trivial
  | cons e es ih =>
    cases h : step e s with
    | error a => simp [Guarded, h]
    | ok p =>
      obtain ⟨hfirst, hrest⟩ := (guarded_cons h).mp hG
      obtain ⟨hfirst', hrest'⟩ := (guarded_cons h).mp hH
      exact (guarded_cons h).mpr ⟨⟨hfirst, hfirst'⟩, ih hrest hrest'⟩

/-- A run that is refused is a run that ends, followed by a refused step. -/
lemma run_eq_error {es : List ε} {s : σ} {a : α} :
    run step es s = .error a ↔ ∃ pre e post s', es = pre ++ e :: post ∧
      run step pre s = .ok s' ∧ step e s' = .error a := by
  induction es generalizing s with
  | nil => simp
  | cons d es ih =>
    cases hd : step d s with
    | error b =>
      constructor
      · intro h
        simp only [run, hd, Except.error.injEq] at h
        exact ⟨[], d, es, s, rfl, rfl, h ▸ hd⟩
      · rintro ⟨pre, e, post, s', hsplit, hpre, he⟩
        cases pre with
        | nil =>
          obtain ⟨rfl, -⟩ := List.cons.inj hsplit
          cases hpre
          rw [hd] at he
          simpa [run, hd] using he
        | cons d' pre =>
          obtain ⟨rfl, -⟩ := List.cons.inj hsplit
          obtain ⟨r, s'', hd', -⟩ := run_cons_eq_ok.mp hpre
          rw [hd] at hd'
          cases hd'
    | ok p =>
      obtain ⟨r, s₁⟩ := p
      rw [run_cons hd, ih]
      constructor
      · rintro ⟨pre, e, post, s', rfl, hpre, he⟩
        exact ⟨d :: pre, e, post, s', rfl, by rw [run_cons hd, hpre], he⟩
      · rintro ⟨pre, e, post, s', hsplit, hpre, he⟩
        cases pre with
        | nil =>
          obtain ⟨rfl, -⟩ := List.cons.inj hsplit
          cases hpre
          rw [hd] at he
          cases he
        | cons d' pre =>
          obtain ⟨rfl, rfl⟩ := List.cons.inj hsplit
          rw [run_cons hd] at hpre
          exact ⟨pre, e, post, s', rfl, hpre, he⟩

-- A number that is too great to be taken away is refused.
example : run (fun e s : ℕ => if e ≤ s then .ok ((), s - e) else .error e) [1, 6, 2] 5 =
    .error 6 := by
  decide +kernel

/-- Nothing is collected from a refused step on. -/
lemma collect_append_of_error {obs : ε → σ → List β} {pre : List ε} {e : ε} {s s' : σ} {a : α}
    (hpre : run step pre s = .ok s') (he : step e s' = .error a) (post : List ε) :
    collect step obs (pre ++ e :: post) s = collect step obs pre s := by
  induction pre generalizing s with
  | nil =>
    cases hpre
    simp [collect, he]
  | cons d pre ih =>
    obtain ⟨r, s₁, hd, hrun⟩ := run_cons_eq_ok.mp hpre
    rw [List.cons_append, collect_cons hd, collect_cons hd, ih hrun]

/-- What is collected along `es ++ fs` is collected along `es` and then, from where it ends, along
`fs`. -/
lemma collect_append {obs : ε → σ → List β} {es fs : List ε} {s t : σ}
    (h : run step es s = .ok t) :
    collect step obs (es ++ fs) s = collect step obs es s ++ collect step obs fs t := by
  induction es generalizing s with
  | nil =>
    cases h
    rfl
  | cons d es ih =>
    obtain ⟨r, s', hd, hrun⟩ := run_cons_eq_ok.mp h
    rw [List.cons_append, collect_cons hd, collect_cons hd, ih hrun, List.append_assoc]

-- An observer sees nothing of the step that is refused.
example : collect (fun e s : ℕ => if e ≤ s then .ok ((), s - e) else .error e) (fun _ s => [s])
    [1, 6, 2] 5 = [5] := by
  decide +kernel

/-! ## Runs that are not noticed -/

variable (step) in
/-- From `s` to `t` there is a run of which the observer sees nothing. -/
def Unnoticed (obs : ε → σ → List β) (s t : σ) : Prop :=
  ∃ es, run step es s = .ok t ∧ collect step obs es s = []

/-- To stay is not noticed. -/
lemma Unnoticed.refl {obs : ε → σ → List β} (s : σ) : Unnoticed step obs s s := ⟨[], rfl, rfl⟩

/-- Nor are two runs that are not. -/
lemma Unnoticed.trans {obs : ε → σ → List β} {s t u : σ} (h : Unnoticed step obs s t)
    (h' : Unnoticed step obs t u) : Unnoticed step obs s u := by
  obtain ⟨es, hrun, hcollect⟩ := h
  obtain ⟨es', hrun', hcollect'⟩ := h'
  refine ⟨es ++ es', ?_, ?_⟩
  · rw [run_append hrun, hrun']
  · rw [collect_append hrun, hcollect, hcollect', List.nil_append]

/-- Nor is a step that is not. -/
lemma Unnoticed.of_step {obs : ε → σ → List β} {e : ε} {r : ρ} {s t : σ}
    (h : step e s = .ok (r, t)) (hobs : obs e s = []) : Unnoticed step obs s t :=
  ⟨[e], run_cons h, by rw [collect_cons h, hobs, collect_nil, List.nil_append]⟩

/-! ## The induction over runs -/

/-- A property of the events done so far and the state reached, which holds of the empty run and
is preserved by every guarded step, holds of every guarded run. -/
theorem run_history {G : ε → σ → Prop} {P : List ε → σ → Prop} {s : σ} (hnil : P [] s)
    (hstep : ∀ es e s' r t, run step es s = .ok s' → P es s' → G e s' →
      step e s' = .ok (r, t) → P (es ++ [e]) t)
    {es : List ε} {t : σ} (hguard : Guarded step G es s) (hrun : run step es s = .ok t) :
    P es t := by
  induction es using List.reverseRecOn generalizing t with
  | nil => cases hrun; exact hnil
  | append_singleton es e ih =>
    obtain ⟨s', r, hes, he⟩ := run_concat_eq_ok.mp hrun
    obtain ⟨hguard', hG⟩ := guarded_concat hes he hguard
    exact hstep es e s' r t hes (ih hguard' hes) hG he

/-- An invariant of the guarded steps holds in every state that a guarded run reaches. -/
theorem run_invariant {G : ε → σ → Prop} {P : σ → Prop}
    (hstep : ∀ e s r t, P s → G e s → step e s = .ok (r, t) → P t) {es : List ε} {s t : σ}
    (hguard : Guarded step G es s) (hrun : run step es s = .ok t) (hs : P s) : P t :=
  run_history (P := fun _ s' => P s') hs
    (fun _ e s' r t _ hP hG he => hstep e s' r t hP hG he) hguard hrun

/-- Along an invariant `I`: when a step from a state that satisfies `P` leads to one that does
exactly if the step meets `G`, all states of a run satisfy `P` exactly if all its steps meet `G`. -/
theorem throughout_iff_guarded_of_invariant {G : ε → σ → Prop} {I P : σ → Prop}
    (hinv : ∀ e s r t, I s → step e s = .ok (r, t) → I t)
    (hstep : ∀ e s r t, I s → P s → step e s = .ok (r, t) → (P t ↔ G e s)) {es : List ε} {s : σ}
    (hI : I s) (hs : P s) : Throughout step P es s ↔ Guarded step G es s := by
  induction es generalizing s with
  | nil => simp [Throughout, Guarded, hs]
  | cons e es ih =>
    cases he : step e s with
    | error a => simp [Throughout, Guarded, he, hs]
    | ok p =>
      obtain ⟨r, t⟩ := p
      have hIt : I t := hinv e s r t hI he
      rw [guarded_cons he, ← hstep e s r t hI hs he]
      have hthrough : Throughout step P (e :: es) s ↔ P s ∧ Throughout step P es t := by
        simp [Throughout, he]
      rw [hthrough]
      constructor
      · rintro ⟨-, h⟩
        have ht : P t := by cases es <;> [exact h; exact h.1]
        exact ⟨ht, (ih hIt ht).mp h⟩
      · rintro ⟨ht, h⟩
        exact ⟨hs, (ih hIt ht).mpr h⟩

/-- When a step from a state that satisfies `P` leads to one that does exactly if the step meets
`G`, all states of a run satisfy `P` exactly if all its steps meet `G`. -/
theorem throughout_iff_guarded {G : ε → σ → Prop} {P : σ → Prop}
    (hstep : ∀ e s r t, P s → step e s = .ok (r, t) → (P t ↔ G e s)) {es : List ε} {s : σ}
    (hs : P s) : Throughout step P es s ↔ Guarded step G es s :=
  throughout_iff_guarded_of_invariant (I := fun _ => True) (fun _ _ _ _ _ _ => trivial)
    (fun e s r t _ => hstep e s r t) trivial hs

/-- Along an invariant `I`: when each step of a kind lowers a potential, and no step raises it, the
potential bounds the number of the steps of that kind. -/
theorem countP_add_le_of_run {I : σ → Prop} {p : ε → Bool} {μ : σ → ℕ}
    (hinv : ∀ e s r t, I s → step e s = .ok (r, t) → I t)
    (hstep : ∀ e s r t, I s → step e s = .ok (r, t) → μ t + (if p e then 1 else 0) ≤ μ s)
    {es : List ε} {s t : σ} (hI : I s) (hrun : run step es s = .ok t) :
    es.countP p + μ t ≤ μ s := by
  induction es generalizing s with
  | nil =>
    cases hrun
    simp
  | cons e es ih =>
    obtain ⟨r, s', he, hrest⟩ := run_cons_eq_ok.mp hrun
    have hfirst := hstep e s r s' hI he
    have hlater := ih (hinv e s r s' hI he) hrest
    rw [List.countP_cons]
    omega

/-! ## Simulation -/

/-- A run of one system is a run of another one, whose events are those that `f` makes of it.  The
relation between the two may look ahead at the events that are still to come. -/
theorem run_simulation {ε' σ' α' ρ' : Type*} {step' : ε' → σ' → Except α' (ρ' × σ')}
    {f : ε → Option ε'} {R : List ε → σ → σ' → Prop}
    (hstep : ∀ e es s r t s', R (e :: es) s s' → step e s = .ok (r, t) →
      (f e = none ∧ R es t s') ∨
        ∃ e' r' t', f e = some e' ∧ step' e' s' = .ok (r', t') ∧ R es t t')
    {es : List ε} {s t : σ} {s' : σ'} (hR : R es s s') (hrun : run step es s = .ok t) :
    ∃ t', run step' (es.filterMap f) s' = .ok t' ∧ R [] t t' := by
  induction es generalizing s s' with
  | nil =>
    cases hrun
    exact ⟨s', rfl, hR⟩
  | cons e es ih =>
    obtain ⟨r, s₁, he, hrest⟩ := run_cons_eq_ok.mp hrun
    rcases hstep e es s r s₁ s' hR he with ⟨hf, hR₁⟩ | ⟨e', r', t₁, hf, he', hR₁⟩
    · rw [List.filterMap_cons_none hf]
      exact ih hR₁ hrest
    · obtain ⟨t', hrun', hR'⟩ := ih hR₁ hrest
      refine ⟨t', ?_, hR'⟩
      rw [List.filterMap_cons_some hf, run_cons he', hrun']

/-- A run of one system is a run of another one, along the events that an observer collects, when
each step of the first is as many steps of the second as the observer sees. -/
theorem run_collect_simulation {ε' σ' α' ρ' : Type*} {step' : ε' → σ' → Except α' (ρ' × σ')}
    {obs : ε → σ → List ε'} {R : σ → σ' → Prop}
    (hstep : ∀ e s r t s', R s s' → step e s = .ok (r, t) →
      ∃ t', run step' (obs e s) s' = .ok t' ∧ R t t')
    {es : List ε} {s t : σ} {s' : σ'} (hR : R s s') (hrun : run step es s = .ok t) :
    ∃ t', run step' (collect step obs es s) s' = .ok t' ∧ R t t' := by
  induction es generalizing s s' with
  | nil =>
    cases hrun
    exact ⟨s', rfl, hR⟩
  | cons e es ih =>
    obtain ⟨r, s₁, he, hrest⟩ := run_cons_eq_ok.mp hrun
    obtain ⟨s₁', hfirst, hR₁⟩ := hstep e s r s₁ s' hR he
    obtain ⟨t', hlater, hR'⟩ := ih hR₁ hrest
    refine ⟨t', ?_, hR'⟩
    rw [collect_cons he, run_append hfirst, hlater]

end Foundation
