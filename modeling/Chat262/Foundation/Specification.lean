import Chat262.Foundation.PartialRun

/-!
# Runs that a specification allows

A specification of a partial step function says which answers an event may be given in a state of
its own, `S : ε → τ → Except α (ρ × τ) → Prop`: a reply with the state after it, or a refusal.
More than one answer may be allowed, and none has to be computed.

A step function refines a specification along a relation of their states when each of its answers
is allowed and leads to related states again (`Refines`).  `allows_transcript` is the one induction
over runs: what a run of a refinement shows to the outside, its replies and the refusal that it
stops at, is what a run of the specification may show.
-/

namespace Foundation

variable {ε σ τ α ρ : Type*}

/-- What a run shows to the outside. -/
structure Transcript (ρ α : Type*) where
  replies : List ρ
  /-- The refusal that the run stops at, if it does. -/
  refusal : Option α
deriving DecidableEq

/-- The transcript of a run. -/
def transcript (step : ε → σ → Except α (ρ × σ)) : List ε → σ → Transcript ρ α
  | [], _ => ⟨[], none⟩
  | e :: es, s =>
    match step e s with
    | .ok (r, s') => ⟨r :: (transcript step es s').replies, (transcript step es s').refusal⟩
    | .error a => ⟨[], some a⟩

/-- The transcripts that a specification allows for a list of events. -/
inductive Allows (S : ε → τ → Except α (ρ × τ) → Prop) : List ε → τ → Transcript ρ α → Prop
  | done (t : τ) : Allows S [] t ⟨[], none⟩
  /-- An event is answered, and the run goes on. -/
  | answered {e : ε} {es : List ε} {t t' : τ} {r : ρ} {shown : Transcript ρ α}
      (hanswer : S e t (.ok (r, t'))) (hrest : Allows S es t' shown) :
      Allows S (e :: es) t ⟨r :: shown.replies, shown.refusal⟩
  /-- An event is refused, and the run stops. -/
  | refused {e : ε} {es : List ε} {t : τ} {a : α} (hrefusal : S e t (.error a)) :
      Allows S (e :: es) t ⟨[], some a⟩

/-- The same reply with related states, or the same refusal. -/
inductive SameAnswer (R : σ → τ → Prop) : Except α (ρ × σ) → Except α (ρ × τ) → Prop
  | ok (r : ρ) {s : σ} {t : τ} (h : R s t) : SameAnswer R (.ok (r, s)) (.ok (r, t))
  | error (a : α) : SameAnswer R (.error a) (.error a)

/-- In related states, the step function answers every event as the specification allows. -/
def Refines (step : ε → σ → Except α (ρ × σ)) (S : ε → τ → Except α (ρ × τ) → Prop)
    (R : σ → τ → Prop) : Prop :=
  ∀ e s t, R s t → ∃ out, S e t out ∧ SameAnswer R (step e s) out

/-- A step of a refinement is a step that the specification allows. -/
lemma Refines.exists_of_eq_ok {step : ε → σ → Except α (ρ × σ)}
    {S : ε → τ → Except α (ρ × τ) → Prop} {R : σ → τ → Prop} (h : Refines step S R) {e : ε}
    {s s' : σ} {t : τ} {r : ρ} (hR : R s t) (hstep : step e s = .ok (r, s')) :
    ∃ t', S e t (.ok (r, t')) ∧ R s' t' := by
  obtain ⟨out, hout, hsame⟩ := h e s t hR
  rw [hstep] at hsame
  cases hsame with
  | ok _ hR' => exact ⟨_, hout, hR'⟩

/-- The runs of a refinement show what the specification allows. -/
theorem Refines.allows_transcript {step : ε → σ → Except α (ρ × σ)}
    {S : ε → τ → Except α (ρ × τ) → Prop} {R : σ → τ → Prop} (h : Refines step S R) (es : List ε)
    {s : σ} {t : τ} (hR : R s t) : Allows S es t (transcript step es s) := by
  induction es generalizing s t with
  | nil => exact .done t
  | cons e es ih =>
    obtain ⟨out, hout, hsame⟩ := h e s t hR
    generalize hstep : step e s = answer at hsame
    rcases hsame with ⟨r, hR'⟩ | ⟨a⟩
    · have hshown := Allows.answered hout (ih hR')
      simpa only [transcript, hstep] using hshown
    · have hshown : Allows S (e :: es) t ⟨[], some a⟩ := .refused hout
      simpa only [transcript, hstep] using hshown

/-- The transcript of a run that goes on behind one that ends. -/
lemma transcript_append {step : ε → σ → Except α (ρ × σ)} {es fs : List ε} {s t : σ}
    (h : run step es s = .ok t) :
    transcript step (es ++ fs) s =
      ⟨(transcript step es s).replies ++ (transcript step fs t).replies,
        (transcript step fs t).refusal⟩ := by
  induction es generalizing s with
  | nil =>
    cases h
    rfl
  | cons e es ih =>
    obtain ⟨r, s', he, hrest⟩ := run_cons_eq_ok.mp h
    simp only [List.cons_append, transcript, he, ih hrest]

end Foundation
