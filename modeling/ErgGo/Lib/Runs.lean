import Mathlib.Data.List.Basic

/-!
# Runs of a state machine

Calls are made one after another, each on the state the previous one left. What is asked of
every call of a run is carried from call to call by an invariant.
-/

namespace Runs

variable {σ ι : Type} (step : σ → ι → σ)

/-- Every call of the run from `s` satisfies `P` in the state it meets. -/
def Throughout (P : σ → ι → Prop) : σ → List ι → Prop
  | _, [] => True
  | s, call :: calls => P s call ∧ Throughout P (step s call) calls

variable {step}

instance Throughout.decidable {P : σ → ι → Prop} [∀ s call, Decidable (P s call)] :
    ∀ s calls, Decidable (Throughout step P s calls)
  | _, [] => .isTrue trivial
  | s, call :: calls =>
    have := Throughout.decidable (P := P) (step s call) calls
    inferInstanceAs (Decidable (P s call ∧ Throughout step P (step s call) calls))

/-- The rest of a run. -/
lemma Throughout.of_append {P : σ → ι → Prop} {s : σ} {calls₁ calls₂ : List ι}
    (h : Throughout step P s (calls₁ ++ calls₂)) : Throughout step P (calls₁.foldl step s) calls₂ := by
  induction calls₁ generalizing s with
  | nil => exact h
  | cons call calls ih => exact ih h.2

/-- The beginning of a run. -/
lemma Throughout.initial {P : σ → ι → Prop} {s : σ} {calls₁ calls : List ι} (hinitial : calls₁ <+: calls)
    (h : Throughout step P s calls) : Throughout step P s calls₁ := by
  obtain ⟨calls₂, rfl⟩ := hinitial
  induction calls₁ generalizing s with
  | nil => trivial
  | cons call calls ih => exact ⟨h.1, ih h.2⟩

/-- The rule of runs: calls that meet `P` keep the invariant, and under it satisfy `Q`. -/
lemma Throughout.of_invariant {I : σ → Prop} {P Q : σ → ι → Prop} (hstep : ∀ s call, I s → P s call → I (step s call))
    (hcall : ∀ s call, I s → P s call → Q s call) {s : σ} (hs : I s) {calls : List ι} (h : Throughout step P s calls) :
    Throughout step Q s calls := by
  induction calls generalizing s with
  | nil => trivial
  | cons call calls ih => exact ⟨hcall s call hs h.1, ih (hstep s call hs h.1) h.2⟩

/-- The same for an equivalence. -/
lemma Throughout.congr {I : σ → Prop} {P Q : σ → ι → Prop} (hstep : ∀ s call, I s → P s call → I (step s call))
    (hcall : ∀ s call, I s → (P s call ↔ Q s call)) {s : σ} (hs : I s) (calls : List ι) :
    Throughout step P s calls ↔ Throughout step Q s calls := by
  induction calls generalizing s with
  | nil => rfl
  | cons call calls ih =>
    unfold Throughout
    rw [← hcall s call hs]
    exact and_congr_right (fun hP => ih (hstep s call hs hP))

/-- Every call of every run from `s` satisfies `P`, where a call can have many outcomes. -/
def Always (outcome P : σ → ι → σ → Prop) : σ → List ι → Prop
  | _, [] => True
  | s, call :: calls => ∀ s', outcome s call s' → P s call s' ∧ Always outcome P s' calls

lemma Always.congr {outcome P Q : σ → ι → σ → Prop}
    (h : ∀ s call, (∀ s', outcome s call s' → P s call s') ↔ ∀ s', outcome s call s' → Q s call s') (s : σ)
    (calls : List ι) : Always outcome P s calls ↔ Always outcome Q s calls := by
  induction calls generalizing s with
  | nil => rfl
  | cons call calls ih =>
    simp only [Always, ih, imp_and, forall_and]
    exact and_congr_left' (h s call)

end Runs
