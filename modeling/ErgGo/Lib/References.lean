import Mathlib.Logic.Function.Basic
import Mathlib.Logic.Relation

/-!
# References between documents

A document points to at most one other, which has to be there and to lie in the same scope.
Where documents point to their own kind, no chain of pointers comes back to its start.
-/

namespace References

variable {α β τ : Type}

/-- Every reference is to something of its scope. -/
def Resolves (source : α → Option (τ × β)) (target : β → Option τ) : Prop :=
  ∀ a t b, source a = some (t, b) → target b = some t

section Resolves

variable {source source' : α → Option (τ × β)} {target target' : β → Option τ}

/-- Dropping references is safe, and so is dropping what no reference left needs. -/
lemma Resolves.mono (h : Resolves source target) (hsource : ∀ a t b, source' a = some (t, b) → source a = some (t, b))
    (htarget : ∀ a t b, source' a = some (t, b) → target b = some t → target' b = some t) :
    Resolves source' target' :=
  fun a t b ha => htarget a t b ha (h a t b (hsource a t b ha))

lemma Resolves.update_source [DecidableEq α] (h : Resolves source target) (a : α) {x : Option (τ × β)}
    (hx : ∀ t b, x = some (t, b) → target b = some t) : Resolves (Function.update source a x) target := by
  intro a' t b ha'
  by_cases hsame : a' = a
  · rw [hsame, Function.update_self] at ha'
    exact hx t b ha'
  · rw [Function.update_of_ne hsame] at ha'
    exact h a' t b ha'

variable [DecidableEq β]

/-- Something is added, or stays in its scope. -/
lemma Resolves.update_target (h : Resolves source target) {b : β} {t : τ} (hkept : ∀ t', target b = some t' → t' = t) :
    Resolves source (Function.update target b (some t)) := by
  intro a t' b' ha
  have hb' := h a t' b' ha
  by_cases hsame : b' = b
  · rw [hsame] at hb'
    rw [hsame, Function.update_self, hkept t' hb']
  · rw [Function.update_of_ne hsame, hb']

end Resolves

/-! ## Chains of parents -/

section Parents
open Relation

def Links (parent : α → Option α) (a b : α) : Prop := parent a = some b

def Acyclic (parent : α → Option α) : Prop := ∀ a, ¬TransGen (Links parent) a a

variable {parent parent' : α → Option α}

lemma Acyclic.mono (h : Acyclic parent) (hsub : ∀ a b, parent' a = some b → parent a = some b) : Acyclic parent' :=
  fun a hcycle => h a (TransGen.mono hsub a a hcycle)

lemma Acyclic.ne (h : Acyclic parent) {a b : α} (hab : parent a = some b) : a ≠ b := by
  rintro rfl
  exact h a (.single hab)

variable [DecidableEq α] {x y : α}

lemma links_update_of_ne {a b : α} (ha : a ≠ x) (p : Option α) :
    Links (Function.update parent x p) a b ↔ Links parent a b := by
  unfold Links
  rw [Function.update_of_ne ha]

/-- A path to the node does not use its pointer. -/
lemma reaches_update {a : α} (h : ReflTransGen (Links parent) a x) (p : Option α) :
    ReflTransGen (Links (Function.update parent x p)) a x := by
  induction h using ReflTransGen.head_induction_on with
  | refl => exact .refl
  | @head a b hlink _ ih =>
    by_cases ha : a = x
    · rw [ha]
    · exact .head ((links_update_of_ne ha p).mpr hlink) ih

/-- From the new parent on, paths do not use the new pointer. -/
lemma path_of_update (hxy : ¬ReflTransGen (Links parent) y x) {a b : α} (hya : ReflTransGen (Links parent) y a)
    (h : TransGen (Links (Function.update parent x (some y))) a b) : TransGen (Links parent) a b := by
  have hlink : ∀ c d, ReflTransGen (Links parent) y c → Links (Function.update parent x (some y)) c d →
      Links parent c d := by
    intro c d hyc hcd
    have hc : c ≠ x := by
      rintro rfl
      exact hxy hyc
    exact (links_update_of_ne hc _).mp hcd
  induction h with
  | single hab => exact .single (hlink _ _ hya hab)
  | tail _ hbc ih => exact ih.tail (hlink _ _ (hya.trans ih.to_reflTransGen) hbc)

/-- A path either avoids the new pointer or ends at the new parent or beyond it. -/
lemma path_update_cases {a b : α} (h : TransGen (Links (Function.update parent x (some y))) a b) :
    TransGen (Links parent) a b ∨ ReflTransGen (Links parent) y b := by
  have hlink : ∀ c d, Links (Function.update parent x (some y)) c d → Links parent c d ∨ d = y := by
    intro c d hcd
    by_cases hc : c = x
    · subst hc
      unfold Links at hcd
      rw [Function.update_self, Option.some_inj] at hcd
      exact .inr hcd.symm
    · exact .inl ((links_update_of_ne hc _).mp hcd)
  induction h with
  | single hab =>
    obtain hold | rfl := hlink _ _ hab
    · exact .inl (.single hold)
    · exact .inr .refl
  | tail _ hbc ih =>
    obtain hold | rfl := hlink _ _ hbc
    · exact ih.imp (fun h => h.tail hold) (fun h => h.tail hold)
    · exact .inr .refl

/-- Setting a pointer keeps the relation acyclic exactly if the new parent does not lead to the node. -/
theorem acyclic_update_iff (h : Acyclic parent) :
    Acyclic (Function.update parent x (some y)) ↔ ¬ReflTransGen (Links parent) y x := by
  constructor
  · intro hacyclic hyx
    have hxy : Links (Function.update parent x (some y)) x y := by
      unfold Links
      rw [Function.update_self]
    exact hacyclic x (.head' hxy (reaches_update hyx (some y)))
  · intro hyx a hcycle
    obtain hold | hya := path_update_cases hcycle
    · exact h a hold
    · exact h a (path_of_update hyx hya hcycle)

/-- A node without pointers to it can be given any other parent. -/
lemma acyclic_update_fresh (h : Acyclic parent) (hfresh : ∀ a, parent a ≠ some x) (hxy : y ≠ x) :
    Acyclic (Function.update parent x (some y)) := by
  rw [acyclic_update_iff h]
  intro hyx
  obtain hsame | ⟨a, -, ha⟩ := hyx.cases_tail
  · exact hxy hsame.symm
  · exact hfresh a ha

lemma Acyclic.erase (h : Acyclic parent) (x : α) : Acyclic (Function.update parent x none) := by
  refine h.mono fun a b hab => ?_
  by_cases hsame : a = x
  · rw [hsame, Function.update_self] at hab
    cases hab
  · rwa [Function.update_of_ne hsame] at hab

end Parents

end References
