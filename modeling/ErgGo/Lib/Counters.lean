import Mathlib.Data.List.Basic
import Mathlib.Data.Int.Basic

/-!
# Counters kept beside the rows they count

A row of one table carries the number of the rows of another that refer to it. The counter
is moved by relative updates, one for each row inserted or deleted.
-/

namespace Counters

variable {Parent Child Key : Type} {key : Parent → Key} {counter : Parent → ℤ} {refers : Child → Key → Bool}

/-- Every counter is the number of rows that refer to its row. -/
def Counted (key : Parent → Key) (counter : Parent → ℤ) (refers : Child → Key → Bool) (parents : List Parent)
    (children : List Child) : Prop :=
  ∀ a ∈ parents, counter a = children.countP (fun b => refers b (key a))

instance (parents : List Parent) (children : List Child) : Decidable (Counted key counter refers parents children) :=
  inferInstanceAs (Decidable (∀ a ∈ parents, counter a = children.countP (fun b => refers b (key a))))

namespace Counted

variable {parents : List Parent} {children : List Child} (h : Counted key counter refers parents children)

include h

/-- An update of other columns. -/
lemma map_parents {f : Parent → Parent} (hkey : ∀ a, key (f a) = key a) (hcounter : ∀ a, counter (f a) = counter a) :
    Counted key counter refers (parents.map f) children := by
  intro a' ha'
  obtain ⟨a, ha, rfl⟩ := List.mem_map.mp ha'
  rw [hkey, hcounter]
  exact h a ha

lemma map_children {f : Child → Child} (hrefers : ∀ b k, refers (f b) k = refers b k) :
    Counted key counter refers parents (children.map f) := by
  intro a ha
  rw [List.countP_map, h a ha]
  refine congrArg _ (List.countP_congr fun b _ => ?_)
  rw [Function.comp_apply, hrefers]

/-- A new row that nothing refers to starts at zero. -/
lemma append_parent {a : Parent} (hzero : counter a = 0) (hnone : ∀ b ∈ children, refers b (key a) = false) :
    Counted key counter refers (parents ++ [a]) children := by
  intro a' ha'
  rcases List.mem_append.mp ha' with ha' | ha'
  · exact h a' ha'
  · rw [List.mem_singleton.mp ha', hzero, List.countP_eq_zero.mpr (fun b hb => by rw [hnone b hb]; simp)]
    rfl

/-- A row is inserted, and the counter of the row it refers to goes up by one. -/
lemma append_child {b : Child} {p : Parent → Bool} {f : Parent → Parent} (hkey : ∀ a, key (f a) = key a)
    (hcounter : ∀ a ∈ parents, counter (f a) = counter a + 1) (hp : ∀ a ∈ parents, p a = refers b (key a)) :
    Counted key counter refers (parents.map (fun a => if p a then f a else a)) (children ++ [b]) := by
  intro a' ha'
  obtain ⟨a, ha, rfl⟩ := List.mem_map.mp ha'
  have hrow := h a ha
  rw [List.countP_append, List.countP_singleton]
  cases hpa : p a with
  | true =>
    have hb : refers b (key a) = true := by rw [← hp a ha, hpa]
    simp only [↓reduceIte, hkey, hcounter a ha, hb]
    omega
  | false =>
    have hb : refers b (key a) = false := by rw [← hp a ha, hpa]
    simp only [Bool.false_eq_true, ↓reduceIte, hb]
    omega

/-- A row that refers to none of the counted ones. -/
lemma append_unrelated {b : Child} (hb : ∀ a ∈ parents, refers b (key a) = false) :
    Counted key counter refers parents (children ++ [b]) := by
  intro a ha
  rw [List.countP_append, List.countP_singleton, hb a ha, h a ha]
  simp

/-- One row is deleted, and the counter of the row it refers to goes down by one, but not
below zero. -/
lemma filter_child {b : Child} {q : Child → Bool} {p : Parent → Bool} {f : Parent → Parent}
    (hkey : ∀ a, key (f a) = key a) (hcounter : ∀ a ∈ parents, counter (f a) = max (counter a - 1) 0)
    (hq : children.filter q = [b]) (hp : ∀ a ∈ parents, p a = refers b (key a)) :
    Counted key counter refers (parents.map (fun a => if p a then f a else a)) (children.filter (fun b => !q b)) := by
  intro a' ha'
  obtain ⟨a, ha, rfl⟩ := List.mem_map.mp ha'
  have hrow := h a ha
  have hsplit : children.countP (fun b => refers b (key a)) =
      (children.filter q).countP (fun b => refers b (key a)) +
        (children.filter (fun b => !q b)).countP (fun b => refers b (key a)) := by
    clear hrow hp hq h
    induction children with
    | nil => rfl
    | cons b bs ih =>
      cases hqb : q b <;> simp only [List.countP_cons, hqb, ih, Bool.false_eq_true, not_false_eq_true,
        List.filter_cons_of_neg, Bool.not_false, List.filter_cons_of_pos, Bool.not_true] <;> omega
  rw [hq, List.countP_singleton] at hsplit
  cases hpa : p a with
  | true =>
    have hb : refers b (key a) = true := by rw [← hp a ha, hpa]
    simp only [hb, ↓reduceIte] at hsplit
    simp only [↓reduceIte, hkey, hcounter a ha]
    omega
  | false =>
    have hb : refers b (key a) = false := by rw [← hp a ha, hpa]
    simp only [hb, Bool.false_eq_true, ↓reduceIte] at hsplit
    simp only [Bool.false_eq_true, ↓reduceIte]
    omega

/-- A row that refers to none of the counted ones is deleted. -/
lemma filter_unrelated {q : Child → Bool} (hq : ∀ b ∈ children, q b = true → ∀ a ∈ parents, refers b (key a) = false) :
    Counted key counter refers parents (children.filter (fun b => !q b)) := by
  intro a ha
  rw [h a ha, List.countP_filter]
  refine congrArg _ (List.countP_congr fun b hb => ?_)
  cases hqb : q b with
  | true => simp [hq b hb hqb a ha]
  | false => simp

end Counted

end Counters
