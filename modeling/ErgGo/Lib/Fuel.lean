import Mathlib.Data.Option.Basic
import Mathlib.Data.List.Basic

/-!
# Loops with fuel

A loop that may run for ever is a function of the fuel it is given, without a result where the
fuel is spent. More fuel changes no result, so that two results are the same.
-/

namespace Fuel

variable {α β : Type*}

/-- What the first gives, the second gives. -/
def Below (x y : Option α) : Prop := ∀ a, x = some a → y = some a

namespace Below

lemma refl (x : Option α) : Below x x := fun _ h => h

lemma none (y : Option α) : Below Option.none y := by
  intro a h
  cases h

lemma bind {x y : Option α} {f g : α → Option β} (hx : Below x y) (hf : ∀ a, Below (f a) (g a)) :
    Below (x.bind f) (y.bind g) := by
  intro b h
  obtain ⟨a, ha, hb⟩ := Option.bind_eq_some_iff.mp h
  exact Option.bind_eq_some_iff.mpr ⟨a, hx a ha, hf a b hb⟩

lemma map {x y : Option α} (f : α → β) (hx : Below x y) : Below (x.map f) (y.map f) := by
  intro b h
  obtain ⟨a, ha, hb⟩ := Option.map_eq_some_iff.mp h
  exact Option.map_eq_some_iff.mpr ⟨a, hx a ha, hb⟩

lemma mapM {f g : α → Option β} (l : List α) (hf : ∀ a, Below (f a) (g a)) : Below (l.mapM f) (l.mapM g) := by
  induction l with
  | nil => exact refl _
  | cons a l ih =>
    rw [List.mapM_cons, List.mapM_cons]
    exact (hf a).bind (fun b => ih.bind (fun bs => refl _))

end Below

/-- More fuel changes no result. -/
def Stable (f : ℕ → Option α) : Prop := ∀ ⦃fuel more : ℕ⦄, fuel ≤ more → Below (f fuel) (f more)

namespace Stable

lemma eq {f : ℕ → Option α} (hf : Stable f) {fuel more : ℕ} {a b : α} (ha : f fuel = some a) (hb : f more = some b) :
    a = b := by
  obtain hle | hle := Nat.le_total fuel more
  · exact Option.some.inj ((hf hle a ha).symm.trans hb)
  · exact Option.some.inj (ha.symm.trans (hf hle b hb))

/-- Two calls in turn return where each does. -/
lemma exists_bind {f : ℕ → Option α} {g : ℕ → α → Option β} (hf : Stable f) (hg : ∀ a, Stable (fun fuel => g fuel a))
    (hfirst : ∃ fuel, (f fuel).isSome) (hrest : ∀ fuel a, f fuel = some a → ∃ fuel, (g fuel a).isSome) :
    ∃ fuel, ((f fuel).bind (g fuel)).isSome := by
  obtain ⟨first, hfirst⟩ := hfirst
  obtain ⟨a, ha⟩ := Option.isSome_iff_exists.mp hfirst
  obtain ⟨rest, hrest⟩ := hrest first a ha
  obtain ⟨b, hb⟩ := Option.isSome_iff_exists.mp hrest
  have ha' : f (max first rest) = some a := hf (Nat.le_max_left first rest) a ha
  have hb' : g (max first rest) a = some b := hg a (Nat.le_max_right first rest) b hb
  refine ⟨max first rest, ?_⟩
  rw [ha', Option.bind_some, hb']
  rfl

/-- Calls that return one by one return together. -/
lemma exists_mapM {f : ℕ → α → Option β} (hf : ∀ a, Stable (fun fuel => f fuel a)) {l : List α}
    (h : ∀ a ∈ l, ∃ fuel, (f fuel a).isSome) : ∃ fuel, (l.mapM (f fuel)).isSome := by
  induction l with
  | nil => exact ⟨0, rfl⟩
  | cons a l ih =>
    obtain ⟨first, hfirst⟩ := h a List.mem_cons_self
    obtain ⟨rest, hrest⟩ := ih (fun a' ha' => h a' (List.mem_cons_of_mem a ha'))
    obtain ⟨b, hb⟩ := Option.isSome_iff_exists.mp hfirst
    obtain ⟨bs, hbs⟩ := Option.isSome_iff_exists.mp hrest
    have hb' : f (max first rest) a = some b := hf a (Nat.le_max_left first rest) b hb
    have hbs' : l.mapM (f (max first rest)) = some bs :=
      Below.mapM l (fun a' => hf a' (Nat.le_max_right first rest)) bs hbs
    refine ⟨max first rest, ?_⟩
    rw [List.mapM_cons, hb', hbs']
    rfl

end Stable

/-- Where all calls return, each of them does. -/
lemma isSome_of_mapM {f : α → Option β} {l : List α} (h : (l.mapM f).isSome) {a : α} (ha : a ∈ l) : (f a).isSome := by
  induction l with
  | nil => simp at ha
  | cons a' l ih =>
    rw [List.mapM_cons] at h
    cases hf : f a' with
    | none => simp [hf] at h
    | some b =>
      cases hfs : l.mapM f with
      | none => simp [hf, hfs] at h
      | some bs =>
        obtain rfl | ha := List.mem_cons.mp ha
        · simp [hf]
        · exact ih (by simp [hfs]) ha

/-- The results of calls that return together. -/
lemma mem_of_mapM {f : α → Option β} {l : List α} {bs : List β} (h : l.mapM f = some bs) (b : β) :
    b ∈ bs ↔ ∃ a ∈ l, f a = some b := by
  induction l generalizing bs with
  | nil =>
    obtain rfl : [] = bs := Option.some.inj h
    simp
  | cons a l ih =>
    rw [List.mapM_cons] at h
    obtain ⟨b', hb', h⟩ := Option.bind_eq_some_iff.mp h
    obtain ⟨bs', hbs', h⟩ := Option.bind_eq_some_iff.mp h
    obtain rfl : b' :: bs' = bs := Option.some.inj h
    rw [List.mem_cons, List.exists_mem_cons_iff, ih hbs', hb']
    exact or_congr_left ⟨fun h => h ▸ rfl, fun h => (Option.some.inj h).symm⟩

end Fuel
