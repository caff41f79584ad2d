import ErgGo.Lib.Fuel
import Mathlib.Data.Set.Card
import Mathlib.Data.Set.Finite.Lattice
import Mathlib.Logic.Hydra

/-!
# Walks over a graph

Nodes with what is below them, of which there is finitely much: a walk downwards ends where no
node below it is below itself. A breadth-first search without a list of visited nodes ends when
it finds a node or when every walk from its queue ends.
-/

namespace Traversal
open Relation Fuel

variable {α : Type*}

section Descent

variable {below : α → α → Prop}

lemma not_below_self_of_acc {n : α} (h : Acc below n) : ¬below n n := by
  induction h with
  | intro n _ ih =>
    intro hself
    exact ih n hself hself

/-- Where finitely much is below anything, every walk down from a node ends or comes back. -/
lemma acc_of_acyclic (hfinite : {c | ∃ n, below c n}.Finite) (n : α)
    (hacyclic : ∀ c, ReflTransGen below c n → ¬TransGen below c c) : Acc below n := by
  have hdescendants : ∀ n, {c | TransGen below c n}.Finite := by
    intro n
    refine hfinite.subset (fun c hc => ?_)
    obtain ⟨parent, hparent, -⟩ := TransGen.head'_iff.mp hc
    exact ⟨parent, hparent⟩
  -- A child has fewer descendants: it is not one of its own.
  induction hcount : {c | TransGen below c n}.ncard using Nat.strong_induction_on generalizing n with
  | _ count ih =>
    refine Acc.intro n (fun c hc => ?_)
    have hfewer : {d | TransGen below d c} ⊂ {d | TransGen below d n} := by
      refine ⟨fun d hd => hd.tail hc, fun hall => ?_⟩
      exact hacyclic c (.single hc) (hall (TransGen.single hc))
    have hlt := Set.ncard_lt_ncard hfewer (hdescendants n)
    exact ih _ (hcount ▸ hlt) c (fun d hd => hacyclic d (hd.tail hc)) rfl

theorem acc_iff_acyclic (hfinite : {c | ∃ n, below c n}.Finite) (n : α) :
    Acc below n ↔ ∀ c, ReflTransGen below c n → ¬TransGen below c c := by
  constructor
  · intro h c hc
    have hacc : Acc (TransGen below) c := by
      obtain rfl | hbelow := reflTransGen_iff_eq_or_transGen.mp hc
      · exact h.transGen
      · exact (h.inv_of_transGen hbelow).transGen
    exact not_below_self_of_acc hacc
  · exact acc_of_acyclic hfinite n

end Descent

section Search

variable (expand : ℕ → α → Option (List α)) (found : α → Bool)

/-- The first node found in a queue to whose end the nodes below each node go. -/
def search : ℕ → List α → Option (Option α)
  | 0, _ => none
  | _ + 1, [] => some none
  | fuel + 1, current :: queue =>
    if found current then some (some current)
    else (expand fuel current).bind (fun next => search fuel (queue ++ next))

/-- Expanding a node gives what is below it, whatever the fuel. -/
structure Expands (below : α → List α) : Prop where
  stable : ∀ a, Stable (fun fuel => expand fuel a)
  eq_below : ∀ {fuel a l}, expand fuel a = some l → l = below a

variable {expand found} {below : α → List α}

lemma Expands.search_stable (h : Expands expand below) (queue : List α) :
    Stable (fun fuel => search expand found fuel queue) := by
  intro fuel more hle
  induction fuel generalizing queue more with
  | zero => exact Below.none _
  | succ fuel ih =>
    obtain ⟨more, rfl⟩ := Nat.exists_eq_add_of_le' (Nat.le_of_add_left_le hle)
    cases queue with
    | nil => exact Below.refl _
    | cons current queue =>
      simp only [search]
      by_cases hfound : found current
      · simp only [if_pos hfound]
        exact Below.refl _
      · simp only [if_neg hfound]
        exact (h.stable current (Nat.le_of_succ_le_succ hle)).bind (fun next => ih _ (Nat.le_of_succ_le_succ hle))

/-- What the search finds is below its queue. -/
lemma Expands.of_found (h : Expands expand below) {fuel : ℕ} {queue : List α} {x : α}
    (hx : search expand found fuel queue = some (some x)) :
    found x ∧ ∃ c ∈ queue, ReflTransGen (fun d c => d ∈ below c) x c := by
  induction fuel generalizing queue with
  | zero => cases hx
  | succ fuel ih =>
    cases queue with
    | nil => cases hx
    | cons current queue =>
      simp only [search] at hx
      split at hx
      · rename_i hfound
        obtain rfl : current = x := Option.some.inj (Option.some.inj hx)
        exact ⟨hfound, current, List.mem_cons_self, .refl⟩
      · obtain ⟨next, hnext, hx⟩ := Option.bind_eq_some_iff.mp hx
        obtain ⟨hfound, c, hc, hbelow⟩ := ih hx
        refine ⟨hfound, ?_⟩
        obtain hc | hc := List.mem_append.mp hc
        · exact ⟨c, List.mem_cons_of_mem current hc, hbelow⟩
        · rw [h.eq_below hnext] at hc
          exact ⟨current, List.mem_cons_self, hbelow.tail hc⟩

/-- A search that finds nothing has been everywhere below its queue. -/
lemma Expands.of_exhausted (h : Expands expand below) {fuel : ℕ} {queue : List α}
    (hnone : search expand found fuel queue = some none) : ∀ c ∈ queue, Acc (fun d c => d ∈ below c) c := by
  induction fuel generalizing queue with
  | zero => cases hnone
  | succ fuel ih =>
    cases queue with
    | nil => simp
    | cons current queue =>
      simp only [search] at hnone
      split at hnone
      · cases hnone
      · obtain ⟨next, hnext, hnone⟩ := Option.bind_eq_some_iff.mp hnone
        have hall := ih hnone
        intro c hc
        obtain rfl | hc := List.mem_cons.mp hc
        · refine Acc.intro c (fun d hd => hall d (List.mem_append_right queue ?_))
          rwa [h.eq_below hnext]
        · exact hall c (List.mem_append_left next hc)

/-- One step of the search, where the node it looks at can be expanded. -/
lemma Expands.search_cons (h : Expands expand below) (hreturns : ∀ a, ∃ fuel, (expand fuel a).isSome)
    {current : α} {queue : List α} (hrest : ∃ fuel, (search expand found fuel (queue ++ below current)).isSome) :
    ∃ fuel, (search expand found fuel (current :: queue)).isSome := by
  have hstep : ∃ fuel, ((expand fuel current).bind (fun next => search expand found fuel (queue ++ next))).isSome := by
    refine (h.stable current).exists_bind (fun next => h.search_stable _) (hreturns current) (fun fuel next hnext => ?_)
    rwa [h.eq_below hnext]
  obtain ⟨fuel, hfuel⟩ := hstep
  refine ⟨fuel + 1, ?_⟩
  simp only [search]
  split
  · rfl
  · exact hfuel

/-- Every walk down from the queue ends. -/
theorem Expands.search_returns_of_acc (h : Expands expand below) (hreturns : ∀ a, ∃ fuel, (expand fuel a).isSome)
    {queue : List α} (hacc : ∀ c ∈ queue, Acc (fun d c => d ∈ below c) c) :
    ∃ fuel, (search expand found fuel queue).isSome := by
  -- Below the nodes from which walks end, nothing is below itself: each step replaces a node of
  -- the queue by smaller ones.
  let smaller : α → α → Prop := fun d c => d ∈ below c ∧ Acc (fun d c => d ∈ below c) c
  have hwf : WellFounded smaller := by
    refine ⟨fun n => Acc.intro n (fun d hd => ?_)⟩
    have hd' := hd.2.inv hd.1
    clear hd
    induction hd' with
    | intro d _ ih => exact Acc.intro d (fun e he => ih e he.1)
  induction hqueue : (queue : Multiset α) using hwf.cutExpand.induction generalizing queue with
  | _ nodes ih =>
    cases queue with
    | nil => exact ⟨1, rfl⟩
    | cons current queue =>
      have hcurrent := hacc current List.mem_cons_self
      refine h.search_cons hreturns (ih _ ?_ ?_ rfl)
      · refine ⟨(below current : Multiset α), current, fun d hd => ⟨hd, hcurrent⟩, ?_⟩
        rw [← hqueue, ← Multiset.cons_coe, ← Multiset.coe_add, ← Multiset.singleton_add,
          add_comm _ ({current} : Multiset α), add_assoc]
      · intro c hc
        obtain hc | hc := List.mem_append.mp hc
        · exact hacc c (List.mem_cons_of_mem current hc)
        · exact hcurrent.inv hc

/-- A node to be found is below the queue. -/
theorem Expands.search_returns_of_found (h : Expands expand below) (hreturns : ∀ a, ∃ fuel, (expand fuel a).isSome)
    {queue : List α} {c x : α} (hc : c ∈ queue) (hbelow : ReflTransGen (fun d c => d ∈ below c) x c)
    (hfound : found x) : ∃ fuel, (search expand found fuel queue).isSome := by
  -- The nodes before it in the queue go first.
  have hskip : ∀ c, (∀ rest, ∃ fuel, (search expand found fuel (c :: rest)).isSome) →
      ∀ before rest, ∃ fuel, (search expand found fuel (before ++ c :: rest)).isSome := by
    intro c hhead before
    induction before with
    | nil => exact hhead
    | cons current before ih =>
      intro rest
      refine h.search_cons hreturns ?_
      have hlater := ih (rest ++ below current)
      rwa [← List.cons_append, ← List.append_assoc] at hlater
  have hhead : ∀ rest, ∃ fuel, (search expand found fuel (c :: rest)).isSome := by
    clear hc
    induction hbelow with
    | refl => exact fun rest => ⟨1, by simp [search, hfound]⟩
    | tail _ hstep ih =>
      intro rest
      refine h.search_cons hreturns ?_
      obtain ⟨earlier, later, hsplit⟩ := List.append_of_mem hstep
      rw [hsplit, ← List.append_assoc]
      exact hskip _ ih _ _
  obtain ⟨earlier, later, rfl⟩ := List.append_of_mem hc
  exact hskip c hhead earlier later

end Search

end Traversal
