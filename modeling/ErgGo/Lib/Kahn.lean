import Mathlib.Data.Fintype.Card
import Mathlib.Data.Fintype.EquivFin
import Mathlib.Data.List.FinRange
import Mathlib.Logic.Relation
import Mathlib.Order.WellFounded

/-!
# Kahn's algorithm

A directed graph on `0, …, n - 1` is given by its adjacency matrix. Nodes without incoming edges
wait in a queue; each in turn is listed, and the edges out of it are taken away. All nodes are
listed exactly if the graph has no cycle, and then each after all that point to it.
-/

namespace Kahn
open Relation

variable {n : ℕ}

structure State (n : ℕ) where
  inDeg : Fin n → ℤ
  queue : List (Fin n)
  order : List (Fin n)

variable (edges : Fin n → Fin n → Bool)

/-- The edges into each node, counted row by row. -/
def inDegrees : Fin n → ℤ :=
  (List.finRange n).foldl (fun inDeg i =>
    (List.finRange n).foldl (fun inDeg j => if edges i j then Function.update inDeg j (inDeg j + 1) else inDeg) inDeg)
    (fun _ => 0)

def start : State n where
  inDeg := inDegrees edges
  queue := (List.finRange n).filter (fun j => inDegrees edges j = 0)
  order := []

/-- The edge from `front` to `j` is taken away; a node that has lost its last joins the queue. -/
def removeEdge (front : Fin n) (s : (Fin n → ℤ) × List (Fin n)) (j : Fin n) : (Fin n → ℤ) × List (Fin n) :=
  if edges front j then
    let inDeg := Function.update s.1 j (s.1 j - 1)
    (inDeg, if inDeg j = 0 then s.2 ++ [j] else s.2)
  else s

def visit (front : Fin n) (rest : List (Fin n)) (s : State n) : State n :=
  let removed := (List.finRange n).foldl (removeEdge edges front) (s.inDeg, rest)
  ⟨removed.1, removed.2, s.order ++ [front]⟩

/-- The loop over the queue, for so many turns. -/
def loop : ℕ → State n → State n
  | 0, s => s
  | turns + 1, s =>
    match s.queue with
    | [] => s
    | front :: rest => loop turns (visit edges front rest s)

/-- Every node is listed once at most, so `n` turns are enough (`queue_loop`). -/
def sort : List (Fin n) := (loop edges n (start edges)).order

/-- Nodes with an edge to a listed node are listed before it. -/
def Sorted (order : List (Fin n)) : Prop :=
  ∀ before j after, order = before ++ j :: after → ∀ i, edges i j → i ∈ before

variable {edges}

section Counting

lemma foldl_increment (p : Fin n → Bool) {l : List (Fin n)} (hl : l.Nodup) (inDeg : Fin n → ℤ) (j : Fin n) :
    l.foldl (fun inDeg j => if p j then Function.update inDeg j (inDeg j + 1) else inDeg) inDeg j =
      inDeg j + if j ∈ l ∧ p j then 1 else 0 := by
  induction l generalizing inDeg with
  | nil => simp
  | cons k l ih =>
    obtain ⟨hk, hl⟩ := List.nodup_cons.mp hl
    rw [List.foldl_cons, ih hl]
    by_cases hjk : j = k
    · subst hjk
      by_cases hp : p j <;> simp [hk, hp]
    · by_cases hp : p k <;> simp [hjk, hp]

lemma inDegrees_eq (j : Fin n) : inDegrees edges j = (Finset.univ.filter (fun i => edges i j)).card := by
  have hfold : ∀ (l : List (Fin n)) (inDeg : Fin n → ℤ), l.foldl (fun inDeg i =>
      (List.finRange n).foldl (fun inDeg j => if edges i j then Function.update inDeg j (inDeg j + 1) else inDeg) inDeg)
      inDeg j = inDeg j + l.countP (fun i => edges i j) := by
    intro l
    induction l with
    | nil => simp
    | cons i l ih =>
      intro inDeg
      rw [List.foldl_cons, ih, foldl_increment _ (List.nodup_finRange n), List.countP_cons]
      by_cases hedge : edges i j <;> simp [hedge]
      omega
  have hcard : (List.finRange n).countP (fun i => edges i j) = (Finset.univ.filter (fun i => edges i j)).card := by
    rw [List.countP_eq_length_filter, ← List.toFinset_card_of_nodup ((List.nodup_finRange n).filter _)]
    congr 1
    ext i
    simp
  rw [inDegrees, hfold, hcard, Int.zero_add]

lemma foldl_removeEdge (front : Fin n) {l : List (Fin n)} (hl : l.Nodup) (inDeg : Fin n → ℤ) (queue : List (Fin n)) :
    l.foldl (removeEdge edges front) (inDeg, queue) =
      (fun j => inDeg j - if j ∈ l ∧ edges front j then 1 else 0,
        queue ++ l.filter (fun j => edges front j && inDeg j = 1)) := by
  induction l generalizing inDeg queue with
  | nil => simp
  | cons k l ih =>
    obtain ⟨hk, hl⟩ := List.nodup_cons.mp hl
    rw [List.foldl_cons]
    by_cases hedge : edges front k
    · have hother : ∀ j ∈ l, Function.update inDeg k (inDeg k - 1) j = inDeg j := by
        intro j hj
        have hne : j ≠ k := fun h => hk (by rwa [h] at hj)
        exact Function.update_of_ne hne _ _
      have hfilter : l.filter (fun j => edges front j && Function.update inDeg k (inDeg k - 1) j = 1) =
          l.filter (fun j => edges front j && inDeg j = 1) :=
        List.filter_congr (fun j hj => by simp [hother j hj])
      rw [removeEdge, if_pos hedge, ih hl, hfilter]
      refine Prod.ext ?_ ?_
      · funext j
        by_cases hjk : j = k
        · subst hjk
          simp [hk, hedge]
        · simp [hjk]
      · by_cases hlast : inDeg k = 1
        · simp [hedge, hlast]
        · have hleft : inDeg k - 1 ≠ 0 := fun h => hlast (by omega)
          simp [hlast, hleft]
    · rw [removeEdge, if_neg hedge, ih hl]
      refine Prod.ext ?_ ?_
      · funext j
        by_cases hjk : j = k
        · subst hjk
          simp [hedge]
        · simp [hjk]
      · simp [hedge]

end Counting

/-! ## The invariant -/

/-- What holds before every turn. -/
structure Inv (edges : Fin n → Fin n → Bool) (s : State n) : Prop where
  nodup : (s.order ++ s.queue).Nodup
  inDeg : ∀ j, s.inDeg j = (Finset.univ.filter (fun i => edges i j ∧ i ∉ s.order)).card
  ready : ∀ j, j ∈ s.order ++ s.queue ↔ s.inDeg j = 0
  sorted : Sorted edges s.order

lemma inv_start : Inv edges (start edges) where
  nodup := (List.nodup_finRange n).filter _
  inDeg j := by simp [start, inDegrees_eq]
  ready j := by simp [start]
  sorted before j after h := by simp [start] at h

/-- A node waits when everything that points to it is listed. -/
lemma Inv.ready_iff {s : State n} (hs : Inv edges s) (j : Fin n) :
    j ∈ s.order ++ s.queue ↔ ∀ i, edges i j → i ∈ s.order := by
  rw [hs.ready, hs.inDeg, Int.natCast_eq_zero, Finset.card_eq_zero, Finset.filter_eq_empty_iff]
  simp

lemma Sorted.concat {order : List (Fin n)} (h : Sorted edges order) {front : Fin n}
    (hfront : ∀ i, edges i front → i ∈ order) : Sorted edges (order ++ [front]) := by
  intro before j after heq i hedge
  obtain rfl | ⟨after, last, rfl⟩ := List.eq_nil_or_concat after
  · obtain ⟨rfl, hlast⟩ := List.append_inj' heq rfl
    cases hlast
    exact hfront i hedge
  · rw [List.concat_eq_append, ← List.cons_append, ← List.append_assoc] at heq
    obtain ⟨horder, -⟩ := List.append_inj' heq rfl
    exact h before j after horder i hedge

/-- One turn. -/
lemma Inv.visit {s : State n} (hs : Inv edges s) {front : Fin n} {rest : List (Fin n)}
    (hqueue : s.queue = front :: rest) : Inv edges (visit edges front rest s) := by
  have hnodup := hs.nodup
  rw [hqueue] at hnodup
  have hfront : front ∉ s.order := fun h => List.disjoint_of_nodup_append hnodup h List.mem_cons_self
  have hpreds : ∀ i, edges i front → i ∈ s.order := by
    refine (hs.ready_iff front).mp ?_
    rw [hqueue]
    exact List.mem_append_right _ List.mem_cons_self
  unfold Kahn.visit
  rw [foldl_removeEdge front (List.nodup_finRange n)]
  -- an edge out of the listed node is one less that is not from a listed node
  have hinDeg : ∀ j, s.inDeg j - (if edges front j then 1 else 0) =
      (Finset.univ.filter (fun i => edges i j ∧ i ∉ s.order ++ [front])).card := by
    intro j
    have hremaining : Finset.univ.filter (fun i => edges i j ∧ i ∉ s.order ++ [front]) =
        (Finset.univ.filter (fun i => edges i j ∧ i ∉ s.order)).erase front := by
      ext i
      simp only [List.mem_append, List.mem_singleton, not_or, Finset.mem_filter, Finset.mem_univ, true_and,
        Finset.mem_erase]
      tauto
    rw [hremaining, hs.inDeg]
    by_cases hedge : edges front j
    · have hmem : front ∈ Finset.univ.filter (fun i => edges i j ∧ i ∉ s.order) := by simp [hedge, hfront]
      have hpos := Finset.card_pos.mpr ⟨front, hmem⟩
      rw [if_pos hedge, Finset.card_erase_of_mem hmem]
      omega
    · have hmem : front ∉ Finset.univ.filter (fun i => edges i j ∧ i ∉ s.order) := by simp [hedge]
      rw [if_neg hedge, Finset.erase_eq_of_notMem hmem, Int.sub_zero]
  have hnew : ∀ j, edges front j → s.inDeg j = 1 → j ∉ s.order ++ s.queue := by
    intro j _ hone hmem
    rw [hs.ready, hone] at hmem
    cases hmem
  refine ⟨?_, ?_, ?_, hs.sorted.concat hpreds⟩
  · dsimp only
    have hassoc : s.order ++ [front] ++ (rest ++ (List.finRange n).filter (fun j => edges front j && s.inDeg j = 1)) =
        s.order ++ s.queue ++ (List.finRange n).filter (fun j => edges front j && s.inDeg j = 1) := by
      rw [hqueue]
      simp
    rw [hassoc]
    refine List.Nodup.append hs.nodup ((List.nodup_finRange n).filter _) fun j hj hj' => ?_
    simp only [List.mem_filter, List.mem_finRange, true_and, Bool.and_eq_true, decide_eq_true_eq] at hj'
    exact hnew j hj'.1 hj'.2 hj
  · intro j
    simpa using hinDeg j
  · intro j
    have hready := hs.ready j
    rw [hqueue] at hready
    simp only [List.mem_append, List.mem_cons, List.mem_filter, List.mem_finRange, true_and, Bool.and_eq_true,
      decide_eq_true_eq, List.not_mem_nil, or_false] at hready ⊢
    by_cases hedge : edges front j
    · have hunready : s.inDeg j ≠ 0 := by
        have hpos : 0 < (Finset.univ.filter (fun i => edges i j ∧ i ∉ s.order)).card :=
          Finset.card_pos.mpr ⟨front, by simp [hedge, hfront]⟩
        rw [hs.inDeg]
        omega
      simp only [hedge, true_and, if_true]
      have hnot := mt hready.mp hunready
      constructor
      · rintro ((h | h) | h | h)
        · exact absurd (Or.inl h) hnot
        · exact absurd (Or.inr (Or.inl h)) hnot
        · exact absurd (Or.inr (Or.inr h)) hnot
        · omega
      · exact fun h => .inr (.inr (by omega))
    · simp only [hedge, Bool.false_eq_true, false_and, if_false, or_false, Int.sub_zero]
      rw [← hready, or_assoc]

lemma Inv.loop (turns : ℕ) {s : State n} (hs : Inv edges s) : Inv edges (loop edges turns s) := by
  induction turns generalizing s with
  | zero => exact hs
  | succ turns ih =>
    unfold Kahn.loop
    split
    · exact hs
    · next front rest hqueue => exact ih (hs.visit hqueue)

/-- The loop ends: no node is listed twice. -/
lemma queue_loop {turns : ℕ} {s : State n} (hs : Inv edges s) (hturns : n ≤ s.order.length + turns) :
    (loop edges turns s).queue = [] := by
  have hlength : ∀ {s : State n}, Inv edges s → s.order.length + s.queue.length ≤ n := by
    intro s hs
    have hcard := hs.nodup.length_le_card
    rwa [List.length_append, Fintype.card_fin] at hcard
  induction turns generalizing s with
  | zero =>
    have hle := hlength hs
    have hempty : s.queue.length = 0 := by omega
    exact List.eq_nil_of_length_eq_zero hempty
  | succ turns ih =>
    unfold Kahn.loop
    split
    · next hqueue => exact hqueue
    · next front rest hqueue =>
      refine ih (hs.visit hqueue) ?_
      change n ≤ (s.order ++ [front]).length + turns
      rw [List.length_append, List.length_singleton]
      omega

/-! ## What is listed -/

lemma inv_sort : Inv edges (loop edges n (start edges)) := inv_start.loop n

lemma nodup_sort : (sort edges).Nodup := inv_sort.nodup.of_append_left

lemma sorted_sort : Sorted edges (sort edges) := inv_sort.sorted

lemma mem_sort_iff (j : Fin n) : j ∈ sort edges ↔ ∀ i, edges i j → i ∈ sort edges := by
  have hready := Inv.ready_iff (inv_sort : Inv edges _) j
  rwa [queue_loop inv_start (Nat.le_add_left n _), List.append_nil] at hready

/-- In a sorted list an edge leads forward. -/
lemma Sorted.idxOf_lt {order : List (Fin n)} (hsorted : Sorted edges order) (hnodup : order.Nodup) {i j : Fin n}
    (hedge : edges i j) (hj : j ∈ order) : order.idxOf i < order.idxOf j := by
  obtain ⟨before, after, rfl⟩ := List.append_of_mem hj
  have hi : i ∈ before := hsorted before j after rfl i hedge
  have hj : j ∉ before := fun h => List.disjoint_of_nodup_append hnodup h List.mem_cons_self
  rw [List.idxOf_append_of_mem hi, List.idxOf_append_of_notMem hj, List.idxOf_cons_self, Nat.add_zero]
  exact List.idxOf_lt_length_iff.mpr hi

lemma acyclic_of_sorted {order : List (Fin n)} (hsorted : Sorted edges order) (hnodup : order.Nodup)
    (hall : ∀ j, j ∈ order) (j : Fin n) : ¬TransGen (fun i j => edges i j) j j := by
  have hforward : ∀ i k, TransGen (fun i j => edges i j) i k → order.idxOf i < order.idxOf k := by
    intro i k h
    induction h with
    | single hedge => exact hsorted.idxOf_lt hnodup hedge (hall _)
    | tail _ hedge ih => exact ih.trans (hsorted.idxOf_lt hnodup hedge (hall _))
  exact fun h => Nat.lt_irrefl _ (hforward j j h)

lemma mem_sort_of_acyclic (h : ∀ j, ¬TransGen (fun i j => edges i j) j j) (j : Fin n) : j ∈ sort edges := by
  have : IsTrans (Fin n) (TransGen fun i j => edges i j) := ⟨fun _ _ _ => TransGen.trans⟩
  have : Std.Irrefl (TransGen fun i j => (edges i j : Prop)) := ⟨h⟩
  have hfounded : WellFounded (TransGen fun i j => (edges i j : Prop)) := Finite.wellFounded_of_trans_of_irrefl _
  induction j using hfounded.induction with
  | _ j ih => exact (mem_sort_iff j).mpr fun i hedge => ih i (.single hedge)

lemma length_sort_le : (sort edges).length ≤ n := by
  have hnodup : (sort edges).Nodup := nodup_sort
  have hcard := hnodup.length_le_card
  rwa [Fintype.card_fin] at hcard

lemma mem_sort_of_length (h : n ≤ (sort edges).length) (j : Fin n) : j ∈ sort edges := by
  have hcard : (sort edges).toFinset.card = Fintype.card (Fin n) := by
    rw [List.toFinset_card_of_nodup nodup_sort, Fintype.card_fin]
    exact Nat.le_antisymm length_sort_le h
  exact List.mem_toFinset.mp ((Finset.card_eq_iff_eq_univ _).mp hcard ▸ Finset.mem_univ j)

/-- The list falls short exactly if there is a cycle. -/
theorem length_sort_lt_iff : (sort edges).length < n ↔ ∃ j, TransGen (fun i j => edges i j) j j := by
  constructor
  · intro hshort
    by_contra hacyclic
    rw [not_exists] at hacyclic
    have hall := mem_sort_of_acyclic hacyclic
    have hle : n ≤ (sort edges).length := by
      have hsub : Finset.univ ⊆ (sort edges).toFinset := fun j _ => List.mem_toFinset.mpr (hall j)
      have hcard := (Finset.card_le_card hsub).trans (List.toFinset_card_le _)
      rwa [Finset.card_univ, Fintype.card_fin] at hcard
    omega
  · rintro ⟨j, hcycle⟩
    by_contra hlong
    exact acyclic_of_sorted sorted_sort nodup_sort (mem_sort_of_length (by omega)) j hcycle

end Kahn
