import Mathlib.Data.List.Nodup

/-!
# Children listed by their parents

Children are kept in a map of their own and a second time in the listing of their parent. The
two agree when every child is listed, as it is, by the parent it names, and nothing else is
listed. A change of one parent and of its children keeps the agreement when it gets this
parent's children right and leaves the others alone.
-/

namespace Listing

variable {ParentId ChildId Parent Child : Type*}
variable (listed : Parent → List Child) (key : Child → ChildId) (parent : Child → ParentId)

structure Agrees (parents : ParentId → Option Parent) (children : ChildId → Option Child) : Prop where
  listed_of_child : ∀ {k c}, children k = some c → key c = k ∧ ∃ p, parents (parent c) = some p ∧ c ∈ listed p
  child_of_listed : ∀ {r p c}, parents r = some p → c ∈ listed p → parent c = r ∧ children (key c) = some c
  nodup : ∀ {r p}, parents r = some p → ((listed p).map key).Nodup

variable {listed key parent} {parents parents' : ParentId → Option Parent} {children children' : ChildId → Option Child}

lemma agrees_empty : Agrees listed key parent (fun _ => none) (fun _ => none) where
  listed_of_child h := by simp at h
  child_of_listed h := by simp at h
  nodup h := by simp at h

namespace Agrees

lemma mem_of_child (h : Agrees listed key parent parents children) {k : ChildId} {c : Child} {p : Parent}
    (hc : children k = some c) (hp : parents (parent c) = some p) : c ∈ listed p := by
  have hlisted := (h.listed_of_child hc).2
  rw [hp] at hlisted
  simpa using hlisted

/-- The change of the parent `r` and of its children. -/
theorem change {r : ParentId} (h : Agrees listed key parent parents children) (hparents : ∀ s, s ≠ r → parents' s = parents s)
    (hnodup : ∀ p, parents' r = some p → ((listed p).map key).Nodup)
    (hlisted : ∀ p, parents' r = some p → ∀ c ∈ listed p, parent c = r ∧ children' (key c) = some c)
    (hchildren : ∀ k c, children' k = some c → (children k = some c ∧ parent c ≠ r) ∨
      (key c = k ∧ parent c = r ∧ ∃ p, parents' r = some p ∧ c ∈ listed p))
    (hothers : ∀ k c, children k = some c → parent c ≠ r → children' k = some c) :
    Agrees listed key parent parents' children' where
  listed_of_child := by
    intro k c hc
    obtain ⟨hold, hother⟩ | ⟨hkey, hparent, hmem⟩ := hchildren k c hc
    · rw [hparents _ hother]
      exact h.listed_of_child hold
    · exact ⟨hkey, hparent.symm ▸ hmem⟩
  child_of_listed := by
    intro s p c hp hc
    by_cases hs : s = r
    · subst hs
      exact hlisted p hp c hc
    · rw [hparents s hs] at hp
      have hold := h.child_of_listed hp hc
      exact ⟨hold.1, hothers _ c hold.2 (hold.1.trans_ne hs)⟩
  nodup := by
    intro s p hp
    by_cases hs : s = r
    · subst hs
      exact hnodup p hp
    · exact h.nodup (hparents s hs ▸ hp)

/-- Agreement before and after a change of `r` leaves the children of the others in place. -/
theorem others_kept {r : ParentId} (h : Agrees listed key parent parents children)
    (h' : Agrees listed key parent parents' children') (hparents : ∀ s, s ≠ r → parents' s = parents s)
    {k : ChildId} {c : Child} (hc : children k = some c) (hother : parent c ≠ r) : children' k = some c := by
  obtain ⟨hkey, p, hp, hmem⟩ := h.listed_of_child hc
  rw [← hparents _ hother] at hp
  have hchild := (h'.child_of_listed hp hmem).2
  rwa [hkey] at hchild

end Agrees

end Listing
