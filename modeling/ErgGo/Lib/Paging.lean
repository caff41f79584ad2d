import Mathlib.Data.List.Basic
import Mathlib.Order.Lattice

/-!
# Pages of a list

A page is cut out of a list at an offset. Cutting and filtering do not commute: the page of a
filtered list is filled up, and the filtered page is not. The pages in their order are the list on
either way.
-/

namespace Paging

variable {α : Type*}

def page (start limit : ℕ) (l : List α) : List α := (l.drop start).take limit

lemma flatMap_page (limit n : ℕ) (l : List α) :
    (List.range n).flatMap (fun i => page (i * limit) limit l) = l.take (n * limit) := by
  induction n with
  | zero => simp
  | succ n ih =>
    rw [List.range_succ, List.flatMap_append, ih, List.flatMap_singleton, page, Nat.succ_mul, List.take_add]

lemma flatMap_filter_page (p : α → Bool) (limit n : ℕ) (l : List α) :
    (List.range n).flatMap (fun i => (page (i * limit) limit l).filter p) = (l.take (n * limit)).filter p := by
  rw [← flatMap_page, List.filter_flatMap]

lemma page_map {β : Type*} (f : α → β) (start limit : ℕ) (l : List α) :
    page start limit (l.map f) = (page start limit l).map f := by
  rw [page, page, List.map_take, List.map_drop]

lemma page_sublist (start limit : ℕ) (l : List α) : (page start limit l).Sublist l :=
  (List.take_sublist limit _).trans (List.drop_sublist start l)

lemma page_eq_nil_iff {start limit : ℕ} (hlimit : 0 < limit) {l : List α} :
    page start limit l = [] ↔ l.length ≤ start := by
  rw [page, List.take_eq_nil_iff, List.drop_eq_nil_iff]
  omega

lemma page_eq_self_iff {start limit : ℕ} {l : List α} :
    page start limit l = l ↔ l = [] ∨ start = 0 ∧ l.length ≤ limit := by
  constructor
  · intro h
    have hlength := congrArg List.length h
    rw [page, List.length_take, List.length_drop] at hlength
    by_cases hl : l = []
    · exact .inl hl
    · have hpos := List.length_pos_iff.mpr hl
      exact .inr ⟨by omega, by omega⟩
  · rintro (rfl | ⟨rfl, hlimit⟩)
    · simp [page]
    · rw [page, List.drop_zero, List.take_of_length_le hlimit]

lemma filter_take_append_filter_drop (p : α → Bool) (k : ℕ) (l : List α) :
    (l.take k).filter p ++ (l.drop k).filter p = l.filter p := by
  rw [← List.filter_append, List.take_append_drop]

/-- Both the page of the filtered list and the filtered page are the whole filtered list exactly if
nothing passes the filter, or it is the first page and nothing passes the filter behind it. -/
theorem filter_page_iff (p : α → Bool) (start limit : ℕ) (l : List α) :
    page start limit (l.filter p) = l.filter p ∧ (page start limit l).filter p = l.filter p ↔
      l.filter p = [] ∨ start = 0 ∧ (l.drop limit).filter p = [] := by
  have hsplit := filter_take_append_filter_drop p limit l
  constructor
  · rintro ⟨hpage, hall⟩
    obtain hnone | ⟨hstart, -⟩ := page_eq_self_iff.mp hpage
    · exact .inl hnone
    · rw [hstart, page, List.drop_zero] at hall
      rw [hall] at hsplit
      exact .inr ⟨hstart, List.append_right_eq_self.mp hsplit⟩
  · rintro (hnone | ⟨rfl, hbehind⟩)
    · rw [hnone]
      exact ⟨page_eq_self_iff.mpr (.inl rfl), List.sublist_nil.mp (hnone ▸ (page_sublist start limit l).filter p)⟩
    · rw [hbehind, List.append_nil] at hsplit
      have hlimit : (l.filter p).length ≤ limit := by
        rw [← hsplit]
        exact Nat.le_trans (List.length_filter_le ..) (List.length_take_le ..)
      exact ⟨page_eq_self_iff.mpr (.inr ⟨rfl, hlimit⟩), by rw [page, List.drop_zero, hsplit]⟩

/-! ## The pages of a list -/

/-- The number of pages, of which there is always a first one. -/
def pages (limit n : ℕ) : ℕ := max 1 ((n + limit - 1) / limit)

lemma le_pages_mul {limit : ℕ} (hlimit : 0 < limit) (n : ℕ) : n ≤ pages limit n * limit := by
  have hdiv := Nat.div_add_mod (n + limit - 1) limit
  have hmod := Nat.mod_lt (n + limit - 1) hlimit
  have hceil : n ≤ (n + limit - 1) / limit * limit := by
    rw [Nat.mul_comm]
    omega
  exact hceil.trans (Nat.mul_le_mul_right limit (le_max_right _ _))

/-- No page starts behind the end of the list. -/
lemma start_le_of_lt_pages {limit n k : ℕ} (hlimit : 0 < limit) (hk : k < pages limit n) : k * limit ≤ n := by
  obtain rfl | hpos := Nat.eq_zero_or_pos k
  · omega
  · have hlt : k < (n + limit - 1) / limit := by
      unfold pages at hk
      omega
    have hle : (k + 1) * limit ≤ n + limit - 1 := (Nat.le_div_iff_mul_le hlimit).mp hlt
    rw [Nat.succ_mul] at hle
    omega

lemma pages_eq_one {limit n : ℕ} (hn : n ≤ limit) : pages limit n = 1 := by
  unfold pages
  obtain rfl | hlimit := Nat.eq_zero_or_pos limit
  · simp
  · have hlt : (n + limit - 1) / limit < 2 := by
      rw [Nat.div_lt_iff_lt_mul hlimit]
      omega
    omega

lemma two_le_pages {limit n : ℕ} (hlimit : 0 < limit) (hn : limit < n) : 2 ≤ pages limit n := by
  have hle : 2 ≤ (n + limit - 1) / limit := by
    rw [Nat.le_div_iff_mul_le hlimit]
    omega
  exact hle.trans (le_max_right _ _)

/-- The pages one after another are the list. -/
theorem flatMap_pages {limit : ℕ} (hlimit : 0 < limit) (l : List α) :
    (List.range (pages limit l.length)).flatMap (fun k => page (k * limit) limit l) = l := by
  rw [flatMap_page, List.take_of_length_le (le_pages_mul hlimit l.length)]

/-- Each page holds as many elements of a kind as the list does exactly if there is one page only or
no element of the kind. -/
theorem countP_pages_iff (p : α → Bool) {limit : ℕ} (hlimit : 0 < limit) (l : List α) :
    (∀ k < pages limit l.length, (page (k * limit) limit l).countP p = l.countP p) ↔
      l.length ≤ limit ∨ l.countP p = 0 := by
  constructor
  · intro h
    by_cases hone : l.length ≤ limit
    · exact .inl hone
    · right
      have htwo := two_le_pages hlimit (Nat.lt_of_not_le hone)
      have hfirst := h 0 (by omega)
      have hsecond := h 1 (by omega)
      have hsplit : l = l.take limit ++ (page (1 * limit) limit l ++ (l.drop limit).drop limit) := by
        rw [page, Nat.one_mul, List.take_append_drop, List.take_append_drop]
      have hcount := congrArg (List.countP p) hsplit
      rw [List.countP_append, List.countP_append, hsecond] at hcount
      rw [page, Nat.zero_mul, List.drop_zero] at hfirst
      omega
  · rintro (hone | hnone) k hk
    · rw [pages_eq_one hone] at hk
      obtain rfl : k = 0 := by omega
      rw [page_eq_self_iff.mpr (.inr ⟨Nat.zero_mul limit, hone⟩)]
    · have hle : (page (k * limit) limit l).countP p ≤ l.countP p := (page_sublist (k * limit) limit l).countP_le
      omega

/-! ## Following a cursor -/

section Follow

variable {κ ε : Type*}

/-- The pages from a cursor on, where each page names the cursor of the next one; none where the
fuel is spent before the last page. -/
def follow (fetch : κ → Except ε (List α × Option κ)) : ℕ → κ → Except ε (Option (List (List α)))
  | 0, _ => .ok none
  | fuel + 1, cursor =>
    match fetch cursor with
    | .error err => .error err
    | .ok (items, none) => .ok (some [items])
    | .ok (items, some next) => (follow fetch fuel next).map (Option.map (items :: ·))

/-- More fuel changes no result. -/
lemma follow_mono {fetch : κ → Except ε (List α × Option κ)} {fuel more : ℕ} (hmore : fuel ≤ more) {cursor : κ}
    {pages : List (List α)} (h : follow fetch fuel cursor = .ok (some pages)) :
    follow fetch more cursor = .ok (some pages) := by
  induction fuel generalizing more cursor pages with
  | zero => simp [follow] at h
  | succ fuel ih =>
    obtain ⟨more, rfl⟩ : ∃ n, more = n + 1 := ⟨more - 1, by omega⟩
    unfold follow at h ⊢
    generalize fetch cursor = reply at h ⊢
    obtain err | ⟨items, - | next⟩ := reply
    · cases h
    · exact h
    · dsimp only at h ⊢
      cases hrest : follow fetch fuel next with
      | error err => simp [hrest, Except.map] at h
      | ok rest =>
        cases rest with
        | none => simp [hrest, Except.map] at h
        | some rest =>
          rw [hrest] at h
          rw [ih (by omega) hrest]
          exact h

/-- Every cursor names a place in the list, and the cursor of the next page the place behind the
page. -/
structure Pages (fetch : κ → Except ε (List α × Option κ)) (place : κ → ℕ) (limit : ℕ) (l : List α) : Prop where
  last : ∀ cursor, place cursor ≤ l.length → l.length ≤ place cursor + limit →
    fetch cursor = .ok (page (place cursor) limit l, none)
  next : ∀ cursor, place cursor + limit < l.length →
    ∃ next, fetch cursor = .ok (page (place cursor) limit l, some next) ∧ place next = place cursor + limit

/-- Pages of which each element is shown in some way. -/
lemma Pages.map {β : Type*} (f : α → β) {fetch : κ → Except ε (List α × Option κ)} {place : κ → ℕ} {limit : ℕ}
    {l : List α} (h : Pages fetch place limit l) :
    Pages (fun cursor => (fetch cursor).map (Prod.map (List.map f) id)) place limit (l.map f) where
  last cursor hplace hend := by
    rw [List.length_map] at hplace hend
    rw [h.last cursor hplace hend, page_map]
    rfl
  next cursor hnext := by
    rw [List.length_map] at hnext
    obtain ⟨next, hfetch, hplace⟩ := h.next cursor hnext
    refine ⟨next, ?_, hplace⟩
    rw [hfetch, page_map]
    rfl

/-- The pages end, and one after another they are the rest of the list. -/
theorem Pages.follow {fetch : κ → Except ε (List α × Option κ)} {place : κ → ℕ} {limit : ℕ} {l : List α}
    (h : Pages fetch place limit l) (fuel : ℕ) (cursor : κ) (hplace : place cursor ≤ l.length)
    (hfuel : l.length < place cursor + fuel * limit) :
    ∃ pages, Paging.follow fetch fuel cursor = .ok (some pages) ∧ pages.flatten = l.drop (place cursor) := by
  induction fuel generalizing cursor with
  | zero => omega
  | succ fuel ih =>
    rw [Nat.succ_mul] at hfuel
    unfold Paging.follow
    by_cases hlast : l.length ≤ place cursor + limit
    · rw [h.last cursor hplace hlast]
      refine ⟨_, rfl, ?_⟩
      rw [List.flatten_singleton, page, List.take_of_length_le]
      rw [List.length_drop]
      omega
    · obtain ⟨next, hfetch, hnext⟩ := h.next cursor (by omega)
      obtain ⟨pages, hpages, hrest⟩ := ih next (by omega) (by omega)
      rw [hfetch]
      refine ⟨page (place cursor) limit l :: pages, ?_, ?_⟩
      · dsimp only
        rw [hpages]
        rfl
      · rw [List.flatten_cons, hrest, hnext, page, ← List.drop_drop, List.take_append_drop]

end Follow

/-! ## Places in a sorted list -/

variable {β : Type*} [LinearOrder β] {f : α → β}

/-- In a list sorted downwards, what stands before an element is what is above it. -/
lemma countP_above {l before after : List α} {a : α} (hsorted : l.Pairwise (fun a b => f b < f a))
    (hl : l = before ++ a :: after) : l.countP (fun b => f a < f b) = before.length := by
  subst hl
  obtain ⟨-, hafter, habove⟩ := List.pairwise_append.mp hsorted
  have hbefore : before.countP (fun b => f a < f b) = before.length := by
    rw [List.countP_eq_length]
    exact fun b hb => decide_eq_true (habove b hb a List.mem_cons_self)
  have hrest : (a :: after).countP (fun b => f a < f b) = 0 := by
    rw [List.countP_eq_zero]
    intro b hb
    rw [decide_eq_true_eq]
    obtain rfl | hb := List.mem_cons.mp hb
    · exact lt_irrefl _
    · exact (List.rel_of_pairwise_cons hafter hb).asymm
  rw [List.countP_append, hbefore, hrest, Nat.add_zero]

/-- Nothing passes the filter from place `k` on exactly if each element that passes it has fewer than
`k` elements above it. -/
theorem filter_drop_eq_nil_iff (p : α → Bool) (k : ℕ) {l : List α} (hsorted : l.Pairwise (fun a b => f b < f a)) :
    (l.drop k).filter p = [] ↔ ∀ a ∈ l.filter p, l.countP (fun b => f a < f b) < k := by
  constructor
  · intro hnone a ha
    obtain ⟨hmem, hp⟩ := List.mem_filter.mp ha
    obtain ⟨before, after, hl⟩ := List.append_of_mem hmem
    rw [countP_above hsorted hl]
    by_contra hk
    have hdrop : a ∈ l.drop k := by
      rw [hl, List.drop_append_of_le_length (Nat.le_of_not_lt hk)]
      exact List.mem_append_right _ List.mem_cons_self
    exact List.not_mem_nil (hnone ▸ List.mem_filter.mpr ⟨hdrop, hp⟩)
  · intro habove
    rw [List.filter_eq_nil_iff]
    intro a ha hp
    obtain ⟨before, after, hdrop⟩ := List.append_of_mem ha
    have hl : l = (l.take k ++ before) ++ a :: after := by
      rw [List.append_assoc, ← hdrop, List.take_append_drop]
    have hcount := habove a (List.mem_filter.mpr ⟨List.mem_of_mem_drop ha, hp⟩)
    rw [countP_above hsorted hl, List.length_append, List.length_take] at hcount
    have hlong : k < l.length := by
      by_contra hshort
      rw [List.drop_eq_nil_of_le (Nat.le_of_not_lt hshort)] at ha
      cases ha
    omega

end Paging
