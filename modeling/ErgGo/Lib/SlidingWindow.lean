import Mathlib.Algebra.Order.Group.Int
import Mathlib.Algebra.Order.Ring.Int
import Mathlib.Data.List.Basic
import Mathlib.Tactic.Linarith

/-!
# Sliding windows

A limiter that keeps a log of the times it has admitted, looks at those within a window before
the next call, and admits the call if there are fewer than the limit. Times are the points of
any linear order with subtraction; they must not decrease.
-/

namespace SlidingWindow

/-- What of a log is less than a window old. -/
def recent (window : ℤ) (log : List ℤ) (now : ℤ) : List ℤ := log.filter (fun t => now - window < t)

def admits (limit window : ℤ) (log : List ℤ) (now : ℤ) : Bool := ((recent window log now).length : ℤ) < limit

/-- The log after a call. -/
def next (limit window : ℤ) (log : List ℤ) (now : ℤ) : List ℤ :=
  if admits limit window log now then recent window log now ++ [now] else recent window log now

def decisions (limit window : ℤ) (log : List ℤ) : List ℤ → List Bool
  | [] => []
  | now :: times => admits limit window log now :: decisions limit window (next limit window log now) times

/-- The times of the calls that were allowed. -/
def admitted : List ℤ → List Bool → List ℤ
  | now :: times, true :: allowed => now :: admitted times allowed
  | _ :: times, false :: allowed => admitted times allowed
  | _, _ => []

/-- What a limit on calls in a window promises. -/
structure Limits (limit window : ℤ) (times : List ℤ) (allowed : List Bool) : Prop where
  answered : allowed.length = times.length
  /-- In no half-open interval of the window's length are more calls allowed than the limit. -/
  bounded : ∀ start, ((admitted times allowed).countP (fun t => start ≤ t ∧ t < start + window) : ℤ) ≤ limit ∧
    ((admitted times allowed).countP (fun t => start < t ∧ t ≤ start + window) : ℤ) ≤ limit
  /-- A call is denied only if as many as the limit were allowed in the window before it. -/
  denied : ∀ i now, times[i]? = some now → allowed[i]? = some false →
    limit ≤ ((admitted (times.take i) (allowed.take i)).countP (fun t => now - window < t) : ℤ)

variable {limit window now last : ℤ} {log past : List ℤ}

lemma length_decisions (times : List ℤ) : (decisions limit window log times).length = times.length := by
  induction times generalizing log with
  | nil => rfl
  | cons now times ih => rw [decisions, List.length_cons, List.length_cons, ih]

/-- What has left the window does not come back. -/
lemma recent_recent (hle : last ≤ now) : recent window (recent window log last) now = recent window log now := by
  unfold recent
  rw [List.filter_filter]
  refine List.filter_congr fun t _ => ?_
  rw [Bool.eq_iff_iff]
  simp only [Bool.and_eq_true, decide_eq_true_eq]
  omega

lemma recent_append (log log' : List ℤ) :
    recent window (log ++ log') now = recent window log now ++ recent window log' now := List.filter_append ..

/-- From `last` on the log counts the same calls as the past. -/
def Tracks (window : ℤ) (log past : List ℤ) (last : ℤ) : Prop :=
  ∀ now, last ≤ now → recent window log now = recent window past now

lemma Tracks.refl (log : List ℤ) (last : ℤ) : Tracks window log log last := fun _ _ => rfl

/-- The past after a call. -/
def extend (past : List ℤ) (now : ℤ) (allowed : Bool) : List ℤ := if allowed then past ++ [now] else past

lemma Tracks.next (h : Tracks window log past last) (hle : last ≤ now) :
    Tracks window (next limit window log now) (extend past now (admits limit window log now)) now := by
  intro later hlater
  unfold SlidingWindow.next extend
  split
  · rw [recent_append, recent_append, recent_recent hlater, h later (hle.trans hlater)]
  · rw [recent_recent hlater, h later (hle.trans hlater)]

/-- A set of times less than a window apart. -/
def Narrow (window : ℤ) (p : ℤ → Bool) : Prop := ∀ s t, p s → p t → t - window < s

lemma Narrow.countP_le {p : ℤ → Bool} (hp : Narrow window p) (hnow : p now) :
    past.countP p ≤ (recent window past now).length := by
  rw [recent, ← List.countP_eq_length_filter]
  refine List.countP_mono_left fun t _ ht => ?_
  exact decide_eq_true (hp t now ht hnow)

lemma countP_extend {p : ℤ → Bool} (hp : Narrow window p) (h : Tracks window log past last) (hle : last ≤ now)
    (hbound : (past.countP p : ℤ) ≤ limit) :
    ((extend past now (admits limit window log now)).countP p : ℤ) ≤ limit := by
  unfold extend
  split
  · next hadmits =>
    rw [List.countP_append, List.countP_singleton]
    by_cases hnow : p now
    · have hfew : ((recent window log now).length : ℤ) < limit := by simpa [admits] using hadmits
      have hcount : past.countP p ≤ (recent window past now).length := hp.countP_le hnow
      rw [h now hle] at hfew
      rw [if_pos hnow]
      omega
    · rw [if_neg hnow]
      simpa using hbound
  · exact hbound

lemma append_admitted (past times : List ℤ) (now : ℤ) (allowed : List Bool) (a : Bool) :
    past ++ admitted (now :: times) (a :: allowed) = extend past now a ++ admitted times allowed := by
  cases a with
  | false => rfl
  | true => simp [admitted, extend]

/-- The bound, kept through a run. -/
lemma bounded_decisions {times : List ℤ} (hsorted : (last :: times).Pairwise (· ≤ ·))
    (h : Tracks window log past last) {p : ℤ → Bool} (hp : Narrow window p) (hbound : (past.countP p : ℤ) ≤ limit) :
    ((past ++ admitted times (decisions limit window log times)).countP p : ℤ) ≤ limit := by
  induction times generalizing log past last with
  | nil => simpa [admitted, decisions] using hbound
  | cons now times ih =>
    obtain ⟨hlast, hsorted⟩ := List.pairwise_cons.mp hsorted
    have hle : last ≤ now := hlast now (by simp)
    rw [decisions, append_admitted]
    exact ih hsorted (h.next hle) (countP_extend hp h hle hbound)

/-- The reason for a denial, found in the past of a run. -/
lemma denied_decisions {times : List ℤ} (hsorted : (last :: times).Pairwise (· ≤ ·))
    (h : Tracks window log past last) {i : ℕ} (hi : times[i]? = some now)
    (hdenied : (decisions limit window log times)[i]? = some false) :
    limit ≤ ((past ++ admitted (times.take i) ((decisions limit window log times).take i)).countP
      (fun t => now - window < t) : ℤ) := by
  induction times generalizing log past last i with
  | nil => simp at hi
  | cons first times ih =>
    obtain ⟨hlast, hsorted⟩ := List.pairwise_cons.mp hsorted
    have hle : last ≤ first := hlast first (by simp)
    cases i with
    | zero =>
      obtain rfl : first = now := by simpa using hi
      have hfull : limit ≤ ((recent window log first).length : ℤ) := by simpa [decisions, admits] using hdenied
      rw [h first hle] at hfull
      simpa [admitted, recent, List.countP_eq_length_filter] using hfull
    | succ i =>
      rw [decisions] at hdenied ⊢
      rw [List.take_succ_cons, List.take_succ_cons, append_admitted]
      exact ih hsorted (h.next hle) (by simpa using hi) (by simpa using hdenied)

/-- A limiter with a log keeps its limit, for calls at times that do not decrease. -/
theorem limits_decisions (hlimit : 0 ≤ limit) {times : List ℤ} (hsorted : times.Pairwise (· ≤ ·)) :
    Limits limit window times (decisions limit window [] times) := by
  cases times with
  | nil => exact ⟨rfl, fun _ => ⟨hlimit, hlimit⟩, fun i now hi => by simp at hi⟩
  | cons first times =>
    have hstart : (first :: first :: times).Pairwise (· ≤ ·) := by
      refine List.pairwise_cons.mpr ⟨fun t ht => ?_, hsorted⟩
      obtain rfl | ht := List.mem_cons.mp ht
      · exact le_refl t
      · exact List.rel_of_pairwise_cons hsorted ht
    refine ⟨length_decisions _, fun start => ⟨?_, ?_⟩, fun i now hi hdenied => ?_⟩
    · refine bounded_decisions hstart (Tracks.refl [] first) ?_ hlimit
      intro s t hs ht
      simp only [decide_eq_true_eq] at hs ht
      omega
    · refine bounded_decisions hstart (Tracks.refl [] first) ?_ hlimit
      intro s t hs ht
      simp only [decide_eq_true_eq] at hs ht
      omega
    · exact denied_decisions hstart (Tracks.refl [] first) hi hdenied

/-- The unit in which time is counted does not matter. -/
lemma decisions_scale {c : ℤ} (hc : 0 < c) (log times : List ℤ) :
    decisions limit (c * window) (log.map (c * ·)) (times.map (c * ·)) = decisions limit window log times := by
  have hrecent : ∀ log now, recent (c * window) (log.map (c * ·)) (c * now) = (recent window log now).map (c * ·) := by
    intro log now
    unfold recent
    rw [List.filter_map]
    refine congrArg _ (List.filter_congr fun t _ => ?_)
    have hscale : c * now - c * window < c * t ↔ now - window < t := by
      rw [← mul_sub]
      exact mul_lt_mul_iff_right₀ hc
    simp [hscale]
  induction times generalizing log with
  | nil => rfl
  | cons now times ih =>
    have hadmits : admits limit (c * window) (log.map (c * ·)) (c * now) = admits limit window log now := by
      unfold admits
      rw [hrecent, List.length_map]
    have hnext : next limit (c * window) (log.map (c * ·)) (c * now) = (next limit window log now).map (c * ·) := by
      unfold next
      rw [hadmits, hrecent]
      split <;> simp
    rw [List.map_cons, decisions, decisions, hadmits, hnext, ih]

/-! ## Coarse clocks -/

lemma admitted_map (f : ℤ → ℤ) (times : List ℤ) (allowed : List Bool) :
    admitted (times.map f) allowed = (admitted times allowed).map f := by
  induction times generalizing allowed with
  | nil => rfl
  | cons now times ih =>
    cases allowed with
    | nil => rfl
    | cons a allowed => cases a <;> simp [admitted, ih]

lemma admitted_sublist (times : List ℤ) (allowed : List Bool) : (admitted times allowed).Sublist times := by
  induction times generalizing allowed with
  | nil => exact List.Sublist.refl []
  | cons now times ih =>
    cases allowed with
    | nil => exact List.nil_sublist _
    | cons a allowed =>
      cases a with
      | false => exact (ih allowed).cons now
      | true => exact (ih allowed).cons_cons now

/-- Times that are less than a window apart are so on the clock, whose windows have another length. -/
def KeepsWindow (clock : ℤ → ℤ) (window window' : ℤ) (times : List ℤ) : Prop :=
  ∀ s ∈ times, ∀ t ∈ times, s ≤ t → t < s + window → clock t < clock s + window'

instance (clock : ℤ → ℤ) (window window' : ℤ) (times : List ℤ) : Decidable (KeepsWindow clock window window' times) :=
  inferInstanceAs (Decidable (∀ s ∈ times, ∀ t ∈ times, s ≤ t → t < s + window → clock t < clock s + window'))

section Clock

variable {clock : ℤ → ℤ} {window' : ℤ} {times : List ℤ} {allowed : List Bool}

/-- Of times less than a window apart no more are admitted than a limiter on the clock admits. -/
lemma KeepsWindow.countP_le (hkeeps : KeepsWindow clock window window' times)
    (hmono : ∀ {s t}, s ≤ t → clock s ≤ clock t)
    (hsorted : times.Pairwise (· ≤ ·)) (hlimit : 0 ≤ limit) (h : Limits limit window' (times.map clock) allowed)
    {p : ℤ → Bool} (hp : Narrow window p) : ((admitted times allowed).countP p : ℤ) ≤ limit := by
  have hsub := admitted_sublist times allowed
  have hfiltered : ((admitted times allowed).filter p).Pairwise (· ≤ ·) := (hsorted.sublist hsub).filter p
  rw [List.countP_eq_length_filter]
  cases hin : (admitted times allowed).filter p with
  | nil => exact hlimit
  | cons first rest =>
    rw [hin] at hfiltered
    have hmem : ∀ t ∈ first :: rest, t ∈ times ∧ p t := by
      intro t ht
      obtain ⟨hadmitted, hpt⟩ := List.mem_filter.mp (hin ▸ ht)
      exact ⟨hsub.subset hadmitted, hpt⟩
    obtain ⟨hfirst, hpfirst⟩ := hmem first List.mem_cons_self
    have hbound := (h.bounded (clock first)).1
    rw [admitted_map, List.countP_map] at hbound
    refine le_trans ?_ hbound
    rw [← hin, ← List.countP_eq_length_filter, Int.ofNat_le]
    refine List.countP_mono_left fun t ht hpt => ?_
    have hlate : first ≤ t := by
      obtain rfl | ht := List.mem_cons.mp (hin ▸ List.mem_filter.mpr ⟨ht, hpt⟩)
      · exact le_refl t
      · exact List.rel_of_pairwise_cons hfiltered ht
    have hnear := hp first t hpfirst hpt
    exact decide_eq_true ⟨hmono hlate, hkeeps first hfirst t (hsub.subset ht) hlate (by omega)⟩

/-- A limiter on a clock keeps the limit in time as well, if the clock keeps times of a window together. -/
theorem Limits.of_clock (h : Limits limit window' (times.map clock) allowed) (hlimit : 0 ≤ limit)
    (hsorted : times.Pairwise (· ≤ ·)) (hmono : ∀ {s t}, s ≤ t → clock s ≤ clock t)
    (hkeeps : KeepsWindow clock window window' times)
    (hlate : ∀ s t, clock t - window' < clock s → t - window < s) : Limits limit window times allowed := by
  refine ⟨h.answered.trans (List.length_map _), fun start => ⟨?_, ?_⟩, fun i now hi hdenied => ?_⟩
  · refine hkeeps.countP_le hmono hsorted hlimit h fun s t hs ht => ?_
    simp only [decide_eq_true_eq] at hs ht
    omega
  · refine hkeeps.countP_le hmono hsorted hlimit h fun s t hs ht => ?_
    simp only [decide_eq_true_eq] at hs ht
    omega
  · have hfull := h.denied i (clock now) (by rw [List.getElem?_map, hi]; rfl) hdenied
    rw [← List.map_take, admitted_map, List.countP_map] at hfull
    refine hfull.trans (Int.ofNat_le.mpr (List.countP_mono_left fun t _ ht => ?_))
    exact decide_eq_true (hlate t now (of_decide_eq_true ht))

end Clock

end SlidingWindow
