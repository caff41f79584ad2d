import Mathlib.Algebra.Order.Group.Int
import Mathlib.Data.List.Sort

/-!
# Sorted sets with an expiry

A Redis sorted set under one key: members with scores, and the time at which the key expires.
A key without members does not exist, and has no expiry.
-/

namespace Redis

structure SortedSet where
  entries : List (ℤ × String) := []
  expireAt : Option ℤ := none
  deriving DecidableEq

namespace SortedSet

/-- The set as a command sees it that runs at `now`. -/
def unexpired (now : ℤ) (s : SortedSet) : SortedSet := if s.expireAt.any (· < now) then {} else s

/-- `ZREMRANGEBYSCORE`. -/
def zRemRangeByScore (min max : ℤ) (s : SortedSet) : SortedSet :=
  let entries := s.entries.filter (fun entry => !(min ≤ entry.1 && entry.1 ≤ max))
  if entries.isEmpty then {} else { s with entries := entries }

/-- `ZCARD`. -/
def zCard (s : SortedSet) : ℤ := s.entries.length

/-- `ZADD`: a member that is there gets the new score. -/
def zAdd (score : ℤ) (member : String) (s : SortedSet) : SortedSet :=
  { s with entries := s.entries.filter (fun entry => entry.2 ≠ member) ++ [(score, member)] }

/-- `PEXPIRE`: a time to live that is not positive deletes the key. -/
def pExpire (now ttl : ℤ) (s : SortedSet) : SortedSet :=
  if ttl ≤ 0 then {} else { s with expireAt := some (now + ttl) }

/-- `ZRANGE 0 0 WITHSCORES`: the entry with the least score, the least member among equals. -/
def zRangeFirst (s : SortedSet) : Option (ℤ × String) :=
  (s.entries.mergeSort (fun a b => a.1 < b.1 || (a.1 = b.1 && a.2 ≤ b.2))).head?

def scores (s : SortedSet) : List ℤ := s.entries.map Prod.fst

/-- What is left of the set when the scores up to a window before `now` are removed. -/
def withinWindow (window now : ℤ) (s : SortedSet) : SortedSet := (s.unexpired now).zRemRangeByScore 0 (now - window)

variable {window now later last : ℤ} {s : SortedSet} {log : List ℤ}

lemma zRemRangeByScore_entries (min max : ℤ) (s : SortedSet) :
    (s.zRemRangeByScore min max).entries = s.entries.filter (fun entry => !(min ≤ entry.1 && entry.1 ≤ max)) := by
  unfold zRemRangeByScore
  dsimp only
  split
  · next hempty => exact (List.isEmpty_iff.mp hempty).symm
  · rfl

lemma withinWindow_entries : (s.withinWindow window now).entries =
    if s.expireAt.any (· < now) then [] else s.entries.filter (fun entry => !(0 ≤ entry.1 && entry.1 ≤ now - window)) := by
  unfold withinWindow unexpired
  rw [zRemRangeByScore_entries]
  split <;> rfl

lemma filter_withinWindow (hle : now ≤ later) (entries : List (ℤ × String)) :
    (entries.filter (fun entry => !(0 ≤ entry.1 && entry.1 ≤ now - window))).filter
      (fun entry => !(0 ≤ entry.1 && entry.1 ≤ later - window)) =
    entries.filter (fun entry => !(0 ≤ entry.1 && entry.1 ≤ later - window)) := by
  rw [List.filter_filter]
  refine List.filter_congr fun entry _ => ?_
  rw [Bool.eq_iff_iff]
  simp only [Bool.and_eq_true, Bool.not_eq_true', Bool.and_eq_false_iff, decide_eq_false_iff_not]
  omega

lemma expired_of_le (hle : now ≤ later) (h : s.expireAt.any (· < now) = true) : s.expireAt.any (· < later) = true := by
  cases hexpire : s.expireAt with
  | none => simp [hexpire] at h
  | some time =>
    simp only [hexpire, Option.any_some, decide_eq_true_eq] at h ⊢
    omega

/-- What has left the window does not come back. -/
lemma withinWindow_withinWindow (hle : now ≤ later) :
    ((s.withinWindow window now).withinWindow window later).entries = (s.withinWindow window later).entries := by
  have hfilter : (s.entries.filter (fun entry => !(0 ≤ entry.1 && entry.1 ≤ now - window))).filter
      (fun entry => !(0 ≤ entry.1 && entry.1 ≤ later - window)) =
      s.entries.filter (fun entry => !(0 ≤ entry.1 && entry.1 ≤ later - window)) :=
    filter_withinWindow hle s.entries
  by_cases hexpired : s.expireAt.any (· < now) = true
  · have hgone : s.withinWindow window now = {} := by
      simp [withinWindow, unexpired, hexpired, zRemRangeByScore]
    rw [hgone, withinWindow_entries, withinWindow_entries, if_pos (expired_of_le hle hexpired)]
    rfl
  · have hkept : s.withinWindow window now = s.zRemRangeByScore 0 (now - window) := by
      rw [withinWindow, unexpired, if_neg hexpired]
    rw [hkept, withinWindow_entries, withinWindow_entries, zRemRangeByScore_entries, hfilter]
    unfold zRemRangeByScore
    dsimp only
    split
    · next hempty =>
      rw [List.isEmpty_iff.mp hempty] at hfilter
      rw [← hfilter]
      simp
    · rfl

lemma zAdd_new {score : ℤ} {member : String} (h : member ∉ s.entries.map Prod.snd) :
    (s.zAdd score member).entries = s.entries ++ [(score, member)] := by
  have hkept : s.entries.filter (fun entry => entry.2 ≠ member) = s.entries := by
    rw [List.filter_eq_self]
    intro entry hentry
    exact decide_eq_true (fun heq => h (heq ▸ List.mem_map_of_mem hentry))
  rw [zAdd, hkept]

lemma members_zAdd {score : ℤ} {member m : String} (h : m ∈ (s.zAdd score member).entries.map Prod.snd) :
    m = member ∨ m ∈ s.entries.map Prod.snd := by
  rw [zAdd, List.map_append, List.mem_append] at h
  obtain h | h := h
  · obtain ⟨entry, hentry, rfl⟩ := List.mem_map.mp h
    exact .inr (List.mem_map_of_mem (List.mem_filter.mp hentry).1)
  · exact .inl (by simpa using h)

/-- A member added with a time to live of one window stays until its score leaves the window. -/
lemma scores_zAdd_pExpire {member : String} (hnew : member ∉ s.entries.map Prod.snd) (hnow : 0 ≤ now)
    (hscores : ∀ score ∈ s.scores, 0 ≤ score ∧ score ≤ now) (hle : now ≤ later) :
    (((s.zAdd now member).pExpire now window).withinWindow window later).scores =
      (s.scores ++ [now]).filter (fun score => later - window < score) := by
  have hadded : (s.zAdd now member).scores = s.scores ++ [now] := by
    rw [scores, zAdd_new hnew, List.map_append]
    rfl
  have hbounds : ∀ score ∈ s.scores ++ [now], 0 ≤ score ∧ score ≤ now := by
    intro score hscore
    obtain hscore | hscore := List.mem_append.mp hscore
    · exact hscores score hscore
    · rw [List.mem_singleton.mp hscore]
      exact ⟨hnow, le_refl now⟩
  unfold pExpire
  split
  · have hnone : (s.scores ++ [now]).filter (fun score => later - window < score) = [] := by
      rw [List.filter_eq_nil_iff]
      intro score hscore
      have hbound := hbounds score hscore
      simp only [decide_eq_true_eq]
      omega
    rw [hnone]
    rfl
  · rw [scores, withinWindow_entries, Option.any_some]
    by_cases hexpired : now + window < later
    · have hnone : (s.scores ++ [now]).filter (fun score => later - window < score) = [] := by
        rw [List.filter_eq_nil_iff]
        intro score hscore
        have hbound := hbounds score hscore
        simp only [decide_eq_true_eq]
        omega
      rw [hnone, if_pos (decide_eq_true hexpired)]
      rfl
    · rw [if_neg (by simpa using hexpired), ← hadded, scores, List.filter_map]
      refine congrArg _ (List.filter_congr fun entry hentry => ?_)
      have hbound := hbounds entry.1 (hadded ▸ List.mem_map_of_mem hentry)
      rw [Bool.eq_iff_iff]
      simp only [Bool.not_eq_true', Bool.and_eq_false_iff, decide_eq_false_iff_not, Function.comp_apply,
        decide_eq_true_eq]
      omega

end SortedSet

end Redis
