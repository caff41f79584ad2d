import ErgGo.Notifications.Digests

/-!
# Which users a flush finds

The users are looked up among the 500 newest pending notifications, digested or not. A flush
finds a user who waits for a digest, in whatever order the database leaves notifications of one
time, exactly if fewer than 500 others are in the way of some waiting notification.
-/

namespace ErgGo.Notifications
open Go Documents Bson Concurrent
open Lms (ObjectID)

namespace DigestStore

variable (s : DigestStore)

/-- Users without a preference have digests enabled. -/
def enabled (userID : ObjectID) : Bool :=
  digestFrequency (s.preferences.find? fun pref => pref.userID = userID) ≠ .none

def delivered (id : ObjectID) : Bool := s.outbox.any fun mail => id ∈ mail.included

/-- A pending notification of a user with digests enabled that is in no digest yet. -/
def remaining (n : Notification) : Bool :=
  n.status = .pending && !n.digested && s.enabled n.userID && !s.delivered n.id

def remains (userID : ObjectID) : Bool :=
  s.notifications.docs.any fun n => s.remaining n && n.userID = userID

/-- A notification by which the user is found. -/
def waiting (n : Notification) : Bool := n.status = .pending && !n.digested && s.remains n.userID

/-- The pending notifications that take a place among the newest without a user to be found, from a
time on. -/
def idleSince (t : Time) : ℕ :=
  s.notifications.docs.countP fun n => n.status = .pending && !s.waiting n && t ≤ n.createdAt

/-- If a notification remains, the list of users contains one for whom a notification remains. -/
def FindsWaiting : Prop :=
  (∃ n ∈ s.notifications.docs, s.remaining n) → ∀ now ties order,
    ∃ users, (getUsersWithPendingDigests order).run.alone serve ⟨now, ties, none⟩ s = (.ok users, s) ∧
      ∃ n ∈ s.notifications.docs, s.remaining n ∧ n.userID.hex ∈ users

/-- If a notification remains, fewer than 500 are in the way of some waiting one. -/
def Unhidden : Prop :=
  (∃ n ∈ s.notifications.docs, s.remaining n) →
    ∃ n ∈ s.notifications.docs, s.waiting n ∧ s.idleSince n.createdAt < 500

end DigestStore

section Order

variable {ties : Notification → ℕ}

lemma newer_iff {a b : Notification} :
    newer ties a b = true ↔ b.createdAt < a.createdAt ∨ a.createdAt = b.createdAt ∧ ties a < ties b := by
  unfold newer
  rw [Bool.or_eq_true, Bool.and_eq_true, decide_eq_true_iff, decide_eq_true_iff, decide_eq_true_iff]

/-- Of two notifications in the order of the query, the later one is not the newer one. -/
lemma pairwise_newest (ties : Notification → ℕ) (l : List Notification) :
    (sortSliceStable (newer ties) l).Pairwise fun a b => ¬newer ties b a := by
  have hkeys_total : ∀ (x y : ℤ) (i j : ℕ), ¬(x < y ∨ y = x ∧ j < i) ∨ ¬(y < x ∨ x = y ∧ i < j) := by omega
  have hkeys_trans : ∀ (x y z : ℤ) (i j k : ℕ), ¬(x < y ∨ y = x ∧ j < i) → ¬(y < z ∨ z = y ∧ k < j) →
      ¬(x < z ∨ z = x ∧ k < i) := by omega
  have htotal : Std.Total fun a b => ¬(newer ties b a : Prop) := by
    refine ⟨fun a b => ?_⟩
    rw [newer_iff, newer_iff]
    exact hkeys_total _ _ _ _
  have htrans : IsTrans Notification fun a b => ¬(newer ties b a : Prop) := by
    refine ⟨fun a b c hab hbc => ?_⟩
    rw [newer_iff] at hab hbc ⊢
    exact hkeys_trans _ _ _ _ _ _ hab hbc
  exact l.pairwise_insertionSort _

end Order

namespace DigestStore

variable {s : DigestStore} {ties : Notification → ℕ}

lemma mem_byStatus {status : NotificationStatus} {limit : ℕ} {n : Notification}
    (hn : n ∈ s.byStatus ties status limit) : n ∈ s.notifications.docs ∧ n.status = status := by
  have hsorted := (sortSliceStable_perm _ _).mem_iff.mp (List.mem_of_mem_take hn)
  obtain ⟨hstored, hstatus⟩ := List.mem_filter.mp hsorted
  exact ⟨hstored, of_decide_eq_true hstatus⟩

/-- The list of users, read in one state. -/
lemma alone_getUsers (order : String → ℕ) (now : Time) (ties : Notification → ℕ) (s : DigestStore) :
    (getUsersWithPendingDigests order).run.alone serve ⟨now, ties, none⟩ s =
      (.ok (usersOf order (s.byStatus ties .pending 500)), s) :=
  rfl

lemma mem_usersOf {order : String → ℕ} {l : List Notification} {userID : String} :
    userID ∈ usersOf order l ↔ ∃ n ∈ l, n.digested = false ∧ n.userID.hex = userID := by
  unfold usersOf
  rw [(sortSliceStable_perm _ _).mem_iff, List.mem_dedup, List.mem_map]
  simp only [List.mem_filter, Bool.not_eq_true', and_assoc]

lemma waiting_iff {n : Notification} :
    s.waiting n ↔ n.status = .pending ∧ n.digested = false ∧
      ∃ r ∈ s.notifications.docs, s.remaining r ∧ r.userID = n.userID := by
  unfold waiting remains
  simp only [Bool.and_eq_true, decide_eq_true_eq, Bool.not_eq_true', List.any_eq_true, and_assoc]

/-- The list names a user with a remaining notification exactly if a waiting one is among the 500. -/
lemma finds_iff_window (order : String → ℕ) :
    (∃ n ∈ s.notifications.docs, s.remaining n ∧ n.userID.hex ∈ usersOf order (s.byStatus ties .pending 500)) ↔
      ∃ n ∈ s.byStatus ties .pending 500, s.waiting n := by
  constructor
  · rintro ⟨r, hr, hremaining, huser⟩
    obtain ⟨n, hn, hdigested, hsame⟩ := mem_usersOf.mp huser
    refine ⟨n, hn, waiting_iff.mpr ⟨(mem_byStatus hn).2, hdigested, r, hr, hremaining, ?_⟩⟩
    exact ObjectID.hex_injective hsame.symm
  · rintro ⟨n, hn, hwaiting⟩
    obtain ⟨-, hdigested, r, hr, hremaining, hsame⟩ := waiting_iff.mp hwaiting
    exact ⟨r, hr, hremaining, mem_usersOf.mpr ⟨n, hn, hdigested, by rw [hsame]⟩⟩

/-- The pending notifications in the way, counted in the order of the query. -/
lemma idleSince_eq (ties : Notification → ℕ) (t : Time) :
    s.idleSince t = (sortSliceStable (newer ties) (s.notifications.docs.filter fun n => n.status = .pending)).countP
      fun n => !s.waiting n && t ≤ n.createdAt := by
  rw [(sortSliceStable_perm _ _).countP_eq, List.countP_filter]
  unfold idleSince
  refine List.countP_congr fun n _ => ?_
  simp only [Bool.and_eq_true, decide_eq_true_eq]
  tauto

/-- With fewer than 500 in its way, a waiting notification is among the 500 or another one is. -/
lemma window_of_unhidden {m : Notification} (hm : m ∈ s.notifications.docs) (hwaiting : s.waiting m)
    (hfew : s.idleSince m.createdAt < 500) (ties : Notification → ℕ) :
    ∃ n ∈ s.byStatus ties .pending 500, s.waiting n := by
  by_contra hnone
  have hidle : ∀ n ∈ s.byStatus ties .pending 500, s.waiting n = false := by
    intro n hn
    by_contra hwait
    exact hnone ⟨n, hn, Bool.eq_true_of_not_eq_false hwait⟩
  have hsorted := pairwise_newest ties (s.notifications.docs.filter fun n => n.status = .pending)
  rw [idleSince_eq ties] at hfew
  unfold byStatus at hidle
  generalize hl : sortSliceStable (newer ties) (s.notifications.docs.filter fun n => n.status = .pending) = l
    at hidle hsorted hfew
  have hml : m ∈ l := by
    rw [← hl, (sortSliceStable_perm _ _).mem_iff, List.mem_filter]
    exact ⟨hm, decide_eq_true (waiting_iff.mp hwaiting).1⟩
  have hrest : m ∈ l.drop 500 := by
    rw [← List.take_append_drop 500 l, List.mem_append] at hml
    obtain hwindow | hrest := hml
    · rw [hidle m hwindow] at hwaiting
      cases hwaiting
    · exact hrest
  have hfull : (l.take 500).length = 500 := by
    have hlong := List.length_pos_of_mem hrest
    rw [List.length_drop] at hlong
    rw [List.length_take]
    omega
  have hcount : (l.take 500).countP (fun n => !s.waiting n && m.createdAt ≤ n.createdAt) = 500 := by
    refine (List.countP_eq_length.mpr fun n hn => ?_).trans hfull
    rw [← List.take_append_drop 500 l, List.pairwise_append] at hsorted
    have hnewer := hsorted.2.2 n hn m hrest
    rw [newer_iff] at hnewer
    rw [hidle n hn, Bool.not_false, Bool.true_and, decide_eq_true_iff]
    exact not_lt.mp fun hlt => hnewer (.inl hlt)
  have hmore := (List.take_sublist 500 l).countP_le (p := fun n => !s.waiting n && m.createdAt ≤ n.createdAt)
  omega

/-- Notifications in the way come first among those of one time. -/
def idleFirst (s : DigestStore) (n : Notification) : ℕ := if s.waiting n then 1 else 0

/-- A waiting notification among the 500, though those in the way come first. -/
lemma unhidden_of_window {n : Notification} (hn : n ∈ s.byStatus s.idleFirst .pending 500) (hwaiting : s.waiting n) :
    s.idleSince n.createdAt < 500 := by
  have hsorted := pairwise_newest s.idleFirst (s.notifications.docs.filter fun n => n.status = .pending)
  rw [idleSince_eq s.idleFirst]
  unfold byStatus at hn
  generalize sortSliceStable (newer s.idleFirst) (s.notifications.docs.filter fun n => n.status = .pending) = l
    at hn hsorted
  obtain ⟨i, hi, hget⟩ := List.getElem_of_mem hn
  rw [List.length_take] at hi
  rw [List.getElem_take] at hget
  have hil : i < l.length := by omega
  have hrest : (l.drop i).countP (fun x => !s.waiting x && n.createdAt ≤ x.createdAt) = 0 := by
    rw [List.countP_eq_zero]
    intro x hx hidle
    rw [Bool.and_eq_true, Bool.not_eq_true', decide_eq_true_iff] at hidle
    rw [List.drop_eq_getElem_cons hil, hget, List.mem_cons] at hx
    obtain rfl | hx := hx
    · rw [hidle.1] at hwaiting
      cases hwaiting
    · rw [← List.take_append_drop i l, List.pairwise_append, List.drop_eq_getElem_cons hil, hget,
        List.pairwise_cons] at hsorted
      have hnewer := hsorted.2.1.1 x hx
      rw [newer_iff] at hnewer
      unfold idleFirst at hnewer
      rw [hidle.1, if_neg Bool.false_ne_true, if_pos hwaiting] at hnewer
      exact hnewer ((lt_or_eq_of_le hidle.2).imp_right fun hsame => ⟨hsame.symm, Nat.zero_lt_one⟩)
  have hsplit : l.countP (fun x => !s.waiting x && n.createdAt ≤ x.createdAt) =
      (l.take i).countP (fun x => !s.waiting x && n.createdAt ≤ x.createdAt) := by
    rw [← List.take_append_drop i l, List.countP_append, List.take_append_drop, hrest, Nat.add_zero]
  rw [hsplit]
  have hle := List.countP_le_length (p := fun x => !s.waiting x && n.createdAt ≤ x.createdAt) (l := l.take i)
  rw [List.length_take] at hle
  omega

theorem findsWaiting_iff (s : DigestStore) : s.FindsWaiting ↔ s.Unhidden := by
  refine imp_congr_right fun hremaining => ?_
  simp only [alone_getUsers]
  constructor
  · intro hfinds
    obtain ⟨users, husers, hfound⟩ := hfinds 0 s.idleFirst fun _ => 0
    obtain rfl := Except.ok.inj (Prod.mk.inj husers).1
    obtain ⟨n, hn, hwaiting⟩ := (finds_iff_window _).mp hfound
    exact ⟨n, (mem_byStatus hn).1, hwaiting, unhidden_of_window hn hwaiting⟩
  · rintro ⟨n, hn, hwaiting, hfew⟩ now ties order
    exact ⟨_, rfl, (finds_iff_window order).mpr (window_of_unhidden hn hwaiting hfew ties)⟩

end DigestStore

end ErgGo.Notifications
