import ErgGo.Lms.AssignmentRecipients
import ErgGo.Lms.AttemptInvariants

/-!
# The progress of an assignment

Two counts over the attempts of one assignment: the report counts students by their first listed
attempt, the dashboard counts recipients by their latest one. The listing is by decreasing update
time, so both look at the same attempt of a student.
-/

namespace ErgGo.Lms
open Go Documents Concurrent Program

structure AssignmentProgressResponse where
  submitted : ℕ := 0
  inProgress : ℕ := 0
  notStarted : ℤ := 0
  deriving DecidableEq

structure DashboardAssignmentProgress where
  totalStudents : ℕ := 0
  submitted : ℕ := 0
  inProgress : ℕ := 0
  notStarted : ℤ := 0
  needsReview : ℕ := 0
  overdue : ℕ := 0
  completionPercent : Float64 := 0
  latestByStudent : GoMap Attempt := ∅

def supportScoreThreshold : Float64 := 60

def assignmentHasStudent (assignment : Assignment) (studentID : String) : Bool :=
  assignment.studentIDs.any (fun id => id.hex = studentID)

def attemptIsSubmitted (attempt : Attempt) : Bool := equalFold attempt.status "submitted"

def attemptActivityAt (attempt : Attempt) : Time :=
  if attempt.updatedAt ≠ 0 then attempt.updatedAt else attempt.submittedAt.getD attempt.startedAt

def Assignment.overdue (assignment : Assignment) (now : Time) : Bool := assignment.dueAt.any (fun due => due < now)

section Counts

variable [Library]

def attemptNeedsReview (attempt : Attempt) : Bool :=
  let status := toLower (trimSpace attempt.status)
  status = "needs_review" || status = "review" || attemptIsSubmitted attempt && attempt.percent < supportScoreThreshold

/-- The attempts of an assignment as `ListAttempts` returns them. -/
def Records.listAttempts (R : Records) (tenantID : String) (assignmentID : ObjectID) : List Attempt :=
  Library.sortSlice (fun a b => a.updatedAt > b.updatedAt)
    (R.attempts.filter (fun a => a.tenantID = tenantID && a.assignmentID = assignmentID))

/-- One round of the loop in `AssignmentProgress`, with the students seen. -/
def progressRound (state : AssignmentProgressResponse × List String) (attempt : Attempt) :
    AssignmentProgressResponse × List String :=
  let (progress, seen) := state
  let studentKey := attempt.studentID.hex
  if studentKey ∈ seen then state
  else
    let progress := { progress with notStarted := progress.notStarted - 1 }
    if attempt.status = "submitted" then ({ progress with submitted := progress.submitted + 1 }, studentKey :: seen)
    else ({ progress with inProgress := progress.inProgress + 1 }, studentKey :: seen)

def countProgress (assignment : Assignment) (attempts : List Attempt) : AssignmentProgressResponse :=
  (attempts.foldl progressRound ({ notStarted := assignment.studentIDs.length }, [])).1

def Service.assignmentProgress (R : Records) (tenantID assignmentID : String) :
    Except LmsError AssignmentProgressResponse := do
  let oid ← objectID assignmentID
  let assignment ← required (R.getAssignment tenantID oid)
  return countProgress assignment (R.listAttempts tenantID assignment.id)

/-- Keeps the latest attempt of each recipient. -/
def latestRound (assignment : Assignment) (latest : GoMap Attempt) (attempt : Attempt) : GoMap Attempt :=
  let studentID := attempt.studentID.hex
  if !assignmentHasStudent assignment studentID then latest
  else
    match latest.lookup studentID with
    | none => latest.insert studentID attempt
    | some current =>
      if attemptActivityAt attempt > attemptActivityAt current then latest.insert studentID attempt else latest

/-- Counts one recipient. -/
def recipientRound (assignment : Assignment) (now : Time) (progress : DashboardAssignmentProgress)
    (studentID : ObjectID) : DashboardAssignmentProgress :=
  match progress.latestByStudent.lookup studentID.hex with
  | none => if assignment.overdue now then { progress with overdue := progress.overdue + 1 } else progress
  | some attempt =>
    let progress := { progress with notStarted := progress.notStarted - 1 }
    let progress :=
      if attemptIsSubmitted attempt then { progress with submitted := progress.submitted + 1 }
      else { progress with
        inProgress := progress.inProgress + 1
        overdue := if assignment.overdue now then progress.overdue + 1 else progress.overdue }
    if attemptNeedsReview attempt then { progress with needsReview := progress.needsReview + 1 } else progress

def summarizeDashboardAssignment (assignment : Assignment) (attempts : List Attempt) (now : Time) :
    DashboardAssignmentProgress :=
  let progress := assignment.studentIDs.foldl (recipientRound assignment now)
    { totalStudents := assignment.studentIDs.length
      notStarted := assignment.studentIDs.length
      latestByStudent := attempts.foldl (latestRound assignment) ∅ }
  if progress.totalStudents > 0 then
    { progress with completionPercent := .ofLen progress.submitted / .ofLen progress.totalStudents * 100 }
  else progress

/-! ## The attempt that counts -/

/-- The attempt of a student that is listed first. -/
def firstAttempt (attempts : List Attempt) (studentID : ObjectID) : Option Attempt :=
  attempts.find? (fun a => a.studentID = studentID)

omit [Library] in
lemma firstAttempt_append (attempts : List Attempt) (attempt : Attempt) (studentID : ObjectID) :
    firstAttempt (attempts ++ [attempt]) studentID =
      (firstAttempt attempts studentID).or (if attempt.studentID = studentID then some attempt else none) := by
  unfold firstAttempt
  rw [List.find?_append]
  by_cases h : attempt.studentID = studentID <;> simp [h]

omit [Library] in
lemma firstAttempt_eq_none_iff {attempts : List Attempt} {studentID : ObjectID} :
    firstAttempt attempts studentID = none ↔ studentID ∉ attempts.map Attempt.studentID := by
  simp [firstAttempt]

omit [Library] in
/-- In a listing by decreasing update time the latest attempt of a recipient is the first. -/
lemma lookup_latest {assignment : Assignment} {attempts : List Attempt} {studentID : ObjectID}
    (hsorted : attempts.Pairwise (fun a b => b.updatedAt ≤ a.updatedAt)) (htimed : ∀ a ∈ attempts, a.updatedAt ≠ 0)
    (hrecipient : studentID ∈ assignment.studentIDs) :
    (attempts.foldl (latestRound assignment) ∅).lookup studentID.hex = firstAttempt attempts studentID := by
  induction attempts using List.reverseRecOn with
  | nil => rfl
  | append_singleton attempts attempt ih =>
    obtain ⟨hsorted, -, hlast⟩ := List.pairwise_append.mp hsorted
    have ih := ih hsorted (fun a ha => htimed a (List.mem_append_left _ ha))
    rw [List.foldl_append, firstAttempt_append]
    generalize attempts.foldl (latestRound assignment) ∅ = latest at ih
    change (latestRound assignment latest attempt).lookup _ = _
    by_cases hstudent : attempt.studentID = studentID
    · have hhas : assignmentHasStudent assignment attempt.studentID.hex = true := by
        rw [assignmentHasStudent, List.any_eq_true]
        exact ⟨studentID, hrecipient, decide_eq_true (by rw [hstudent])⟩
      simp only [latestRound, hhas, Bool.not_true, Bool.false_eq_true, if_false, if_pos hstudent]
      rw [hstudent, ih]
      cases hfirst : firstAttempt attempts studentID with
      | none => exact AList.lookup_insert latest
      | some current =>
        have hmem : current ∈ attempts := List.mem_of_find?_eq_some hfirst
        have hactivity : ∀ a : Attempt, a.updatedAt ≠ 0 → attemptActivityAt a = a.updatedAt := fun a ha => if_pos ha
        have hnot : ¬attemptActivityAt attempt > attemptActivityAt current := by
          rw [hactivity attempt (htimed attempt (by simp)),
            hactivity current (htimed current (List.mem_append_left _ hmem)), gt_iff_lt, not_lt]
          exact hlast current hmem attempt (by simp)
        simp only [if_neg hnot, Option.some_or]
        exact ih.trans hfirst
    · have hne : studentID.hex ≠ attempt.studentID.hex := fun h => hstudent (ObjectID.hex_injective h).symm
      have hkept : (latestRound assignment latest attempt).lookup studentID.hex = latest.lookup studentID.hex := by
        unfold latestRound
        dsimp only
        split
        · rfl
        · split
          · exact AList.lookup_insert_ne hne
          · split
            · exact AList.lookup_insert_ne hne
            · rfl
      rw [hkept, ih, if_neg hstudent, Option.or_none]

/-! ## The two counts -/

/-- The students with an attempt. -/
def attemptingStudents (attempts : List Attempt) : Finset ObjectID := (attempts.map Attempt.studentID).toFinset

/-- The student's first attempt is submitted, its status read literally. -/
def firstSubmitted (attempts : List Attempt) (studentID : ObjectID) : Bool :=
  (firstAttempt attempts studentID).any (fun a => a.status = "submitted")

omit [Library] in
lemma attemptingStudents_append (attempts : List Attempt) (attempt : Attempt) :
    attemptingStudents (attempts ++ [attempt]) = insert attempt.studentID (attemptingStudents attempts) := by
  ext id
  simp [attemptingStudents, eq_comm]

omit [Library] in
lemma firstSubmitted_append {attempts : List Attempt} {id : ObjectID} (attempt : Attempt)
    (hid : id ∈ attemptingStudents attempts) : firstSubmitted (attempts ++ [attempt]) id = firstSubmitted attempts id := by
  have hsome : firstAttempt attempts id ≠ none := by
    rw [Ne, firstAttempt_eq_none_iff, not_not]
    exact List.mem_toFinset.mp hid
  obtain ⟨first, hfirst⟩ := Option.ne_none_iff_exists'.mp hsome
  rw [firstSubmitted, firstSubmitted, firstAttempt_append, hfirst, Option.some_or]

omit [Library] in
/-- What the loop of the report has counted. -/
lemma progressRounds (n : ℕ) (attempts : List Attempt) :
    let state := attempts.foldl progressRound ({ notStarted := n }, [])
    (∀ id : ObjectID, id.hex ∈ state.2 ↔ id ∈ attemptingStudents attempts) ∧
      state.1.submitted = ((attemptingStudents attempts).filter (fun id => firstSubmitted attempts id)).card ∧
      state.1.submitted + state.1.inProgress = (attemptingStudents attempts).card ∧
      state.1.notStarted = n - (attemptingStudents attempts).card := by
  induction attempts using List.reverseRecOn with
  | nil => simp [attemptingStudents]
  | append_singleton attempts attempt ih =>
    obtain ⟨hseen, hsubmitted, htotal, hnotStarted⟩ := ih
    rw [List.foldl_append]
    generalize attempts.foldl progressRound ({ notStarted := n }, []) = state at hseen hsubmitted htotal hnotStarted
    obtain ⟨progress, seen⟩ := state
    dsimp only at hseen hsubmitted htotal hnotStarted ⊢
    rw [attemptingStudents_append]
    have hkept : ((attemptingStudents attempts).filter (fun id => firstSubmitted (attempts ++ [attempt]) id)) =
        (attemptingStudents attempts).filter (fun id => firstSubmitted attempts id) :=
      Finset.filter_congr fun id hid => by rw [firstSubmitted_append attempt hid]
    by_cases hold : attempt.studentID ∈ attemptingStudents attempts
    · have hround : progressRound (progress, seen) attempt = (progress, seen) := if_pos ((hseen _).mpr hold)
      rw [Finset.insert_eq_of_mem hold, hkept]
      simp only [List.foldl_cons, List.foldl_nil, hround]
      exact ⟨hseen, hsubmitted, htotal, hnotStarted⟩
    · have hnew : attempt.studentID.hex ∉ seen := fun h => hold ((hseen _).mp h)
      have hfirst : firstSubmitted (attempts ++ [attempt]) attempt.studentID = decide (attempt.status = "submitted") := by
        have hnone : firstAttempt attempts attempt.studentID = none :=
          firstAttempt_eq_none_iff.mpr fun h => hold (List.mem_toFinset.mpr h)
        rw [firstSubmitted, firstAttempt_append, hnone, Option.none_or, if_pos rfl, Option.any_some]
      have hseen' : ∀ id : ObjectID, id.hex ∈ attempt.studentID.hex :: seen ↔
          id ∈ insert attempt.studentID (attemptingStudents attempts) := by
        intro id
        rw [List.mem_cons, Finset.mem_insert, hseen, ObjectID.hex_injective.eq_iff]
      have hcard := Finset.card_insert_of_notMem hold
      rw [Finset.filter_insert, hfirst, hkept]
      simp only [List.foldl_cons, List.foldl_nil, progressRound, if_neg hnew]
      by_cases hstatus : attempt.status = "submitted"
      · simp only [hstatus, if_true, decide_true]
        refine ⟨hseen', ?_, by omega, by omega⟩
        rw [Finset.card_insert_of_notMem (fun h => hold (Finset.mem_filter.mp h).1), hsubmitted]
      · simp only [hstatus, if_false, decide_false, Bool.false_eq_true]
        exact ⟨hseen', hsubmitted, by omega, by omega⟩

/-- What one recipient adds. -/
lemma recipientRound_counts (assignment : Assignment) (now : Time) (id : ObjectID) (progress : DashboardAssignmentProgress) :
    let after := recipientRound assignment now progress id
    let latest := progress.latestByStudent.lookup id.hex
    after.submitted = progress.submitted + (latest.any attemptIsSubmitted).toNat ∧
      after.submitted + after.inProgress = progress.submitted + progress.inProgress + latest.isSome.toNat ∧
      after.notStarted = progress.notStarted - latest.isSome.toNat ∧
      after.totalStudents = progress.totalStudents ∧ after.latestByStudent = progress.latestByStudent := by
  unfold recipientRound
  cases hlookup : progress.latestByStudent.lookup id.hex with
  | none =>
    dsimp only
    split <;> simp
  | some attempt =>
    by_cases hsubmitted : attemptIsSubmitted attempt <;> by_cases hreview : attemptNeedsReview attempt <;>
      simp [hsubmitted, hreview] <;> omega

/-- What the loop of the dashboard has counted. -/
lemma recipientRounds (assignment : Assignment) (now : Time) (ids : List ObjectID)
    (progress : DashboardAssignmentProgress) :
    let after := ids.foldl (recipientRound assignment now) progress
    let latest := fun id : ObjectID => progress.latestByStudent.lookup id.hex
    after.submitted = progress.submitted + ids.countP (fun id => (latest id).any attemptIsSubmitted) ∧
      after.submitted + after.inProgress =
        progress.submitted + progress.inProgress + ids.countP (fun id => (latest id).isSome) ∧
      after.notStarted = progress.notStarted - ids.countP (fun id => (latest id).isSome) ∧
      after.totalStudents = progress.totalStudents := by
  induction ids generalizing progress with
  | nil => simp
  | cons id ids ih =>
    have ih := ih (recipientRound assignment now progress id)
    obtain ⟨hsubmitted, htotal, hnotStarted, hstudents, hlatest⟩ := recipientRound_counts assignment now id progress
    simp only [hlatest] at ih
    obtain ⟨ihsubmitted, ihtotal, ihnotStarted, ihstudents⟩ := ih
    simp only [List.foldl_cons, List.countP_cons]
    have hbool : ∀ b : Bool, (if b = true then 1 else 0) = b.toNat := fun b => by cases b <;> rfl
    rw [hbool, hbool]
    exact ⟨by omega, by omega, by omega, ihstudents.trans hstudents⟩

/-- Both counts agree, and each adds up to the number of distinct recipients. -/
structure CountsAgree (assignment : Assignment) (progress : AssignmentProgressResponse)
    (dashboard : DashboardAssignmentProgress) : Prop where
  submitted : progress.submitted = dashboard.submitted
  inProgress : progress.inProgress = dashboard.inProgress
  notStarted : progress.notStarted = dashboard.notStarted
  total : progress.submitted + progress.inProgress + progress.notStarted = assignment.studentIDs.toFinset.card
  dashboardTotal : dashboard.submitted + dashboard.inProgress + dashboard.notStarted = assignment.studentIDs.toFinset.card

/-- An attempt that the dashboard takes for submitted is stored under this very status. -/
def SpellsSubmitted (attempts : List Attempt) : Prop :=
  ∀ id a, firstAttempt attempts id = some a → attemptIsSubmitted a → a.status = "submitted"

omit [Library] in
lemma countP_eq_card {l : List ObjectID} (hnodup : l.Nodup) (p : ObjectID → Bool) :
    l.countP p = (l.toFinset.filter (fun id => p id)).card := by
  rw [List.countP_eq_length_filter, ← List.toFinset_card_of_nodup (hnodup.filter p), List.toFinset_filter]

/-- The counts of the dashboard over a listing, by the first attempts. -/
lemma summarize_counts (assignment : Assignment) {attempts : List Attempt} (now : Time)
    (hsorted : attempts.Pairwise (fun a b => b.updatedAt ≤ a.updatedAt)) (htimed : ∀ a ∈ attempts, a.updatedAt ≠ 0) :
    let dashboard := summarizeDashboardAssignment assignment attempts now
    let ids := assignment.studentIDs
    dashboard.submitted = ids.countP (fun id => (firstAttempt attempts id).any attemptIsSubmitted) ∧
      dashboard.submitted + dashboard.inProgress = ids.countP (fun id => (firstAttempt attempts id).isSome) ∧
      dashboard.notStarted = ids.length - ids.countP (fun id => (firstAttempt attempts id).isSome) := by
  have hcounts := recipientRounds assignment now assignment.studentIDs
    { totalStudents := assignment.studentIDs.length
      notStarted := assignment.studentIDs.length
      latestByStudent := attempts.foldl (latestRound assignment) ∅ }
  have hlatest : ∀ p : Option Attempt → Bool,
      assignment.studentIDs.countP (fun id => p ((attempts.foldl (latestRound assignment) ∅).lookup id.hex)) =
        assignment.studentIDs.countP (fun id => p (firstAttempt attempts id)) :=
    fun p => List.countP_congr fun id hid => by rw [lookup_latest hsorted htimed hid]
  simp only [hlatest (fun a => a.any attemptIsSubmitted), hlatest Option.isSome, zero_add] at hcounts
  obtain ⟨hsubmitted, htotal, hnotStarted, -⟩ := hcounts
  unfold summarizeDashboardAssignment
  dsimp only
  split
  · exact ⟨hsubmitted, htotal, hnotStarted⟩
  · exact ⟨hsubmitted, htotal, hnotStarted⟩

lemma countsAgree_iff_of_listing {assignment : Assignment} {attempts : List Attempt} (now : Time)
    (hsorted : attempts.Pairwise (fun a b => b.updatedAt ≤ a.updatedAt)) (htimed : ∀ a ∈ attempts, a.updatedAt ≠ 0)
    (hrecipients : ∀ a ∈ attempts, a.studentID ∈ assignment.studentIDs) :
    CountsAgree assignment (countProgress assignment attempts) (summarizeDashboardAssignment assignment attempts now) ↔
      assignment.studentIDs.Nodup ∧ SpellsSubmitted attempts := by
  obtain ⟨-, hsubmitted, htotal, hnotStarted⟩ := progressRounds assignment.studentIDs.length attempts
  change (countProgress assignment attempts).submitted = _ at hsubmitted
  change (countProgress assignment attempts).submitted + (countProgress assignment attempts).inProgress = _ at htotal
  change (countProgress assignment attempts).notStarted = _ at hnotStarted
  obtain ⟨dsubmitted, dtotal, dnotStarted⟩ := summarize_counts assignment now hsorted htimed
  have hnodup : assignment.studentIDs.toFinset.card = assignment.studentIDs.length ↔ assignment.studentIDs.Nodup :=
    Multiset.toFinset_card_eq_card_iff_nodup (m := (assignment.studentIDs : Multiset ObjectID))
  -- Under distinct recipients both counts are about sets of students.
  have hattempting : assignment.studentIDs.Nodup →
      assignment.studentIDs.countP (fun id => (firstAttempt attempts id).isSome) = (attemptingStudents attempts).card := by
    intro hdistinct
    rw [countP_eq_card hdistinct]
    congr 1
    ext id
    rw [Finset.mem_filter, List.mem_toFinset, ← Option.ne_none_iff_isSome, Ne, firstAttempt_eq_none_iff, not_not,
      attemptingStudents, List.mem_toFinset, and_iff_right_iff_imp]
    intro hid
    obtain ⟨a, ha, rfl⟩ := List.mem_map.mp hid
    exact hrecipients a ha
  have hfirst : ∀ {id a}, firstAttempt attempts id = some a → id ∈ attemptingStudents attempts ∧ id ∈ assignment.studentIDs := by
    intro id a ha
    have hmem : a ∈ attempts := List.mem_of_find?_eq_some ha
    have hid : a.studentID = id := by simpa using List.find?_some ha
    exact ⟨List.mem_toFinset.mpr (List.mem_map.mpr ⟨a, hmem, hid⟩), hid ▸ hrecipients a hmem⟩
  have hsubset : (attemptingStudents attempts).filter (fun id => firstSubmitted attempts id) ⊆
      assignment.studentIDs.toFinset.filter (fun id => (firstAttempt attempts id).any attemptIsSubmitted) := by
    intro id hid
    obtain ⟨a, ha, hstatus⟩ := (Option.any_eq_true _ _).mp (Finset.mem_filter.mp hid).2
    rw [Finset.mem_filter, List.mem_toFinset, ha, Option.any_some, attemptIsSubmitted, of_decide_eq_true hstatus]
    exact ⟨(hfirst ha).2, by decide⟩
  constructor
  · rintro ⟨hsame, -, -, hall, -⟩
    have hdistinct : assignment.studentIDs.Nodup := hnodup.mp (by omega)
    refine ⟨hdistinct, fun id a ha hcounts => ?_⟩
    have hequal := Finset.eq_of_subset_of_card_le hsubset (by
      rw [← countP_eq_card hdistinct, ← dsubmitted, ← hsame, hsubmitted])
    have hid : id ∈ (attemptingStudents attempts).filter (fun id => firstSubmitted attempts id) := by
      rw [hequal, Finset.mem_filter, List.mem_toFinset, ha]
      exact ⟨(hfirst ha).2, hcounts⟩
    have hstatus := (Finset.mem_filter.mp hid).2
    rw [firstSubmitted, ha] at hstatus
    exact of_decide_eq_true hstatus
  · rintro ⟨hdistinct, hspells⟩
    have hequal : (attemptingStudents attempts).filter (fun id => firstSubmitted attempts id) =
        assignment.studentIDs.toFinset.filter (fun id => (firstAttempt attempts id).any attemptIsSubmitted) := by
      refine hsubset.antisymm fun id hid => ?_
      obtain ⟨a, ha, hcounts⟩ := (Option.any_eq_true _ _).mp (Finset.mem_filter.mp hid).2
      rw [Finset.mem_filter, firstSubmitted, ha]
      exact ⟨(hfirst ha).1, decide_eq_true (hspells id a ha hcounts)⟩
    have hsame : (countProgress assignment attempts).submitted =
        (summarizeDashboardAssignment assignment attempts now).submitted := by
      rw [hsubmitted, dsubmitted, countP_eq_card hdistinct, hequal]
    have hcard := hnodup.mpr hdistinct
    have hattempting := hattempting hdistinct
    exact ⟨hsame, by omega, by omega, by omega, by omega⟩

/-! ## Runs -/

/-- A clock that never shows the zero time, as the repository keeps it, and a fresh id. -/
structure ClockedEnv {σ : Type} (r : Repository σ) where
  env : Env
  now_ne : r.keeps env.now ≠ 0

/-- The stores that calls one after another reach from `s₀`, on such a clock. -/
inductive ReachedByCalls {σ : Type} (r : Repository σ) (s₀ : σ) : σ → Prop
  | start : ReachedByCalls r s₀ s₀
  | call {s s' : σ} (call : RuntimeCall) (resp : Except LmsError RuntimeResponse) : ReachedByCalls r s₀ s →
      Evaluates (fun env : ClockedEnv r => r.exec env.env) call.program.run s resp s' → ReachedByCalls r s₀ s'

variable {σ : Type} {r : Repository σ} {s₀ s : σ}

lemma ReachedByCalls.reachable (h : ReachedByCalls r s₀ s) : Reachable r (fun _ _ _ => True) s₀ s := by
  induction h with
  | start => exact .start
  | call call resp _ heval ih => exact ih.call call resp trivial heval.of_comp

/-- Every attempt is stamped with the time of its last change. -/
def AttemptsTimed (R : Records) : Prop := ∀ a ∈ R.attempts, a.updatedAt ≠ 0

omit [Library] in
lemma AttemptsTimed.modify {R : Records} {tenantID : String} {id : ObjectID} {f : Attempt → Attempt}
    (h : AttemptsTimed R) (hf : ∀ a, a.updatedAt ≠ 0 → (f a).updatedAt ≠ 0) :
    AttemptsTimed (R.modifyAttempt tenantID id f) :=
  forall_modifyFirst h fun a ha => hf a (h a (List.mem_of_find?_eq_some ha))

omit [Library] in
lemma attemptsTimed_contract {keeps : Time → Time} {env : Env} (hnow : keeps env.now ≠ 0) {R R' : Records}
    {q : RepoRequest} {reply : RepoReply q} (hcontract : Contract keeps env R R' q reply) (h : AttemptsTimed R) :
    AttemptsTimed R' := by
  have hunsubmitted : ∀ (u : AttemptUpdate) (a : Attempt), a.updatedAt ≠ 0 →
      (u.applyUnsubmitted (keeps env.now) a).updatedAt ≠ 0 := by
    intro u a ha
    unfold AttemptUpdate.applyUnsubmitted
    split
    · exact ha
    · exact hnow
  cases q <;> cases reply
  case createAssignment.ok =>
    obtain ⟨-, rfl⟩ := hcontract
    exact h
  case createAttempt.ok =>
    obtain ⟨rfl, startedAt, rfl⟩ := hcontract
    intro a ha
    obtain ha | ha := List.mem_append.mp ha
    · exact h a ha
    · rw [List.mem_singleton.mp ha]
      exact hnow
  case getAssignment.ok | getAttempt.ok =>
    rw [hcontract.1]
    exact h
  case findActiveAttempt.ok | findActiveAttempt.error =>
    rw [hcontract.1]
    exact h
  case saveAttemptAnswer.ok =>
    obtain ⟨oid, field, -, -, rfl⟩ := hcontract
    exact h.modify (hunsubmitted _)
  case saveAttemptDraft.ok =>
    obtain ⟨oid, u, -, -, -, rfl⟩ := hcontract
    exact h.modify (hunsubmitted _)
  case submitAttempt.ok =>
    obtain ⟨oid, fields, -, -, -, rfl⟩ := hcontract
    exact h.modify (hunsubmitted _)
  case updateAttempt.ok =>
    obtain ⟨oid, -, -, rfl⟩ := hcontract
    exact h.modify (fun _ _ => hnow)
  all_goals
    rw [show R' = R from hcontract]
    exact h

lemma ReachedByCalls.timed (h₀ : (r.records s₀).attempts = []) (h : ReachedByCalls r s₀ s) :
    AttemptsTimed (r.records s) := by
  induction h with
  | start => simp [AttemptsTimed, h₀]
  | @call s s' call resp _ heval ih =>
    have hall : Ensures (fun env : ClockedEnv r => r.exec env.env) (fun _ s' => AttemptsTimed (r.records s'))
        call.program.run s :=
      Ensures.of_allRequests (P := fun _ => True) (I := fun s => AttemptsTimed (r.records s))
        (fun env q s _ hs => attemptsTimed_contract env.now_ne (r.contract env.env q s) hs)
        (AllRequests.of_forall (fun _ => trivial) _) ih
    exact hall.sound heval

omit [Library] in
lemma recipient_of_starts {call : RuntimeCall} {R : Records} {assignment : Assignment} {studentID quizID : ObjectID}
    (h : call.starts R = some (assignment, studentID, quizID)) : studentID ∈ assignment.studentIDs := by
  cases call with
  | startAttempt tenantID actor req =>
    simp only [RuntimeCall.starts, Option.bind_eq_bind, Option.bind_eq_some_iff] at h
    obtain ⟨oid, -, found, -, student, -, quiz, -, h⟩ := h
    split at h
    · rename_i hincludes
      cases h
      obtain ⟨id, hid, hsame⟩ := List.any_eq_true.mp hincludes
      rw [← of_decide_eq_true hsame]
      exact hid
    · cases h
  | _ => cases h

/-- Attempts are made by recipients. -/
def MadeByRecipients (R : Records) : Prop :=
  AttemptsFit (fun assignment a => a.studentID ∈ assignment.studentIDs) R

lemma ReachedByCalls.madeByRecipients (h₀ : (r.records s₀).attempts = []) (h : ReachedByCalls r s₀ s) :
    MadeByRecipients (r.records s) := by
  refine h.reachable.invariant (by simp [MadeByRecipients, AttemptsFit, h₀]) ?_
  intro call R ok R' _ heffect hR
  refine attemptsFit_effect ?_ ?_ heffect hR
  · intro assignment a a' hkey hfits
    simp only [Attempt.activeKey, Prod.mk.injEq] at hkey
    rw [hkey.2.2.2]
    exact hfits
  · exact fun created assignment hstarts _ => recipient_of_starts hstarts

omit r σ s s₀ in
lemma mem_listAttempts {R : Records} {tenantID : String} {assignmentID : ObjectID} {a : Attempt} :
    a ∈ R.listAttempts tenantID assignmentID ↔ a ∈ R.attempts ∧ a.tenantID = tenantID ∧ a.assignmentID = assignmentID := by
  unfold Records.listAttempts
  rw [(Library.sortSlice_perm _ _).mem_iff, List.mem_filter, Bool.and_eq_true, decide_eq_true_eq, decide_eq_true_eq]

lemma listAttempts_sorted (R : Records) (tenantID : String) (assignmentID : ObjectID) :
    (R.listAttempts tenantID assignmentID).Pairwise (fun a b => b.updatedAt ≤ a.updatedAt) := by
  refine (Library.sortSlice_sorted _ _ ?_ ?_).imp ?_
  · intro a b h
    simp only [gt_iff_lt, decide_eq_true_eq, not_lt] at h ⊢
    exact h.le
  · intro a b c hab hbc
    simp only [gt_iff_lt, decide_eq_true_eq, not_lt] at hab hbc ⊢
    exact hbc.trans hab
  · intro a b h
    simpa using h

lemma assignmentProgress_of_found {R : Records} {tenantID assignmentID : String} {oid : ObjectID} {assignment : Assignment}
    (hid : objectID assignmentID = .ok oid) (hfound : R.getAssignment tenantID oid = some assignment) :
    Service.assignmentProgress R tenantID assignmentID =
      .ok (countProgress assignment (R.listAttempts tenantID assignment.id)) := by
  unfold Service.assignmentProgress
  rw [hid]
  change (required _ >>= _) = _
  rw [hfound]
  rfl

/-- In a reachable store the counts of an assignment agree and add up exactly where no recipient is
repeated and no latest attempt is submitted under another spelling of the status. -/
theorem countsAgree_iff [MongoServer] (b : Backend) {s₀ s : Store b} (h₀ : ((repository b).records s₀).attempts = [])
    (hs : ReachedByCalls (repository b) s₀ s) {tenantID assignmentID : String} {oid : ObjectID} {assignment : Assignment}
    (hid : objectID assignmentID = .ok oid)
    (hfound : ((repository b).records s).getAssignment tenantID oid = some assignment) (now : Time) :
    let attempts := ((repository b).records s).listAttempts tenantID assignment.id
    ∃ progress, Service.assignmentProgress ((repository b).records s) tenantID assignmentID = .ok progress ∧
      (CountsAgree assignment progress (summarizeDashboardAssignment assignment attempts now) ↔
        assignment.studentIDs.Nodup ∧ SpellsSubmitted attempts) := by
  refine ⟨_, assignmentProgress_of_found hid hfound, countsAgree_iff_of_listing now (listAttempts_sorted _ _ _) ?_ ?_⟩
  · exact fun a ha => hs.timed h₀ a (mem_listAttempts.mp ha).1
  · intro a ha
    obtain ⟨hmem, htenant, hassignment⟩ := mem_listAttempts.mp ha
    obtain ⟨named, hnamed, hrecipient⟩ := hs.madeByRecipients h₀ a hmem
    have hnamedID : assignment.named tenantID oid = true := List.find?_some hfound
    have hassignmentID : assignment.id = oid := by
      unfold Assignment.named at hnamedID
      exact of_decide_eq_true (Bool.and_eq_true_iff.mp hnamedID).1
    rw [htenant, hassignment, hassignmentID, hfound] at hnamed
    rw [Option.some.inj hnamed]
    exact hrecipient

end Counts

section Sample

attribute [local instance] asciiLibrary Sample.server

namespace Sample

/-- Assigns the quiz of the class to these students. -/
def assignTo (students : List ObjectID) : RuntimeCall :=
  .createAssignment "erg" ⟨"admin", ["admin"]⟩
    { classID := (id 2).hex, quizIDs := [(id 3).hex], recipientMode := "selected"
      studentIDs := students.map ObjectID.hex }

/-- Student 4 starts the assignment under this id. -/
def startAssigned (n : ℕ) : RuntimeCall :=
  .startAttempt "erg" ⟨(id 4).hex, []⟩ ⟨(id n).hex, (id 3).hex, "package", "hash"⟩

def clocked (n : ℕ) : ClockedEnv memoryRepository := ⟨⟨1, id n⟩, one_ne_zero⟩

/-- A call alone, at time 1. -/
def afterCall (call : RuntimeCall) (n : ℕ) (m : MemoryStore) : MemoryStore :=
  (call.program.run.alone (fun env : ClockedEnv memoryRepository => memoryRepository.exec env.env) (clocked n) m).2

/-- The assignment is created as number 5 and started. -/
def assignedAndStarted (students : List ObjectID) : MemoryStore :=
  afterCall (startAssigned 5) 6 (afterCall (assignTo students) 5 (classStore .empty))

lemma reached_assignedAndStarted (students : List ObjectID) :
    ReachedByCalls memoryRepository (classStore .empty) (assignedAndStarted students) :=
  (ReachedByCalls.start.call (assignTo students) _ (evaluates_alone _ (clocked 5) _ _)).call (startAssigned 5) _
    (evaluates_alone _ (clocked 6) _ _)

/-- The assignment as the run leaves it, and its counts. -/
def assignmentTo (students : List ObjectID) : Assignment :=
  { id := id 5, tenantID := "erg", classID := id 2, quizID := id 3, subjectID := id 4, studentIDs := students,
    status := "open", assignedBy := "admin", recipientMode := "selected", createdAt := 1, updatedAt := 1 }

end Sample

theorem countsAgree_distinct :
    let attempts := (Sample.assignedAndStarted [Sample.id 4]).records.listAttempts "erg" (Sample.id 5)
    ∃ progress, Service.assignmentProgress (Sample.assignedAndStarted [Sample.id 4]).records "erg" (Sample.id 5).hex =
        .ok progress ∧
      CountsAgree (Sample.assignmentTo [Sample.id 4]) progress
        (summarizeDashboardAssignment (Sample.assignmentTo [Sample.id 4]) attempts 2) := by
  have hfound : ((repository .memory).records (Sample.assignedAndStarted [Sample.id 4])).getAssignment "erg" (Sample.id 5) =
      some (Sample.assignmentTo [Sample.id 4]) := by rfl
  obtain ⟨progress, hprogress, hagree⟩ := countsAgree_iff .memory rfl (Sample.reached_assignedAndStarted [Sample.id 4])
    (objectID_hex (Sample.id 5)) hfound 2
  refine ⟨progress, hprogress, hagree.mpr ⟨by decide, fun id a ha hcounts => ?_⟩⟩
  have hstatus : ((Sample.assignedAndStarted [Sample.id 4]).records.listAttempts "erg" (Sample.id 5)).all
      (fun a => !attemptIsSubmitted a) = true := by decide
  have hopen := List.all_eq_true.mp hstatus a (List.mem_of_find?_eq_some ha)
  rw [hcounts] at hopen
  cases hopen

/-- Student 4 is named twice and has started: the report counts one attempt in progress and one
student who has not started, the dashboard two attempts in progress. -/
theorem counts_disagree :
    ReachedByCalls memoryRepository (Sample.classStore .empty) (Sample.assignedAndStarted [Sample.id 4, Sample.id 4]) ∧
      ∃ progress, Service.assignmentProgress (Sample.assignedAndStarted [Sample.id 4, Sample.id 4]).records "erg"
          (Sample.id 5).hex = .ok progress ∧
        ¬CountsAgree (Sample.assignmentTo [Sample.id 4, Sample.id 4]) progress
          (summarizeDashboardAssignment (Sample.assignmentTo [Sample.id 4, Sample.id 4])
            ((Sample.assignedAndStarted [Sample.id 4, Sample.id 4]).records.listAttempts "erg" (Sample.id 5)) 2) := by
  have hfound : (Sample.assignedAndStarted [Sample.id 4, Sample.id 4]).records.getAssignment "erg" (Sample.id 5) =
      some (Sample.assignmentTo [Sample.id 4, Sample.id 4]) := by rfl
  refine ⟨Sample.reached_assignedAndStarted _, _, assignmentProgress_of_found (objectID_hex (Sample.id 5)) hfound, ?_⟩
  intro hagree
  have hcounts : (countProgress (Sample.assignmentTo [Sample.id 4, Sample.id 4])
        ((Sample.assignedAndStarted [Sample.id 4, Sample.id 4]).records.listAttempts "erg" (Sample.id 5))).inProgress = 1 ∧
      (summarizeDashboardAssignment (Sample.assignmentTo [Sample.id 4, Sample.id 4])
        ((Sample.assignedAndStarted [Sample.id 4, Sample.id 4]).records.listAttempts "erg" (Sample.id 5)) 2).inProgress = 2 := by
    decide
  have hsame := hagree.inProgress
  rw [hcounts.2] at hsame
  exact absurd (hcounts.1.symm.trans hsame) (by decide)

end Sample

end ErgGo.Lms
