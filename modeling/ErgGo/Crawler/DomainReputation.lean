import ErgGo.Lib.Documents
import Mathlib.Algebra.Group.Nat.Defs
import Mathlib.Algebra.Order.Group.Int
import Mathlib.Data.Int.Order.Basic
import Mathlib.Data.List.Induction

/-!
# Domain reputation

Each crawl result of a domain is counted in its document, and a score decides whether the
domain is crawled at all. The score starts at 100, loses 10 for each result that was blocked
and gains 1 for each success, between 0 and 100.
-/

namespace ErgGo.Crawler.Reputation
open Documents

structure DomainReputation where
  id : String
  domain : String
  blockCount : ℤ
  successCount : ℤ
  failCount : ℤ
  avgDuration : ℤ
  /-- A whole number, which a `float64` holds exactly. -/
  score : ℤ
  lastSeenAt : ℤ
  updatedAt : ℤ
  deriving DecidableEq

/-- A call of `UpdateDomainReputation`, with its time and the ID for a new document. -/
structure CrawlReport where
  domain : String
  success : Bool
  durationMS : ℤ
  blocked : Bool
  now : ℤ
  newID : String
  deriving DecidableEq

/-- A blocked result is neither a success nor a failure. -/
def CrawlReport.succeeded (r : CrawlReport) : Bool := !r.blocked && r.success

def CrawlReport.failed (r : CrawlReport) : Bool := !r.blocked && !r.success

/-- Arithmetic of `int64`. -/
def int64 (x : ℤ) : ℤ := Int.bmod x (2 ^ 64)

def getDomainReputation (reputation : List DomainReputation) (domain : String) : Option DomainReputation :=
  reputation.find? (·.domain = domain)

/-- The document of a domain's first result. -/
def created (r : CrawlReport) : DomainReputation :=
  let rep : DomainReputation :=
    { id := r.newID, domain := r.domain, blockCount := 0, successCount := 0, failCount := 0,
      avgDuration := r.durationMS, score := 100, lastSeenAt := r.now, updatedAt := r.now }
  if r.blocked then { rep with blockCount := 1, score := 0 }
  else if r.success then { rep with successCount := 1 }
  else { rep with failCount := 1 }

/-- What a further result of the domain does to the document `d`, after `rep` was read. -/
def update (rep : DomainReputation) (r : CrawlReport) (d : DomainReputation) : DomainReputation :=
  let count := rep.successCount + rep.failCount
  let avg := (int64 (int64 (rep.avgDuration * count) + r.durationMS)).tdiv (count + 1)
  let blockInc := if r.blocked then 1 else 0
  let successInc := if r.succeeded then 1 else 0
  let failInc := if r.failed then 1 else 0
  let newScore := rep.score - blockInc * 10 + successInc * 1
  let newScore := if newScore < 0 then 0 else newScore
  let newScore := if newScore > 100 then 100 else newScore
  { d with
    avgDuration := avg
    score := newScore
    lastSeenAt := r.now
    updatedAt := r.now
    blockCount := d.blockCount + blockInc
    successCount := d.successCount + successInc
    failCount := d.failCount + failInc }

def updateDomainReputation (reputation : List DomainReputation) (r : CrawlReport) : List DomainReputation :=
  match getDomainReputation reputation r.domain with
  | none => reputation ++ [created r]
  | some rep => modifyFirst (·.domain = r.domain) (update rep r) reputation

def shouldSkipDomain (reputation : List DomainReputation) (domain : String) (threshold : ℤ) : Bool :=
  (getDomainReputation reputation domain).any (·.score < threshold)

/-- The documented rule for one result. -/
def documentedScore (score : ℤ) (r : CrawlReport) : ℤ :=
  max 0 (min 100 (if r.blocked then score - 10 else if r.success then score + 1 else score))

/-- The document counts these results and has their score. -/
structure Records (rep : DomainReputation) (results : List CrawlReport) : Prop where
  blockCount : rep.blockCount = results.countP (·.blocked)
  successCount : rep.successCount = results.countP (·.succeeded)
  failCount : rep.failCount = results.countP (·.failed)
  score : rep.score = results.foldl documentedScore 100

/-- A domain with results, and only that, has a document, which records them. -/
def Recorded (reputation : List DomainReputation) (domain : String) (results : List CrawlReport) : Prop :=
  match getDomainReputation reputation domain with
  | none => results = []
  | some rep => results ≠ [] ∧ Records rep results

/-- The results of one domain. -/
def resultsOf (domain : String) (reports : List CrawlReport) : List CrawlReport :=
  reports.filter (·.domain = domain)

def run (reports : List CrawlReport) : List DomainReputation := reports.foldl updateDomainReputation []

lemma created_domain (r : CrawlReport) : (created r).domain = r.domain := by
  unfold created
  split
  · rfl
  · split <;> rfl

lemma getDomainReputation_update_self (reputation : List DomainReputation) (r : CrawlReport) :
    getDomainReputation (updateDomainReputation reputation r) r.domain =
      some ((getDomainReputation reputation r.domain).elim (created r) fun rep => update rep r rep) := by
  unfold updateDomainReputation
  cases hrep : getDomainReputation reputation r.domain with
  | none =>
    have hnone : reputation.find? (·.domain = r.domain) = none := hrep
    simp [getDomainReputation, List.find?_append, hnone, created_domain]
  | some rep =>
    have hsome : reputation.find? (·.domain = r.domain) = some rep := hrep
    have hfind := find?_modifyFirst (p := fun d : DomainReputation => d.domain = r.domain) (f := update rep r)
      (fun _ => rfl) reputation
    rw [hsome] at hfind
    exact hfind

lemma getDomainReputation_update_of_ne (reputation : List DomainReputation) {r : CrawlReport} {domain : String}
    (hne : r.domain ≠ domain) :
    getDomainReputation (updateDomainReputation reputation r) domain = getDomainReputation reputation domain := by
  unfold updateDomainReputation
  cases hrep : getDomainReputation reputation r.domain with
  | none => simp [getDomainReputation, List.find?_append, created_domain, hne]
  | some rep =>
    refine find?_modifyFirst_disjoint (fun d hd => ?_) reputation
    have hd : d.domain = r.domain := of_decide_eq_true hd
    have hother : decide (d.domain = domain) = false := decide_eq_false (hd ▸ hne)
    exact ⟨hother, hother⟩

lemma records_created {r : CrawlReport} (h : ¬r.blocked) : Records (created r) [r] := by
  have hblocked : r.blocked = false := by simpa using h
  cases hsuccess : r.success <;> constructor <;>
    simp [created, CrawlReport.succeeded, CrawlReport.failed, documentedScore, hblocked, hsuccess]

/-- The update follows the documented rule. -/
lemma update_score (rep d : DomainReputation) (r : CrawlReport) :
    (update rep r d).score = documentedScore rep.score r := by
  unfold update documentedScore
  cases hblocked : r.blocked <;> cases hsuccess : r.success <;>
    simp only [CrawlReport.succeeded, hblocked, hsuccess] <;> split_ifs <;> grind

lemma Records.update {rep : DomainReputation} {results : List CrawlReport} (h : Records rep results)
    (r : CrawlReport) : Records (Reputation.update rep r rep) (results ++ [r]) := by
  have hcount : ∀ (p : CrawlReport → Bool) (n : ℤ), n = results.countP p →
      n + (if p r then 1 else 0) = ((results ++ [r]).countP p : ℕ) := by
    rintro p n rfl
    rw [List.countP_append, List.countP_singleton]
    split <;> simp
  refine ⟨hcount _ _ h.blockCount, hcount _ _ h.successCount, hcount _ _ h.failCount, ?_⟩
  rw [update_score, h.score, List.foldl_append]
  rfl

/-- A first result that is not blocked, and every further result, is recorded. -/
lemma Recorded.step {reputation : List DomainReputation} {r : CrawlReport} {results : List CrawlReport}
    (h : Recorded reputation r.domain results) (hfirst : results = [] → ¬r.blocked) :
    Recorded (updateDomainReputation reputation r) r.domain (results ++ [r]) := by
  unfold Recorded at h ⊢
  rw [getDomainReputation_update_self]
  cases hrep : getDomainReputation reputation r.domain with
  | none =>
    rw [hrep] at h
    subst h
    exact ⟨List.cons_ne_nil r [], records_created (hfirst rfl)⟩
  | some rep =>
    rw [hrep] at h
    exact ⟨List.append_ne_nil_of_right_ne_nil results (List.cons_ne_nil r []), h.2.update r⟩

lemma Recorded.of_ne {reputation : List DomainReputation} {r : CrawlReport} {domain : String}
    {results : List CrawlReport} (h : Recorded reputation domain results) (hne : r.domain ≠ domain) :
    Recorded (updateDomainReputation reputation r) domain results := by
  unfold Recorded
  rw [getDomainReputation_update_of_ne reputation hne]
  exact h

lemma run_concat (reports : List CrawlReport) (r : CrawlReport) :
    run (reports ++ [r]) = updateDomainReputation (run reports) r := List.foldl_append

lemma head?_of_earlier {reports₁ reports₂ : List CrawlReport} (h : reports₁ <+: reports₂) {first : CrawlReport}
    (hfirst : first ∈ reports₁.head?) : first ∈ reports₂.head? := by
  obtain ⟨rest, rfl⟩ := h
  rw [Option.mem_def, List.head?_append, Option.mem_def.mp hfirst, Option.some_or]

/-- Where the first result of the domain is not blocked, its results are recorded. -/
lemma recorded_of_first {domain : String} {reports : List CrawlReport}
    (h : ∀ first ∈ (resultsOf domain reports).head?, ¬first.blocked) :
    Recorded (run reports) domain (resultsOf domain reports) := by
  induction reports using List.reverseRecOn with
  | nil => rfl
  | append_singleton reports r ih =>
    have hsplit : resultsOf domain (reports ++ [r]) = resultsOf domain reports ++ resultsOf domain [r] :=
      List.filter_append _ _
    rw [run_concat, hsplit]
    have hreports := ih fun first hfirst =>
      h first (head?_of_earlier (hsplit ▸ List.prefix_append _ _) hfirst)
    by_cases hdomain : r.domain = domain
    · subst hdomain
      have hone : resultsOf r.domain [r] = [r] := by simp [resultsOf]
      rw [hone] at hsplit ⊢
      refine hreports.step fun hnone => h r ?_
      rw [hsplit, hnone]
      rfl
    · have hnone : resultsOf domain [r] = [] := by simp [resultsOf, hdomain]
      rw [hnone, List.append_nil]
      exact hreports.of_ne hdomain

/-- Counters and score are as documented throughout exactly where the first result of the domain
is not blocked. -/
theorem recorded_iff (domain : String) (reports : List CrawlReport) :
    (∀ n, Recorded (run (reports.take n)) domain (resultsOf domain (reports.take n))) ↔
      ∀ first ∈ (resultsOf domain reports).head?, ¬first.blocked := by
  constructor
  · intro h first hfirst hblocked
    obtain ⟨rest, hresults⟩ : ∃ rest, resultsOf domain reports = first :: rest :=
      ⟨_, (List.cons_head?_tail hfirst).symm⟩
    obtain ⟨before, after, rfl, hbefore, hdomain, -⟩ := List.filter_eq_cons_iff.mp hresults
    -- up to this result the domain has none, and the document is created with another score
    have hempty : resultsOf domain before = [] := by
      refine List.filter_eq_nil_iff.mpr fun r hr => ?_
      simpa using hbefore r hr
    have hdomain : first.domain = domain := of_decide_eq_true hdomain
    subst hdomain
    have hnone : Recorded (run before) first.domain (resultsOf first.domain before) :=
      recorded_of_first (by simp [hempty])
    have hnodoc : getDomainReputation (run before) first.domain = none := by
      rw [hempty, Recorded] at hnone
      cases hrep : getDomainReputation (run before) first.domain with
      | none => rfl
      | some rep =>
        rw [hrep] at hnone
        exact absurd rfl hnone.1
    have htake : (before ++ first :: after).take (before.length + 1) = before ++ [first] := by
      simp [List.take_append, List.take_of_length_le]
    have hfirst : resultsOf first.domain (before ++ [first]) = [first] := by
      rw [resultsOf, List.filter_append, ← resultsOf, hempty]
      simp
    have hrecorded := h (before.length + 1)
    rw [htake, hfirst, run_concat, Recorded, getDomainReputation_update_self, hnodoc] at hrecorded
    have hscore := hrecorded.2.score
    simp [created, documentedScore, hblocked] at hscore
  · intro h n
    refine recorded_of_first fun first hfirst => h first (head?_of_earlier ?_ hfirst)
    exact (List.take_prefix n reports).filter _

section Sample

/-- A result of `example.org`. -/
def Sample.report (success blocked : Bool) : CrawlReport := ⟨"example.org", success, 250, blocked, 0, "1"⟩

/-- One blocked result makes the score 0 instead of 90, and the domain is skipped from then on. -/
theorem first_blocked_is_skipped :
    ¬Recorded (run [Sample.report false true]) "example.org" (resultsOf "example.org" [Sample.report false true]) ∧
      shouldSkipDomain (run [Sample.report false true]) "example.org" 10 :=
  ⟨fun h => absurd h.2.score (by decide), by decide⟩

end Sample

end ErgGo.Crawler.Reputation
