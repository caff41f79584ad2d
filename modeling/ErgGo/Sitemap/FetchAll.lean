import ErgGo.Sitemap.Parser
import Mathlib.Logic.Hydra
import Mathlib.Tactic.Abel

/-!
# `FetchAll` never returns

Nobody closes the channel of the jobs, so no worker leaves its loop, the channel of the results
stays open and the caller waits on it. Every run comes to that point: a fetch replaces a job by
jobs of greater depth, of which there are finitely many below the limit.
-/

namespace ErgGo.Sitemaps
open Go Relation

/-! ## Nothing is closed -/

/-- The channel of the jobs is open, and what waits for its end still waits. -/
structure Open (s : State) : Prop where
  jobs : s.shared.jobs.closed = false
  results : s.shared.results.closed = false
  workers : s.workers.length = 5 ∧ ∀ worker ∈ s.workers, worker.hasExited = false
  closer : s.closer = .notStarted ∨ s.closer = .waiting
  caller : s.caller ≠ .drainingErrors ∧ s.caller ≠ .returned
  started : s.caller = .sendingRoot ∨ s.caller = .startingCloser → s.closer = .notStarted

lemma store_channels (urls : List URL) (shared : Shared) :
    (shared.store urls).jobs = shared.jobs ∧ (shared.store urls).results = shared.results ∧
      (shared.store urls).errors = shared.errors := by
  unfold Shared.store
  induction urls generalizing shared with
  | nil => exact ⟨rfl, rfl, rfl⟩
  | cons u urls ih =>
    rw [List.foldl_cons]
    split
    · exact ih shared
    · exact ih _

/-- A worker closes no channel, and stays in its loop as long as the jobs are open. -/
lemma Worker.step_open {maxDepth : ℕ} {response : Except String Sitemap} {shared shared' : Shared} {w w' : Worker}
    (hjobs : shared.jobs.closed = false) (h : w.step maxDepth response shared = some (w', shared')) :
    w'.hasExited = false ∧ shared'.jobs.closed = false ∧ shared'.results.closed = shared.results.closed := by
  cases w with
  | receiving =>
    obtain ⟨⟨received, jobs⟩, hnext, heq⟩ := Option.map_eq_some_iff.mp h
    obtain ⟨job, rfl, -, hopen⟩ := Channel.next_eq_some hjobs hnext
    cases heq
    exact ⟨rfl, hopen, rfl⟩
  | fetching job =>
    cases response <;> cases h <;> exact ⟨rfl, hjobs, rfl⟩
  | failed job err =>
    cases h
    exact ⟨rfl, hjobs, rfl⟩
  | storing job sitemap =>
    obtain ⟨hchannel, hresults, -⟩ := store_channels sitemap.urls shared
    cases h
    rw [hchannel, hresults]
    refine ⟨?_, hjobs, rfl⟩
    split <;> rfl
  | children job sitemap rest =>
    cases rest with
    | nil =>
      cases h
      exact ⟨rfl, hjobs, rfl⟩
    | cons child rest =>
      cases h
      refine ⟨?_, hjobs, rfl⟩
      split <;> rfl
  | marking job sitemap child rest =>
    cases h
    exact ⟨rfl, hjobs, rfl⟩
  | sending job sitemap child rest =>
    obtain ⟨jobs, hsend, heq⟩ := Option.map_eq_some_iff.mp h
    cases heq
    rw [Channel.send_eq_some hsend]
    exact ⟨rfl, hjobs, rfl⟩
  | reporting job sitemap =>
    cases h
    exact ⟨rfl, hjobs, Channel.closed_offer _ _⟩
  | exited => cases h

/-- The closer waits. -/
lemma Open.closerStep {s : State} (hs : Open s) : FetchAll.closerStep s = none := by
  obtain ⟨hlength, hworkers⟩ := hs.workers
  unfold FetchAll.closerStep
  obtain hnotStarted | hwaiting := hs.closer
  · rw [hnotStarted]
  · have hrunning : s.workers.all Worker.hasExited = false := by
      obtain ⟨worker, rest, heq⟩ := List.exists_cons_of_length_eq_add_one hlength
      rw [heq, List.all_cons, hworkers worker (by simp [heq]), Bool.false_and]
    rw [hwaiting, hrunning]
    rfl

/-- No step closes the jobs, nor lets the closer or the caller past its wait. -/
lemma Open.step {p : FetchAll} {s s' : State} (hs : Open s) (h : p.Step s s') : Open s' := by
  obtain ⟨turn, -, hstep⟩ := h
  obtain ⟨hjobs, hresults, ⟨hlength, hworkers⟩, hcloser, hcaller, hstarted⟩ := hs
  cases turn with
  | caller =>
    unfold FetchAll.step FetchAll.callerStep at hstep
    dsimp only at hstep
    split at hstep
    · next hsending =>
      obtain ⟨jobs, hsend, rfl⟩ := Option.map_eq_some_iff.mp hstep
      rw [Channel.send_eq_some hsend]
      exact ⟨hjobs, hresults, ⟨hlength, hworkers⟩, hcloser, by simp, fun _ => hstarted (.inl hsending)⟩
    · cases hstep
      exact ⟨hjobs, hresults, ⟨hlength, hworkers⟩, .inr rfl, by simp, by simp⟩
    · obtain ⟨⟨received, results⟩, hnext, rfl⟩ := Option.map_eq_some_iff.mp hstep
      obtain ⟨result, rfl, -, hopen⟩ := Channel.next_eq_some hresults hnext
      exact ⟨hjobs, hopen, ⟨hlength, hworkers⟩, hcloser, by simp, by simp⟩
    · next hdraining => exact absurd hdraining hcaller.1
    · cases hstep
  | closer =>
    have hnone : FetchAll.closerStep s = none :=
      Open.closerStep ⟨hjobs, hresults, ⟨hlength, hworkers⟩, hcloser, hcaller, hstarted⟩
    rw [FetchAll.step, hnone] at hstep
    cases hstep
  | worker i response =>
    unfold FetchAll.step FetchAll.workerStep at hstep
    dsimp only at hstep
    obtain ⟨w, hw, hstep⟩ := Option.bind_eq_some_iff.mp hstep
    obtain ⟨⟨w', shared⟩, hwstep, hstep⟩ := Option.bind_eq_some_iff.mp hstep
    cases hstep
    obtain ⟨hrunning, hopen, hsame⟩ := Worker.step_open hjobs hwstep
    refine ⟨hopen, hsame.trans hresults, ⟨by simp [hlength], fun worker hworker => ?_⟩, hcloser, hcaller, hstarted⟩
    obtain hworker | rfl := List.mem_or_eq_of_mem_set hworker
    · exact hworkers worker hworker
    · exact hrunning

/-! ## Every run ends

Each piece of work counts by a number, and a step replaces one piece by pieces of smaller
numbers: a job by the children of its sitemap, which are deeper. -/

section Termination

variable (maxDepth : ℕ)

def jobRank (depth : ℕ) : ℕ := 10 * (maxDepth + 1 - depth) + 10

def Worker.rank : Worker → Multiset ℕ
  | .receiving => {0}
  | .fetching job => {0} + {jobRank maxDepth job.depth - 1}
  | .failed _ _ => {0} + {3}
  | .storing job _ => {0} + {jobRank maxDepth job.depth - 2}
  | .children job _ rest => {0} + {3} + Multiset.replicate rest.length (jobRank maxDepth (job.depth + 1) + 3)
  | .marking job _ _ rest =>
    {0} + {3} + Multiset.replicate rest.length (jobRank maxDepth (job.depth + 1) + 3) +
      {jobRank maxDepth (job.depth + 1) + 2}
  | .sending job _ _ rest =>
    {0} + {3} + Multiset.replicate rest.length (jobRank maxDepth (job.depth + 1) + 3) +
      {jobRank maxDepth (job.depth + 1) + 1}
  | .reporting _ _ => {0} + {2}
  | .exited => 0

def Shared.rank (shared : Shared) : Multiset ℕ :=
  Multiset.ofList (shared.jobs.buffer.map (fun job => jobRank maxDepth job.depth)) +
    Multiset.replicate shared.results.buffer.length 1 + Multiset.replicate shared.errors.buffer.length 1

def Closer.rank : Closer → Multiset ℕ
  | .notStarted => 0
  | .waiting => {3}
  | .closingErrors => {2}
  | .done => 0

def Caller.rank : Caller → Multiset ℕ
  | .sendingRoot => {jobRank maxDepth 0 + 1}
  | .startingCloser => {4}
  | .drainingResults => {3}
  | .drainingErrors => {2}
  | .returned => 0

def State.rank (s : State) : Multiset ℕ :=
  (s.workers.map (Worker.rank maxDepth)).sum + (s.shared.rank maxDepth + s.closer.rank + s.caller.rank maxDepth)

lemma jobRank_pos (depth : ℕ) : 10 ≤ jobRank maxDepth depth := by
  unfold jobRank
  omega

variable {maxDepth}

/-- A child counts less than what is left of its parent. -/
lemma jobRank_succ {depth : ℕ} (h : depth < maxDepth) : jobRank maxDepth (depth + 1) + 10 = jobRank maxDepth depth := by
  unfold jobRank
  omega

/-- One piece is replaced by smaller ones. -/
lemma cutExpand_of_eq {before after t : Multiset ℕ} {a : ℕ} (ht : ∀ b ∈ t, b < a) (h : after + {a} = before + t) :
    CutExpand (· < ·) after before := ⟨t, a, ht, h⟩

lemma offer_rank {α : Type} (a : α) (ch : Channel α) :
    ∃ t : Multiset ℕ, (∀ b ∈ t, b = 1) ∧ Multiset.replicate (ch.offer a).buffer.length 1 =
      Multiset.replicate ch.buffer.length 1 + t := by
  obtain hsent | hdropped := ch.offer_buffer a
  · refine ⟨{1}, by simp, ?_⟩
    rw [hsent, List.length_append, List.length_singleton, Multiset.replicate_add]
    rfl
  · exact ⟨0, by simp, by rw [hdropped, add_zero]⟩

/-- A step of a worker. -/
lemma Worker.cutExpand_step {response : Except String Sitemap} {shared shared' : Shared} {w w' : Worker}
    (h : w.step maxDepth response shared = some (w', shared')) :
    CutExpand (· < ·) (w'.rank maxDepth + shared'.rank maxDepth) (w.rank maxDepth + shared.rank maxDepth) := by
  cases w with
  | receiving =>
    obtain ⟨⟨received, jobs⟩, hnext, heq⟩ := Option.map_eq_some_iff.mp h
    unfold Channel.next at hnext
    split at hnext
    · next job rest hbuffer =>
      cases hnext
      cases heq
      refine cutExpand_of_eq (t := {jobRank maxDepth job.depth - 1}) (a := jobRank maxDepth job.depth) ?_ ?_
      · have hpos := jobRank_pos maxDepth job.depth
        simp only [Multiset.mem_singleton, forall_eq]
        omega
      · simp only [Worker.rank, Shared.rank, Option.elim_some, hbuffer, List.map_cons, ← Multiset.cons_coe,
          ← Multiset.singleton_add]
        abel
    · split at hnext
      · cases hnext
        cases heq
        refine cutExpand_of_eq (t := 0) (a := 0) (by simp) ?_
        change 0 + shared.rank maxDepth + {0} = {0} + shared.rank maxDepth + 0
        abel
      · cases hnext
  | fetching job =>
    have hpos := jobRank_pos maxDepth job.depth
    cases response with
    | error err =>
      cases h
      refine cutExpand_of_eq (t := {3}) (a := jobRank maxDepth job.depth - 1) ?_ ?_
      · simp only [Multiset.mem_singleton, forall_eq]
        omega
      · simp only [Worker.rank]
        abel
    | ok sitemap =>
      cases h
      refine cutExpand_of_eq (t := {jobRank maxDepth job.depth - 2}) (a := jobRank maxDepth job.depth - 1) ?_ ?_
      · simp only [Multiset.mem_singleton, forall_eq]
        omega
      · simp only [Worker.rank]
        abel
  | failed job err =>
    obtain ⟨t, ht, hoffer⟩ := offer_rank ("sitemap: fetch " ++ job.url ++ ": " ++ err) shared.errors
    cases h
    refine cutExpand_of_eq (t := t) (a := 3) (fun b hb => by rw [ht b hb]; decide) ?_
    simp only [Worker.rank, Shared.rank, hoffer]
    abel
  | storing job sitemap =>
    obtain ⟨hjobs, hresults, herrors⟩ := store_channels sitemap.urls shared
    have hsame : (shared.store sitemap.urls).rank maxDepth = shared.rank maxDepth := by
      unfold Shared.rank
      rw [hjobs, hresults, herrors]
    have hpos := jobRank_pos maxDepth job.depth
    cases h
    rw [hsame]
    split
    · next hindex =>
      have hdepth : job.depth < maxDepth := by simpa using (Bool.and_eq_true_iff.mp hindex).1
      have hchild := jobRank_succ hdepth
      refine cutExpand_of_eq
        (t := {3} + Multiset.replicate sitemap.children.length (jobRank maxDepth (job.depth + 1) + 3))
        (a := jobRank maxDepth job.depth - 2) ?_ ?_
      · intro b hb
        obtain hb | hb := Multiset.mem_add.mp hb
        · rw [Multiset.mem_singleton.mp hb]
          omega
        · rw [Multiset.eq_of_mem_replicate hb]
          omega
      · simp only [Worker.rank]
        abel
    · refine cutExpand_of_eq (t := {2}) (a := jobRank maxDepth job.depth - 2) ?_ ?_
      · simp only [Multiset.mem_singleton, forall_eq]
        omega
      · simp only [Worker.rank]
        abel
  | children job sitemap rest =>
    cases rest with
    | nil =>
      cases h
      refine cutExpand_of_eq (t := {2}) (a := 3) (by simp) ?_
      simp only [Worker.rank, List.length_nil, Multiset.replicate_zero]
      abel
    | cons child rest =>
      cases h
      split
      · refine cutExpand_of_eq (t := 0) (a := jobRank maxDepth (job.depth + 1) + 3) (by simp) ?_
        simp only [Worker.rank, List.length_cons, Multiset.replicate_succ, ← Multiset.singleton_add]
        abel
      · refine cutExpand_of_eq (t := {jobRank maxDepth (job.depth + 1) + 2})
          (a := jobRank maxDepth (job.depth + 1) + 3) (by simp) ?_
        simp only [Worker.rank, List.length_cons, Multiset.replicate_succ, ← Multiset.singleton_add]
        abel
  | marking job sitemap child rest =>
    cases h
    refine cutExpand_of_eq (t := {jobRank maxDepth (job.depth + 1) + 1})
      (a := jobRank maxDepth (job.depth + 1) + 2) (by simp) ?_
    simp only [Worker.rank, Shared.rank]
    abel
  | sending job sitemap child rest =>
    obtain ⟨jobs, hsend, heq⟩ := Option.map_eq_some_iff.mp h
    cases heq
    refine cutExpand_of_eq (t := {jobRank maxDepth (job.depth + 1)})
      (a := jobRank maxDepth (job.depth + 1) + 1) (by simp) ?_
    simp only [Worker.rank, Shared.rank, Channel.send_eq_some hsend, List.map_append, List.map_cons, List.map_nil,
      ← Multiset.coe_add, Multiset.coe_singleton]
    abel
  | reporting job sitemap =>
    obtain ⟨t, ht, hoffer⟩ := offer_rank sitemap.urls shared.results
    cases h
    refine cutExpand_of_eq (t := t) (a := 2) (fun b hb => by rw [ht b hb]; decide) ?_
    simp only [Worker.rank, Shared.rank, hoffer]
    abel
  | exited => cases h

end Termination

/-- What a list counts with one of its elements replaced. -/
lemma sum_set {l : List Worker} {f : Worker → Multiset ℕ} {i : ℕ} {w : Worker} (hw : l[i]? = some w) :
    ∃ rest, (l.map f).sum = f w + rest ∧ ∀ w', ((l.set i w').map f).sum = f w' + rest := by
  induction l generalizing i with
  | nil => simp at hw
  | cons x l ih =>
    cases i with
    | zero =>
      obtain rfl : x = w := by simpa using hw
      exact ⟨(l.map f).sum, by simp, by simp⟩
    | succ i =>
      obtain ⟨rest, hsum, hset⟩ := ih (by simpa using hw)
      refine ⟨f x + rest, ?_, fun w' => ?_⟩
      · rw [List.map_cons, List.sum_cons, hsum]
        abel
      · rw [List.set_cons_succ, List.map_cons, List.sum_cons, hset]
        abel

namespace FetchAll

variable {p : FetchAll} {s s' : State}

/-- Every step uses up work. -/
lemma cutExpand_step (hs : Open s) (h : p.Step s s') :
    CutExpand (· < ·) (s'.rank p.depthLimit) (s.rank p.depthLimit) := by
  obtain ⟨turn, -, hstep⟩ := h
  unfold State.rank
  cases turn with
  | caller =>
    unfold step callerStep at hstep
    dsimp only at hstep
    split at hstep
    · next hcaller =>
      obtain ⟨jobs, hsend, rfl⟩ := Option.map_eq_some_iff.mp hstep
      have hpos := jobRank_pos p.depthLimit 0
      refine cutExpand_of_eq (t := {jobRank p.depthLimit 0} + {4}) (a := jobRank p.depthLimit 0 + 1) ?_ ?_
      · simp only [Multiset.mem_add, Multiset.mem_singleton]
        omega
      · simp only [Shared.rank, Caller.rank, hcaller, Channel.send_eq_some hsend, List.map_append, List.map_cons,
          List.map_nil, ← Multiset.coe_add, Multiset.coe_singleton]
        abel
    · next hcaller =>
      cases hstep
      refine cutExpand_of_eq (t := {3} + {3}) (a := 4) (by simp) ?_
      simp only [Closer.rank, Caller.rank, hcaller, hs.started (.inr hcaller)]
      abel
    · next hcaller =>
      obtain ⟨⟨received, results⟩, hnext, rfl⟩ := Option.map_eq_some_iff.mp hstep
      obtain ⟨result, rfl, hbuffer, -⟩ := Channel.next_eq_some hs.results hnext
      refine cutExpand_of_eq (t := 0) (a := 1) (by simp) ?_
      simp only [Shared.rank, Caller.rank, hcaller, hbuffer, Option.isSome_some, if_true, List.length_cons,
        Multiset.replicate_succ, ← Multiset.singleton_add]
      abel
    · next hcaller => exact absurd hcaller hs.caller.1
    · cases hstep
  | closer =>
    rw [step, hs.closerStep] at hstep
    cases hstep
  | worker i response =>
    unfold step workerStep at hstep
    dsimp only at hstep
    obtain ⟨w, hw, hstep⟩ := Option.bind_eq_some_iff.mp hstep
    obtain ⟨⟨w', shared⟩, hwstep, hstep⟩ := Option.bind_eq_some_iff.mp hstep
    cases hstep
    obtain ⟨rest, hsum, hset⟩ := sum_set (f := Worker.rank p.depthLimit) hw
    have hcut := (cutExpand_add_right (rest + (s.closer.rank + s.caller.rank p.depthLimit))).mpr
      (Worker.cutExpand_step hwstep)
    have hbefore : (s.workers.map (Worker.rank p.depthLimit)).sum + (s.shared.rank p.depthLimit + s.closer.rank +
        s.caller.rank p.depthLimit) = w.rank p.depthLimit + s.shared.rank p.depthLimit +
        (rest + (s.closer.rank + s.caller.rank p.depthLimit)) := by
      rw [hsum]
      abel
    have hafter : ((s.workers.set i w').map (Worker.rank p.depthLimit)).sum + (shared.rank p.depthLimit +
        s.closer.rank + s.caller.rank p.depthLimit) = w'.rank p.depthLimit + shared.rank p.depthLimit +
        (rest + (s.closer.rank + s.caller.rank p.depthLimit)) := by
      rw [hset]
      abel
    rw [hbefore]
    exact hafter ▸ hcut

/-- From every state of a run a stuck one is reached. -/
lemma stuck_of_open (hs : Open s) : ∃ s', ReflTransGen p.Step s s' ∧ p.Stuck s' := by
  have hwf : WellFounded (CutExpand ((· < ·) : ℕ → ℕ → Prop)) := Nat.lt_wfRel.wf.cutExpand
  generalize hrank : s.rank p.depthLimit = rank
  induction rank using hwf.induction generalizing s with
  | _ rank ih =>
    by_cases hstuck : ∃ s₁, p.Step s s₁
    · obtain ⟨s₁, hstep⟩ := hstuck
      obtain ⟨s', hsteps, hs'⟩ := ih _ (hrank ▸ cutExpand_step hs hstep) (hs.step hstep) rfl
      exact ⟨s', .head hstep hsteps, hs'⟩
    · exact ⟨s, .refl, hs.caller.2, fun s₁ hstep => hstuck ⟨s₁, hstep⟩⟩

lemma Run.open {sent done : List FetchJob} (h : p.Run s sent done) : Open s := by
  induction h with
  | start => exact ⟨rfl, rfl, ⟨rfl, by simp [Worker.hasExited]⟩, .inl rfl, by simp, fun _ => rfl⟩
  | step turn _ hadmits hstep ih => exact ih.step ⟨turn, hadmits, hstep⟩

/-- A run can be continued along any steps. -/
lemma Run.steps {sent done : List FetchJob} (h : p.Run s sent done) (hsteps : ReflTransGen p.Step s s') :
    ∃ sent' done', p.Run s' sent' done' := by
  induction hsteps with
  | refl => exact ⟨sent, done, h⟩
  | tail _ hstep ih =>
    obtain ⟨sent', done', hrun⟩ := ih
    obtain ⟨turn, hadmits, hstep⟩ := hstep
    exact ⟨_, _, hrun.step turn hadmits hstep⟩

lemma not_fetchesAll (p : FetchAll) : ¬p.FetchesAll := by
  intro h
  have hstart : p.Run {} [] [] := .start
  obtain ⟨s, hsteps, hstuck⟩ := stuck_of_open (p := p) hstart.open
  obtain ⟨sent, done, hrun⟩ := hstart.steps hsteps
  exact h.progress s sent done hrun hstuck

/-- No run goes on forever. -/
lemma no_infinite_run {states : ℕ → State} (hstart : states 0 = {}) : ¬∀ n, p.Step (states n) (states (n + 1)) := by
  intro hsteps
  have hopen : ∀ n, Open (states n) := by
    intro n
    induction n with
    | zero =>
      rw [hstart]
      exact (Run.start : p.Run {} [] []).open
    | succ n ih => exact ih.step (hsteps n)
  have hwf : WellFounded (CutExpand ((· < ·) : ℕ → ℕ → Prop)) := Nat.lt_wfRel.wf.cutExpand
  exact (wellFounded_iff_isEmpty_descending_chain.mp hwf).false
    ⟨fun n => (states n).rank p.depthLimit, fun n => cutExpand_step (hopen n) (hsteps n)⟩

/-- Whatever the sitemaps answer, `FetchAll` returns in no run, no run goes on forever, and every
run can only be continued to a stuck state. -/
theorem fetchAll_never_returns (p : FetchAll) :
    (∀ s sent done, p.Run s sent done →
      s.caller ≠ .returned ∧ ∃ s', ReflTransGen p.Step s s' ∧ p.Stuck s') ∧
    (∀ states : ℕ → State, states 0 = {} → ¬∀ n, p.Step (states n) (states (n + 1))) ∧ ¬p.FetchesAll :=
  ⟨fun _ _ _ hrun => ⟨hrun.open.caller.2, stuck_of_open hrun.open⟩, fun _ hstart => no_infinite_run hstart,
    not_fetchesAll p⟩

lemma Run.turns {sent done : List FetchJob} (h : p.Run s sent done) {turns : List Turn}
    (hadmits : ∀ turn ∈ turns, ∀ s, p.Admits s turn) (hturns : turns.foldlM p.step s = some s') :
    ∃ sent' done', p.Run s' sent' done' := by
  induction turns generalizing s sent done with
  | nil =>
    cases hturns
    exact ⟨sent, done, h⟩
  | cons turn turns ih =>
    rw [List.foldlM_cons] at hturns
    obtain ⟨s₁, hstep, hturns⟩ := Option.bind_eq_some_iff.mp hturns
    exact ih (h.step turn (hadmits turn (by simp) s) hstep) (fun turn hmem => hadmits turn (by simp [hmem])) hturns

end FetchAll

section Sample

namespace Sample

/-- One sitemap without pages. -/
def emptySitemap : FetchAll where
  sitemapURL := "https://erg.ninja/sitemap.xml"
  maxDepth := 3
  responses _ := {.ok {}}

/-- The state in which all goroutines wait. -/
def waiting : State := { closer := .waiting, caller := .drainingResults }

def turns : List FetchAll.Turn :=
  [.caller, .worker 0 (.ok {}), .worker 0 (.ok {}), .worker 0 (.ok {}), .worker 0 (.ok {}), .caller, .caller]

lemma stuck_waiting : emptySitemap.Stuck waiting := by
  refine ⟨by decide, ?_⟩
  rintro s ⟨turn, -, hstep⟩
  cases turn with
  | caller => cases hstep
  | closer => cases hstep
  | worker i response =>
    match i with
    | 0 | 1 | 2 | 3 | 4 => cases hstep
    | i + 5 => cases hstep

end Sample

/-- With a single sitemap the workers, the closer and the caller end up waiting for each other. -/
theorem fetchAll_stuck_on_empty_sitemap : ¬Sample.emptySitemap.FetchesAll := by
  have hadmits : ∀ turn ∈ Sample.turns, ∀ s, Sample.emptySitemap.Admits s turn := by
    intro turn hturn s
    have hturns : turn = .caller ∨ turn = .worker 0 (.ok {}) := by
      simp only [Sample.turns, List.mem_cons, List.not_mem_nil] at hturn
      tauto
    obtain rfl | rfl := hturns
    · trivial
    · exact fun job _ => rfl
  obtain ⟨sent, done, hrun⟩ := FetchAll.Run.start.turns hadmits (show _ = some Sample.waiting from rfl)
  intro h
  exact h.progress _ sent done hrun Sample.stuck_waiting

end Sample

end ErgGo.Sitemaps
