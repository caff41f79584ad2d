import ErgGo.Lib.Program
import Mathlib.Data.List.Basic
import Mathlib.Data.List.Induction

/-!
# Interleaved programs

Any number of programs share one store; a schedule picks, step by step, which of them
sends its next request. The history of a run keeps every step with the store it met, and
`safe_run` is the rule for a whole run: programs that keep a common invariant and change
the store only within a common rely relation keep both in every interleaving.
-/

namespace Concurrent

/-- One executed request: who sent it, in which environment, and the store it met. -/
structure Event (Env Req σ : Type) where
  thread : Nat
  env : Env
  req : Req
  before : σ

/-- The store, what is left of each program, and the history of executed requests. -/
structure Config (Env Req : Type) (Res : Req → Type) (σ α : Type) where
  store : σ
  threads : List (Program Req Res α)
  history : List (Event Env Req σ)

variable {Env Req σ α β : Type} {Res : Req → Type}
variable (exec : Env → (q : Req) → σ → Res q × σ)

def Event.after (e : Event Env Req σ) : σ := (exec e.env e.req e.before).2

def start (s : σ) (ps : List (Program Req Res α)) : Config Env Req Res σ α := ⟨s, ps, []⟩

/-- The chosen program sends its next request; a program that has returned does nothing. -/
def Config.step (c : Config Env Req Res σ α) (choice : Nat × Env) : Config Env Req Res σ α :=
  match c.threads[choice.1]? with
  | some (.request q k) =>
    ⟨(exec choice.2 q c.store).2, c.threads.set choice.1 (k (exec choice.2 q c.store).1),
      c.history ++ [⟨choice.1, choice.2, q, c.store⟩]⟩
  | _ => c

def Config.run (c : Config Env Req Res σ α) (schedule : List (Nat × Env)) : Config Env Req Res σ α :=
  schedule.foldl (Config.step exec) c

/-- A property of configurations kept by every executed request holds after every run. -/
theorem run_induction {motive : Config Env Req Res σ α → Prop}
    (hstep : ∀ (c : Config Env Req Res σ α) i env q k, c.threads[i]? = some (.request q k) →
      motive c → motive ⟨(exec env q c.store).2, c.threads.set i (k (exec env q c.store).1),
        c.history ++ [⟨i, env, q, c.store⟩]⟩)
    {c : Config Env Req Res σ α} (hc : motive c) (schedule : List (Nat × Env)) :
    motive (c.run exec schedule) := by
  induction schedule generalizing c with
  | nil => exact hc
  | cons choice rest ih =>
    refine ih (c := c.step exec choice) ?_
    unfold Config.step
    split
    · next q k h => exact hstep c choice.1 choice.2 q k h hc
    · exact hc

/-- A program keeps to the results it can return. -/
theorem run_returns {P : α → Prop} {c : Config Env Req Res σ α} (h : ∀ p ∈ c.threads, p.Returns P)
    (schedule : List (Nat × Env)) : ∀ p ∈ (c.run exec schedule).threads, p.Returns P := by
  refine run_induction (motive := fun c => ∀ p ∈ c.threads, p.Returns P) exec ?_ h schedule
  intro c i env q k hi hc p hp
  obtain hp | rfl := List.mem_or_eq_of_mem_set hp
  · exact hc p hp
  · exact hc _ (List.mem_of_getElem? hi) _

/-- The events follow each other from `s`: each meets the store the previous one left. -/
def Replays : σ → List (Event Env Req σ) → σ → Prop
  | s, [], s' => s = s'
  | s, e :: rest, s' => e.before = s ∧ Replays (e.after exec) rest s'

variable {exec}

lemma replays_append {s s' : σ} {h₁ h₂ : List (Event Env Req σ)} :
    Replays exec s (h₁ ++ h₂) s' ↔ ∃ s₁, Replays exec s h₁ s₁ ∧ Replays exec s₁ h₂ s' := by
  induction h₁ generalizing s with
  | nil => simp [Replays]
  | cons e rest ih => simp [Replays, ih, and_assoc]

/-- A property of stores kept by every event of a chain holds at its end. -/
lemma Replays.preserves {I : σ → Prop} {s s' : σ} {h : List (Event Env Req σ)}
    (hr : Replays exec s h s') (hs : I s)
    (hI : ∀ e ∈ h, I e.before → I (e.after exec)) : I s' := by
  induction h generalizing s with
  | nil => exact hr ▸ hs
  | cons e rest ih =>
    obtain ⟨rfl, hr⟩ := hr
    exact ih hr (hI e (by simp) hs) (fun e' he' => hI e' (by simp [he']))

lemma run_append (c : Config Env Req Res σ α) (schedule₁ schedule₂ : List (Nat × Env)) :
    c.run exec (schedule₁ ++ schedule₂) = (c.run exec schedule₁).run exec schedule₂ :=
  List.foldl_append

/-- A run extends the history by events that lead from its first store to its last. -/
theorem run_extends (c : Config Env Req Res σ α) (schedule : List (Nat × Env)) :
    ∃ h, (c.run exec schedule).history = c.history ++ h ∧
      Replays exec c.store h (c.run exec schedule).store := by
  refine run_induction (motive := fun c' => ∃ h, c'.history = c.history ++ h ∧
    Replays exec c.store h c'.store) exec ?_ ⟨[], by simp, rfl⟩ schedule
  rintro c' i env q k _ ⟨h, hhistory, hreplays⟩
  refine ⟨h ++ [⟨i, env, q, c'.store⟩], ?_, ?_⟩
  · rw [hhistory, List.append_assoc]
  · exact replays_append.mpr ⟨c'.store, hreplays, rfl, rfl⟩

theorem run_replays (s : σ) (ps : List (Program Req Res α)) (schedule : List (Nat × Env)) :
    Replays exec s ((start s ps).run exec schedule).history
      ((start s ps).run exec schedule).store := by
  obtain ⟨h, hhistory, hreplays⟩ := run_extends (start s ps) schedule
  rw [hhistory]
  exact hreplays

lemma step_history (c : Config Env Req Res σ α) (choice : Nat × Env) :
    (c.step exec choice).history = c.history ∧ (c.step exec choice).store = c.store ∨
      ∃ e, (c.step exec choice).history = c.history ++ [e] ∧ e.before = c.store ∧
        (c.step exec choice).store = e.after exec := by
  unfold Config.step
  split
  · next q k _ => exact .inr ⟨⟨choice.1, choice.2, q, c.store⟩, rfl, rfl, rfl⟩
  · exact .inl ⟨rfl, rfl⟩

/-- The environments of a run's events are those of its schedule. -/
lemma history_env (c : Config Env Req Res σ α) (schedule : List (Nat × Env)) {e : Event Env Req σ}
    (he : e ∈ (c.run exec schedule).history) : e ∈ c.history ∨ ∃ choice ∈ schedule, e.env = choice.2 := by
  induction schedule generalizing c with
  | nil => exact .inl he
  | cons choice rest ih =>
    obtain hstep | ⟨later, hlater, henv⟩ := ih (c.step exec choice) he
    · unfold Config.step at hstep
      split at hstep
      · obtain hbefore | hnow := List.mem_append.mp hstep
        · exact .inl hbefore
        · exact .inr ⟨choice, List.mem_cons_self, by rw [List.mem_singleton.mp hnow]⟩
      · exact .inl hstep
    · exact .inr ⟨later, List.mem_cons_of_mem _ hlater, henv⟩

/-- A property of stores holds all along a run exactly when every event is one that keeps it. -/
theorem forall_prefix_iff {I : σ → Prop} {Q : Event Env Req σ → Prop} {s : σ} (hs : I s)
    {ps : List (Program Req Res α)} {schedule : List (Nat × Env)}
    (hstep : ∀ e ∈ ((start s ps).run exec schedule).history, I e.before → (I (e.after exec) ↔ Q e)) :
    (∀ l, l <+: schedule → I ((start s ps).run exec l).store) ↔
      ∀ e ∈ ((start s ps).run exec schedule).history, Q e := by
  induction schedule using List.reverseRecOn with
  | nil => simp [Config.run, start, hs]
  | append_singleton schedule choice ih =>
    have hsteps := @step_history _ _ _ _ _ exec ((start s ps).run exec schedule) choice
    have hrun : (start s ps).run exec (schedule ++ [choice]) = ((start s ps).run exec schedule).step exec choice :=
      run_append _ _ _
    have hprefixes : (∀ l, l <+: schedule ++ [choice] → I ((start s ps).run exec l).store) ↔
        I ((start s ps).run exec (schedule ++ [choice])).store ∧ ∀ l, l <+: schedule → I ((start s ps).run exec l).store := by
      simp only [List.prefix_concat_iff, or_imp, forall_and, forall_eq]
    rw [hprefixes]
    obtain ⟨hhistory, hstore⟩ | ⟨e, hhistory, hbefore, hafter⟩ := hsteps
    · rw [hrun] at hstep ⊢
      rw [hhistory] at hstep ⊢
      rw [hstore, ih hstep, and_iff_right_iff_imp]
      exact fun h => (ih hstep).mpr h schedule (List.prefix_refl _)
    · rw [hrun] at hstep ⊢
      rw [hhistory] at hstep ⊢
      have hlast := hstep e (by simp)
      have ih' := ih (fun d hd => hstep d (List.mem_append_left _ hd))
      rw [hbefore] at hlast
      rw [hafter, ih', and_comm]
      simp only [List.mem_append, List.mem_singleton, or_imp, forall_and, forall_eq]
      exact and_congr_right fun h => hlast (ih'.mpr h schedule (List.prefix_refl _))

/-- Every executed request was sent by its thread's program. -/
theorem history_sent {P : Nat → Req → Prop} (s : σ) {ps : List (Program Req Res α)}
    (hps : ∀ i (p : Program Req Res α), ps[i]? = some p → p.AllRequests (P i))
    (schedule : List (Nat × Env)) :
    ∀ e ∈ ((start s ps).run exec schedule).history, P e.thread e.req := by
  refine (run_induction (motive := fun c =>
    (∀ i (p : Program Req Res α), c.threads[i]? = some p → p.AllRequests (P i)) ∧
      ∀ e ∈ c.history, P e.thread e.req) exec ?_ (c := start s ps) ⟨hps, by simp [start]⟩ schedule).2
  rintro c i env q k hi ⟨hthreads, hhistory⟩
  have hq := hthreads i _ hi
  refine ⟨fun j p hj => ?_, fun e he => ?_⟩
  · rw [List.getElem?_set] at hj
    split at hj
    · next hij =>
      subst hij
      split at hj
      · cases hj
        exact hq.2 _
      · cases hj
    · exact hthreads j p hj
  · rcases List.mem_append.mp he with he | he
    · exact hhistory e he
    · rw [List.mem_singleton] at he
      subst he
      exact hq.1

/-- What can become of a request: it is answered, it never arrives, or its reply is lost. -/
inductive Fault where
  | none
  | lost
  | unacknowledged
  deriving DecidableEq

/-- A store reached through a connection that can fail. -/
def withFaults {ε : Type} (failure : ε) (exec : Env → (q : Req) → σ → Except ε (Res q) × σ) :
    Env × Fault → (q : Req) → σ → Except ε (Res q) × σ
  | (env, .none), q, s => exec env q s
  | (_, .lost), _, s => (.error failure, s)
  | (env, .unacknowledged), q, s => (.error failure, (exec env q s).2)

section Faults

variable {ε : Type} (failure : ε) (exec : Env → (q : Req) → σ → Except ε (Res q) × σ)

lemma withFaults_store (env : Env × Fault) (q : Req) (s : σ) :
    (withFaults failure exec env q s).2 = s ∧ env.2 = .lost ∨
      (withFaults failure exec env q s).2 = (exec env.1 q s).2 ∧ env.2 ≠ .lost := by
  obtain ⟨env, fault⟩ := env
  cases fault <;> simp [withFaults]

variable {failure exec}

lemma withFaults_ok {env : Env × Fault} {q : Req} {s : σ} {r : Res q}
    (h : (withFaults failure exec env q s).1 = .ok r) :
    (exec env.1 q s).1 = .ok r ∧ (withFaults failure exec env q s).2 = (exec env.1 q s).2 := by
  obtain ⟨env, fault⟩ := env
  cases fault with
  | none => exact ⟨h, rfl⟩
  | lost => simp [withFaults] at h
  | unacknowledged => simp [withFaults] at h

end Faults

/-- The store together with the history that led to it. -/
abbrev World (Env Req σ : Type) := σ × List (Event Env Req σ)

def Config.world (c : Config Env Req Res σ α) : World Env Req σ := (c.store, c.history)

/-- What all programs of a system rely on and guarantee: an invariant of the world, and a
preorder bounding how each single request changes it. -/
structure Protocol (Env Req σ : Type) where
  Inv : World Env Req σ → Prop
  Rely : World Env Req σ → World Env Req σ → Prop
  refl : ∀ w, Rely w w
  trans : ∀ {w₁ w₂ w₃}, Rely w₁ w₂ → Rely w₂ w₃ → Rely w₁ w₃

namespace Protocol

variable (P : Protocol Env Req σ) (exec)

/-- From `w`, the program of thread `i` follows the protocol whatever the others do between
its requests, and when it returns the world satisfies `post`. -/
def Safe (i : Nat) (post : α → World Env Req σ → Prop) :
    Program Req Res α → World Env Req σ → Prop
  | .done a, w => post a w
  | .request q k, w => ∀ w', P.Inv w' → P.Rely w w' → ∀ env,
    let w'' : World Env Req σ := ((exec env q w'.1).2, w'.2 ++ [⟨i, env, q, w'.1⟩])
    P.Inv w'' ∧ P.Rely w' w'' ∧ Safe i post (k (exec env q w'.1).1) w''

variable {P exec} {i : Nat}

lemma Safe.mono {post post' : α → World Env Req σ → Prop} {p : Program Req Res α}
    {w : World Env Req σ} (hp : P.Safe exec i post p w)
    (h : ∀ a w', P.Rely w w' → post a w' → post' a w') : P.Safe exec i post' p w := by
  induction p generalizing w with
  | done a => exact h a w (P.refl w) hp
  | request q k ih =>
    intro w' hI hR env
    obtain ⟨hI', hR', hk⟩ := hp w' hI hR env
    exact ⟨hI', hR', ih _ hk fun a w₂ hw₂ => h a w₂ (P.trans hR (P.trans hR' hw₂))⟩

/-- Sequencing: the continuation starts in the world the first program returns in. -/
lemma Safe.bind {mid : α → World Env Req σ → Prop} {post : β → World Env Req σ → Prop}
    {p : Program Req Res α} {f : α → Program Req Res β} {w : World Env Req σ}
    (hp : P.Safe exec i mid p w)
    (hf : ∀ a w', P.Rely w w' → mid a w' → P.Safe exec i post (f a) w') :
    P.Safe exec i post (p.bind f) w := by
  induction p generalizing w with
  | done a => exact hf a w (P.refl w) hp
  | request q k ih =>
    intro w' hI hR env
    obtain ⟨hI', hR', hk⟩ := hp w' hI hR env
    exact ⟨hI', hR', ih _ hk fun a w₂ hw₂ => hf a w₂ (P.trans hR (P.trans hR' hw₂))⟩

/-- A program whose requests each keep to the protocol is safe. -/
lemma Safe.of_allRequests {Q : Req → Prop}
    (hQ : ∀ q, Q q → ∀ w, P.Inv w → ∀ env, let w' : World Env Req σ :=
      ((exec env q w.1).2, w.2 ++ [⟨i, env, q, w.1⟩])
      P.Inv w' ∧ P.Rely w w')
    {p : Program Req Res α} (hp : p.AllRequests Q) (w : World Env Req σ) :
    P.Safe exec i (fun _ _ => True) p w := by
  induction p generalizing w with
  | done a => trivial
  | request q k ih =>
    intro w' hI _ env
    obtain ⟨hI', hR'⟩ := hQ q hp.1 w' hI env
    exact ⟨hI', hR', ih _ (hp.2 _) _⟩

/-- A single request: its reply comes from some later world. -/
lemma Safe.send {q : Req} {w : World Env Req σ}
    (hq : ∀ w', P.Inv w' → P.Rely w w' → ∀ env, let w'' : World Env Req σ :=
      ((exec env q w'.1).2, w'.2 ++ [⟨i, env, q, w'.1⟩])
      P.Inv w'' ∧ P.Rely w' w'') :
    P.Safe exec i (fun r w'' => ∃ w' env, P.Inv w' ∧ P.Rely w w' ∧ r = (exec env q w'.1).1 ∧
      w'' = ((exec env q w'.1).2, w'.2 ++ [⟨i, env, q, w'.1⟩])) (Program.send q) w := by
  intro w' hI hR env
  obtain ⟨hI', hR'⟩ := hq w' hI hR env
  exact ⟨hI', hR', w', env, hI, hR, rfl, rfl⟩

section Failing

variable {ε : Type}

/-- Sequencing of calls that can fail, towards a postcondition of success. -/
lemma Safe.except_bind {mid : α → World Env Req σ → Prop} {post : β → World Env Req σ → Prop}
    {p : Program Req Res (Except ε α)} {k : Except ε α → Program Req Res (Except ε β)}
    {w : World Env Req σ} (hp : P.Safe exec i (Program.OnSuccess mid) p w)
    (hok : ∀ a w', P.Rely w w' → mid a w' → P.Safe exec i (Program.OnSuccess post) (k (.ok a)) w')
    (herror : ∀ e, k (.error e) = .done (.error e)) :
    P.Safe exec i (Program.OnSuccess post) (p.bind k) w := by
  apply hp.bind
  intro r w' hR hr
  cases r with
  | ok a => exact hok a w' hR hr
  | error e =>
    rw [herror]
    trivial

lemma Safe.run_bind {mid : α → World Env Req σ → Prop} {post : β → World Env Req σ → Prop}
    {x : ExceptT ε (Program Req Res) α} {f : α → ExceptT ε (Program Req Res) β} {w : World Env Req σ}
    (hx : P.Safe exec i (Program.OnSuccess mid) x.run w)
    (hf : ∀ a w', P.Rely w w' → mid a w' → P.Safe exec i (Program.OnSuccess post) (f a).run w') :
    P.Safe exec i (Program.OnSuccess post) (x >>= f).run w := by
  rw [Program.run_bind]
  exact hx.except_bind hf (fun _ => rfl)

lemma Safe.lift_bind {post : β → World Env Req σ → Prop} {x : Except ε α}
    {f : α → ExceptT ε (Program Req Res) β} {w : World Env Req σ}
    (hf : ∀ a, x = .ok a → P.Safe exec i (Program.OnSuccess post) (f a).run w) :
    P.Safe exec i (Program.OnSuccess post) ((liftM x : ExceptT ε (Program Req Res) α) >>= f).run w := by
  rw [Program.run_bind]
  cases x with
  | ok a => exact hf a rfl
  | error e => trivial

lemma Safe.run_tryCatch {post : α → World Env Req σ → Prop} {x : ExceptT ε (Program Req Res) α}
    {h : ε → ExceptT ε (Program Req Res) α} {w : World Env Req σ}
    (hx : P.Safe exec i (Program.OnSuccess post) x.run w)
    (hh : ∀ e w', P.Rely w w' → P.Safe exec i (Program.OnSuccess post) (h e).run w') :
    P.Safe exec i (Program.OnSuccess post) (tryCatch x h).run w := by
  rw [Program.run_tryCatch]
  apply hx.bind
  intro r w' hR hr
  cases r with
  | ok a => exact hr
  | error e => exact hh e w' hR

variable {Req₀ : Type} {Res₀ : Req₀ → Type} {h : (q : Req₀) → Program Req Res (Res₀ q)}

lemma Safe.interp_run_bind {mid : α → World Env Req σ → Prop} {post : β → World Env Req σ → Prop}
    {x : ExceptT ε (Program Req₀ Res₀) α} {f : α → ExceptT ε (Program Req₀ Res₀) β} {w : World Env Req σ}
    (hx : P.Safe exec i (Program.OnSuccess mid) (x.run.interp h) w)
    (hf : ∀ a w', P.Rely w w' → mid a w' →
      P.Safe exec i (Program.OnSuccess post) ((f a).run.interp h) w') :
    P.Safe exec i (Program.OnSuccess post) ((x >>= f).run.interp h) w := by
  rw [Program.interp_run_bind]
  exact hx.except_bind hf (fun _ => rfl)

lemma Safe.interp_lift_bind {post : β → World Env Req σ → Prop} {x : Except ε α}
    {f : α → ExceptT ε (Program Req₀ Res₀) β} {w : World Env Req σ}
    (hf : ∀ a, x = .ok a → P.Safe exec i (Program.OnSuccess post) ((f a).run.interp h) w) :
    P.Safe exec i (Program.OnSuccess post)
      (((liftM x : ExceptT ε (Program Req₀ Res₀) α) >>= f).run.interp h) w := by
  rw [Program.interp_run_bind]
  cases x with
  | ok a => exact hf a rfl
  | error e => trivial

end Failing

/-- The rule of parallel composition: in every interleaving of safe programs the invariant
holds, and each program that has returned met its postcondition in a world that has since
changed only within the rely relation. -/
theorem safe_run (P : Protocol Env Req σ) (exec : Env → (q : Req) → σ → Res q × σ)
    (posts : Nat → α → World Env Req σ → Prop) (s : σ) (ps : List (Program Req Res α))
    (hI : P.Inv (s, [])) (hps : ∀ i p, ps[i]? = some p → P.Safe exec i (posts i) p (s, []))
    (schedule : List (Nat × Env)) :
    let c := (start s ps).run exec schedule
    P.Inv c.world ∧
      ∀ i a, c.threads[i]? = some (.done a) → ∃ w, P.Rely w c.world ∧ posts i a w := by
  have hmain := run_induction (motive := fun c => P.Inv c.world ∧
      ∀ i p, c.threads[i]? = some p → ∃ w, P.Rely w c.world ∧ P.Safe exec i (posts i) p w)
    exec ?_ (c := start s ps) ⟨hI, fun i p hi => ⟨_, P.refl _, hps i p hi⟩⟩ schedule
  · obtain ⟨hInv, hThreads⟩ := hmain
    refine ⟨hInv, fun i a ha => ?_⟩
    obtain ⟨w, hR, hw⟩ := hThreads i _ ha
    exact ⟨w, hR, hw⟩
  · rintro c i env q k hi ⟨hInv, hThreads⟩
    obtain ⟨w, hR, hw⟩ := hThreads i _ hi
    obtain ⟨hInv', hR', hk⟩ := hw c.world hInv hR env
    refine ⟨hInv', fun j p hj => ?_⟩
    rw [List.getElem?_set] at hj
    split at hj
    · next hij =>
      subst hij
      split at hj
      · cases hj
        exact ⟨_, P.refl _, hk⟩
      · cases hj
    · obtain ⟨w₁, hR₁, hw₁⟩ := hThreads j p hj
      exact ⟨w₁, P.trans hR₁ hR', hw₁⟩

end Protocol

end Concurrent
