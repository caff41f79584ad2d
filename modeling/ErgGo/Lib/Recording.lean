import ErgGo.Lib.Provenance

/-!
# Recorded runs

A program run alone with the history it leaves, each request in the environment that comes
next. `EnsuresUnder` is the weakest precondition of the runs whose every event is as assumed,
given the events before it.
-/

namespace Concurrent
namespace Program

variable {Env Req σ α β : Type} {Res : Req → Type}
variable (exec : Env → (q : Req) → σ → Res q × σ)

/-- The result of the program and the world it leaves. -/
def recorded (envs : ℕ → Env) : Program Req Res α → World Env Req σ → α × World Env Req σ
  | .done a, w => (a, w)
  | .request q k, w =>
    let env := envs w.2.length
    (k (exec env q w.1).1).recorded envs ((exec env q w.1).2, w.2 ++ [⟨0, env, q, w.1⟩])

/-- Every outcome satisfies `post`, if every event satisfies `J` in the history before it. -/
def EnsuresUnder (J : List (Event Env Req σ) → Event Env Req σ → Prop) (post : α → World Env Req σ → Prop) :
    Program Req Res α → World Env Req σ → Prop
  | .done a, w => post a w
  | .request q k, w => ∀ env, J w.2 ⟨0, env, q, w.1⟩ →
    EnsuresUnder J post (k (exec env q w.1).1) ((exec env q w.1).2, w.2 ++ [⟨0, env, q, w.1⟩])

variable {exec} {J : List (Event Env Req σ) → Event Env Req σ → Prop}

variable (exec) in
lemma recorded_extends (envs : ℕ → Env) (p : Program Req Res α) (w : World Env Req σ) :
    w.2 <+: (p.recorded exec envs w).2.2 := by
  induction p generalizing w with
  | done a => exact List.prefix_rfl
  | request q k ih =>
    have hnext := ih (exec (envs w.2.length) q w.1).1
      ((exec (envs w.2.length) q w.1).2, w.2 ++ [⟨0, envs w.2.length, q, w.1⟩])
    exact (List.prefix_append w.2 _).trans hnext

variable (exec) in
lemma evaluates_recorded (envs : ℕ → Env) (p : Program Req Res α) (w : World Env Req σ) :
    Evaluates exec p w.1 (p.recorded exec envs w).1 (p.recorded exec envs w).2.1 := by
  induction p generalizing w with
  | done a => exact .done a w.1
  | request q k ih =>
    refine .request (envs w.2.length) ?_
    exact ih _ ((exec (envs w.2.length) q w.1).2, w.2 ++ [⟨0, envs w.2.length, q, w.1⟩])

variable (exec) in
/-- The events of the run are met in the environments of the sequence. -/
lemma recorded_env (envs : ℕ → Env) (p : Program Req Res α) (w : World Env Req σ) {e : Event Env Req σ}
    (he : e ∈ (p.recorded exec envs w).2.2) : e ∈ w.2 ∨ ∃ n, e.env = envs n := by
  induction p generalizing w with
  | done a => exact .inl he
  | request q k ih =>
    obtain hbefore | hafter := ih _ _ he
    · obtain hbefore | hnow := List.mem_append.mp hbefore
      · exact .inl hbefore
      · rw [List.mem_singleton.mp hnow]
        exact .inr ⟨w.2.length, rfl⟩
    · exact .inr hafter

theorem EnsuresUnder.sound {post : α → World Env Req σ → Prop} {p : Program Req Res α} {w : World Env Req σ}
    (hp : EnsuresUnder exec J post p w) (envs : ℕ → Env) (hJ : Provenance J (p.recorded exec envs w).2.2) :
    post (p.recorded exec envs w).1 (p.recorded exec envs w).2 := by
  induction p generalizing w with
  | done a => exact hp
  | request q k ih =>
    have hextends := recorded_extends exec envs (k (exec (envs w.2.length) q w.1).1)
      ((exec (envs w.2.length) q w.1).2, w.2 ++ [⟨0, envs w.2.length, q, w.1⟩])
    obtain ⟨rest, hrest⟩ := hextends
    have hfirst : J w.2 ⟨0, envs w.2.length, q, w.1⟩ := by
      refine hJ w.2 _ rest ?_
      rw [← List.singleton_append, ← List.append_assoc]
      exact hrest.symm
    exact ih _ (hp (envs w.2.length) hfirst) hJ

lemma EnsuresUnder.mono {post post' : α → World Env Req σ → Prop} {p : Program Req Res α} {w : World Env Req σ}
    (hp : EnsuresUnder exec J post p w) (h : ∀ a w', w.2 <+: w'.2 → post a w' → post' a w') :
    EnsuresUnder exec J post' p w := by
  induction p generalizing w with
  | done a => exact h a w List.prefix_rfl hp
  | request q k ih =>
    intro env henv
    exact ih _ (hp env henv) fun a w' hw' => h a w' ((List.prefix_append _ _).trans hw')

lemma EnsuresUnder.bind {mid : α → World Env Req σ → Prop} {post : β → World Env Req σ → Prop}
    {p : Program Req Res α} {f : α → Program Req Res β} {w : World Env Req σ}
    (hp : EnsuresUnder exec J mid p w)
    (hf : ∀ a w', w.2 <+: w'.2 → mid a w' → EnsuresUnder exec J post (f a) w') :
    EnsuresUnder exec J post (p.bind f) w := by
  induction p generalizing w with
  | done a => exact hf a w List.prefix_rfl hp
  | request q k ih =>
    intro env henv
    exact ih _ (hp env henv) fun a w' hw' => hf a w' ((List.prefix_append _ _).trans hw')

/-- A predicate of worlds that every event keeps holds when the program returns. -/
lemma EnsuresUnder.of_allRequests {P : Req → Prop} {I : World Env Req σ → Prop}
    (hI : ∀ env q w, P q → I w → I ((exec env q w.1).2, w.2 ++ [⟨0, env, q, w.1⟩])) {p : Program Req Res α}
    (hp : p.AllRequests P) {w : World Env Req σ} (hw : I w) : EnsuresUnder exec J (fun _ w' => I w') p w := by
  induction p generalizing w with
  | done a => exact hw
  | request q k ih => exact fun env _ => ih _ (hp.2 _) (hI env q w hp.1 hw)

section Failing

variable {ε : Type}

/-- A postcondition for each way to return. -/
def Outcome (post : α → World Env Req σ → Prop) (err : ε → World Env Req σ → Prop) :
    Except ε α → World Env Req σ → Prop
  | .ok a, w => post a w
  | .error e, w => err e w

/-- A postcondition that rules out failure. -/
abbrev Succeeds (post : α → World Env Req σ → Prop) : Except ε α → World Env Req σ → Prop :=
  Outcome post (fun _ _ => False)

variable {err : ε → World Env Req σ → Prop}

lemma EnsuresUnder.run_bind {mid : α → World Env Req σ → Prop} {post : β → World Env Req σ → Prop}
    {x : ExceptT ε (Program Req Res) α} {f : α → ExceptT ε (Program Req Res) β} {w : World Env Req σ}
    (hx : EnsuresUnder exec J (Outcome mid err) x.run w)
    (hf : ∀ a w', w.2 <+: w'.2 → mid a w' → EnsuresUnder exec J (Outcome post err) (f a).run w') :
    EnsuresUnder exec J (Outcome post err) (x >>= f).run w := by
  rw [Program.run_bind]
  refine hx.bind fun r w' hw' hr => ?_
  cases r with
  | ok a => exact hf a w' hw' hr
  | error e => exact hr

/-- A handler that meets the error's postcondition. -/
lemma EnsuresUnder.run_handle {mid : ε → World Env Req σ → Prop} {post : α → World Env Req σ → Prop}
    {x : ExceptT ε (Program Req Res) α} {h : ε → ExceptT ε (Program Req Res) α} {w : World Env Req σ}
    (hx : EnsuresUnder exec J (Outcome post mid) x.run w)
    (hh : ∀ e w', mid e w' → EnsuresUnder exec J (Outcome post err) (h e).run w') :
    EnsuresUnder exec J (Outcome post err) (tryCatch x h).run w := by
  rw [Program.run_tryCatch]
  refine hx.bind fun r w' _ hr => ?_
  cases r with
  | ok a => exact hr
  | error e => exact hh e w' hr

lemma EnsuresUnder.any (x : ExceptT ε (Program Req Res) α) (w : World Env Req σ) :
    EnsuresUnder exec J (Outcome (fun _ _ => True) (fun _ _ => True)) x.run w := by
  have hall : ∀ (p : Program Req Res (Except ε α)) (w : World Env Req σ), EnsuresUnder exec J (fun _ _ => True) p w := by
    intro p
    induction p with
    | done r => exact fun _ => trivial
    | request q k ih => exact fun w env _ => ih _ _
  refine (hall x.run w).mono fun r _ _ _ => ?_
  cases r with
  | ok a => trivial
  | error e => trivial

lemma EnsuresUnder.run_tryCatch {post : α → World Env Req σ → Prop} {x : ExceptT ε (Program Req Res) α}
    {h : ε → ExceptT ε (Program Req Res) α} {w : World Env Req σ}
    (hx : EnsuresUnder exec J (Succeeds post) x.run w) :
    EnsuresUnder exec J (Succeeds post) (tryCatch x h).run w :=
  hx.run_handle fun _ _ hfalse => hfalse.elim

end Failing

end Program
end Concurrent
