import Mathlib.Logic.Basic

/-!
# Programs over a store

A service call is a tree: it returns a value, or it sends one request to a store and goes
on with the reply. The same tree is run alone (`Evaluates`, with the weakest precondition
`Ensures`) or interleaved with others, and `interp` refines its requests into programs
over a lower store.
-/

namespace Concurrent

/-- A computation that talks to a store by requests `q : Req`, each answered in `Res q`. -/
inductive Program (Req : Type) (Res : Req → Type) (α : Type) where
  | done (a : α) : Program Req Res α
  | request (q : Req) (k : Res q → Program Req Res α) : Program Req Res α

namespace Program

variable {Req Req' σ Env α β γ : Type} {Res : Req → Type} {Res' : Req' → Type}

def bind (p : Program Req Res α) (f : α → Program Req Res β) : Program Req Res β :=
  match p with
  | .done a => f a
  | .request q k => .request q (fun r => (k r).bind f)

instance : Monad (Program Req Res) where
  pure := .done
  bind := .bind

/-- The program that sends one request and returns its reply. -/
def send (q : Req) : Program Req Res (Res q) := .request q .done

@[simp] lemma done_bind (a : α) (f : α → Program Req Res β) : (done a).bind f = f a := rfl

@[simp] lemma request_bind (q : Req) (k : Res q → Program Req Res α) (f : α → Program Req Res β) :
    (request q k).bind f = request q (fun r => (k r).bind f) := rfl

lemma bind_done (p : Program Req Res α) : p.bind .done = p := by
  induction p with
  | done a => rfl
  | request q k ih => simp only [request_bind, ih]

lemma bind_assoc (p : Program Req Res α) (f : α → Program Req Res β) (g : β → Program Req Res γ) :
    (p.bind f).bind g = p.bind (fun a => (f a).bind g) := by
  induction p with
  | done a => rfl
  | request q k ih => simp only [request_bind, ih]

instance : LawfulMonad (Program Req Res) :=
  LawfulMonad.mk' _ bind_done (fun _ _ => rfl) bind_assoc

/-- Every request is carried out by a program over a lower store. -/
def interp (h : (q : Req) → Program Req' Res' (Res q)) : Program Req Res α → Program Req' Res' α
  | .done a => .done a
  | .request q k => (h q).bind (fun r => (k r).interp h)

@[simp] lemma interp_done (h : (q : Req) → Program Req' Res' (Res q)) (a : α) :
    (done a : Program Req Res α).interp h = done a := rfl

@[simp] lemma interp_request (h : (q : Req) → Program Req' Res' (Res q)) (q : Req)
    (k : Res q → Program Req Res α) :
    (request q k).interp h = (h q).bind (fun r => (k r).interp h) := rfl

lemma interp_bind (h : (q : Req) → Program Req' Res' (Res q)) (p : Program Req Res α)
    (f : α → Program Req Res β) : (p.bind f).interp h = (p.interp h).bind (fun a => (f a).interp h) := by
  induction p with
  | done a => rfl
  | request q k ih => simp only [request_bind, interp_request, ih, bind_assoc]

/-- Whatever the replies, the program sends only requests that satisfy `P`. -/
def AllRequests (P : Req → Prop) : Program Req Res α → Prop
  | .done _ => True
  | .request q k => P q ∧ ∀ r, (k r).AllRequests P

lemma AllRequests.mono {P Q : Req → Prop} (hPQ : ∀ q, P q → Q q) {p : Program Req Res α}
    (hp : p.AllRequests P) : p.AllRequests Q := by
  induction p with
  | done a => trivial
  | request q k ih => exact ⟨hPQ q hp.1, fun r => ih r (hp.2 r)⟩

lemma AllRequests.of_forall {P : Req → Prop} (hP : ∀ q, P q) (p : Program Req Res α) : p.AllRequests P := by
  induction p with
  | done a => trivial
  | request q k ih => exact ⟨hP q, ih⟩

lemma AllRequests.bind {P : Req → Prop} {p : Program Req Res α} {f : α → Program Req Res β}
    (hp : p.AllRequests P) (hf : ∀ a, (f a).AllRequests P) : (p.bind f).AllRequests P := by
  induction p with
  | done a => exact hf a
  | request q k ih => exact ⟨hp.1, fun r => ih r (hp.2 r)⟩

lemma AllRequests.send_bind {P : Req → Prop} {q : Req} {f : Res q → Program Req Res β} (hq : P q)
    (hf : ∀ r, (f r).AllRequests P) : (send q >>= f).AllRequests P :=
  ⟨hq, hf⟩

lemma AllRequests.ite {P : Req → Prop} {c : Prop} [Decidable c] {p q : Program Req Res α}
    (hp : p.AllRequests P) (hq : q.AllRequests P) : (if c then p else q).AllRequests P := by
  split
  · exact hp
  · exact hq

/-- A refinement sends only requests that its request handler sends for requests of the
refined program. -/
lemma AllRequests.interp {P : Req → Prop} {P' : Req' → Prop}
    {h : (q : Req) → Program Req' Res' (Res q)} (hh : ∀ q, P q → (h q).AllRequests P')
    {p : Program Req Res α} (hp : p.AllRequests P) : (p.interp h).AllRequests P' := by
  induction p with
  | done a => trivial
  | request q k ih => exact (hh q hp.1).bind (fun r => ih r (hp.2 r))

/-- Whatever the replies, the program returns only results that satisfy `P`. -/
def Returns (P : α → Prop) : Program Req Res α → Prop
  | .done a => P a
  | .request _ k => ∀ r, (k r).Returns P

lemma Returns.bind {P : β → Prop} (p : Program Req Res α) {f : α → Program Req Res β} (hf : ∀ a, (f a).Returns P) :
    (p.bind f).Returns P := by
  induction p with
  | done a => exact hf a
  | request q k ih => exact ih

/-- Sequencing where the first program's results are known. -/
lemma Returns.seq {P : α → Prop} {Q : β → Prop} {p : Program Req Res α} {f : α → Program Req Res β}
    (hp : p.Returns P) (hf : ∀ a, P a → (f a).Returns Q) : (p.bind f).Returns Q := by
  induction p with
  | done a => exact hf a hp
  | request q k ih => exact fun r => ih r (hp r)

section Sequential

variable (exec : Env → (q : Req) → σ → Res q × σ)

/-- The program, run alone from `s`, can return `a` and leave the store `s'`. The store
answers each request in some environment: a clock reading, a fresh id, a fault. -/
inductive Evaluates : Program Req Res α → σ → α → σ → Prop
  | done (a : α) (s : σ) : Evaluates (.done a) s a s
  | request {q : Req} {k : Res q → Program Req Res α} {s s' : σ} {a : α} (env : Env) :
      Evaluates (k (exec env q s).1) (exec env q s).2 a s' → Evaluates (.request q k) s a s'

/-- Weakest precondition of a program run alone: every outcome satisfies `post`. -/
def Ensures (post : α → σ → Prop) : Program Req Res α → σ → Prop
  | .done a, s => post a s
  | .request q k, s => ∀ env, Ensures post (k (exec env q s).1) (exec env q s).2

variable {exec}

theorem Ensures.sound {post : α → σ → Prop} {p : Program Req Res α} {s s' : σ} {a : α}
    (hp : Ensures exec post p s) (he : Evaluates exec p s a s') : post a s' := by
  induction he with
  | done a s => exact hp
  | request env _ ih => exact ih (hp env)

lemma Ensures.mono {post post' : α → σ → Prop} (h : ∀ a s, post a s → post' a s)
    {p : Program Req Res α} {s : σ} (hp : Ensures exec post p s) : Ensures exec post' p s := by
  induction p generalizing s with
  | done a => exact h a s hp
  | request q k ih => exact fun env => ih _ (hp env)

lemma Ensures.bind {post : β → σ → Prop} {p : Program Req Res α} {f : α → Program Req Res β} {s : σ}
    (hp : Ensures exec (fun a s' => Ensures exec post (f a) s') p s) :
    Ensures exec post (p.bind f) s := by
  induction p generalizing s with
  | done a => exact hp
  | request q k ih => exact fun env => ih _ (hp env)

/-- A predicate kept by every request the program sends holds when the program returns. -/
lemma Ensures.of_allRequests {P : Req → Prop} {I : σ → Prop}
    (hI : ∀ env q s, P q → I s → I (exec env q s).2) {p : Program Req Res α}
    (hp : p.AllRequests P) {s : σ} (hs : I s) : Ensures exec (fun _ s' => I s') p s := by
  induction p generalizing s with
  | done a => exact hs
  | request q k ih => exact fun env => ih _ (hp.2 _) (hI env q s hp.1 hs)

/-- A run of a sequence from a run of each part. -/
lemma Evaluates.bind {p : Program Req Res α} {f : α → Program Req Res β} {s s₁ s₂ : σ} {a : α} {b : β}
    (hp : Evaluates exec p s a s₁) (hf : Evaluates exec (f a) s₁ b s₂) : Evaluates exec (p.bind f) s b s₂ := by
  induction hp with
  | done a s => exact hf
  | request env _ ih => exact .request env (ih hf)

/-- A run in environments of one kind. -/
lemma Evaluates.of_comp {Env' : Type} {g : Env' → Env} {p : Program Req Res α} {s s' : σ} {a : α}
    (h : Evaluates (fun env => exec (g env)) p s a s') : Evaluates exec p s a s' := by
  induction h with
  | done a s => exact .done a s
  | request env _ ih => exact .request (g env) ih

/-- The outcome of a program run alone when every request meets the same environment. -/
def alone (exec : Env → (q : Req) → σ → Res q × σ) (env : Env) : Program Req Res α → σ → α × σ
  | .done a, s => (a, s)
  | .request q k, s => (k (exec env q s).1).alone exec env (exec env q s).2

@[simp] lemma alone_done (env : Env) (a : α) (s : σ) :
    (done a : Program Req Res α).alone exec env s = (a, s) := rfl

@[simp] lemma alone_send (env : Env) (q : Req) (s : σ) :
    (send q : Program Req Res (Res q)).alone exec env s = exec env q s := rfl

lemma evaluates_alone (exec : Env → (q : Req) → σ → Res q × σ) (env : Env) (p : Program Req Res α) (s : σ) :
    Evaluates exec p s (p.alone exec env s).1 (p.alone exec env s).2 := by
  induction p generalizing s with
  | done a => exact .done a s
  | request q k ih => exact .request env (ih _ _)

lemma alone_bind (env : Env) (p : Program Req Res α) (f : α → Program Req Res β) (s : σ) :
    (p.bind f).alone exec env s =
      (f (p.alone exec env s).1).alone exec env (p.alone exec env s).2 := by
  induction p generalizing s with
  | done a => rfl
  | request q k ih => exact ih _ _

lemma Returns.alone {P : α → Prop} {p : Program Req Res α} (hp : p.Returns P) (env : Env) (s : σ) :
    P (p.alone exec env s).1 := by
  induction p generalizing s with
  | done a => exact hp
  | request q k ih => exact ih _ (hp _) _

/-- Requests that leave the store as it is. -/
lemma alone_of_allRequests {P : Req → Prop} {env : Env} (hP : ∀ q s, P q → (exec env q s).2 = s)
    {p : Program Req Res α} (hp : p.AllRequests P) (s : σ) : (p.alone exec env s).2 = s := by
  induction p generalizing s with
  | done a => rfl
  | request q k ih => exact (ih _ (hp.2 _) _).trans (hP q s hp.1)

end Sequential

section Failing

variable {ε : Type}

@[simp] lemma run_bind (x : ExceptT ε (Program Req Res) α) (f : α → ExceptT ε (Program Req Res) β) :
    (x >>= f).run = x.run.bind (fun r => match r with
      | .ok a => (f a).run
      | .error e => done (.error e)) := by
  refine congrArg (Program.bind x.run) (funext fun r => ?_)
  cases r <;> rfl

@[simp] lemma run_pure (a : α) : (pure a : ExceptT ε (Program Req Res) α).run = done (.ok a) := rfl

@[simp] lemma run_throw (e : ε) : (throw e : ExceptT ε (Program Req Res) α).run = done (.error e) := rfl

@[simp] lemma run_lift (x : Except ε α) :
    (liftM x : ExceptT ε (Program Req Res) α).run = done x := rfl

@[simp] lemma run_tryCatch (x : ExceptT ε (Program Req Res) α) (h : ε → ExceptT ε (Program Req Res) α) :
    (tryCatch x h).run = x.run.bind (fun r => match r with
      | .ok a => done (.ok a)
      | .error e => (h e).run) := by
  refine congrArg (Program.bind x.run) (funext fun r => ?_)
  cases r <;> rfl

/-- A program whose result the caller looks at itself. -/
lemma run_lift_bind (p : Program Req Res α) (f : α → ExceptT ε (Program Req Res) β) :
    (ExceptT.lift p >>= f).run = p.bind (fun a => (f a).run) := by
  rw [run_bind]
  exact bind_assoc p _ _

/-- A program of which every request is a call that can fail. -/
def hoist (h : (q : Req) → ExceptT ε (Program Req' Res') (Res q)) : Program Req Res α → ExceptT ε (Program Req' Res') α
  | .done a => pure a
  | .request q k => h q >>= fun r => (k r).hoist h

lemma hoist_send (h : (q : Req) → ExceptT ε (Program Req' Res') (Res q)) (q : Req) : (send q).hoist h = h q :=
  bind_pure (h q)

lemma hoist_bind (h : (q : Req) → ExceptT ε (Program Req' Res') (Res q)) (p : Program Req Res α)
    (f : α → Program Req Res β) : (p.bind f).hoist h = p.hoist h >>= fun a => (f a).hoist h := by
  induction p with
  | done a => exact (pure_bind a fun a => (f a).hoist h).symm
  | request q k ih =>
    change (h q >>= fun r => ((k r).bind f).hoist h) = (h q >>= fun r => (k r).hoist h) >>= fun a => (f a).hoist h
    rw [LawfulMonad.bind_assoc]
    exact congrArg (h q >>= ·) (funext ih)

lemma AllRequests.run_bind {P : Req → Prop} {x : ExceptT ε (Program Req Res) α}
    {f : α → ExceptT ε (Program Req Res) β} (hx : x.run.AllRequests P)
    (hf : ∀ a, (f a).run.AllRequests P) : (x >>= f).run.AllRequests P := by
  rw [Program.run_bind]
  apply hx.bind
  intro r
  cases r with
  | ok a => exact hf a
  | error e => trivial

lemma Returns.run_bind {P : Except ε β → Prop} (x : ExceptT ε (Program Req Res) α)
    {f : α → ExceptT ε (Program Req Res) β} (herror : ∀ e, P (.error e)) (hf : ∀ a, (f a).run.Returns P) :
    (x >>= f).run.Returns P := by
  rw [Program.run_bind]
  refine Returns.bind _ fun r => ?_
  cases r with
  | ok a => exact hf a
  | error e => exact herror e

lemma AllRequests.lift_bind {P : Req → Prop} {x : Except ε α} {f : α → ExceptT ε (Program Req Res) β}
    (hf : ∀ a, x = .ok a → (f a).run.AllRequests P) :
    ((liftM x : ExceptT ε (Program Req Res) α) >>= f).run.AllRequests P := by
  rw [Program.run_bind]
  cases x with
  | ok a => exact hf a rfl
  | error e => trivial

lemma AllRequests.run_tryCatch {P : Req → Prop} {x : ExceptT ε (Program Req Res) α}
    {h : ε → ExceptT ε (Program Req Res) α} (hx : x.run.AllRequests P)
    (hh : ∀ e, (h e).run.AllRequests P) : (tryCatch x h).run.AllRequests P := by
  rw [Program.run_tryCatch]
  apply hx.bind
  intro r
  cases r with
  | ok a => trivial
  | error e => exact hh e

lemma AllRequests.run_mapM {P : Req → Prop} {f : α → ExceptT ε (Program Req Res) β} {l : List α}
    (hf : ∀ a, (f a).run.AllRequests P) : (l.mapM f).run.AllRequests P := by
  induction l with
  | nil => trivial
  | cons a l ih =>
    rw [List.mapM_cons]
    exact (hf a).run_bind (fun b => ih.run_bind (fun bs => trivial))

lemma AllRequests.run_foldlM {P : Req → Prop} {f : β → α → ExceptT ε (Program Req Res) β} {l : List α}
    (hf : ∀ b a, (f b a).run.AllRequests P) (b : β) : (l.foldlM f b).run.AllRequests P := by
  induction l generalizing b with
  | nil => trivial
  | cons a l ih =>
    rw [List.foldlM_cons]
    exact (hf b a).run_bind ih

lemma interp_send (h : (q : Req) → Program Req' Res' (Res q)) (q : Req) :
    (send q : Program Req Res (Res q)).interp h = h q :=
  bind_done (h q)

lemma interp_run_bind (h : (q : Req) → Program Req' Res' (Res q)) (x : ExceptT ε (Program Req Res) α)
    (f : α → ExceptT ε (Program Req Res) β) :
    (x >>= f).run.interp h = (x.run.interp h).bind (fun r => match r with
      | .ok a => (f a).run.interp h
      | .error e => done (.error e)) := by
  rw [Program.run_bind, interp_bind]
  refine congrArg (Program.bind _) (funext fun r => ?_)
  cases r <;> rfl

/-- A postcondition for the calls that succeed. -/
def OnSuccess (post : α → σ → Prop) : Except ε α → σ → Prop
  | .ok a, s => post a s
  | .error _, _ => True

lemma Ensures.run_bind {exec : Env → (q : Req) → σ → Res q × σ} {post : Except ε β → σ → Prop}
    {x : ExceptT ε (Program Req Res) α} {f : α → ExceptT ε (Program Req Res) β} {s : σ}
    (hx : Ensures exec (fun r s' => match r with
      | .ok a => Ensures exec post (f a).run s'
      | .error e => post (.error e) s') x.run s) : Ensures exec post (x >>= f).run s := by
  rw [Program.run_bind]
  apply Ensures.bind
  refine hx.mono ?_
  intro r s' hr
  cases r with
  | ok a => exact hr
  | error e => exact hr

lemma Ensures.lift_bind {exec : Env → (q : Req) → σ → Res q × σ} {post : Except ε β → σ → Prop}
    {x : Except ε α} {f : α → ExceptT ε (Program Req Res) β} {s : σ}
    (herror : ∀ e, x = .error e → post (.error e) s)
    (hok : ∀ a, x = .ok a → Ensures exec post (f a).run s) :
    Ensures exec post ((liftM x : ExceptT ε (Program Req Res) α) >>= f).run s := by
  apply Ensures.run_bind
  cases x with
  | ok a => exact hok a rfl
  | error e => exact herror e rfl

lemma Evaluates.run_bind {exec : Env → (q : Req) → σ → Res q × σ} {x : ExceptT ε (Program Req Res) α}
    {f : α → ExceptT ε (Program Req Res) β} {s s₁ s₂ : σ} {a : α} {r : Except ε β}
    (hx : Evaluates exec x.run s (.ok a) s₁) (hf : Evaluates exec (f a).run s₁ r s₂) :
    Evaluates exec (x >>= f).run s r s₂ := by
  rw [Program.run_bind]
  exact hx.bind hf

lemma Evaluates.run_bind_error {exec : Env → (q : Req) → σ → Res q × σ} {x : ExceptT ε (Program Req Res) α}
    (f : α → ExceptT ε (Program Req Res) β) {s s₁ : σ} {e : ε} (hx : Evaluates exec x.run s (.error e) s₁) :
    Evaluates exec (x >>= f).run s (.error e) s₁ := by
  rw [Program.run_bind]
  exact hx.bind (.done _ _)

lemma Evaluates.lift_bind {exec : Env → (q : Req) → σ → Res q × σ} {x : Except ε α}
    {f : α → ExceptT ε (Program Req Res) β} {s s' : σ} {a : α} {r : Except ε β} (hx : x = .ok a)
    (hf : Evaluates exec (f a).run s r s') :
    Evaluates exec ((liftM x : ExceptT ε (Program Req Res) α) >>= f).run s r s' := by
  subst hx
  exact Evaluates.run_bind (.done _ _) hf

/-- What every turn of a loop keeps, and what it says of its result where it does not fail. -/
lemma Ensures.run_foldlM_result {exec : Env → (q : Req) → σ → Res q × σ} {I : σ → Prop} {J : β → Prop}
    {f : β → α → ExceptT ε (Program Req Res) β} {l : List α}
    (hstep : ∀ x, ∀ a ∈ l, ∀ s, I s → J x → Ensures exec (fun r s' => I s' ∧ ∀ y, r = .ok y → J y) (f x a).run s)
    {x : β} {s : σ} (hs : I s) (hx : J x) : Ensures exec (fun r s' => I s' ∧ ∀ y, r = .ok y → J y) (l.foldlM f x).run s := by
  induction l generalizing x s with
  | nil =>
    refine ⟨hs, fun y hy => ?_⟩
    cases hy
    exact hx
  | cons a l ih =>
    rw [List.foldlM_cons]
    refine Ensures.run_bind ((hstep x a List.mem_cons_self s hs hx).mono ?_)
    intro r s' ⟨hs', hy⟩
    cases r with
    | error e => exact ⟨hs', fun y hy => nomatch hy⟩
    | ok y => exact ih (fun x a ha => hstep x a (List.mem_cons_of_mem _ ha)) hs' (hy y rfl)

/-- What every turn of a loop keeps, the loop keeps, also when a turn fails. -/
lemma Ensures.run_foldlM_kept {exec : Env → (q : Req) → σ → Res q × σ} {I : σ → Prop}
    {f : β → α → ExceptT ε (Program Req Res) β} {l : List α}
    (hstep : ∀ b, ∀ a ∈ l, ∀ s, I s → Ensures exec (fun _ s' => I s') (f b a).run s) {b : β} {s : σ} (h : I s) :
    Ensures exec (fun _ s' => I s') (l.foldlM f b).run s := by
  refine (?_ : Ensures exec (fun r s' => I s' ∧ ∀ y, r = .ok y → True) (l.foldlM f b).run s).mono fun _ _ hs' => hs'.1
  refine Ensures.run_foldlM_result (fun b a ha s hs _ => ?_) h trivial
  exact (hstep b a ha s hs).mono fun _ _ hs' => ⟨hs', fun _ _ => trivial⟩

/-- A loop that counts its turns: what one turn keeps, all of them keep. -/
lemma Ensures.run_foldlM {exec : Env → (q : Req) → σ → Res q × σ} {I : Nat → β → σ → Prop}
    {f : β → α → ExceptT ε (Program Req Res) β}
    (hstep : ∀ n b a s, I n b s → Ensures exec (OnSuccess (I (n + 1))) (f b a).run s) {l : List α} {n : Nat} {b : β}
    {s : σ} (h : I n b s) : Ensures exec (OnSuccess (I (n + l.length))) (l.foldlM f b).run s := by
  induction l generalizing n b s with
  | nil => exact h
  | cons a l ih =>
    rw [List.foldlM_cons]
    apply Ensures.run_bind
    refine (hstep n b a s h).mono ?_
    intro r s' hr
    cases r with
    | error e => trivial
    | ok b' =>
      rw [List.length_cons, Nat.add_comm l.length, ← Nat.add_assoc]
      exact ih hr

/-- A loop whose turns do not fail. -/
lemma Ensures.run_foldlM_total {exec : Env → (q : Req) → σ → Res q × σ} {I : β → σ → Prop}
    {f : β → α → ExceptT ε (Program Req Res) β} {l : List α}
    (hstep : ∀ b, ∀ a ∈ l, ∀ s, I b s → Ensures exec (fun r s' => ∃ b', r = .ok b' ∧ I b' s') (f b a).run s) {b : β}
    {s : σ} (h : I b s) : Ensures exec (fun r s' => ∃ b', r = .ok b' ∧ I b' s') (l.foldlM f b).run s := by
  induction l generalizing b s with
  | nil => exact ⟨b, rfl, h⟩
  | cons a l ih =>
    rw [List.foldlM_cons]
    apply Ensures.run_bind
    refine (hstep b a List.mem_cons_self s h).mono ?_
    rintro _ s' ⟨b', rfl, hb'⟩
    exact ih (fun b a ha => hstep b a (List.mem_cons_of_mem _ ha)) hb'

section Alone

variable {exec : Env → (q : Req) → σ → Res q × σ} {env : Env} {x : ExceptT ε (Program Req Res) α}
  {f : α → ExceptT ε (Program Req Res) β} {s : σ}

lemma alone_run_bind {a : α} {s' : σ} (hx : x.run.alone exec env s = (.ok a, s')) :
    (x >>= f).run.alone exec env s = (f a).run.alone exec env s' := by
  rw [Program.run_bind, alone_bind, hx]

/-- A sequence that succeeds, run alone. -/
lemma alone_run_bind_ok {b : β} (h : ((x >>= f).run.alone exec env s).1 = .ok b) :
    ∃ a, (x.run.alone exec env s).1 = .ok a ∧
      ((f a).run.alone exec env (x.run.alone exec env s).2).1 = .ok b := by
  rw [Program.run_bind, alone_bind] at h
  cases hx : (x.run.alone exec env s).1 with
  | error e =>
    rw [hx] at h
    cases h
  | ok a =>
    rw [hx] at h
    exact ⟨a, rfl, h⟩

lemma alone_lift_bind {y : Except ε α} {a : α} (hy : y = .ok a) :
    ((liftM y : ExceptT ε (Program Req Res) α) >>= f).run.alone exec env s = (f a).run.alone exec env s := by
  rw [hy]
  exact alone_run_bind rfl

lemma alone_lift_bind_ok {y : Except ε α} {b : β}
    (h : (((liftM y : ExceptT ε (Program Req Res) α) >>= f).run.alone exec env s).1 = .ok b) :
    ∃ a, y = .ok a ∧ ((f a).run.alone exec env s).1 = .ok b :=
  alone_run_bind_ok h

end Alone

end Failing

end Program

end Concurrent
