import ErgGo.Lib.Program
import ErgGo.Lib.Runs

/-!
# Transactions under read committed

Any number of transactions run their statements on one database, in any order. A statement
sees what is committed and what its own transaction has written, and a write waits while
another open transaction has written one of its rows. COMMIT adds the writes of a
transaction to the committed rows. `Discipline.inv_run` is the rule for a whole run:
transactions that commit only what keeps an invariant, whatever others have committed
outside the rows they hold, keep it in every interleaving.
-/

namespace ReadCommitted
open Concurrent

/-- A database: the rows a statement waits for, its answer and its writes on the rows it
sees, what a write does, and the rows it locks. -/
structure Engine (Req : Type) (Res : Req → Type) (Write Lock σ : Type) where
  waits : Req → σ → List Lock
  exec : (q : Req) → σ → Res q × List Write
  apply : σ → Write → σ
  locks : Write → List Lock
  locks_subset : ∀ q s, (exec q s).2.flatMap locks ⊆ waits q s

/-- A transaction with what it has written and what is left of it, or its result. -/
inductive Session (Req : Type) (Res : Req → Type) (Write ε α : Type) where
  | running (pending : List Write) (rest : Program Req Res (Except ε α))
  | closed (result : Except ε α)

variable {Req Write Lock σ ε α β : Type} {Res : Req → Type}

def Session.pending : Session Req Res Write ε α → List Write
  | .running pending _ => pending
  | .closed _ => []

def Session.isClosed : Session Req Res Write ε α → Bool
  | .running _ _ => false
  | .closed _ => true

/-- The committed rows and the transactions. -/
structure Database (Req : Type) (Res : Req → Type) (Write σ ε α : Type) where
  committed : σ
  sessions : List (Session Req Res Write ε α)

/-- No transaction is in progress. -/
def Database.quiescent (db : Database Req Res Write σ ε α) : Bool := db.sessions.all Session.isClosed

def start (s : σ) (ps : List (Program Req Res (Except ε α))) : Database Req Res Write σ ε α :=
  ⟨s, ps.map (.running [])⟩

namespace Engine

variable (E : Engine Req Res Write Lock σ)

/-- The committed rows as a transaction sees them. -/
def view (s : σ) (pending : List Write) : σ := pending.foldl E.apply s

def held (pending : List Write) : List Lock := pending.flatMap E.locks

@[simp] lemma view_nil (s : σ) : E.view s [] = s := rfl

@[simp] lemma view_cons (s : σ) (w : Write) (ws : List Write) : E.view s (w :: ws) = E.view (E.apply s w) ws := rfl

lemma view_append (s : σ) (ws₁ ws₂ : List Write) : E.view s (ws₁ ++ ws₂) = E.view (E.view s ws₁) ws₂ :=
  List.foldl_append

@[simp] lemma held_nil : E.held [] = [] := rfl

@[simp] lemma held_append (ws₁ ws₂ : List Write) : E.held (ws₁ ++ ws₂) = E.held ws₁ ++ E.held ws₂ :=
  List.flatMap_append

variable [DecidableEq Lock]

/-- Another open transaction has written one of the rows. -/
def blocked (db : Database Req Res Write σ ε α) (i : Nat) (locks : List Lock) : Bool :=
  (db.sessions.eraseIdx i).any fun session => locks.any fun lock => lock ∈ E.held session.pending

/-- One step of transaction `i`: its next statement, COMMIT or ROLLBACK. A statement or a
COMMIT that fails rolls the transaction back. -/
def step (db : Database Req Res Write σ ε α) (choice : Nat × Option ε) : Database Req Res Write σ ε α :=
  match db.sessions[choice.1]?, choice.2 with
  | some (.running _ _), some e => ⟨db.committed, db.sessions.set choice.1 (.closed (.error e))⟩
  | some (.running _ (.done (.error e))), none =>
    ⟨db.committed, db.sessions.set choice.1 (.closed (.error e))⟩
  | some (.running pending (.done (.ok a))), none =>
    ⟨E.view db.committed pending, db.sessions.set choice.1 (.closed (.ok a))⟩
  | some (.running pending (.request q k)), none =>
    let r := E.exec q (E.view db.committed pending)
    if E.blocked db choice.1 (E.waits q (E.view db.committed pending)) then db
    else ⟨db.committed, db.sessions.set choice.1 (.running (pending ++ r.2) (k r.1))⟩
  | _, _ => db

def run (db : Database Req Res Write σ ε α) (schedule : List (Nat × Option ε)) : Database Req Res Write σ ε α :=
  schedule.foldl E.step db

/-- The statement that the step executes, and the rows it sees. -/
def executes (db : Database Req Res Write σ ε α) (choice : Nat × Option ε) : Option (Req × σ) :=
  match db.sessions[choice.1]?, choice.2 with
  | some (.running pending (.request q _)), none =>
    if E.blocked db choice.1 (E.waits q (E.view db.committed pending)) then none
    else some (q, E.view db.committed pending)
  | _, _ => none

/-- The step executes no statement, or one that satisfies `P` on the rows it sees. -/
def Meets (P : Req → σ → Prop) (db : Database Req Res Write σ ε α) (choice : Nat × Option ε) : Prop :=
  ∀ e ∈ E.executes db choice, P e.1 e.2

instance {P : Req → σ → Prop} [∀ q s, Decidable (P q s)] (db : Database Req Res Write σ ε α) (choice : Nat × Option ε) :
    Decidable (E.Meets P db choice) :=
  inferInstanceAs (Decidable (∀ e ∈ E.executes db choice, P e.1 e.2))

lemma disjoint_of_not_blocked {db : Database Req Res Write σ ε α} {i : Nat} {locks : List Lock}
    (h : E.blocked db i locks = false) {j : Nat} {session : Session Req Res Write ε α} (hij : j ≠ i)
    (hj : db.sessions[j]? = some session) : locks.Disjoint (E.held session.pending) := by
  intro lock hlock hsession
  have hmem : session ∈ db.sessions.eraseIdx i := by
    rw [List.mem_eraseIdx_iff_getElem?]
    exact ⟨j, hij, hj⟩
  unfold blocked at h
  rw [List.any_eq_false] at h
  have hany := h session hmem
  rw [Bool.not_eq_true, List.any_eq_false] at hany
  exact hany lock hlock (by simpa using hsession)

end Engine

/-- What the transactions of a system keep and rely on: an invariant of the committed rows,
what holding locks preserves whatever others commit, and what is asked of every statement. -/
structure Discipline (E : Engine Req Res Write Lock σ) where
  Inv : σ → Prop
  Frame : List Lock → σ → σ → Prop
  Meets : (q : Req) → σ → Prop
  refl : ∀ locks s, Frame locks s s
  trans : ∀ {locks s₁ s₂ s₃}, Frame locks s₁ s₂ → Frame locks s₂ s₃ → Frame locks s₁ s₃
  write : ∀ {locks s w}, (E.locks w).Disjoint locks → Frame locks s (E.apply s w)

namespace Discipline

variable {E : Engine Req Res Write Lock σ} (D : Discipline E)

lemma frame_view {locks : List Lock} {ws : List Write} (s : σ) (h : (E.held ws).Disjoint locks) :
    D.Frame locks s (E.view s ws) := by
  induction ws generalizing s with
  | nil => exact D.refl locks s
  | cons w ws ih =>
    have hw : (E.locks w).Disjoint locks := fun lock hlock => h (List.mem_append_left _ hlock)
    have hws : (E.held ws).Disjoint locks := fun lock hlock => h (List.mem_append_right _ hlock)
    exact D.trans (D.write hw) (ih _ hws)

/-- A transaction that has written `pending` when `s` is committed ends with `post`, whatever
the others commit before each of its statements. -/
def Safe (post : α → List Write → σ → Prop) : List Write → Program Req Res α → σ → Prop
  | pending, .done a, s => post a pending s
  | pending, .request q k, s => ∀ s', D.Inv s' → D.Frame (E.held pending) s s' →
    D.Meets q (E.view s' pending) →
      Safe post (pending ++ (E.exec q (E.view s' pending)).2) (k (E.exec q (E.view s' pending)).1) s'

/-- What is written may be committed: it keeps the invariant. -/
def Commits (pending : List Write) (s : σ) : Prop :=
  ∀ s', D.Inv s' → D.Frame (E.held pending) s s' → D.Inv (E.view s' pending)

/-- A postcondition for the transactions that succeed. -/
def OnSuccess (post : α → List Write → σ → Prop) (r : Except ε α) (pending : List Write) (s : σ) : Prop :=
  ∀ a, r = .ok a → post a pending s

variable {D}

lemma Commits.frame {pending : List Write} {s s' : σ} (h : D.Commits pending s)
    (hframe : D.Frame (E.held pending) s s') : D.Commits pending s' :=
  fun s'' hI h' => h s'' hI (D.trans hframe h')

lemma Safe.mono {post post' : α → List Write → σ → Prop} (h : ∀ a ws s, post a ws s → post' a ws s)
    {p : Program Req Res α} {pending : List Write} {s : σ} (hp : D.Safe post pending p s) :
    D.Safe post' pending p s := by
  induction p generalizing pending s with
  | done a => exact h a pending s hp
  | request q k ih => exact fun s' hI hframe hq => ih _ (hp s' hI hframe hq)

/-- Commits of others do not disturb a transaction. -/
lemma Safe.frame {post : α → List Write → σ → Prop}
    (hpost : ∀ a ws s s', D.Frame (E.held ws) s s' → post a ws s → post a ws s')
    {p : Program Req Res α} {pending : List Write} {s s' : σ} (hp : D.Safe post pending p s)
    (hframe : D.Frame (E.held pending) s s') : D.Safe post pending p s' := by
  cases p with
  | done a => exact hpost a pending s s' hframe hp
  | request q k => exact fun s'' hI h' hq => hp s'' hI (D.trans hframe h') hq

lemma Safe.bind {mid : α → List Write → σ → Prop} {post : β → List Write → σ → Prop}
    {p : Program Req Res α} {f : α → Program Req Res β} {pending : List Write} {s : σ}
    (hp : D.Safe mid pending p s) (hf : ∀ a ws s', mid a ws s' → D.Safe post ws (f a) s') :
    D.Safe post pending (p.bind f) s := by
  induction p generalizing pending s with
  | done a => exact hf a pending s hp
  | request q k ih => exact fun s' hI hframe hq => ih _ (hp s' hI hframe hq)

lemma Safe.run_bind (mid : α → List Write → σ → Prop) {post : β → List Write → σ → Prop}
    {x : ExceptT ε (Program Req Res) α} {f : α → ExceptT ε (Program Req Res) β} {pending : List Write} {s : σ}
    (hx : D.Safe (OnSuccess mid) pending x.run s)
    (hf : ∀ a ws s', mid a ws s' → D.Safe (OnSuccess post) ws (f a).run s') :
    D.Safe (OnSuccess post) pending (x >>= f).run s := by
  rw [Program.run_bind]
  apply hx.bind
  intro r ws s' hr
  cases r with
  | ok a => exact hf a ws s' (hr a rfl)
  | error e =>
    intro b hb
    cases hb

/-- A failed transaction is rolled back. -/
lemma safe_throw {post : α → List Write → σ → Prop} (e : ε) (pending : List Write) (s : σ) :
    D.Safe (OnSuccess post) pending (throw e : ExceptT ε (Program Req Res) α).run s := by
  rintro a ⟨⟩

lemma safe_pure {post : α → List Write → σ → Prop} {a : α} {pending : List Write} {s : σ} (h : post a pending s) :
    D.Safe (OnSuccess post) pending (pure a : ExceptT ε (Program Req Res) α).run s := by
  rintro _ ⟨⟩
  exact h

lemma safe_done {post : α → List Write → σ → Prop} {a : α} {pending : List Write} {s : σ} (h : post a pending s) :
    D.Safe post pending (Program.done a : Program Req Res α) s :=
  h

/-- A statement by itself. -/
lemma safe_send {Result : Req → Type}
    {E : Engine Req (fun q => Except ε (Result q)) Write Lock σ} {D : Discipline E} {q : Req}
    {post : Result q → List Write → σ → Prop} {pending : List Write} {s : σ}
    (h : ∀ s', D.Inv s' → D.Frame (E.held pending) s s' → D.Meets q (E.view s' pending) →
      ∀ r, (E.exec q (E.view s' pending)).1 = .ok r → post r (pending ++ (E.exec q (E.view s' pending)).2) s') :
    D.Safe (OnSuccess post) pending (ExceptT.mk (Program.send q)).run s :=
  fun s' hI hframe hq r hr => h s' hI hframe hq r hr

lemma safe_lift {post : α → List Write → σ → Prop} {x : Except ε α} {pending : List Write} {s : σ}
    (h : ∀ a, x = .ok a → post a pending s) :
    D.Safe (OnSuccess post) pending (liftM x : ExceptT ε (Program Req Res) α).run s :=
  h

variable [DecidableEq Lock]

/-- The invariant of a run: no two transactions hold one row, and each is safe. -/
structure Kept (D : Discipline E) (db : Database Req Res Write σ ε α) : Prop where
  inv : D.Inv db.committed
  disjoint : ∀ (i j : Nat) (session session' : Session Req Res Write ε α), i ≠ j → db.sessions[i]? = some session →
    db.sessions[j]? = some session' → (E.held session.pending).Disjoint (E.held session'.pending)
  safe : ∀ (i : Nat) pending rest, db.sessions[i]? = some (.running pending rest) →
    D.Safe (OnSuccess fun _ => D.Commits) pending rest db.committed

omit [DecidableEq Lock] in
/-- One transaction moves, and the others hold their rows through what it commits. -/
lemma Kept.update {db : Database Req Res Write σ ε α} (h : D.Kept db) {i : Nat} {s : σ}
    {session : Session Req Res Write ε α} (hinv : D.Inv s)
    (hframe : ∀ j session', j ≠ i → db.sessions[j]? = some session' →
      D.Frame (E.held session'.pending) db.committed s)
    (hdisjoint : ∀ j session', j ≠ i → db.sessions[j]? = some session' →
      (E.held session.pending).Disjoint (E.held session'.pending))
    (hsafe : ∀ pending rest, session = .running pending rest →
      D.Safe (OnSuccess fun _ => D.Commits) pending rest s) :
    D.Kept ⟨s, db.sessions.set i session⟩ := by
  have hget : ∀ j session', (db.sessions.set i session)[j]? = some session' →
      (j = i ∧ session' = session) ∨ (j ≠ i ∧ db.sessions[j]? = some session') := by
    intro j session' hj
    rw [List.getElem?_set] at hj
    split at hj
    · next hij =>
      split at hj
      · cases hj
        exact .inl ⟨hij.symm, rfl⟩
      · cases hj
    · next hij => exact .inr ⟨fun hji => hij hji.symm, hj⟩
  refine ⟨hinv, fun j k session₁ session₂ hjk hj hk => ?_, fun j pending rest hj => ?_⟩
  · obtain ⟨rfl, rfl⟩ | ⟨hji, hj'⟩ := hget j session₁ hj
    · obtain ⟨rfl, -⟩ | ⟨hki, hk'⟩ := hget k session₂ hk
      · exact absurd rfl hjk
      · exact hdisjoint k session₂ hki hk'
    · obtain ⟨rfl, rfl⟩ | ⟨hki, hk'⟩ := hget k session₂ hk
      · exact fun lock h₁ h₂ => hdisjoint j session₁ hji hj' h₂ h₁
      · exact h.disjoint j k session₁ session₂ hjk hj' hk'
  · obtain ⟨-, hsession⟩ | ⟨hji, hj'⟩ := hget j _ hj
    · exact hsafe pending rest hsession.symm
    · refine (h.safe j pending rest hj').frame ?_ (hframe j _ hji hj')
      exact fun r ws s₁ s₂ hs hr a ha => (hr a ha).frame hs

omit [DecidableEq Lock] in
/-- A transaction ends without committing. -/
lemma Kept.rollback {db : Database Req Res Write σ ε α} (h : D.Kept db) (i : Nat) (r : Except ε α) :
    D.Kept ⟨db.committed, db.sessions.set i (.closed r)⟩ := by
  refine h.update h.inv (fun _ _ _ _ => D.refl _ _) (fun _ _ _ _ lock hlock => ?_) (fun _ _ hr => ?_)
  · exact absurd hlock List.not_mem_nil
  · cases hr

lemma Kept.step {db : Database Req Res Write σ ε α} (h : D.Kept db) {choice : Nat × Option ε}
    (hmeets : E.Meets D.Meets db choice) : D.Kept (E.step db choice) := by
  unfold Engine.step
  split
  · exact h.rollback _ _
  · exact h.rollback _ _
  · next pending a hsession _ =>
    -- COMMIT: the invariant by safety, the rows the others hold by the disjoint locks
    have hcommits := h.safe _ _ _ hsession a rfl
    refine h.update (hcommits _ h.inv (D.refl _ _)) (fun j session hj hsession' => ?_)
      (fun _ _ _ _ lock hlock => absurd hlock List.not_mem_nil) (fun _ _ hr => by cases hr)
    exact D.frame_view _ (h.disjoint _ _ _ _ (Ne.symm hj) hsession hsession')
  · next pending q k hsession hchoice =>
    dsimp only
    split
    · exact h
    · next hblocked =>
      rw [Bool.not_eq_true] at hblocked
      have hq : D.Meets q (E.view db.committed pending) := by
        refine hmeets (q, E.view db.committed pending) ?_
        unfold Engine.executes
        rw [hsession, hchoice]
        exact if_neg (Bool.not_eq_true _ ▸ hblocked)
      refine h.update h.inv (fun _ _ _ _ => D.refl _ _) (fun j session hj hsession' => ?_) ?_
      · have hpending := h.disjoint _ _ _ _ (Ne.symm hj) hsession hsession'
        have hnew := Engine.disjoint_of_not_blocked E hblocked hj hsession'
        intro lock hlock
        rw [Session.pending, Engine.held_append, List.mem_append] at hlock
        exact hlock.elim (fun h => hpending h) (fun h => hnew (E.locks_subset _ _ h))
      · rintro _ _ ⟨⟩
        exact h.safe _ _ _ hsession _ h.inv (D.refl _ _) hq
  · exact h

/-- The rule of interleaved transactions. -/
theorem inv_run {s : σ} (hs : D.Inv s) {ps : List (Program Req Res (Except ε α))}
    (hps : ∀ p ∈ ps, D.Safe (OnSuccess fun _ => D.Commits) [] p s) {schedule : List (Nat × Option ε)}
    (hmeets : Runs.Throughout E.step (E.Meets D.Meets) (start s ps) schedule) :
    D.Inv (E.run (start s ps) schedule).committed := by
  have hstart : D.Kept (start s ps) := by
    have hget : ∀ (i : Nat) (session : Session Req Res Write ε α), (start s ps).sessions[i]? = some session →
        ∃ p ∈ ps, session = .running [] p := by
      intro i session hi
      obtain ⟨p, hp, rfl⟩ := List.mem_map.mp (List.mem_of_getElem? hi)
      exact ⟨p, hp, rfl⟩
    refine ⟨hs, fun i _ session _ _ hi _ => ?_, fun i pending rest hi => ?_⟩
    · obtain ⟨_, -, rfl⟩ := hget i session hi
      exact fun lock hlock => absurd hlock List.not_mem_nil
    · obtain ⟨p, hp, hsession⟩ := hget i _ hi
      injection hsession with hpending hrest
      subst hpending hrest
      exact hps rest hp
  suffices hkept : ∀ db : Database Req Res Write σ ε α, D.Kept db → Runs.Throughout E.step (E.Meets D.Meets) db schedule →
      D.Kept (E.run db schedule) from (hkept _ hstart hmeets).inv
  clear hmeets hstart
  intro db hdb hmeets
  induction schedule generalizing db with
  | nil => exact hdb
  | cons choice schedule ih => exact ih _ (hdb.step hmeets.1) hmeets.2

-- the rules above are the way to a transaction; unfolding it would run its program
attribute [irreducible] Safe

end Discipline

end ReadCommitted
