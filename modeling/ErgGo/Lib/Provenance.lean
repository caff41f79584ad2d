import ErgGo.Lib.Interleaving
import Mathlib.Data.List.Induction
import Mathlib.Order.Basic

/-!
# Where a request comes from

In an interleaving, what a program sends depends on the replies it has met before. A
provenance names, for every event, the earlier events that led to it. It is the protocol
whose invariant speaks of the history alone, next to a property of the store that no request
breaks.
-/

namespace Concurrent

variable {Env Req σ ε α β : Type} {Res : Req → Type}

/-- Every event of the history has the origin `J` asks for, in the history before it. -/
def Provenance (J : List (Event Env Req σ) → Event Env Req σ → Prop) (h : List (Event Env Req σ)) : Prop :=
  ∀ h₁ e h₂, h = h₁ ++ e :: h₂ → J h₁ e

lemma Provenance.nil {J : List (Event Env Req σ) → Event Env Req σ → Prop} : Provenance J [] := by
  intro h₁ e h₂ h
  simp at h

lemma Provenance.concat {J : List (Event Env Req σ) → Event Env Req σ → Prop} {h : List (Event Env Req σ)}
    {e : Event Env Req σ} (hh : Provenance J h) (he : J h e) : Provenance J (h ++ [e]) := by
  intro h₁ e' h₂ heq
  induction h₂ using List.reverseRecOn with
  | nil =>
    obtain ⟨rfl, hlast⟩ := List.append_inj' heq rfl
    cases hlast
    exact he
  | append_singleton h₂ last _ =>
    have heq' : h ++ [e] = (h₁ ++ e' :: h₂) ++ [last] := by
      rw [heq, List.append_assoc, List.cons_append]
    exact hh h₁ e' h₂ (List.append_inj' heq' rfl).1

lemma Provenance.of_mem {J : List (Event Env Req σ) → Event Env Req σ → Prop} {h : List (Event Env Req σ)}
    {e : Event Env Req σ} (hh : Provenance J h) (he : e ∈ h) : ∃ g, g <+: h ∧ J g e := by
  obtain ⟨g, rest, rfl⟩ := List.append_of_mem he
  exact ⟨g, List.prefix_append g _, hh g e rest rfl⟩

/-- The protocol of programs whose requests have the origin `J` and keep `I`. -/
def provenance (I : σ → Prop) (J : List (Event Env Req σ) → Event Env Req σ → Prop) : Protocol Env Req σ where
  Inv w := I w.1 ∧ Provenance J w.2
  Rely w w' := w.2 <+: w'.2
  refl _ := List.prefix_rfl
  trans h h' := h.trans h'

section Rules

variable {exec : Env → (q : Req) → σ → Res q × σ} {I : σ → Prop}
variable {J : List (Event Env Req σ) → Event Env Req σ → Prop} {i : Nat}

/-- A single request: it has its origin and keeps the invariant. -/
lemma safe_send {q : Req} {post : Res q → World Env Req σ → Prop} {w : World Env Req σ}
    (hI : ∀ env s, I s → I (exec env q s).2) (hJ : ∀ h env s, w.2 <+: h → I s → J h ⟨i, env, q, s⟩)
    (hpost : ∀ h env s, w.2 <+: h → I s →
      post (exec env q s).1 ((exec env q s).2, h ++ [⟨i, env, q, s⟩])) :
    (provenance I J).Safe exec i post (Program.send q) w := by
  rintro ⟨s, h⟩ ⟨hs, hprovenance⟩ hrely env
  refine ⟨⟨hI env s hs, hprovenance.concat (hJ h env s hrely hs)⟩, ?_, hpost h env s hrely hs⟩
  exact List.prefix_append h _

end Rules

/-- In every interleaving of programs that keep to a provenance, the history has it, the
store keeps its invariant, and each result was met by its postcondition at some time. -/
theorem provenance_run (exec : Env → (q : Req) → σ → Res q × σ) (I : σ → Prop)
    (J : List (Event Env Req σ) → Event Env Req σ → Prop) (posts : Nat → α → World Env Req σ → Prop) (s : σ)
    (ps : List (Program Req Res α)) (hI : I s)
    (hps : ∀ i p, ps[i]? = some p → (provenance I J).Safe exec i (posts i) p (s, []))
    (schedule : List (Nat × Env)) :
    let c := (start s ps).run exec schedule
    I c.store ∧ Provenance J c.history ∧
      ∀ i a, c.threads[i]? = some (.done a) → ∃ w, w.2 <+: c.history ∧ posts i a w := by
  obtain ⟨⟨hstore, hhistory⟩, hresults⟩ :=
    (provenance I J).safe_run exec posts s ps ⟨hI, Provenance.nil⟩ hps schedule
  exact ⟨hstore, hhistory, hresults⟩

/-- A property of the store that each event keeps holds at every event. -/
lemma Replays.before {exec : Env → (q : Req) → σ → Res q × σ} {I : σ → Prop} {s s' : σ}
    {h : List (Event Env Req σ)} (hr : Replays exec s h s') (hs : I s)
    (hI : ∀ e ∈ h, I e.before → I (e.after exec)) : ∀ e ∈ h, I e.before := by
  induction h generalizing s with
  | nil => simp
  | cons e rest ih =>
    obtain ⟨rfl, hr⟩ := hr
    intro e' he'
    obtain rfl | he' := List.mem_cons.mp he'
    · exact hs
    · exact ih hr (hI e (by simp) hs) (fun d hd => hI d (by simp [hd])) e' he'

/-- A property of stores that each event keeps, given that it held at all events before. -/
theorem Replays.persists {exec : Env → (q : Req) → σ → Res q × σ} {Q : σ → Prop} {s s' : σ}
    {h : List (Event Env Req σ)} (hr : Replays exec s h s') (hs : Q s)
    (hstep : ∀ h₁ e h₂, h = h₁ ++ e :: h₂ → (∀ a ∈ h₁, Q a.before) → Q e.before → Q (e.after exec)) :
    Q s' := by
  have hall : (∀ a ∈ h, Q a.before) ∧ Q s' := by
    induction h using List.reverseRecOn generalizing s' with
    | nil =>
      have heq : s = s' := hr
      exact ⟨by simp, heq ▸ hs⟩
    | append_singleton h e ih =>
      obtain ⟨s₁, hextends, rfl, rfl⟩ := replays_append.mp hr
      obtain ⟨hbefore, hlast⟩ := ih hextends (fun h₁ e' h₂ heq => hstep h₁ e' (h₂ ++ [e]) (by simp [heq]))
      refine ⟨fun a ha => ?_, hstep h e [] rfl hbefore hlast⟩
      obtain ha | ha := List.mem_append.mp ha
      · exact hbefore a ha
      · rw [List.mem_singleton.mp ha]
        exact hlast
  exact hall.2

/-- What leads from one event to a later one. -/
lemma Replays.between {exec : Env → (q : Req) → σ → Res q × σ} {s s' : σ} {h₁ h₂ h₃ : List (Event Env Req σ)}
    {d e : Event Env Req σ} (hr : Replays exec s (h₁ ++ d :: (h₂ ++ e :: h₃)) s') :
    Replays exec (d.after exec) h₂ e.before := by
  obtain ⟨s₁, -, rfl, hrest⟩ := replays_append.mp hr
  obtain ⟨s₂, hbetween, rfl, -⟩ := replays_append.mp hrest
  exact hbetween

lemma pairwise_of_splits {R : α → α → Prop} {l : List α}
    (h : ∀ l₁ a l₂ b l₃, l = l₁ ++ a :: (l₂ ++ b :: l₃) → R a b) : l.Pairwise R := by
  induction l with
  | nil => exact .nil
  | cons a l ih =>
    refine .cons (fun b hb => ?_) (ih fun l₁ x l₂ y l₃ heq => h (a :: l₁) x l₂ y l₃ (by simp [heq]))
    obtain ⟨l₂, l₃, rfl⟩ := List.append_of_mem hb
    exact h [] a l₂ b l₃ rfl

/-- Two elements are the same, or one stands before the other. -/
lemma order_of_mem {l : List α} {a b : α} (ha : a ∈ l) (hb : b ∈ l) :
    a = b ∨ (∃ l₁ l₂ l₃, l = l₁ ++ a :: (l₂ ++ b :: l₃)) ∨ ∃ l₁ l₂ l₃, l = l₁ ++ b :: (l₂ ++ a :: l₃) := by
  obtain ⟨l₁, l₂, rfl⟩ := List.append_of_mem ha
  obtain hb | hb := List.mem_append.mp hb
  · obtain ⟨m₁, m₂, rfl⟩ := List.append_of_mem hb
    exact .inr (.inr ⟨m₁, m₂, l₂, by simp⟩)
  · obtain rfl | hb := List.mem_cons.mp hb
    · exact .inl rfl
    · obtain ⟨m₁, m₂, rfl⟩ := List.append_of_mem hb
      exact .inr (.inl ⟨l₁, m₁, m₂, rfl⟩)

/-- Of what is listed in increasing order, no two elements give the same value. -/
lemma eq_of_filterMap_increasing [Preorder β] {f : α → Option β} {l : List α}
    (h : (l.filterMap f).Pairwise (· < ·)) {a b : α} (ha : a ∈ l) (hb : b ∈ l) {v : β} (hfa : f a = some v)
    (hfb : f b = some v) : a = b := by
  rw [List.pairwise_filterMap] at h
  induction l with
  | nil => cases ha
  | cons c l ih =>
    obtain ⟨hc, hl⟩ := List.pairwise_cons.mp h
    obtain rfl | hal := List.mem_cons.mp ha
    · obtain rfl | hbl := List.mem_cons.mp hb
      · rfl
      · exact absurd (hc b hbl v hfa v hfb) (lt_irrefl v)
    · obtain rfl | hbl := List.mem_cons.mp hb
      · exact absurd (hc a hal v hfb v hfa) (lt_irrefl v)
      · exact ih hl hal hbl

/-- The first of the elements with a property. -/
lemma exists_first {p : α → Prop} {l : List α} (h : ∃ a ∈ l, p a) :
    ∃ l₁ a l₂, l = l₁ ++ a :: l₂ ∧ p a ∧ ∀ b ∈ l₁, ¬p b := by
  induction l with
  | nil => simp at h
  | cons a l ih =>
    by_cases ha : p a
    · exact ⟨[], a, l, rfl, ha, fun _ hb => absurd hb List.not_mem_nil⟩
    · have hl : ∃ b ∈ l, p b := by
        obtain ⟨b, hb, hpb⟩ := h
        obtain rfl | hb := List.mem_cons.mp hb
        · exact absurd hpb ha
        · exact ⟨b, hb, hpb⟩
      obtain ⟨l₁, b, l₂, rfl, hb, hfirst⟩ := ih hl
      exact ⟨a :: l₁, b, l₂, rfl, hb, List.forall_mem_cons.mpr ⟨ha, hfirst⟩⟩

/-- The last of the elements with a property. -/
lemma exists_last {p : α → Prop} {l : List α} (h : ∃ a ∈ l, p a) :
    ∃ l₁ a l₂, l = l₁ ++ a :: l₂ ∧ p a ∧ ∀ b ∈ l₂, ¬p b := by
  induction l with
  | nil => simp at h
  | cons a l ih =>
    by_cases hl : ∃ b ∈ l, p b
    · obtain ⟨l₁, b, l₂, rfl, hb, hlast⟩ := ih hl
      exact ⟨a :: l₁, b, l₂, rfl, hb, hlast⟩
    · have ha : p a := by
        obtain ⟨b, hb, hpb⟩ := h
        obtain rfl | hb := List.mem_cons.mp hb
        · exact hpb
        · exact absurd ⟨b, hb, hpb⟩ hl
      exact ⟨[], a, l, rfl, ha, fun b hb hpb => hl ⟨b, hb, hpb⟩⟩

end Concurrent
