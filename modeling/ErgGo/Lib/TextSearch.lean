import Mathlib.Data.List.Infix

/-!
# Search for a bracketed text

`strings.Cut` and `strings.Split` at a text that begins and ends with signs of its own. In a text that
is written as a sequence of tokens such a separator does not lie across the end of a token.
-/

namespace Go

section Search

variable {α : Type} [DecidableEq α]

/-- `strings.Cut`, at a text. -/
def cutText (sep : List α) : List α → Option (List α × List α)
  | [] => if sep = [] then some ([], []) else none
  | c :: s =>
    if sep.isPrefixOf (c :: s) then some ([], (c :: s).drop sep.length)
    else (cutText sep s).map fun (before, after) => (c :: before, after)

/-- The pieces after at most this many cuts. -/
def splitWithin (sep : List α) : ℕ → List α → List (List α)
  | 0, s => [s]
  | n + 1, s =>
    match cutText sep s with
    | none => [s]
    | some (before, after) => before :: splitWithin sep n after

/-- `strings.Split`, at a text that is not empty. -/
def splitText (sep s : List α) : List (List α) := splitWithin sep s.length s

end Search

section Tokens

variable {α : Type} {l r : α} {sep : List α}

/-- The text begins with the one sign and ends with the other, and has them nowhere else. -/
def Bracketed (l r : α) (sep : List α) : Prop := ∃ label, sep = l :: label ++ [r] ∧ l ∉ label ∧ r ∉ label ∧ l ≠ r

/-- A token with the first sign in it ends with the second. -/
def Closed (l r : α) (token : List α) : Prop := l ∈ token → token.getLast? = some r

lemma Bracketed.ne_nil (h : Bracketed l r sep) : sep ≠ [] := by
  obtain ⟨label, rfl, -⟩ := h
  exact List.cons_ne_nil _ _

lemma Closed.tail {c : α} {token : List α} (h : Closed l r (c :: token)) : Closed l r token := by
  intro hmem
  have hlast := h (List.mem_cons_of_mem c hmem)
  cases token with
  | nil => cases hmem
  | cons d token => rwa [List.getLast?_cons_cons] at hlast

/-- What begins within a token ends there. -/
lemma prefix_of_closed (hsep : Bracketed l r sep) {token s : List α} (htoken : Closed l r token) (hne : token ≠ [])
    (h : sep <+: token ++ s) : sep <+: token := by
  obtain ⟨label, rfl, -, hlabel, hsigns⟩ := hsep
  obtain hle | hlt := le_or_gt (l :: label ++ [r]).length token.length
  · exact List.prefix_of_prefix_length_le h (List.prefix_append token s) hle
  · have hshort : token <+: l :: label := by
      have htoken : token <+: l :: label ++ [r] :=
        List.prefix_of_prefix_length_le (List.prefix_append token s) h hlt.le
      refine List.prefix_of_prefix_length_le htoken (List.prefix_append _ _) ?_
      simpa using Nat.le_of_lt_succ (by simpa using hlt)
    obtain ⟨c, token, rfl⟩ := List.exists_cons_of_ne_nil hne
    obtain ⟨rfl, -⟩ := List.cons_prefix_cons.mp hshort
    have hlast := List.mem_of_getLast? (htoken List.mem_cons_self)
    obtain hend | hend := List.mem_cons.mp (hshort.subset hlast)
    · exact absurd hend.symm hsigns
    · exact absurd hend hlabel

variable [DecidableEq α]

lemma cutText_self (hne : sep ≠ []) (s : List α) : cutText sep (sep ++ s) = some ([], s) := by
  obtain ⟨c, rest, rfl⟩ := List.exists_cons_of_ne_nil hne
  rw [List.cons_append, cutText, if_pos]
  · simp
  · simp

/-- A token without the separator is passed over. -/
lemma cutText_closed (hsep : Bracketed l r sep) {token : List α} (htoken : Closed l r token) (hfree : ¬sep <:+: token)
    (s : List α) : cutText sep (token ++ s) = (cutText sep s).map fun (before, after) => (token ++ before, after) := by
  induction token with
  | nil =>
    rw [List.nil_append]
    cases cutText sep s <;> rfl
  | cons c token ih =>
    have hnot : ¬sep <+: c :: token ++ s := fun hprefix =>
      hfree (prefix_of_closed hsep htoken (List.cons_ne_nil c token) hprefix).isInfix
    rw [List.cons_append, cutText, if_neg (by simpa using hnot),
      ih htoken.tail fun hinner => hfree (hinner.trans (List.suffix_cons c token).isInfix)]
    cases cutText sep s <;> rfl

lemma cutText_flatten (hsep : Bracketed l r sep) {tokens : List (List α)}
    (htokens : ∀ token ∈ tokens, Closed l r token ∧ ¬sep <:+: token) (s : List α) :
    cutText sep (tokens.flatten ++ s) =
      (cutText sep s).map fun (before, after) => (tokens.flatten ++ before, after) := by
  induction tokens with
  | nil =>
    rw [List.flatten_nil, List.nil_append]
    cases cutText sep s <;> rfl
  | cons token tokens ih =>
    obtain ⟨hclosed, hfree⟩ := htokens token List.mem_cons_self
    rw [List.flatten_cons, List.append_assoc, cutText_closed hsep hclosed hfree,
      ih fun token h => htokens token (List.mem_cons_of_mem _ h)]
    cases cutText sep s with
    | none => rfl
    | some pieces => simp

/-- Tokens none of which has the separator are not cut. -/
lemma cutText_eq_none (hsep : Bracketed l r sep) {tokens : List (List α)}
    (htokens : ∀ token ∈ tokens, Closed l r token ∧ ¬sep <:+: token) : cutText sep tokens.flatten = none := by
  have hcut := cutText_flatten hsep htokens []
  rwa [List.append_nil, cutText, if_neg hsep.ne_nil] at hcut

/-- A sequence of tokens is cut at the first that is the separator. -/
lemma cutText_eq_some (hsep : Bracketed l r sep) {before : List (List α)}
    (hbefore : ∀ token ∈ before, Closed l r token ∧ ¬sep <:+: token) (after : List (List α)) :
    cutText sep (before ++ sep :: after).flatten = some (before.flatten, after.flatten) := by
  rw [List.flatten_append, List.flatten_cons, cutText_flatten hsep hbefore, cutText_self hsep.ne_nil]
  simp

lemma splitWithin_flatten (hsep : Bracketed l r sep) {tokens : List (List α)}
    (htokens : ∀ token ∈ tokens, Closed l r token ∧ (sep <:+: token → token = sep)) {n : ℕ}
    (hn : tokens.count sep ≤ n) : splitWithin sep n tokens.flatten = (tokens.splitOn sep).map List.flatten := by
  have hfree {ts : List (List α)} (hts : ∀ token ∈ ts, token ∈ tokens) (hmem : sep ∉ ts) :
      ∀ token ∈ ts, Closed l r token ∧ ¬sep <:+: token := by
    intro token htoken
    obtain ⟨hclosed, honly⟩ := htokens token (hts token htoken)
    exact ⟨hclosed, fun hinner => hmem (honly hinner ▸ htoken)⟩
  induction n generalizing tokens with
  | zero =>
    have hmem : sep ∉ tokens := List.count_eq_zero.mp (Nat.le_zero.mp hn)
    rw [List.splitOn_eq_singleton hmem]
    rfl
  | succ n ih =>
    by_cases hmem : sep ∈ tokens
    · obtain ⟨before, after, rfl, hbefore⟩ := List.eq_append_cons_of_mem hmem
      have hafter : ∀ {ts : List (List α)}, (∀ token ∈ ts, token ∈ after) → ∀ token ∈ ts,
          token ∈ before ++ sep :: after := fun hts token htoken =>
        List.mem_append_right _ (List.mem_cons_of_mem _ (hts token htoken))
      have hcut := cutText_eq_some hsep (hfree (fun token h => List.mem_append_left _ h) hbefore) after
      rw [splitWithin, hcut, List.splitOn_append_cons_self_of_not_mem hbefore, List.map_cons]
      refine congrArg (before.flatten :: ·) (ih (fun token h => htokens token (hafter (fun _ h => h) token h)) ?_ ?_)
      · rw [List.count_append, List.count_cons_self] at hn
        omega
      · exact fun hts hmem => hfree (hafter hts) hmem
    · have hcut := cutText_eq_none hsep (hfree (fun _ h => h) hmem)
      rw [splitWithin, hcut, List.splitOn_eq_singleton hmem]
      rfl

lemma count_le_length_flatten (hne : sep ≠ []) (tokens : List (List α)) : tokens.count sep ≤ tokens.flatten.length := by
  induction tokens with
  | nil => exact Nat.zero_le _
  | cons token tokens ih =>
    rw [List.count_cons, List.flatten_cons, List.length_append]
    split
    · next hsame =>
      have hlength : 0 < token.length := List.length_pos_of_ne_nil (beq_iff_eq.mp hsame ▸ hne)
      omega
    · omega

/-- A sequence of tokens is split at those that are the separator. -/
theorem splitText_flatten (hsep : Bracketed l r sep) {tokens : List (List α)}
    (htokens : ∀ token ∈ tokens, Closed l r token ∧ (sep <:+: token → token = sep)) :
    splitText sep tokens.flatten = (tokens.splitOn sep).map List.flatten :=
  splitWithin_flatten hsep htokens (count_le_length_flatten hsep.ne_nil tokens)

end Tokens

end Go
