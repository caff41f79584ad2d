import ErgGo.Dedup.SimHash

/-!
# The two fingerprints of a crawled page

The crawl pipeline and the reindex job each tokenise the lower-cased text, hash every three
tokens in a row and add the hashes up, those at even places apart from those at odd ones.
They differ in the tokeniser: letters and numbers of any script in the pipeline, `a` to `z` and
`0` to `9` in the job.
-/

namespace ErgGo.Crawler
open Go Dedup

/-- `(r >= 'a' && r <= 'z') || (r >= '0' && r <= '9')`. -/
def isLowerOrDigit (r : Char) : Bool := ('a' ≤ r && r ≤ 'z') || ('0' ≤ r && r ≤ '9')

class WordRunes extends Unicode where
  /-- `unicode.IsNumber`. -/
  isNumber : Char → Bool
  ascii : ∀ r, isLowerOrDigit r → isLetter r || isNumber r
  space : !isLetter ' ' && !isNumber ' '

/-- A stored fingerprint, as far as it comes from the text. -/
structure ContentFingerprint where
  simHash : UInt64
  bucket : UInt16
  deriving DecidableEq

/-- `StoreFingerprint` computes the bucket again. -/
def stored (simHash : UInt64) : ContentFingerprint := ⟨simHash, (simHash >>> 48).toUInt16⟩

/-- `strings.FieldsFunc`. -/
def fieldsFunc (s : List Char) (f : Char → Bool) : List (List Char) := (s.splitOnP f).filter (· ≠ [])

def fnv1aHash (s : List Char) : UInt64 := fnvWrite fnvOffset64 (encodeRunes s)

/-- `if i%2 == 0 { v0 += h } else { v1 += h }`. -/
def addHash (v : UInt64 × UInt64) (i : ℕ) (h : UInt64) : UInt64 × UInt64 :=
  if i % 2 = 0 then (v.1 + h, v.2) else (v.1, v.2 + h)

def foldHashes (v : UInt64 × UInt64) : UInt64 := (v.1 &&& 0xFFFFFFFF) ^^^ (v.2 &&& 0xFFFFFFFF00000000)

section Service

variable [Library] [WordRunes]

def isWordRune (r : Char) : Bool := Unicode.isLetter r || WordRunes.isNumber r

def tokenize (text : List UInt8) : List (List Char) := fieldsFunc (lowerRunes text) (fun r => !isWordRune r)

def makeTrigrams (tokens : List (List Char)) : List (List Char) :=
  (List.range (tokens.length - 2)).map (fun i => [' '].intercalate ((tokens.drop i).take 3))

/-- The SimHash of the crawl pipeline. -/
def Service.computeSimHash (content : List UInt8) : UInt64 :=
  foldHashes ((makeTrigrams (tokenize content)).zipIdx.foldl (fun v (tg, i) => addHash v i (fnv1aHash tg)) (0, 0))

end Service

namespace Jobs

/-- One rune of the loop: the tokens so far and the current one. -/
def tokenizeRune (state : List (List Char) × List Char) (r : Char) : List (List Char) × List Char :=
  if isLowerOrDigit r then (state.1, state.2 ++ [r])
  else if state.2 ≠ [] then (state.1 ++ [state.2], [])
  else state

def tokenizeForSimhash (text : List Char) : List (List Char) :=
  let state := text.foldl tokenizeRune ([], [])
  if state.2 ≠ [] then state.1 ++ [state.2] else state.1

/-- `tokens[i] + " " + tokens[i+1] + " " + tokens[i+2]`. -/
def trigram (tokens : List (List Char)) (i : ℕ) : List Char :=
  tokens.getD i [] ++ [' '] ++ tokens.getD (i + 1) [] ++ [' '] ++ tokens.getD (i + 2) []

/-- The SimHash of the reindex job. -/
def computeSimHash [Library] (text : List UInt8) : UInt64 :=
  let tokens := tokenizeForSimhash (lowerRunes text)
  if tokens.length < 3 then 0
  else foldHashes ((List.range (tokens.length - 2)).foldl (fun v i => addHash v i (fnv1aHash (trigram tokens i))) (0, 0))

end Jobs

/-! ## Tokens -/

lemma tokenizeForSimhash_eq (text : List Char) :
    Jobs.tokenizeForSimhash text = fieldsFunc text (fun r => !isLowerOrDigit r) := by
  have hloop : ∀ (text : List Char) (tokens : List (List Char)) (current : List Char),
      (let state := text.foldl Jobs.tokenizeRune (tokens, current)
        if state.2 ≠ [] then state.1 ++ [state.2] else state.1) =
        tokens ++ (List.splitOnPPrepend (fun r => !isLowerOrDigit r) text current.reverse).filter (· ≠ []) := by
    intro text
    induction text with
    | nil =>
      intro tokens current
      by_cases hcurrent : current = []
      · simp [hcurrent]
      · simp [hcurrent]
    | cons r text ih =>
      intro tokens current
      rw [List.foldl_cons]
      by_cases hr : isLowerOrDigit r
      · have hstep : Jobs.tokenizeRune (tokens, current) r = (tokens, current ++ [r]) := if_pos hr
        rw [hstep, ih, List.splitOnPPrepend_cons_neg (by simp [hr]), List.reverse_append]
        rfl
      · rw [List.splitOnPPrepend_cons_pos (by simp [hr]), List.reverse_reverse]
        by_cases hcurrent : current = []
        · have hstep : Jobs.tokenizeRune (tokens, current) r = (tokens, []) := by
            simp [Jobs.tokenizeRune, hr, hcurrent]
          rw [hstep, ih, hcurrent]
          simp
        · have hstep : Jobs.tokenizeRune (tokens, current) r = (tokens ++ [current], []) := by
            simp [Jobs.tokenizeRune, hr, hcurrent]
          rw [hstep, ih]
          simp [hcurrent]
  exact hloop text [] []

lemma flatten_fieldsFunc (s : List Char) (f : Char → Bool) : (fieldsFunc s f).flatten = s.filter (fun r => !f r) := by
  have hsplit : ∀ (s acc : List Char), (List.splitOnPPrepend f s acc).flatten = acc.reverse ++ s.filter (fun r => !f r) := by
    intro s
    induction s with
    | nil => simp
    | cons r s ih =>
      intro acc
      by_cases hr : f r
      · rw [List.splitOnPPrepend_cons_pos hr, List.flatten_cons, ← List.splitOnPPrepend_nil_right, ih]
        simp [hr]
      · rw [List.splitOnPPrepend_cons_neg (Bool.not_eq_true _ ▸ hr), ih]
        simp [hr]
  rw [fieldsFunc, List.flatten_filter_ne_nil, ← List.splitOnPPrepend_nil_right, hsplit]
  rfl

lemma fieldsFunc_congr {s : List Char} {f g : Char → Bool} (h : ∀ r ∈ s, f r = g r) : fieldsFunc s f = fieldsFunc s g := by
  have hsplit : ∀ acc, List.splitOnPPrepend f s acc = List.splitOnPPrepend g s acc := by
    induction s with
    | nil => simp
    | cons r s ih =>
      intro acc
      obtain ⟨hr, hs⟩ := List.forall_mem_cons.mp h
      rw [List.splitOnPPrepend_cons_eq_if, List.splitOnPPrepend_cons_eq_if, hr, ← List.splitOnPPrepend_nil_right,
        ← List.splitOnPPrepend_nil_right, ih hs, ih hs]
  rw [fieldsFunc, fieldsFunc, ← List.splitOnPPrepend_nil_right, ← List.splitOnPPrepend_nil_right, hsplit]

/-- Two tokenisers of which one knows more runes agree where there are no others. -/
lemma fieldsFunc_eq_iff {s : List Char} {f g : Char → Bool} (hfg : ∀ r, f r → g r) :
    fieldsFunc s g = fieldsFunc s f ↔ ∀ r ∈ s, g r → f r := by
  constructor
  · intro htokens r hr hg
    by_contra hf
    have hfilter := congrArg List.flatten htokens
    rw [flatten_fieldsFunc, flatten_fieldsFunc] at hfilter
    have hmem : r ∈ s.filter (fun r => !f r) := List.mem_filter.mpr ⟨hr, by simpa using hf⟩
    rw [← hfilter, List.mem_filter, hg] at hmem
    cases hmem.2
  · intro h
    refine fieldsFunc_congr fun r hr => ?_
    by_cases hf : f r
    · rw [hf, hfg r hf]
    · have hg : ¬g r := fun hg => hf (h r hr hg)
      rw [Bool.not_eq_true] at hf hg
      rw [hf, hg]

/-- Every rune of a token belongs to tokens. -/
lemma mem_token {s token : List Char} {f : Char → Bool} {r : Char} (htoken : token ∈ fieldsFunc s f) (hr : r ∈ token) :
    ¬f r := by
  have hmem : r ∈ (fieldsFunc s f).flatten := List.mem_flatten_of_mem htoken hr
  rw [flatten_fieldsFunc, List.mem_filter] at hmem
  simpa using hmem.2

/-! ## Trigrams -/

section Trigrams

lemma makeTrigrams_cons (x y z : List Char) (tokens : List (List Char)) :
    makeTrigrams (x :: y :: z :: tokens) = (x ++ ' ' :: (y ++ ' ' :: z)) :: makeTrigrams (y :: z :: tokens) := by
  have hlength : (x :: y :: z :: tokens).length - 2 = (y :: z :: tokens).length - 2 + 1 := rfl
  have hfirst : [' '].intercalate [x, y, z] = x ++ ' ' :: (y ++ ' ' :: z) := by simp [List.intercalate]
  unfold makeTrigrams
  rw [hlength, List.range_succ_eq_map, List.map_cons, List.map_map, ← hfirst]
  rfl

lemma makeTrigrams_of_short {tokens : List (List Char)} (h : tokens.length < 3) : makeTrigrams tokens = [] := by
  have hnone : tokens.length - 2 = 0 := by omega
  rw [makeTrigrams, hnone]
  rfl

/-- The first blank ends the first token. -/
lemma append_blank_inj {x x' u u' : List Char} (hx : ' ' ∉ x) (hx' : ' ' ∉ x') (h : x ++ ' ' :: u = x' ++ ' ' :: u') :
    x = x' ∧ u = u' := by
  have htoken : ∀ {x u : List Char}, ' ' ∉ x → (x ++ ' ' :: u).takeWhile (· ≠ ' ') = x := by
    intro x u hx
    have hall : ∀ r ∈ x, decide (r ≠ ' ') = true := by
      intro r hr
      refine decide_eq_true fun hblank => hx ?_
      rw [← hblank]
      exact hr
    rw [List.takeWhile_append_of_pos hall]
    simp
  have hsame := congrArg (List.takeWhile (· ≠ ' ')) h
  rw [htoken hx, htoken hx'] at hsame
  subst hsame
  exact ⟨rfl, (List.cons.inj (List.append_cancel_left h)).2⟩

/-- Tokens without blanks can be told from the trigrams, if there are three. -/
lemma tokens_of_makeTrigrams {tokens tokens' : List (List Char)} (hblank : ∀ t ∈ tokens, ' ' ∉ t)
    (hblank' : ∀ t ∈ tokens', ' ' ∉ t) (hlength : 3 ≤ tokens.length) (hsame : makeTrigrams tokens = makeTrigrams tokens') :
    tokens = tokens' := by
  have hthree : ∀ tokens : List (List Char), 3 ≤ tokens.length → ∃ x y z rest, tokens = x :: y :: z :: rest := by
    intro tokens h
    refine ⟨tokens[0], tokens[1], tokens[2], tokens.drop 3, ?_⟩
    rw [← List.drop_eq_getElem_cons h, ← List.drop_eq_getElem_cons, ← List.drop_eq_getElem_cons, List.drop_zero]
  induction tokens generalizing tokens' with
  | nil => cases hlength
  | cons x rest ih =>
    obtain ⟨x, y, z, rest, heq⟩ := hthree _ hlength
    cases heq
    rw [makeTrigrams_cons] at hsame
    have hlength' : 3 ≤ tokens'.length := by
      by_contra hshort
      rw [makeTrigrams_of_short (not_le.mp hshort)] at hsame
      cases hsame
    obtain ⟨x', y', z', rest', rfl⟩ := hthree tokens' hlength'
    rw [makeTrigrams_cons, List.cons.injEq] at hsame
    obtain ⟨hfirst, hothers⟩ := hsame
    have hx := hblank x List.mem_cons_self
    have hx' := hblank' x' List.mem_cons_self
    obtain ⟨hxx', hsecond⟩ := append_blank_inj hx hx' hfirst
    have hy := hblank y (by simp)
    have hy' := hblank' y' (by simp)
    obtain ⟨hyy', hzz'⟩ := append_blank_inj hy hy' hsecond
    subst hxx' hyy' hzz'
    cases rest with
    | nil =>
      cases rest' with
      | nil => rfl
      | cons w' rest' =>
        rw [makeTrigrams_cons] at hothers
        cases hothers
    | cons w rest =>
      have hrest := ih (fun t ht => hblank t (List.mem_cons_of_mem _ ht))
        (fun t ht => hblank' t (List.mem_cons_of_mem _ ht)) (by simp) hothers
      rw [hrest]

lemma trigram_eq (tokens : List (List Char)) {i : ℕ} (hi : i + 2 < tokens.length) :
    Jobs.trigram tokens i = [' '].intercalate ((tokens.drop i).take 3) := by
  have hdrop : (tokens.drop i).take 3 = [tokens[i], tokens[i + 1], tokens[i + 2]] := by
    rw [List.drop_eq_getElem_cons (by omega), List.drop_eq_getElem_cons (by omega), List.drop_eq_getElem_cons hi]
    rfl
  rw [hdrop, Jobs.trigram, List.getD_eq_getElem _ _ (by omega), List.getD_eq_getElem _ _ (by omega),
    List.getD_eq_getElem _ _ hi]
  simp [List.intercalate]

end Trigrams

/-! ## The two fingerprints -/

section Agreement

variable [Library] [WordRunes]

/-- The pipeline and the job fingerprint the text alike. -/
def FingerprintsAgree (text : List UInt8) : Prop :=
  stored (Service.computeSimHash text) = stored (Jobs.computeSimHash text)

/-- Both see fewer than three tokens, or no letters and numbers but `a` to `z` and `0` to `9`. -/
def TokenisedAlike (text : List UInt8) : Prop :=
  (∀ r ∈ lowerRunes text, isWordRune r → isLowerOrDigit r) ∨
    (tokenize text).length < 3 ∧ (Jobs.tokenizeForSimhash (lowerRunes text)).length < 3

lemma service_computeSimHash_eq (text : List UInt8) : Service.computeSimHash text =
    foldHashes ((makeTrigrams (tokenize text)).zipIdx.foldl (fun v (tg, i) => addHash v i (fnv1aHash tg)) (0, 0)) := rfl

omit [WordRunes] in
lemma jobs_computeSimHash_eq (text : List UInt8) : Jobs.computeSimHash text =
    foldHashes ((makeTrigrams (Jobs.tokenizeForSimhash (lowerRunes text))).zipIdx.foldl
      (fun v (tg, i) => addHash v i (fnv1aHash tg)) (0, 0)) := by
  unfold Jobs.computeSimHash
  dsimp only
  generalize Jobs.tokenizeForSimhash (lowerRunes text) = tokens
  by_cases hshort : tokens.length < 3
  · rw [if_pos hshort, makeTrigrams_of_short hshort]
    rfl
  · rw [if_neg hshort, makeTrigrams, List.zipIdx_map, List.foldl_map]
    have hindex : ∀ n, (List.range n).zipIdx = (List.range n).map (fun i => (i, i)) := by
      intro n
      rw [List.zipIdx_eq_zip_range', List.length_range, ← List.range_eq_range', ← List.zip_of_prod]
      · rw [List.map_map]
        exact List.map_id _
      · rw [List.map_map]
        exact List.map_id _
    rw [hindex, List.foldl_map]
    refine congrArg foldHashes (List.foldl_ext _ _ _ fun v i hi => ?_)
    have hlast : i + 2 < tokens.length := by
      have hbound := List.mem_range.mp hi
      omega
    rw [trigram_eq tokens hlast]
    rfl

lemma tokenize_eq_iff (text : List UInt8) : tokenize text = Jobs.tokenizeForSimhash (lowerRunes text) ↔
    ∀ r ∈ lowerRunes text, isWordRune r → isLowerOrDigit r := by
  have hmore : ∀ r, !isWordRune r → !isLowerOrDigit r := by
    intro r hr
    by_contra hnot
    have hword : isWordRune r := WordRunes.ascii r (by simpa using hnot)
    rw [hword] at hr
    cases hr
  rw [tokenizeForSimhash_eq, tokenize, eq_comm, fieldsFunc_eq_iff hmore]
  refine forall₂_congr fun r _ => ?_
  rw [Bool.not_eq_true', Bool.not_eq_true', ← not_imp_not, Bool.not_eq_false, Bool.not_eq_false]

/-- Both hash the same trigrams exactly if the text is tokenised alike, and then the
fingerprints agree. -/
theorem fingerprintsAgree_of_tokenisedAlike (text : List UInt8) :
    (makeTrigrams (tokenize text) = makeTrigrams (Jobs.tokenizeForSimhash (lowerRunes text)) ↔ TokenisedAlike text) ∧
      (TokenisedAlike text → FingerprintsAgree text) := by
  have htrigrams : makeTrigrams (tokenize text) = makeTrigrams (Jobs.tokenizeForSimhash (lowerRunes text)) ↔
      TokenisedAlike text := by
    rw [TokenisedAlike, ← tokenize_eq_iff]
    have hblank : ∀ t ∈ tokenize text, ' ' ∉ t := by
      intro t ht hr
      refine mem_token ht hr ?_
      have hspace := WordRunes.space
      simpa [isWordRune] using hspace
    have hblank' : ∀ t ∈ Jobs.tokenizeForSimhash (lowerRunes text), ' ' ∉ t := by
      intro t ht hr
      rw [tokenizeForSimhash_eq] at ht
      exact mem_token ht hr (by decide)
    constructor
    · intro hsame
      by_cases hlong : 3 ≤ (tokenize text).length
      · exact .inl (tokens_of_makeTrigrams hblank hblank' hlong hsame)
      · by_cases hlong' : 3 ≤ (Jobs.tokenizeForSimhash (lowerRunes text)).length
        · exact .inl (tokens_of_makeTrigrams hblank' hblank hlong' hsame.symm).symm
        · exact .inr ⟨not_le.mp hlong, not_le.mp hlong'⟩
    · rintro (hsame | ⟨hshort, hshort'⟩)
      · rw [hsame]
      · rw [makeTrigrams_of_short hshort, makeTrigrams_of_short hshort']
  refine ⟨htrigrams, fun halike => ?_⟩
  rw [FingerprintsAgree, service_computeSimHash_eq, jobs_computeSimHash_eq, htrigrams.mpr halike]

end Agreement

section Sample

/-- The letters between U+00C0 and U+1EF9, among which are the Vietnamese ones, and no others. -/
@[reducible] def vietnameseWords : WordRunes where
  isLetter r := r.isAlpha || ('\u00c0' ≤ r && r ≤ '\u1ef9')
  isDigit r := r.isDigit
  isNumber r := r.isDigit
  ascii r h := by
    simp only [isLowerOrDigit, Bool.or_eq_true, Bool.and_eq_true, decide_eq_true_eq] at h
    obtain h | h := h
    · have hlower : r.isLower := Bool.and_eq_true_iff.mpr ⟨decide_eq_true h.1, decide_eq_true h.2⟩
      have halpha : r.isAlpha := Bool.or_eq_true_iff.mpr (.inr hlower)
      simp [halpha]
    · have hdigit : r.isDigit := by
        simp only [Char.isDigit, Bool.and_eq_true, decide_eq_true_eq]
        exact h
      simp [hdigit]
  space := by decide

attribute [local instance] asciiLibrary vietnameseWords

/-- The job splits the words at their accented letters. -/
theorem vietnamese_text_fingerprinted_twice : ¬FingerprintsAgree "học tốt nhé".toUTF8.data.toList := by
  unfold FingerprintsAgree
  decide

end Sample

end ErgGo.Crawler
