import ErgGo.Dedup.SimHash

/-!
# Duplicates over runs

What `IsDuplicate` answers after a run of calls on one in-memory store. It sees the first
hundred fingerprints of the text's own bucket, while a near duplicate is any stored
fingerprint within the threshold. The two words may differ in their top bits, and the
bucket may hold more than a hundred.
-/

namespace ErgGo.Dedup
open Go Hamming

/-! ## The candidates -/

/-- Whether an entry with the SimHash is still in the map, where a later entry of the same
digest replaces an earlier one. -/
def InMemoryStore.holds (s : InMemoryStore) (simHash : UInt64) : Bool :=
  s.entries.any (fun e => e.fingerprint.simHash = simHash)

lemma isSome_find?_order {s : InMemoryStore} (visits : Visits s.entries) (i : ℕ) (simHash : UInt64) :
    ((visits.order i).find? (fun e => e.fingerprint.simHash = simHash)).isSome = s.holds simHash := by
  rw [InMemoryStore.holds, ← (visits.perm i).any_eq, Bool.eq_iff_iff, List.find?_isSome, List.any_eq_true]

/-- The loop finds an entry for each SimHash that is still held, up to the limit. -/
lemma map_collect {s : InMemoryStore} (visits : Visits s.entries) (limit : ℕ) (simhashes : List UInt64) (i : ℕ)
    (entries : List Entry) (hentries : entries.length ≤ limit) :
    (InMemoryStore.collect visits.order limit i simhashes entries).map (fun e => e.fingerprint.simHash) =
      entries.map (fun e => e.fingerprint.simHash) ++ (simhashes.filter s.holds).take (limit - entries.length) := by
  induction simhashes generalizing i entries with
  | nil => simp [InMemoryStore.collect]
  | cons sh simhashes ih =>
    rw [InMemoryStore.collect]
    split
    · have hfull : limit - entries.length = 0 := by omega
      rw [hfull, List.take_zero, List.append_nil]
    · have hholds := isSome_find?_order visits i sh
      split
      · rename_i e he
        have hsh : e.fingerprint.simHash = sh := by simpa using List.find?_some he
        have hroom : limit - entries.length = limit - (entries ++ [e]).length + 1 := by
          rw [List.length_append, List.length_singleton]
          omega
        rw [he, Option.isSome_some] at hholds
        rw [ih _ _ (by rw [List.length_append, List.length_singleton]; omega), List.filter_cons_of_pos hholds.symm, hroom,
          List.take_succ_cons, List.map_append, List.map_cons, List.map_nil, hsh, List.append_assoc, List.singleton_append]
      · rename_i hnone
        rw [hnone, Option.isSome_none] at hholds
        rw [ih _ _ hentries, List.filter_cons_of_neg (by simp [← hholds])]

lemma firstWithin_iff (d : Deduper) (simHash : UInt64) (candidates : List Entry) :
    (d.firstWithin simHash candidates).1 = true ↔
      ∃ sh ∈ candidates.map (fun e => e.fingerprint.simHash), (hammingDistance simHash sh : ℤ) ≤ d.hammingThreshold := by
  induction candidates with
  | nil => simp [Deduper.firstWithin]
  | cons candidate candidates ih =>
    rw [List.map_cons, List.exists_mem_cons_iff, ← ih, Deduper.firstWithin]
    by_cases hwithin : (hammingDistance simHash candidate.fingerprint.simHash : ℤ) ≤ d.hammingThreshold
    · simp [hwithin]
    · simp [hwithin]

/-! ## The store after a run -/

/-- A call on the store, through a deduplicator or not. -/
inductive Call where
  | storeFingerprint (entry : Entry)
  | store (text : List UInt8) (url : String)
  | isDuplicate (d : Deduper) (text : List UInt8)

section Runs

variable [Library] [Sha256]

def Call.step (visits : (s : InMemoryStore) → Visits s.entries) (s : InMemoryStore) : Call → InMemoryStore
  | .storeFingerprint entry => s.storeFingerprint entry
  | .store text url => ((Deduper.store (inMemoryStore visits) text url s).toOption).getD s
  | .isDuplicate _ _ => s

def run (visits : (s : InMemoryStore) → Visits s.entries) (calls : List Call) : InMemoryStore :=
  calls.foldl (Call.step visits) {}

def Call.entry? : Call → Option Entry
  | .storeFingerprint entry => some entry
  | .store text url => some (Deduper.storedEntry text url)
  | .isDuplicate _ _ => none

/-- The entries that the calls have stored, in order. -/
def stored (calls : List Call) : List Entry := calls.filterMap Call.entry?

lemma step_eq (visits : (s : InMemoryStore) → Visits s.entries) (s : InMemoryStore) (call : Call) :
    call.step visits s = call.entry?.elim s s.storeFingerprint := by
  cases call <;> rfl

/-- What holds of the empty store and is kept by storing an entry holds after every run. -/
lemma run_induction (visits : (s : InMemoryStore) → Visits s.entries) {P : List Entry → InMemoryStore → Prop}
    (empty : P [] {}) (entry : ∀ entries s e, P entries s → P (entries ++ [e]) (s.storeFingerprint e))
    (calls : List Call) : P (stored calls) (run visits calls) := by
  induction calls using List.reverseRecOn with
  | nil => exact empty
  | append_singleton calls call ih =>
    have hstored : stored (calls ++ [call]) = stored calls ++ call.entry?.toList := by
      rw [stored, List.filterMap_append]
      congr 1
    have hrun : run visits (calls ++ [call]) = call.entry?.elim (run visits calls) (run visits calls).storeFingerprint := by
      rw [run, List.foldl_append, List.foldl_cons, List.foldl_nil, step_eq, run]
    rw [hstored, hrun]
    cases call.entry? with
    | none => rwa [Option.toList_none, List.append_nil]
    | some e => exact entry _ _ e ih

lemma run_bucket (visits : (s : InMemoryStore) → Visits s.entries) (calls : List Call) (bucket : UInt16) :
    (run visits calls).bucket bucket =
      ((stored calls).filter (fun e => e.bucket = bucket)).map (fun e => e.fingerprint.simHash) := by
  refine run_induction visits
    (P := fun entries s => s.bucket bucket = (entries.filter (fun e => e.bucket = bucket)).map (fun e => e.fingerprint.simHash))
    rfl (fun entries s e ih => ?_) calls
  rw [List.filter_append, List.map_append, ← ih]
  by_cases hbucket : e.bucket = bucket
  · subst hbucket
    simp [InMemoryStore.storeFingerprint]
  · simp [InMemoryStore.storeFingerprint, hbucket, Function.update_of_ne (Ne.symm hbucket)]

lemma run_existsSHA256 (visits : (s : InMemoryStore) → Visits s.entries) (calls : List Call) (sha256 : List UInt8) :
    (run visits calls).existsSHA256 sha256 ↔ ∃ e ∈ stored calls, e.fingerprint.sha256 = sha256 := by
  refine run_induction visits
    (P := fun entries s => s.existsSHA256 sha256 ↔ ∃ e ∈ entries, e.fingerprint.sha256 = sha256)
    (by simp [InMemoryStore.existsSHA256]) (fun entries s e ih => ?_) calls
  by_cases hsha : e.fingerprint.sha256 = sha256
  · subst hsha
    simp [InMemoryStore.existsSHA256, InMemoryStore.storeFingerprint]
  · have hlookup : (s.storeFingerprint e).existsSHA256 sha256 = s.existsSHA256 sha256 := by
      rw [InMemoryStore.existsSHA256, InMemoryStore.storeFingerprint, AList.lookup_insert_ne (Ne.symm hsha),
        InMemoryStore.existsSHA256]
    rw [hlookup, ih]
    simp [hsha]

/-! ## What counts as a duplicate -/

/-- Whether a stored SimHash is within the threshold of the text's. -/
def Within (d : Deduper) (text : List UInt8) (e : Entry) : Prop :=
  (hammingDist (bits (computeSimHash text)) (bits e.fingerprint.simHash) : ℤ) ≤ d.hammingThreshold

/-- The specification of `IsDuplicate`. -/
def IsDuplicateOf (d : Deduper) (entries : List Entry) (text : List UInt8) : Prop :=
  (∃ e ∈ entries, e.fingerprint.sha256 = sum256 text) ∨ ∃ e ∈ entries, Within d text e

/-- What the bucket of a text shows: of the stored entries that carry the bucket, and whose
SimHash is still held, the first hundred. -/
def candidatesOf (s : InMemoryStore) (entries : List Entry) (text : List UInt8) : List Entry :=
  (entries.filter (fun e => s.holds e.fingerprint.simHash && e.bucket = bucketFromSimHash (computeSimHash text))).take 100

lemma generateFingerprint_sha256 (text : List UInt8) : (generateFingerprint text).sha256 = sum256 text := rfl

lemma generateFingerprint_simHash (text : List UInt8) : (generateFingerprint text).simHash = computeSimHash text := rfl

lemma areSimilar_iff (textA textB : List UInt8) (threshold : ℤ) :
    areSimilar textA textB threshold ↔
      (hammingDist (bits (computeSimHash textA)) (bits (computeSimHash textB)) : ℤ) ≤ threshold := by
  rw [areSimilar, decide_eq_true_eq, hammingDistance_eq]

/-- After calls of `Store` alone, the duplicates are the texts similar to a stored one. -/
theorem isDuplicateOf_stores (d : Deduper) (texts : List (List UInt8 × String)) (text : List UInt8) :
    IsDuplicateOf d (stored (texts.map (fun t => .store t.1 t.2))) text ↔
      ∃ t ∈ texts, sum256 t.1 = sum256 text ∨ areSimilar text t.1 d.hammingThreshold := by
  have hstored : stored (texts.map (fun t => .store t.1 t.2)) = texts.map (fun t => Deduper.storedEntry t.1 t.2) := by
    rw [stored, List.filterMap_map, ← List.filterMap_eq_map]
    rfl
  simp only [IsDuplicateOf, hstored, List.mem_map, exists_exists_and_eq_and, areSimilar_iff, Within, ← exists_or, ← and_or_left]
  rfl

lemma fetchByBucket_run (visits : (s : InMemoryStore) → Visits s.entries) (calls : List Call) (text : List UInt8) :
    ((run visits calls).fetchByBucket (visits _) (bucketFromSimHash (computeSimHash text)) 100).map
        (fun e => e.fingerprint.simHash) =
      (candidatesOf (run visits calls) (stored calls) text).map (fun e => e.fingerprint.simHash) := by
  rw [InMemoryStore.fetchByBucket, map_collect (visits _) 100 _ 0 [] (by simp), run_bucket, candidatesOf, List.filter_map,
    List.filter_filter, List.map_take]
  rfl

lemma isDuplicate_run (visits : (s : InMemoryStore) → Visits s.entries) (calls : List Call) (d : Deduper)
    (text : List UInt8) :
    (∃ reason, d.isDuplicate (inMemoryStore visits) text (run visits calls) = .ok (true, reason)) ↔
      (∃ e ∈ stored calls, e.fingerprint.sha256 = sum256 text) ∨
        ∃ e ∈ candidatesOf (run visits calls) (stored calls) text, Within d text e := by
  have hexact := run_existsSHA256 visits calls (sum256 text)
  have hnear := firstWithin_iff d (computeSimHash text)
    ((run visits calls).fetchByBucket (visits _) (bucketFromSimHash (computeSimHash text)) 100)
  simp only [fetchByBucket_run, List.mem_map, exists_exists_and_eq_and, hammingDistance_eq] at hnear
  have hanswer : d.isDuplicate (inMemoryStore visits) text (run visits calls) =
      if (run visits calls).existsSHA256 (sum256 text) then .ok (true, "exact (sha256)")
      else .ok (d.firstWithin (computeSimHash text)
        ((run visits calls).fetchByBucket (visits _) (bucketFromSimHash (computeSimHash text)) 100)) := by
    unfold Deduper.isDuplicate
    dsimp only [inMemoryStore]
    rw [generateFingerprint_sha256, generateFingerprint_simHash]
    cases (run visits calls).existsSHA256 (sum256 text) <;> rfl
  rw [hanswer, ← hexact]
  cases (run visits calls).existsSHA256 (sum256 text) with
  | true => simp
  | false =>
    rw [if_neg Bool.false_ne_true, or_iff_right Bool.false_ne_true]
    refine Iff.trans ⟨?_, fun h => ?_⟩ hnear
    · rintro ⟨reason, h⟩
      rw [Except.ok.inj h]
    · exact ⟨_, congrArg Except.ok (Prod.ext h rfl)⟩

/-- `IsDuplicate` is right exactly where the digest is stored, or the candidates of the bucket
show a stored SimHash within the threshold as soon as there is one. -/
theorem isDuplicate_right_iff (visits : (s : InMemoryStore) → Visits s.entries) (calls : List Call) (d : Deduper)
    (text : List UInt8) :
    ((∃ reason, d.isDuplicate (inMemoryStore visits) text (run visits calls) = .ok (true, reason)) ↔
        IsDuplicateOf d (stored calls) text) ↔
      (∃ e ∈ stored calls, e.fingerprint.sha256 = sum256 text) ∨
        ((∃ e ∈ stored calls, Within d text e) →
          ∃ e ∈ candidatesOf (run visits calls) (stored calls) text, Within d text e) := by
  have hstored : (∃ e ∈ candidatesOf (run visits calls) (stored calls) text, Within d text e) →
      ∃ e ∈ stored calls, Within d text e := by
    rintro ⟨e, he, hwithin⟩
    exact ⟨e, List.mem_of_mem_filter (List.mem_of_mem_take he), hwithin⟩
  rw [isDuplicate_run, IsDuplicateOf]
  by_cases hexact : ∃ e ∈ stored calls, e.fingerprint.sha256 = sum256 text
  · exact iff_of_true (by simp only [hexact, true_or]) (.inl hexact)
  · rw [or_iff_right hexact, or_iff_right hexact, or_iff_right hexact]
    exact ⟨fun h => h.mpr, fun h => ⟨hstored, h⟩⟩

end Runs

/-- A fingerprint of distance six in another bucket. -/
theorem near_duplicate_missed :
    letI := asciiLibrary
    letI : Sha256 := ⟨id⟩
    let visits (s : InMemoryStore) : Visits s.entries := ⟨fun _ => s.entries, fun _ => .rfl⟩
    let calls : List Call := [.store "dbr".toUTF8.toList "https://erg.ninja/dbr"]
    let text := "dax".toUTF8.toList
    Deduper.isDuplicate {} (inMemoryStore visits) text (run visits calls) = .ok (false, "") ∧
      IsDuplicateOf {} (stored calls) text := by
  let := asciiLibrary
  let : Sha256 := ⟨id⟩
  refine ⟨by decide +kernel, .inr ⟨_, List.mem_singleton.mpr rfl, ?_⟩⟩
  unfold Within
  decide +kernel

end ErgGo.Dedup
