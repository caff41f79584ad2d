import ErgGo.Lib.Hamming
import ErgGo.Lib.Runes
import Mathlib.Logic.Function.Basic

/-!
# SimHash content deduplication

Fingerprints, the in-memory store and the `Deduper`. Texts are bytes. SHA-256 is a parameter.
The order in which `range` visits a map is one of each call.
-/

namespace ErgGo.Dedup
open Go Hamming

class Sha256 where
  sum256 : List UInt8 → List UInt8

export Sha256 (sum256)

def defaultHammingThreshold : ℤ := 6

structure Fingerprint where
  simHash : UInt64
  sha256 : List UInt8
  deriving DecidableEq

structure Entry where
  fingerprint : Fingerprint
  url : String
  bucket : UInt16
  deriving DecidableEq

structure Deduper where
  hammingThreshold : ℤ := defaultHammingThreshold

structure FingerprintStore (σ : Type) where
  storeFingerprint : Entry → σ → Except String σ
  fetchByBucket : UInt16 → ℕ → σ → Except String (List Entry)
  existsSHA256 : List UInt8 → σ → Except String Bool

/-! ## The in-memory store -/

structure InMemoryStore where
  data : AList (fun _ : List UInt8 => Entry) := ∅
  bucket : UInt16 → List UInt64 := fun _ => []

/-- The entries that successive `range` statements of a call visit. -/
structure Visits (entries : List Entry) where
  order : ℕ → List Entry
  perm : ∀ i, (order i).Perm entries

namespace InMemoryStore

def entries (s : InMemoryStore) : List Entry := s.data.entries.map (fun entry => entry.2)

def storeFingerprint (s : InMemoryStore) (entry : Entry) : InMemoryStore :=
  { data := s.data.insert entry.fingerprint.sha256 entry
    bucket := Function.update s.bucket entry.bucket (s.bucket entry.bucket ++ [entry.fingerprint.simHash]) }

/-- The loop of `FetchByBucket` over the SimHashes, the first of which is the `i`-th. -/
def collect (order : ℕ → List Entry) (limit : ℕ) : ℕ → List UInt64 → List Entry → List Entry
  | _, [], entries => entries
  | i, sh :: simhashes, entries =>
    if entries.length ≥ limit then entries
    else
      match (order i).find? (fun e => e.fingerprint.simHash = sh) with
      | some e => collect order limit (i + 1) simhashes (entries ++ [e])
      | none => collect order limit (i + 1) simhashes entries

def fetchByBucket (s : InMemoryStore) (visits : Visits s.entries) (bucket : UInt16) (limit : ℕ) : List Entry :=
  collect visits.order limit 0 (s.bucket bucket) []

def existsSHA256 (s : InMemoryStore) (sha256 : List UInt8) : Bool := (s.data.lookup sha256).isSome

end InMemoryStore

/-- The in-memory store as a `FingerprintStore`: its calls do not fail. -/
def inMemoryStore (visits : (s : InMemoryStore) → Visits s.entries) : FingerprintStore InMemoryStore where
  storeFingerprint entry s := .ok (s.storeFingerprint entry)
  fetchByBucket bucket limit s := .ok (s.fetchByBucket (visits s) bucket limit)
  existsSHA256 sha256 s := .ok (s.existsSHA256 sha256)

/-! ## Fingerprints -/

def fnvOffset64 : UInt64 := 14695981039346656037
def fnvPrime64 : UInt64 := 1099511628211

/-- `Write` of `fnv.New64a`. -/
def fnvWrite (h : UInt64) (data : List UInt8) : UInt64 :=
  data.foldl (fun h c => (h ^^^ c.toUInt64) * fnvPrime64) h

def tokenize [Library] (text : List UInt8) : List (List UInt8) := (fields (lowerRunes text)).map encodeRunes

def generateTrigrams (tokens : List (List UInt8)) : List (List UInt8) :=
  tokens.flatMap fun token =>
    if token.length < 3 then [] else (List.range (token.length - 3 + 1)).map (fun i => (token.drop i).take 3)

def computeFingerprint [Sha256] (trigrams : List (List UInt8)) (text : List UInt8) : Fingerprint :=
  { simHash := trigrams.foldl fnvWrite fnvOffset64, sha256 := sum256 text }

def bucketFromSimHash (simhash : UInt64) : UInt16 := (simhash >>> 48).toUInt16

def popcnt (x : UInt64) : ℕ := if h : x = 0 then 0 else popcnt (x &&& (x - 1)) + 1
termination_by x.toNat
decreasing_by exact toNat_clear_lt h

def hammingDistance (a b : UInt64) : ℕ := popcnt (a ^^^ b)

def generateFingerprint [Library] [Sha256] (text : List UInt8) : Fingerprint :=
  computeFingerprint (generateTrigrams (tokenize text)) text

def computeSimHash [Library] [Sha256] (text : List UInt8) : UInt64 :=
  (computeFingerprint (generateTrigrams (tokenize text)) text).simHash

def areSimilar [Library] [Sha256] (textA textB : List UInt8) (threshold : ℤ) : Bool :=
  hammingDistance (computeSimHash textA) (computeSimHash textB) ≤ threshold

lemma popcnt_eq_card (x : UInt64) : popcnt x = (setBits x).card := by
  fun_induction popcnt x with
  | case1 =>
    rw [setBits_zero, Finset.card_empty]
  | case2 x hx ih => rw [ih, card_setBits_clear hx]

/-- The number of positions at which the words differ. -/
lemma hammingDistance_eq (a b : UInt64) : hammingDistance a b = hammingDist (bits a) (bits b) := by
  rw [hammingDistance, popcnt_eq_card, card_setBits_xor]

/-! ## The deduplicator -/

namespace Deduper

variable {σ : Type}

/-- The loop of `IsDuplicate` over the candidates. -/
def firstWithin (d : Deduper) (simHash : UInt64) : List Entry → Bool × String
  | [] => (false, "")
  | candidate :: candidates =>
    let dist := hammingDistance simHash candidate.fingerprint.simHash
    if dist ≤ d.hammingThreshold then
      (true, "near-duplicate (hamming=" ++ toString dist ++ ", url=" ++ candidate.url ++ ")")
    else d.firstWithin simHash candidates

def isDuplicate [Library] [Sha256] (d : Deduper) (store : FingerprintStore σ) (text : List UInt8) (s : σ) :
    Except String (Bool × String) :=
  let fp := generateFingerprint text
  match store.existsSHA256 fp.sha256 s with
  | .error err => .error ("dedup: check sha256: " ++ err)
  | .ok true => .ok (true, "exact (sha256)")
  | .ok false =>
    let bucket := bucketFromSimHash fp.simHash
    match store.fetchByBucket bucket 100 s with
    | .error err => .error ("dedup: fetch bucket " ++ toString bucket.toNat ++ ": " ++ err)
    | .ok candidates => .ok (d.firstWithin fp.simHash candidates)

def storedEntry [Library] [Sha256] (text : List UInt8) (url : String) : Entry :=
  let fp := generateFingerprint text
  { fingerprint := fp, url := url, bucket := bucketFromSimHash fp.simHash }

def store [Library] [Sha256] (store : FingerprintStore σ) (text : List UInt8) (url : String) (s : σ) :
    Except String σ :=
  match store.storeFingerprint (storedEntry text url) s with
  | .error err => .error ("dedup: store: " ++ err)
  | .ok s => .ok s

end Deduper

end ErgGo.Dedup
