import ErgGo.Lib.Encodings

/-!
# Encrypted secrets

A box seals strings with AES-GCM under a key made from a secret, and opens what is stored:
the sealed bytes and the nonce as base64, and the version of the key.
-/

namespace ErgGo.Security.SecretBox
open Go

class CipherLibrary where
  /-- `sha256.Sum256`. -/
  sum256 : Bytes → Bytes
  length_sum256 : ∀ s, (sum256 s).length = 32
  /-- `Seal` of AES-GCM: the key, the nonce, the plaintext and the additional data. -/
  sealed : (key nonce plain data : Bytes) → Bytes
  /-- `Open`, for a nonce of the right length; none for what is not authentic. -/
  opened : (key nonce ciphertext data : Bytes) → Option Bytes
  opened_sealed : ∀ key nonce plain data, nonce.length = 12 →
    opened key nonce (sealed key nonce plain data) data = some plain

inductive SecretError where
  | missingSecret
  | invalidSecret
  | unsupportedVersion (version : Bytes)
  | decodeCiphertext
  | decodeNonce
  | cipher
  | nonce
  | decrypt
  deriving DecidableEq

/-- How a call ends. -/
inductive Outcome (α : Type) where
  | ok (a : α)
  | error (e : SecretError)
  | panic
  deriving DecidableEq

def versionV1 : Bytes := bytes "v1"

def minSecret : ℕ := 32

def nonceBytes : ℕ := 12

/-- Other packages can only make the zero box, whose key is no AES key, or call `newBox`. -/
structure Box where
  key : Bytes
  version : Bytes
  made : key = [] ∧ version = [] ∨ key.length = 32 ∧ version = versionV1

section Boxes

variable [CipherLibrary]
open CipherLibrary

/-- `New`. -/
def newBox (secret : Bytes) : Except SecretError Box :=
  let secret := secret.trimSpace
  if secret = [] then .error .missingSecret
  else if secret.length < minSecret then .error .invalidSecret
  else .ok ⟨sum256 secret, versionV1, .inr ⟨length_sum256 secret, rfl⟩⟩

/-- `aes.NewCipher` takes keys of 16, 24 and 32 bytes. -/
def newCipher (key : Bytes) : Option Bytes := if key.length ∈ [16, 24, 32] then some key else none

/-- The nonce is what the random source gives, if it gives anything. Longer plaintexts than GCM
allows make sealing panic. -/
def encryptString (b : Option Box) (rawNonce : Option Bytes) (plain : Bytes) : Outcome (Bytes × Bytes) :=
  match b with
  | none => .error .missingSecret
  | some b =>
    match newCipher b.key, rawNonce with
    | none, _ => .error .cipher
    | _, none => .error .nonce
    | some key, some rawNonce =>
      if plain.length > (2 ^ 32 - 2) * 16 then .panic
      else .ok (Base64.encode (sealed key rawNonce plain b.version), Base64.encode rawNonce)

/-- `Open` panics on a nonce of another length. -/
def openSealed (key rawNonce ciphertext version : Bytes) : Outcome Bytes :=
  if rawNonce.length ≠ nonceBytes then .panic
  else (opened key rawNonce ciphertext version).elim (.error .decrypt) .ok

def resolveVersion (version : Bytes) : Bytes := if version.trimSpace = [] then versionV1 else version.trimSpace

def decryptString (b : Option Box) (ciphertext nonce version : Bytes) : Outcome Bytes :=
  match b with
  | none => .error .missingSecret
  | some b =>
    let version := resolveVersion version
    if version ≠ b.version then .error (.unsupportedVersion version)
    else
      match Base64.decode ciphertext.trimSpace with
      | none => .error .decodeCiphertext
      | some sealedBytes =>
        match Base64.decode nonce.trimSpace with
        | none => .error .decodeNonce
        | some rawNonce =>
          match newCipher b.key with
          | none => .error .cipher
          | some key => openSealed key rawNonce sealedBytes version

/-- `Version`. -/
def boxVersion (b : Option Box) : Bytes := b.elim [] Box.version

/-- What the box encrypts it decrypts. -/
def RoundTrips (b : Option Box) : Prop :=
  ∀ rawNonce plain ciphertext nonce, rawNonce.length = nonceBytes →
    encryptString b (some rawNonce) plain = .ok (ciphertext, nonce) →
    decryptString b ciphertext nonce (boxVersion b) = .ok plain

/-- The call does not panic, and the box decrypts its own. -/
structure Decrypts (b : Option Box) (ciphertext nonce version : Bytes) : Prop where
  returns : decryptString b ciphertext nonce version ≠ .panic
  roundTrips : RoundTrips b

/-- A nonce that decodes has twelve bytes, where the box has a key of this version and the
ciphertext decodes. -/
def NonceFits (b : Option Box) (ciphertext nonce version : Bytes) : Prop :=
  ∀ box ∈ b, box.key ≠ [] → resolveVersion version = box.version → (Base64.decode ciphertext.trimSpace).isSome →
    ∀ rawNonce ∈ Base64.decode nonce.trimSpace, rawNonce.length = nonceBytes

omit [CipherLibrary] in
lemma newCipher_eq (b : Box) : newCipher b.key = if b.key = [] then none else some b.key := by
  obtain ⟨key, version, ⟨rfl, -⟩ | ⟨hkey, -⟩⟩ := b
  · rfl
  · have hne : key ≠ [] := fun h => absurd (h ▸ hkey) (by decide)
    unfold newCipher
    rw [if_pos (by simp [hkey]), if_neg hne]

omit [CipherLibrary] in
lemma trimSpace_encode (s : Bytes) : (Base64.encode s).trimSpace = Base64.encode s :=
  Bytes.trimSpace_of_graphic fun _ hb => (Base64.graphic_of_mem_encode hb).1

omit [CipherLibrary] in
lemma resolveVersion_box (b : Box) (hkey : b.key ≠ []) : resolveVersion b.version = b.version := by
  obtain ⟨hempty, -⟩ | ⟨-, hversion⟩ := b.made
  · exact absurd hempty hkey
  · rw [hversion]
    decide

lemma roundTrips (b : Option Box) : RoundTrips b := by
  intro rawNonce plain ciphertext nonce hlength hencrypted
  cases b with
  | none => cases hencrypted
  | some b =>
    by_cases hkey : b.key = []
    · simp only [encryptString, newCipher_eq, if_pos hkey] at hencrypted
      cases hencrypted
    · simp only [encryptString, newCipher_eq, if_neg hkey] at hencrypted
      split at hencrypted
      · cases hencrypted
      · cases hencrypted
        change decryptString (some b) _ _ b.version = _
        simp only [decryptString, resolveVersion_box b hkey, ne_eq, not_true_eq_false, if_false, trimSpace_encode,
          Base64.decode_encode, newCipher_eq, if_neg hkey]
        unfold openSealed
        rw [if_neg (not_not.mpr hlength), opened_sealed _ _ _ _ hlength]
        rfl

lemma decryptString_panics_iff (b : Option Box) (ciphertext nonce version : Bytes) :
    decryptString b ciphertext nonce version = .panic ↔ ¬NonceFits b ciphertext nonce version := by
  have hopened : ∀ key rawNonce sealedBytes, openSealed key rawNonce sealedBytes (resolveVersion version) = .panic ↔
      rawNonce.length ≠ nonceBytes := by
    intro key rawNonce sealedBytes
    unfold openSealed
    split
    · next hlength => simp [hlength]
    · next hlength => cases opened key rawNonce sealedBytes (resolveVersion version) <;> simp [hlength]
  unfold decryptString NonceFits
  cases b with
  | none => simp
  | some b =>
    by_cases hversion : resolveVersion version = b.version
    · cases hciphertext : Base64.decode ciphertext.trimSpace with
      | none => simp [hversion]
      | some sealedBytes =>
        cases hnonce : Base64.decode nonce.trimSpace with
        | none => simp [hversion]
        | some rawNonce =>
          by_cases hkey : b.key = []
          · simp [hversion, hkey, show newCipher [] = none from rfl]
          · simp only [newCipher_eq, if_neg hkey, hversion] at hopened ⊢
            simp [hopened, hkey]
    · simp [hversion]

/-- Decrypting is safe exactly for the nonces that fit. -/
theorem decrypts_iff (b : Option Box) (ciphertext nonce version : Bytes) :
    Decrypts b ciphertext nonce version ↔ NonceFits b ciphertext nonce version := by
  have hpanics := decryptString_panics_iff b ciphertext nonce version
  exact ⟨fun h => not_not.mp (mt hpanics.mpr h.returns), fun h => ⟨fun hpanic => hpanics.mp hpanic h, roundTrips b⟩⟩

end Boxes

section Sample

/-- Sealing puts the nonce and the data before the plaintext. -/
@[reducible] def Sample.plainCipher : CipherLibrary where
  sum256 _ := List.replicate 32 0
  length_sum256 _ := rfl
  sealed _ nonce plain data := nonce ++ data ++ plain
  opened _ nonce ciphertext data :=
    if nonce ++ data <+: ciphertext then some (ciphertext.drop (nonce ++ data).length) else none
  opened_sealed _ nonce plain data _ := by
    rw [if_pos (List.prefix_append _ _), List.drop_left]

attribute [local instance] Sample.plainCipher

/-- The box of a secret of 32 characters. -/
def Sample.box : Box := ⟨List.replicate 32 0, versionV1, .inr ⟨rfl, rfl⟩⟩

/-- An empty nonce decodes to no bytes. -/
theorem empty_nonce_panics : newBox (bytes "0123456789abcdefghijklmnopqrstuv") = .ok Sample.box ∧
    ¬Decrypts (some Sample.box) [] [] (bytes "v1") :=
  ⟨by rfl, fun h => h.returns (by decide)⟩

end Sample

end ErgGo.Security.SecretBox
