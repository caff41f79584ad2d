import ErgGo.Lib.Encodings

/-!
# Password hashes

A hash is stored as a text with its parameters and salt, from which verifying computes it again.
Older forms, made with SHA-256, are still accepted and are to be replaced.
-/

namespace ErgGo.Security.Password
open Go

/-- The hash functions, whose results have 32 bytes. -/
class HashLibrary where
  /-- `sha256.Sum256`. -/
  sum256 : Bytes → Bytes
  length_sum256 : ∀ s, (sum256 s).length = 32
  /-- `argon2.IDKey`, for a key of 32 bytes. -/
  idKey : (plain salt : Bytes) → (iterations memory : UInt32) → (parallelism : UInt8) → Bytes
  length_idKey : ∀ plain salt iterations memory parallelism,
    (idKey plain salt iterations memory parallelism).length = 32

inductive PasswordError where
  | emptyPassword
  | invalidHash
  | generateSalt
  deriving DecidableEq

@[ext]
structure Params where
  memory : UInt32
  iterations : UInt32
  parallelism : UInt8
  deriving DecidableEq

def defaultMemory : UInt32 := 32 * 1024

def defaultIterations : UInt32 := 2

def defaultParallelism : UInt8 := 2

def keyLength : ℕ := 32

def normalize (params : Params) : Params where
  memory := if params.memory = 0 then defaultMemory else params.memory
  iterations := if params.iterations = 0 then defaultIterations else params.iterations
  parallelism := if params.parallelism = 0 then defaultParallelism else params.parallelism

def sameParams (a b : Params) : Bool :=
  a.memory = b.memory && a.iterations = b.iterations && a.parallelism = b.parallelism

section Verify

variable [HashLibrary]
open HashLibrary

/-- `$argon2id$v=19$m=%d,t=%d,p=%d$%s$%s`. -/
def formatHash (params : Params) (salt key : Bytes) : Bytes :=
  bytes "$argon2id$v=19$m=" ++ Decimal.format params.memory.toNat ++ bytes ",t=" ++
    Decimal.format params.iterations.toNat ++ bytes ",p=" ++ Decimal.format params.parallelism.toNat ++ bytes "$" ++
    Base64.encode salt ++ bytes "$" ++ Base64.encode key

/-- The salt is what the random source gives, if it gives anything. -/
def hash (salt : Option Bytes) (plain : Bytes) (params : Params) : Except PasswordError Bytes :=
  if plain.trimSpace = [] then .error .emptyPassword
  else
    let params := normalize params
    match salt with
    | none => .error .generateSalt
    | some salt => .ok (formatHash params salt (idKey plain salt params.iterations params.memory params.parallelism))

/-- One part of the parameters, which sets a field. -/
def parseParam (params : Params) (part : Bytes) : Except PasswordError Params :=
  match part.cut 0x3D with
  | none => .error .invalidHash
  | some (key, value) =>
    match Decimal.parse 32 value with
    | none => .error .invalidHash
    | some n =>
      if n = 0 then .error .invalidHash
      else if key = bytes "m" then .ok { params with memory := .ofNat n }
      else if key = bytes "t" then .ok { params with iterations := .ofNat n }
      else if key = bytes "p" then
        if n > 255 then .error .invalidHash else .ok { params with parallelism := .ofNat n }
      else .error .invalidHash

def parseParams (raw : Bytes) : Except PasswordError Params :=
  ((raw.splitOn 0x2C).foldlM parseParam ⟨0, 0, 0⟩).map normalize

def verifyArgon2ID (plain stored : Bytes) : Bool × Params :=
  match stored.splitOn 0x24 with
  | [_, name, version, raw, salt, key] =>
    if name ≠ bytes "argon2id" ∨ version ≠ bytes "v=19" then (false, ⟨0, 0, 0⟩)
    else
      match parseParams raw, Base64.decode salt, Base64.decode key with
      | .ok params, some salt, some expected =>
        if salt.length = 0 ∨ expected.length ≠ keyLength then (false, ⟨0, 0, 0⟩)
        else (idKey plain salt params.iterations params.memory params.parallelism = expected, params)
      | _, _, _ => (false, ⟨0, 0, 0⟩)
  | _ => (false, ⟨0, 0, 0⟩)

def verifyLegacySHA256 (plain stored : Bytes) : Bool :=
  if Hex.encode (sum256 (plain ++ bytes "salt_65536_3")) = stored then true
  else if Hex.encode (sum256 plain) = stored then true
  else if bytes "sha256:" <+: stored then bytes "sha256:" ++ sum256 plain = stored
  else false

/-- Whether the password matches, and whether the hash should be renewed. -/
def verify (plain stored : Bytes) (expected : Params) : Bool × Bool :=
  let stored := stored.trimSpace
  if stored = [] then (false, false)
  else if bytes "$argon2id$" <+: stored then
    let (ok, actual) := verifyArgon2ID plain stored
    (ok, ok && !sameParams actual (normalize expected))
  else if verifyLegacySHA256 plain stored then (true, true)
  else (false, false)

/-- The older forms of a password's hash. -/
def legacyForms (plain : Bytes) : List Bytes :=
  [Hex.encode (sum256 (plain ++ bytes "salt_65536_3")), Hex.encode (sum256 plain), bytes "sha256:" ++ sum256 plain]

/-- A stored hash of the password, in any form, is matched, and renewed unless it is current. -/
structure Verifies (plain : Bytes) : Prop where
  current : ∀ salt p stored q, salt.length = 16 → hash (some salt) plain p = .ok stored →
    verify plain stored q = (true, decide (normalize p ≠ normalize q))
  legacy : ∀ stored ∈ legacyForms plain, ∀ q, verify plain stored q = (true, true)

end Verify

section Current

lemma normalize_normalize (params : Params) : normalize (normalize params) = normalize params := by
  unfold normalize
  ext <;> dsimp only <;> split <;> simp_all [defaultMemory, defaultIterations, defaultParallelism]

lemma normalize_ne_zero (params : Params) :
    (normalize params).memory ≠ 0 ∧ (normalize params).iterations ≠ 0 ∧ (normalize params).parallelism ≠ 0 := by
  unfold normalize
  refine ⟨?_, ?_, ?_⟩ <;> dsimp only <;> split <;> simp_all [defaultMemory, defaultIterations, defaultParallelism]

lemma sameParams_iff {a b : Params} : sameParams a b ↔ a = b := by
  unfold sameParams
  rw [Params.ext_iff]
  simp [and_assoc]

lemma parseParam_format (params : Params) {key : Bytes} (hkey : 0x3D ∉ key) {n : ℕ} (hn : n < 2 ^ 32) (hpos : n ≠ 0) :
    parseParam params (key ++ 0x3D :: Decimal.format n) =
      if key = bytes "m" then .ok { params with memory := .ofNat n }
      else if key = bytes "t" then .ok { params with iterations := .ofNat n }
      else if key = bytes "p" then
        if n > 255 then .error .invalidHash else .ok { params with parallelism := .ofNat n }
      else .error .invalidHash := by
  unfold parseParam
  rw [Bytes.cut_append hkey]
  dsimp only
  rw [Decimal.parse_format hn]
  exact if_neg hpos

/-- The parameters between two dollar signs. -/
def formatParams (params : Params) : Bytes :=
  [0x2C].intercalate [bytes "m" ++ 0x3D :: Decimal.format params.memory.toNat,
    bytes "t" ++ 0x3D :: Decimal.format params.iterations.toNat,
    bytes "p" ++ 0x3D :: Decimal.format params.parallelism.toNat]

lemma notMem_format {b : UInt8} (hb : ¬(0x30 ≤ b ∧ b ≤ 0x39)) (n : ℕ) : b ∉ Decimal.format n :=
  fun h => hb (Decimal.digit_of_mem_format h)

lemma parseParams_formatParams (p : Params) : parseParams (formatParams (normalize p)) = .ok (normalize p) := by
  obtain ⟨hmemory, hiterations, hparallelism⟩ := normalize_ne_zero p
  have hidem := normalize_normalize p
  generalize normalize p = params at *
  have hcomma : ∀ n, 0x2C ∉ Decimal.format n := notMem_format (by decide)
  have hparts : (formatParams params).splitOn 0x2C = [bytes "m" ++ 0x3D :: Decimal.format params.memory.toNat,
      bytes "t" ++ 0x3D :: Decimal.format params.iterations.toNat,
      bytes "p" ++ 0x3D :: Decimal.format params.parallelism.toNat] := by
    refine List.splitOn_intercalate 0x2C ?_ (List.cons_ne_nil _ _)
    have hnames : 0x2C ∉ bytes "m" ∧ 0x2C ∉ bytes "t" ∧ 0x2C ∉ bytes "p" := by decide
    simp [hcomma, hnames]
  have hmemoryLt := params.memory.toNat_lt
  have hiterationsLt := params.iterations.toNat_lt
  have hparallelismLt := params.parallelism.toNat_lt
  have hm : parseParam ⟨0, 0, 0⟩ (bytes "m" ++ 0x3D :: Decimal.format params.memory.toNat) =
      .ok ⟨params.memory, 0, 0⟩ := by
    have hpos := mt UInt32.toNat_inj.mp hmemory
    rw [parseParam_format _ (by decide) (by omega) hpos, if_pos rfl, UInt32.ofNat_toNat]
  have ht : parseParam ⟨params.memory, 0, 0⟩ (bytes "t" ++ 0x3D :: Decimal.format params.iterations.toNat) =
      .ok ⟨params.memory, params.iterations, 0⟩ := by
    have hpos := mt UInt32.toNat_inj.mp hiterations
    rw [parseParam_format _ (by decide) (by omega) hpos, if_neg (by decide), if_pos rfl, UInt32.ofNat_toNat]
  have hp : parseParam ⟨params.memory, params.iterations, 0⟩
      (bytes "p" ++ 0x3D :: Decimal.format params.parallelism.toNat) = .ok params := by
    have hpos := mt UInt8.toNat_inj.mp hparallelism
    rw [parseParam_format _ (by decide) (by omega) hpos, if_neg (by decide), if_neg (by decide), if_pos rfl,
      if_neg (by omega), UInt8.ofNat_toNat]
  unfold parseParams
  rw [hparts, List.foldlM_cons, hm]
  change Except.map normalize (List.foldlM parseParam _ _) = _
  rw [List.foldlM_cons, ht]
  change Except.map normalize (List.foldlM parseParam _ _) = _
  rw [List.foldlM_cons, hp]
  exact congrArg Except.ok hidem

lemma formatHash_eq (params : Params) (salt key : Bytes) : formatHash params salt key =
    [0x24].intercalate
      [[], bytes "argon2id", bytes "v=19", formatParams params, Base64.encode salt, Base64.encode key] := by
  have hstart : bytes "$argon2id$v=19$m=" =
      [0x24] ++ bytes "argon2id" ++ [0x24] ++ bytes "v=19" ++ [0x24] ++ bytes "m" ++ [0x3D] := rfl
  have hcommas : bytes ",t=" = [0x2C] ++ bytes "t" ++ [0x3D] ∧ bytes ",p=" = [0x2C] ++ bytes "p" ++ [0x3D] ∧
      bytes "$" = [0x24] := ⟨rfl, rfl, rfl⟩
  unfold formatHash formatParams
  rw [hstart, hcommas.1, hcommas.2.1, hcommas.2.2]
  simp [List.intercalate_cons_cons]

/-- A formatted hash has no white space. -/
lemma graphic_formatHash (params : Params) (salt key : Bytes) : ∀ b ∈ formatHash params salt key, graphic b := by
  have hdigit : ∀ n, ∀ b ∈ Decimal.format n, graphic b := fun n b hb => Decimal.graphic_of_mem_format hb
  have hencoded : ∀ s, ∀ b ∈ Base64.encode s, graphic b := fun s b hb => (Base64.graphic_of_mem_encode hb).1
  have htexts : (∀ b ∈ bytes "$argon2id$v=19$m=", graphic b) ∧ (∀ b ∈ bytes ",t=", graphic b) ∧
      (∀ b ∈ bytes ",p=", graphic b) ∧ ∀ b ∈ bytes "$", graphic b := by decide
  unfold formatHash
  simp only [List.forall_mem_append]
  tauto

lemma splitOn_formatHash (params : Params) (salt key : Bytes) : (formatHash params salt key).splitOn 0x24 =
    [[], bytes "argon2id", bytes "v=19", formatParams params, Base64.encode salt, Base64.encode key] := by
  have hdigit : ∀ n, 0x24 ∉ Decimal.format n := notMem_format (by decide)
  have hencoded : ∀ s, 0x24 ∉ Base64.encode s := fun s h => (Base64.graphic_of_mem_encode h).2 rfl
  have htexts : 0x24 ∉ bytes "argon2id" ∧ 0x24 ∉ bytes "v=19" ∧ 0x24 ∉ bytes "m" ∧ 0x24 ∉ bytes "t" ∧
      0x24 ∉ bytes "p" := by decide
  rw [formatHash_eq]
  refine List.splitOn_intercalate 0x24 ?_ (List.cons_ne_nil _ _)
  simp [formatParams, List.intercalate_cons_cons, hdigit, hencoded, htexts]

variable [HashLibrary]

/-- A hash is verified with the parameters that it was made with. -/
lemma verifyArgon2ID_hash {salt plain : Bytes} (hsalt : salt.length = 16) (p : Params) :
    let params := normalize p
    verifyArgon2ID plain (formatHash params salt
      (HashLibrary.idKey plain salt params.iterations params.memory params.parallelism)) = (true, params) := by
  intro params
  have hsplit := splitOn_formatHash params salt
    (HashLibrary.idKey plain salt params.iterations params.memory params.parallelism)
  have hlength : ¬(salt.length = 0 ∨
      (HashLibrary.idKey plain salt params.iterations params.memory params.parallelism).length ≠ keyLength) := by
    rw [HashLibrary.length_idKey, hsalt]
    decide
  unfold verifyArgon2ID
  rw [hsplit]
  dsimp only
  rw [if_neg (by decide), parseParams_formatParams, Base64.decode_encode, Base64.decode_encode]
  dsimp only
  rw [if_neg hlength, decide_eq_true rfl]

lemma verify_hash {salt plain stored : Bytes} {p : Params} (hsalt : salt.length = 16)
    (hstored : hash (some salt) plain p = .ok stored) (q : Params) :
    verify plain stored q = (true, decide (normalize p ≠ normalize q)) := by
  unfold hash at hstored
  split at hstored
  · cases hstored
  · injection hstored with hstored
    have htrim : stored.trimSpace = stored := by
      rw [← hstored]
      exact Bytes.trimSpace_of_graphic (graphic_formatHash _ _ _)
    have hinitial : bytes "$argon2id$" <+: stored := by
      rw [← hstored, formatHash_eq]
      have hstart : bytes "$argon2id$" = [0x24] ++ bytes "argon2id" ++ [0x24] := rfl
      rw [hstart]
      simp [List.intercalate_cons_cons]
    have hnonempty : stored ≠ [] := by
      rintro rfl
      exact absurd (List.prefix_nil.mp hinitial) (by decide)
    unfold verify
    dsimp only
    rw [htrim, if_neg hnonempty, if_pos hinitial, ← hstored, verifyArgon2ID_hash hsalt]
    have hsame : sameParams (normalize p) (normalize q) = decide (normalize p = normalize q) :=
      Bool.eq_iff_iff.mpr (sameParams_iff.trans decide_eq_true_iff.symm)
    rw [hsame]
    simp

end Current

section Legacy

variable [HashLibrary]
open HashLibrary

/-- A form that is left as it is by trimming and is not taken for a current one. -/
lemma verify_legacy {plain stored : Bytes} (htrim : stored.trimSpace = stored) (hnonempty : stored ≠ [])
    (hcurrent : ¬bytes "$argon2id$" <+: stored) (hlegacy : verifyLegacySHA256 plain stored) (q : Params) :
    verify plain stored q = (true, true) := by
  unfold verify
  dsimp only
  rw [htrim, if_neg hnonempty, if_neg hcurrent, if_pos hlegacy]

lemma verify_hex {plain stored digest : Bytes} (hdigest : digest.length = 32) (hstored : stored = Hex.encode digest)
    (hlegacy : verifyLegacySHA256 plain stored) (q : Params) : verify plain stored q = (true, true) := by
  have hgraphic : ∀ b ∈ stored, graphic b := fun b hb => (Hex.graphic_of_mem_encode (hstored ▸ hb)).1
  have hlength : stored.length = 64 := by
    rw [hstored, Hex.length_encode, hdigest]
  have hdollar : 0x24 ∉ stored := fun h => (Hex.graphic_of_mem_encode (hstored ▸ h)).2 rfl
  refine verify_legacy (Bytes.trimSpace_of_graphic hgraphic) ?_ (fun h => hdollar (h.subset (by decide))) hlegacy q
  rintro rfl
  exact absurd hlength (by decide)

/-- The form with the raw digest is trimmed where the digest ends in white space. -/
lemma trimSpace_binary (plain : Bytes) : (bytes "sha256:" ++ sum256 plain).trimSpace = bytes "sha256:" ++ sum256 plain ↔
    ∀ word ∈ spaces, ¬word <:+ sum256 plain := by
  have hstart : ∀ word ∈ spaces, ¬word <+: bytes "sha256:" ++ sum256 plain :=
    fun word hword => Bytes.not_prefix_of_graphic (fun b hb => by cases hb; decide) hword
  have hshort : ∀ word ∈ spaces, word.length ≤ 32 := by decide
  rw [Bytes.trimSpace_eq_self_iff]
  constructor
  · exact fun h word hword hends => h.2 word hword (hends.trans (List.suffix_append _ _))
  · refine fun h => ⟨hstart, fun word hword hends => h word hword ?_⟩
    refine List.suffix_of_suffix_length_le hends (List.suffix_append _ _) ?_
    rw [length_sum256]
    exact hshort word hword

lemma not_starts_current (plain : Bytes) : ¬bytes "$argon2id$" <+: bytes "sha256:" ++ sum256 plain := by
  rintro ⟨rest, hrest⟩
  have hhead : some (0x24 : UInt8) = some 0x73 := congrArg List.head? hrest
  exact absurd hhead (by decide)

/-- A trimmed digest is not matched. -/
lemma verify_trimmed {plain : Bytes}
    (htrimmed : (bytes "sha256:" ++ sum256 plain).trimSpace ≠ bytes "sha256:" ++ sum256 plain) (q : Params) : verify plain (bytes "sha256:" ++ sum256 plain) q = (false, false) := by
  have hstart : ∀ word ∈ spaces, ¬word <+: bytes "sha256:" ++ sum256 plain :=
    fun word hword => Bytes.not_prefix_of_graphic (fun b hb => by cases hb; decide) hword
  have hinitial := Bytes.trimSpace_prefix hstart
  have hcurrent : ¬bytes "$argon2id$" <+: (bytes "sha256:" ++ sum256 plain).trimSpace :=
    fun h => not_starts_current plain (h.trans hinitial)
  have hlength : (bytes "sha256:" ++ sum256 plain).trimSpace.length ≤ 39 := by
    refine hinitial.length_le.trans (le_of_eq ?_)
    rw [List.length_append, length_sum256]
    rfl
  have hhex : ∀ digest : Bytes, digest.length = 32 →
      Hex.encode digest ≠ (bytes "sha256:" ++ sum256 plain).trimSpace := by
    intro digest hdigest h
    rw [← h, Hex.length_encode, hdigest] at hlength
    omega
  have hlegacy : ¬verifyLegacySHA256 plain (bytes "sha256:" ++ sum256 plain).trimSpace := by
    unfold verifyLegacySHA256
    rw [if_neg (hhex _ (length_sum256 _)), if_neg (hhex _ (length_sum256 _))]
    split
    · exact fun h => htrimmed (of_decide_eq_true h).symm
    · exact Bool.false_ne_true
  unfold verify
  dsimp only
  rw [if_neg hcurrent, if_neg hlegacy, ite_self]

/-- The verifier matches every form exactly when the digest of the password does not end in white space. -/
theorem verifies_iff (plain : Bytes) : Verifies plain ↔ ∀ word ∈ spaces, ¬word <:+ sum256 plain := by
  have hlast : bytes "sha256:" ++ sum256 plain ∈ legacyForms plain :=
    List.mem_cons_of_mem _ (List.mem_cons_of_mem _ List.mem_cons_self)
  rw [← trimSpace_binary]
  constructor
  · intro h
    by_contra htrimmed
    have hverified := h.legacy _ hlast ⟨0, 0, 0⟩
    rw [verify_trimmed htrimmed] at hverified
    exact absurd (congrArg Prod.fst hverified) Bool.false_ne_true
  · refine fun htrim => ⟨fun salt p stored q hsalt hstored => verify_hash hsalt hstored q, fun stored hstored q => ?_⟩
    simp only [legacyForms, List.mem_cons, List.not_mem_nil, or_false] at hstored
    obtain rfl | rfl | rfl := hstored
    · refine verify_hex (length_sum256 _) rfl ?_ q
      unfold verifyLegacySHA256
      rw [if_pos rfl]
    · refine verify_hex (length_sum256 _) rfl ?_ q
      unfold verifyLegacySHA256
      rw [if_pos rfl, ite_self]
    · refine verify_legacy htrim (by simp [bytes, encodeRunes]) (not_starts_current plain) ?_ q
      unfold verifyLegacySHA256
      rw [if_pos (List.prefix_append _ _), decide_eq_true rfl, ite_self, ite_self]

end Legacy

section Sample

/-- SHA-256 of one password and of the same password with the salt. -/
@[reducible] def Sample.digests : HashLibrary where
  sum256 s :=
    if s = bytes "teacher6" then
      [0x8C, 0xE2, 0x15, 0xD4, 0x8D, 0xE0, 0x8A, 0x34, 0x3E, 0x30, 0x9E, 0x7C, 0x59, 0x0A, 0xB6, 0xBC,
      0x57, 0xE5, 0xD8, 0xA6, 0x7D, 0x9D, 0x1F, 0x8D, 0x36, 0x38, 0xA5, 0x0D, 0xAA, 0xF0, 0x77, 0x20]
    else
      [0x34, 0xF4, 0xEC, 0x73, 0x63, 0x4A, 0x7A, 0x34, 0x12, 0x2B, 0xF4, 0x84, 0x11, 0x46, 0xB8, 0x89,
      0xD6, 0xB9, 0xD3, 0x34, 0x28, 0x28, 0xC8, 0xB0, 0xD7, 0xF2, 0x95, 0xB8, 0xBA, 0xB3, 0x9C, 0x44]
  length_sum256 s := by split <;> rfl
  idKey _ _ _ _ _ := List.replicate 32 0
  length_idKey _ _ _ _ _ := rfl

attribute [local instance] Sample.digests

/-- The digest of this password ends in a blank. -/
theorem binary_form_refused : ¬Verifies (bytes "teacher6") := by
  intro h
  have hlast : bytes "sha256:" ++ HashLibrary.sum256 (bytes "teacher6") ∈ legacyForms (bytes "teacher6") :=
    List.mem_cons_of_mem _ (List.mem_cons_of_mem _ List.mem_cons_self)
  have hverified := h.legacy _ hlast ⟨0, 0, 0⟩
  have hrefused : verify (bytes "teacher6") (bytes "sha256:" ++ HashLibrary.sum256 (bytes "teacher6")) ⟨0, 0, 0⟩ =
      (false, false) := by decide
  rw [hrefused] at hverified
  exact absurd (congrArg Prod.fst hverified) Bool.false_ne_true

end Sample

end ErgGo.Security.Password
