import ErgGo.Lms.AccessDatabase

/-!
# Access and refresh tokens

The claims a token carries, how a pair is issued and validated, and the portals and account
class that the roles of a user give. Signing, hashing and the other outside functions are
fields of `AuthLibrary`; what the proofs rely on is that a signed token parses back to its
claims. Times in claims are whole seconds.
-/

namespace ErgGo.Auth
open Go Lms

/-- The claims of a token. The subject of the embedded registered claims is shadowed by the
outer field of the same JSON name and is not encoded. -/
structure JWTClaims where
  userID : String
  subject : String := ""
  email : String := ""
  sessionID : String
  tenantID : String := ""
  accountType : String := ""
  accessLevel : String := ""
  portal : String := ""
  portals : List String := []
  permissions : List String := []
  deniedPermissions : List String := []
  roles : List String := []
  issuer : String
  issuedAt : ℤ
  expiresAt : ℤ
  deriving DecidableEq

class AuthLibrary where
  /-- One of the characters equal under simple case folding. -/
  fold : Char → Char
  /-- `unicode.ToUpper`. -/
  toUpper : Char → Char
  /-- Encoding the claims and signing them under a key. -/
  sign : String → JWTClaims → String
  /-- The claims of a token that is well formed and signed under the key. -/
  parse : String → String → Option JWTClaims
  parse_sign : ∀ key claims, parse key (sign key claims) = some claims
  trimSpace_sign : ∀ key claims, trimSpace (sign key claims) = sign key claims
  /-- Hex-encoded SHA-256. -/
  hashSHA256 : String → String
  /-- Whether a password fits a stored hash, and whether the hash should be renewed. -/
  verifyPassword : String → String → Bool × Bool
  isPrivateOrLoopbackIP : String → Bool
  ipMatchesAllowlistEntry : String → String → Bool

open AuthLibrary

structure AuthConfig where
  jwtSecret : String
  jwtRefreshSecret : String
  jwtIssuer : String := ""
  accessTokenTTL : Time
  refreshTokenTTL : Time
  /-- Redis is optional. -/
  redis : Bool := true
  /-- So is the access control service. -/
  accessControl : Bool := true
  defaultTenantID : String := ""
  adminEmail : String := ""
  production : Bool := true
  maxFailedLogin : ℤ := 0
  failedLoginWindow : Time := 0
  blockDuration : Time := 0
  geoBlockEnabled : Bool := false
  allowedContinents : List String := []
  blockUnknownGeo : Bool := false

structure TokenPair where
  accessToken : String
  refreshToken : String
  expiresIn : ℤ
  tokenType : String
  deriving DecidableEq

/-- `jwt.NewNumericDate`. -/
def numericDate (t : Time) : ℤ := t / 1000000000

def tokenIssuer (cfg : AuthConfig) : String := if trimSpace cfg.jwtIssuer = "" then "erg-server" else cfg.jwtIssuer

def accessClaims (cfg : AuthConfig) (now : Time) (sessionID userID email : String) (roles perms portals : List String)
    (accountType accessLevel : String) : JWTClaims where
  userID := userID
  email := email
  sessionID := sessionID
  roles := roles
  permissions := perms
  portals := portals
  accountType := accountType
  accessLevel := accessLevel
  issuer := tokenIssuer cfg
  issuedAt := numericDate now
  expiresAt := numericDate (now + cfg.accessTokenTTL)

def refreshClaims (cfg : AuthConfig) (now : Time) (sessionID userID : String) : JWTClaims where
  userID := userID
  sessionID := sessionID
  issuer := tokenIssuer cfg
  issuedAt := numericDate now
  expiresAt := numericDate (now + cfg.refreshTokenTTL)

def sessionIDFromClaims (c : JWTClaims) : String := if c.sessionID ≠ "" then c.sessionID else c.permissions.headD ""

/-- Parsing checks the signature and that the expiry lies ahead. -/
def validate [AuthLibrary] (cfg : AuthConfig) (key : String) (now : Time) (token : String) : Option JWTClaims :=
  match parse key (trimSpace token) with
  | none => none
  | some claims =>
    if claims.expiresAt * 1000000000 ≤ now then none
    else if claims.issuer ≠ tokenIssuer cfg then none
    else some (if claims.userID = "" then { claims with userID := claims.subject } else claims)

/-- `strings.EqualFold`. -/
def equalFold [AuthLibrary] (s t : String) : Bool := s.toList.map fold = t.toList.map fold

/-- The roles that have portals, legacy ones included, with their portals. -/
def rolePortals : List (String × List String) :=
  [("system.super_admin", ["*"]), ("system.admin", ["*"]), ("erg_super_admin", ["*"]),
    ("system.rbac_admin", ["cms"]), ("system.audit_reader", ["cms"]),
    ("media.manager", ["cms", "lms", "elearning", "hoclieu"]), ("hoclieu.admin", ["hoclieu"]),
    ("hoclieu.editor", ["hoclieu"]), ("hoclieu.viewer", ["hoclieu"]), ("lms.admin", ["lms"]),
    ("lms.teacher", ["lms"]), ("lms.student", ["lms"]), ("elearning.admin", ["elearning"]),
    ("elearning.instructor", ["elearning"]), ("elearning.learner", ["elearning"]), ("SUPER_ADMIN", ["*"]),
    ("admin", ["*"]), ("erg_super_admin", ["*"]), ("content_manager", ["cms"]), ("editor", ["cms"]),
    ("viewer", ["cms"]), ("teacher", ["lms", "hoclieu"]), ("student", ["elearning"])]

section Policy

variable [Library] [AuthLibrary]

def normalizeRole (role : String) : String := toLower (trimSpace role)

def normalizePortal (portal : String) : String := toLower (trimSpace portal)

def uniquePortals (values : List String) : List String :=
  sortStrings ((values.map normalizePortal).filter (fun value => value ≠ "")).dedup

/-- A name given twice has the portals given last. -/
def portalsForToken (roles : List String) : List String :=
  uniquePortals (roles.flatMap (fun role =>
    ((rolePortals.filter (fun definition => normalizeRole definition.1 = normalizeRole role)).getLast?.map Prod.snd).getD []))

def grantsAllPermissions (roles : List String) : Bool :=
  roles.any (fun role => equalFold role "admin" || equalFold role "SUPER_ADMIN" ||
    equalFold role "system.super_admin" || equalFold role "erg_super_admin")

def containsPortal (portals : List String) (portal : String) : Bool :=
  portals.any (fun item => equalFold (trimSpace item) portal)

def containsPermission (permissions : List String) (permission : String) : Bool :=
  permissions.any (fun item => equalFold (trimSpace item) permission)

def classifyAccountAccess (roles portals permissions : List String) : String × String :=
  if grantsAllPermissions roles || containsPortal portals "*" || containsPermission permissions "*" then ("admin", "full")
  else if containsPortal portals "cms" then ("staff", "cms")
  else if containsPortal portals "elearning" && !containsPortal portals "lms" && !containsPortal portals "hoclieu" then
    ("student", "elearning")
  else if containsPortal portals "lms" && containsPortal portals "hoclieu" then ("teacher", "full")
  else if containsPortal portals "lms" then ("teacher", "lms")
  else if containsPortal portals "hoclieu" then ("teacher", "hoclieu")
  else ("community", "community_only")

end Policy

/-- When a token was issued and when it expires, as far as its claims tell. -/
def JWTClaims.stamp (c : JWTClaims) : ℤ × ℤ := (c.issuedAt, c.expiresAt)

section Stamps

variable [AuthLibrary]

lemma validate_eq_some {cfg : AuthConfig} {key token : String} {now : Time} {claims : JWTClaims}
    (h : validate cfg key now token = some claims) :
    ∃ parsed, parse key (trimSpace token) = some parsed ∧ now < parsed.expiresAt * 1000000000 ∧
      parsed.stamp = claims.stamp := by
  unfold validate at h
  cases hparse : parse key (trimSpace token) with
  | none =>
    rw [hparse] at h
    cases h
  | some parsed =>
    rw [hparse] at h
    dsimp only at h
    split at h
    · cases h
    · next hexpired =>
      split at h
      · cases h
      · cases h
        refine ⟨parsed, rfl, not_le.mp hexpired, ?_⟩
        split <;> rfl

end Stamps

namespace PlainToken

/-- Every character is marked, so that the marks between strings and lists stand out. -/
def encodeString (s : List Char) : List Char := s.flatMap (fun c => ['x', c])

def encodeStrings (l : List (List Char)) : List Char := l.flatMap (fun s => '.' :: encodeString s)

def encodeLists (ls : List (List (List Char))) : List Char := ls.flatMap (fun l => ';' :: encodeStrings l)

/-- The characters up to the next mark, the strings up to the next list, and the lists. -/
def decode : List Char → List Char × List (List Char) × List (List (List Char))
  | 'x' :: c :: rest => (c :: (decode rest).1, (decode rest).2)
  | '.' :: rest => ([], (decode rest).1 :: (decode rest).2.1, (decode rest).2.2)
  | ';' :: rest => ([], [], (decode rest).2.1 :: (decode rest).2.2)
  | _ => ([], [], [])

lemma decode_encodeString (s rest : List Char) :
    decode (encodeString s ++ rest) = (s ++ (decode rest).1, (decode rest).2) := by
  induction s with
  | nil => rfl
  | cons c s ih =>
    change ((c :: (decode (encodeString s ++ rest)).1), (decode (encodeString s ++ rest)).2) = _
    rw [ih]
    rfl

lemma decode_encodeStrings (l : List (List Char)) {rest : List Char} (hrest : (decode rest).1 = []) :
    decode (encodeStrings l ++ rest) = ([], l ++ (decode rest).2.1, (decode rest).2.2) := by
  induction l with
  | nil =>
    change decode rest = _
    rw [← hrest]
    rfl
  | cons s l ih =>
    have hcons : encodeStrings (s :: l) ++ rest = '.' :: (encodeString s ++ (encodeStrings l ++ rest)) := by
      simp [encodeStrings]
    rw [hcons]
    change ([], (decode (encodeString s ++ (encodeStrings l ++ rest))).1 :: _, _) = _
    rw [decode_encodeString, ih, List.append_nil]
    rfl

lemma decode_encodeLists (ls : List (List (List Char))) :
    decode (encodeLists ls ++ [';']) = ([], [], ls ++ [[]]) := by
  induction ls with
  | nil => rfl
  | cons l ls ih =>
    have hcons : encodeLists (l :: ls) ++ [';'] = ';' :: (encodeStrings l ++ (encodeLists ls ++ [';'])) := by
      simp [encodeLists]
    have hrest : (decode (encodeLists ls ++ [';'])).1 = [] := by rw [ih]
    rw [hcons]
    change ([], [], (decode (encodeStrings l ++ (encodeLists ls ++ [';']))).2.1 :: _) = _
    rw [decode_encodeStrings l hrest, ih, List.append_nil]
    rfl

def encodeInt (n : ℤ) : List Char := (if n < 0 then ['-'] else []) ++ List.replicate n.natAbs 'i'

def decodeInt : List Char → ℤ
  | '-' :: rest => -rest.length
  | rest => rest.length

lemma decodeInt_encodeInt (n : ℤ) : decodeInt (encodeInt n) = n := by
  unfold encodeInt
  by_cases hn : n < 0
  · rw [if_pos hn]
    change -((List.replicate n.natAbs 'i').length : ℤ) = n
    rw [List.length_replicate]
    omega
  · rw [if_neg hn, List.nil_append]
    have hpositive : ∀ k : ℕ, decodeInt (List.replicate k 'i') = k := by
      intro k
      cases k with
      | zero => rfl
      | succ k =>
        change (((List.replicate (k + 1) 'i').length : ℕ) : ℤ) = _
        rw [List.length_replicate]
    rw [hpositive]
    omega

/-- The key and the claims as lists of strings. -/
def fields (key : String) (c : JWTClaims) : List (List (List Char)) :=
  [[key.toList, c.userID.toList, c.subject.toList, c.email.toList, c.sessionID.toList, c.accountType.toList,
    c.accessLevel.toList, c.issuer.toList, encodeInt c.issuedAt, encodeInt c.expiresAt, c.tenantID.toList,
    c.portal.toList], c.portals.map String.toList, c.permissions.map String.toList, c.roles.map String.toList,
    c.deniedPermissions.map String.toList]

def sign (key : String) (c : JWTClaims) : String := String.ofList (encodeLists (fields key c) ++ [';'])

def parse (key token : String) : Option JWTClaims :=
  match (decode token.toList).2.2 with
  | [[key', userID, subject, email, sessionID, accountType, accessLevel, issuer, issuedAt, expiresAt, tenantID, portal],
      portals, permissions, roles, deniedPermissions, []] =>
    if key' = key.toList then
      some { userID := String.ofList userID, subject := String.ofList subject, email := String.ofList email,
             sessionID := String.ofList sessionID, accountType := String.ofList accountType,
             accessLevel := String.ofList accessLevel, portals := portals.map String.ofList,
             permissions := permissions.map String.ofList, roles := roles.map String.ofList,
             issuer := String.ofList issuer, issuedAt := decodeInt issuedAt, expiresAt := decodeInt expiresAt,
             tenantID := String.ofList tenantID, portal := String.ofList portal,
             deniedPermissions := deniedPermissions.map String.ofList }
    else none
  | _ => none

lemma parse_sign (key : String) (c : JWTClaims) : parse key (sign key c) = some c := by
  have hdecode : (decode (sign key c).toList).2.2 = fields key c ++ [[]] := by
    rw [sign, String.toList_ofList, decode_encodeLists]
  have hmap : ∀ l : List String, (l.map String.toList).map String.ofList = l := by
    intro l
    rw [List.map_map]
    simp
  unfold parse
  rw [hdecode]
  simp only [fields, List.cons_append, List.nil_append, ↓reduceIte, String.ofList_toList, decodeInt_encodeInt, hmap]

lemma trimSpace_sign (key : String) (c : JWTClaims) : trimSpace (sign key c) = sign key c := by
  have hhead : ∃ rest, encodeLists (fields key c) = ';' :: rest := ⟨_, rfl⟩
  obtain ⟨rest, hrest⟩ := hhead
  have hmark : ¬isSpace ';' := by decide
  unfold trimSpace sign
  rw [String.toList_ofList, hrest, List.cons_append, List.dropWhile_cons_of_neg hmark, ← List.cons_append,
    List.reverse_append, List.reverse_singleton, List.singleton_append, List.dropWhile_cons_of_neg hmark,
    List.reverse_cons, List.reverse_reverse]

end PlainToken

/-- A library for computing examples: tokens without a signature, the identity for hashing,
and no private addresses. -/
@[reducible] def plainAuth : AuthLibrary where
  fold := Char.toLower
  toUpper := Char.toUpper
  sign := PlainToken.sign
  parse := PlainToken.parse
  parse_sign := PlainToken.parse_sign
  trimSpace_sign := PlainToken.trimSpace_sign
  hashSHA256 s := s
  verifyPassword plain stored := (plain = stored, false)
  isPrivateOrLoopbackIP _ := false
  ipMatchesAllowlistEntry ip entry := ip = entry

end ErgGo.Auth
