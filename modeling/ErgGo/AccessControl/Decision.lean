import ErgGo.Auth.Tokens

/-!
# Decisions on required permissions

A request is decided by the permissions in its token and those of the roles in it. Denied
permissions are looked at first, and a permission also stands for its aliases.
-/

namespace ErgGo.AccessControl.Policy
open Go Lms Auth

/-- The permissions of the role definitions, the legacy ones last. -/
def rolePermissions : List (String × List String) :=
  [("system.super_admin", ["*"]),
    ("system.admin", ["hoclieu.*", "lms.*", "elearning.*", "rbac.*", "audit.read", "media.*", "cms.*"]),
    ("erg_super_admin", ["*"]),
    ("system.rbac_admin", ["rbac.*", "audit.read"]),
    ("system.audit_reader", ["audit.read"]),
    ("media.manager", ["media.*", "hoclieu.asset.upload", "hoclieu.asset.download"]),
    ("hoclieu.admin", ["hoclieu.*", "audit.read"]),
    ("hoclieu.editor", ["hoclieu.content.read", "hoclieu.content.create", "hoclieu.content.update",
      "hoclieu.content.publish", "hoclieu.program.read", "hoclieu.resource.read", "hoclieu.resource.create",
      "hoclieu.resource.update", "hoclieu.resource.publish", "hoclieu.asset.upload", "hoclieu.asset.launch",
      "hoclieu.asset.download"]),
    ("hoclieu.viewer", ["hoclieu.content.read", "hoclieu.program.read", "hoclieu.resource.read", "hoclieu.asset.launch",
      "hoclieu.asset.download"]),
    ("lms.admin", ["lms.*", "audit.read"]),
    ("lms.teacher", ["lms.scope.read", "lms.unit.read", "lms.course.read", "lms.class.read", "lms.student.read",
      "lms.exam.read", "lms.exam.manage", "lms.question.read", "lms.question.create", "lms.question.update",
      "lms.quiz.read", "lms.quiz.create", "lms.quiz.update", "lms.assignment.read", "lms.assignment.create",
      "lms.assignment.update", "lms.assignment.grade", "lms.grade.read", "lms.grade.update", "lms.report.read"]),
    ("lms.student", ["lms.scope.read", "lms.course.read", "lms.class.read", "lms.assignment.read",
      "lms.assignment.submit", "lms.grade.read", "lms.report.read"]),
    ("elearning.admin", ["elearning.*", "audit.read"]),
    ("elearning.instructor", ["elearning.course.read", "elearning.course.create", "elearning.course.update",
      "elearning.course.publish", "elearning.lesson.read", "elearning.lesson.create", "elearning.lesson.update"]),
    ("elearning.learner", ["elearning.profile.read_self", "elearning.assignment.read_self",
      "elearning.assignment.start_attempt", "elearning.assignment.save_answer", "elearning.assignment.submit",
      "elearning.score.read_self", "elearning.discussion.read", "elearning.discussion.create",
      "elearning.discussion.reply", "elearning.notification.read_self", "elearning.notification.update_self"]),
    ("SUPER_ADMIN", ["*"]),
    ("admin", ["*"]),
    ("erg_super_admin", ["*"]),
    ("content_manager", ["posts.*", "courses.*", "crawler.*", "seo.*"]),
    ("editor", ["posts.read", "posts.create", "posts.update", "posts.delete", "users.read"]),
    ("viewer", ["*.read"]),
    ("teacher", ["lms.scope.read", "lms.unit.read", "lms.course.read", "lms.class.read", "lms.student.read",
      "lms.exam.read", "lms.question.read", "lms.quiz.read", "lms.assignment.read", "lms.assignment.create",
      "lms.grade.read", "lms.report.read", "hoclieu.program.read", "hoclieu.resource.read", "hoclieu.asset.launch",
      "hoclieu.asset.download"]),
    ("student", ["elearning.profile.read_self", "elearning.assignment.read_self",
      "elearning.assignment.start_attempt", "elearning.assignment.save_answer", "elearning.assignment.submit",
      "elearning.score.read_self", "elearning.discussion.read", "elearning.discussion.create",
      "elearning.discussion.reply", "elearning.notification.read_self", "elearning.notification.update_self"])]

def permissionAliases (permission : String) : List String :=
  match trimSpace permission with
  | "rbac.role.read" => ["roles.read"]
  | "rbac.role.create" => ["roles.create"]
  | "rbac.role.update" => ["roles.update"]
  | "rbac.role.delete" => ["roles.delete"]
  | "rbac.role.assign" => ["roles.assign"]
  | "rbac.permission.read" => ["roles.read"]
  | "rbac.override.manage" => ["roles.assign"]
  | "audit.read" => ["system.logs"]
  | "roles.read" => ["rbac.role.read", "rbac.permission.read"]
  | "roles.create" => ["rbac.role.create"]
  | "roles.update" => ["rbac.role.update"]
  | "roles.delete" => ["rbac.role.delete"]
  | "roles.assign" => ["rbac.role.assign", "rbac.override.manage"]
  | "system.logs" => ["audit.read"]
  | _ => []

def permissionEquivalents (required : String) : List String := uniqueStrings (required :: permissionAliases required)

structure Subject where
  id : String
  tenantID : String
  roles : List String
  permissions : List String
  deniedPermissions : List String
  portals : List String

structure Resource where
  namespace_ : String := ""
  type : String := ""
  tenantID : String := ""
  permission : String := ""

structure Scope where
  portal : String := ""
  tenantID : String := ""

structure Request where
  subject : Subject
  action : String := ""
  resource : Resource := {}
  scope : Scope := {}

structure Decision where
  allowed : Bool := false
  reason : String
  requiredPermission : String := ""
  matchedPermission : String := ""
  deriving DecidableEq

section Policy

variable [Library]

/-- A name given twice has the permissions given last. -/
def definedPermissions (role : String) : List String :=
  ((rolePermissions.filter (fun definition => normalizeRole definition.1 = normalizeRole role)).getLast?.map
    Prod.snd).getD []

def permissionsForRoles (roles : List String) : List String := uniqueStrings (roles.flatMap definedPermissions)

/-- `strings.Trim(s, ". ")`. -/
def trimDots (s : String) : String :=
  let dot := fun c : Char => c = '.' || c = ' '
  String.ofList ((s.toList.dropWhile dot).reverse.dropWhile dot).reverse

def requiredPermission (action : String) (resource : Resource) : String :=
  if resource.permission ≠ "" then trimSpace resource.permission
  else
    let action := trimDots (toLower action)
    if action = "" then ""
    else if resource.namespace_ = "" ∧ resource.type = "" then action
    else ".".intercalate (([trimDots (toLower resource.namespace_), trimDots (toLower resource.type)].filter
      (fun part => part ≠ "")) ++ [action])

/-- A granted permission may be a wildcard: everything, everything under a prefix, or every
reading. -/
def permissionMatches (granted required : String) : Bool :=
  let granted := toLower (trimSpace granted)
  let required := toLower (trimSpace required)
  if granted = "" ∨ required = "" then false
  else if granted = "*" then true
  else if granted = required then true
  else if ".*".toList <:+ granted.toList then granted.toList.dropLast <+: required.toList
  else granted = "*.read" && ".read".toList <:+ required.toList

def findMatchingPermission (permissions : List String) (required : String) : Option String :=
  permissions.find? (fun permission => permissionMatches permission required)

/-- The portals of the subject's roles count as well. -/
def subjectHasPortal (subject : Subject) (portal : String) : Bool :=
  normalizePortal portal = "" || (subject.portals ++ portalsForToken subject.roles).any (fun allowed =>
    normalizePortal allowed = "*" || normalizePortal allowed = normalizePortal portal)

def decide (req : Request) : Decision :=
  let required := requiredPermission req.action req.resource
  if required = "" then { reason := "permission required" }
  else if req.scope.portal ≠ "" && !subjectHasPortal req.subject req.scope.portal then
    { requiredPermission := required, reason := "portal denied" }
  else if req.scope.tenantID ≠ "" && req.subject.tenantID ≠ "" && req.subject.tenantID ≠ req.scope.tenantID then
    { requiredPermission := required, reason := "tenant denied" }
  else if req.resource.tenantID ≠ "" && req.subject.tenantID ≠ "" && req.subject.tenantID ≠ req.resource.tenantID then
    { requiredPermission := required, reason := "resource tenant denied" }
  else
    let equivalents := permissionEquivalents required
    match equivalents.findSome? (findMatchingPermission req.subject.deniedPermissions) with
    | some matched => { requiredPermission := required, matchedPermission := matched, reason := "deny override" }
    | none =>
      let grants := req.subject.permissions ++ permissionsForRoles req.subject.roles
      match equivalents.findSome? (findMatchingPermission grants) with
      | some matched =>
        { allowed := true, requiredPermission := required, matchedPermission := matched, reason := "allowed" }
      | none => { requiredPermission := required, reason := "permission denied" }

def normalizePortals (values : List String) : List String :=
  uniquePortals ((values.map normalizePortal).filter (fun value => value ≠ ""))

def subjectFromClaims (claims : JWTClaims) : Subject where
  id := if claims.userID = "" then claims.subject else claims.userID
  tenantID := claims.tenantID
  roles := uniqueStrings claims.roles
  permissions := uniqueStrings claims.permissions
  deniedPermissions := uniqueStrings claims.deniedPermissions
  portals := normalizePortals (claims.portals ++ (if claims.portal = "" then [] else [claims.portal]) ++
    portalsForToken claims.roles)

/-- How the middleware answers a request. -/
inductive Access where
  | unauthorized
  | forbidden (message : String)
  | passed
  deriving DecidableEq

def requireAccessPermission (permission : String) (claims : Option JWTClaims) : Access :=
  match claims with
  | none => .unauthorized
  | some claims =>
    if (decide { subject := subjectFromClaims claims, resource := { permission := permission } }).allowed then .passed
    else .forbidden ("permission '" ++ permission ++ "' required")

end Policy

section Covering

variable [Library]

/-- Some granted permission matches the required one or an alias of it. -/
def Covers (grants : List String) (required : String) : Prop :=
  ∃ candidate ∈ permissionEquivalents required, ∃ granted ∈ grants, permissionMatches granted candidate

lemma toLower_eq_empty {s : String} (h : toLower s = "") : s = "" := by
  unfold toLower at h
  have hlist : s.toList.map Library.toLower = [] := by simpa using congrArg String.toList h
  simpa using List.map_eq_nil_iff.mp hlist

lemma permissionMatches_trimSpace (granted required : String) :
    permissionMatches (trimSpace granted) required = permissionMatches granted required := by
  unfold permissionMatches
  rw [trimSpace_trimSpace]

lemma permissionMatches_ne_blank {granted required : String} (h : permissionMatches granted required) :
    trimSpace granted ≠ "" := by
  intro hblank
  have hempty : toLower (trimSpace granted) = "" := by
    rw [hblank]
    rfl
  unfold permissionMatches at h
  simp only [hempty, true_or, if_true] at h
  exact absurd h Bool.false_ne_true

/-- Trimming the grants and leaving out duplicates covers the same. -/
lemma exists_match_uniqueStrings {grants : List String} {candidate : String} :
    (∃ granted ∈ uniqueStrings grants, permissionMatches granted candidate) ↔
      ∃ granted ∈ grants, permissionMatches granted candidate := by
  constructor
  · rintro ⟨trimmed, htrimmed, hmatch⟩
    obtain ⟨-, granted, hgranted, rfl⟩ := mem_uniqueStrings.mp htrimmed
    rw [permissionMatches_trimSpace] at hmatch
    exact ⟨granted, hgranted, hmatch⟩
  · rintro ⟨granted, hgranted, hmatch⟩
    refine ⟨trimSpace granted, mem_uniqueStrings.mpr ⟨permissionMatches_ne_blank hmatch, granted, hgranted, rfl⟩, ?_⟩
    rw [permissionMatches_trimSpace]
    exact hmatch

lemma definedPermissions_trimSpace (role : String) : definedPermissions (trimSpace role) = definedPermissions role := by
  unfold definedPermissions normalizeRole
  rw [trimSpace_trimSpace]

lemma definedPermissions_blank {role : String} (h : trimSpace role = "") : definedPermissions role = [] := by
  have hnamed : ∀ definition ∈ rolePermissions, trimSpace definition.1 ≠ "" := by decide
  have hnone : rolePermissions.filter (fun definition => normalizeRole definition.1 = normalizeRole role) = [] := by
    refine List.filter_eq_nil_iff.mpr fun definition hdefinition hname => hnamed definition hdefinition ?_
    refine toLower_eq_empty ((of_decide_eq_true hname).trans ?_)
    unfold normalizeRole
    rw [h]
    rfl
  unfold definedPermissions
  rw [hnone]
  rfl

lemma mem_permissionsForRoles_uniqueStrings {roles : List String} {permission : String} :
    permission ∈ permissionsForRoles (uniqueStrings roles) ↔ permission ∈ permissionsForRoles roles := by
  have hsame : ∀ stored, stored ∈ (uniqueStrings roles).flatMap definedPermissions ↔
      stored ∈ roles.flatMap definedPermissions := by
    intro stored
    rw [List.mem_flatMap, List.mem_flatMap]
    constructor
    · rintro ⟨trimmed, htrimmed, hstored⟩
      obtain ⟨-, role, hrole, rfl⟩ := mem_uniqueStrings.mp htrimmed
      rw [definedPermissions_trimSpace] at hstored
      exact ⟨role, hrole, hstored⟩
    · rintro ⟨role, hrole, hstored⟩
      have hnamed : trimSpace role ≠ "" := by
        intro hblank
        rw [definedPermissions_blank hblank] at hstored
        exact absurd hstored List.not_mem_nil
      refine ⟨trimSpace role, mem_uniqueStrings.mpr ⟨hnamed, role, hrole, rfl⟩, ?_⟩
      rw [definedPermissions_trimSpace]
      exact hstored
  unfold permissionsForRoles
  rw [mem_uniqueStrings, mem_uniqueStrings]
  simp only [hsame]

lemma findSome_isSome_iff {grants candidates : List String} :
    (candidates.findSome? (findMatchingPermission grants)).isSome ↔
      ∃ candidate ∈ candidates, ∃ granted ∈ grants, permissionMatches granted candidate := by
  rw [List.findSome?_isSome_iff]
  refine exists_congr fun candidate => and_congr_right fun _ => ?_
  unfold findMatchingPermission
  rw [List.find?_isSome]

omit [Library] in
lemma permissionEquivalents_empty : permissionEquivalents "" = [] := by decide

/-- What a token without denied permissions lets pass. -/
theorem requireAccessPermission_passed_iff {claims : JWTClaims} (hdenied : claims.deniedPermissions = [])
    (permission : String) : requireAccessPermission permission (some claims) = .passed ↔
      Covers (claims.permissions ++ permissionsForRoles claims.roles) (trimSpace permission) := by
  have hrequired : requiredPermission "" { permission := permission } = trimSpace permission := by
    unfold requiredPermission
    by_cases hpermission : permission = ""
    · subst hpermission
      rfl
    · rw [if_pos hpermission]
  have hgrants : (∃ candidate ∈ permissionEquivalents (trimSpace permission), ∃ granted ∈
      uniqueStrings claims.permissions ++ permissionsForRoles (uniqueStrings claims.roles),
        permissionMatches granted candidate) ↔
      Covers (claims.permissions ++ permissionsForRoles claims.roles) (trimSpace permission) := by
    refine exists_congr fun candidate => and_congr_right fun _ => ?_
    simp only [List.mem_append, or_and_right, exists_or, exists_match_uniqueStrings,
      mem_permissionsForRoles_uniqueStrings]
  have hnone : (permissionEquivalents (trimSpace permission)).findSome?
      (findMatchingPermission (uniqueStrings claims.deniedPermissions)) = none := by
    rw [hdenied]
    refine List.findSome?_eq_none_iff.mpr fun candidate _ => ?_
    rfl
  rw [← hgrants, ← findSome_isSome_iff]
  unfold requireAccessPermission decide
  simp only [hrequired]
  by_cases hblank : trimSpace permission = ""
  · rw [hblank, permissionEquivalents_empty]
    simp
  · rw [if_neg hblank]
    simp only [subjectFromClaims, ne_eq, not_true_eq_false, decide_false, Bool.false_and, Bool.false_eq_true, if_false,
      hnone]
    split
    · next matched hmatched => simp [hmatched]
    · next hmatched => simp [hmatched]

end Covering

end ErgGo.AccessControl.Policy
