import ErgGo.Lib.Highest
import ErgGo.Lms.AccessDatabase
import ErgGo.Lms.Roster

/-!
# Access management

Who manages access to what: the policies an actor may assign, what a user can do under the
stored policies, and the service calls that read, preview and save them.
-/

namespace ErgGo.Lms
open Go Documents

structure UserAccessPolicy where
  id : String := ""
  scopeType : String
  scopeID : String
  scopeName : String := ""
  roleGroup : String
  modules : List String
  permissions : List String := []

structure AccessModule where
  id : String
  name : String
  description : String

structure AccessRoleGroup where
  id : String
  name : String
  description : String
  scopeTypes : List String
  permissions : List String

structure AccessScopeOption where
  scopeType : String
  scopeID : String
  name : String
  badge : String
  icon : String
  description : String

structure AccessManagementOptions where
  scopes : List AccessScopeOption
  roleGroups : List AccessRoleGroup
  modules : List AccessModule

structure AccessPolicySummary where
  scopeCount : ℕ
  modules : List String
  roleGroups : List String
  highestScope : String

structure AccessManagedUser where
  id : String
  email : String
  fullName : String
  avatarURL : String
  phone : String
  status : String
  accountType : String
  roles : List String
  isProfileCompleted : Bool
  accessSummary : AccessPolicySummary
  createdAt : Time

structure EffectiveAccess where
  highestScope : String
  modules : List String
  permissions : List String
  deriving DecidableEq

structure UserAccessDetail where
  user : AccessManagedUser
  policies : List UserAccessPolicy
  effective : EffectiveAccess
  assignable : AccessManagementOptions

def accessModules : List AccessModule := [
  ⟨"lms", "LMS", "Dashboard, lớp học, học sinh, bài tập, báo cáo"⟩,
  ⟨"hoclieu", "Học liệu", "Thư viện học liệu, chương trình, tài nguyên số"⟩,
  ⟨"media", "Media", "Quản lý nội dung media và tài nguyên hiển thị"⟩]

def accessRoleGroups : List AccessRoleGroup := [
  ⟨"system_admin", "System administrator", "Quản trị toàn hệ thống ERG", ["system"], ["*"]⟩,
  ⟨"center_admin", "Center administrator", "Quản trị trung tâm, trường và lớp trực thuộc", ["center"],
    ["lms.unit.read", "lms.unit.update", "lms.class.read", "lms.class.update", "lms.report.read",
      "lms.scope.read"]⟩,
  ⟨"school_admin", "School administrator", "Quản trị lớp và học sinh trong trường", ["school"],
    ["lms.class.read", "lms.class.update", "lms.report.read", "lms.assignment.read"]⟩,
  ⟨"teacher", "Teacher", "Giảng dạy, giao bài, theo dõi lớp được phân công", ["school"],
    ["lms.class.read", "lms.assignment.read", "lms.assignment.create", "lms.report.read"]⟩,
  ⟨"media_manager", "Media manager", "Quản lý học liệu và media trong phạm vi được giao",
    ["system", "center"],
    ["lms.question.read", "lms.question.create", "lms.quiz.read", "lms.quiz.create", "media.read",
      "media.create"]⟩]

def allAccessModuleIDs : List String := accessModules.map AccessModule.id

def roleGroupAllowedForScope (roleGroup scopeType : String) : Bool :=
  accessRoleGroups.any (fun group => group.id = roleGroup && scopeType ∈ group.scopeTypes)

def permissionsForRoleGroup (roleGroup : String) : List String :=
  (accessRoleGroups.find? (fun group => group.id = roleGroup)).elim [] AccessRoleGroup.permissions

def scopeRank (scopeType : String) : ℕ :=
  if scopeType = "system" then 3
  else if scopeType = "center" then 2
  else if scopeType = "school" then 1
  else 0

/-- The highest scope type of a number of policies. -/
def highestScope (policies : List UserAccessPolicy) : String :=
  let highest := Scan.highest scopeRank "" (policies.map UserAccessPolicy.scopeType)
  if highest = "" then "none" else highest

def effectiveAccess (policies : List UserAccessPolicy) : EffectiveAccess where
  highestScope := highestScope policies
  modules := uniqueStrings (policies.flatMap UserAccessPolicy.modules)
  permissions := uniqueStrings (policies.flatMap UserAccessPolicy.permissions)

def accessSummary (policies : List UserAccessPolicy) : AccessPolicySummary where
  scopeCount := policies.length
  modules := uniqueStrings (policies.flatMap UserAccessPolicy.modules)
  roleGroups := uniqueStrings (policies.map UserAccessPolicy.roleGroup)
  highestScope := highestScope policies

def centerIDForPolicy (policy : UserAccessPolicy) : String :=
  if policy.scopeType = "system" then "system" else policy.scopeID

def scopeBadge (unitType : String) : String :=
  if unitType = "system" then "System"
  else if unitType = "school" then "School"
  else if unitType = "center" then "Center"
  else "Class"

def scopeIcon (unitType : String) : String :=
  if unitType = "system" then "shield"
  else if unitType = "school" then "school"
  else if unitType = "center" then "building-2"
  else "users"

def hierarchyScopeDescription (scopeType name : String) : String :=
  if scopeType = "center" then "Quản lý trường học và lớp trực thuộc " ++ name ++ "."
  else if scopeType = "school" then "Quản lý lớp học thuộc " ++ name ++ "."
  else "Quản lý toàn hệ thống ERG."

/-- The record a policy of a user is stored as. -/
def accessRecord (userID : String) (policy : UserAccessPolicy) : UserAccessRecord :=
  ⟨policy.id, userID, centerIDForPolicy policy, policy.modules, policy.roleGroup⟩

variable [Library]

def normalizeScopeLevel (level : String) : String :=
  let level := toLower (trimSpace level)
  if level = "system" then "global" else level

def normalizeAccessModules (values : List String) : List String :=
  uniqueStrings ((values.map (fun value => toLower (trimSpace value))).filter (fun value =>
    value ∈ allAccessModuleIDs))

/-- The scope type of a center: a school, or else a center. -/
def scopeTypeForCenter (center : Center) : String := if centerType center = "school" then "school" else "center"

def hasSuperAdminAccessRole (roles : List String) : Bool :=
  roles.any (fun role => toLower (trimSpace role) ∈
    ["super_admin", "super-admin", "system.super_admin", "erg_super_admin"])

def effectiveAccessForUser (user : AccessUserRecord) (policies : List UserAccessPolicy) : EffectiveAccess :=
  if hasSuperAdminAccessRole user.roles then ⟨"system", allAccessModuleIDs, ["*"]⟩
  else effectiveAccess policies

def accessSummaryForUser (user : AccessUserRecord) (policies : List UserAccessPolicy) :
    AccessPolicySummary :=
  if hasSuperAdminAccessRole user.roles then
    ⟨policies.length, allAccessModuleIDs, ["system_admin"], "system"⟩
  else accessSummary policies

/-- The creation time is kept as a time; the source formats it. -/
def accessUserToDTO (user : AccessUserRecord) (policies : List UserAccessPolicy) : AccessManagedUser where
  id := user.id
  email := user.email
  fullName := user.fullName
  avatarURL := user.avatarURL
  phone := user.phone
  status := user.status
  accountType := user.accountType
  roles := user.roles
  isProfileCompleted := user.isProfileCompleted && trimSpace user.fullName ≠ "" && trimSpace user.phone ≠ ""
  accessSummary := accessSummaryForUser user policies
  createdAt := user.createdAt

def sortAccessPolicies (policies : List UserAccessPolicy) : List UserAccessPolicy :=
  Library.sortSlice (fun a b =>
    if scopeRank a.scopeType = scopeRank b.scopeType then a.scopeName < b.scopeName
    else scopeRank a.scopeType > scopeRank b.scopeType) policies

def accessRoleGroupsForActor (actor : Actor) : List AccessRoleGroup :=
  if actor.canAccessGlobal then accessRoleGroups
  else accessRoleGroups.filter (fun group => group.id ≠ "system_admin")

namespace Service

/-- The id and the name of the scope of a policy. -/
def normalizeScope (r : Roster) (tenantID scopeType scopeID : String) : Except LmsError (String × String) :=
  if scopeType = "system" then .ok ("system", "Hệ thống ERG")
  else do
    match ← r.getCenter tenantID scopeID with
    | none => throw (.invalidAccessPolicy "scope not found")
    | some center =>
      if scopeType ≠ scopeTypeForCenter center then throw (.invalidAccessPolicy "scope type mismatch")
      else return (scopeID, center.name)

def normalizeAccessPolicy (r : Roster) (tenantID : String) (policy : UserAccessPolicy) :
    Except LmsError UserAccessPolicy := do
  let scopeType := toLower (trimSpace policy.scopeType)
  let roleGroup := toLower (trimSpace policy.roleGroup)
  let modules := normalizeAccessModules policy.modules
  let (scopeID, scopeName) ← normalizeScope r tenantID scopeType (trimSpace policy.scopeID)
  if modules.isEmpty then throw (.invalidAccessPolicy "modules required")
  else if !roleGroupAllowedForScope roleGroup scopeType then
    throw (.invalidAccessPolicy "role group is not allowed for scope")
  else return {
    id := policy.id
    scopeType := scopeType
    scopeID := scopeID
    scopeName := scopeName
    roleGroup := roleGroup
    modules := modules
    permissions := permissionsForRoleGroup roleGroup }

/-- The policy a stored row stands for, unless its center is gone. -/
def policyForRow (r : Roster) (tenantID : String) (row : UserAccessRecord) :
    Except LmsError (Option UserAccessPolicy) :=
  let policy (scopeType scopeID scopeName : String) : UserAccessPolicy :=
    { id := row.id
      scopeType := scopeType
      scopeID := scopeID
      scopeName := scopeName
      roleGroup := row.role
      modules := row.modules
      permissions := permissionsForRoleGroup row.role }
  if row.centerID = "system" then .ok (some (policy "system" "system" "Hệ thống ERG"))
  else do
    let center ← r.getCenter tenantID row.centerID
    return center.map (fun center => policy (scopeTypeForCenter center) center.id.hex center.name)

def policiesForUser (r : Roster) (db : AccessDatabase) (tenantID userID : String) :
    Except LmsError (List UserAccessPolicy) := do
  let policies ← (db.listAccess userID).mapM (policyForRow r tenantID)
  return sortAccessPolicies policies.reduceOption

section Managing

variable [MongoServer] (b : Backend) (r : Roster)

omit [MongoServer] in
/-- The center of the actor's current scope, if the actor may manage access there. -/
def currentAccessCenter (tenantID : String) (actor : Actor) : Except LmsError (Option Center) := do
  match r.getCurrentScope tenantID actor.userID with
  | some current =>
    if normalizeScopeLevel current.level = "center" && current.centerID ≠ "" &&
        r.canAccessCenter tenantID actor current.centerID then
      let center ← r.getCenter tenantID current.centerID
      return center.filter (fun center => centerType center = "center")
    else return none
  | none => return none

/-- The center a non-global actor manages, empty if there is none. -/
def managedAccessCenterID (tenantID : String) (actor : Actor) : Except LmsError String := do
  if actor.canAccessGlobal then return ""
  else match ← currentAccessCenter r tenantID actor with
    | some center => return center.id.hex
    | none =>
      let (centers, _) ← r.listCenters b tenantID { page := 1, limit := 100 } actor.userID
      return (centers.find? (fun center => centerType center = "center")).elim "" (fun center => center.id.hex)

def canManageAccess (tenantID : String) (actor : Actor) : Except LmsError Bool := do
  if actor.canAccessGlobal then return true
  else return (← managedAccessCenterID b r tenantID actor) ≠ ""

/-- The managed center of an actor who may manage access. -/
def requireManagedCenter (tenantID : String) (actor : Actor) : Except LmsError String := do
  let managedCenterID ← managedAccessCenterID b r tenantID actor
  if !actor.canAccessGlobal && managedCenterID = "" then throw .scopeForbidden
  else return managedCenterID

omit [MongoServer] in
def canAssignAccessPolicy (tenantID : String) (actor : Actor) (managedCenterID : String)
    (policy : UserAccessPolicy) : Bool :=
  if actor.canAccessGlobal then true
  else if managedCenterID = "" || policy.scopeType = "system" then false
  else match r.getCenter tenantID policy.scopeID with
    | .ok (some center) =>
      if policy.scopeType = "center" then center.id.hex = managedCenterID && centerType center = "center"
      else policy.scopeType = "school" && center.parentID.hex = managedCenterID
    | _ => false

/-- The loop of `SaveUserAccess` and of `PreviewUserAccess` over the policies of a request. -/
def assignablePolicies (tenantID : String) (actor : Actor) (managedCenterID : String)
    (policies : List UserAccessPolicy) : Except LmsError (List UserAccessPolicy) :=
  policies.mapM (fun policy => do
    let normalized ← normalizeAccessPolicy r tenantID policy
    if !canAssignAccessPolicy r tenantID actor managedCenterID normalized then
      throw (.invalidAccessPolicy "policy outside actor management scope")
    else return normalized)

def accessScopeOptions (tenantID : String) (actor : Actor) (managedCenterID : String) :
    Except LmsError (List AccessScopeOption) := do
  let (centers, _) ← r.listCenters b tenantID { page := 1, limit := 100 } ""
  let system : List AccessScopeOption :=
    if actor.canAccessGlobal then [⟨"system", "system", "Hệ thống ERG", "System", "shield",
      "Quản lý toàn hệ thống, trung tâm, trường học, lớp và phân quyền."⟩]
    else []
  let managed := centers.filter (fun center =>
    managedCenterID = "" || center.id.hex = managedCenterID || center.parentID.hex = managedCenterID)
  return system ++ managed.map (fun center =>
    let scopeType := scopeTypeForCenter center
    ⟨scopeType, center.id.hex, center.name, scopeBadge (centerType center), scopeIcon (centerType center),
      hierarchyScopeDescription scopeType center.name⟩)

def accessManagementOptions (tenantID : String) (actor : Actor) :
    Except LmsError AccessManagementOptions := do
  let managedCenterID ← requireManagedCenter b r tenantID actor
  let scopes ← accessScopeOptions b r tenantID actor managedCenterID
  return ⟨scopes, accessRoleGroupsForActor actor, accessModules⟩

def getUserAccess (accessRepo : Option AccessDatabase) (tenantID : String) (actor : Actor)
    (userID : String) : Except LmsError UserAccessDetail := do
  if !(← canManageAccess b r tenantID actor) then throw .scopeForbidden
  else match accessRepo with
    | none => throw .accessManagementUnavailable
    | some db => match db.getUser tenantID userID with
      | none => throw .notFound
      | some user =>
        let policies ← policiesForUser r db tenantID userID
        let options ← accessManagementOptions b r tenantID actor
        return ⟨accessUserToDTO user policies, policies, effectiveAccessForUser user policies, options⟩

/-- The checks of `SaveUserAccess`, with the database and the records it goes on to write. -/
def checkedAccess (accessRepo : Option AccessDatabase) (tenantID : String) (actor : Actor) (userID : String)
    (policies : List UserAccessPolicy) : Except LmsError (AccessDatabase × List UserAccessRecord) := do
  let managedCenterID ← requireManagedCenter b r tenantID actor
  match accessRepo with
  | none => throw .accessManagementUnavailable
  | some db =>
    if (db.getUser tenantID userID).isNone then throw .notFound
    else
      let assignable ← assignablePolicies r tenantID actor managedCenterID policies
      return (db, assignable.map (accessRecord userID))

def saveUserAccess (env : AccessEnv) (accessRepo : Option AccessDatabase) (tenantID : String) (actor : Actor)
    (userID : String) (policies : List UserAccessPolicy) :
    Except LmsError UserAccessDetail × Option AccessDatabase :=
  match checkedAccess b r accessRepo tenantID actor userID policies with
  | .error e => (.error e, accessRepo)
  | .ok (db, records) => match db.replaceAccess env userID records with
    | .error e => (.error e, accessRepo)
    | .ok db => (getUserAccess b r (some db) tenantID actor userID, some db)

def previewUserAccess (tenantID : String) (actor : Actor) (policies : List UserAccessPolicy) :
    Except LmsError EffectiveAccess := do
  let managedCenterID ← requireManagedCenter b r tenantID actor
  return effectiveAccess (← assignablePolicies r tenantID actor managedCenterID policies)

end Managing

end Service

end ErgGo.Lms
