import ErgGo.Lms.Entities

/-!
# The core tables

The rows PostgreSQL holds for accounts, sessions, login attempts and access control. A table
carries the unique keys of its schema.
-/

namespace ErgGo.Postgres
open Go Documents Lms

/-- A row of `users`. -/
structure AuthUser where
  id : ObjectID
  tenantID : String
  email : String
  passwordHash : String
  fullName : String := ""
  avatarURL : String := ""
  status : String := "ACTIVE"
  provider : String := "local"
  accountType : String := "erg"
  googleSub : String := ""
  lastLoginProvider : String := ""
  phone : String := ""
  dateOfBirth : String := ""
  isProfileCompleted : Bool := false
  lastLoginAt : Option Time := none
  loginCount : ℤ := 0
  createdAt : Time := 0
  updatedAt : Time := 0
  deletedAt : Option Time := none

/-- The primary key and the unique index on the address. -/
structure Users where
  rows : List AuthUser
  id_nodup : (rows.map AuthUser.id).Nodup
  email_nodup : (rows.map AuthUser.email).Nodup

/-- A row of `user_sessions`. -/
structure AuthSession where
  id : ObjectID
  userID : ObjectID
  sessionID : String
  deviceID : String := ""
  deviceName : String := ""
  ipAddress : String := ""
  userAgent : String := ""
  refreshTokenHash : String
  tenantID : String
  lastActiveAt : Time := 0
  expiresAt : Time
  revokedAt : Option Time := none
  revokedReason : String := ""
  createdAt : Time := 0
  updatedAt : Time := 0

/-- The columns of the unique index on sessions. -/
def AuthSession.key (session : AuthSession) : String × String := (session.sessionID, session.tenantID)

/-- A row of `auth_pins`. -/
structure AuthPin where
  id : ObjectID
  email : String
  code : String
  purpose : String
  expiresAt : Time
  usedAt : Option Time := none
  createdAt : Time := 0

/-- A row of `auth_login_attempts`. -/
structure AuthLoginAttempt where
  tenantID : String
  userID : String := ""
  attemptedEmail : String := ""
  attemptedEmailHash : String := ""
  ipAddress : String := ""
  countryCode : String := ""
  countryName : String := ""
  continentCode : String := ""
  userAgent : String := ""
  deviceID : String := ""
  deviceName : String := ""
  result : String
  reason : String := ""
  createdAt : Time

/-- A row of `firewall_rules`. -/
structure FirewallRule where
  entry : String
  ruleType : String
  reason : String := ""
  source : String := ""
  active : Bool := true
  expiresAt : Option Time := none
  revokedAt : Option Time := none
  revokedBy : String := ""
  createdBy : String := ""
  createdAt : Time := 0
  updatedAt : Time := 0

/-- A row of `permissions`. -/
structure ACPermission where
  id : String
  name : String

/-- A row of `roles`. -/
structure ACRole where
  id : String
  name : String

/-- The primary key and the unique index on the name. -/
structure Roles where
  rows : List ACRole
  id_nodup : (rows.map ACRole.id).Nodup
  name_nodup : (rows.map ACRole.name).Nodup

/-- A row of `user_permissions`. -/
structure ACUserPermissionOverride where
  id : String
  userID : String
  permission : String
  grantType : String
  reason : String := ""
  expiresAt : Option Time := none
  createdBy : String := ""
  createdAt : Time

/-- A row of `user_roles`. -/
structure UserRole where
  userID : String
  roleID : String

/-- A row of `role_permissions`. -/
structure RolePermission where
  roleID : String
  permissionID : String

structure Database where
  users : Users
  sessions : Collection AuthSession.key
  pins : Collection AuthPin.id
  loginAttempts : List AuthLoginAttempt
  firewallRules : List FirewallRule
  roles : Roles
  permissions : Collection ACPermission.id
  userRoles : List UserRole
  rolePermissions : List RolePermission
  overrides : List ACUserPermissionOverride

def Database.empty : Database where
  users := ⟨[], by simp, by simp⟩
  sessions := .empty
  pins := .empty
  loginAttempts := []
  firewallRules := []
  roles := ⟨[], by simp, by simp⟩
  permissions := .empty
  userRoles := []
  rolePermissions := []
  overrides := []

namespace Roles

def find (roles : Roles) (p : ACRole → Bool) : Option ACRole := roles.rows.find? p

lemma find_id (roles : Roles) {role : ACRole} (h : role ∈ roles.rows) :
    roles.find (fun r => r.id = role.id) = some role := by
  have hlookup := Collection.lookup_eq_some_iff (c := (⟨roles.rows, roles.id_nodup⟩ : Collection ACRole.id))
    (k := role.id) (d := role)
  exact hlookup.mpr ⟨h, rfl⟩

lemma find_name (roles : Roles) {role : ACRole} (h : role ∈ roles.rows) :
    roles.find (fun r => r.name = role.name) = some role := by
  have hlookup := Collection.lookup_eq_some_iff (c := (⟨roles.rows, roles.name_nodup⟩ : Collection ACRole.name))
    (k := role.name) (d := role)
  exact hlookup.mpr ⟨h, rfl⟩

end Roles

end ErgGo.Postgres
