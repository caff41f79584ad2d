import ErgGo.Lib.Interleaving
import ErgGo.Lms.AccessDatabase
import ErgGo.Postgres.Models

/-!
# The access control repository

Roles of users, permissions of roles and overrides, as the repository reads and writes them.
-/

namespace ErgGo.AccessControl
open Go Documents Concurrent Lms Postgres

inductive ACError where
  | storeFailure
  | userNotFound
  | roleNotFound (roleRef : String)
  | wrap (context : String) (cause : ACError)
  deriving DecidableEq

/-- The names of the roles a user has in the join table. -/
def roleNames (db : Database) (userID : String) : List String :=
  db.userRoles.filterMap (fun join =>
    if join.userID = userID then (db.roles.find (fun role => role.id = join.roleID)).map ACRole.name else none)

def getUserRoles (db : Database) (userID : String) : List String :=
  uniqueStrings ((roleNames db userID).filter (fun name => name ≠ ""))

/-- The rows of the join that gives the roles of these names to the user. -/
def userRoleJoins (db : Database) (userID : String) (roles : List String) : List UserRole :=
  ((uniqueStrings roles).filterMap (fun name =>
    (db.roles.find (fun role => role.name = name)).map (fun role => ⟨userID, role.id⟩))).filter
      (fun join => join.roleID ≠ "")

def replaceUserRoles (db : Database) (userID : String) (roles : List String) : Database :=
  { db with userRoles := db.userRoles.filter (fun join => join.userID ≠ userID) ++ userRoleJoins db userID roles }

/-- Soft-deleted users do not count. -/
def userExists (db : Database) (userID : String) : Bool :=
  db.users.rows.any (fun user => user.id.hex = userID && user.deletedAt.isNone)

def setUserRoles (db : Database) (userID : String) (roles : List String) : Except ACError Unit × Database :=
  if userExists db userID then (.ok (), replaceUserRoles db userID roles) else (.error .userNotFound, db)

/-- References that look like an object id are ids, all others are names. -/
def listPermissionNamesByRoleRefs (db : Database) (roleRefs : List String) : List String :=
  let refs := uniqueStrings roleRefs
  let ids := refs.filter (fun ref => (objectID ref).isOk)
  let names := refs.filter (fun ref => !(objectID ref).isOk)
  let roles := db.roles.rows.filter (fun role => role.name ∈ names || role.id ∈ ids)
  let rows := roles.flatMap (fun role => db.rolePermissions.filterMap (fun join =>
    if join.roleID = role.id then (db.permissions.lookup join.permissionID).map ACPermission.name else none))
  uniqueStrings (rows.filter (fun name => name ≠ ""))

/-- `ORDER BY created_at DESC`. -/
def listOverridesByUser [Library] (db : Database) (userID : String) : List ACUserPermissionOverride :=
  Library.sortSlice (fun a b => a.createdAt > b.createdAt)
    (db.overrides.filter (fun override => override.userID = userID))

inductive ACRequest where
  | now
  | getRoleByID (id : String)
  | getRoleByName (name : String)
  | getUserRoles (userID : String)
  | setUserRoles (userID : String) (roles : List String)
  | listPermissionNamesByRoleRefs (roleRefs : List String)
  | listOverridesByUser (userID : String)

abbrev ACResult : ACRequest → Type
  | .now => Time
  | .getRoleByID _ => Option ACRole
  | .getRoleByName _ => Option ACRole
  | .getUserRoles _ => List String
  | .setUserRoles .. => Unit
  | .listPermissionNamesByRoleRefs _ => List String
  | .listOverridesByUser _ => List ACUserPermissionOverride

abbrev ACReply (q : ACRequest) := Except ACError (ACResult q)

abbrev ACCall := ExceptT ACError (Program ACRequest ACReply)

def ac (q : ACRequest) : ACCall (ACResult q) := ExceptT.mk (.send q)

@[simp] lemma run_ac (q : ACRequest) : (ac q).run = .send q := rfl

/-- `fmt.Errorf` around an error. -/
def wrapping {α : Type} (context : String) (call : ACCall α) : ACCall α :=
  tryCatch call (fun err => throw (.wrap context err))

/-- The database carries out one request at a time. -/
def exec [Library] (now : Time) (q : ACRequest) (db : Database) : ACReply q × Database :=
  match q with
  | .now => (.ok now, db)
  | .getRoleByID id => (.ok (db.roles.find (fun role => role.id = id)), db)
  | .getRoleByName name => (.ok (db.roles.find (fun role => role.name = name)), db)
  | .getUserRoles userID => (.ok (getUserRoles db userID), db)
  | .setUserRoles userID roles => setUserRoles db userID roles
  | .listPermissionNamesByRoleRefs roleRefs => (.ok (listPermissionNamesByRoleRefs db roleRefs), db)
  | .listOverridesByUser userID => (.ok (listOverridesByUser db userID), db)

lemma mem_roleNames {db : Database} {userID name : String} : name ∈ roleNames db userID ↔
    ∃ join ∈ db.userRoles, join.userID = userID ∧
      ∃ role ∈ db.roles.rows, role.id = join.roleID ∧ role.name = name := by
  unfold roleNames
  rw [List.mem_filterMap]
  refine exists_congr fun join => and_congr_right fun _ => ?_
  by_cases huser : join.userID = userID
  · rw [if_pos huser, Option.map_eq_some_iff]
    constructor
    · rintro ⟨role, hfind, hname⟩
      have hid := List.find?_some hfind
      exact ⟨huser, role, List.mem_of_find?_eq_some hfind, of_decide_eq_true hid, hname⟩
    · rintro ⟨-, role, hrole, hid, hname⟩
      exact ⟨role, hid ▸ db.roles.find_id hrole, hname⟩
  · rw [if_neg huser]
    simp [huser]

lemma trimSpace_of_mem_getUserRoles {db : Database} {userID name : String} (h : name ∈ getUserRoles db userID) :
    name ≠ "" ∧ trimSpace name = name := by
  obtain ⟨hne, stored, -, rfl⟩ := mem_uniqueStrings.mp h
  exact ⟨hne, trimSpace_trimSpace stored⟩

lemma mem_getUserRoles {db : Database} {userID name : String} : name ∈ getUserRoles db userID ↔
    name ≠ "" ∧ ∃ stored ∈ roleNames db userID, stored ≠ "" ∧ trimSpace stored = name := by
  unfold getUserRoles
  rw [mem_uniqueStrings]
  simp only [List.mem_filter, decide_eq_true_eq, and_assoc]

/-- A user has, after a replacement, the requested roles that exist. -/
theorem mem_getUserRoles_replace {db : Database} {userID name : String} {roles : List String} :
    name ∈ getUserRoles (replaceUserRoles db userID roles) userID ↔
      name ∈ uniqueStrings roles ∧ ∃ role ∈ db.roles.rows, role.name = name ∧ role.id ≠ "" := by
  have hnames : ∀ stored, stored ∈ roleNames (replaceUserRoles db userID roles) userID ↔
      stored ∈ uniqueStrings roles ∧ ∃ role ∈ db.roles.rows, role.name = stored ∧ role.id ≠ "" := by
    intro stored
    rw [mem_roleNames]
    constructor
    · rintro ⟨join, hjoin, huser, role, hrole, hid, rfl⟩
      rw [replaceUserRoles, List.mem_append] at hjoin
      obtain hjoin | hjoin := hjoin
      · simp [huser] at hjoin
      · obtain ⟨hjoin, hidNe⟩ := List.mem_filter.mp hjoin
        obtain ⟨requested, hrequested, hmap⟩ := List.mem_filterMap.mp hjoin
        obtain ⟨found, hfind, rfl⟩ := Option.map_eq_some_iff.mp hmap
        have hname := List.find?_some hfind
        rw [decide_eq_true_eq] at hname
        have hsame : found = role := by
          have h₁ := db.roles.find_id (List.mem_of_find?_eq_some hfind)
          have h₂ := db.roles.find_id hrole
          rw [hid] at h₂
          exact Option.some.inj (h₁.symm.trans h₂)
        subst hsame
        exact ⟨hname ▸ hrequested, found, hrole, rfl, of_decide_eq_true hidNe⟩
    · rintro ⟨hstored, role, hrole, rfl, hidNe⟩
      refine ⟨⟨userID, role.id⟩, ?_, rfl, role, hrole, rfl, rfl⟩
      rw [replaceUserRoles, List.mem_append]
      right
      refine List.mem_filter.mpr ⟨List.mem_filterMap.mpr ⟨role.name, hstored, ?_⟩, decide_eq_true hidNe⟩
      rw [db.roles.find_name hrole]
      rfl
  rw [mem_getUserRoles]
  constructor
  · rintro ⟨_, stored, hstored, _, rfl⟩
    obtain ⟨hmem, hrole⟩ := (hnames stored).mp hstored
    obtain ⟨-, value, -, rfl⟩ := mem_uniqueStrings.mp hmem
    rw [trimSpace_trimSpace] at *
    exact ⟨hmem, hrole⟩
  · rintro ⟨hmem, hrole⟩
    obtain ⟨hne, value, -, rfl⟩ := mem_uniqueStrings.mp hmem
    exact ⟨hne, trimSpace value, (hnames _).mpr ⟨hmem, hrole⟩, hne, trimSpace_trimSpace value⟩

/-- The other users keep their roles. -/
lemma getUserRoles_replace_ne {db : Database} {userID other : String} (hne : other ≠ userID)
    (roles : List String) : getUserRoles (replaceUserRoles db other roles) userID = getUserRoles db userID := by
  have hjoins : ∀ join ∈ userRoleJoins db other roles, join.userID = other := by
    intro join hjoin
    obtain ⟨hjoin, -⟩ := List.mem_filter.mp hjoin
    obtain ⟨name, -, hmap⟩ := List.mem_filterMap.mp hjoin
    obtain ⟨role, -, rfl⟩ := Option.map_eq_some_iff.mp hmap
    rfl
  have hnames : roleNames (replaceUserRoles db other roles) userID = roleNames db userID := by
    unfold roleNames replaceUserRoles
    dsimp only
    rw [List.filterMap_append, List.filterMap_filter]
    have hnew : (userRoleJoins db other roles).filterMap (fun join =>
        if join.userID = userID then (db.roles.find (fun role => role.id = join.roleID)).map ACRole.name
        else none) = [] := by
      refine List.filterMap_eq_nil_iff.mpr fun join hjoin => ?_
      rw [if_neg (hjoins join hjoin ▸ hne)]
    rw [hnew, List.append_nil]
    refine congrArg (fun f => db.userRoles.filterMap f) (funext fun join => ?_)
    by_cases huser : join.userID = userID
    · have hother : join.userID ≠ other := fun h => hne (h.symm.trans huser)
      simp [hother]
    · simp [huser]
  rw [getUserRoles, getUserRoles, hnames]

end ErgGo.AccessControl
