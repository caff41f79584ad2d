import ErgGo.Lms.AccessPolicies
import Mathlib.Data.List.ReduceOption

/-!
# What saving access does

A save replaces the rows of one user by rows the actor may assign. What it writes stays in
the scope the actor manages and grants nothing global, and reads back as it was previewed.
-/

namespace ErgGo.Lms
open Go Documents

/-! ## One save -/

/-- A call of `SaveUserAccess`. -/
structure SaveCall where
  env : AccessEnv
  tenantID : String
  actor : Actor
  userID : String
  policies : List UserAccessPolicy

section Saving

variable [Library] [MongoServer]

def SaveCall.run (call : SaveCall) (b : Backend) (r : Roster) (accessRepo : Option AccessDatabase) :
    Except LmsError UserAccessDetail × Option AccessDatabase :=
  Service.saveUserAccess b r call.env accessRepo call.tenantID call.actor call.userID call.policies

/-- The row is in the managed scope and grants nothing global. -/
structure Confined (r : Roster) (tenantID managedCenterID : String) (row : UserAccessScope) : Prop where
  scope : inManagedScope r tenantID managedCenterID row.centerID
  center : row.centerID ≠ "system"
  role : row.role ≠ "system_admin"
  permissions : "*" ∉ permissionsForRoleGroup row.role

/-- What a save has checked and done when it wrote. -/
structure Saved (b : Backend) (r : Roster) (call : SaveCall) (db db' : AccessDatabase)
    (managedCenterID : String) (assignable : List UserAccessPolicy) : Prop where
  managed : Service.requireManagedCenter b r call.tenantID call.actor = .ok managedCenterID
  checked : Service.assignablePolicies r call.tenantID call.actor managedCenterID call.policies =
    .ok assignable
  replaced : db.replaceAccess call.env call.userID (assignable.map (accessRecord call.userID)) = .ok db'

variable {b : Backend} {r : Roster} {call : SaveCall} {db db' : AccessDatabase} {managedCenterID : String}
  {assignable : List UserAccessPolicy}

/-- A save leaves the database alone, or it has written and then reads the access back. -/
lemma SaveCall.run_cases (call : SaveCall) (b : Backend) (r : Roster) (db : AccessDatabase) :
    (∃ e, call.run b r (some db) = (.error e, some db)) ∨
      ∃ db' managedCenterID assignable, Saved b r call db db' managedCenterID assignable ∧
        call.run b r (some db) =
          (Service.getUserAccess b r (some db') call.tenantID call.actor call.userID, some db') := by
  unfold SaveCall.run Service.saveUserAccess
  cases hchecked : Service.checkedAccess b r (some db) call.tenantID call.actor call.userID
      call.policies with
  | error e => exact .inl ⟨e, rfl⟩
  | ok checked =>
    obtain ⟨db₀, records⟩ := checked
    unfold Service.checkedAccess at hchecked
    obtain ⟨managedCenterID, hmanaged, hchecked⟩ := except_bind_eq_ok.mp hchecked
    dsimp only at hchecked ⊢
    split at hchecked
    · cases hchecked
    · obtain ⟨assignable, hassignable, hchecked⟩ := except_bind_eq_ok.mp hchecked
      cases hchecked
      cases hreplaced : AccessDatabase.replaceAccess call.env db call.userID
          (assignable.map (accessRecord call.userID)) with
      | error e => exact .inl ⟨e, rfl⟩
      | ok db' => exact .inr ⟨db', managedCenterID, assignable, ⟨hmanaged, hassignable, hreplaced⟩, rfl⟩

/-- A save that succeeds has written, and responds with the access it reads back. -/
lemma SaveCall.saved_of_run {accessRepo : Option AccessDatabase} {detail : UserAccessDetail}
    (h : call.run b r (some db) = (.ok detail, accessRepo)) : ∃ db' managedCenterID assignable,
      accessRepo = some db' ∧ Saved b r call db db' managedCenterID assignable ∧
      Service.getUserAccess b r (some db') call.tenantID call.actor call.userID = .ok detail := by
  obtain ⟨e, hrun⟩ | ⟨db', managedCenterID, assignable, hsaved, hrun⟩ := call.run_cases b r db
  · rw [hrun] at h
    cases h
  · rw [hrun, Prod.mk.injEq] at h
    exact ⟨db', managedCenterID, assignable, h.2.symm, hsaved, h.1⟩

lemma Saved.managedAccessCenterID (h : Saved b r call db db' managedCenterID assignable)
    (hactor : call.actor.canAccessGlobal = false) :
    Service.managedAccessCenterID b r call.tenantID call.actor = .ok managedCenterID ∧
      managedCenterID ≠ "" := by
  have hmanaged := h.managed
  unfold Service.requireManagedCenter at hmanaged
  obtain ⟨managed, hfound, hmanaged⟩ := except_bind_eq_ok.mp hmanaged
  split at hmanaged
  · cases hmanaged
  · next hnonempty =>
    cases hmanaged
    refine ⟨hfound, ?_⟩
    rintro rfl
    simp [hactor] at hnonempty

omit [MongoServer] in
lemma mem_assignablePolicies {tenantID : String} {actor : Actor} {policies : List UserAccessPolicy}
    (h : Service.assignablePolicies r tenantID actor managedCenterID policies = .ok assignable)
    {policy : UserAccessPolicy} (hpolicy : policy ∈ assignable) : Normalized r tenantID policy ∧
      Service.canAssignAccessPolicy r tenantID actor managedCenterID policy := by
  obtain ⟨requested, -, hchecked⟩ := (mem_of_except_mapM h policy).mp hpolicy
  obtain ⟨normalized, hnormalized, hchecked⟩ := except_bind_eq_ok.mp hchecked
  split at hchecked
  · cases hchecked
  · next hassign =>
    cases hchecked
    exact ⟨normalized_of_ok hnormalized, by simpa using hassign⟩

/-- The rows of the other users stay. -/
lemma Saved.mem_of_other (h : Saved b r call db db' managedCenterID assignable) {row : UserAccessScope}
    (hother : row.userID ≠ call.userID) : row ∈ db'.scopes.docs ↔ row ∈ db.scopes.docs := by
  obtain ⟨created, -, hdocs, hgrants⟩ := AccessDatabase.replaceAccess_ok h.replaced
  rw [hdocs, List.mem_append, List.mem_filter, Bool.not_eq_true', decide_eq_false_iff_not]
  constructor
  · rintro (⟨hrow, -⟩ | hrow)
    · exact hrow
    · have hgrant := List.mem_map_of_mem (f := UserAccessScope.grant) hrow
      rw [hgrants] at hgrant
      obtain ⟨_, -, hgrant⟩ := List.mem_map.mp hgrant
      exact absurd (congrArg Prod.fst hgrant).symm hother
  · exact fun hrow => .inl ⟨hrow, hother⟩

/-- The rows of the user stand for the assignable policies. -/
lemma Saved.mem_of_user (h : Saved b r call db db' managedCenterID assignable)
    (grant : String × String × List String × String) :
    (∃ row ∈ db'.scopes.docs, row.userID = call.userID ∧ row.grant = grant) ↔
      ∃ policy ∈ assignable, grant =
        (call.userID, centerIDForPolicy policy, uniqueStrings policy.modules, policy.roleGroup) := by
  obtain ⟨created, -, hdocs, hgrants⟩ := AccessDatabase.replaceAccess_ok h.replaced
  have hcreated : grant ∈ created.map UserAccessScope.grant ↔ ∃ policy ∈ assignable, grant =
      (call.userID, centerIDForPolicy policy, uniqueStrings policy.modules, policy.roleGroup) := by
    rw [hgrants, List.map_map, List.mem_map]
    simp only [Function.comp_apply, accessRecord, eq_comm]
  rw [← hcreated, List.mem_map]
  constructor
  · rintro ⟨row, hrow, huser, hgrant⟩
    rw [hdocs, List.mem_append, List.mem_filter, Bool.not_eq_true', decide_eq_false_iff_not] at hrow
    obtain ⟨-, hother⟩ | hrow := hrow
    · exact absurd huser hother
    · exact ⟨row, hrow, hgrant⟩
  · rintro ⟨row, hrow, rfl⟩
    refine ⟨row, by simp [hdocs, hrow], ?_, rfl⟩
    obtain ⟨policy, -, hpolicy⟩ := hcreated.mp (List.mem_map_of_mem hrow)
    exact congrArg Prod.fst hpolicy

/-- The rows a manager writes are confined. -/
lemma Saved.confined (h : Saved b r call db db' managedCenterID assignable)
    (hactor : call.actor.canAccessGlobal = false) {row : UserAccessScope} (huser : row.userID = call.userID)
    (hrow : row ∈ db'.scopes.docs) : Confined r call.tenantID managedCenterID row := by
  obtain ⟨policy, hpolicy, hgrant⟩ := (h.mem_of_user row.grant).mp ⟨row, hrow, huser, rfl⟩
  simp only [UserAccessScope.grant, Prod.mk.injEq] at hgrant
  obtain ⟨-, hcenter, -, hrole⟩ := hgrant
  obtain ⟨hnormalized, hassign⟩ := mem_assignablePolicies h.checked hpolicy
  obtain ⟨hscope, hmanaged⟩ := inManagedScope_of_assignable hactor hnormalized hassign
  have hadmin := ne_system_admin_of_allowed hscope hnormalized.allowed
  rw [centerIDForPolicy, if_neg hscope] at hcenter
  refine ⟨hcenter ▸ hmanaged, ?_, hrole ▸ hadmin, hrole ▸ star_notMem_permissions hadmin⟩
  rw [hcenter]
  intro hsystem
  obtain ⟨center, hget, -⟩ := inManagedScope_iff.mp hmanaged
  exact getCenter_system r call.tenantID _ (hsystem ▸ hget)

/-- A manager's save leaves the rows of other users alone, and it leaves every row outside the
managed scope alone exactly when the user has none there: it deletes the rows of the user
whatever their scope. -/
theorem saveUserAccess_outside_iff (b : Backend) (r : Roster) (call : SaveCall) (db : AccessDatabase)
    (hactor : call.actor.canAccessGlobal = false) (detail : UserAccessDetail) (db' : AccessDatabase)
    (hsave : call.run b r (some db) = (.ok detail, some db')) :
    ∃ managedCenterID, Service.managedAccessCenterID b r call.tenantID call.actor = .ok managedCenterID ∧
      managedCenterID ≠ "" ∧
      (∀ row, row.userID ≠ call.userID → (row ∈ db'.scopes.docs ↔ row ∈ db.scopes.docs)) ∧
      ((∀ row, ¬inManagedScope r call.tenantID managedCenterID row.centerID →
          (row ∈ db'.scopes.docs ↔ row ∈ db.scopes.docs)) ↔
        ∀ row ∈ db.scopes.docs, row.userID = call.userID →
          inManagedScope r call.tenantID managedCenterID row.centerID) := by
  obtain ⟨db', managedCenterID, assignable, hdb, hsaved, -⟩ := SaveCall.saved_of_run hsave
  cases hdb
  obtain ⟨hmanaged, hnonempty⟩ := hsaved.managedAccessCenterID hactor
  refine ⟨managedCenterID, hmanaged, hnonempty, fun row hother => hsaved.mem_of_other hother, ?_, ?_⟩
  · intro hframe row hrow huser
    by_contra houtside
    have hstays := (hframe row houtside).mpr hrow
    exact houtside (hsaved.confined hactor huser hstays).scope
  · intro hinside row houtside
    by_cases huser : row.userID = call.userID
    · constructor
      · exact fun hrow => absurd (hsaved.confined hactor huser hrow).scope houtside
      · exact fun hrow => absurd (hinside row hrow huser) houtside
    · exact hsaved.mem_of_other huser

end Saving

section Sample

attribute [local instance] asciiLibrary Sample.server

/-! `boss` manages center 1, which has the school 3; center 2 is another one. -/

def Sample.centers : Roster where
  centers := ⟨[{ id := Sample.id 1, tenantID := "erg", managerUserID := "boss" },
    { id := Sample.id 2, tenantID := "erg", managerUserID := "other" },
    { id := Sample.id 3, tenantID := "erg", type := "school", parentID := Sample.id 1 }], by decide⟩
  classes := .empty
  students := .empty
  currentScopes := []

/-- A teacher's row of the user in one center. -/
def Sample.row (center : ℕ) : UserAccessScope :=
  { id := "row", userID := "user", centerID := (Sample.id center).hex, modules := ["lms"], role := "teacher" }

def Sample.database (center : ℕ) : AccessDatabase where
  users := ⟨[{ record := { id := "user" }, tenantID := "erg" }], by simp⟩
  centerIDs := [(Sample.id 1).hex, (Sample.id 2).hex, (Sample.id 3).hex]
  scopes := ⟨[Sample.row center], by simp⟩

/-- `boss` makes the user an administrator of center 1. -/
def Sample.appoint : SaveCall where
  env := ⟨1, fun _ => Sample.id 9⟩
  tenantID := "erg"
  actor := ⟨"boss", []⟩
  userID := "user"
  policies := [{
    scopeType := " Center"
    scopeID := (Sample.id 1).hex
    roleGroup := "center_admin"
    modules := ["LMS", "media", "lms"] }]

lemma Sample.appoint_succeeds (center : ℕ) (hcenter : center ∈ [2, 3]) : ∃ detail db',
    Sample.appoint.run .memory Sample.centers (some (Sample.database center)) = (.ok detail, some db') ∧
      db'.scopes.docs.map UserAccessScope.centerID = [(Sample.id 1).hex] := by
  have hview : ∀ center ∈ [2, 3], ((Sample.appoint.run .memory Sample.centers (some (Sample.database center))).1.isOk,
      (Sample.appoint.run .memory Sample.centers (some (Sample.database center))).2.map
        (fun db => db.scopes.docs.map UserAccessScope.centerID)) = (true, some [(Sample.id 1).hex]) := by
    decide +kernel
  have h := hview center hcenter
  generalize Sample.appoint.run .memory Sample.centers (some (Sample.database center)) = outcome at h ⊢
  obtain ⟨resp, accessRepo⟩ := outcome
  obtain ⟨hok, hcenters⟩ := Prod.mk.inj h
  cases resp with
  | error e => cases hok
  | ok detail =>
    cases accessRepo with
    | none => cases hcenters
    | some db' => exact ⟨detail, db', rfl, Option.some.inj hcenters⟩

/-- The user's row in the school under center 1 is replaced, and nothing outside changes. -/
theorem save_within_scope : ∃ detail db',
    Sample.appoint.run .memory Sample.centers (some (Sample.database 3)) = (.ok detail, some db') ∧
      ∃ managedCenterID, ∀ row, ¬inManagedScope Sample.centers "erg" managedCenterID row.centerID →
        (row ∈ db'.scopes.docs ↔ row ∈ (Sample.database 3).scopes.docs) := by
  obtain ⟨detail, db', hrun, -⟩ := Sample.appoint_succeeds 3 (by simp)
  refine ⟨detail, db', hrun, ?_⟩
  obtain ⟨managedCenterID, hmanaged, -, -, hiff⟩ := saveUserAccess_outside_iff .memory Sample.centers
    Sample.appoint (Sample.database 3) rfl detail db' hrun
  refine ⟨managedCenterID, hiff.mpr ?_⟩
  have hcenter : Service.managedAccessCenterID .memory Sample.centers "erg" ⟨"boss", []⟩ =
      .ok (Sample.id 1).hex := by decide
  obtain rfl : (Sample.id 1).hex = managedCenterID := Except.ok.inj (hcenter.symm.trans hmanaged)
  intro row hrow _
  obtain rfl : row = Sample.row 3 := List.mem_singleton.mp hrow
  decide

/-- The user's row in center 2 is deleted by the save of `boss`. -/
theorem save_revokes_outside : ∃ detail db',
    Sample.appoint.run .memory Sample.centers (some (Sample.database 2)) = (.ok detail, some db') ∧
      Service.managedAccessCenterID .memory Sample.centers "erg" ⟨"boss", []⟩ = .ok (Sample.id 1).hex ∧
      ∃ row ∈ (Sample.database 2).scopes.docs,
        ¬inManagedScope Sample.centers "erg" (Sample.id 1).hex row.centerID ∧ row ∉ db'.scopes.docs := by
  obtain ⟨detail, db', hrun, hcenters⟩ := Sample.appoint_succeeds 2 (by simp)
  refine ⟨detail, db', hrun, by decide, Sample.row 2, List.mem_singleton_self _, ?_, ?_⟩
  · decide
  · intro hrow
    have hcenter := List.mem_map_of_mem (f := UserAccessScope.centerID) hrow
    rw [hcenters] at hcenter
    revert hcenter
    decide

end Sample

/-! ## Reading the access back -/

section Reading

variable [Library]

lemma mem_policiesForUser {r : Roster} {db : AccessDatabase} {tenantID userID : String}
    {policies : List UserAccessPolicy} (h : Service.policiesForUser r db tenantID userID = .ok policies)
    (policy : UserAccessPolicy) : policy ∈ policies ↔ ∃ row ∈ db.scopes.docs, row.userID = userID ∧
      Service.policyForRow r tenantID row.record = .ok (some policy) := by
  obtain ⟨found, hfound, h⟩ := except_bind_eq_ok.mp h
  cases h
  have hsort : policy ∈ sortAccessPolicies found.reduceOption ↔ policy ∈ found.reduceOption :=
    (Library.sortSlice_perm _ _).mem_iff
  rw [hsort, List.reduceOption_mem_iff, mem_of_except_mapM hfound, AccessDatabase.listAccess]
  simp only [List.mem_map, (Library.sortSlice_perm _ _).mem_iff, List.mem_filter, decide_eq_true_eq]
  constructor
  · rintro ⟨_, ⟨row, ⟨hrow, huser⟩, rfl⟩, hpolicy⟩
    exact ⟨row, hrow, huser, hpolicy⟩
  · rintro ⟨row, hrow, huser, hpolicy⟩
    exact ⟨row.record, ⟨row, ⟨hrow, huser⟩, rfl⟩, hpolicy⟩

/-- The policy that is read for a row of a normalized policy looks like that policy. -/
lemma policyForRow_of_normalized {r : Roster} {tenantID : String} {policy : UserAccessPolicy}
    (h : Normalized r tenantID policy) {record : UserAccessRecord}
    (hcenter : record.centerID = centerIDForPolicy policy) (hrole : record.role = policy.roleGroup)
    (hmodules : record.modules = policy.modules) :
    ∃ read, Service.policyForRow r tenantID record = .ok (some read) ∧ read.view = policy.view := by
  unfold Service.policyForRow
  obtain ⟨hsystem, -⟩ | ⟨center, hget, htype⟩ := h.scope
  · rw [centerIDForPolicy, if_pos hsystem] at hcenter
    rw [if_pos hcenter]
    refine ⟨_, rfl, ?_⟩
    simp [UserAccessPolicy.view, hsystem, hrole, hmodules, h.permissions]
  · have hscope : policy.scopeType ≠ "system" := htype ▸ scopeTypeForCenter_ne_system center
    rw [centerIDForPolicy, if_neg hscope] at hcenter
    have hnamed : record.centerID ≠ "system" := by
      intro hsystem
      rw [hcenter] at hsystem
      exact getCenter_system r tenantID _ (hsystem ▸ hget)
    rw [if_neg hnamed, hcenter, hget]
    refine ⟨_, rfl, ?_⟩
    simp [UserAccessPolicy.view, htype, hrole, hmodules, h.permissions]

variable [MongoServer]

/-- After a save the access read back is the effective access of the assignable policies. -/
lemma Saved.effectiveAccess {b : Backend} {r : Roster} {call : SaveCall} {db db' : AccessDatabase}
    {managedCenterID : String} {assignable policies : List UserAccessPolicy}
    (h : Saved b r call db db' managedCenterID assignable)
    (hread : Service.policiesForUser r db' call.tenantID call.userID = .ok policies) :
    effectiveAccess policies = Lms.effectiveAccess assignable := by
  have hrecord : ∀ (row : UserAccessScope) policy, policy ∈ assignable →
      row.grant = (call.userID, centerIDForPolicy policy, uniqueStrings policy.modules, policy.roleGroup) →
      ∃ read, Service.policyForRow r call.tenantID row.record = .ok (some read) ∧ read.view = policy.view := by
    intro row policy hpolicy hgrant
    simp only [UserAccessScope.grant, Prod.mk.injEq] at hgrant
    obtain ⟨-, hcenter, hmodules, hrole⟩ := hgrant
    obtain ⟨hnormalized, -⟩ := mem_assignablePolicies h.checked hpolicy
    obtain ⟨values, hvalues⟩ := hnormalized.modules
    refine policyForRow_of_normalized hnormalized hcenter hrole ?_
    show uniqueStrings row.modules = policy.modules
    rw [hmodules, hvalues, uniqueStrings_uniqueStrings, uniqueStrings_uniqueStrings]
  apply effectiveAccess_congr
  intro v
  rw [List.mem_map, List.mem_map]
  constructor
  · rintro ⟨read, hmem, rfl⟩
    obtain ⟨row, hrow, huser, hpolicy⟩ := (mem_policiesForUser hread read).mp hmem
    obtain ⟨policy, hassignable, hgrant⟩ := (h.mem_of_user row.grant).mp ⟨row, hrow, huser, rfl⟩
    obtain ⟨read', hread', hview⟩ := hrecord row policy hassignable hgrant
    obtain rfl : read = read' := Option.some.inj (Except.ok.inj (hpolicy.symm.trans hread'))
    exact ⟨policy, hassignable, hview.symm⟩
  · rintro ⟨policy, hassignable, rfl⟩
    obtain ⟨row, hrow, huser, hgrant⟩ := (h.mem_of_user _).mpr ⟨policy, hassignable, rfl⟩
    obtain ⟨read, hpolicy, hview⟩ := hrecord row policy hassignable hgrant
    exact ⟨read, (mem_policiesForUser hread read).mpr ⟨row, hrow, huser, hpolicy⟩, hview⟩

lemma getUserAccess_ok {b : Backend} {r : Roster} {db : AccessDatabase} {tenantID userID : String}
    {actor : Actor} {detail : UserAccessDetail}
    (h : Service.getUserAccess b r (some db) tenantID actor userID = .ok detail) :
    ∃ user policies, db.getUser tenantID userID = some user ∧
      Service.policiesForUser r db tenantID userID = .ok policies ∧
      detail.effective = effectiveAccessForUser user policies := by
  unfold Service.getUserAccess at h
  obtain ⟨allowed, -, h⟩ := except_bind_eq_ok.mp h
  dsimp only at h
  split at h
  · cases h
  · cases huser : db.getUser tenantID userID with
    | none =>
      rw [huser] at h
      cases h
    | some user =>
      rw [huser] at h
      obtain ⟨policies, hpolicies, h⟩ := except_bind_eq_ok.mp h
      obtain ⟨options, -, h⟩ := except_bind_eq_ok.mp h
      cases h
      exact ⟨user, policies, rfl, hpolicies, rfl⟩

/-- What is previewed is what is in effect after the save, for a user without a super-admin
role and whoever reads the access. -/
theorem preview_eq_effective (b : Backend) (r : Roster) (call : SaveCall) (db : AccessDatabase)
    (detail : UserAccessDetail) (db' : AccessDatabase)
    (hsave : call.run b r (some db) = (.ok detail, some db'))
    (hroles : ∀ user, db.getUser call.tenantID call.userID = some user →
      hasSuperAdminAccessRole user.roles = false) :
    ∃ preview, Service.previewUserAccess b r call.tenantID call.actor call.policies = .ok preview ∧
      Service.getUserAccess b r (some db') call.tenantID call.actor call.userID = .ok detail ∧
      ∀ reader read, Service.getUserAccess b r (some db') call.tenantID reader call.userID = .ok read →
        read.effective = preview := by
  obtain ⟨db', managedCenterID, assignable, hdb, hsaved, hget⟩ := SaveCall.saved_of_run hsave
  cases hdb
  refine ⟨effectiveAccess assignable, ?_, hget, ?_⟩
  · unfold Service.previewUserAccess
    refine except_bind_eq_ok.mpr ⟨managedCenterID, hsaved.managed, ?_⟩
    exact except_bind_eq_ok.mpr ⟨assignable, hsaved.checked, rfl⟩
  · intro reader read hread
    obtain ⟨user, policies, huser, hpolicies, heffective⟩ := getUserAccess_ok hread
    have husers : db'.users = db.users := by
      obtain ⟨_, hdb, -⟩ := AccessDatabase.replaceAccess_ok hsaved.replaced
      rw [hdb]
    rw [AccessDatabase.getUser, husers] at huser
    rw [heffective, effectiveAccessForUser, if_neg (by rw [hroles user huser]; decide)]
    exact hsaved.effectiveAccess hpolicies

end Reading

section Sample

attribute [local instance] asciiLibrary Sample.server

theorem preview_appoint : ∃ detail db' preview,
    Sample.appoint.run .memory Sample.centers (some (Sample.database 2)) = (.ok detail, some db') ∧
      Service.previewUserAccess .memory Sample.centers "erg" ⟨"boss", []⟩ Sample.appoint.policies =
        .ok preview ∧ detail.effective = preview := by
  obtain ⟨detail, db', hrun, -⟩ := Sample.appoint_succeeds 2 (by simp)
  obtain ⟨preview, hpreview, hget, hread⟩ := preview_eq_effective .memory Sample.centers Sample.appoint
    (Sample.database 2) detail db' hrun (by
      intro user huser
      obtain rfl : user = { id := "user" } := (Option.some.inj huser).symm
      rfl)
  exact ⟨detail, db', preview, hrun, hpreview, hread _ detail hget⟩

end Sample

/-! ## Global rights -/

section Escalation

/-- Rights over the whole system. -/
def EffectiveAccess.Global (effective : EffectiveAccess) : Prop :=
  effective.highestScope = "system" ∨ "*" ∈ effective.permissions

def UserAccessScope.GrantsGlobal (row : UserAccessScope) : Prop :=
  row.centerID = "system" ∨ "*" ∈ permissionsForRoleGroup row.role

lemma trimSpace_permission {roleGroup permission : String} (h : permission ∈ permissionsForRoleGroup roleGroup) :
    trimSpace permission = permission := by
  have hgroups : ∀ group ∈ accessRoleGroups, ∀ permission ∈ group.permissions,
      trimSpace permission = permission := by decide
  unfold permissionsForRoleGroup at h
  cases hfind : accessRoleGroups.find? (fun group => group.id = roleGroup) with
  | none =>
    rw [hfind] at h
    cases h
  | some group =>
    rw [hfind] at h
    exact hgroups group (List.mem_of_find?_eq_some hfind) permission h

variable [Library]

/-- A row and the policy read for it are global together. -/
lemma grantsGlobal_iff {r : Roster} {tenantID : String} {row : UserAccessScope} {policy : UserAccessPolicy}
    (h : Service.policyForRow r tenantID row.record = .ok (some policy)) :
    policy.permissions = permissionsForRoleGroup row.role ∧
      (row.GrantsGlobal ↔ policy.scopeType = "system" ∨ "*" ∈ policy.permissions) := by
  unfold Service.policyForRow at h
  split at h
  · next hsystem =>
    cases h
    exact ⟨rfl, or_congr_left ⟨fun _ => rfl, fun _ => hsystem⟩⟩
  · next hnamed =>
    obtain ⟨found, -, h⟩ := except_bind_eq_ok.mp h
    cases found with
    | none => cases h
    | some center =>
      have hscope := scopeTypeForCenter_ne_system center
      dsimp only [Option.map_some] at h
      generalize scopeTypeForCenter center = scopeType at h hscope
      cases h
      exact ⟨rfl, or_congr_left ⟨fun hsystem => absurd hsystem hnamed, fun hsystem => absurd hsystem hscope⟩⟩

/-- Access read from the store is global exactly when a row of the user is. -/
lemma global_effectiveAccess_iff {r : Roster} {db : AccessDatabase} {tenantID userID : String}
    {policies : List UserAccessPolicy} (h : Service.policiesForUser r db tenantID userID = .ok policies) :
    (effectiveAccess policies).Global ↔ ∃ row ∈ db.scopes.docs, row.userID = userID ∧ row.GrantsGlobal ∧
      ∃ policy, Service.policyForRow r tenantID row.record = .ok (some policy) := by
  have hstar : "*" ∈ uniqueStrings (policies.flatMap UserAccessPolicy.permissions) ↔
      ∃ policy ∈ policies, "*" ∈ policy.permissions := by
    rw [mem_uniqueStrings]
    simp only [List.mem_flatMap]
    constructor
    · rintro ⟨-, permission, ⟨policy, hpolicy, hpermission⟩, htrim⟩
      obtain ⟨row, -, -, hread⟩ := (mem_policiesForUser h policy).mp hpolicy
      have hgroup := hpermission
      rw [(grantsGlobal_iff hread).1] at hgroup
      rw [trimSpace_permission hgroup] at htrim
      exact ⟨policy, hpolicy, htrim ▸ hpermission⟩
    · rintro ⟨policy, hpolicy, hpermission⟩
      exact ⟨by decide, "*", ⟨policy, hpolicy, hpermission⟩, by decide⟩
  unfold EffectiveAccess.Global effectiveAccess
  rw [highestScope_eq_system, hstar]
  constructor
  · intro hglobal
    obtain ⟨policy, hpolicy, hglobal⟩ : ∃ policy ∈ policies,
        policy.scopeType = "system" ∨ "*" ∈ policy.permissions := by
      obtain ⟨policy, hpolicy, hsystem⟩ | ⟨policy, hpolicy, hpermission⟩ := hglobal
      · exact ⟨policy, hpolicy, .inl hsystem⟩
      · exact ⟨policy, hpolicy, .inr hpermission⟩
    obtain ⟨row, hrow, huser, hread⟩ := (mem_policiesForUser h policy).mp hpolicy
    exact ⟨row, hrow, huser, (grantsGlobal_iff hread).2.mpr hglobal, policy, hread⟩
  · rintro ⟨row, hrow, huser, hglobal, policy, hread⟩
    have hpolicy := (mem_policiesForUser h policy).mpr ⟨row, hrow, huser, hread⟩
    obtain hsystem | hpermission := (grantsGlobal_iff hread).2.mp hglobal
    · exact .inl ⟨policy, hpolicy, hsystem⟩
    · exact .inr ⟨policy, hpolicy, hpermission⟩

variable [MongoServer]

/-- Saves one after another, whether they succeed or fail. -/
def runSaves (b : Backend) (r : Roster) (calls : List SaveCall) (accessRepo : Option AccessDatabase) :
    Option AccessDatabase :=
  calls.foldl (fun accessRepo call => (call.run b r accessRepo).2) accessRepo

/-- A manager's call adds no row that grants something global. -/
lemma SaveCall.run_global (b : Backend) (r : Roster) (db : AccessDatabase) {call : SaveCall}
    (hactor : call.actor.canAccessGlobal = false) : ∃ db', (call.run b r (some db)).2 = some db' ∧
      ∀ row ∈ db'.scopes.docs, row.GrantsGlobal → row ∈ db.scopes.docs := by
  obtain ⟨e, hrun⟩ | ⟨db', managedCenterID, assignable, hsaved, hrun⟩ := call.run_cases b r db
  · rw [hrun]
    exact ⟨db, rfl, fun row hrow _ => hrow⟩
  · rw [hrun]
    refine ⟨db', rfl, fun row hrow hglobal => ?_⟩
    by_cases huser : row.userID = call.userID
    · have hconfined := hsaved.confined hactor huser hrow
      obtain hsystem | hpermission := hglobal
      · exact absurd hsystem hconfined.center
      · exact absurd hpermission hconfined.permissions
    · exact (hsaved.mem_of_other huser).mp hrow

/-- Along a run of managers' calls every row that grants something global was there before. -/
lemma runSaves_global (b : Backend) (r : Roster) (db : AccessDatabase) {calls : List SaveCall}
    (hcalls : ∀ call ∈ calls, call.actor.canAccessGlobal = false) :
    ∃ db', runSaves b r calls (some db) = some db' ∧
      ∀ row ∈ db'.scopes.docs, row.GrantsGlobal → row ∈ db.scopes.docs := by
  induction calls generalizing db with
  | nil => exact ⟨db, rfl, fun row hrow _ => hrow⟩
  | cons call calls ih =>
    obtain ⟨db₁, hrun, hstep⟩ := SaveCall.run_global b r db (hcalls call (by simp))
    obtain ⟨db', hruns, hrest⟩ := ih db₁ (fun call' hcall' => hcalls call' (by simp [hcall']))
    refine ⟨db', ?_, fun row hrow hglobal => hstep row (hrest row hrow hglobal) hglobal⟩
    rw [← hruns, ← hrun]
    rfl

/-- No privilege escalation: what a manager's save writes is confined to the managed scope, and
along any run of such calls nobody gains global rights. -/
theorem no_privilege_escalation (b : Backend) (r : Roster) (db : AccessDatabase) :
    (∀ (call : SaveCall) detail db', call.actor.canAccessGlobal = false →
      call.run b r (some db) = (.ok detail, some db') →
      ∃ managedCenterID, Service.managedAccessCenterID b r call.tenantID call.actor = .ok managedCenterID ∧
        managedCenterID ≠ "" ∧ ∀ row ∈ db'.scopes.docs, row.userID = call.userID →
          Confined r call.tenantID managedCenterID row) ∧
    ∀ calls : List SaveCall, (∀ call ∈ calls, call.actor.canAccessGlobal = false) →
      ∃ db', runSaves b r calls (some db) = some db' ∧
        ∀ tenantID userID policies', Service.policiesForUser r db' tenantID userID = .ok policies' →
          (effectiveAccess policies').Global →
          (∃ row ∈ db.scopes.docs, row.userID = userID ∧ row.GrantsGlobal) ∧
            ∀ policies, Service.policiesForUser r db tenantID userID = .ok policies →
              (effectiveAccess policies).Global := by
  constructor
  · intro call detail db' hactor hsave
    obtain ⟨db', managedCenterID, assignable, hdb, hsaved, -⟩ := SaveCall.saved_of_run hsave
    cases hdb
    obtain ⟨hmanaged, hnonempty⟩ := hsaved.managedAccessCenterID hactor
    exact ⟨managedCenterID, hmanaged, hnonempty, fun row hrow huser => hsaved.confined hactor huser hrow⟩
  · intro calls hcalls
    obtain ⟨db', hruns, hglobal⟩ := runSaves_global b r db hcalls
    refine ⟨db', hruns, fun tenantID userID policies' hread h => ?_⟩
    obtain ⟨row, hrow, huser, hgrants, policy, hpolicy⟩ := (global_effectiveAccess_iff hread).mp h
    have hbefore := hglobal row hrow hgrants
    refine ⟨⟨row, hbefore, huser, hgrants⟩, fun policies hpolicies => ?_⟩
    exact (global_effectiveAccess_iff hpolicies).mpr ⟨row, hbefore, huser, hgrants, policy, hpolicy⟩

end Escalation

section Sample

attribute [local instance] asciiLibrary Sample.server

theorem appoint_confined : ∃ detail db',
    Sample.appoint.run .memory Sample.centers (some (Sample.database 2)) = (.ok detail, some db') ∧
      (∃ managedCenterID, ∀ row ∈ db'.scopes.docs, row.userID = "user" →
        Confined Sample.centers "erg" managedCenterID row) ∧
      ∃ db'', runSaves .memory Sample.centers [Sample.appoint, Sample.appoint] (some (Sample.database 2)) =
        some db'' := by
  obtain ⟨detail, db', hrun, -⟩ := Sample.appoint_succeeds 2 (by simp)
  obtain ⟨hsave, hruns⟩ := no_privilege_escalation .memory Sample.centers (Sample.database 2)
  obtain ⟨managedCenterID, -, -, hconfined⟩ := hsave Sample.appoint detail db' rfl hrun
  obtain ⟨db'', hrun', -⟩ := hruns [Sample.appoint, Sample.appoint] (by
    intro call hcall
    obtain rfl : call = Sample.appoint := by simpa using hcall
    rfl)
  exact ⟨detail, db', hrun, ⟨managedCenterID, hconfined⟩, db'', hrun'⟩

end Sample

end ErgGo.Lms
