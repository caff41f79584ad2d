import ErgGo.AccessControl.Repository

/-!
# Effective permissions

The permissions of a user's roles, changed by the user's overrides in the order in which the
repository lists them. The list begins with the newest override, so of several overrides for
one permission the oldest is applied last and decides.
-/

namespace ErgGo.AccessControl
open Go Documents Concurrent Program Lms Postgres

structure EffectivePermissionsResponse where
  userID : String
  rolePermissions : List String
  grantedPermissions : List String
  deniedPermissions : List String
  effectivePermissions : List String
  deriving DecidableEq

/-- `o.ExpiresAt != nil && o.ExpiresAt.Before(now)`. -/
def expired (now : Time) (o : ACUserPermissionOverride) : Bool := o.expiresAt.any (fun t => t < now)

/-- What the loop over the overrides carries. -/
structure Applied where
  effectiveSet : GoMap Bool
  granted : List String := []
  denied : List String := []

def Applied.apply (now : Time) (a : Applied) (o : ACUserPermissionOverride) : Applied :=
  if expired now o then a
  else if o.grantType = "DENY" then
    { a with effectiveSet := a.effectiveSet.erase o.permission, denied := a.denied ++ [o.permission] }
  else if o.grantType = "GRANT" then
    { a with effectiveSet := a.effectiveSet.insert o.permission true, granted := a.granted ++ [o.permission] }
  else a

/-- `effectiveSet[p] = true` for every permission of a role. -/
def roleSet (rolePerms : List String) : GoMap Bool :=
  GoMap.setAll ∅ (rolePerms.map (fun p => (p, true)))

def applyOverrides (now : Time) (rolePerms : List String) (overrides : List ACUserPermissionOverride) : Applied :=
  overrides.foldl (Applied.apply now) { effectiveSet := roleSet rolePerms }

def effectiveResponse (userID : String) (rolePermList : List String) (applied : Applied) :
    EffectivePermissionsResponse where
  userID := userID
  rolePermissions := rolePermList
  grantedPermissions := sortStrings applied.granted
  deniedPermissions := sortStrings applied.denied
  effectivePermissions := sortStrings applied.effectiveSet.keys

namespace Service

def getEffectivePermissions (userID : String) : ACCall EffectivePermissionsResponse := do
  let roleRefs ← wrapping "access_control.GetEffectivePermissions.loadUserRoles" (ac (.getUserRoles userID))
  let rolePermList ← wrapping "access_control.GetEffectivePermissions.ListPermissionNamesByRoleRefs"
    (ac (.listPermissionNamesByRoleRefs roleRefs))
  let overrides ← wrapping "access_control.GetEffectivePermissions.ListOverridesByUser"
    (ac (.listOverridesByUser userID))
  let now ← ac .now
  return effectiveResponse userID rolePermList (applyOverrides now rolePermList overrides)

end Service

/-- An override that changes the permission when it is applied. -/
def decides (now : Time) (p : String) (o : ACUserPermissionOverride) : Bool :=
  o.permission = p && !expired now o && (o.grantType = "DENY" || o.grantType = "GRANT")

/-- The last listed override that changes the permission. -/
def deciding (now : Time) (p : String) (overrides : List ACUserPermissionOverride) :
    Option ACUserPermissionOverride :=
  (overrides.filter (decides now p)).getLast?

lemma deciding_append (now : Time) (p : String) (overrides : List ACUserPermissionOverride)
    (o : ACUserPermissionOverride) : deciding now p (overrides ++ [o]) =
      if decides now p o then some o else deciding now p overrides := by
  unfold deciding
  rw [List.filter_append]
  by_cases ho : decides now p o
  · rw [List.filter_cons_of_pos ho, if_pos ho, List.filter_nil, List.getLast?_concat]
  · rw [List.filter_cons_of_neg ho, if_neg ho, List.filter_nil, List.append_nil]

lemma mem_roleSet {rolePerms : List String} {p : String} : p ∈ roleSet rolePerms ↔ p ∈ rolePerms := by
  have hfold : ∀ (l : List String) (m : GoMap Bool),
      p ∈ m.setAll (l.map (fun p => (p, true))) ↔ p ∈ m ∨ p ∈ l := by
    intro l
    induction l with
    | nil => simp
    | cons q l ih =>
      intro m
      have hcons : m.setAll ((q :: l).map (fun p => (p, true))) =
          GoMap.setAll (m.insert q true) (l.map (fun p => (p, true))) := rfl
      rw [hcons, ih, AList.mem_insert, List.mem_cons]
      tauto
  rw [roleSet, hfold]
  simp

/-- One override: it decides its own permission and leaves the others alone. -/
lemma mem_apply {now : Time} {a : Applied} {o : ACUserPermissionOverride} {p : String} :
    p ∈ (a.apply now o).effectiveSet ↔
      if decides now p o then o.grantType = "GRANT" else p ∈ a.effectiveSet := by
  unfold Applied.apply decides
  by_cases hexpired : expired now o
  · simp [hexpired]
  · by_cases hdeny : o.grantType = "DENY"
    · by_cases hp : o.permission = p
      · simp [hexpired, hdeny, hp, AList.mem_erase]
      · have hne : p ≠ o.permission := fun h => hp h.symm
        simp [hexpired, hdeny, hp, hne, AList.mem_erase]
    · by_cases hgrant : o.grantType = "GRANT"
      · by_cases hp : o.permission = p
        · simp [hexpired, hgrant, hp, AList.mem_insert]
        · have hne : p ≠ o.permission := fun h => hp h.symm
          simp [hexpired, hgrant, hp, hne, AList.mem_insert]
      · simp [hexpired, hdeny, hgrant]

/-- All overrides: the last one that decides a permission gives the answer. -/
theorem mem_applyOverrides {now : Time} {rolePerms : List String} {p : String}
    (overrides : List ACUserPermissionOverride) : p ∈ (applyOverrides now rolePerms overrides).effectiveSet ↔
      (deciding now p overrides).elim (p ∈ rolePerms) (fun o => o.grantType = "GRANT") := by
  induction overrides using List.reverseRecOn with
  | nil => exact mem_roleSet
  | append_singleton overrides o ih =>
    have hfold : applyOverrides now rolePerms (overrides ++ [o]) =
        (applyOverrides now rolePerms overrides).apply now o := by
      unfold applyOverrides
      rw [List.foldl_append]
      rfl
    rw [hfold, mem_apply, deciding_append, ih]
    by_cases ho : decides now p o
    · simp [ho]
    · simp [ho]

section Effective

variable [Library]

/-- What the call returns when it runs alone. -/
lemma getEffectivePermissions_alone (now : Time) (userID : String) (db : Database) :
    (Service.getEffectivePermissions userID).run.alone exec now db =
      (.ok (effectiveResponse userID (listPermissionNamesByRoleRefs db (getUserRoles db userID))
        (applyOverrides now (listPermissionNamesByRoleRefs db (getUserRoles db userID))
          (listOverridesByUser db userID))), db) := rfl

/-- A most recent override of a permission, among the unexpired ones. -/
structure IsLatest (db : Database) (userID : String) (now : Time) (p : String)
    (o : ACUserPermissionOverride) : Prop where
  mem : o ∈ db.overrides
  user : o.userID = userID
  names : o.permission = p
  unexpired : ¬expired now o
  newest : ∀ o' ∈ db.overrides, o'.userID = userID → o'.permission = p → ¬expired now o' →
    o'.createdAt ≤ o.createdAt

/-- The latest override of a permission decides it. -/
def LatestDecides (db : Database) (userID : String) (now : Time) (resp : EffectivePermissionsResponse) : Prop :=
  ∀ p o, IsLatest db userID now p o →
    (o.grantType = "DENY" → p ∉ resp.effectivePermissions) ∧
      (o.grantType = "GRANT" → p ∈ resp.effectivePermissions)

lemma mem_effectivePermissions {now : Time} {db : Database} {userID p : String} {rolePerms : List String} :
    p ∈ (effectiveResponse userID rolePerms (applyOverrides now rolePerms
        (listOverridesByUser db userID))).effectivePermissions ↔
      (deciding now p (listOverridesByUser db userID)).elim (p ∈ rolePerms) (fun o => o.grantType = "GRANT") := by
  rw [effectiveResponse, mem_sortStrings, ← AList.mem_keys, mem_applyOverrides]

lemma IsLatest.exists_deciding {db : Database} {userID p : String} {now : Time} {o : ACUserPermissionOverride}
    (h : IsLatest db userID now p o) (htype : o.grantType = "DENY" ∨ o.grantType = "GRANT") :
    ∃ o', deciding now p (listOverridesByUser db userID) = some o' ∧
      (o'.grantType = "DENY" ∨ o'.grantType = "GRANT") := by
  have hlisted : o ∈ listOverridesByUser db userID := by
    unfold listOverridesByUser
    rw [(Library.sortSlice_perm _ _).mem_iff, List.mem_filter]
    exact ⟨h.mem, decide_eq_true h.user⟩
  have hdecides : decides now p o := by
    simp [decides, h.names, h.unexpired, htype]
  have hmem : o ∈ (listOverridesByUser db userID).filter (decides now p) := List.mem_filter.mpr ⟨hlisted, hdecides⟩
  have hsome := List.getLast?_eq_some_getLast (List.ne_nil_of_mem hmem)
  refine ⟨_, hsome, ?_⟩
  have hlast := (List.mem_filter.mp (List.mem_of_getLast? hsome)).2
  simp only [decides, Bool.and_eq_true, Bool.or_eq_true, decide_eq_true_eq] at hlast
  exact hlast.2

/-- The latest override decides exactly when, for each permission, the last listed override
has the type of the latest one. -/
theorem latestDecides_iff (db : Database) (userID : String) (now : Time) :
    ∃ resp, (Service.getEffectivePermissions userID).run.alone exec now db = (.ok resp, db) ∧
      (LatestDecides db userID now resp ↔ ∀ p o, IsLatest db userID now p o →
        o.grantType = "DENY" ∨ o.grantType = "GRANT" →
        ∃ o', deciding now p (listOverridesByUser db userID) = some o' ∧ o'.grantType = o.grantType) := by
  refine ⟨_, getEffectivePermissions_alone now userID db, ?_⟩
  have hmem : ∀ p, p ∈ (effectiveResponse userID _ (applyOverrides now
      (listPermissionNamesByRoleRefs db (getUserRoles db userID)) (listOverridesByUser db userID))).effectivePermissions ↔
        (deciding now p (listOverridesByUser db userID)).elim
          (p ∈ listPermissionNamesByRoleRefs db (getUserRoles db userID)) (fun o => o.grantType = "GRANT") :=
    fun p => mem_effectivePermissions
  constructor
  · intro h p o ho htype
    obtain ⟨o', hdeciding, htype'⟩ := ho.exists_deciding htype
    obtain ⟨hdeny, hgrant⟩ := h p o ho
    rw [hmem, hdeciding] at hdeny hgrant
    refine ⟨o', hdeciding, ?_⟩
    obtain htype | htype := htype
    · have hnot := hdeny htype
      obtain htype' | htype' := htype'
      · rw [htype', htype]
      · exact absurd htype' hnot
    · exact (hgrant htype).trans htype.symm
  · intro h p o ho
    rw [hmem]
    constructor
    · intro hdeny
      obtain ⟨o', hdeciding, hsame⟩ := h p o ho (.inl hdeny)
      rw [hdeciding, Option.elim_some, hsame, hdeny]
      decide
    · intro hgrant
      obtain ⟨o', hdeciding, hsame⟩ := h p o ho (.inr hgrant)
      rw [hdeciding, Option.elim_some, hsame]
      exact hgrant

end Effective

section Sample

attribute [local instance] asciiLibrary

/-- A permission first granted and later denied. -/
def Sample.grant : ACUserPermissionOverride :=
  { id := "grant", userID := "user", permission := "posts.read", grantType := "GRANT", createdAt := 1 }

def Sample.denyLater : ACUserPermissionOverride :=
  { id := "deny", userID := "user", permission := "posts.read", grantType := "DENY", createdAt := 2 }

def Sample.overridden : Database := { Database.empty with overrides := [grant, denyLater] }

/-- The permission denied last is still effective. -/
theorem granted_after_deny : ∃ resp, (Service.getEffectivePermissions "user").run.alone exec 3 Sample.overridden =
    (.ok resp, Sample.overridden) ∧ ¬LatestDecides Sample.overridden "user" 3 resp := by
  refine ⟨_, getEffectivePermissions_alone 3 "user" Sample.overridden, fun h => ?_⟩
  have hlatest : IsLatest Sample.overridden "user" 3 "posts.read" Sample.denyLater := by
    refine ⟨by simp [Sample.overridden], rfl, rfl, by decide, ?_⟩
    intro o' ho' _ _ _
    simp only [Sample.overridden, List.mem_cons, List.not_mem_nil, or_false] at ho'
    obtain rfl | rfl := ho'
    · decide
    · exact le_refl _
  have habsent := (h "posts.read" Sample.denyLater hlatest).1 rfl
  refine habsent (mem_effectivePermissions.mpr ?_)
  have hdeciding : deciding 3 "posts.read" (listOverridesByUser Sample.overridden "user") = some Sample.grant := rfl
  rw [hdeciding]
  rfl

end Sample

end ErgGo.AccessControl
