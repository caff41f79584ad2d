import ErgGo.Lms.AccessService

/-!
# Access policies

What effective access depends on, and what the checks of a policy leave of it.
-/

namespace ErgGo.Lms
open Go Documents

/-! ## Effective access -/

section Effective

/-- The ranks tell the scope types apart. -/
lemma scopeRank_injective {a b : String} (ha : 0 < scopeRank a) (h : scopeRank a = scopeRank b) : a = b := by
  unfold scopeRank at ha h
  split_ifs at ha h <;> first | omega | simp_all

/-- The highest scope depends only on which scope types occur. -/
lemma highestScope_congr {ps qs : List UserAccessPolicy}
    (h : ∀ scopeType, scopeType ∈ ps.map UserAccessPolicy.scopeType ↔
      scopeType ∈ qs.map UserAccessPolicy.scopeType) : highestScope ps = highestScope qs := by
  have hrank : ∀ a b, scopeRank "" < scopeRank a → scopeRank a = scopeRank b → a = b :=
    fun a b ha => scopeRank_injective (Nat.zero_lt_of_lt ha)
  have hsame := Scan.highest_congr hrank h
  unfold highestScope
  rw [hsame]

/-- A scope type of the highest rank is the highest scope wherever it occurs. -/
lemma highestScope_eq_system {ps : List UserAccessPolicy} :
    highestScope ps = "system" ↔ ∃ policy ∈ ps, policy.scopeType = "system" := by
  unfold highestScope
  constructor
  · intro h
    obtain hempty | ⟨hmem, -⟩ := Scan.highest_mem scopeRank "" (ps.map UserAccessPolicy.scopeType)
    · simp [hempty] at h
    · obtain ⟨policy, hpolicy, heq⟩ := List.mem_map.mp hmem
      dsimp only at h
      split at h
      · simp at h
      · exact ⟨policy, hpolicy, heq.trans h⟩
  · rintro ⟨policy, hpolicy, hsystem⟩
    have hle := (Scan.rank_le_highest scopeRank "" (ps.map UserAccessPolicy.scopeType)).2 _
      (List.mem_map_of_mem hpolicy)
    rw [hsystem] at hle
    have htop : ∀ a, scopeRank a ≤ scopeRank "system" := by
      intro a
      unfold scopeRank
      split_ifs <;> simp_all
    have heq := scopeRank_injective (by decide) (le_antisymm hle (htop _))
    simp [← heq]

/-- What effective access reads of a policy. -/
def UserAccessPolicy.view (policy : UserAccessPolicy) : String × List String × List String :=
  (policy.scopeType, policy.modules, policy.permissions)

lemma mem_map_of_view {α : Type} (f : String × List String × List String → α)
    {ps qs : List UserAccessPolicy}
    (h : ∀ v, v ∈ ps.map UserAccessPolicy.view ↔ v ∈ qs.map UserAccessPolicy.view) (x : α) :
    x ∈ ps.map (fun p => f p.view) ↔ x ∈ qs.map (fun p => f p.view) := by
  have hmap : ∀ l : List UserAccessPolicy, l.map (fun p => f p.view) = (l.map UserAccessPolicy.view).map f :=
    fun l => by rw [List.map_map]; rfl
  rw [hmap, hmap, List.mem_map, List.mem_map]
  exact exists_congr fun v => and_congr_left' (h v)

lemma effectiveAccess_congr {ps qs : List UserAccessPolicy}
    (h : ∀ v, v ∈ ps.map UserAccessPolicy.view ↔ v ∈ qs.map UserAccessPolicy.view) :
    effectiveAccess ps = effectiveAccess qs := by
  have hunique : ∀ f : String × List String × List String → List String,
      uniqueStrings (ps.flatMap (fun p => f p.view)) = uniqueStrings (qs.flatMap (fun p => f p.view)) := by
    intro f
    have hmem : ∀ value, value ∈ ps.flatMap (fun p => f p.view) ↔ value ∈ qs.flatMap (fun p => f p.view) := by
      intro value
      rw [List.flatMap_def, List.flatMap_def, List.mem_flatten, List.mem_flatten]
      exact exists_congr fun values => and_congr_left' (mem_map_of_view f h values)
    apply uniqueStrings_ext
    intro s
    simp only [mem_uniqueStrings, hmem]
  have hscope := highestScope_congr (mem_map_of_view Prod.fst h)
  have hmodules := hunique (fun v => v.2.1)
  have hpermissions := hunique (fun v => v.2.2)
  unfold effectiveAccess
  rw [hscope, show uniqueStrings (ps.flatMap UserAccessPolicy.modules) = _ from hmodules,
    show uniqueStrings (ps.flatMap UserAccessPolicy.permissions) = _ from hpermissions]
  rfl

end Effective

/-! ## Policies -/

section Policies

variable [Library]

omit [Library] in
lemma getCenter_system (r : Roster) (tenantID : String) (found : Option Center) :
    r.getCenter tenantID "system" ≠ .ok found := by
  have hparse : objectID "system" = .error (.invalidObjectID "system") := by decide
  unfold Roster.getCenter
  rw [hparse]
  intro h
  cases h

lemma scopeTypeForCenter_ne_system (center : Center) : scopeTypeForCenter center ≠ "system" := by
  unfold scopeTypeForCenter
  split <;> decide

/-- A policy as `normalizeAccessPolicy` leaves it. -/
structure Normalized (r : Roster) (tenantID : String) (policy : UserAccessPolicy) : Prop where
  scope : (policy.scopeType = "system" ∧ policy.scopeID = "system") ∨
    ∃ center, r.getCenter tenantID policy.scopeID = .ok (some center) ∧
      policy.scopeType = scopeTypeForCenter center
  modules : ∃ values, policy.modules = uniqueStrings values
  allowed : roleGroupAllowedForScope policy.roleGroup policy.scopeType
  permissions : policy.permissions = permissionsForRoleGroup policy.roleGroup

lemma normalized_of_ok {r : Roster} {tenantID : String} {policy normalized : UserAccessPolicy}
    (h : Service.normalizeAccessPolicy r tenantID policy = .ok normalized) :
    Normalized r tenantID normalized := by
  unfold Service.normalizeAccessPolicy at h
  generalize toLower (trimSpace policy.scopeType) = scopeType at h
  generalize toLower (trimSpace policy.roleGroup) = roleGroup at h
  have hmodules : ∃ values, normalizeAccessModules policy.modules = uniqueStrings values := ⟨_, rfl⟩
  generalize normalizeAccessModules policy.modules = modules at h hmodules
  obtain ⟨⟨scopeID, scopeName⟩, hscope, h⟩ := except_bind_eq_ok.mp h
  dsimp only at h
  split at h
  · cases h
  split at h
  · cases h
  next hallowed =>
  cases h
  refine ⟨?_, hmodules, by simpa using hallowed, rfl⟩
  dsimp only
  unfold Service.normalizeScope at hscope
  split at hscope
  · next hsystem =>
    cases hscope
    exact .inl ⟨hsystem, rfl⟩
  · right
    obtain ⟨found, hfound, hscope⟩ := except_bind_eq_ok.mp hscope
    cases found with
    | none => cases hscope
    | some center =>
      dsimp only at hscope
      split at hscope
      · cases hscope
      · next hsame =>
        cases hscope
        exact ⟨center, hfound, not_not.mp hsame⟩

/-- The center is the managed one or a school under it. -/
def inManagedScope (r : Roster) (tenantID managedCenterID centerID : String) : Bool :=
  match r.getCenter tenantID centerID with
  | .ok (some center) => (centerType center = "center" && center.id.hex = managedCenterID) ||
      (centerType center = "school" && center.parentID.hex = managedCenterID)
  | _ => false

lemma inManagedScope_iff {r : Roster} {tenantID managedCenterID centerID : String} :
    inManagedScope r tenantID managedCenterID centerID ↔
      ∃ center, r.getCenter tenantID centerID = .ok (some center) ∧
        ((centerType center = "center" ∧ center.id.hex = managedCenterID) ∨
          (centerType center = "school" ∧ center.parentID.hex = managedCenterID)) := by
  unfold inManagedScope
  split
  · next center hget => simp [hget]
  · next hnone =>
    simp only [Bool.false_eq_true, false_iff]
    rintro ⟨center, hget, -⟩
    exact hnone center hget

/-- A policy that a manager assigns is in the scope the manager manages. -/
lemma inManagedScope_of_assignable {r : Roster} {tenantID managedCenterID : String} {actor : Actor}
    {policy : UserAccessPolicy} (hactor : actor.canAccessGlobal = false)
    (hnormalized : Normalized r tenantID policy)
    (h : Service.canAssignAccessPolicy r tenantID actor managedCenterID policy) :
    policy.scopeType ≠ "system" ∧ inManagedScope r tenantID managedCenterID policy.scopeID := by
  unfold Service.canAssignAccessPolicy at h
  rw [hactor, if_neg Bool.false_ne_true] at h
  split at h
  · cases h
  next hscoped =>
  simp only [Bool.or_eq_true, decide_eq_true_eq, not_or] at hscoped
  refine ⟨hscoped.2, inManagedScope_iff.mpr ?_⟩
  obtain ⟨hsystem, -⟩ | ⟨center, hcenter, htype⟩ := hnormalized.scope
  · exact absurd hsystem hscoped.2
  refine ⟨center, hcenter, ?_⟩
  rw [hcenter] at h
  dsimp only at h
  split at h
  · next hcenterType =>
    simp only [Bool.and_eq_true, decide_eq_true_eq] at h
    exact .inl ⟨h.2, h.1⟩
  · next hcenterType =>
    simp only [Bool.and_eq_true, decide_eq_true_eq] at h
    right
    refine ⟨?_, h.2⟩
    rw [htype] at h
    unfold scopeTypeForCenter at h
    by_contra hschool
    rw [if_neg hschool] at h
    exact absurd h.1 (by decide)

omit [Library] in
lemma star_notMem_permissions {roleGroup : String} (h : roleGroup ≠ "system_admin") :
    "*" ∉ permissionsForRoleGroup roleGroup := by
  have hgroups : ∀ group ∈ accessRoleGroups, group.id ≠ "system_admin" → "*" ∉ group.permissions := by
    decide
  unfold permissionsForRoleGroup
  cases hfind : accessRoleGroups.find? (fun group => group.id = roleGroup) with
  | none => simp
  | some group =>
    have hid : group.id = roleGroup := by simpa using List.find?_some hfind
    exact hgroups group (List.mem_of_find?_eq_some hfind) (hid ▸ h)

omit [Library] in
lemma ne_system_admin_of_allowed {roleGroup scopeType : String} (hscope : scopeType ≠ "system")
    (h : roleGroupAllowedForScope roleGroup scopeType) : roleGroup ≠ "system_admin" := by
  rintro rfl
  simp [roleGroupAllowedForScope, accessRoleGroups, hscope] at h

end Policies

end ErgGo.Lms
