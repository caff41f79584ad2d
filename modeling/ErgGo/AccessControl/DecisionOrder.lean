import ErgGo.AccessControl.Decision

/-!
# Decisions for two subjects

A subject that has more, and is denied no more, is allowed at least as much. What is decided
reads the subject's lists as sets; the permission named as the match is the first one.
-/

namespace ErgGo.AccessControl.Policy
open Go Lms Auth

/-- The subject `other` has everything `subject` has and is denied nothing more. -/
structure Subject.Extends (other subject : Subject) : Prop where
  id : other.id = subject.id
  tenantID : other.tenantID = subject.tenantID
  roles : subject.roles ⊆ other.roles
  permissions : subject.permissions ⊆ other.permissions
  portals : subject.portals ⊆ other.portals
  deniedPermissions : other.deniedPermissions ⊆ subject.deniedPermissions

/-- The lists of the two subjects differ in order and repetition at most. -/
structure Subject.SameEntries (other subject : Subject) : Prop where
  id : other.id = subject.id
  tenantID : other.tenantID = subject.tenantID
  roles : ∀ role, role ∈ other.roles ↔ role ∈ subject.roles
  permissions : ∀ permission, permission ∈ other.permissions ↔ permission ∈ subject.permissions
  portals : ∀ portal, portal ∈ other.portals ↔ portal ∈ subject.portals
  deniedPermissions : ∀ permission, permission ∈ other.deniedPermissions ↔ permission ∈ subject.deniedPermissions

/-- The decisions are the same but for the permission they name as the match. -/
structure Decision.Agrees (d₁ d₂ : Decision) : Prop where
  allowed : d₁.allowed = d₂.allowed
  reason : d₁.reason = d₂.reason
  requiredPermission : d₁.requiredPermission = d₂.requiredPermission

lemma Decision.Agrees.refl (d : Decision) : d.Agrees d := ⟨rfl, rfl, rfl⟩

lemma Decision.Agrees.ite {c : Prop} [Decidable c] {d₁ d₂ e₁ e₂ : Decision} (hd : d₁.Agrees d₂) (he : e₁.Agrees e₂) :
    (if c then d₁ else e₁).Agrees (if c then d₂ else e₂) := by
  split
  · exact hd
  · exact he

lemma none_or_some {α : Type} {o₁ o₂ : Option α} (h : o₁.isSome ↔ o₂.isSome) :
    o₁ = none ∧ o₂ = none ∨ ∃ a₁ a₂, o₁ = some a₁ ∧ o₂ = some a₂ := by
  cases o₁ with
  | none => exact .inl ⟨rfl, Option.not_isSome_iff_eq_none.mp (mt h.mpr (by simp))⟩
  | some a₁ =>
    obtain ⟨a₂, rfl⟩ := Option.isSome_iff_exists.mp (h.mp rfl)
    exact .inr ⟨a₁, a₂, rfl, rfl⟩

lemma flatMap_mono {α β : Type} (f : α → List β) {l₁ l₂ : List α} (h : l₁ ⊆ l₂) : l₁.flatMap f ⊆ l₂.flatMap f := by
  intro b hb
  rw [List.mem_flatMap] at hb ⊢
  obtain ⟨a, ha, hb⟩ := hb
  exact ⟨a, h ha, hb⟩

section TwoSubjects

variable [Library]

/-- What a decision names as the match is an entry that matches: a denied one where it refuses,
a granted one where it allows. -/
def NamesMatch (request : Request) : Prop :=
  let decision := decide request
  let matchesOne := ∃ candidate ∈ permissionEquivalents decision.requiredPermission,
    permissionMatches decision.matchedPermission candidate
  (decision.reason = "deny override" → decision.matchedPermission ∈ request.subject.deniedPermissions ∧ matchesOne) ∧
    (decision.allowed → decision.matchedPermission ∈
      request.subject.permissions ++ permissionsForRoles request.subject.roles ∧ matchesOne)

lemma uniquePortals_mono {values₁ values₂ : List String} (h : values₁ ⊆ values₂) :
    uniquePortals values₁ ⊆ uniquePortals values₂ := by
  intro portal hportal
  unfold uniquePortals at hportal ⊢
  rw [mem_sortStrings, List.mem_dedup, List.mem_filter, List.mem_map] at hportal ⊢
  obtain ⟨⟨value, hvalue, rfl⟩, hblank⟩ := hportal
  exact ⟨⟨value, h hvalue, rfl⟩, hblank⟩

lemma permissionsForRoles_mono {roles₁ roles₂ : List String} (h : roles₁ ⊆ roles₂) :
    permissionsForRoles roles₁ ⊆ permissionsForRoles roles₂ := by
  intro permission hpermission
  unfold permissionsForRoles at hpermission ⊢
  rw [mem_uniqueStrings] at hpermission ⊢
  obtain ⟨hblank, stored, hstored, rfl⟩ := hpermission
  exact ⟨hblank, stored, flatMap_mono definedPermissions h hstored, rfl⟩

lemma subjectHasPortal_mono {other subject : Subject} (hportals : subject.portals ⊆ other.portals)
    (hroles : subject.roles ⊆ other.roles) {portal : String} (h : subjectHasPortal subject portal) :
    subjectHasPortal other portal := by
  unfold subjectHasPortal at h ⊢
  rw [Bool.or_eq_true, List.any_eq_true] at h ⊢
  obtain hblank | ⟨allowed, hallowed, hmatch⟩ := h
  · exact .inl hblank
  · refine .inr ⟨allowed, ?_, hmatch⟩
    have hinherited : portalsForToken subject.roles ⊆ portalsForToken other.roles :=
      uniquePortals_mono (flatMap_mono _ hroles)
    obtain hown | hrole := List.mem_append.mp hallowed
    · exact List.mem_append.mpr (.inl (hportals hown))
    · exact List.mem_append.mpr (.inr (hinherited hrole))

lemma covers_mono {grants₁ grants₂ : List String} (h : grants₁ ⊆ grants₂) {required : String}
    (hcovers : Covers grants₁ required) : Covers grants₂ required := by
  obtain ⟨candidate, hcandidate, granted, hgranted, hmatch⟩ := hcovers
  exact ⟨candidate, hcandidate, granted, h hgranted, hmatch⟩

lemma grants_mono {other subject : Subject} (hpermissions : subject.permissions ⊆ other.permissions)
    (hroles : subject.roles ⊆ other.roles) : subject.permissions ++ permissionsForRoles subject.roles ⊆
      other.permissions ++ permissionsForRoles other.roles := by
  intro permission hpermission
  obtain hown | hrole := List.mem_append.mp hpermission
  · exact List.mem_append.mpr (.inl (hpermissions hown))
  · exact List.mem_append.mpr (.inr (permissionsForRoles_mono hroles hrole))

/-- The subject and the tenants of the request do not stand in the way. -/
structure Admitted (request : Request) : Prop where
  portal : request.scope.portal ≠ "" → subjectHasPortal request.subject request.scope.portal
  tenant : request.scope.tenantID ≠ "" → request.subject.tenantID ≠ "" →
    request.subject.tenantID = request.scope.tenantID
  resourceTenant : request.resource.tenantID ≠ "" → request.subject.tenantID ≠ "" →
    request.subject.tenantID = request.resource.tenantID

lemma findSome_eq_none_iff {grants : List String} {required : String} :
    (permissionEquivalents required).findSome? (findMatchingPermission grants) = none ↔ ¬Covers grants required := by
  rw [← Option.not_isSome_iff_eq_none, findSome_isSome_iff]
  rfl

/-- What is allowed, read off the subject's lists as sets. -/
theorem decide_allowed_iff (request : Request) : (decide request).allowed ↔
    requiredPermission request.action request.resource ≠ "" ∧ Admitted request ∧
      ¬Covers request.subject.deniedPermissions (requiredPermission request.action request.resource) ∧
      Covers (request.subject.permissions ++ permissionsForRoles request.subject.roles)
        (requiredPermission request.action request.resource) := by
  have hrefused : ∀ {reason required matched : String} {P : Prop}, ¬P →
      ((⟨false, reason, required, matched⟩ : Decision).allowed ↔ P) := by
    intro reason required matched P hP
    exact ⟨fun h => absurd h Bool.false_ne_true, fun h => absurd h hP⟩
  unfold decide
  dsimp only
  split
  · next hrequired => exact hrefused fun h => h.1 hrequired
  · next hrequired =>
    split
    · next hportal =>
      rw [Bool.and_eq_true, decide_eq_true_eq, Bool.not_eq_true'] at hportal
      refine hrefused fun h => Bool.false_ne_true ?_
      exact hportal.2.symm.trans (h.2.1.portal hportal.1)
    · next hportal =>
      split
      · next htenant =>
        simp only [Bool.and_eq_true, decide_eq_true_eq] at htenant
        exact hrefused fun h => htenant.2 (h.2.1.tenant htenant.1.1 htenant.1.2)
      · next htenant =>
        split
        · next hresource =>
          simp only [Bool.and_eq_true, decide_eq_true_eq] at hresource
          exact hrefused fun h => hresource.2 (h.2.1.resourceTenant hresource.1.1 hresource.1.2)
        · next hresource =>
          have hadmitted : Admitted request := by
            simp only [Bool.and_eq_true, decide_eq_true_eq, not_and, not_not] at htenant hresource
            refine ⟨fun hscope => ?_, fun h₁ h₂ => htenant ⟨h₁, h₂⟩, fun h₁ h₂ => hresource ⟨h₁, h₂⟩⟩
            by_contra hdenied
            refine hportal ?_
            rw [Bool.and_eq_true, decide_eq_true_eq, Bool.not_eq_true']
            exact ⟨hscope, Bool.eq_false_iff.mpr hdenied⟩
          split
          · next matched hmatched =>
            refine hrefused fun h => ?_
            rw [findSome_eq_none_iff.mpr h.2.2.1] at hmatched
            cases hmatched
          · next hdenied =>
            split
            · next matched hmatched =>
              have hcovers : Covers (request.subject.permissions ++ permissionsForRoles request.subject.roles)
                  (requiredPermission request.action request.resource) := by
                refine findSome_isSome_iff.mp ?_
                rw [hmatched]
                rfl
              exact ⟨fun _ => ⟨hrequired, hadmitted, findSome_eq_none_iff.mp hdenied, hcovers⟩, fun _ => rfl⟩
            · next hgranted => exact hrefused fun h => findSome_eq_none_iff.mp hgranted h.2.2.2

/-- Two subjects of one tenant, about whom the checks say the same, get the same decision. -/
lemma decide_agrees {request : Request} {other : Subject} (htenant : other.tenantID = request.subject.tenantID)
    (hportal : ∀ portal, subjectHasPortal other portal = subjectHasPortal request.subject portal)
    (hdenied : ∀ required, Covers other.deniedPermissions required ↔ Covers request.subject.deniedPermissions required)
    (hgranted : ∀ required, Covers (other.permissions ++ permissionsForRoles other.roles) required ↔
      Covers (request.subject.permissions ++ permissionsForRoles request.subject.roles) required) :
    (decide { request with subject := other }).Agrees (decide request) := by
  unfold decide
  simp only [hportal, htenant]
  refine .ite (.refl _) (.ite (.refl _) (.ite (.refl _) (.ite (.refl _) ?_)))
  have hdenies := hdenied (requiredPermission request.action request.resource)
  have hgrants := hgranted (requiredPermission request.action request.resource)
  simp only [Covers, ← findSome_isSome_iff] at hdenies hgrants
  generalize (permissionEquivalents (requiredPermission request.action request.resource)).findSome?
    (findMatchingPermission other.deniedPermissions) = denied₁ at hdenies ⊢
  generalize (permissionEquivalents (requiredPermission request.action request.resource)).findSome?
    (findMatchingPermission request.subject.deniedPermissions) = denied₂ at hdenies ⊢
  generalize (permissionEquivalents (requiredPermission request.action request.resource)).findSome?
    (findMatchingPermission (other.permissions ++ permissionsForRoles other.roles)) = granted₁ at hgrants ⊢
  generalize (permissionEquivalents (requiredPermission request.action request.resource)).findSome?
    (findMatchingPermission (request.subject.permissions ++ permissionsForRoles request.subject.roles)) =
      granted₂ at hgrants ⊢
  obtain ⟨rfl, rfl⟩ | ⟨d₁, d₂, rfl, rfl⟩ := none_or_some hdenies
  · obtain ⟨rfl, rfl⟩ | ⟨g₁, g₂, rfl, rfl⟩ := none_or_some hgrants
    · exact ⟨rfl, rfl, rfl⟩
    · exact ⟨rfl, rfl, rfl⟩
  · exact ⟨rfl, rfl, rfl⟩

lemma mem_of_findMatchingPermission {grants : List String} {candidate matched : String}
    (h : findMatchingPermission grants candidate = some matched) :
    matched ∈ grants ∧ permissionMatches matched candidate :=
  ⟨List.mem_of_find?_eq_some h, List.find?_some (p := fun permission => permissionMatches permission candidate) h⟩

lemma mem_of_findSome {grants candidates : List String} {matched : String}
    (h : candidates.findSome? (findMatchingPermission grants) = some matched) :
    matched ∈ grants ∧ ∃ candidate ∈ candidates, permissionMatches matched candidate := by
  obtain ⟨candidate, hcandidate, hfound⟩ := List.exists_of_findSome?_eq_some h
  obtain ⟨hgranted, hmatch⟩ := mem_of_findMatchingPermission hfound
  exact ⟨hgranted, candidate, hcandidate, hmatch⟩

lemma namesMatch (request : Request) : NamesMatch request := by
  have hrefused : ∀ {d : Decision} {P Q : Prop}, d.allowed = false → d.reason ≠ "deny override" →
      (d.reason = "deny override" → P) ∧ (d.allowed → Q) := by
    intro d P Q hallowed hreason
    exact ⟨fun h => absurd h hreason, fun h => absurd (hallowed.symm.trans h) Bool.false_ne_true⟩
  unfold NamesMatch decide
  dsimp only
  split
  · exact hrefused rfl (by simp)
  · split
    · exact hrefused rfl (by simp)
    · split
      · exact hrefused rfl (by simp)
      · split
        · exact hrefused rfl (by simp)
        · split
          · next matched hmatched =>
            exact ⟨fun _ => mem_of_findSome hmatched, fun h => absurd h Bool.false_ne_true⟩
          · split
            · next matched hmatched => exact ⟨fun h => absurd h (by simp), fun _ => mem_of_findSome hmatched⟩
            · exact hrefused rfl (by simp)

/-- A subject with more is allowed at least as much. The order and the repetition of the
entries decide nothing but which of the matching entries is named. -/
theorem decide_monotone : (∀ (request : Request) (other : Subject), other.Extends request.subject →
      (decide request).allowed → (decide { request with subject := other }).allowed) ∧
    (∀ (request : Request) (other : Subject), other.SameEntries request.subject →
      (decide { request with subject := other }).Agrees (decide request)) ∧
    ∀ request, NamesMatch request := by
  refine ⟨fun request other hextends hallowed => ?_, fun request other hsame => ?_, namesMatch⟩
  · obtain ⟨hrequired, hadmitted, hdenied, hgranted⟩ := (decide_allowed_iff request).mp hallowed
    refine (decide_allowed_iff _).mpr ⟨hrequired, ⟨fun hscope => ?_, ?_, ?_⟩, ?_, ?_⟩
    · exact subjectHasPortal_mono hextends.portals hextends.roles (hadmitted.portal hscope)
    · rw [hextends.tenantID]
      exact hadmitted.tenant
    · rw [hextends.tenantID]
      exact hadmitted.resourceTenant
    · exact fun hcovers => hdenied (covers_mono hextends.deniedPermissions hcovers)
    · exact covers_mono (grants_mono hextends.permissions hextends.roles) hgranted
  · have hroles : other.roles ⊆ request.subject.roles := fun role => (hsame.roles role).mp
    have hroles' : request.subject.roles ⊆ other.roles := fun role => (hsame.roles role).mpr
    have hpermissions : other.permissions ⊆ request.subject.permissions := fun p => (hsame.permissions p).mp
    have hpermissions' : request.subject.permissions ⊆ other.permissions := fun p => (hsame.permissions p).mpr
    refine decide_agrees hsame.tenantID (fun portal => ?_) (fun required => ?_) (fun required => ?_)
    · refine Bool.eq_iff_iff.mpr ⟨subjectHasPortal_mono (fun p => (hsame.portals p).mp) hroles, ?_⟩
      exact subjectHasPortal_mono (fun p => (hsame.portals p).mpr) hroles'
    · exact ⟨covers_mono fun p => (hsame.deniedPermissions p).mp, covers_mono fun p => (hsame.deniedPermissions p).mpr⟩
    · exact ⟨covers_mono (grants_mono hpermissions hroles), covers_mono (grants_mono hpermissions' hroles')⟩

end TwoSubjects

section Sample

attribute [local instance] asciiLibrary

/-- A reader of posts who also has every permission. -/
def Sample.reader : Subject := ⟨"u1", "erg", [], ["posts.read", "*"], [], []⟩

/-- The same reader with the permissions in the other order. -/
def Sample.reordered : Subject := { Sample.reader with permissions := ["*", "posts.read"] }

def Sample.reading : Request := { subject := Sample.reader, resource := { permission := "posts.read" } }

lemma Sample.reordered_same : Sample.reordered.SameEntries Sample.reader := by
  refine ⟨rfl, rfl, fun _ => .rfl, fun permission => ?_, fun _ => .rfl, fun _ => .rfl⟩
  simp only [Sample.reordered, Sample.reader, List.mem_cons, List.not_mem_nil, or_false]
  exact or_comm

lemma Sample.reader_allowed : (decide Sample.reading).allowed := by decide

theorem decide_monotone_sample : Sample.reordered.SameEntries Sample.reader ∧
    (decide { Sample.reading with subject := Sample.reordered }).Agrees (decide Sample.reading) ∧
    (decide { Sample.reading with subject := { Sample.reader with roles := ["teacher"] } }).allowed := by
  refine ⟨Sample.reordered_same, decide_monotone.2.1 Sample.reading _ Sample.reordered_same, ?_⟩
  refine decide_monotone.1 Sample.reading _ ?_ Sample.reader_allowed
  exact ⟨rfl, rfl, List.nil_subset _, List.Subset.refl _, List.Subset.refl _, List.Subset.refl _⟩

/-- The permission named as the match is the first one that matches. -/
theorem order_shows_in_match : Sample.reordered.SameEntries Sample.reading.subject ∧
    decide { Sample.reading with subject := Sample.reordered } ≠ decide Sample.reading := by
  exact ⟨Sample.reordered_same, by decide⟩

end Sample

end ErgGo.AccessControl.Policy
