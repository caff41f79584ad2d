import ErgGo.Lib.Paging
import ErgGo.Lms.AccessSaves

/-!
# Pages of access scopes

An actor who manages access lists the scopes policies can be assigned in, page by page. The units
of the tenant are paged first; of each page the units outside the managed center are left out, and
what is left is counted.
-/

namespace ErgGo.Lms
open Go Documents

structure AccessScopeList where
  items : List AccessScopeOption
  total : ℤ
  page : ℤ
  limit : ℤ

def systemAccessScopeOption : AccessScopeOption :=
  ⟨"system", "system", "Hệ thống ERG", "System", "shield",
    "Quản lý toàn hệ thống, trung tâm, trường học, lớp và phân quyền."⟩

section Scopes

variable [Library]

def accessScopeOptionForCenter (scopeType : String) (center : Center) : AccessScopeOption :=
  ⟨scopeType, center.id.hex, center.name, scopeBadge (centerType center), scopeIcon (centerType center),
    hierarchyScopeDescription scopeType center.name⟩

/-- The filter of a manager's list: of the centers the managed one, of the schools its own. -/
def manageable (managedCenterID scopeType : String) (center : Center) : Bool :=
  managedCenterID = "" || (scopeType ≠ "center" || center.id.hex = managedCenterID) &&
    (scopeType ≠ "school" || center.parentID.hex = managedCenterID)

def accessPageSize (limit : ℤ) : ℤ := if limit ≤ 0 ∨ limit > 50 then 20 else limit

def Service.listAccessScopes [MongoServer] (b : Backend) (r : Roster) (tenantID : String) (actor : Actor)
    (scopeType search : String) (page limit : ℤ) : Except LmsError AccessScopeList := do
  let managedCenterID ← requireManagedCenter b r tenantID actor
  let scopeType := toLower (trimSpace scopeType)
  let scopeType := if scopeType = "" then "center" else scopeType
  let page := if page < 1 then 1 else page
  let limit := accessPageSize limit
  if scopeType ≠ "system" ∧ scopeType ≠ "center" ∧ scopeType ≠ "school" then
    throw (.invalidAccessPolicy "unsupported scope type")
  else if scopeType = "system" then
    let items := if actor.canAccessGlobal then [systemAccessScopeOption] else []
    return ⟨items, items.length, page, limit⟩
  else
    let reqType := if scopeType = "school" then "school" else "center"
    let (centers, total) ← r.listCenters b tenantID
      { keyword := search, type := reqType, page := page, limit := limit } ""
    let items := (centers.filter (manageable managedCenterID scopeType)).map (accessScopeOptionForCenter scopeType)
    return ⟨items, if managedCenterID ≠ "" then items.length else total, page, limit⟩

/-! ## What the pages should show -/

/-- The managed center itself, or one of its schools. -/
def Manages (managedCenterID scopeType : String) (unit : Center) : Prop :=
  if scopeType = "school" then centerType unit = "school" ∧ unit.parentID.hex = managedCenterID
  else unit.id.hex = managedCenterID

/-- The units of the tenant that the store lists under a type. -/
def Roster.unitsOfType (r : Roster) (b : Backend) (tenantID scopeType : String) : List Center :=
  r.centers.docs.filter (fun center => center.tenantID = tenantID && centerTypeMatches b center scopeType)

/-- The ids of the first `n` pages. -/
def listedIDs (pages : ℕ → AccessScopeList) (n : ℕ) : List String :=
  (List.range n).flatMap (fun k => (pages k).items.map AccessScopeOption.scopeID)

/-- From the first to the last page of a list of scopes each managed unit is shown once, and each
page tells how many there are. -/
structure PagesComplete (r : Roster) (tenantID managedCenterID scopeType : String) (pages : ℕ → AccessScopeList)
    (n : ℕ) : Prop where
  once : (listedIDs pages n).Nodup
  exact_ : ∀ id, id ∈ listedIDs pages n ↔
    ∃ unit ∈ r.centers.docs, unit.tenantID = tenantID ∧ Manages managedCenterID scopeType unit ∧ unit.id.hex = id
  totals : ∀ k < n, (pages k).total = (listedIDs pages n).length

section Listing

variable [MongoServer]

/-- The pages of both types of scopes are complete. -/
def ListsManaged (b : Backend) (r : Roster) (tenantID : String) (actor : Actor) (managedCenterID : String) (limit : ℤ) :
    Prop :=
  ∀ scopeType ∈ ["center", "school"], ∃ pages : ℕ → AccessScopeList,
    let n := Paging.pages (accessPageSize limit).toNat (r.unitsOfType b tenantID scopeType).length
    (∀ k < n, Service.listAccessScopes b r tenantID actor scopeType "" (k + 1) limit = .ok (pages k)) ∧
      PagesComplete r tenantID managedCenterID scopeType pages n

end Listing

section Pages

omit [Library] in
/-- A page of listed items, as long as its number does not overflow. -/
lemma pageItems_page {α : Type} (b : Backend) {items : List α} {limit k : ℕ} (hlimit : 0 < limit) (hsize : limit ≤ 100)
    (hstart : k * limit ≤ items.length) (hitems : items.length < 2 ^ 63) :
    pageItems b items (k + 1) limit = .ok (Paging.page (k * limit) limit items, (items.length : ℤ)) := by
  have hpaged : paged (k + 1) limit = (((k * limit : ℕ) : ℤ), (limit : ℤ)) := by
    unfold paged wrapInt64
    rw [if_neg (by omega), if_neg (by omega)]
    dsimp only
    rw [add_sub_cancel_right, ← Nat.cast_mul, Int.bmod_eq_of_le] <;> omega
  unfold pageItems
  simp only [hpaged]
  cases b with
  | memory =>
    dsimp only
    rw [if_neg (by omega), if_neg (by omega), Int.toNat_natCast]
    refine congrArg (fun page => Except.ok (page, (items.length : ℤ))) ?_
    unfold Paging.page
    split
    · rw [List.take_of_length_le (by rw [List.length_drop]; omega),
        List.take_of_length_le (by rw [List.length_drop]; omega)]
    · rw [add_sub_cancel_left, Int.toNat_natCast]
  | mongo =>
    dsimp only
    rw [if_neg (by omega), Int.toNat_natCast, Int.toNat_natCast]
    rfl

omit [Library] in
lemma accessPageSize_bounds (limit : ℤ) : 0 < accessPageSize limit ∧ accessPageSize limit ≤ 50 := by
  unfold accessPageSize
  split <;> omega

lemma toLower_eq_self {s : String} (h : ∀ c ∈ s.toList, c.val < 0x80 ∧ c.toLower = c) : toLower s = s := by
  have hmap : s.toList.map Library.toLower = s.toList := by
    refine (List.map_congr_left fun c hc => ?_).trans (List.map_id _)
    exact (Library.toLower_ascii c (h c hc).1).trans (h c hc).2
  rw [toLower, hmap, String.ofList_toList]

lemma normalized_school : toLower (trimSpace "school") = "school" := by
  have htrim : trimSpace "school" = "school" := by decide
  rw [htrim]
  exact toLower_eq_self (by decide)

lemma normalized_center : toLower (trimSpace "center") = "center" := by
  have htrim : trimSpace "center" = "center" := by decide
  rw [htrim]
  exact toLower_eq_self (by decide)

variable [MongoServer] {b : Backend} {r : Roster} {tenantID managedCenterID scopeType : String} {actor : Actor}

/-- The units in the order in which they are listed. -/
def sortedUnits (b : Backend) (r : Roster) (tenantID scopeType : String) : List Center :=
  Library.sortSlice (fun a c => a.name < c.name) (r.unitsOfType b tenantID scopeType)

omit [MongoServer] in
lemma length_sortedUnits : (sortedUnits b r tenantID scopeType).length = (r.unitsOfType b tenantID scopeType).length :=
  (Library.sortSlice_perm _ _).length_eq

lemma listCenters_page (hscope : scopeType ≠ "") {limit k : ℕ} (hlimit : 0 < limit) (hsize : limit ≤ 100)
    (hstart : k * limit ≤ (r.unitsOfType b tenantID scopeType).length) (hcount : r.centers.docs.length < 2 ^ 63) :
    r.listCenters b tenantID { type := scopeType, page := k + 1, limit := limit } "" =
      .ok (Paging.page (k * limit) limit (sortedUnits b r tenantID scopeType),
        ((sortedUnits b r tenantID scopeType).length : ℤ)) := by
  have hunits : (r.unitsOfType b tenantID scopeType).length < 2 ^ 63 := lt_of_le_of_lt (List.length_filter_le ..) hcount
  obtain ⟨textMatches, hmatcher⟩ := keywordMatcher_empty b
  unfold Roster.listCenters
  rw [hmatcher]
  have hfilter : (fun center : Center => decide (center.tenantID = tenantID) &&
      (decide (("" : String) = "") || decide (center.status = "")) &&
      (decide (scopeType = "") || centerTypeMatches b center scopeType) &&
      (decide (("" : String) = "") || decide (center.managerUserID = "")) &&
      (decide (("" : String) = "") || textMatches center.name || textMatches center.code)) =
      fun center => decide (center.tenantID = tenantID) && centerTypeMatches b center scopeType := by
    funext center
    simp [hscope]
  dsimp only [bind, Except.bind]
  rw [hfilter]
  exact pageItems_page b hlimit hsize (by rw [← length_sortedUnits] at hstart; exact hstart)
    (by rw [← length_sortedUnits] at hunits; exact hunits)

/-- The page after `k` others: what is manageable of a page of units, and how many of these there are. -/
def shownPage (b : Backend) (r : Roster) (tenantID managedCenterID scopeType : String) (limit : ℤ) (k : ℕ) :
    AccessScopeList :=
  let size := (accessPageSize limit).toNat
  let shown := (Paging.page (k * size) size (sortedUnits b r tenantID scopeType)).filter
    (manageable managedCenterID scopeType)
  ⟨shown.map (accessScopeOptionForCenter scopeType), shown.length, k + 1, accessPageSize limit⟩

lemma listAccessScopes_page (hmanager : Service.requireManagedCenter b r tenantID actor = .ok managedCenterID)
    (hmanaged : managedCenterID ≠ "") (hscope : scopeType ∈ ["center", "school"])
    (hcount : r.centers.docs.length < 2 ^ 63) {limit : ℤ} {k : ℕ}
    (hk : k < Paging.pages (accessPageSize limit).toNat (r.unitsOfType b tenantID scopeType).length) :
    Service.listAccessScopes b r tenantID actor scopeType "" (k + 1) limit =
      .ok (shownPage b r tenantID managedCenterID scopeType limit k) := by
  obtain ⟨hpos, hle⟩ := accessPageSize_bounds limit
  have hnormalized : toLower (trimSpace scopeType) = scopeType := by
    obtain rfl | rfl := by simpa using hscope
    · exact normalized_center
    · exact normalized_school
  have hnonempty : scopeType ≠ "" := by
    rintro rfl
    simp at hscope
  have htype : (if scopeType = "school" then "school" else "center") = scopeType := by
    obtain rfl | rfl := by simpa using hscope
    · rfl
    · rfl
  have hpage : r.listCenters b tenantID
      { type := scopeType, page := k + 1, limit := ((accessPageSize limit).toNat : ℤ) } "" = _ :=
    listCenters_page hnonempty (by omega) (by omega) (Paging.start_le_of_lt_pages (by omega) hk) hcount
  have hsystem : scopeType ≠ "system" := by
    rintro rfl
    simp at hscope
  have hsupported : ¬(scopeType ≠ "system" ∧ scopeType ≠ "center" ∧ scopeType ≠ "school") := by
    rintro ⟨-, hcenter, hschool⟩
    simp [hcenter, hschool] at hscope
  rw [Int.toNat_of_nonneg hpos.le] at hpage
  unfold Service.listAccessScopes
  rw [hmanager]
  dsimp only [bind, Except.bind]
  rw [hnormalized, if_neg hnonempty, if_neg (by omega : ¬((k : ℤ) + 1 < 1)), htype, hpage, if_neg hsupported,
    if_neg hsystem]
  dsimp only [pure, Except.pure]
  rw [if_pos hmanaged, List.length_map]
  rfl

omit [Library] [MongoServer] in
lemma manages_unique {unit unit' : Center} (hunit : unit ∈ r.centers.docs) (hunit' : unit' ∈ r.centers.docs)
    (h : unit.id.hex = unit'.id.hex) : unit = unit' :=
  List.inj_on_of_nodup_map r.centers.nodup hunit hunit' (ObjectID.hex_injective h)

omit [Library] [MongoServer] in
lemma manageable_iff (hmanaged : managedCenterID ≠ "") (hscope : scopeType ∈ ["center", "school"]) (unit : Center) :
    manageable managedCenterID scopeType unit ↔
      if scopeType = "school" then unit.parentID.hex = managedCenterID else unit.id.hex = managedCenterID := by
  unfold manageable
  obtain rfl | rfl := by simpa using hscope
  · simp [hmanaged]
  · simp [hmanaged]

omit [MongoServer] in
lemma school_of_matches {unit : Center} (h : centerTypeMatches b unit "school") : centerType unit = "school" := by
  unfold centerTypeMatches at h
  cases b with
  | memory => simpa only [decide_eq_true_eq] using h
  | mongo =>
    have htype : unit.type = "school" := by simpa using h
    unfold centerType normalizeEducationUnitType
    rw [htype, normalized_school]
    rfl

omit [MongoServer] in
/-- What is manageable of a list of units is managed. -/
lemma listed_iff (hmanaged : managedCenterID ≠ "") (hscope : scopeType ∈ ["center", "school"]) (unit : Center) :
    centerTypeMatches b unit scopeType ∧ manageable managedCenterID scopeType unit ↔
      centerTypeMatches b unit scopeType ∧ Manages managedCenterID scopeType unit := by
  refine and_congr_right fun hmatches => ?_
  rw [manageable_iff hmanaged hscope]
  unfold Manages
  split
  · next hschool =>
    subst hschool
    exact ⟨fun h => ⟨school_of_matches hmatches, h⟩, And.right⟩
  · exact Iff.rfl

/-- The units on the pages, in the order of the list. -/
def managedUnits (b : Backend) (r : Roster) (tenantID managedCenterID scopeType : String) : List Center :=
  (sortedUnits b r tenantID scopeType).filter (manageable managedCenterID scopeType)

omit [MongoServer] in
lemma mem_managedUnits (hmanaged : managedCenterID ≠ "") (hscope : scopeType ∈ ["center", "school"]) {unit : Center} :
    unit ∈ managedUnits b r tenantID managedCenterID scopeType ↔ unit ∈ r.centers.docs ∧ unit.tenantID = tenantID ∧
      centerTypeMatches b unit scopeType ∧ Manages managedCenterID scopeType unit := by
  rw [← listed_iff hmanaged hscope]
  unfold managedUnits sortedUnits
  rw [List.mem_filter, (Library.sortSlice_perm _ _).mem_iff, Roster.unitsOfType, List.mem_filter, Bool.and_eq_true,
    decide_eq_true_eq]
  tauto

omit [MongoServer] in
lemma nodup_managedUnits :
    ((managedUnits b r tenantID managedCenterID scopeType).map (fun unit => unit.id.hex)).Nodup := by
  have hdocs : (r.centers.docs.map (fun unit => unit.id.hex)).Nodup := by
    have hids := r.centers.nodup.map ObjectID.hex_injective
    rwa [List.map_map] at hids
  have hsorted : ((sortedUnits b r tenantID scopeType).map (fun unit => unit.id.hex)).Nodup := by
    refine (((Library.sortSlice_perm _ _).map _).nodup_iff).mpr ?_
    exact hdocs.sublist (List.filter_sublist.map _)
  exact hsorted.sublist (List.filter_sublist.map _)

omit [Library] [MongoServer] in
lemma listedIDs_congr {pages₁ pages₂ : ℕ → AccessScopeList} {n : ℕ} (h : ∀ k < n, pages₁ k = pages₂ k) :
    listedIDs pages₁ n = listedIDs pages₂ n := by
  unfold listedIDs
  refine List.flatMap_congr fun k hk => ?_
  rw [h k (List.mem_range.mp hk)]

omit [MongoServer] in
lemma PagesComplete.congr {pages₁ pages₂ : ℕ → AccessScopeList} {n : ℕ} (h : ∀ k < n, pages₁ k = pages₂ k)
    (hpages : PagesComplete r tenantID managedCenterID scopeType pages₁ n) :
    PagesComplete r tenantID managedCenterID scopeType pages₂ n where
  once := listedIDs_congr h ▸ hpages.once
  exact_ := listedIDs_congr h ▸ hpages.exact_
  totals k hk := listedIDs_congr h ▸ h k hk ▸ hpages.totals k hk

omit [MongoServer] in
lemma listedIDs_shownPage (limit : ℤ) :
    listedIDs (shownPage b r tenantID managedCenterID scopeType limit)
        (Paging.pages (accessPageSize limit).toNat (r.unitsOfType b tenantID scopeType).length) =
      (managedUnits b r tenantID managedCenterID scopeType).map (fun unit => unit.id.hex) := by
  obtain ⟨hpos, -⟩ := accessPageSize_bounds limit
  have hpages : (List.range _).flatMap _ = sortedUnits b r tenantID scopeType :=
    Paging.flatMap_pages (by omega : 0 < (accessPageSize limit).toNat) _
  unfold managedUnits
  rw [← hpages, List.filter_flatMap, List.map_flatMap, length_sortedUnits]
  unfold listedIDs shownPage
  refine List.flatMap_congr fun k _ => ?_
  rw [List.map_map]
  rfl

omit [MongoServer] in
lemma totals_iff (limit : ℤ) :
    (∀ k < Paging.pages (accessPageSize limit).toNat (r.unitsOfType b tenantID scopeType).length,
        (shownPage b r tenantID managedCenterID scopeType limit k).total =
          (managedUnits b r tenantID managedCenterID scopeType).length) ↔
      (r.unitsOfType b tenantID scopeType).length ≤ (accessPageSize limit).toNat ∨
        managedUnits b r tenantID managedCenterID scopeType = [] := by
  obtain ⟨hpos, -⟩ := accessPageSize_bounds limit
  have hcount := Paging.countP_pages_iff (manageable managedCenterID scopeType)
    (by omega : 0 < (accessPageSize limit).toNat) (sortedUnits b r tenantID scopeType)
  rw [length_sortedUnits] at hcount
  have hnone : managedUnits b r tenantID managedCenterID scopeType = [] ↔
      (sortedUnits b r tenantID scopeType).countP (manageable managedCenterID scopeType) = 0 := by
    rw [List.countP_eq_length_filter, List.length_eq_zero_iff]
    rfl
  rw [hnone, ← hcount]
  refine forall_congr' fun k => imp_congr_right fun _ => ?_
  unfold shownPage managedUnits
  rw [List.countP_eq_length_filter, List.countP_eq_length_filter]
  exact Nat.cast_inj

omit [MongoServer] in
/-- The pages of one type of scopes are complete exactly if the store finds the managed units under
the type, and there is one page only or no managed unit. -/
lemma pagesComplete_iff (hmanaged : managedCenterID ≠ "") (hscope : scopeType ∈ ["center", "school"]) (limit : ℤ) :
    PagesComplete r tenantID managedCenterID scopeType (shownPage b r tenantID managedCenterID scopeType limit)
        (Paging.pages (accessPageSize limit).toNat (r.unitsOfType b tenantID scopeType).length) ↔
      (∀ unit ∈ r.centers.docs, unit.tenantID = tenantID → Manages managedCenterID scopeType unit →
        centerTypeMatches b unit scopeType) ∧
      ((r.unitsOfType b tenantID scopeType).length ≤ (accessPageSize limit).toNat ∨
        ∀ unit ∈ r.centers.docs, unit.tenantID = tenantID → ¬Manages managedCenterID scopeType unit) := by
  have hlength : (listedIDs (shownPage b r tenantID managedCenterID scopeType limit)
      (Paging.pages (accessPageSize limit).toNat (r.unitsOfType b tenantID scopeType).length)).length =
        (managedUnits b r tenantID managedCenterID scopeType).length := by
    rw [listedIDs_shownPage, List.length_map]
  constructor
  · intro h
    have hfound : ∀ unit ∈ r.centers.docs, unit.tenantID = tenantID → Manages managedCenterID scopeType unit →
        unit ∈ managedUnits b r tenantID managedCenterID scopeType := by
      intro unit hunit htenant hmanages
      have hlisted := (h.exact_ unit.id.hex).mpr ⟨unit, hunit, htenant, hmanages, rfl⟩
      rw [listedIDs_shownPage] at hlisted
      obtain ⟨unit', hunit', hid⟩ := List.mem_map.mp hlisted
      obtain rfl := manages_unique ((mem_managedUnits hmanaged hscope).mp hunit').1 hunit hid
      exact hunit'
    refine ⟨fun unit hunit htenant hmanages => ?_, ?_⟩
    · exact ((mem_managedUnits hmanaged hscope).mp (hfound unit hunit htenant hmanages)).2.2.1
    · have htotals := (totals_iff limit).mp fun k hk => (h.totals k hk).trans (congrArg Nat.cast hlength)
      refine htotals.imp_right fun hnone unit hunit htenant hmanages => ?_
      exact List.not_mem_nil (hnone ▸ hfound unit hunit htenant hmanages)
  · rintro ⟨htypes, hpage⟩
    refine ⟨?_, fun id => ?_, fun k hk => ?_⟩
    · rw [listedIDs_shownPage]
      exact nodup_managedUnits
    · rw [listedIDs_shownPage, List.mem_map]
      constructor
      · rintro ⟨unit, hunit, hid⟩
        obtain ⟨hstored, htenant, -, hmanages⟩ := (mem_managedUnits hmanaged hscope).mp hunit
        exact ⟨unit, hstored, htenant, hmanages, hid⟩
      · rintro ⟨unit, hunit, htenant, hmanages, hid⟩
        have hmatches := htypes unit hunit htenant hmanages
        exact ⟨unit, (mem_managedUnits hmanaged hscope).mpr ⟨hunit, htenant, hmatches, hmanages⟩, hid⟩
    · rw [hlength]
      refine (totals_iff limit).mpr (hpage.imp_right fun hnone => ?_) k hk
      refine List.eq_nil_iff_forall_not_mem.mpr fun unit hunit => ?_
      obtain ⟨hstored, htenant, -, hmanages⟩ := (mem_managedUnits hmanaged hscope).mp hunit
      exact hnone unit hstored htenant hmanages

/-- The managed units of each type are found under it, and all units of the type fit on one page
unless none is managed. -/
def OnOnePage (b : Backend) (r : Roster) (tenantID managedCenterID : String) (limit : ℤ) : Prop :=
  ∀ scopeType ∈ ["center", "school"],
    (∀ unit ∈ r.centers.docs, unit.tenantID = tenantID → Manages managedCenterID scopeType unit →
      centerTypeMatches b unit scopeType) ∧
    ((r.unitsOfType b tenantID scopeType).length ≤ (accessPageSize limit).toNat ∨
      ∀ unit ∈ r.centers.docs, unit.tenantID = tenantID → ¬Manages managedCenterID scopeType unit)

lemma onOnePage_of_listsManaged (hmanager : Service.requireManagedCenter b r tenantID actor = .ok managedCenterID)
    (hmanaged : managedCenterID ≠ "") (hcount : r.centers.docs.length < 2 ^ 63) {limit : ℤ}
    (h : ListsManaged b r tenantID actor managedCenterID limit) : OnOnePage b r tenantID managedCenterID limit := by
  intro scopeType hscope
  obtain ⟨pages, hpages, hcomplete⟩ := h scopeType hscope
  refine (pagesComplete_iff hmanaged hscope limit).mp (hcomplete.congr fun k hk => ?_)
  exact Except.ok.inj ((hpages k hk).symm.trans (listAccessScopes_page hmanager hmanaged hscope hcount hk))

/-- The pages of a manager's list are complete exactly if there is one page to show. The number of
stored units is an `int`. -/
theorem listsManaged_iff (hmanager : Service.requireManagedCenter b r tenantID actor = .ok managedCenterID)
    (hmanaged : managedCenterID ≠ "") (hcount : r.centers.docs.length < 2 ^ 63) (limit : ℤ) :
    ListsManaged b r tenantID actor managedCenterID limit ↔ OnOnePage b r tenantID managedCenterID limit := by
  refine ⟨onOnePage_of_listsManaged hmanager hmanaged hcount, fun h scopeType hscope => ?_⟩
  refine ⟨shownPage b r tenantID managedCenterID scopeType limit, fun k hk => ?_, ?_⟩
  · exact listAccessScopes_page hmanager hmanaged hscope hcount hk
  · exact (pagesComplete_iff hmanaged hscope limit).mpr (h scopeType hscope)

end Pages

end Scopes

section Sample

attribute [local instance] asciiLibrary Sample.server

/-- `boss` manages center 1 and its school, which the store finds under their types. -/
lemma Sample.boss_manages : (Sample.id 1).hex ≠ "" ∧
    Service.requireManagedCenter .memory Sample.centers "erg" ⟨"boss", []⟩ = .ok (Sample.id 1).hex ∧
    (Sample.centers.unitsOfType .memory "erg" "center").length = 2 ∧
    (Sample.centers.unitsOfType .memory "erg" "school").length = 1 ∧
    ∀ scopeType ∈ ["center", "school"], ∀ unit ∈ Sample.centers.centers.docs, unit.tenantID = "erg" →
      Manages (Sample.id 1).hex scopeType unit → centerTypeMatches .memory unit scopeType := by
  unfold Manages
  decide

/-- On pages of 20 `boss` sees center 1 and its school. -/
theorem listsManaged_sample : ListsManaged .memory Sample.centers "erg" ⟨"boss", []⟩ (Sample.id 1).hex 20 := by
  obtain ⟨hne, hmanager, hcenters, hschools, htyped⟩ := Sample.boss_manages
  refine (listsManaged_iff hmanager hne (by decide) 20).mpr ?_
  intro scopeType hscope
  refine ⟨htyped scopeType hscope, .inl ?_⟩
  obtain rfl | rfl := by simpa using hscope
  · rw [hcenters]
    decide
  · rw [hschools]
    decide

/-- On pages of one unit the second page of centers tells `boss` that there is none. -/
theorem second_page_counts_none : ¬ListsManaged .memory Sample.centers "erg" ⟨"boss", []⟩ (Sample.id 1).hex 1 := by
  intro h
  obtain ⟨hne, hmanager, hcenters, -⟩ := Sample.boss_manages
  obtain ⟨-, hpage⟩ := onOnePage_of_listsManaged hmanager hne (by decide) h "center" (by simp)
  obtain hshort | hnone := hpage
  · rw [hcenters] at hshort
    revert hshort
    decide
  · refine hnone { id := Sample.id 1, tenantID := "erg", managerUserID := "boss" } ?_ rfl ?_
    · exact List.mem_cons_self
    · rw [Manages, if_neg (by decide)]

end Sample

end ErgGo.Lms
