import ErgGo.Hoclieu.Entities
import ErgGo.Lib.Paging
import Mathlib.Algebra.Order.Group.Int
import Mathlib.Data.List.Sort

/-!
# Listing the resources

`ListResources` shows the public resources that match its parameters, newest first and page by
page. It has two paths: the resources in memory are filtered and then cut into pages, while what
the repository returns is a page already, of which only the public resources are kept.
-/

namespace ErgGo.Hoclieu
open Go

structure ListResourceParams where
  gradeID : String := ""
  subjectID : String := ""
  categoryID : String := ""
  sectionID : String := ""
  bookSeriesID : String := ""
  topicID : String := ""
  levelID : String := ""
  documentTypeID : String := ""
  programSlug : String := ""
  fileType : AssetFileType := .other ""
  query : String := ""
  page : ℤ := 0
  limit : ℤ := 0

/-- Arithmetic of `int`. -/
def int64 (x : ℤ) : ℤ := Int.bmod x (2 ^ 64)

namespace ListResourceParams

def pageNumber (params : ListResourceParams) : ℤ := if params.page < 1 then 1 else params.page

def pageSize (params : ListResourceParams) : ℕ :=
  if params.limit ≤ 0 ∨ 100 < params.limit then 20 else params.limit.toNat

def start (params : ListResourceParams) : ℤ := int64 ((params.pageNumber - 1) * params.pageSize)

/-- The same request for the page `page`. -/
def atPage (params : ListResourceParams) (page : ℤ) : ListResourceParams := { params with page := page }

end ListResourceParams

def isPublicSubjectID (subjectID : String) : Bool := trimSpace subjectID = "ic3-gs6"

def ResourceDetail.isPublic (resource : ResourceDetail) : Bool := isPublicSubjectID resource.subjectID

section Listing

variable [Library]

/-- What the parameters ask of a resource, public or not. -/
def matchesParams (params : ListResourceParams) (resource : ResourceDetail) : Bool :=
  let query := toLower (trimSpace params.query)
  (params.gradeID = "" || resource.gradeID = params.gradeID) &&
  (params.subjectID = "" || resource.subjectID = params.subjectID) &&
  (params.categoryID = "" || resource.categoryID = params.categoryID) &&
  (params.sectionID = "" || resource.sectionID = params.sectionID) &&
  (params.bookSeriesID = "" || resource.bookSeriesID = params.bookSeriesID) &&
  (params.topicID = "" || resource.topicID = params.topicID) &&
  (params.levelID = "" || resource.levelID = params.levelID) &&
  (params.documentTypeID = "" || resource.documentTypeID = params.documentTypeID) &&
  (params.programSlug = "" || resource.programSlug = params.programSlug) &&
  (!params.fileType.valid || resource.selectedFileType = params.fileType) &&
  (query = "" || contains (toLower (resource.title ++ " " ++ resource.subtitle ++ " " ++ resource.description)) query)

def publicMatch (params : ListResourceParams) (resource : ResourceDetail) : Bool :=
  resource.isPublic && matchesParams params resource

/-- Sorted by `UpdatedAt`, the last one first. -/
def newestFirst {α : Type} (updatedAt : α → Time) (items : List α) : List α :=
  sortSliceStable (fun a b => updatedAt b < updatedAt a) items

/-- The page `items[start:end]`; `none` is the panic of a slice expression out of range. -/
def cutPage {α : Type} (params : ListResourceParams) (items : List α) : Option (List α) :=
  let start := params.start
  if start ≥ items.length then some []
  else
    let stop := int64 (start + params.pageSize)
    let stop := if stop > items.length then (items.length : ℤ) else stop
    if start < 0 ∨ stop < start then none
    else some ((items.drop start.toNat).take (stop - start).toNat)

/-- A repository's `ListResources`, for the tenant of the request. -/
abbrev ResourceRepository := ListResourceParams → Except String (List ResourceDetail × ℤ)

def listFromMemory (resources : List ResourceDetail) (params : ListResourceParams) : Option (List ResourceCard × ℤ) :=
  let items := (resources.filter (publicMatch params)).map (·.toResourceCard)
  let items := newestFirst ResourceCard.updatedAt items
  (cutPage params items).map fun cards => (cards, items.length)

/-- With a repository, the resources in memory are listed only after an error; `resources` is in the
order in which the map's `range` visits them. -/
def listResources (repo : Option ResourceRepository) (resources : List ResourceDetail) (params : ListResourceParams) :
    Option (List ResourceCard × ℤ) :=
  match repo.bind fun repo => (repo params).toOption with
  | some (found, _) =>
    let items := (found.filter ResourceDetail.isPublic).map (·.toResourceCard)
    some (items, items.length)
  | none => listFromMemory resources params

/-- All that match, public or not. -/
def allMatches (stored : List ResourceDetail) (params : ListResourceParams) : List ResourceDetail :=
  newestFirst (·.updatedAt) (stored.filter (matchesParams params))

/-- A repository that holds `stored`, with the filter and the paging of the resources in memory. A
page that starts before the first document is an error. -/
def repositoryOf (stored : List ResourceDetail) : ResourceRepository := fun params =>
  match cutPage params (allMatches stored params) with
  | some docs => .ok (docs, (allMatches stored params).length)
  | none => .error "skip must not be negative"

/-! ## What the listing must do -/

/-- As many pages as hold all the resources that match, public or not. -/
def pageCount (resources : List ResourceDetail) (params : ListResourceParams) : ℕ :=
  ((resources.filter (matchesParams params)).length + params.pageSize - 1) / params.pageSize

/-- The pages of `list` put together are the matching public resources, each once. -/
def YieldsOnce (resources : List ResourceDetail) (params : ListResourceParams)
    (list : ListResourceParams → Option (List ResourceCard × ℤ)) : Prop :=
  ∃ pages : ℕ → List ResourceCard,
    (∀ i < pageCount resources params, ∃ total, list (params.atPage (i + 1)) = some (pages i, total)) ∧
    ((List.range (pageCount resources params)).flatMap pages).Perm
      ((resources.filter (publicMatch params)).map (·.toResourceCard))

/-- Both paths return the same, and the pages of either are complete. -/
structure ListingAgrees (resources stored : List ResourceDetail) (params : ListResourceParams) : Prop where
  same : ∃ cards total, listResources none resources params = some (cards, total) ∧
    listResources (some (repositoryOf stored)) resources params = some (cards, total)
  memoryPages : YieldsOnce resources params (listResources none resources)
  repositoryPages : YieldsOnce resources params (listResources (some (repositoryOf stored)) resources)

/-- The page does not start before the first resource, and either nothing public matches, or the first
page is asked for and each public match has fewer than a page of newer matches. -/
structure PagedAlike (resources : List ResourceDetail) (params : ListResourceParams) : Prop where
  start_nonneg : 0 ≤ params.start
  onFirstPage : resources.filter (publicMatch params) = [] ∨ params.start = 0 ∧
    ∀ r ∈ resources.filter (publicMatch params),
      (resources.filter (matchesParams params)).countP (fun s => r.updatedAt < s.updatedAt) < params.pageSize

end Listing

/-! ## Sorting -/

section Sorting

variable {α : Type} {updatedAt : α → Time} {items : List α}

lemma newestFirst_perm : (newestFirst updatedAt items).Perm items := sortSliceStable_perm _ items

lemma newestFirst_pairwise (htimes : (items.map updatedAt).Nodup) :
    (newestFirst updatedAt items).Pairwise (fun a b => updatedAt b < updatedAt a) := by
  have hle : ∀ {a b : α}, ¬decide (updatedAt a < updatedAt b) ↔ updatedAt b ≤ updatedAt a := by
    intro a b
    rw [decide_eq_true_eq, not_lt]
  have htotal : Std.Total (fun a b : α => ¬decide (updatedAt a < updatedAt b)) :=
    ⟨fun a b => (le_total (updatedAt b) (updatedAt a)).imp hle.mpr hle.mpr⟩
  have htrans : IsTrans α (fun a b : α => ¬decide (updatedAt a < updatedAt b)) :=
    ⟨fun a b c hab hbc => hle.mpr ((hle.mp hbc).trans (hle.mp hab))⟩
  have hsorted : (newestFirst updatedAt items).Pairwise (fun a b => ¬decide (updatedAt a < updatedAt b)) :=
    items.pairwise_insertionSort _
  have hdistinct : (newestFirst updatedAt items).Pairwise (fun a b => updatedAt a ≠ updatedAt b) :=
    List.pairwise_map.mp ((newestFirst_perm.map updatedAt).nodup_iff.mpr htimes)
  exact (hsorted.and hdistinct).imp fun h => lt_of_le_of_ne (hle.mp h.1) h.2.symm

/-- Resources of distinct times have one order. -/
lemma newestFirst_eq (htimes : (items.map updatedAt).Nodup) {l : List α} (hperm : l.Perm items)
    (hsorted : l.Pairwise (fun a b => updatedAt b < updatedAt a)) : newestFirst updatedAt items = l :=
  (newestFirst_perm.trans hperm.symm).eq_of_pairwise (fun _ _ _ _ hab hba => absurd hab hba.asymm)
    (newestFirst_pairwise htimes) hsorted

lemma newestFirst_filter (htimes : (items.map updatedAt).Nodup) (p : α → Bool) :
    newestFirst updatedAt (items.filter p) = (newestFirst updatedAt items).filter p := by
  refine newestFirst_eq ?_ (newestFirst_perm.filter p) ((newestFirst_pairwise htimes).filter p)
  exact (List.filter_sublist.map updatedAt).nodup htimes

lemma newestFirst_map {β : Type} (htimes : (items.map updatedAt).Nodup) (f : α → β) (updatedAt' : β → Time)
    (hf : ∀ a, updatedAt' (f a) = updatedAt a) :
    newestFirst updatedAt' (items.map f) = (newestFirst updatedAt items).map f := by
  refine newestFirst_eq ?_ (newestFirst_perm.map f) ?_
  · rw [List.map_map]
    exact (List.map_congr_left fun a _ => hf a) ▸ htimes
  · refine List.pairwise_map.mpr ((newestFirst_pairwise htimes).imp fun h => ?_)
    rwa [hf, hf]

end Sorting

/-! ## Pages -/

section Pages

variable {α : Type} {params : ListResourceParams} {items : List α}

lemma pageSize_pos (params : ListResourceParams) : 0 < params.pageSize := by
  unfold ListResourceParams.pageSize
  split <;> omega

lemma pageSize_le (params : ListResourceParams) : params.pageSize ≤ 100 := by
  unfold ListResourceParams.pageSize
  split <;> omega

lemma int64_of_lt {x : ℤ} (hnonneg : 0 ≤ x) (hlt : x < 2 ^ 63) : int64 x = x := by
  unfold int64
  rw [Int.bmod_eq_of_le] <;> omega

lemma cutPage_eq (hstart : 0 ≤ params.start) (hlen : items.length + 100 < 2 ^ 63) :
    cutPage params items = some (Paging.page params.start.toNat params.pageSize items) := by
  have hsize := pageSize_le params
  unfold cutPage Paging.page
  dsimp only
  by_cases hend : params.start ≥ items.length
  · rw [if_pos hend, List.drop_eq_nil_of_le (by omega), List.take_nil]
  · have hstop : int64 (params.start + params.pageSize) = params.start + params.pageSize :=
      int64_of_lt (by omega) (by omega)
    rw [if_neg hend, hstop, if_neg (by split <;> omega)]
    refine congrArg some ?_
    split
    · rw [List.take_of_length_le (by rw [List.length_drop]; omega),
        List.take_of_length_le (by rw [List.length_drop]; omega)]
    · rw [add_sub_cancel_left, Int.toNat_natCast]

lemma cutPage_of_neg (hstart : params.start < 0) : cutPage params items = none := by
  unfold cutPage
  dsimp only
  rw [if_neg (by omega), if_pos (.inl hstart)]

@[simp] lemma pageSize_atPage (page : ℤ) : (params.atPage page).pageSize = params.pageSize := rfl

lemma start_atPage {i : ℕ} (h : i * params.pageSize < 2 ^ 63) :
    (params.atPage (i + 1)).start = (i * params.pageSize : ℕ) := by
  have hnumber : (params.atPage (i + 1)).pageNumber = i + 1 := by
    unfold ListResourceParams.pageNumber ListResourceParams.atPage
    exact if_neg (by dsimp only; omega)
  unfold ListResourceParams.start
  rw [hnumber, add_sub_cancel_right, pageSize_atPage]
  rw [← Nat.cast_mul]
  exact int64_of_lt (Int.natCast_nonneg _) (by exact_mod_cast h)

end Pages

/-! ## The two paths -/

section Paths

variable [Library] {resources stored : List ResourceDetail} {params : ListResourceParams}

/-- The public matches in memory are those of the repository, in the same order. -/
lemma newestFirst_publicMatch (hsame : stored.Perm resources) (htimes : (resources.map (·.updatedAt)).Nodup) :
    newestFirst (·.updatedAt) (resources.filter (publicMatch params)) =
      (allMatches stored params).filter ResourceDetail.isPublic := by
  have hstored : ((stored.filter (matchesParams params)).map (·.updatedAt)).Nodup :=
    (List.filter_sublist.map _).nodup ((hsame.map _).nodup_iff.mpr htimes)
  have hpublic : (stored.filter (matchesParams params)).filter ResourceDetail.isPublic =
      stored.filter (publicMatch params) := List.filter_filter
  rw [allMatches, ← newestFirst_filter hstored, hpublic]
  refine newestFirst_eq ((List.filter_sublist.map _).nodup htimes)
    (newestFirst_perm.trans (hsame.filter _)) (newestFirst_pairwise ?_)
  exact (List.filter_sublist.map _).nodup ((hsame.map _).nodup_iff.mpr htimes)

lemma listFromMemory_eq (hsame : stored.Perm resources) (htimes : (resources.map (·.updatedAt)).Nodup)
    (hlen : resources.length + 100 < 2 ^ 63) (hstart : 0 ≤ params.start) :
    listResources none resources params =
      some ((Paging.page params.start.toNat params.pageSize
          ((allMatches stored params).filter ResourceDetail.isPublic)).map (·.toResourceCard),
        (((allMatches stored params).filter ResourceDetail.isPublic).length : ℤ)) := by
  have hsorted : newestFirst ResourceCard.updatedAt
      ((resources.filter (publicMatch params)).map (·.toResourceCard)) =
        ((allMatches stored params).filter ResourceDetail.isPublic).map (·.toResourceCard) := by
    rw [newestFirst_map ((List.filter_sublist.map _).nodup htimes) _ _ fun _ => rfl,
      newestFirst_publicMatch hsame htimes]
  have hshort : (((allMatches stored params).filter ResourceDetail.isPublic).map
      (·.toResourceCard)).length ≤ resources.length := by
    rw [← hsorted, newestFirst_perm.length_eq, List.length_map]
    exact List.length_filter_le ..
  show listFromMemory resources params = _
  unfold listFromMemory
  dsimp only
  rw [hsorted, cutPage_eq hstart (by omega), Option.map_some, Paging.page_map, List.length_map]

lemma listFromRepository_eq (hsame : stored.Perm resources) (hlen : resources.length + 100 < 2 ^ 63)
    (hstart : 0 ≤ params.start) :
    listResources (some (repositoryOf stored)) resources params =
      some (((Paging.page params.start.toNat params.pageSize (allMatches stored params)).filter
          ResourceDetail.isPublic).map (·.toResourceCard),
        (((Paging.page params.start.toNat params.pageSize (allMatches stored params)).filter
          ResourceDetail.isPublic).length : ℤ)) := by
  have hshort : (allMatches stored params).length ≤ resources.length := by
    rw [allMatches, newestFirst_perm.length_eq, ← hsame.length_eq]
    exact List.length_filter_le ..
  have hfound : repositoryOf stored params =
      .ok (Paging.page params.start.toNat params.pageSize (allMatches stored params),
        (allMatches stored params).length) := by
    unfold repositoryOf
    rw [cutPage_eq hstart (by omega)]
  unfold listResources
  simp only [Option.bind_some, hfound, Except.toOption, List.length_map]

/-- Before the first resource there is no page. -/
lemma listResources_of_neg (hstart : params.start < 0) : listResources none resources params = none := by
  show listFromMemory resources params = none
  unfold listFromMemory
  dsimp only
  rw [cutPage_of_neg hstart, Option.map_none]

/-- Whether a public match is on the first page, on either path. -/
lemma onFirstPage_iff (hsame : stored.Perm resources) (htimes : (resources.map (·.updatedAt)).Nodup) :
    ((allMatches stored params).drop params.pageSize).filter ResourceDetail.isPublic = [] ↔
      ∀ r ∈ resources.filter (publicMatch params),
        (resources.filter (matchesParams params)).countP (fun s => r.updatedAt < s.updatedAt) < params.pageSize := by
  have hstored : ((stored.filter (matchesParams params)).map (·.updatedAt)).Nodup :=
    (List.filter_sublist.map _).nodup ((hsame.map _).nodup_iff.mpr htimes)
  have hmatches : (allMatches stored params).Perm (resources.filter (matchesParams params)) :=
    newestFirst_perm.trans (hsame.filter _)
  have hsorted : (allMatches stored params).Pairwise (fun a b => b.updatedAt < a.updatedAt) :=
    newestFirst_pairwise hstored
  rw [Paging.filter_drop_eq_nil_iff _ _ hsorted]
  refine forall_congr' fun r => ?_
  rw [hmatches.countP_eq, ← newestFirst_publicMatch hsame htimes, newestFirst_perm.mem_iff]

lemma same_iff (hsame : stored.Perm resources) (htimes : (resources.map (·.updatedAt)).Nodup)
    (hlen : resources.length + 100 < 2 ^ 63) :
    (∃ cards total, listResources none resources params = some (cards, total) ∧
        listResources (some (repositoryOf stored)) resources params = some (cards, total)) ↔
      PagedAlike resources params := by
  have hnone : (allMatches stored params).filter ResourceDetail.isPublic = [] ↔
      resources.filter (publicMatch params) = [] := by
    rw [← newestFirst_publicMatch hsame htimes, ← List.length_eq_zero_iff, newestFirst_perm.length_eq,
      List.length_eq_zero_iff]
  have hzero : ∀ {x : ℤ}, 0 ≤ x → (x.toNat = 0 ↔ x = 0) := by
    intro x hx
    omega
  constructor
  · rintro ⟨cards, total, hmemory, hrepository⟩
    have hstart : 0 ≤ params.start := by
      by_contra hneg
      rw [listResources_of_neg (not_le.mp hneg)] at hmemory
      cases hmemory
    rw [listFromMemory_eq hsame htimes hlen hstart] at hmemory
    rw [listFromRepository_eq hsame hlen hstart, ← hmemory, Option.some.injEq, Prod.mk.injEq] at hrepository
    obtain ⟨hcards, htotal⟩ := hrepository
    -- The totals make the filtered page complete, and the cards then make the other page complete.
    have hall := ((Paging.page_sublist params.start.toNat params.pageSize (allMatches stored params)).filter
      ResourceDetail.isPublic).eq_of_length (by exact_mod_cast htotal)
    have hpage := (Paging.page_sublist params.start.toNat params.pageSize
      ((allMatches stored params).filter ResourceDetail.isPublic)).eq_of_length (by
        have hlength := congrArg List.length hcards
        rw [List.length_map, List.length_map, hall] at hlength
        exact hlength.symm)
    have hfirst := (Paging.filter_page_iff ..).mp ⟨hpage, hall⟩
    rw [hnone, hzero hstart, onFirstPage_iff hsame htimes] at hfirst
    exact ⟨hstart, hfirst⟩
  · rintro ⟨hstart, hfirst⟩
    rw [← hnone, ← hzero hstart, ← onFirstPage_iff hsame htimes] at hfirst
    obtain ⟨hpage, hall⟩ := (Paging.filter_page_iff ..).mpr hfirst
    refine ⟨_, _, listFromMemory_eq hsame htimes hlen hstart, ?_⟩
    rw [listFromRepository_eq hsame hlen hstart, hpage, hall]

/-- The pages are enough, and each of them starts within `int64`. -/
lemma pageCount_bounds (params : ListResourceParams) (hsame : stored.Perm resources)
    (hlen : resources.length + 100 < 2 ^ 63) :
    (allMatches stored params).length ≤ pageCount resources params * params.pageSize ∧
      ∀ i < pageCount resources params, i * params.pageSize < 2 ^ 63 := by
  have hlength : (allMatches stored params).length = (resources.filter (matchesParams params)).length := by
    rw [allMatches, newestFirst_perm.length_eq, (hsame.filter _).length_eq]
  have hshort := List.length_filter_le (matchesParams params) resources
  have hpos := pageSize_pos params
  have hsize := pageSize_le params
  have hcount := Nat.div_mul_le_self ((resources.filter (matchesParams params)).length + params.pageSize - 1)
    params.pageSize
  have henough := Nat.lt_div_mul_add hpos
    (a := (resources.filter (matchesParams params)).length + params.pageSize - 1)
  refine ⟨?_, fun i hi => ?_⟩
  · rw [hlength]
    unfold pageCount
    omega
  · have hbefore := Nat.mul_le_mul_right params.pageSize hi.le
    unfold pageCount at hbefore
    omega

end Paths

section Completeness

variable [Library] {resources stored : List ResourceDetail}

lemma yieldsOnce_memory (hsame : stored.Perm resources) (htimes : (resources.map (·.updatedAt)).Nodup)
    (hlen : resources.length + 100 < 2 ^ 63) (params : ListResourceParams) :
    YieldsOnce resources params (listResources none resources) := by
  obtain ⟨henough, hbound⟩ := pageCount_bounds params hsame hlen
  refine ⟨fun i => (Paging.page (i * params.pageSize) params.pageSize
    ((allMatches stored params).filter ResourceDetail.isPublic)).map (·.toResourceCard), ?_, ?_⟩
  · intro i hi
    have hstart := start_atPage (hbound i hi)
    have hlist := listFromMemory_eq hsame htimes hlen (hstart ▸ Int.natCast_nonneg _)
    rw [hstart, Int.toNat_natCast] at hlist
    exact ⟨_, hlist⟩
  · rw [← List.map_flatMap, Paging.flatMap_page, List.take_of_length_le ((List.length_filter_le ..).trans henough),
      ← newestFirst_publicMatch hsame htimes]
    exact newestFirst_perm.map _

lemma yieldsOnce_repository (hsame : stored.Perm resources) (htimes : (resources.map (·.updatedAt)).Nodup)
    (hlen : resources.length + 100 < 2 ^ 63) (params : ListResourceParams) :
    YieldsOnce resources params (listResources (some (repositoryOf stored)) resources) := by
  obtain ⟨henough, hbound⟩ := pageCount_bounds params hsame hlen
  refine ⟨fun i => ((Paging.page (i * params.pageSize) params.pageSize (allMatches stored params)).filter
    ResourceDetail.isPublic).map (·.toResourceCard), ?_, ?_⟩
  · intro i hi
    have hstart := start_atPage (hbound i hi)
    have hlist := listFromRepository_eq hsame hlen (hstart ▸ Int.natCast_nonneg _)
    rw [hstart, Int.toNat_natCast] at hlist
    exact ⟨_, hlist⟩
  · rw [← List.map_flatMap, Paging.flatMap_filter_page, List.take_of_length_le henough,
      ← newestFirst_publicMatch hsame htimes]
    exact newestFirst_perm.map _

/-- The two paths agree exactly where the public matches are cut into pages as all matches are. -/
theorem listingAgrees_iff (hsame : stored.Perm resources) (htimes : (resources.map (·.updatedAt)).Nodup)
    (hlen : resources.length + 100 < 2 ^ 63) (params : ListResourceParams) :
    ListingAgrees resources stored params ↔ PagedAlike resources params :=
  ⟨fun h => (same_iff hsame htimes hlen).mp h.same, fun h => ⟨(same_iff hsame htimes hlen).mpr h,
    yieldsOnce_memory hsame htimes hlen params, yieldsOnce_repository hsame htimes hlen params⟩⟩

end Completeness

section Sample

def Sample.metadata : FileTypeMetadata where
  selectedFileType := .pdf
  fileTypeBadge := "PDF"
  launchMode := .pdfReader
  originalFileName := ""
  detectedMimeType := ""
  fileExtension := ""
  metadataWarnings := []
  fileTypeAudit := ⟨0, "", none, .pdf, "", "", "", []⟩

def Sample.listed (id subjectID : String) (updatedAt : Time) : ResourceDetail :=
  { Sample.metadata with
    id := id, slug := id, title := id, subtitle := "", thumbnailURL := "", programSlug := "", subjectID := subjectID,
    gradeID := "", categoryID := "", sectionID := "", bookSeriesID := "", topicID := "", levelID := "",
    documentTypeID := "", priceType := "free", visibility := "public", status := "published", canDownload := true,
    updatedAt := updatedAt, description := "", tags := [], assets := [], lectureDesign := none }

/-- A public resource, and one of another subject that was changed after it. -/
def Sample.resources : List ResourceDetail := [Sample.listed "1" "ic3-gs6" 1, Sample.listed "2" "toan" 2]

/-- The first page, with one resource. -/
def Sample.params : ListResourceParams := { page := 1, limit := 1 }

attribute [local instance] asciiLibrary

lemma Sample.matchesParams (id subjectID : String) (updatedAt : Time) :
    matchesParams Sample.params (Sample.listed id subjectID updatedAt) := by
  have hquery : toLower (trimSpace Sample.params.query) = "" := by decide
  unfold Hoclieu.matchesParams
  rw [hquery]
  rfl

lemma Sample.filter_matchesParams :
    Sample.resources.filter (Hoclieu.matchesParams Sample.params) = Sample.resources := by
  rw [List.filter_eq_self]
  intro r hr
  obtain rfl | hr := List.mem_cons.mp hr
  · exact Sample.matchesParams ..
  · rw [List.mem_singleton.mp hr]
    exact Sample.matchesParams ..

lemma Sample.filter_publicMatch :
    Sample.resources.filter (publicMatch Sample.params) = [Sample.listed "1" "ic3-gs6" 1] := by
  have hpublic : (Sample.listed "1" "ic3-gs6" 1).isPublic = true := by decide
  have hother : (Sample.listed "2" "toan" 2).isPublic = false := by decide
  have hfirst : publicMatch Sample.params (Sample.listed "1" "ic3-gs6" 1) = true := by
    rw [publicMatch, hpublic, Sample.matchesParams]
    rfl
  have hsecond : ¬publicMatch Sample.params (Sample.listed "2" "toan" 2) = true := by
    rw [publicMatch, hother]
    exact Bool.false_ne_true
  rw [Sample.resources, List.filter_cons_of_pos hfirst, List.filter_cons_of_neg hsecond, List.filter_nil]

theorem listingAgrees_iff_sample :
    ListingAgrees Sample.resources Sample.resources Sample.params ↔ PagedAlike Sample.resources Sample.params :=
  listingAgrees_iff (.refl _) (by decide) (by decide) Sample.params

/-- On the first page of one resource, the later one of the other subject takes the public one's place. -/
theorem public_resource_left_out : ¬∀ (resources stored : List ResourceDetail), stored.Perm resources →
    (resources.map (·.updatedAt)).Nodup → resources.length + 100 < 2 ^ 63 →
      ∀ params : ListResourceParams, ListingAgrees resources stored params := by
  intro h
  have hagrees := h Sample.resources Sample.resources (.refl _) (by decide) (by decide) Sample.params
  have hpaged := (same_iff (.refl _) (by decide) (by decide)).mp hagrees.same
  obtain hnone | ⟨-, hfirst⟩ := hpaged.onFirstPage
  · rw [Sample.filter_publicMatch] at hnone
    cases hnone
  · have hcount := hfirst (Sample.listed "1" "ic3-gs6" 1) (by rw [Sample.filter_publicMatch]; exact List.mem_cons_self)
    rw [Sample.filter_matchesParams] at hcount
    exact absurd hcount (by decide)

end Sample

end ErgGo.Hoclieu
