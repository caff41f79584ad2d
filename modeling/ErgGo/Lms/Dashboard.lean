import ErgGo.Lms.AssignmentRecipients
import ErgGo.Lms.StudentAccess

/-!
# The classes of a dashboard

A dashboard aggregates over one class, or over the classes of an actor. These come from two
lists of at most a hundred: the classes of the centers the actor manages, and those the actor
teaches.
-/

namespace ErgGo.Lms
open Go Documents

structure DashboardScopeRequest where
  scopeType : String := ""
  unitID : String := ""
  centerID : String := ""
  classID : String := ""
  range : String := ""

def dashboardUnitID (req : DashboardScopeRequest) : String := if req.unitID ≠ "" then req.unitID else req.centerID

/-- `out[item.ID.Hex()] = item` for each item. -/
def mergeClasses (out : GoMap Class) (items : List Class) : GoMap Class :=
  out.setAll (items.map fun item => (item.id.hex, item))

section Dashboard

variable [Library] [MongoServer]

/-- Without a center no list is read. -/
def Roster.classesOfCenters (b : Backend) (r : Roster) (tenantID : String) (req : ClassListRequest)
    (centerIDs : List ObjectID) : Except LmsError (List Class × ℤ) :=
  if centerIDs.isEmpty then .ok ([], 0) else r.listClasses b tenantID req centerIDs ""

def Service.dashboardClasses (b : Backend) (r : Roster) (tenantID : String) (actor : Actor) (unitID classID : String) :
    Except LmsError (List Class) :=
  if classID ≠ "" then do
    let class' ← required (← r.getClass tenantID classID)
    rejectIf (!r.canAccessClass tenantID actor class') .scopeForbidden
    return [class']
  else
    let req : ClassListRequest := { centerID := unitID, page := 1, limit := 100 }
    if actor.canAccessGlobal then return (← r.listClasses b tenantID req [] "").1
    else do
      let centers ← r.listCenters b tenantID { page := 1, limit := 100 } actor.userID
      let managedCenterIDs := (centers.1.filter fun center => unitID = "" || center.id.hex = unitID).map Center.id
      let managed ← r.classesOfCenters b tenantID req managedCenterIDs
      let taught ← r.listClasses b tenantID req [] actor.userID
      let merged := mergeClasses (mergeClasses ∅ managed.1) taught.1
      return Library.sortSlice (fun a c => a.name < c.name) (merged.pairs.map Prod.snd)

/-- The classes that `loadDashboardData` aggregates over. -/
def Service.dashboardData (b : Backend) (r : Roster) (tenantID : String) (actor : Actor) (req : DashboardScopeRequest) :
    Except LmsError (List Class) :=
  dashboardClasses b r tenantID actor (dashboardUnitID req) req.classID

/-! ## What a dashboard should show -/

/-- The class lies in the unit, if one is requested. -/
def Within (unitID : String) (class' : Class) : Prop := unitID ≠ "" → objectID unitID = .ok class'.centerID

/-- The classes are those of the requested unit, or the requested one, that the actor may access. -/
def ShowsAccessible (r : Roster) (tenantID : String) (actor : Actor) (unitID classID : String) (classes : List Class) :
    Prop :=
  ∀ class', class' ∈ classes ↔ class' ∈ r.classes.docs ∧ class'.tenantID = tenantID ∧ Within unitID class' ∧
    (classID ≠ "" → objectID classID = .ok class'.id) ∧ r.canAccessClass tenantID actor class'

section Lists

variable {b : Backend} {r : Roster} {tenantID : String} {actor : Actor} {unitID classID : String}

omit [Library] [MongoServer] in
/-- Merging loses no class and adds none, as long as ids are unique. -/
lemma mem_mergeClasses {docs managed taught : List Class} (hids : (docs.map Class.id).Nodup) (hmanaged : managed ⊆ docs)
    (htaught : taught ⊆ docs) (class' : Class) :
    class' ∈ (mergeClasses (mergeClasses ∅ managed) taught).pairs.map Prod.snd ↔
      class' ∈ managed ∨ class' ∈ taught := by
  have hmerged : mergeClasses (mergeClasses ∅ managed) taught =
      (∅ : GoMap Class).setAll ((managed ++ taught).map fun item => (item.id.hex, item)) := by
    unfold mergeClasses GoMap.setAll
    rw [List.map_append, List.foldl_append]
  have hdocs : managed ++ taught ⊆ docs := List.append_subset.mpr ⟨hmanaged, htaught⟩
  rw [hmerged, ← List.mem_append]
  generalize managed ++ taught = items at hdocs ⊢
  have hvalue : ∀ {k : String} {v : Class},
      ((∅ : GoMap Class).setAll (items.map fun item => (item.id.hex, item))).lookup k = some v →
        v ∈ items ∧ v.id.hex = k := by
    intro k v h
    obtain hset | hempty := GoMap.mem_of_lookup_setAll h
    · obtain ⟨item, hitem, heq⟩ := List.mem_map.mp hset
      cases heq
      exact ⟨hitem, rfl⟩
    · rw [AList.lookup_empty] at hempty
      cases hempty
  constructor
  · intro h
    obtain ⟨kv, hkv, rfl⟩ := List.mem_map.mp h
    obtain ⟨entry, hentry, rfl⟩ := List.mem_map.mp hkv
    exact (hvalue (AList.mem_lookup_iff.mpr hentry)).1
  · intro h
    have hkey : class'.id.hex ∈ (items.map fun item => (item.id.hex, item)).map Prod.fst :=
      List.mem_map.mpr ⟨_, List.mem_map.mpr ⟨class', h, rfl⟩, rfl⟩
    obtain ⟨v, hv⟩ := GoMap.exists_lookup_setAll ∅ hkey
    obtain ⟨hmem, hid⟩ := hvalue hv
    obtain rfl : v = class' := List.inj_on_of_nodup_map hids (hdocs hmem) (hdocs h) (ObjectID.hex_injective hid)
    exact List.mem_map.mpr ⟨_, List.mem_map.mpr ⟨_, AList.mem_lookup_iff.mp hv, rfl⟩, rfl⟩

/-- The classes of the tenant in the unit that satisfy a condition, sorted by name. -/
def namedClasses (r : Roster) (tenantID unitID : String) (condition : Class → Bool) : List Class :=
  Library.sortSlice (fun a c => a.name < c.name) (r.classes.docs.filter fun class' =>
    class'.tenantID = tenantID && (unitID = "" || (objectID unitID).toOption = some class'.centerID) &&
      condition class')

omit [Library] [MongoServer] in
lemma within_iff {class' : Class} :
    unitID = "" ∨ (objectID unitID).toOption = some class'.centerID ↔ Within unitID class' := by
  unfold Within
  rw [or_iff_not_imp_left]
  refine imp_congr_right fun _ => ?_
  cases objectID unitID <;> simp [Except.toOption]

omit [MongoServer] in
lemma mem_namedClasses {condition : Class → Bool} {class' : Class} :
    class' ∈ namedClasses r tenantID unitID condition ↔ class' ∈ r.classes.docs ∧ class'.tenantID = tenantID ∧
      Within unitID class' ∧ condition class' := by
  unfold namedClasses
  rw [(Library.sortSlice_perm _ _).mem_iff, List.mem_filter]
  simp only [Bool.and_eq_true, Bool.or_eq_true, decide_eq_true_eq, within_iff, and_assoc]

omit [MongoServer] in
lemma namedClasses_congr {p q : Class → Bool} (h : ∀ class', Within unitID class' → p class' = q class') :
    namedClasses r tenantID unitID p = namedClasses r tenantID unitID q := by
  unfold namedClasses
  refine congrArg (Library.sortSlice _) (List.filter_congr fun class' _ => ?_)
  by_cases hwithin : Within unitID class'
  · rw [h class' hwithin]
  · have hout : (decide (unitID = "") || decide ((objectID unitID).toOption = some class'.centerID)) = false := by
      rw [Bool.eq_false_iff]
      intro hin
      exact hwithin (within_iff.mp (by simpa using hin))
    rw [hout]
    simp

/-- The classes that are listed for one dashboard: the first hundred that satisfy a condition. -/
lemma listClasses_named {ids : List ObjectID} {teacherID : String} {page : List Class × ℤ}
    (h : r.listClasses b tenantID { centerID := unitID, page := 1, limit := 100 } ids teacherID = .ok page) :
    page.1 = (namedClasses r tenantID unitID fun class' => (unitID ≠ "" || ids.isEmpty || class'.centerID ∈ ids) &&
      (teacherID = "" || class'.homeroomTeacherID = teacherID)).take 100 := by
  obtain ⟨textMatches, hmatcher⟩ := keywordMatcher_empty b
  unfold Roster.listClasses at h
  obtain ⟨centerID, hcenter, h⟩ := except_bind_eq_ok.mp h
  rw [hmatcher] at h
  dsimp only [Bind.bind, Except.bind] at h
  rw [pageItems_take] at h
  rw [← Except.ok.inj h]
  refine congrArg (fun p => (Library.sortSlice _ (r.classes.docs.filter p)).take 100) (funext fun class' => ?_)
  by_cases hunit : unitID = ""
  · simp [hunit, Bool.and_assoc]
  · have hoid : objectID unitID = .ok centerID := by simpa [Roster.requestedID, hunit] using hcenter
    have hcomm : decide (class'.centerID = centerID) = decide (centerID = class'.centerID) := by
      rw [decide_eq_decide]
      exact eq_comm
    simp [hunit, hoid, hcomm, Except.toOption]

/-- Those that are requested. -/
def managedCenterIDs (r : Roster) (tenantID userID unitID : String) : List ObjectID :=
  ((listedCenters r tenantID userID).filter fun center => unitID = "" || center.id.hex = unitID).map Center.id

def managedClasses (r : Roster) (tenantID userID unitID : String) : List Class :=
  (namedClasses r tenantID unitID fun class' => class'.centerID ∈ managedCenterIDs r tenantID userID unitID).take 100

def taughtClasses (r : Roster) (tenantID userID unitID : String) : List Class :=
  (namedClasses r tenantID unitID fun class' => userID = "" || class'.homeroomTeacherID = userID).take 100

omit [MongoServer] in
/-- A requested center that is listed is the unit itself. -/
lemma mem_managedCenterIDs_of_within {userID : String} (hne : managedCenterIDs r tenantID userID unitID ≠ [])
    (hunit : unitID ≠ "") {class' : Class} (hwithin : Within unitID class') :
    class'.centerID ∈ managedCenterIDs r tenantID userID unitID := by
  obtain ⟨id, hid⟩ := List.exists_mem_of_ne_nil _ hne
  obtain ⟨center, hcenter, rfl⟩ := List.mem_map.mp hid
  obtain ⟨-, hrequested⟩ := List.mem_filter.mp hcenter
  have hhex : center.id.hex = unitID := by simpa [hunit] using hrequested
  have hsame := hwithin hunit
  rw [← hhex, objectID_hex] at hsame
  rw [← Except.ok.inj hsame]
  exact hid

lemma managed_listed {userID : String} {page : List Class × ℤ}
    (h : r.classesOfCenters b tenantID { centerID := unitID, page := 1, limit := 100 }
      (managedCenterIDs r tenantID userID unitID) = .ok page) : page.1 = managedClasses r tenantID userID unitID := by
  unfold Roster.classesOfCenters at h
  by_cases hempty : managedCenterIDs r tenantID userID unitID = []
  · have hnone : managedClasses r tenantID userID unitID = [] := by
      refine List.eq_nil_iff_forall_not_mem.mpr fun class' hmem => ?_
      have hlisted := (mem_namedClasses.mp (List.mem_of_mem_take hmem)).2.2.2
      rw [hempty] at hlisted
      simp at hlisted
    rw [hempty] at h
    rw [hnone, ← Except.ok.inj h]
  · rw [if_neg (by rw [List.isEmpty_iff]; exact hempty)] at h
    rw [listClasses_named h]
    refine congrArg (List.take 100) (namedClasses_congr fun class' hwithin => ?_)
    by_cases hunit : unitID = ""
    · subst hunit
      simp [hempty]
    · simp [hunit, mem_managedCenterIDs_of_within hempty hunit hwithin]

/-- What a dashboard shows to an actor without global access. -/
lemma mem_dashboardClasses {classes : List Class} (hglobal : actor.canAccessGlobal = false)
    (h : Service.dashboardClasses b r tenantID actor unitID "" = .ok classes) (class' : Class) :
    class' ∈ classes ↔ class' ∈ managedClasses r tenantID actor.userID unitID ∨
      class' ∈ taughtClasses r tenantID actor.userID unitID := by
  unfold Service.dashboardClasses at h
  rw [if_neg (by simp), hglobal] at h
  obtain ⟨centers, hcenters, h⟩ := except_bind_eq_ok.mp h
  obtain ⟨managed, hmanaged, h⟩ := except_bind_eq_ok.mp h
  obtain ⟨taught, htaught, h⟩ := except_bind_eq_ok.mp h
  have hlisted : centers.1 = listedCenters r tenantID actor.userID := by
    obtain ⟨_, hfirst⟩ := r.listCenters_first b tenantID actor.userID
    exact congrArg Prod.fst (Except.ok.inj (hcenters.symm.trans hfirst))
  rw [hlisted] at hmanaged
  have hmanagedClasses := managed_listed hmanaged
  have htaughtClasses : taught.1 = taughtClasses r tenantID actor.userID unitID := by
    rw [listClasses_named htaught]
    refine congrArg (List.take 100) (namedClasses_congr fun class' _ => ?_)
    simp
  have hsubset : ∀ {condition : Class → Bool}, (namedClasses r tenantID unitID condition).take 100 ⊆ r.classes.docs :=
    fun {_} _ hmem => (mem_namedClasses.mp (List.mem_of_mem_take hmem)).1
  rw [← Except.ok.inj h, (Library.sortSlice_perm _ _).mem_iff, hmanagedClasses, htaughtClasses]
  exact mem_mergeClasses r.classes.nodup hsubset hsubset class'

/-! ## When a dashboard shows it -/

omit [MongoServer] in
lemma canAccessClass_of_managed (huser : actor.userID ≠ "") {class' : Class}
    (h : class' ∈ managedClasses r tenantID actor.userID unitID) : r.canAccessClass tenantID actor class' := by
  have hlisted := (mem_namedClasses.mp (List.mem_of_mem_take h)).2.2.2
  obtain ⟨center, hcenter, hid⟩ := List.mem_map.mp (of_decide_eq_true hlisted)
  have hmanaged : class'.centerID ∈ managedIDs r tenantID actor :=
    hid ▸ List.mem_map_of_mem (List.mem_filter.mp hcenter).1
  unfold Roster.canAccessClass
  rw [Roster.canAccessCenter_of_managed huser hmanaged, Bool.or_true]

omit [MongoServer] in
lemma canAccessClass_of_taught (huser : actor.userID ≠ "") {class' : Class}
    (h : class' ∈ taughtClasses r tenantID actor.userID unitID) : r.canAccessClass tenantID actor class' := by
  have htaught := (mem_namedClasses.mp (List.mem_of_mem_take h)).2.2.2
  simp only [Bool.or_eq_true, decide_eq_true_eq, huser, false_or] at htaught
  unfold Roster.canAccessClass
  simp [htaught]

/-- Fewer than a hundred classes of the unit with a property come before the class by name. -/
def Early (r : Roster) (tenantID unitID : String) (condition : Class → Bool) (class' : Class) : Prop :=
  ∃ before after, namedClasses r tenantID unitID condition = before ++ class' :: after ∧ before.length < 100

/-- The class is in one of the first hundred centers that the user manages, or the user is its
homeroom teacher, and it is early among such classes. -/
def ListedClass (r : Roster) (tenantID userID unitID : String) (class' : Class) : Prop :=
  (∃ center ∈ listedCenters r tenantID userID, (unitID = "" ∨ center.id.hex = unitID) ∧ center.id = class'.centerID) ∧
      Early r tenantID unitID (fun other => other.centerID ∈ managedCenterIDs r tenantID userID unitID) class' ∨
    (userID = "" ∨ class'.homeroomTeacherID = userID) ∧
      Early r tenantID unitID (fun other => userID = "" || other.homeroomTeacherID = userID) class'

omit [MongoServer] in
lemma mem_take_namedClasses {condition : Class → Bool} {class' : Class} :
    class' ∈ (namedClasses r tenantID unitID condition).take 100 ↔
      condition class' ∧ Early r tenantID unitID condition class' := by
  unfold Early
  constructor
  · intro htake
    obtain ⟨before, after, hsplit⟩ := List.append_of_mem htake
    have hlength : ((namedClasses r tenantID unitID condition).take 100).length ≤ 100 := List.length_take_le _ _
    rw [hsplit, List.length_append, List.length_cons] at hlength
    refine ⟨(mem_namedClasses.mp (List.mem_of_mem_take htake)).2.2.2, before,
      after ++ (namedClasses r tenantID unitID condition).drop 100, ?_, by omega⟩
    rw [← List.cons_append, ← List.append_assoc, ← hsplit, List.take_append_drop]
  · rintro ⟨-, before, after, hsplit, hearly⟩
    obtain ⟨left, hleft⟩ := Nat.exists_eq_add_of_lt hearly
    rw [hsplit, hleft, Nat.add_assoc, List.take_length_add_append]
    exact List.mem_append_right _ List.mem_cons_self

omit [MongoServer] in
lemma listedClass_iff {userID : String} {class' : Class} : ListedClass r tenantID userID unitID class' ↔
    class' ∈ managedClasses r tenantID userID unitID ∨ class' ∈ taughtClasses r tenantID userID unitID := by
  unfold ListedClass managedClasses taughtClasses managedCenterIDs
  rw [mem_take_namedClasses, mem_take_namedClasses]
  simp only [List.mem_map, List.mem_filter, Bool.or_eq_true, decide_eq_true_eq, and_assoc]

/-- What is accessible to the actor is listed, and an actor without a user id may access all that
is listed. -/
structure ListsCover (r : Roster) (tenantID : String) (actor : Actor) (unitID : String) : Prop where
  listed : ∀ class' ∈ r.classes.docs, class'.tenantID = tenantID → Within unitID class' →
    r.canAccessClass tenantID actor class' → ListedClass r tenantID actor.userID unitID class'
  anonymous : actor.userID = "" → ∀ class', ListedClass r tenantID actor.userID unitID class' →
    r.canAccessClass tenantID actor class'

/-- A requested class lies in the unit; with global access the unit has at most a hundred classes;
otherwise the lists cover what is accessible. -/
def DashboardCovers (r : Roster) (tenantID : String) (actor : Actor) (unitID classID : String) : Prop :=
  if classID ≠ "" then ∀ class', r.getClass tenantID classID = .ok (some class') → Within unitID class'
  else if actor.canAccessGlobal then (namedClasses r tenantID unitID fun _ => true).length ≤ 100
  else ListsCover r tenantID actor unitID

lemma showsAccessible_class {classes : List Class} (hclass : classID ≠ "")
    (h : Service.dashboardClasses b r tenantID actor unitID classID = .ok classes) :
    ShowsAccessible r tenantID actor unitID classID classes ↔
      ∀ class', r.getClass tenantID classID = .ok (some class') → Within unitID class' := by
  unfold Service.dashboardClasses at h
  rw [if_pos hclass] at h
  obtain ⟨found, hfound, h⟩ := except_bind_eq_ok.mp h
  obtain ⟨class', hrequired, h⟩ := except_bind_eq_ok.mp h
  obtain ⟨_, haccess, h⟩ := except_bind_eq_ok.mp h
  rw [required_ok hrequired] at hfound
  have hid := Roster.id_of_getClass hfound
  have hallowed : r.canAccessClass tenantID actor class' := by simpa using rejectIf_ok haccess
  obtain ⟨hdocs, htenant⟩ : class' ∈ r.classes.docs ∧ class'.tenantID = tenantID := by
    unfold Roster.getClass at hfound
    rw [hid] at hfound
    have hfind := Except.ok.inj hfound
    have hmatch := List.find?_some hfind
    simp only [Bool.and_eq_true, decide_eq_true_eq] at hmatch
    exact ⟨List.mem_of_find?_eq_some hfind, hmatch.1⟩
  rw [← Except.ok.inj h]
  constructor
  · intro hshows class'' hfound'
    obtain rfl : class' = class'' := by simpa using hfound.symm.trans hfound'
    exact ((hshows class').mp (List.mem_singleton_self _)).2.2.1
  · intro hwithin other
    rw [List.mem_singleton]
    constructor
    · rintro rfl
      exact ⟨hdocs, htenant, hwithin other hfound, fun _ => hid, hallowed⟩
    · rintro ⟨hother, -, -, hsame, -⟩
      exact List.inj_on_of_nodup_map r.classes.nodup hother hdocs (Except.ok.inj ((hsame hclass).symm.trans hid))

omit [Library] [MongoServer] in
/-- Nothing is cut off a list exactly if it is no longer. -/
lemma forall_mem_take_iff {α : Type} {items : List α} (hnodup : items.Nodup) (n : ℕ) :
    (∀ a ∈ items, a ∈ items.take n) ↔ items.length ≤ n := by
  constructor
  · intro h
    have hle := (hnodup.subperm h).length_le
    rw [List.length_take] at hle
    omega
  · intro h a ha
    rwa [List.take_of_length_le h]

lemma showsAccessible_global {classes : List Class} (hglobal : actor.canAccessGlobal)
    (h : Service.dashboardClasses b r tenantID actor unitID "" = .ok classes) :
    ShowsAccessible r tenantID actor unitID "" classes ↔
      (namedClasses r tenantID unitID fun _ => true).length ≤ 100 := by
  unfold Service.dashboardClasses at h
  rw [if_neg (by simp), if_pos hglobal] at h
  obtain ⟨page, hpage, h⟩ := except_bind_eq_ok.mp h
  have hclasses : classes = (namedClasses r tenantID unitID fun _ => true).take 100 := by
    rw [← Except.ok.inj h, listClasses_named hpage]
    exact congrArg (List.take 100) (namedClasses_congr fun class' _ => by simp)
  have hnodup : (namedClasses r tenantID unitID fun _ => true).Nodup :=
    (Library.sortSlice_perm _ _).nodup_iff.mpr ((List.Nodup.of_map _ r.classes.nodup).filter _)
  have haccess : ∀ class', r.canAccessClass tenantID actor class' := by
    intro class'
    unfold Roster.canAccessClass
    rw [hglobal, Bool.true_or, Bool.true_or]
  rw [← forall_mem_take_iff hnodup, hclasses]
  have hshown : ∀ class', class' ∈ r.classes.docs ∧ class'.tenantID = tenantID ∧ Within unitID class' ∧
      (("" : String) ≠ "" → objectID "" = .ok class'.id) ∧ r.canAccessClass tenantID actor class' ↔
      class' ∈ namedClasses r tenantID unitID fun _ => true := by
    intro class'
    rw [mem_namedClasses]
    simp [haccess class']
  constructor
  · intro hshows class' hmem
    exact (hshows class').mpr ((hshown class').mpr hmem)
  · intro htake class'
    rw [hshown]
    exact ⟨List.mem_of_mem_take, htake class'⟩

lemma showsAccessible_actor {classes : List Class} (hglobal : actor.canAccessGlobal = false)
    (h : Service.dashboardClasses b r tenantID actor unitID "" = .ok classes) :
    ShowsAccessible r tenantID actor unitID "" classes ↔ ListsCover r tenantID actor unitID := by
  have hmem := mem_dashboardClasses hglobal h
  have hnamed : ∀ class', class' ∈ managedClasses r tenantID actor.userID unitID ∨
      class' ∈ taughtClasses r tenantID actor.userID unitID →
      class' ∈ r.classes.docs ∧ class'.tenantID = tenantID ∧ Within unitID class' := by
    rintro class' (hmanaged | htaught)
    · obtain ⟨hdocs, htenant, hwithin, -⟩ := mem_namedClasses.mp (List.mem_of_mem_take hmanaged)
      exact ⟨hdocs, htenant, hwithin⟩
    · obtain ⟨hdocs, htenant, hwithin, -⟩ := mem_namedClasses.mp (List.mem_of_mem_take htaught)
      exact ⟨hdocs, htenant, hwithin⟩
  constructor
  · intro hshows
    refine ⟨fun class' hdocs htenant hwithin haccess => ?_, fun _ class' hlisted => ?_⟩
    · exact listedClass_iff.mpr
        ((hmem class').mp ((hshows class').mpr ⟨hdocs, htenant, hwithin, fun hne => absurd rfl hne, haccess⟩))
    · exact ((hshows class').mp ((hmem class').mpr (listedClass_iff.mp hlisted))).2.2.2.2
  · intro hcover class'
    rw [hmem]
    constructor
    · intro hlisted
      obtain ⟨hdocs, htenant, hwithin⟩ := hnamed class' hlisted
      refine ⟨hdocs, htenant, hwithin, fun hne => absurd rfl hne, ?_⟩
      by_cases huser : actor.userID = ""
      · exact hcover.anonymous huser class' (listedClass_iff.mpr hlisted)
      · exact hlisted.elim (canAccessClass_of_managed huser) (canAccessClass_of_taught huser)
    · rintro ⟨hdocs, htenant, hwithin, -, haccess⟩
      exact listedClass_iff.mp (hcover.listed class' hdocs htenant hwithin haccess)

/-- A dashboard aggregates over exactly the accessible classes exactly if its lists reach all of
them. -/
theorem dashboardClasses_iff {classes : List Class}
    (h : Service.dashboardClasses b r tenantID actor unitID classID = .ok classes) :
    ShowsAccessible r tenantID actor unitID classID classes ↔ DashboardCovers r tenantID actor unitID classID := by
  unfold DashboardCovers
  by_cases hclass : classID = ""
  · subst hclass
    rw [if_neg (by simp)]
    by_cases hglobal : actor.canAccessGlobal
    · rw [if_pos hglobal]
      exact showsAccessible_global hglobal h
    · rw [if_neg hglobal]
      exact showsAccessible_actor (Bool.eq_false_iff.mpr hglobal) h
  · rw [if_pos hclass]
    exact showsAccessible_class hclass h

end Lists

end Dashboard

section Sample

attribute [local instance] asciiLibrary Sample.server

namespace Sample

/-- Center 1 is run by `boss` and has school 3; class 4 is of the center, class 5 of the school. -/
def schoolRoster : Roster where
  centers := ⟨[{ id := id 1, tenantID := "erg", managerUserID := "boss" },
    { id := id 3, tenantID := "erg", type := "school", parentID := id 1 }], by decide⟩
  classes := ⟨[{ id := id 4, tenantID := "erg", centerID := id 1 },
    { id := id 5, tenantID := "erg", centerID := id 3 }], by decide⟩
  students := .empty
  currentScopes := []

end Sample

theorem dashboardClasses_admin : ∃ classes,
    Service.dashboardClasses .memory Sample.schoolRoster "erg" ⟨"admin", ["admin"]⟩ "" "" = .ok classes ∧
      ShowsAccessible Sample.schoolRoster "erg" ⟨"admin", ["admin"]⟩ "" "" classes := by
  have hok : (Service.dashboardClasses .memory Sample.schoolRoster "erg" ⟨"admin", ["admin"]⟩ "" "").isOk := by
    decide
  cases hclasses : Service.dashboardClasses .memory Sample.schoolRoster "erg" ⟨"admin", ["admin"]⟩ "" "" with
  | error err =>
    rw [hclasses] at hok
    cases hok
  | ok classes =>
    refine ⟨classes, rfl, (dashboardClasses_iff hclasses).mpr ?_⟩
    unfold DashboardCovers
    rw [if_neg (by simp), if_pos (by decide)]
    decide

/-- The class of the school is accessible to `boss` but not on the dashboard. -/
theorem school_class_missing : ∃ classes,
    Service.dashboardClasses .memory Sample.schoolRoster "erg" ⟨"boss", []⟩ "" "" = .ok classes ∧
      ¬ShowsAccessible Sample.schoolRoster "erg" ⟨"boss", []⟩ "" "" classes := by
  have hshown : (Service.dashboardClasses .memory Sample.schoolRoster "erg" ⟨"boss", []⟩ "" "").map
      (List.map Class.id) = .ok [Sample.id 4] := by decide
  obtain ⟨classes, hclasses, hids⟩ := except_map_eq_ok.mp hshown
  refine ⟨classes, hclasses, fun hshows => ?_⟩
  have hschool := (hshows { id := Sample.id 5, tenantID := "erg", centerID := Sample.id 3 }).mpr
    ⟨by simp [Sample.schoolRoster], rfl, fun h => absurd rfl h, fun h => absurd rfl h, by decide⟩
  have hlisted := List.mem_map_of_mem hschool (f := Class.id)
  rw [hids] at hlisted
  revert hlisted
  decide

end Sample

end ErgGo.Lms
