import ErgGo.Lms.StudentService

/-!
# Whom a list of students returns

The list takes its rows by filter, so it returns only accessible students exactly when the
classes of the rows it takes are guarded. The routes to one class and to one student always check.
-/

namespace ErgGo.Lms
open Go Documents Paging

section Access

variable [Library] {r : Roster} {tenantID : String} {actor : Actor}

/-- The centers `allowedIDs` finds for an actor without global access. -/
def managedIDs (r : Roster) (tenantID : String) (actor : Actor) : List ObjectID :=
  (listedCenters r tenantID actor.userID).map Center.id

/-- The classes it finds in them. -/
def taughtIDs (r : Roster) (tenantID : String) (actor : Actor) : List ObjectID :=
  (listedClasses r tenantID (managedIDs r tenantID actor) actor.userID).map Class.id

namespace Roster

/-- The actor teaches the class of that id, or can access its center. -/
def InReach (r : Roster) (tenantID : String) (actor : Actor) (classID : ObjectID) : Prop :=
  ∃ class' ∈ r.classes.docs, class'.tenantID = tenantID ∧ class'.id = classID ∧
    (class'.homeroomTeacherID = actor.userID ∨ r.canAccessCenter tenantID actor class'.centerID.hex)

/-- The student's class is stored, and in the student's own center. -/
def Settled (r : Roster) (tenantID : String) (student : Student) : Prop :=
  ∃ class' ∈ r.classes.docs, class'.tenantID = tenantID ∧ class'.id = student.classID ∧
    class'.centerID = student.centerID

lemma Settled.inReach {student : Student} (h : r.Settled tenantID student)
    (haccess : r.canAccessCenter tenantID actor student.centerID.hex) : r.InReach tenantID actor student.classID := by
  obtain ⟨class', hdocs, htenant, hid, hcenter⟩ := h
  exact ⟨class', hdocs, htenant, hid, .inr (hcenter ▸ haccess)⟩

omit [Library] in
lemma getCenter_hex_iff {id : ObjectID} {center : Center} :
    r.getCenter tenantID id.hex = .ok (some center) ↔
      center ∈ r.centers.docs ∧ center.tenantID = tenantID ∧ center.id = id := by
  rw [getCenter, objectID_hex]
  change Except.ok _ = _ ↔ _
  rw [Except.ok.injEq, Collection.find_keyed_eq_some_iff, decide_eq_true_eq]

omit [Library] in
lemma getClass_hex_iff {classID : ObjectID} {class' : Class} :
    r.getClass tenantID classID.hex = .ok (some class') ↔
      class' ∈ r.classes.docs ∧ class'.tenantID = tenantID ∧ class'.id = classID := by
  rw [getClass, objectID_hex]
  change Except.ok _ = _ ↔ _
  rw [Except.ok.injEq, Collection.find_keyed_eq_some_iff, decide_eq_true_eq]

lemma canAccessStudent_iff (hactor : actor.canAccessGlobal = false) {student : Student} :
    r.canAccessStudent tenantID actor student ↔ r.InReach tenantID actor student.classID := by
  unfold canAccessStudent InReach
  rw [hactor, Bool.false_or]
  constructor
  · intro h
    split at h
    · next class' hclass =>
      obtain ⟨hdocs, htenant, hid⟩ := getClass_hex_iff.mp hclass
      refine ⟨class', hdocs, htenant, hid, ?_⟩
      simpa [canAccessClass, hactor] using h
    · cases h
  · rintro ⟨class', hdocs, htenant, hid, haccess⟩
    rw [getClass_hex_iff.mpr ⟨hdocs, htenant, hid⟩]
    simpa [canAccessClass, hactor] using haccess

/-- The manager of a center can access it. -/
lemma canAccessCenter_of_managed (huser : actor.userID ≠ "") {id : ObjectID} (h : id ∈ managedIDs r tenantID actor) :
    r.canAccessCenter tenantID actor id.hex := by
  obtain ⟨center, hcenter, rfl⟩ := List.mem_map.mp h
  obtain ⟨hdocs, hmanaged⟩ := List.mem_filter.mp
    ((Library.sortSlice_perm _ _).mem_iff.mp (List.mem_of_mem_take hcenter))
  simp only [Bool.and_eq_true, Bool.or_eq_true, decide_eq_true_eq, huser, false_or] at hmanaged
  have hfound := getCenter_hex_iff.mpr ⟨hdocs, hmanaged.1, rfl⟩
  unfold canAccessCenter Lms.canAccessCenter
  split
  · rfl
  · simp only [hfound, pure_bind, hmanaged.2, ↓reduceIte]
    rfl

/-- Of the classes that are listed for a teacher, each is in reach. -/
lemma inReach_of_listed (huser : actor.userID ≠ "") {centerIDs : List ObjectID} {id : ObjectID}
    (h : id ∈ (listedClasses r tenantID centerIDs actor.userID).map Class.id) : r.InReach tenantID actor id := by
  obtain ⟨class', hlisted, rfl⟩ := List.mem_map.mp h
  obtain ⟨hdocs, hmatches⟩ := List.mem_filter.mp
    ((Library.sortSlice_perm _ _).mem_iff.mp (List.mem_of_mem_take hlisted))
  simp only [Bool.and_eq_true, Bool.or_eq_true, decide_eq_true_eq, huser, false_or] at hmatches
  exact ⟨class', hdocs, hmatches.1.1, rfl, .inl hmatches.2⟩

lemma filter_eq_nil_of_listed {α : Type} {less : α → α → Bool} {items : List α} {p : α → Bool}
    (h : (Library.sortSlice less (items.filter p)).take 100 = []) : items.filter p = [] := by
  have hsorted : Library.sortSlice less (items.filter p) = [] := by simpa using h
  exact List.nil_perm.mp (hsorted ▸ Library.sortSlice_perm less (items.filter p))

/-- Nothing is in reach of an actor without a center and a class. -/
lemma not_inReach_of_unassigned (hactor : actor.canAccessGlobal = false) (hcenters : managedIDs r tenantID actor = [])
    (hclasses : taughtIDs r tenantID actor = []) (id : ObjectID) : ¬r.InReach tenantID actor id := by
  have hmanager : ∀ center ∈ r.centers.docs, center.tenantID = tenantID → center.managerUserID ≠ actor.userID := by
    intro center hcenter htenant hmanaged
    have hnone := List.filter_eq_nil_iff.mp (filter_eq_nil_of_listed (List.map_eq_nil_iff.mp hcenters)) center hcenter
    simp [htenant, hmanaged] at hnone
  rw [taughtIDs, hcenters, List.map_eq_nil_iff] at hclasses
  rintro ⟨class', hdocs, htenant, -, htaught | haccess⟩
  · have hnone := List.filter_eq_nil_iff.mp (filter_eq_nil_of_listed hclasses) class' hdocs
    simp [htenant, htaught] at hnone
  · unfold canAccessCenter Lms.canAccessCenter at haccess
    rw [if_neg (by simp [hactor])] at haccess
    cases hcenter : r.getCenter tenantID class'.centerID.hex with
    | error err => simp [hcenter] at haccess
    | ok found =>
      cases found with
      | none => simp [hcenter] at haccess
      | some center =>
        obtain ⟨hmem, hown, -⟩ := getCenter_hex_iff.mp hcenter
        simp only [hcenter, pure_bind, hmanager center hmem hown, ↓reduceIte] at haccess
        split at haccess
        · cases hparent : r.getCenter tenantID center.parentID.hex with
          | error err => simp [hparent] at haccess
          | ok found =>
            cases found with
            | none => simp [hparent] at haccess
            | some parent =>
              obtain ⟨hmem, hown, -⟩ := getCenter_hex_iff.mp hparent
              simp [hparent, hmanager parent hmem hown] at haccess
        · cases haccess

end Roster

variable [MongoServer] {b : Backend} {req : StudentListRequest}

lemma Service.allowedIDs_eq (b : Backend) (r : Roster) (tenantID : String) {actor : Actor}
    (hactor : actor.canAccessGlobal = false) :
    allowedIDs b r tenantID actor = .ok (managedIDs r tenantID actor, taughtIDs r tenantID actor) := by
  obtain ⟨_, hcenters⟩ := r.listCenters_first b tenantID actor.userID
  obtain ⟨_, hclasses⟩ := r.listClasses_first b tenantID actor.userID (managedIDs r tenantID actor)
  unfold allowedIDs
  rw [hactor, if_neg Bool.false_ne_true, hcenters]
  dsimp only [bind, Except.bind]
  rw [show (listedCenters r tenantID actor.userID).map Center.id = managedIDs r tenantID actor from rfl, hclasses]
  rfl

namespace Service

/-- The items of a list are the matching students the request takes. -/
lemma listStudents_items (hactor : actor.canAccessGlobal = false) {resp : StudentListResponse}
    (h : listStudents b r tenantID actor req = .ok resp) :
    ∃ students, r.allStudents b tenantID req (managedIDs r tenantID actor) (taughtIDs r tenantID actor) = .ok students ∧
      resp.items = studentsToDTO r tenantID (page (cursorOffset req.cursor) (studentLimit req.limit) students) := by
  unfold listStudents at h
  rw [allowedIDs_eq b r tenantID hactor] at h
  dsimp only [bind, Except.bind] at h
  rw [Roster.listStudents_eq] at h
  unfold Roster.allStudents
  cases hmatching : Roster.matching b tenantID req (managedIDs r tenantID actor) (taughtIDs r tenantID actor) with
  | error err => simp [hmatching, Except.map] at h
  | ok p =>
    refine ⟨r.ordered p, rfl, ?_⟩
    simp only [hmatching, Except.map] at h
    rw [← Except.ok.inj h, cutPage_fst]

lemma exists_listStudents (hactor : actor.canAccessGlobal = false) {students : List Student}
    (h : r.allStudents b tenantID req (managedIDs r tenantID actor) (taughtIDs r tenantID actor) = .ok students) :
    ∃ resp, listStudents b r tenantID actor req = .ok resp := by
  unfold Roster.allStudents at h
  unfold listStudents
  rw [allowedIDs_eq b r tenantID hactor]
  dsimp only [bind, Except.bind]
  rw [Roster.listStudents_eq]
  cases hmatching : Roster.matching b tenantID req (managedIDs r tenantID actor) (taughtIDs r tenantID actor) with
  | error err => simp [hmatching, Except.map] at h
  | ok p => exact ⟨_, rfl⟩

end Service

/-- Every student the list returns is accessible, and with neither a center nor a class allowed it
returns none. -/
structure ListsAccessible (b : Backend) (r : Roster) (tenantID : String) (actor : Actor) (req : StudentListRequest) :
    Prop where
  accessible : ∀ resp, Service.listStudents b r tenantID actor req = .ok resp →
    ∀ item ∈ resp.items, ∃ student ∈ r.students.docs, item.id = student.id.hex ∧
      r.canAccessStudent tenantID actor student
  unassigned : Service.allowedIDs b r tenantID actor = .ok ([], []) →
    ∀ resp, Service.listStudents b r tenantID actor req = .ok resp → resp.items = []

/-- The request names a center that the actor can access, or none, and the manager's own are listed. -/
def CentersGuarded (r : Roster) (tenantID : String) (actor : Actor) (req : StudentListRequest) : Prop :=
  actor.userID ≠ "" ∧ ∀ id, req.centerID ≠ "" → objectID req.centerID = .ok id → r.canAccessCenter tenantID actor id.hex

/-- The request names a class in reach, or none while the actor teaches the listed classes. A manager without
classes lists settled students of guarded centers; of the matching students from the cursor on, up to the limit,
all others are in classes in reach. There are none for an actor with neither a center nor a class, or under a
class out of reach. -/
def ClassesGuarded (r : Roster) (tenantID : String) (actor : Actor) (req : StudentListRequest)
    (students : List Student) : Prop :=
  if req.classID ≠ "" then
    (∀ id, objectID req.classID = .ok id → r.InReach tenantID actor id) ∨ students.length ≤ cursorOffset req.cursor
  else if managedIDs r tenantID actor = [] ∧ taughtIDs r tenantID actor = [] then
    students.length ≤ cursorOffset req.cursor
  else actor.userID ≠ "" ∧ taughtIDs r tenantID actor ≠ [] ∨
    ∀ student ∈ page (cursorOffset req.cursor) (studentLimit req.limit) students,
      CentersGuarded r tenantID actor req ∧ r.Settled tenantID student ∨ r.InReach tenantID actor student.classID

omit [Library] [MongoServer] in
lemma admitted_by_request {text : String} {requested id : ObjectID} {allowed : List ObjectID}
    (hrequested : Roster.requestedID text = .ok requested)
    (hadmitted : (if text ≠ "" then decide (id = requested) else allowed.isEmpty || decide (id ∈ allowed)) = true) :
    if text ≠ "" then objectID text = .ok id else allowed = [] ∨ id ∈ allowed := by
  by_cases hnamed : text ≠ ""
  · rw [Roster.requestedID, if_pos hnamed] at hrequested
    rw [if_pos hnamed] at hadmitted ⊢
    rw [of_decide_eq_true hadmitted, hrequested]
  · rw [if_neg hnamed] at hadmitted ⊢
    simpa using hadmitted

lemma mem_allStudents {allowedCenterIDs allowedClassIDs : List ObjectID} {students : List Student}
    (h : r.allStudents b tenantID req allowedCenterIDs allowedClassIDs = .ok students) {student : Student}
    (hstudent : student ∈ students) :
    student ∈ r.students.docs ∧
      (if req.centerID ≠ "" then objectID req.centerID = .ok student.centerID
        else allowedCenterIDs = [] ∨ student.centerID ∈ allowedCenterIDs) ∧
      if req.classID ≠ "" then objectID req.classID = .ok student.classID
      else allowedClassIDs = [] ∨ student.classID ∈ allowedClassIDs := by
  unfold Roster.allStudents Roster.matching at h
  cases hcenter : Roster.requestedID req.centerID with
  | error err => simp [hcenter, bind, Except.bind, Except.map] at h
  | ok centerID =>
    cases hclass : Roster.requestedID req.classID with
    | error err => simp [hcenter, hclass, bind, Except.bind, Except.map] at h
    | ok classID =>
      cases hmatcher : keywordMatcher b req.keyword with
      | error err => simp [hcenter, hclass, hmatcher, bind, Except.bind, Except.map] at h
      | ok textMatches =>
        rw [hcenter, hclass, hmatcher] at h
        have hordered : r.ordered (Roster.studentMatches tenantID req allowedCenterIDs allowedClassIDs centerID classID
            textMatches) = students := Except.ok.inj h
        rw [← hordered, Roster.ordered, (Library.sortSlice_perm _ _).mem_iff] at hstudent
        obtain ⟨hdocs, hmatches⟩ := List.mem_filter.mp hstudent
        simp only [Roster.studentMatches, Bool.and_eq_true] at hmatches
        exact ⟨hdocs, admitted_by_request hcenter hmatches.1.1.1.2, admitted_by_request hclass hmatches.1.1.2⟩

/-- A list returns only accessible students exactly if the students it takes are in reach. -/
lemma listsAccessible_iff_page (hactor : actor.canAccessGlobal = false) :
    ListsAccessible b r tenantID actor req ↔
      ∀ students, r.allStudents b tenantID req (managedIDs r tenantID actor) (taughtIDs r tenantID actor) =
          .ok students →
        ∀ student ∈ page (cursorOffset req.cursor) (studentLimit req.limit) students,
          r.InReach tenantID actor student.classID := by
  constructor
  · intro h students hstudents student hstudent
    obtain ⟨resp, hresp⟩ := Service.exists_listStudents hactor hstudents
    obtain ⟨students', hstudents', hitems⟩ := Service.listStudents_items hactor hresp
    obtain rfl := Except.ok.inj (hstudents.symm.trans hstudents')
    obtain ⟨listed, hlisted, hid, haccess⟩ := h.accessible resp hresp (Service.studentToDTO r tenantID student)
      (hitems ▸ List.mem_map_of_mem hstudent)
    have hdocs := (mem_allStudents hstudents ((page_sublist _ _ _).mem hstudent)).1
    obtain rfl : student = listed :=
      List.inj_on_of_nodup_map r.students.nodup hdocs hlisted (ObjectID.hex_injective hid)
    exact (Roster.canAccessStudent_iff hactor).mp haccess
  · intro h
    constructor
    · intro resp hresp item hitem
      obtain ⟨students, hstudents, hitems⟩ := Service.listStudents_items hactor hresp
      rw [hitems] at hitem
      obtain ⟨student, hstudent, rfl⟩ := List.mem_map.mp hitem
      exact ⟨student, (mem_allStudents hstudents ((page_sublist _ _ _).mem hstudent)).1, rfl,
        (Roster.canAccessStudent_iff hactor).mpr (h students hstudents student hstudent)⟩
    · intro hallowed resp hresp
      obtain ⟨students, hstudents, hitems⟩ := Service.listStudents_items hactor hresp
      rw [Service.allowedIDs_eq b r tenantID hactor] at hallowed
      obtain ⟨hmanaged, htaught⟩ := Prod.mk.inj (Except.ok.inj hallowed)
      rw [hitems, Service.studentsToDTO, List.map_eq_nil_iff]
      refine List.eq_nil_iff_forall_not_mem.mpr fun student hstudent => ?_
      exact Roster.not_inReach_of_unassigned hactor hmanaged htaught _ (h students hstudents student hstudent)

/-- A list returns only accessible students exactly when the classes it filters by are guarded. -/
theorem listsAccessible_iff (b : Backend) (r : Roster) (tenantID : String) (actor : Actor)
    (hactor : actor.canAccessGlobal = false) (req : StudentListRequest) :
    ListsAccessible b r tenantID actor req ↔
      ∀ students, r.allStudents b tenantID req (managedIDs r tenantID actor) (taughtIDs r tenantID actor) =
        .ok students → ClassesGuarded r tenantID actor req students := by
  rw [listsAccessible_iff_page hactor]
  refine forall₂_congr fun students hstudents => ?_
  have hmem : ∀ {student}, student ∈ page (cursorOffset req.cursor) (studentLimit req.limit) students →
      student ∈ students := fun hstudent => (page_sublist _ _ _).mem hstudent
  rw [ClassesGuarded, ← page_eq_nil_iff (studentLimit_pos req.limit)]
  split
  · next hnamed =>
    -- every matching student is in the named class
    constructor
    · intro h
      by_cases hnone : page (cursorOffset req.cursor) (studentLimit req.limit) students = []
      · exact .inr hnone
      · obtain ⟨student, hstudent⟩ := List.exists_mem_of_ne_nil _ hnone
        refine .inl fun id hid => ?_
        have hclass := (mem_allStudents hstudents (hmem hstudent)).2.2
        rw [if_pos hnamed, hid] at hclass
        rw [Except.ok.inj hclass]
        exact h student hstudent
    · rintro (hreach | hnone) student hstudent
      · have hclass := (mem_allStudents hstudents (hmem hstudent)).2.2
        rw [if_pos hnamed] at hclass
        exact hreach _ hclass
      · rw [hnone] at hstudent
        cases hstudent
  · next hnamed =>
    split
    · next hunassigned =>
      rw [List.eq_nil_iff_forall_not_mem]
      refine forall₂_congr fun student _ => iff_false_intro ?_
      exact Roster.not_inReach_of_unassigned hactor hunassigned.1 hunassigned.2 _
    · next hassigned =>
      refine ⟨fun hreach => .inr fun student hstudent => .inr (hreach student hstudent), fun h student hstudent => ?_⟩
      obtain ⟨-, hcenter, hclass⟩ := mem_allStudents hstudents (hmem hstudent)
      rw [if_neg hnamed] at hclass
      by_cases hteaches : actor.userID ≠ "" ∧ taughtIDs r tenantID actor ≠ []
      · exact Roster.inReach_of_listed hteaches.1 (hclass.resolve_left hteaches.2)
      · obtain ⟨⟨huser, hguarded⟩, hsettled⟩ | hreach := h.resolve_left hteaches student hstudent
        · refine hsettled.inReach ?_
          by_cases hrequested : req.centerID = ""
          · have htaught : taughtIDs r tenantID actor = [] := not_not.mp fun hne => hteaches ⟨huser, hne⟩
            rw [if_neg (not_not.mpr hrequested)] at hcenter
            exact Roster.canAccessCenter_of_managed huser
              (hcenter.resolve_left fun hmanaged => hassigned ⟨hmanaged, htaught⟩)
          · rw [if_pos hrequested] at hcenter
            exact hguarded _ hrequested hcenter
        · exact hreach

end Access

section Sample

attribute [local instance] asciiLibrary Sample.server

/-! A center run by `boss` with one class, taught by `teacher`, in which one student is enrolled. -/

def Sample.class' : Class :=
  { id := Sample.id 2, tenantID := "erg", centerID := Sample.id 1, homeroomTeacherID := "teacher" }

def Sample.student : Student :=
  { id := Sample.id 4, tenantID := "erg", centerID := Sample.id 1, classID := Sample.id 2 }

def Sample.school : Roster where
  centers := ⟨[{ id := Sample.id 1, tenantID := "erg", managerUserID := "boss" }], by simp⟩
  classes := ⟨[Sample.class'], by simp⟩
  students := ⟨[Sample.student], by simp⟩
  currentScopes := []

/-- The teacher lists the class, the manager of its center every student there. -/
theorem listsAccessible_assigned :
    ListsAccessible .mongo Sample.school "erg" ⟨"teacher", []⟩ {} ∧
      ListsAccessible .memory Sample.school "erg" ⟨"boss", []⟩ { centerID := (Sample.id 1).hex, limit := 5 } := by
  constructor
  · refine (listsAccessible_iff .mongo Sample.school "erg" ⟨"teacher", []⟩ rfl {}).mpr fun students _ => ?_
    rw [ClassesGuarded, if_neg (by decide), if_neg (by decide)]
    exact .inl (by decide)
  · refine (listsAccessible_iff .memory Sample.school "erg" ⟨"boss", []⟩ rfl _).mpr fun students hstudents => ?_
    rw [ClassesGuarded, if_neg (by decide), if_neg (by decide)]
    refine .inr fun student hstudent => ?_
    have hdocs := (mem_allStudents hstudents ((page_sublist _ _ _).mem hstudent)).1
    obtain rfl : student = Sample.student := List.mem_singleton.mp hdocs
    refine .inl ⟨⟨by decide, fun id _ hid => ?_⟩, Sample.class', List.mem_singleton_self _, rfl, rfl, rfl⟩
    obtain rfl : Sample.id 1 = id := Except.ok.inj ((objectID_hex _).symm.trans hid)
    decide

/-- Somebody without a center or a class lists every student of the tenant. -/
theorem listStudents_unrestricted :
    Service.allowedIDs .memory Sample.school "erg" ⟨"stranger", []⟩ = .ok ([], []) ∧
      ¬ListsAccessible .memory Sample.school "erg" ⟨"stranger", []⟩ {} := by
  have hallowed : Service.allowedIDs .memory Sample.school "erg" ⟨"stranger", []⟩ = .ok ([], []) := by decide
  refine ⟨hallowed, fun h => ?_⟩
  have hids : (Service.listStudents .memory Sample.school "erg" ⟨"stranger", []⟩ {}).map
      (fun resp => resp.items.map StudentListItem.id) = .ok [(Sample.id 4).hex] := by
    decide
  generalize hlist : Service.listStudents .memory Sample.school "erg" ⟨"stranger", []⟩ {} = outcome at hids
  cases outcome with
  | error e => cases hids
  | ok resp =>
    have hitems : resp.items.map StudentListItem.id = [(Sample.id 4).hex] := Except.ok.inj hids
    rw [h.unassigned hallowed resp hlist] at hitems
    cases hitems

end Sample

section Siblings

variable [Library]

/-- The route to a class lists only accessible students. -/
theorem listClassStudents_accessible [MongoServer] {b : Backend} {r : Roster} {tenantID classID : String} {actor : Actor}
    {req : StudentListRequest} {resp : StudentListResponse}
    (h : Service.listClassStudents b r tenantID actor classID req = .ok resp) :
    ∀ item ∈ resp.items, ∃ student ∈ r.students.docs, item.id = student.id.hex ∧
      r.canAccessStudent tenantID actor student := by
  unfold Service.listClassStudents at h
  obtain ⟨found, hfound, h⟩ := except_bind_eq_ok.mp h
  cases found with
  | none => cases h
  | some class' =>
    dsimp only at h
    split at h
    · next haccess =>
      obtain ⟨⟨items, total, next⟩, hitems, h⟩ := except_bind_eq_ok.mp h
      cases h
      intro item hitem
      obtain ⟨student, hstudent, rfl⟩ := List.mem_map.mp hitem
      obtain ⟨_, id, _, _, hid, _, hmatches⟩ := Roster.mem_listStudents hitems
      obtain ⟨hstored, hmatches⟩ := hmatches student hstudent
      refine ⟨student, hstored, rfl, ?_⟩
      have hnamed : classID ≠ "" := by
        rintro rfl
        cases hfound
      simp only [Roster.requestedID, if_pos hnamed] at hid
      simp only [Roster.studentMatches, if_pos hnamed, Bool.and_eq_true, decide_eq_true_eq] at hmatches
      have hclass : student.classID = id := hmatches.1.1.2
      have hget : r.getClass tenantID student.classID.hex = .ok (some class') := by
        rw [← hfound]
        simp [Roster.getClass, hclass, hid]
      simp [Roster.canAccessStudent, hget, haccess]
    · cases h

/-- The route to a student returns only accessible ones. -/
theorem getStudent_accessible {r : Roster} {tenantID id : String} {actor : Actor}
    {resp : StudentDetailResponse} (h : Service.getStudent r tenantID actor id = .ok resp) :
    ∃ student ∈ r.students.docs, resp.profile.id = student.id.hex ∧
      r.canAccessStudent tenantID actor student := by
  unfold Service.getStudent at h
  obtain ⟨found, hfound, h⟩ := except_bind_eq_ok.mp h
  cases found with
  | none => cases h
  | some student =>
    dsimp only at h
    split at h
    · next haccess =>
      cases h
      unfold Roster.getStudent at hfound
      obtain ⟨oid, -, hfound⟩ := except_bind_eq_ok.mp hfound
      exact ⟨student, List.mem_of_find?_eq_some (Except.ok.inj hfound), rfl, haccess⟩
    · cases h

end Siblings

end ErgGo.Lms
