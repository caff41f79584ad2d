import ErgGo.Lib.Bson
import ErgGo.Lib.Runs
import ErgGo.Lms.Entities

/-!
# Courses, lessons and enrolments

Documents carry ObjectIDs, and the service hands its string ids to the filters as they are. A
filter compares values of their types, so no such filter finds a document. New lessons and
enrolments carry an id of their own for the course and the user.
-/

namespace ErgGo.Courses
open Go Documents Bson Runs
open Lms (ObjectID)

/-- A value that a filter compares: a string never equals an ObjectID. -/
inductive BsonID where
  | string (s : String)
  | objectID (id : ObjectID)
  deriving DecidableEq

structure Course where
  id : ObjectID
  tenantID : String
  title : String
  slug : String
  subdomain : String
  description : String
  thumbnailURL : String
  instructorID : String
  status : String
  enrollmentCount : ℤ := 0
  ratingAvg : Float64 := 0
  schemaType : String
  schemaDataJSON : String
  themeConfig : String
  createdAt : Time
  updatedAt : Time

/-- The document of a course keeps its times in milliseconds. -/
def Course.stored (c : Course) : Course :=
  { c with createdAt := dateTime c.createdAt, updatedAt := dateTime c.updatedAt }

structure CourseSyllabus where
  id : ObjectID
  courseID : ObjectID
  order : ℤ
  title : String
  content : String

structure CourseInstructor where
  id : ObjectID
  name : String
  bio : String
  avatarURL : String
  title : String

structure CourseLesson where
  id : ObjectID
  courseID : ObjectID
  order : ℤ
  title : String
  content : String
  durationMinutes : ℤ
  videoURL : String

structure CourseEnrollment where
  id : ObjectID
  courseID : ObjectID
  userID : ObjectID
  enrolledAt : Time
  progressPercent : ℤ

structure CourseStore where
  courses : List Course
  lessons : List CourseLesson
  enrollments : List CourseEnrollment
  syllabus : List CourseSyllabus
  instructors : List CourseInstructor

/-- What one call meets: new ids and clock readings, in turn. -/
structure CourseEnv where
  newID : ℕ → ObjectID
  now : ℕ → Time

/-- `InsertOne`: an id is taken once. -/
def insertOne {Doc : Type} (id : Doc → ObjectID) (doc : Doc) (docs : List Doc) : Except String (List Doc) :=
  if docs.any (fun d => id d = id doc) then .error "E11000 duplicate key error" else .ok (docs ++ [doc])

namespace Repository

/-- The filter `{"_id": id}`. -/
def byID (id : String) (c : Course) : Bool := BsonID.objectID c.id = .string id

def getByID (id : String) (s : CourseStore) : Option Course := s.courses.find? (byID id)

def getBySlug (tenantID slug : String) (s : CourseStore) : Option Course :=
  s.courses.find? fun c => c.tenantID = tenantID && c.slug = slug

def incrementEnrollment (now : Time) (courseID : String) (delta : ℤ) (s : CourseStore) : CourseStore :=
  let increment (c : Course) : Course :=
    { c with enrollmentCount := c.enrollmentCount + delta, updatedAt := dateTime now }
  { s with courses := modifyFirst (byID courseID) increment s.courses }

def listSyllabus (courseID : String) (s : CourseStore) : List CourseSyllabus :=
  sortSliceStable (fun a b => a.order < b.order)
    (s.syllabus.filter fun sec => BsonID.objectID sec.courseID = .string courseID)

def getInstructor (id : String) (s : CourseStore) : Option CourseInstructor :=
  s.instructors.find? fun i => BsonID.objectID i.id = .string id

def listLessons (courseID : String) (s : CourseStore) : List CourseLesson :=
  sortSliceStable (fun a b => a.order < b.order)
    (s.lessons.filter fun l => BsonID.objectID l.courseID = .string courseID)

def setOrder (courseID : String) (lessons : List CourseLesson) (entry : String × ℕ) : List CourseLesson :=
  modifyFirst (fun l => BsonID.objectID l.id = .string entry.1 && BsonID.objectID l.courseID = .string courseID)
    (fun l => { l with order := entry.2 }) lessons

def reorderLessons (courseID : String) (orderedIDs : List String) (s : CourseStore) : CourseStore :=
  { s with lessons := orderedIDs.zipIdx.foldl (setOrder courseID) s.lessons }

def getEnrollment (courseID userID : String) (s : CourseStore) : Option CourseEnrollment :=
  s.enrollments.find? fun e =>
    BsonID.objectID e.courseID = .string courseID && BsonID.objectID e.userID = .string userID

end Repository

open Repository

structure CreateCourseRequest where
  title : String
  slug : String
  subdomain : String
  description : String
  thumbnailURL : String
  instructorID : String
  schemaType : String
  schemaDataJSON : String
  themeConfig : String

structure LessonResponse where
  id : String
  courseID : String
  order : ℤ
  title : String
  content : String
  durationMinutes : ℤ
  videoURL : String

structure SyllabusResponse where
  id : String
  courseID : String
  order : ℤ
  title : String
  content : String

structure CourseDetail where
  course : Course
  instructor : Option CourseInstructor
  lessons : List LessonResponse
  syllabus : List SyllabusResponse

def toLessonResponse (l : CourseLesson) : LessonResponse where
  id := l.id.hex
  courseID := l.courseID.hex
  order := l.order
  title := l.title
  content := l.content
  durationMinutes := l.durationMinutes
  videoURL := l.videoURL

def toSyllabusResponse (sec : CourseSyllabus) : SyllabusResponse where
  id := sec.id.hex
  courseID := sec.courseID.hex
  order := sec.order
  title := sec.title
  content := sec.content

def newCourse (env : CourseEnv) (tenantID : String) (req : CreateCourseRequest) : Course where
  id := env.newID 0
  tenantID := tenantID
  title := req.title
  slug := req.slug
  subdomain := req.subdomain
  description := req.description
  thumbnailURL := req.thumbnailURL
  instructorID := req.instructorID
  status := "DRAFT"
  schemaType := if req.schemaType = "" then "Course" else req.schemaType
  schemaDataJSON := req.schemaDataJSON
  themeConfig := req.themeConfig
  createdAt := env.now 0
  updatedAt := env.now 0

namespace Service

def create (env : CourseEnv) (tenantID : String) (req : CreateCourseRequest) (s : CourseStore) :
    Except String Course × CourseStore :=
  if (getBySlug tenantID req.slug s).isSome then
    (.error ("course with slug " ++ req.slug.quote ++ " already exists"), s)
  else
    match insertOne Course.id (newCourse env tenantID req).stored s.courses with
    | .error e => (.error ("courses.Create: courses.Create: " ++ e), s)
    | .ok courses => (.ok (newCourse env tenantID req), { s with courses := courses })

def getDetail (id : String) (s : CourseStore) : Option CourseDetail :=
  (getByID id s).map fun c =>
    { course := c
      instructor := if c.instructorID = "" then none else getInstructor c.instructorID s
      lessons := (listLessons id s).map toLessonResponse
      syllabus := (listSyllabus id s).map toSyllabusResponse }

def reorderLessons (courseID : String) (orderedIDs : List String) (s : CourseStore) :
    Except String Unit × CourseStore :=
  match getByID courseID s with
  | none => (.error "course not found", s)
  | some _ => (.ok (), Repository.reorderLessons courseID orderedIDs s)

def createLesson (env : CourseEnv) (courseID title content videoURL : String) (duration : ℤ) (s : CourseStore) :
    Except String CourseLesson × CourseStore :=
  match getByID courseID s with
  | none => (.error "course not found", s)
  | some _ =>
    let l : CourseLesson :=
      { id := env.newID 0, courseID := env.newID 1, order := (listLessons courseID s).length, title := title,
        content := content, durationMinutes := duration, videoURL := videoURL }
    match insertOne CourseLesson.id l s.lessons with
    | .error e => (.error ("courses.CreateLesson: courses.CreateLesson: " ++ e), s)
    | .ok lessons => (.ok l, { s with lessons := lessons })

def enroll (env : CourseEnv) (courseID userID : String) (s : CourseStore) : Except String Unit × CourseStore :=
  match getEnrollment courseID userID s with
  | some _ => (.error "already enrolled", s)
  | none =>
    let enrollment : CourseEnrollment :=
      { id := env.newID 0, courseID := env.newID 1, userID := env.newID 2, enrolledAt := dateTime (env.now 0),
        progressPercent := 0 }
    match insertOne CourseEnrollment.id enrollment s.enrollments with
    | .error e => (.error ("courses.Enroll: courses.CreateEnrollment: " ++ e), s)
    | .ok enrollments => (.ok (), incrementEnrollment (env.now 1) courseID 1 { s with enrollments := enrollments })

end Service

/-! ## Histories -/

inductive CourseCall where
  | create (tenantID : String) (req : CreateCourseRequest)
  | createLesson (courseID title content videoURL : String) (duration : ℤ)
  | enroll (courseID userID : String)
  | reorderLessons (courseID : String) (orderedIDs : List String)

/-- The store, the courses created, and the lessons and enrolments of the calls that succeeded. -/
structure CourseRun where
  store : CourseStore
  created : List ObjectID := []
  lessons : List (String × ObjectID) := []
  enrolled : List (String × String) := []

def record {α β : Type} (reply : Except String α) (entry : α → β) (entries : List β) : List β :=
  match reply with
  | .ok a => entries ++ [entry a]
  | .error _ => entries

def CourseRun.step (c : CourseRun) (call : CourseEnv × CourseCall) : CourseRun :=
  match call.2 with
  | .create tenantID req =>
    let reply := Service.create call.1 tenantID req c.store
    { c with store := reply.2, created := record reply.1 Course.id c.created }
  | .createLesson courseID title content videoURL duration =>
    let reply := Service.createLesson call.1 courseID title content videoURL duration c.store
    { c with store := reply.2, lessons := record reply.1 (fun l => (courseID, l.id)) c.lessons }
  | .enroll courseID userID =>
    let reply := Service.enroll call.1 courseID userID c.store
    { c with store := reply.2, enrolled := record reply.1 (fun _ => (courseID, userID)) c.enrolled }
  | .reorderLessons courseID orderedIDs => { c with store := (Service.reorderLessons courseID orderedIDs c.store).2 }

/-- The ids of the lessons that `GetDetail` lists. -/
def listed (courseID : String) (s : CourseStore) : List String :=
  ((Service.getDetail courseID s).map fun detail => detail.lessons.map LessonResponse.id).getD []

/-- The distinct users enrolled in a course. -/
def CourseRun.users (c : CourseRun) (courseID : String) : List String :=
  ((c.enrolled.filter fun entry => entry.1 = courseID).map Prod.snd).dedup

/-- What holds of the courses created. -/
structure StoreLaws (c : CourseRun) : Prop where
  lessons : ∀ id ∈ c.created, ∀ lesson, (id.hex, lesson) ∈ c.lessons → (listed id.hex c.store).count lesson.hex = 1
  enrolled : ∀ id ∈ c.created, ∀ userID, (id.hex, userID) ∈ c.enrolled → (getEnrollment id.hex userID c.store).isSome
  count : ∀ id ∈ c.created, ∃ course ∈ c.store.courses, course.id = id ∧
    course.enrollmentCount = (c.users id.hex).length

/-- What a call on a created course returns and does. -/
def CallLaws (c : CourseRun) (call : CourseEnv × CourseCall) : Prop :=
  match call.2 with
  | .create .. => True
  | .createLesson courseID title content videoURL duration => (∃ id ∈ c.created, id.hex = courseID) →
      ∃ lesson, (Service.createLesson call.1 courseID title content videoURL duration c.store).1 = .ok lesson
  | .enroll courseID userID => (∃ id ∈ c.created, id.hex = courseID) → (courseID, userID) ∈ c.enrolled →
      ∃ e, (Service.enroll call.1 courseID userID c.store).1 = .error e
  | .reorderLessons courseID orderedIDs => orderedIDs.Perm (listed courseID c.store) →
      listed courseID (Service.reorderLessons courseID orderedIDs c.store).2 = orderedIDs

def Lawful (c : CourseRun) (call : CourseEnv × CourseCall) : Prop := CallLaws c call ∧ StoreLaws (c.step call)

/-- The call adds no lesson and no enrolment to a course of the run. -/
def LeavesCourses (c : CourseRun) (call : CourseEnv × CourseCall) : Prop :=
  match call.2 with
  | .create tenantID req => (getBySlug tenantID req.slug c.store).isSome ∨
      (∃ course ∈ c.store.courses, course.id = call.1.newID 0) ∨ ∀ userID, ((call.1.newID 0).hex, userID) ∉ c.enrolled
  | .createLesson courseID _ _ _ _ => ∀ id ∈ c.created, id.hex ≠ courseID
  | .enroll courseID _ => (∀ id ∈ c.created, id.hex ≠ courseID) ∨ ∃ e ∈ c.store.enrollments, e.id = call.1.newID 0
  | .reorderLessons .. => True

/-! ## No filter finds a document -/

section Filters

variable {s : CourseStore} {courseID userID : String}

lemma getByID_none (id : String) (s : CourseStore) : getByID id s = none := by
  unfold getByID
  rw [List.find?_eq_none]
  intro c _ hfound
  cases hfound

lemma getEnrollment_none (courseID userID : String) (s : CourseStore) : getEnrollment courseID userID s = none := by
  unfold getEnrollment
  rw [List.find?_eq_none]
  intro e _ hfound
  cases hfound

lemma listed_nil (courseID : String) (s : CourseStore) : listed courseID s = [] := by
  unfold listed Service.getDetail
  rw [getByID_none]
  rfl

lemma courses_incrementEnrollment (now : Time) (courseID : String) (delta : ℤ) (s : CourseStore) :
    (incrementEnrollment now courseID delta s).courses = s.courses := by
  refine modifyFirst_of_find?_eq_none _ ?_
  exact getByID_none courseID s

end Filters

/-- What an insertion does to the documents. -/
lemma insertOne_cases {Doc : Type} (key : Doc → ObjectID) (doc : Doc) (docs : List Doc) :
    (∃ d ∈ docs, key d = key doc) ∧ (∃ e, insertOne key doc docs = .error e) ∨
      (∀ d ∈ docs, key d ≠ key doc) ∧ insertOne key doc docs = .ok (docs ++ [doc]) := by
  unfold insertOne
  by_cases htaken : docs.any (fun d => key d = key doc)
  · rw [if_pos htaken]
    obtain ⟨d, hd, hkey⟩ := List.any_eq_true.mp htaken
    exact .inl ⟨⟨d, hd, of_decide_eq_true hkey⟩, _, rfl⟩
  · rw [if_neg htaken]
    refine .inr ⟨fun d hd hkey => htaken (List.any_eq_true.mpr ⟨d, hd, decide_eq_true hkey⟩), rfl⟩

/-! ## Runs -/

/-- No lesson was added, no created course has an enrolment and their counters are zero. -/
structure Untouched (c : CourseRun) : Prop where
  lessons : c.lessons = []
  enrolled : ∀ id ∈ c.created, ∀ userID, (id.hex, userID) ∉ c.enrolled
  count : ∀ id ∈ c.created, ∃ course ∈ c.store.courses, course.id = id ∧ course.enrollmentCount = 0

namespace Untouched

variable {c : CourseRun}

lemma users_nil {courseID : String} (h : ∀ userID, (courseID, userID) ∉ c.enrolled) : c.users courseID = [] := by
  unfold CourseRun.users
  have hnone : c.enrolled.filter (fun entry => entry.1 = courseID) = [] := by
    rw [List.filter_eq_nil_iff]
    rintro ⟨courseID', userID⟩ hentry hcourse
    obtain rfl : courseID' = courseID := of_decide_eq_true hcourse
    exact h userID hentry
  rw [hnone]
  rfl

lemma storeLaws (h : Untouched c) : StoreLaws c where
  lessons id _ lesson hlesson := by
    rw [h.lessons] at hlesson
    cases hlesson
  enrolled id hid userID hentry := absurd hentry (h.enrolled id hid userID)
  count id hid := by
    obtain ⟨course, hcourse, hsame, hzero⟩ := h.count id hid
    refine ⟨course, hcourse, hsame, ?_⟩
    rw [users_nil (h.enrolled id hid), hzero]
    rfl

lemma of_laws (hlessons : c.lessons = []) (h : StoreLaws c) : Untouched c where
  lessons := hlessons
  enrolled id hid userID hentry := by
    have hfound := h.enrolled id hid userID hentry
    rw [getEnrollment_none] at hfound
    cases hfound
  count id hid := by
    obtain ⟨course, hcourse, hsame, hcount⟩ := h.count id hid
    have hnone : ∀ userID, (id.hex, userID) ∉ c.enrolled := by
      intro userID hentry
      have hfound := h.enrolled id hid userID hentry
      rw [getEnrollment_none] at hfound
      cases hfound
    rw [users_nil hnone] at hcount
    exact ⟨course, hcourse, hsame, hcount⟩

end Untouched

lemma createLesson_refused (env : CourseEnv) (courseID title content videoURL : String) (duration : ℤ)
    (s : CourseStore) :
    Service.createLesson env courseID title content videoURL duration s = (.error "course not found", s) := by
  unfold Service.createLesson
  rw [getByID_none]

lemma reorderLessons_refused (courseID : String) (orderedIDs : List String) (s : CourseStore) :
    Service.reorderLessons courseID orderedIDs s = (.error "course not found", s) := by
  unfold Service.reorderLessons
  rw [getByID_none]

lemma lessons_step {c : CourseRun} (hlessons : c.lessons = []) (call : CourseEnv × CourseCall) :
    (c.step call).lessons = [] := by
  obtain ⟨env, call⟩ := call
  cases call with
  | create tenantID req => exact hlessons
  | createLesson courseID title content videoURL duration =>
    unfold CourseRun.step
    dsimp only
    rw [createLesson_refused]
    exact hlessons
  | enroll courseID userID => exact hlessons
  | reorderLessons courseID orderedIDs => exact hlessons

lemma create_cases (env : CourseEnv) (tenantID : String) (req : CreateCourseRequest) (s : CourseStore) :
    ((getBySlug tenantID req.slug s).isSome ∨ ∃ course ∈ s.courses, course.id = env.newID 0) ∧
        (∃ e, Service.create env tenantID req s = (.error e, s)) ∨
      ¬(getBySlug tenantID req.slug s).isSome ∧ (∀ course ∈ s.courses, course.id ≠ env.newID 0) ∧
        Service.create env tenantID req s =
          (.ok (newCourse env tenantID req),
            { s with courses := s.courses ++ [(newCourse env tenantID req).stored] }) := by
  unfold Service.create
  by_cases hslug : (getBySlug tenantID req.slug s).isSome
  · rw [if_pos hslug]
    exact .inl ⟨.inl hslug, _, rfl⟩
  · rw [if_neg hslug]
    obtain ⟨htaken, e, hinsert⟩ | ⟨hfree, hinsert⟩ :=
      insertOne_cases Course.id (newCourse env tenantID req).stored s.courses
    · rw [hinsert]
      exact .inl ⟨.inr htaken, _, rfl⟩
    · rw [hinsert]
      exact .inr ⟨hslug, hfree, rfl⟩

lemma enroll_cases (env : CourseEnv) (courseID userID : String) (s : CourseStore) :
    (∃ e ∈ s.enrollments, e.id = env.newID 0) ∧ (∃ e, Service.enroll env courseID userID s = (.error e, s)) ∨
      (∀ e ∈ s.enrollments, e.id ≠ env.newID 0) ∧ (Service.enroll env courseID userID s).1 = .ok () ∧
        (Service.enroll env courseID userID s).2.courses = s.courses := by
  unfold Service.enroll
  rw [getEnrollment_none]
  dsimp only
  obtain ⟨htaken, e, hinsert⟩ | ⟨hfree, hinsert⟩ := insertOne_cases CourseEnrollment.id
    ⟨env.newID 0, env.newID 1, env.newID 2, dateTime (env.now 0), 0⟩ s.enrollments
  · rw [hinsert]
    exact .inl ⟨htaken, _, rfl⟩
  · rw [hinsert]
    exact .inr ⟨hfree, rfl, courses_incrementEnrollment _ _ _ _⟩

section Steps

variable {c : CourseRun} {env : CourseEnv}

lemma lawful_create_iff (h : Untouched c) (tenantID : String) (req : CreateCourseRequest) :
    Lawful c (env, .create tenantID req) ↔ LeavesCourses c (env, .create tenantID req) := by
  obtain ⟨hrefused, e, hreply⟩ | ⟨hslug, hfree, hreply⟩ := create_cases env tenantID req c.store
  · have hstep : c.step (env, .create tenantID req) = c := by
      unfold CourseRun.step
      dsimp only
      rw [hreply]
      rfl
    refine iff_of_true ⟨trivial, ?_⟩ ?_
    · rw [hstep]
      exact h.storeLaws
    · obtain htaken | htaken := hrefused
      · exact .inl htaken
      · exact .inr (.inl htaken)
  have hstep : c.step (env, .create tenantID req) =
      { c with store := { c.store with courses := c.store.courses ++ [(newCourse env tenantID req).stored] }
               created := c.created ++ [env.newID 0] } := by
    unfold CourseRun.step
    dsimp only
    rw [hreply]
    rfl
  constructor
  · rintro ⟨-, hlaws⟩
    refine .inr (.inr fun userID hentry => ?_)
    rw [hstep] at hlaws
    have hfound := hlaws.enrolled (env.newID 0) (List.mem_append_right _ List.mem_cons_self) userID hentry
    rw [getEnrollment_none] at hfound
    cases hfound
  · intro hleaves
    have hnew : ∀ userID, ((env.newID 0).hex, userID) ∉ c.enrolled := by
      obtain htaken | ⟨course, hcourse, hsame⟩ | hnew := hleaves
      · exact absurd htaken hslug
      · exact absurd hsame (hfree course hcourse)
      · exact hnew
    refine ⟨trivial, Untouched.storeLaws ?_⟩
    rw [hstep]
    refine ⟨h.lessons, fun id hid userID => ?_, fun id hid => ?_⟩
    · obtain hid | hid := List.mem_append.mp hid
      · exact h.enrolled id hid userID
      · rw [List.mem_singleton.mp hid]
        exact hnew userID
    · obtain hid | hid := List.mem_append.mp hid
      · obtain ⟨course, hcourse, hsame, hzero⟩ := h.count id hid
        exact ⟨course, List.mem_append_left _ hcourse, hsame, hzero⟩
      · have hsame : id = env.newID 0 := List.mem_singleton.mp hid
        exact ⟨(newCourse env tenantID req).stored, List.mem_append_right _ List.mem_cons_self, hsame.symm, rfl⟩

lemma lawful_enroll_iff (h : Untouched c) (courseID userID : String) :
    Lawful c (env, .enroll courseID userID) ↔ LeavesCourses c (env, .enroll courseID userID) := by
  obtain ⟨htaken, e, hreply⟩ | ⟨hfree, hok, hcourses⟩ := enroll_cases env courseID userID c.store
  · have hstep : c.step (env, .enroll courseID userID) = c := by
      unfold CourseRun.step
      dsimp only
      rw [hreply]
      rfl
    refine iff_of_true ⟨fun _ _ => ⟨e, congrArg Prod.fst hreply⟩, ?_⟩ (.inr htaken)
    rw [hstep]
    exact h.storeLaws
  have henrolled : (c.step (env, .enroll courseID userID)).enrolled = c.enrolled ++ [(courseID, userID)] := by
    unfold CourseRun.step
    dsimp only
    rw [hok]
    rfl
  constructor
  · rintro ⟨-, hlaws⟩
    refine .inl fun id hid hsame => ?_
    have hentry : (id.hex, userID) ∈ (c.step (env, .enroll courseID userID)).enrolled := by
      rw [henrolled, hsame]
      exact List.mem_append_right _ List.mem_cons_self
    have hfound := hlaws.enrolled id hid userID hentry
    rw [getEnrollment_none] at hfound
    cases hfound
  · intro hleaves
    have hother : ∀ id ∈ c.created, id.hex ≠ courseID := by
      obtain hother | ⟨e, he, hsame⟩ := hleaves
      · exact hother
      · exact absurd hsame (hfree e he)
    refine ⟨?_, Untouched.storeLaws ⟨h.lessons, fun id hid user => ?_, fun id hid => ?_⟩⟩
    · rintro ⟨id, hid, hsame⟩
      exact absurd hsame (hother id hid)
    · rw [henrolled, List.mem_append, List.mem_singleton, Prod.mk.injEq]
      rintro (hbefore | ⟨hsame, -⟩)
      · exact h.enrolled id hid user hbefore
      · exact hother id hid hsame
    · obtain ⟨course, hcourse, hsame, hzero⟩ := h.count id hid
      exact ⟨course, hcourses.symm ▸ hcourse, hsame, hzero⟩

/-- As long as no course is touched, a call is lawful exactly if it leaves the courses alone. -/
lemma lawful_iff (h : Untouched c) (call : CourseEnv × CourseCall) : Lawful c call ↔ LeavesCourses c call := by
  obtain ⟨env, call⟩ := call
  cases call with
  | create tenantID req => exact lawful_create_iff h tenantID req
  | enroll courseID userID => exact lawful_enroll_iff h courseID userID
  | createLesson courseID title content videoURL duration =>
    have hreply := createLesson_refused env courseID title content videoURL duration c.store
    have hstep : c.step (env, .createLesson courseID title content videoURL duration) = c := by
      unfold CourseRun.step
      dsimp only
      rw [hreply]
      rfl
    constructor
    · rintro ⟨hcall, -⟩ id hid hsame
      obtain ⟨lesson, hok⟩ := hcall ⟨id, hid, hsame⟩
      rw [hreply] at hok
      cases hok
    · intro hother
      refine ⟨?_, ?_⟩
      · rintro ⟨id, hid, hsame⟩
        exact absurd hsame (hother id hid)
      · rw [hstep]
        exact h.storeLaws
  | reorderLessons courseID orderedIDs =>
    have hreply := reorderLessons_refused courseID orderedIDs c.store
    have hstep : c.step (env, .reorderLessons courseID orderedIDs) = c := by
      unfold CourseRun.step
      dsimp only
      rw [hreply]
    refine iff_of_true ⟨fun hperm => ?_, ?_⟩ trivial
    · rw [listed_nil] at hperm ⊢
      exact hperm.eq_nil.symm
    · rw [hstep]
      exact h.storeLaws

end Steps

/-- In every run the laws hold exactly if no call adds a lesson or an enrolment to a course of
the run. -/
theorem lawful_throughout_iff (s : CourseStore) (calls : List (CourseEnv × CourseCall)) :
    Throughout CourseRun.step Lawful { store := s } calls ↔
      Throughout CourseRun.step LeavesCourses { store := s } calls := by
  have hstart : Untouched { store := s } := ⟨rfl, List.forall_mem_nil _, List.forall_mem_nil _⟩
  exact Throughout.congr (fun _ call h hlawful => Untouched.of_laws (lessons_step h.lessons call) hlawful.2)
    (fun _ call h => lawful_iff h call) hstart calls

namespace Sample

def request : CreateCourseRequest := ⟨"Algebra", "algebra", "", "", "", "", "", "", ""⟩

/-- New ids, from a number on. -/
def idsFrom (n : ℕ) : CourseEnv := ⟨fun k => Lms.Sample.id (n + k), fun _ => 0⟩

end Sample

/-- The course is created, and a lesson of it is refused: the course is not found. -/
theorem lesson_refused : ¬Throughout CourseRun.step Lawful { store := ⟨[], [], [], [], []⟩ }
    [(Sample.idsFrom 1, .create "t" Sample.request),
      (Sample.idsFrom 2, .createLesson (Lms.Sample.id 1).hex "Lesson 1" "" "" 10)] := by
  intro h
  obtain ⟨lesson, hok⟩ := h.2.1.1 ⟨Lms.Sample.id 1, List.mem_cons_self, rfl⟩
  cases hok

end ErgGo.Courses
