import ErgGo.Lms.SequentialRuns

/-!
# The recipients of an assignment

An assignment for all students of a class takes its recipients from one page of the list of
students. Both repositories cut a page at a hundred students, so larger classes are assigned
in part.
-/

namespace ErgGo.Lms
open Go Documents Concurrent Program

/-- The students of a class. -/
def Roster.classStudents (r : Roster) (tenantID : String) (classID : ObjectID) : List Student :=
  r.students.docs.filter (fun student => student.tenantID = tenantID && student.classID = classID)

lemma Roster.nodup_classStudents (r : Roster) (tenantID : String) (classID : ObjectID) :
    ((r.classStudents tenantID classID).map Student.id).Nodup :=
  r.students.nodup.sublist (List.filter_sublist.map Student.id)

section Recipients

variable [Library]

/-- The page of the class that `CreateAssignment` asks for: its hundred newest students. -/
lemma Roster.listStudents_class [MongoServer] (b : Backend) (r : Roster) (tenantID : String)
    {id : String} {classID : ObjectID} (hid : objectID id = .ok classID) :
    ∃ total next, r.listStudents b tenantID { classID := id, limit := 100 } [] [] =
      .ok ((Library.sortSlice (fun a c => a.createdAt > c.createdAt)
        (r.classStudents tenantID classID)).take 100, total, next) := by
  have hne : id ≠ "" := by
    rintro rfl
    rw [objectID_empty] at hid
    cases hid
  have hempty : requestedID "" = .ok .nil := rfl
  have hrequested : requestedID id = .ok classID := by
    rw [requestedID, if_pos hne, hid]
  obtain ⟨textMatches, hmatcher⟩ := keywordMatcher_empty b
  have hitems : studentMatches tenantID { classID := id, limit := 100 } [] [] .nil classID textMatches =
      fun student => decide (student.tenantID = tenantID) && decide (student.classID = classID) := by
    funext student
    simp [studentMatches, hne]
  have hcursor : cursorOffset "" = 0 := by decide
  have hlimit : (if (100 : ℤ) ≤ 0 then 20 else if (100 : ℤ) > 100 then 100 else Int.toNat 100) = 100 := by
    decide
  unfold listStudents
  simp only [hempty, hrequested, hmatcher, hcursor, hlimit, Bind.bind, Except.bind, hitems]
  change ∃ total next, _ = Except.ok (List.take 100 (Library.sortSlice _ (List.filter _ _)), total, next)
  generalize Library.sortSlice (fun a c : Student => decide (a.createdAt > c.createdAt)) _ = items
  cases b with
  | memory =>
    have hstart : ¬0 > items.length := by omega
    have htake : (items.drop 0).take (min (0 + 100) items.length - 0) = items.take 100 := by
      rw [List.drop_zero, Nat.sub_zero, Nat.zero_add, ← List.take_eq_take_min]
    simp only [hstart, ↓reduceIte, htake]
    exact ⟨_, _, rfl⟩
  | mongo => exact ⟨_, _, rfl⟩

section Reads

variable [MongoServer] {b : Backend}

/-! Reading the roster leaves the store as it is. -/

lemma exec_getClass (env : Env) (tenantID id : String) (s : Store b) :
    (repository b).exec env (.getClass tenantID id) s = ((s.roster b).getClass tenantID id, s) := by
  cases b with
  | memory => rfl
  | mongo =>
    change (MongoRepository.getClass tenantID id).run.alone MongoStore.exec env s = _
    simp only [MongoRepository.getClass, Program.run_bind, Program.run_lift, Program.done_bind,
      Roster.getClass]
    cases objectID id <;> rfl

lemma exec_getCenter (env : Env) (tenantID id : String) (s : Store b) :
    (repository b).exec env (.getCenter tenantID id) s = ((s.roster b).getCenter tenantID id, s) := by
  cases b with
  | memory => rfl
  | mongo =>
    change (MongoRepository.getCenter tenantID id).run.alone MongoStore.exec env s = _
    simp only [MongoRepository.getCenter, Program.run_bind, Program.run_lift, Program.done_bind,
      Roster.getCenter]
    cases objectID id <;> rfl

lemma exec_listStudents (env : Env) (tenantID : String) (req : StudentListRequest)
    (centerIDs classIDs : List ObjectID) (s : Store b) :
    (repository b).exec env (.listStudents tenantID req centerIDs classIDs) s =
      ((s.roster b).listStudents b tenantID req centerIDs classIDs, s) := by
  cases b <;> rfl

lemma objectID_of_getQuiz {env : Env} {tenantID id : String} {s : Store b} {found : Option Quiz}
    (h : ((repository b).exec env (.getQuiz tenantID id) s).1 = .ok found) : ∃ oid, objectID id = .ok oid := by
  cases hid : objectID id with
  | ok oid => exact ⟨oid, rfl⟩
  | error e =>
    exfalso
    cases b with
    | memory =>
      simp only [repository, memoryRepository, MemoryStore.exec, hid] at h
      cases h
    | mongo =>
      change ((MongoRepository.getQuiz tenantID id).run.alone MongoStore.exec env s).1 = _ at h
      simp only [MongoRepository.getQuiz, Program.run_bind, Program.run_lift, Program.done_bind, hid] at h
      cases h

end Reads

omit [Library] in
lemma Roster.id_of_getClass {r : Roster} {tenantID id : String} {class' : Class}
    (h : r.getClass tenantID id = .ok (some class')) : objectID id = .ok class'.id := by
  unfold getClass at h
  obtain ⟨classID, hid, h⟩ := except_bind_eq_ok.mp h
  have hfind := Except.ok.inj h
  have hmatch := List.find?_some hfind
  simp only [Bool.and_eq_true, decide_eq_true_eq] at hmatch
  rw [hid, hmatch.2]

/-- How a requested quiz is stored. -/
structure Assigned (tenantID : String) (classID : ObjectID) (recipients : List ObjectID) (quizID : String)
    (a : Assignment) : Prop where
  quizID : objectID quizID = .ok a.quizID
  tenantID : a.tenantID = tenantID
  classID : a.classID = classID
  studentIDs : a.studentIDs = recipients

section Stored

variable [MongoServer] {b : Backend}

/-- The store after `created` has been added to the assignments. -/
def Adds (s s' : Store b) (created : List Assignment) : Prop :=
  ((repository b).records s').assignments = ((repository b).records s).assignments ++ created

lemma assignQuiz_adds {tenantID : String} {actor : Actor} {req : CreateAssignmentRequest} {class' : Class}
    {recipients : List ObjectID} (quizID : String) (s : Store b) :
    Ensures (repository b).exec (OnSuccess fun id s' => ∃ a, id = a.id.hex ∧ Adds s s' [a] ∧
      Assigned tenantID class'.id recipients quizID a)
      (Service.assignQuiz tenantID actor req class' recipients quizID).run s := by
  apply Ensures.run_bind
  intro env
  have hread := (repository b).contract env (.getQuiz tenantID quizID) s
  cases hreply : ((repository b).exec env (.getQuiz tenantID quizID) s).1 with
  | error e => trivial
  | ok found =>
    obtain ⟨quizOID, hid⟩ := objectID_of_getQuiz hreply
    rw [hreply] at hread
    generalize ((repository b).exec env (.getQuiz tenantID quizID) s).2 = s₁ at hread
    apply Ensures.lift_bind
    · exact fun _ _ => trivial
    intro quiz _
    apply ensures_repo_bind
    · exact fun _ _ _ _ => trivial
    rintro env a s₂ ⟨ha, hrecords⟩
    refine ⟨a.kept (repository b).keeps, rfl, ?_, ?_⟩
    · rw [Adds, hrecords, hread]
    · subst ha
      exact ⟨by rw [hid]; rfl, rfl, rfl, rfl⟩

/-- The loop over the quizzes stores one assignment for each of them. -/
lemma assignQuizzes_adds {tenantID : String} {actor : Actor} {req : CreateAssignmentRequest}
    {class' : Class} {recipients : List ObjectID} (quizIDs : List String) (s : Store b) :
    Ensures (repository b).exec (OnSuccess fun ids s' => ∃ created,
      created.map (fun a => a.id.hex) = ids ∧ Adds s s' created ∧
        List.Forall₂ (Assigned tenantID class'.id recipients) quizIDs created)
      (quizIDs.mapM (Service.assignQuiz tenantID actor req class' recipients)).run s := by
  induction quizIDs generalizing s with
  | nil => exact ⟨[], rfl, (List.append_nil _).symm, .nil⟩
  | cons quizID quizIDs ih =>
    rw [List.mapM_cons]
    apply Ensures.run_bind
    refine (assignQuiz_adds quizID s).mono ?_
    intro resp s₁ hresp
    cases resp with
    | error e => trivial
    | ok id =>
      obtain ⟨a, hid, hadds, ha⟩ := hresp
      apply Ensures.run_bind
      refine (ih s₁).mono ?_
      intro resp s₂ hresp
      cases resp with
      | error e => trivial
      | ok ids =>
        obtain ⟨created, hids, hmore, hcreated⟩ := hresp
        refine ⟨a :: created, ?_, ?_, .cons ha hcreated⟩
        · rw [List.map_cons, hids, hid]
        · rw [Adds, hmore, hadds, List.append_assoc, List.singleton_append]

/-- What `CreateAssignment` stores for all students of a class. -/
lemma createAssignment_adds (tenantID : String) (actor : Actor) {req : CreateAssignmentRequest}
    (hmode : req.recipientMode = "all") (s : Store b) :
    Ensures (repository b).exec (OnSuccess fun resp s' => ∃ classID created,
      objectID req.classID = .ok classID ∧ created.map (fun a => a.id.hex) = resp.assignmentIDs ∧
        Adds s s' created ∧ List.Forall₂ (Assigned tenantID classID
          (((Library.sortSlice (fun a c => a.createdAt > c.createdAt)
            ((s.roster b).classStudents tenantID classID)).take 100).map Student.id)) req.quizIDs created)
      (Service.createAssignment tenantID actor req).run s := by
  apply Ensures.run_bind
  intro env
  rw [exec_getClass]
  cases hclass : (s.roster b).getClass tenantID req.classID with
  | error e => trivial
  | ok found =>
    apply Ensures.lift_bind
    · exact fun _ _ => trivial
    intro class' hfound
    rw [required_ok hfound] at hclass
    have hid := Roster.id_of_getClass hclass
    have hmanage : Ensures (repository b).exec (fun _ s' => s' = s)
        (Service.canManageClass tenantID actor class') s := by
      refine Ensures.of_allRequests (P := fun q => ∃ id, q = .getCenter tenantID id) ?_
        (canManageClass_sends (fun id => ⟨id, rfl⟩) actor class') rfl
      rintro env q s₁ ⟨id, rfl⟩ rfl
      rw [exec_getCenter]
    apply Ensures.run_bind
    apply Ensures.bind
    refine hmanage.mono ?_
    rintro allowed s₁ rfl
    apply Ensures.lift_bind
    · exact fun _ _ => trivial
    intro _ _
    unfold Service.assignmentRecipients
    rw [if_pos hmode]
    apply Ensures.run_bind
    apply Ensures.run_bind
    intro env
    obtain ⟨total, next, hlist⟩ := Roster.listStudents_class b (s₁.roster b) tenantID hid
    rw [exec_listStudents, hlist]
    apply Ensures.lift_bind
    · exact fun _ _ => trivial
    intro _ _
    apply Ensures.run_bind
    refine (assignQuizzes_adds req.quizIDs s₁).mono ?_
    intro resp s₂ hresp
    cases resp with
    | error e => trivial
    | ok ids =>
      obtain ⟨created, hids, hadds, hcreated⟩ := hresp
      exact ⟨class'.id, created, hid, hids, hadds, hcreated⟩

/-- The recipients are the given students, each once. -/
def Assignment.IsFor (a : Assignment) (students : List Student) : Prop :=
  a.studentIDs.Nodup ∧ ∀ id, id ∈ a.studentIDs ↔ ∃ student ∈ students, student.id = id

/-- The call has stored an assignment for each requested quiz, each for the whole class. -/
def AssignsWholeClass (tenantID : String) (req : CreateAssignmentRequest) (resp : AssignmentBatchResponse)
    (s s' : Store b) : Prop :=
  ∃ classID created, objectID req.classID = .ok classID ∧
    created.map (fun a => a.id.hex) = resp.assignmentIDs ∧ Adds s s' created ∧
    List.Forall₂ (fun quizID a => objectID quizID = .ok a.quizID ∧ a.tenantID = tenantID ∧
      a.classID = classID ∧ a.IsFor ((s.roster b).classStudents tenantID classID)) req.quizIDs created

omit [Library] [MongoServer] in
/-- A part of the class, without repetition, is the whole class when it is no smaller. -/
lemma isFor_iff {a : Assignment} {students listed : List Student} (hnodup : (students.map Student.id).Nodup)
    (hperm : listed.Perm students) (n : ℕ) (ha : a.studentIDs = (listed.take n).map Student.id) :
    a.IsFor students ↔ students.length ≤ n := by
  have hlisted : (listed.map Student.id).Nodup := (hperm.map Student.id).nodup_iff.mpr hnodup
  have hlength : listed.length = students.length := hperm.length_eq
  constructor
  · rintro ⟨-, hmem⟩
    have hsubset : students.map Student.id ⊆ (listed.take n).map Student.id := by
      intro id hid
      obtain ⟨student, hstudent, rfl⟩ := List.mem_map.mp hid
      rw [← ha, hmem]
      exact ⟨student, hstudent, rfl⟩
    have hle := (hnodup.subperm hsubset).length_le
    rw [List.length_map, List.length_map, List.length_take] at hle
    omega
  · intro hle
    have hall : listed.take n = listed := List.take_of_length_le (by omega)
    rw [hall] at ha
    refine ⟨ha ▸ hlisted, fun id => ?_⟩
    rw [ha, List.mem_map]
    exact exists_congr fun student => and_congr_left fun _ => hperm.mem_iff

lemma size_of_assignsWholeClass {tenantID : String} {actor : Actor} {req : CreateAssignmentRequest}
    {resp : AssignmentBatchResponse} {s s' : Store b} (hmode : req.recipientMode = "all")
    (hcall : Evaluates (repository b).exec (Service.createAssignment tenantID actor req).run s (.ok resp) s')
    (h : AssignsWholeClass tenantID req resp s s') : req.quizIDs = [] ∨
      ∀ classID, objectID req.classID = .ok classID →
        ((s.roster b).classStudents tenantID classID).length ≤ 100 := by
  obtain ⟨classID, created, hid, -, hadds, hcreated⟩ :=
    (createAssignment_adds tenantID actor hmode s).sound hcall
  obtain ⟨classID', created', hid', -, hadds', hcreated'⟩ := h
  have hsame : created' = created := List.append_cancel_left (hadds'.symm.trans hadds)
  subst hsame
  generalize req.quizIDs = quizIDs at hcreated hcreated' ⊢
  cases hcreated' with
  | nil => exact .inl rfl
  | cons ha _ =>
    right
    intro classID'' hid''
    obtain rfl : classID' = classID'' := Except.ok.inj (hid'.symm.trans hid'')
    obtain rfl : classID' = classID := Except.ok.inj (hid'.symm.trans hid)
    cases hcreated with
    | cons hassigned _ =>
      have hnodup := (s.roster b).nodup_classStudents tenantID classID'
      exact (isFor_iff hnodup (Library.sortSlice_perm _ _) 100 hassigned.studentIDs).mp ha.2.2.2

/-- An assignment for all students of a class reaches all of them exactly when the class has
at most a hundred students. -/
theorem assignsWholeClass_iff {tenantID : String} {actor : Actor} {req : CreateAssignmentRequest}
    {resp : AssignmentBatchResponse} {s s' : Store b} (hmode : req.recipientMode = "all")
    (hcall : Evaluates (repository b).exec (Service.createAssignment tenantID actor req).run s (.ok resp) s') :
    AssignsWholeClass tenantID req resp s s' ↔ req.quizIDs = [] ∨ ∀ classID, objectID req.classID = .ok classID →
      ((s.roster b).classStudents tenantID classID).length ≤ 100 := by
  refine ⟨size_of_assignsWholeClass hmode hcall, fun hsize => ?_⟩
  obtain ⟨classID, created, hid, hids, hadds, hcreated⟩ :=
    (createAssignment_adds tenantID actor hmode s).sound hcall
  refine ⟨classID, created, hid, hids, hadds, ?_⟩
  obtain hempty | hsize := hsize
  · rw [hempty] at hcreated ⊢
    cases hcreated
    exact .nil
  · have hnodup := (s.roster b).nodup_classStudents tenantID classID
    refine hcreated.imp fun quizID a ha => ⟨ha.quizID, ha.tenantID, ha.classID, ?_⟩
    exact (isFor_iff hnodup (Library.sortSlice_perm _ _) 100 ha.studentIDs).mpr (hsize classID hid)

end Stored

end Recipients

section Sample

attribute [local instance] asciiLibrary Sample.server

namespace Sample

def pupil (n : ℕ) : Student :=
  { id := ⟨(id (n / 16)).digits.tail ++ (id n).digits.drop 23, rfl⟩
    tenantID := "erg", centerID := id 1, classID := id 2 }

/-- A class with the given students, and a quiz. -/
def classStore (students : Collection Student.id) : MemoryStore where
  roster := ⟨.empty, ⟨[{ id := id 2, tenantID := "erg", centerID := id 1 }], by simp⟩, students, []⟩
  quizzes := [⟨id 3, "erg", id 4⟩]
  assignments := []
  attempts := []

def assignAll : CreateAssignmentRequest :=
  { classID := (id 2).hex, quizIDs := [(id 3).hex], recipientMode := "all" }

/-- An administrator assigns the quiz to the whole class. -/
def assigned (students : Collection Student.id) : Except LmsError AssignmentBatchResponse × MemoryStore :=
  (Service.createAssignment "erg" ⟨"admin", ["admin"]⟩ assignAll).run.alone memoryRepository.exec
    ⟨0, id 5⟩ (classStore students)

lemma nodup_pupils {n : ℕ} (hn : n ≤ 256) : (((List.range n).map pupil).map Student.id).Nodup := by
  rw [List.map_map]
  refine List.Nodup.map_on ?_ List.nodup_range
  intro i hi j hj h
  rw [List.mem_range] at hi hj
  simp [pupil, Sample.id, List.replicate, Fin.ext_iff] at h
  omega

/-- A class of 101 students. -/
def crowd : Collection Student.id := ⟨(List.range 101).map pupil, nodup_pupils (by omega)⟩

/-- A class of three students. -/
def few : Collection Student.id := ⟨(List.range 3).map pupil, nodup_pupils (by omega)⟩

end Sample

theorem assignsWholeClass_few :
    ∃ resp m, AssignsWholeClass (b := .memory) "erg" Sample.assignAll resp (Sample.classStore Sample.few) m := by
  generalize hassigned : Sample.assigned Sample.few = outcome
  have hcall := evaluates_alone memoryRepository.exec ⟨0, Sample.id 5⟩
    (Service.createAssignment "erg" ⟨"admin", ["admin"]⟩ Sample.assignAll).run (Sample.classStore Sample.few)
  rw [show Program.alone _ _ _ _ = _ from hassigned] at hcall
  have hok : outcome.1.isOk := by
    rw [← hassigned]
    decide
  obtain ⟨resp | resp, m⟩ := outcome
  · cases hok
  · refine ⟨resp, m, (assignsWholeClass_iff (b := .memory) rfl hcall).mpr (.inr ?_)⟩
    intro classID _
    have hle : (Sample.few.docs.filter (fun student => student.tenantID = "erg" &&
        student.classID = classID)).length ≤ 3 := List.length_filter_le _ _
    exact hle.trans (by omega)

/-- Of a class of 101 students one is left out. -/
theorem assignAll_partial : ∃ resp m,
    Evaluates memoryRepository.exec
      (Service.createAssignment "erg" ⟨"admin", ["admin"]⟩ Sample.assignAll).run
      (Sample.classStore Sample.crowd) (.ok resp) m ∧
    Sample.assignAll.recipientMode = "all" ∧
    ¬AssignsWholeClass (b := .memory) "erg" Sample.assignAll resp (Sample.classStore Sample.crowd) m := by
  generalize hassigned : Sample.assigned Sample.crowd = outcome
  have hcall := evaluates_alone memoryRepository.exec ⟨0, Sample.id 5⟩
    (Service.createAssignment "erg" ⟨"admin", ["admin"]⟩ Sample.assignAll).run
    (Sample.classStore Sample.crowd)
  rw [show Program.alone _ _ _ _ = _ from hassigned] at hcall
  have hok : outcome.1.isOk := by
    rw [← hassigned]
    decide
  obtain ⟨resp | resp, m⟩ := outcome
  · cases hok
  · refine ⟨resp, m, hcall, rfl, fun h => ?_⟩
    have hsize := size_of_assignsWholeClass (b := .memory) rfl hcall h
    have hlength : ((Sample.classStore Sample.crowd).roster.classStudents "erg" (Sample.id 2)).length = 101 := by
      decide
    obtain hempty | hsize := hsize
    · cases hempty
    · have hle := hsize (Sample.id 2) (objectID_hex _)
      exact absurd (hlength.symm.trans_le hle) (by omega)

end Sample

end ErgGo.Lms
