import ErgGo.Lms.AccountRecipients
import ErgGo.Lms.StudentMoves

/-!
# Updates that change nothing

A profile is normalised before it is stored, by the route that creates a student and by its update.
What has been normalised is normal: an update that names no field stores it once more.
-/

namespace ErgGo.Lms
open Go Documents Concurrent Program

/-! ## Normal profiles -/

/-- Lower case as `unicode.ToLower` maps it: its own lower case, and white space where it was. -/
structure LowersCase [Library] : Prop where
  idempotent : ∀ c : Char, Library.toLower (Library.toLower c) = Library.toLower c
  isSpace : ∀ c : Char, isSpace (Library.toLower c) = isSpace c

section Texts

lemma fields_intercalate {words : List (List Char)} (hspaces : ∀ word ∈ words, ∀ c ∈ word, isSpace c = false)
    (hne : ∀ word ∈ words, word ≠ []) : fields ([' '].intercalate words) = words := by
  induction words with
  | nil => decide
  | cons word words ih =>
    have hspace := hspaces word List.mem_cons_self
    have hword : decide (word ≠ []) = true := decide_eq_true (hne word List.mem_cons_self)
    cases words with
    | nil =>
      rw [List.intercalate_singleton, fields, List.splitOnP_eq_singleton hspace]
      exact List.filter_cons_of_pos (p := fun word => decide (word ≠ [])) hword
    | cons next words =>
      have hrest := ih (fun word h => hspaces word (List.mem_cons_of_mem _ h))
        fun word h => hne word (List.mem_cons_of_mem _ h)
      rw [List.intercalate_cons_cons, fields, List.append_assoc, List.singleton_append,
        List.splitOnP_append_cons_of_forall_mem hspace ' ' (by decide)]
      exact (List.filter_cons_of_pos (p := fun word => decide (word ≠ [])) hword).trans (congrArg (word :: ·) hrest)

lemma mem_splitOnP {p : Char → Bool} {s word : List Char} (h : word ∈ s.splitOnP p) : ∀ c ∈ word, p c = false := by
  have hprepend : ∀ (s acc : List Char), (∀ c ∈ acc, p c = false) → ∀ word ∈ List.splitOnPPrepend p s acc,
      ∀ c ∈ word, p c = false := by
    intro s
    induction s with
    | nil =>
      intro acc hacc word hword c hc
      rw [List.splitOnPPrepend_nil, List.mem_singleton] at hword
      exact hacc c (List.mem_reverse.mp (hword ▸ hc))
    | cons c s ih =>
      intro acc hacc word hword
      cases hc : p c with
      | true =>
        rw [List.splitOnPPrepend_cons_pos hc, ← List.splitOnPPrepend_nil_right] at hword
        obtain rfl | hword := List.mem_cons.mp hword
        · exact fun c hc => hacc c (List.mem_reverse.mp hc)
        · exact ih [] (fun _ h => absurd h List.not_mem_nil) word hword
      | false =>
        rw [List.splitOnPPrepend_cons_neg hc] at hword
        refine ih (c :: acc) (fun c' hc' => ?_) word hword
        obtain rfl | hc' := List.mem_cons.mp hc'
        · exact hc
        · exact hacc c' hc'
  rw [← List.splitOnPPrepend_nil_right] at h
  exact hprepend s [] (fun _ h => absurd h List.not_mem_nil) word h

lemma joinFields_joinFields (s : String) : joinFields (joinFields s) = joinFields s := by
  have hfields : fields ([' '].intercalate (fields s.toList)) = fields s.toList := by
    refine fields_intercalate (fun word hword => ?_) fun word hword => ?_
    · exact mem_splitOnP (List.mem_filter.mp hword).1
    · simpa using (List.mem_filter.mp hword).2
  rw [joinFields, joinFields, String.toList_ofList, hfields]

variable [Library] (hlower : LowersCase)

include hlower

/-- Lower case does not move the white space. -/
lemma trimSpace_toLower (s : String) : trimSpace (toLower s) = toLower (trimSpace s) := by
  have hspace : isSpace ∘ Library.toLower = isSpace := funext hlower.isSpace
  rw [trimSpace, trimSpace, toLower, toLower, String.toList_ofList, String.toList_ofList, List.dropWhile_map, hspace,
    ← List.map_reverse, List.dropWhile_map, hspace, ← List.map_reverse]

lemma toLower_toLower (s : String) : toLower (toLower s) = toLower s := by
  have hmap : Library.toLower ∘ Library.toLower = Library.toLower := funext hlower.idempotent
  rw [toLower, toLower, String.toList_ofList, List.map_map, hmap]

lemma toLower_trimSpace_twice (s : String) : toLower (trimSpace (toLower (trimSpace s))) = toLower (trimSpace s) := by
  rw [trimSpace_toLower hlower, trimSpace_trimSpace, toLower_toLower hlower]

end Texts

section Profiles

variable [Library]

/-- The fields as they are checked. -/
def NormalizedStudentProfile.trimmed (profile : NormalizedStudentProfile) : NormalizedStudentProfile where
  studentCode := trimSpace profile.studentCode
  fullName := joinFields profile.fullName
  email := toLower (trimSpace profile.email)
  gender := toLower (trimSpace profile.gender)
  phone := trimSpace profile.phone
  address := trimSpace profile.address
  parentName := joinFields profile.parentName
  parentPhone := trimSpace profile.parentPhone
  parentEmail := toLower (trimSpace profile.parentEmail)
  parentRelationship := toLower (trimSpace profile.parentRelationship)
  note := trimSpace profile.note

lemma trimmed_trimmed (hlower : LowersCase) (profile : NormalizedStudentProfile) :
    profile.trimmed.trimmed = profile.trimmed := by
  simp only [NormalizedStudentProfile.trimmed, trimSpace_trimSpace, joinFields_joinFields,
    toLower_trimSpace_twice hlower]

omit [Library] in
lemma rejectIf_bind_ok {α : Type} {condition : Bool} {e : LmsError} {f : Unit → Except LmsError α} {a : α}
    (h : rejectIf condition e >>= f = .ok a) : f () = .ok a := by
  cases condition with
  | false => exact h
  | true => cases h

/-- A profile that is accepted comes back trimmed. -/
lemma normalizeStudentProfile_ok {profile normalized : NormalizedStudentProfile}
    (h : normalizeStudentProfile profile = .ok normalized) : normalized = profile.trimmed := by
  unfold normalizeStudentProfile at h
  have h := rejectIf_bind_ok h
  have h := rejectIf_bind_ok h
  have h := rejectIf_bind_ok h
  have h := rejectIf_bind_ok h
  have h := rejectIf_bind_ok h
  have h := rejectIf_bind_ok h
  have h := rejectIf_bind_ok h
  have h := rejectIf_bind_ok h
  have h := rejectIf_bind_ok h
  exact (Except.ok.inj h).symm

/-- Only the trimmed fields are looked at. -/
lemma normalizeStudentProfile_congr {profile profile' : NormalizedStudentProfile}
    (h : profile.trimmed = profile'.trimmed) : normalizeStudentProfile profile = normalizeStudentProfile profile' := by
  obtain ⟨studentCode, fullName, email, gender, phone, address, parentName, parentPhone, parentEmail,
    parentRelationship, note⟩ := profile
  obtain ⟨studentCode', fullName', email', gender', phone', address', parentName', parentPhone', parentEmail',
    parentRelationship', note'⟩ := profile'
  simp only [NormalizedStudentProfile.trimmed, NormalizedStudentProfile.mk.injEq] at h
  obtain ⟨h₁, h₂, h₃, h₄, h₅, h₆, h₇, h₈, h₉, h₁₀, h₁₁⟩ := h
  unfold normalizeStudentProfile
  dsimp only
  rw [h₁, h₂, h₃, h₄, h₅, h₆, h₇, h₈, h₉, h₁₀, h₁₁]

/-- What was accepted once is accepted as it is. -/
lemma normalizeStudentProfile_twice (hlower : LowersCase) {profile normalized : NormalizedStudentProfile}
    (h : normalizeStudentProfile profile = .ok normalized) : normalizeStudentProfile normalized = .ok normalized := by
  have htrimmed : normalized.trimmed = profile.trimmed := by
    rw [normalizeStudentProfile_ok h, trimmed_trimmed hlower]
  rw [normalizeStudentProfile_congr htrimmed, h]

end Profiles

/-! ## What the unique indexes promise -/

/-- The student as it is stored is normal. -/
def Student.Normal [Library] (student : Student) : Prop :=
  normalizeStudentProfile (StudentCall.updatedProfile student {}) = .ok (StudentCall.updatedProfile student {})

/-- In MongoDB no other student has one of the keys of this one. -/
def Roster.Indexed (b : Backend) (r : Roster) (student : Student) : Prop :=
  b = .mongo → ∀ other ∈ r.students.docs, other.id ≠ student.id → other.conflicts student = false

/-- What is stored from a profile that was accepted is normal. -/
lemma Student.Normal.of_accepted [Library] (hlower : LowersCase) {given profile : NormalizedStudentProfile}
    (h : normalizeStudentProfile given = .ok profile) {student : Student}
    (hstudent : StudentCall.updatedProfile student {} = profile) : student.Normal := by
  unfold Student.Normal
  rw [hstudent]
  exact normalizeStudentProfile_twice hlower h

lemma conflicts_comm (student other : Student) : student.conflicts other = other.conflicts student := by
  simp only [Student.conflicts, eq_comm (a := student.tenantID), eq_comm (a := student.username),
    eq_comm (a := student.studentCode) (b := other.studentCode),
    eq_comm (a := student.authUserID) (b := other.authUserID)]
  grind

namespace StudentCall

lemma named_id {r : Roster} {tenantID : String} {oid : ObjectID} {student : Student}
    (h : r.students.find (namedStudent tenantID oid) = some student) : student.id = oid := by
  have hnamed := List.find?_some h
  simp only [namedStudent, Bool.and_eq_true, decide_eq_true_eq] at hnamed
  exact hnamed.2

lemma find_updateOne_named (r : Roster) (tenantID : String) (oid : ObjectID) (update : StudentUpdate) (now : Time) :
    (r.students.updateOne (namedStudent tenantID oid) ⟨update.apply now, fun _ => rfl⟩).find
      (namedStudent tenantID oid) = (r.students.find (namedStudent tenantID oid)).map (update.apply now) :=
  find?_modifyFirst (p := namedStudent tenantID oid) (f := update.apply now) (fun _ => rfl) r.students.docs

/-- The update that is done is found under the id, and no other student has one of its keys. -/
lemma updateNamedStudent_ok {b : Backend} {now : Time} {tenantID : String} {oid : ObjectID} {update : StudentUpdate}
    {r r' : Roster} {updated : Student}
    (h : updateNamedStudent b now tenantID oid update r = (.ok (some updated), r')) :
    (∃ student, updated = update.apply now student) ∧ r'.students.find (namedStudent tenantID oid) = some updated ∧
      r'.Indexed b updated := by
  unfold updateNamedStudent at h
  cases hfound : r.students.find (namedStudent tenantID oid) with
  | none =>
    rw [hfound] at h
    cases h
  | some student =>
    rw [hfound] at h
    dsimp only at h
    split at h
    · cases h
    next hfree =>
    obtain ⟨hupdated, rfl⟩ := Prod.mk.inj h
    obtain rfl := Option.some.inj (Except.ok.inj hupdated)
    have hid := named_id hfound
    have hkept := (find_updateOne_named r tenantID oid update now).trans (congrArg _ hfound)
    refine ⟨⟨student, rfl⟩, hkept, fun hmongo => ?_⟩
    rw [hmongo, decide_eq_true rfl, Bool.true_and, Bool.not_eq_true, List.any_eq_false] at hfree
    refine forall_modifyFirst (fun other hother hne => ?_) fun other hother hne => ?_
    · have hother := hfree other hother
      rw [decide_eq_true (hid ▸ hne), Bool.true_and, Bool.not_eq_true] at hother
      exact hother
    · obtain rfl := Option.some.inj (hfound.symm.trans hother)
      exact absurd rfl hne

/-- An update that keeps the keys of a student is done. -/
lemma updateNamedStudent_indexed {b : Backend} {tenantID : String} {r : Roster} {student : Student}
    (hindexed : r.Indexed b student) (hfound : r.students.find (namedStudent tenantID student.id) = some student)
    (update : StudentUpdate) (hcode : update.profile.studentCode = student.studentCode) (now : Time) :
    ∃ r', updateNamedStudent b now tenantID student.id update r = (.ok (some (update.apply now student)), r') := by
  unfold updateNamedStudent
  rw [hfound]
  dsimp only
  have hkeys : ∀ other : Student, other.conflicts (update.apply now student) = other.conflicts student := by
    intro other
    simp only [Student.conflicts, StudentUpdate.apply, hcode]
  rw [if_neg]
  · exact ⟨_, rfl⟩
  · simp only [Bool.and_eq_true, decide_eq_true_eq, List.any_eq_true, not_and, not_exists, hkeys]
    intro hmongo other hother hne
    exact Bool.eq_false_iff.mp (hindexed hmongo other hother hne)

/-- No request gives one of the keys of a stored student to another. -/
lemma indexed_exec {b : Backend} {r : Roster} {student : Student} (hmem : student ∈ r.students.docs)
    (hindexed : r.Indexed b student) (now : Time) (q : StudentRequest) :
    (StudentStore.exec b now q r).2.Indexed b student := by
  cases q with
  | getCenter => exact hindexed
  | getClass => exact hindexed
  | getStudent => exact hindexed
  | updateStudent tenantID id update =>
    unfold StudentStore.exec
    dsimp only
    cases hid : objectID id with
    | error err => exact hindexed
    | ok oid =>
      dsimp only
      unfold updateNamedStudent
      split
      · exact hindexed
      next found hfound =>
      dsimp only
      split
      · exact hindexed
      next hfree =>
      intro hmongo
      rw [hmongo, decide_eq_true rfl, Bool.true_and, Bool.not_eq_true, List.any_eq_false] at hfree
      refine forall_modifyFirst (fun other hother => hindexed hmongo other hother) fun other hother hne => ?_
      obtain rfl := Option.some.inj (hfound.symm.trans hother)
      have hid : found.id = oid := named_id hfound
      have hother : student.id ≠ oid := fun hsame => hne (hid.trans hsame.symm)
      have hkept := hfree student hmem
      rw [decide_eq_true hother, Bool.true_and, Bool.not_eq_true] at hkept
      exact (conflicts_comm _ _).trans hkept
  | setStudentClass tenantID id target =>
    unfold StudentStore.exec
    dsimp only
    cases hid : objectID id with
    | error err => exact hindexed
    | ok oid =>
      intro hmongo
      refine forall_modifyFirst (fun other hother => hindexed hmongo other hother) fun other hother hne => ?_
      exact hindexed hmongo other (List.mem_of_find?_eq_some hother) hne

section Calls

variable [Library] {b : Backend} {tenantID id : String} {actor : Actor} {r : Roster}

lemma ensures_showStudent (student : Student) :
    Ensures (StudentStore.exec b) (fun resp r' => (∃ item, resp = .ok item) ∧ r' = r)
      (showStudent tenantID student).run r := by
  unfold showStudent reply
  rw [run_lift_bind]
  exact fun _ _ => ⟨⟨_, rfl⟩, rfl⟩

/-- The class of an update is only read. -/
lemma ensures_updatedClass (classID : Option String) :
    Ensures (StudentStore.exec b) (fun _ r' => r' = r) (updatedClass tenantID actor classID).run r := by
  cases classID with
  | none => rfl
  | some classID =>
    unfold updatedClass
    refine ensures_send_bind (fun now => (answers_exec b).getClass now tenantID classID r) (fun _ _ => rfl)
      fun found _ => ?_
    refine Ensures.lift_bind (fun _ _ => rfl) fun target _ => ?_
    exact ensures_rejectIf (classAccess_checks (answers_exec b) target) (fun _ => rfl) fun _ => rfl

omit [Library] in
lemma getStudent_ok {oid : ObjectID} (hid : objectID id = .ok oid) :
    r.getStudent tenantID id = .ok (r.students.find (namedStudent tenantID oid)) := by
  unfold Roster.getStudent
  rw [hid]
  rfl

omit [Library] in
lemma mem_of_getStudent {student : Student} (h : r.getStudent tenantID id = .ok (some student)) :
    student ∈ r.students.docs ∧ student.tenantID = tenantID := by
  unfold Roster.getStudent at h
  obtain ⟨oid, -, hfound⟩ := except_bind_eq_ok.mp h
  have hfound := Except.ok.inj hfound
  have hnamed := List.find?_some hfound
  simp only [Bool.and_eq_true, decide_eq_true_eq] at hnamed
  exact ⟨List.mem_of_find?_eq_some hfound, hnamed.1⟩

omit [Library] in
lemma exec_updateStudent {now : Time} {oid : ObjectID} (hid : objectID id = .ok oid) (update : StudentUpdate) :
    StudentStore.exec b now (.updateStudent tenantID id update) r = updateNamedStudent b now tenantID oid update r := by
  simp only [StudentStore.exec, hid]

omit [Library] in
lemma exec_updateStudent_ok {now : Time} {update : StudentUpdate} {updated : Student} {r' : Roster}
    (h : StudentStore.exec b now (.updateStudent tenantID id update) r = (.ok (some updated), r')) :
    ∃ oid, objectID id = .ok oid ∧ updateNamedStudent b now tenantID oid update r = (.ok (some updated), r') := by
  cases hid : objectID id with
  | error err =>
    simp only [StudentStore.exec, hid] at h
    cases h
  | ok oid => exact ⟨oid, rfl, (exec_updateStudent hid update).symm.trans h⟩

/-- A successful update has stored a normal student. -/
lemma ensures_updateStudent_normal (hlower : LowersCase) (req : UpdateStudentRequest) :
    Ensures (StudentStore.exec b) (OnSuccess fun _ r' => ∃ updated, r'.getStudent tenantID id = .ok (some updated) ∧
        updated.Normal ∧ r'.Indexed b updated)
      (updateStudent tenantID actor id req).run r := by
  unfold updateStudent
  refine ensures_send_bind (fun now => (answers_exec b).getStudent now tenantID id r) (fun _ _ => trivial)
    fun found _ => ?_
  refine Ensures.lift_bind (fun _ _ => trivial) fun student _ => ?_
  refine ensures_rejectIf (studentAccess_checks (answers_exec b) student) (fun _ => trivial) fun _ => ?_
  refine Ensures.lift_bind (fun _ _ => trivial) fun profile hprofile => ?_
  refine Ensures.run_bind ((ensures_updatedClass req.classID).mono ?_)
  rintro (err | class') s rfl
  · trivial
  refine Ensures.run_bind fun now => ?_
  generalize hout : StudentStore.exec b now _ s = out
  obtain ⟨err | _ | updated, r'⟩ := out
  · trivial
  · trivial
  · obtain ⟨oid, hid, hupdate⟩ := exec_updateStudent_ok hout
    obtain ⟨⟨before, hupdated⟩, hfound, hindexed⟩ := updateNamedStudent_ok hupdate
    refine Ensures.run_bind ((ensures_showStudent updated).mono ?_)
    rintro _ r'' ⟨⟨item, rfl⟩, rfl⟩
    refine ⟨updated, (getStudent_ok hid).trans (congrArg _ hfound), .of_accepted hlower hprofile ?_, hindexed⟩
    rw [hupdated]
    rfl

/-- An update that names no field is done, and changes no more than the time of the update. -/
lemma ensures_updateStudent_empty {student : Student} (hnormal : student.Normal) (hindexed : r.Indexed b student)
    (hfound : r.getStudent tenantID student.id.hex = .ok (some student))
    (haccess : r.canAccessStudent tenantID actor student) :
    Ensures (StudentStore.exec b) (fun resp r' => (∃ updated, resp = .ok updated) ∧ ∃ now,
        r'.getStudent tenantID student.id.hex = .ok (some { student with updatedAt := now }))
      (updateStudent tenantID actor student.id.hex {}).run r := by
  have hid := objectID_hex student.id
  have hstudent := Except.ok.inj ((getStudent_ok hid).symm.trans hfound)
  unfold updateStudent
  refine ensures_send_bind (fun now => (answers_exec b).getStudent now tenantID student.id.hex r) (fun err herr => ?_)
    fun found hfound' => ?_
  · cases (herr.resolve_right id).symm.trans hfound
  obtain rfl : found = some student := Except.ok.inj (hfound'.symm.trans hfound)
  refine Ensures.lift_bind (fun err herr => by cases herr) fun _ hsome => ?_
  obtain rfl := Except.ok.inj hsome
  refine ensures_rejectIf (studentAccess_checks (answers_exec b) student) (fun hdenied => ?_) fun _ => ?_
  · cases (hdenied.resolve_left id).symm.trans haccess
  rw [hnormal]
  refine Ensures.lift_bind (fun err herr => by cases herr) fun profile hprofile => ?_
  obtain rfl := Except.ok.inj hprofile
  refine Ensures.run_bind ?_
  refine Ensures.run_bind fun now => ?_
  obtain ⟨r', hupdate⟩ := updateNamedStudent_indexed hindexed hstudent { profile := updatedProfile student {} } rfl now
  have hkept := (updateNamedStudent_ok hupdate).2.1
  generalize hout : StudentStore.exec b now _ r = out
  obtain rfl : _ = out := ((exec_updateStudent hid _).trans hupdate).symm.trans hout
  refine Ensures.run_bind ((ensures_showStudent _).mono ?_)
  rintro _ r'' ⟨⟨item, rfl⟩, rfl⟩
  exact ⟨⟨_, rfl⟩, now, (getStudent_ok hid).trans (congrArg _ hkept)⟩

end Calls

end StudentCall

/-! ## The students that the routes store -/

section Stored

variable [Library] [AccountLibrary] {b : Backend} {tenantID : String} {s₀ s : AccountStore}

/-- A student that is created belongs to the tenant and is normal. -/
def AccountRequest.CreatesNormal (tenantID : String) (q : AccountRequest) : Prop :=
  ∀ student, q = .createStudent student → student.tenantID = tenantID ∧ student.Normal

lemma createStudent_route_normal [Go.Unicode] (hlower : LowersCase) (provisioning : Bool) (tenantID : String)
    (actor : Actor) (req : CreateStudentRequest) :
    (Service.createStudent provisioning tenantID actor req).run.AllRequests
      (AccountRequest.CreatesNormal tenantID) := by
  refine createStudent_route provisioning tenantID actor req
    (fun q hq student hstudent => absurd hstudent (hq student)) ?_
  rintro given profile class' username userID hprofile student hstudent
  obtain rfl := AccountRequest.createStudent.inj hstudent
  exact ⟨rfl, .of_accepted hlower hprofile rfl⟩

/-- The students that were not there before. -/
def NormalSince (b : Backend) (tenantID : String) (before after : AccountStore) : Prop :=
  ∀ student ∈ after.students, student ∈ before.students ∨
    student.tenantID = tenantID ∧ student.Normal ∧ after.roster.Indexed b student

/-- A student is created where no other has one of its keys. -/
lemma refusing_createStudent_free {env : AccountEnv × Bool} {student created : Student} {s' : AccountStore}
    (h : AccountStore.refusing b env (.createStudent student) s = (.ok created, s')) (hmongo : b = .mongo) :
    ∀ other ∈ s.students, (student.stored env.1).conflicts other = false := by
  unfold AccountStore.refusing at h
  split at h
  · cases h
  have hcreated : (createStudent b env.1 student s.roster).1 = .ok created := congrArg Prod.fst h
  unfold createStudent at hcreated
  split at hcreated
  · cases hcreated
  next hfree =>
  rw [hmongo, decide_eq_true rfl, Bool.true_and, Bool.not_eq_true, List.any_eq_false] at hfree
  exact fun other hother => Bool.eq_false_iff.mpr (hfree other hother)

lemma indexed_refusing {student : Student} (hmem : student ∈ s.students) (hindexed : s.roster.Indexed b student)
    (env : AccountEnv × Bool) (q : AccountRequest) : (AccountStore.refusing b env q s).2.roster.Indexed b student := by
  by_cases hcreates : ∃ given, q = .createStudent given
  · obtain ⟨given, rfl⟩ := hcreates
    obtain ⟨created, s', hcreate, hs'⟩ | ⟨e, hcreate⟩ := refusing_createStudent b env given s
    · rw [hcreate]
      intro hmongo other hother hne
      change other ∈ s'.students at hother
      rw [hs'] at hother
      obtain hold | hnew := List.mem_append.mp hother
      · exact hindexed hmongo other hold hne
      · rw [List.mem_singleton.mp hnew]
        exact refusing_createStudent_free hcreate hmongo student hmem
    · rw [hcreate]
      exact hindexed
  · rw [roster_refusing fun given hgiven => hcreates ⟨given, hgiven⟩]
    exact hindexed

lemma NormalSince.step {env : AccountEnv × Bool} {q : AccountRequest} (hq : q.CreatesNormal tenantID)
    (h : NormalSince b tenantID s₀ s) : NormalSince b tenantID s₀ (AccountStore.refusing b env q s).2 := by
  have hold : ∀ student ∈ s.students, student ∈ s₀.students ∨ student.tenantID = tenantID ∧ student.Normal ∧
      (AccountStore.refusing b env q s).2.roster.Indexed b student := fun student hstudent =>
    (h student hstudent).imp_right fun ⟨htenant, hnormal, hindexed⟩ =>
      ⟨htenant, hnormal, indexed_refusing hstudent hindexed env q⟩
  by_cases hcreates : ∃ student, q = .createStudent student
  · obtain ⟨given, rfl⟩ := hcreates
    obtain ⟨created, s', hcreate, hs'⟩ | ⟨e, hcreate⟩ := refusing_createStudent b env given s
    · have hfree := refusing_createStudent_free hcreate
      obtain ⟨htenant, hnormal⟩ := hq given rfl
      rw [hcreate] at hold ⊢
      intro student hstudent
      dsimp only at hstudent
      rw [hs'] at hstudent
      obtain hstudent | hnew := List.mem_append.mp hstudent
      · exact hold student hstudent
      obtain rfl := List.mem_singleton.mp hnew
      refine .inr ⟨htenant, hnormal, fun hmongo other hother hne => ?_⟩
      change other ∈ s'.students at hother
      rw [hs'] at hother
      obtain hother | hother := List.mem_append.mp hother
      · exact (conflicts_comm _ _).trans (hfree hmongo other hother)
      · exact absurd (congrArg Student.id (List.mem_singleton.mp hother)) hne
    · rw [hcreate]
      exact h
  · have hroster : (AccountStore.refusing b env q s).2.roster = s.roster :=
      roster_refusing fun student hstudent => hcreates ⟨student, hstudent⟩
    intro student hstudent
    unfold AccountStore.students at hstudent
    rw [hroster] at hstudent
    exact hold student hstudent

/-- Any further requests, which have kept the student as it is. -/
inductive Kept (b : Backend) (student : Student) (r₀ : Roster) : Roster → Prop
  | refl : Kept b student r₀ r₀
  | accountRequest {s : AccountStore} (env : AccountEnv × Bool) (q : AccountRequest) (kept : Kept b student r₀ s.roster)
      (mem : student ∈ (AccountStore.refusing b env q s).2.students) :
      Kept b student r₀ (AccountStore.refusing b env q s).2.roster
  | studentRequest {r : Roster} (now : Time) (q : StudentRequest) (kept : Kept b student r₀ r)
      (mem : student ∈ (StudentStore.exec b now q r).2.students.docs) :
      Kept b student r₀ (StudentStore.exec b now q r).2

lemma Kept.indexed {student : Student} {r₀ r : Roster} (h : Kept b student r₀ r) (hmem : student ∈ r₀.students.docs)
    (hindexed : r₀.Indexed b student) : student ∈ r.students.docs ∧ r.Indexed b student := by
  induction h with
  | refl => exact ⟨hmem, hindexed⟩
  | accountRequest env q kept mem ih => exact ⟨mem, indexed_refusing ih.1 ih.2 env q⟩
  | studentRequest now q kept mem ih => exact ⟨mem, StudentCall.indexed_exec ih.1 ih.2 now q⟩

variable [Go.Unicode]

/-- The student is in the roster as one of the routes, which has succeeded, has left it. -/
inductive StoredBy (b : Backend) (tenantID : String) (student : Student) (r : Roster) : Prop
  | createStudent {provisioning : Bool} {actor : Actor} {req : CreateStudentRequest} {resp : StudentResponse}
      {s s' : AccountStore}
      (run : Evaluates (AccountStore.refusing b) (Service.createStudent provisioning tenantID actor req).run s
        (.ok resp) s')
      (roster : s'.roster = r) (mem : student ∈ s'.students) (fresh : student ∉ s.students)
  | updateStudent {actor : Actor} {id : String} {req : UpdateStudentRequest} {resp : StudentResponse}
      {before : Roster}
      (run : Evaluates (StudentStore.exec b) (StudentCall.updateStudent tenantID actor id req).run before (.ok resp) r)
      (found : r.getStudent tenantID id = .ok (some student))

lemma StoredBy.normal (hlower : LowersCase) {student : Student} {r : Roster} (h : StoredBy b tenantID student r) :
    student ∈ r.students.docs ∧ student.tenantID = tenantID ∧ student.Normal ∧ r.Indexed b student := by
  cases h with
  | @createStudent provisioning actor req resp s s' run roster mem fresh =>
    have hsince : Ensures (AccountStore.refusing b) (fun _ s' => NormalSince b tenantID s s')
        (Service.createStudent provisioning tenantID actor req).run s :=
      Ensures.of_allRequests (fun _ _ _ hq h => h.step hq)
        (createStudent_route_normal hlower provisioning tenantID actor req) fun student hstudent => .inl hstudent
    obtain hold | hnew := hsince.sound run student mem
    · exact absurd hold fresh
    · subst roster
      exact ⟨mem, hnew⟩
  | @updateStudent actor id req resp before run found =>
    obtain ⟨updated, hfound, hnormal, hindexed⟩ := (StudentCall.ensures_updateStudent_normal hlower req).sound run
    obtain rfl : updated = student := Option.some.inj (Except.ok.inj (hfound.symm.trans found))
    obtain ⟨hmem, htenant⟩ := StudentCall.mem_of_getStudent found
    exact ⟨hmem, htenant, hnormal, hindexed⟩

/-- As long as a student stays as one of the routes has stored it, whoever may access it can update it
without naming a field, which succeeds and changes no more than the time of the update. -/
theorem updateStudent_empty (hlower : LowersCase) {student : Student} {r₀ r r' : Roster} {actor : Actor}
    {resp : Except LmsError StudentResponse} (hstored : StoredBy b tenantID student r₀) (hkept : Kept b student r₀ r)
    (haccess : r.canAccessStudent tenantID actor student)
    (hrun : Evaluates (StudentStore.exec b) (StudentCall.updateStudent tenantID actor student.id.hex {}).run r resp
      r') :
    (∃ updated, resp = .ok updated) ∧
      ∃ now, r'.getStudent tenantID student.id.hex = .ok (some { student with updatedAt := now }) := by
  obtain ⟨hmem, htenant, hnormal, hindexed⟩ := hstored.normal hlower
  obtain ⟨hmem, hindexed⟩ := hkept.indexed hmem hindexed
  exact (StudentCall.ensures_updateStudent_empty hnormal hindexed (StudentCall.getStudent_of_mem hmem htenant)
    haccess).sound hrun

end Stored

section Sample

attribute [local instance] asciiLibrary asciiUnicode Sample.accountLibrary

namespace Sample

lemma toLower_of_not_isUpper {c : Char} (h : ¬c.isUpper) : c.toLower = c :=
  dif_neg fun hupper => h (decide_eq_true hupper)

lemma forall_isUpper {P : Char → Prop} (h : ∀ n < 91, 65 ≤ n → P (Char.ofNat n)) {c : Char} (hupper : c.isUpper) :
    P c := by
  obtain ⟨hlow, hhigh⟩ : 65 ≤ c.toNat ∧ c.toNat ≤ 90 := by
    have hbounds : 'A'.val ≤ c.val ∧ c.val ≤ 'Z'.val := of_decide_eq_true hupper
    exact ⟨UInt32.le_iff_toNat_le.mp hbounds.1, UInt32.le_iff_toNat_le.mp hbounds.2⟩
  have hletter := h c.toNat (Nat.lt_succ_of_le hhigh) hlow
  rwa [Char.ofNat_toNat] at hletter

lemma lowersCase_ascii : LowersCase where
  idempotent c := by
    by_cases hupper : c.isUpper
    · exact forall_isUpper (P := fun c => c.toLower.toLower = c.toLower) (by decide) hupper
    · exact congrArg Char.toLower (toLower_of_not_isUpper hupper)
  isSpace c := by
    by_cases hupper : c.isUpper
    · exact forall_isUpper (P := fun c => isSpace c.toLower = isSpace c) (by decide) hupper
    · exact congrArg isSpace (toLower_of_not_isUpper hupper)

/-- Most fields of this request are not as they will be stored. -/
def registration : CreateStudentRequest :=
  { fullName := " An  Ngo ", classID := (id 2).hex, username := "an.ngo", studentCode := "HS-01 ", gender := " Female",
    email := " An@ERG.edu.vn", phone := "+84 123 456" }

def registered : Except LmsError StudentResponse × AccountStore :=
  (Service.createStudent true "t" registrar registration).run.alone (AccountStore.refusing .mongo)
    (drawing (id 4), false) enrolment

end Sample

theorem updateStudent_empty_registered : ∃ (student : Student) (resp : Except LmsError StudentResponse) (r' : Roster),
    StoredBy .mongo "t" student Sample.registered.2.roster ∧
    Evaluates (StudentStore.exec .mongo) (StudentCall.updateStudent "t" Sample.registrar student.id.hex {}).run
      Sample.registered.2.roster resp r' ∧
    (∃ updated, resp = .ok updated) ∧
      ∃ now, r'.getStudent "t" student.id.hex = .ok (some { student with updatedAt := now }) := by
  have hfacts : (Sample.registered.1.isOk, Sample.registered.2.students.map Student.email) =
      (true, ["an@erg.edu.vn"]) := by decide
  obtain ⟨hok, hemails⟩ := Prod.mk.inj hfacts
  obtain ⟨student, hstudents, -⟩ := List.map_eq_singleton_iff.mp hemails
  have hmem : student ∈ Sample.registered.2.students := hstudents ▸ List.mem_singleton_self student
  have hrun := evaluates_alone (AccountStore.refusing .mongo) (Sample.drawing (Sample.id 4), false)
    (Service.createStudent true "t" Sample.registrar Sample.registration).run Sample.enrolment
  change Evaluates _ _ _ Sample.registered.1 Sample.registered.2 at hrun
  cases hresp : Sample.registered.1 with
  | error err =>
    rw [hresp] at hok
    cases hok
  | ok resp =>
    rw [hresp] at hrun
    have hstored : StoredBy .mongo "t" student Sample.registered.2.roster :=
      .createStudent hrun rfl hmem List.not_mem_nil
    have hupdate := evaluates_alone (StudentStore.exec .mongo) 1
      (StudentCall.updateStudent "t" Sample.registrar student.id.hex {}).run Sample.registered.2.roster
    exact ⟨student, _, _, hstored, hupdate, updateStudent_empty Sample.lowersCase_ascii hstored .refl (by rfl) hupdate⟩

end Sample

end ErgGo.Lms
