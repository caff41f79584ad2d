import ErgGo.Lib.Csv
import ErgGo.Lib.DataUrl
import ErgGo.Lms.AccountRuns
import ErgGo.Lms.ContentRepository
import ErgGo.Lms.StudentAccess

/-!
# Exports

A list is read to its end by the cursors of its pages. In this way the roster is exported, as
the data URL of a CSV text; the credentials of an import are exported likewise.
-/

namespace ErgGo.Lms
open Go Documents Paging

/-! ## Cursors -/

/-- The cursor of the next page; the empty text where there is none. -/
def nextCursor (cursor : String) : Option String := if cursor = "" then none else some cursor

lemma parseInt64_toString (n : ℕ) : parseInt64 (toString n) = min (n : ℤ) (2 ^ 63 - 1) := by
  have hdigits : ∀ c ∈ Nat.toDigits 10 n, c.isDigit :=
    fun c hc => Nat.isDigit_of_mem_toDigits (by decide) (by decide) hc
  have hvalue : (Nat.toDigits 10 n).foldl (fun n c => 10 * n + (c.toNat - 48)) 0 = n := Nat.ofDigitChars_ten_toDigits
  have hne : Nat.toDigits 10 n ≠ [] := Nat.toDigits_ne_nil
  unfold parseInt64
  rw [Nat.toString_eq_ofList_toDigits, String.toList_ofList]
  generalize Nat.toDigits 10 n = digits at hdigits hvalue hne
  have hall : (digits.isEmpty || !digits.all Char.isDigit) = false := by
    simpa [hne] using hdigits
  obtain - | ⟨c, digits⟩ := digits
  · exact absurd rfl hne
  have hfirst := hdigits c List.mem_cons_self
  dsimp only
  split
  · rename_i heq
    obtain ⟨rfl, -⟩ := List.cons.inj heq
    exact absurd hfirst (by decide)
  · rename_i heq
    obtain ⟨rfl, -⟩ := List.cons.inj heq
    exact absurd hfirst (by decide)
  · rw [hall, if_neg Bool.false_ne_true, hvalue]
    rfl

/-- The offset of a cursor that a page has named. -/
lemma cursorOffset_toString {n : ℕ} (h : n < 2 ^ 63) : cursorOffset (toString n) = n := by
  rw [cursorOffset, parseInt64_toString]
  omega

lemma nextCursor_toString (n : ℕ) : nextCursor (toString n) = some (toString n) := by
  refine if_neg fun hempty => ?_
  rw [Nat.toString_eq_ofList_toDigits] at hempty
  have hnil := congrArg String.toList hempty
  rw [String.toList_ofList] at hnil
  exact Nat.toDigits_ne_nil hnil

/-! ## Pages of a list -/

section Pages

variable {α : Type}

/-- Each cursor that a page names is the offset of the next page, if a number of the list's length
fits an `int`. -/
lemma pages_cutPage {ε : Type} {b : Backend} {items : List α} {limit : ℕ} (hfits : items.length < 2 ^ 63)
    {fetch : String → Except ε (List α × Option String)}
    (hfetch : ∀ cursor, fetch cursor = .ok ((cutPage b items (cursorOffset cursor) limit).1,
      nextCursor (cutPage b items (cursorOffset cursor) limit).2.2)) : Pages fetch cursorOffset limit items where
  last cursor hoffset hend := by
    rw [hfetch, cutPage_eq b hoffset, if_neg (by omega)]
    rfl
  next cursor hnext := by
    refine ⟨toString (cursorOffset cursor + limit), ?_, cursorOffset_toString (by omega)⟩
    rw [hfetch, cutPage_eq b (by omega), if_pos hnext]
    exact congrArg Except.ok (Prod.ext rfl (nextCursor_toString _))

/-- With enough fuel the cursors are followed to the end, and the pages are the list; where there is
no list, the error is the result. -/
def Covers {ε : Type} (run : ℕ → Except ε (Option (List (List α)))) (list : Except ε (List α)) : Prop :=
  ∃ enough, ∀ fuel ≥ enough, match list with
    | .error err => run fuel = .error err
    | .ok items => ∃ pages, run fuel = .ok (some pages) ∧ pages.flatten = items

lemma covers_error {ε : Type} {fetch : String → Except ε (List α × Option String)} {err : ε}
    (h : fetch "" = .error err) : Covers (fun fuel => follow fetch fuel "") (.error err) := by
  refine ⟨1, fun fuel hfuel => ?_⟩
  cases fuel with
  | zero => omega
  | succ fuel =>
    change follow fetch (fuel + 1) "" = .error err
    unfold follow
    rw [h]

lemma covers_follow {ε : Type} {fetch : String → Except ε (List α × Option String)} {limit : ℕ} {items : List α}
    (hlimit : 0 < limit) (h : Pages fetch cursorOffset limit items) :
    Covers (fun fuel => follow fetch fuel "") (.ok items) := by
  refine ⟨items.length + 1, fun fuel hfuel => ?_⟩
  have hstart : cursorOffset "" = 0 := by decide
  have hle : fuel ≤ fuel * limit := Nat.le_mul_of_pos_right fuel hlimit
  obtain ⟨pages, hpages, hflat⟩ := h.follow fuel "" (by omega) (by omega)
  refine ⟨pages, hpages, ?_⟩
  rw [hflat, hstart, List.drop_zero]

/-- A list that is covered is what the pages of a run come to. -/
lemma Covers.result {ε : Type} {fetch : String → Except ε (List α × Option String)} {list : Except ε (List α)}
    (h : Covers (fun fuel => follow fetch fuel "") list) {fuel : ℕ} {pages : List (List α)}
    (hrun : follow fetch fuel "" = .ok (some pages)) : list = .ok pages.flatten := by
  obtain ⟨enough, henough⟩ := h
  have hlater := henough (max enough fuel) (Nat.le_max_left _ _)
  have hmore := follow_mono (Nat.le_max_right enough fuel) hrun
  cases list with
  | error err => cases hmore.symm.trans hlater
  | ok items =>
    obtain ⟨_, hpages, rfl⟩ := hlater
    cases hmore.symm.trans hpages
    rfl

end Pages

section Lists

variable [Library] [MongoServer]

/-- One page of the repository's list of students. -/
def Roster.studentPage (b : Backend) (r : Roster) (tenantID : String) (req : StudentListRequest)
    (allowedCenterIDs allowedClassIDs : List ObjectID) (cursor : String) :
    Except LmsError (List Student × Option String) :=
  (r.listStudents b tenantID { req with cursor := cursor } allowedCenterIDs allowedClassIDs).map fun page =>
    (page.1, nextCursor page.2.2)

lemma Roster.pages_studentPage {b : Backend} {r : Roster} (hfits : r.students.docs.length < 2 ^ 63) (tenantID : String)
    (req : StudentListRequest) {allowedCenterIDs allowedClassIDs : List ObjectID} {p : Student → Bool}
    (hp : Roster.matching b tenantID req allowedCenterIDs allowedClassIDs = .ok p) :
    Pages (r.studentPage b tenantID req allowedCenterIDs allowedClassIDs) cursorOffset (studentLimit req.limit)
      (r.ordered p) := by
  refine pages_cutPage (b := b) ((r.length_ordered_le p).trans_lt hfits) fun cursor => ?_
  have hmatching :
      Roster.matching b tenantID { req with cursor := cursor } allowedCenterIDs allowedClassIDs = .ok p := hp
  unfold Roster.studentPage
  rw [Roster.listStudents_eq, hmatching]
  rfl

lemma Roster.covers_studentPage (b : Backend) {r : Roster} (hfits : r.students.docs.length < 2 ^ 63) (tenantID : String)
    (req : StudentListRequest) (allowedCenterIDs allowedClassIDs : List ObjectID) :
    Covers (fun fuel => follow (r.studentPage b tenantID req allowedCenterIDs allowedClassIDs) fuel "")
      (r.allStudents b tenantID req allowedCenterIDs allowedClassIDs) := by
  unfold Roster.allStudents
  cases hp : Roster.matching b tenantID req allowedCenterIDs allowedClassIDs with
  | ok p => exact covers_follow (studentLimit_pos req.limit) (Roster.pages_studentPage hfits tenantID req hp)
  | error err =>
    refine covers_error ?_
    have hmatching :
        Roster.matching b tenantID { req with cursor := "" } allowedCenterIDs allowedClassIDs = .error err := hp
    unfold Roster.studentPage
    rw [Roster.listStudents_eq, hmatching]
    rfl

/-- One page of a bank of questions or quizzes. -/
def contentPage {α : Type} (b : Backend) (items : List α) (limit : ℤ) (cursor : String) :
    Except LmsError (List α × Option String) :=
  .ok ((pageCursor b items cursor limit).1, nextCursor (pageCursor b items cursor limit).2.2)

omit [Library] [MongoServer] in
lemma covers_contentPage {α : Type} (b : Backend) {items : List α} (hfits : items.length < 2 ^ 63) (limit : ℤ) :
    Covers (fun fuel => follow (contentPage b items limit) fuel "") (.ok items) := by
  have hsize : 0 < if limit ≤ 0 ∨ limit > 100 then 20 else limit.toNat := by
    split
    · decide
    · omega
  have hcut : ∀ cursor, pageCursor b items cursor limit =
      cutPage b items (cursorOffset cursor) (if limit ≤ 0 ∨ limit > 100 then 20 else limit.toNat) := by
    intro cursor
    cases b <;> rfl
  refine covers_follow hsize (pages_cutPage (b := b) hfits fun cursor => ?_)
  rw [← hcut]
  rfl

end Lists

/-! ## Data URLs -/

/-- What a `csv.Writer` makes of the records. -/
def csvText (records : List (List String)) : Bytes := Csv.writeAll (records.map (List.map bytes))

def dataURL (text : Bytes) : Bytes := bytes "data:text/csv;charset=utf-8," ++ Url.queryEscape text

def credentialHeader : List String := ["rowId", "rowNumber", "studentId", "username", "password"]

def credentialRow (cred : ImportCredential) : List String :=
  [cred.rowID, toString cred.rowNumber, cred.studentID, cred.username, cred.password]

def csvDataURL (credentials : List ImportCredential) : Bytes :=
  dataURL (csvText (credentialHeader :: credentials.map credentialRow))

/-- Decoding the URL gives the text that was written, and reading the text the cells. -/
structure RoundTrips (url : Bytes) (records : List (List String)) : Prop where
  text : Url.dataOf url = some (csvText records)
  cells : Csv.parse (csvText records) = some (records.map (List.map bytes))

def Spaceless (record : List String) : Prop := ∀ cell ∈ record, ' ' ∉ cell.toList

instance (record : List String) : Decidable (Spaceless record) := inferInstanceAs (Decidable (∀ cell ∈ record, _))

lemma dataOf_dataURL (text : Bytes) : Url.dataOf (dataURL text) = some (text.map Url.spaceAsPlus) := by
  have hsplit : bytes "data:text/csv;charset=utf-8," =
      Url.dataScheme ++ (bytes "text/csv;charset=utf-8" ++ [Url.comma]) := by decide
  have hurl : dataURL text =
      Url.dataScheme ++ (bytes "text/csv;charset=utf-8" ++ Url.comma :: Url.queryEscape text) := by
    rw [dataURL, hsplit, List.append_assoc, List.append_assoc, List.singleton_append]
  unfold Url.dataOf
  rw [hurl, if_pos (List.prefix_append _ _), List.drop_left, Bytes.cut_append (by decide), Option.bind_some]
  exact (if_neg (by decide)).trans (Url.unescape_queryEscape text)

lemma space_mem_csvText {records : List (List String)} :
    Url.space ∈ csvText records ↔ ¬∀ record ∈ records, Spaceless record := by
  have hcell : ∀ cell : String, Url.space ∈ bytes cell ↔ ' ' ∈ cell.toList := fun _ => mem_bytes (c := ' ') (by decide)
  unfold csvText Spaceless
  rw [Csv.mem_writeAll (by decide)]
  simp [hcell]

lemma roundTrips_iff {records : List (List String)} (hrecords : ∀ record ∈ records, record ≠ []) :
    RoundTrips (dataURL (csvText records)) records ↔ ∀ record ∈ records, Spaceless record := by
  have hcells : Csv.parse (csvText records) = some (records.map (List.map bytes)) := by
    refine Csv.parse_writeAll fun record hrecord => ?_
    obtain ⟨cells, hcells, rfl⟩ := List.mem_map.mp hrecord
    simpa using hrecords cells hcells
  have htext : Url.dataOf (dataURL (csvText records)) = some (csvText records) ↔ Url.space ∉ csvText records := by
    rw [dataOf_dataURL, Option.some.injEq, Url.map_spaceAsPlus_eq_self]
  constructor
  · intro h
    exact not_not.mp fun hspace => htext.mp h.text (space_mem_csvText.mpr hspace)
  · intro h
    exact ⟨htext.mpr fun hspace => space_mem_csvText.mp hspace h, hcells⟩

lemma roundTrips_csvDataURL (credentials : List ImportCredential) :
    RoundTrips (csvDataURL credentials) (credentialHeader :: credentials.map credentialRow) ↔
      ∀ cred ∈ credentials, Spaceless (credentialRow cred) := by
  have hrecords : ∀ record ∈ credentialHeader :: credentials.map credentialRow, record ≠ [] := by
    intro record hrecord
    obtain rfl | hrecord := List.mem_cons.mp hrecord
    · decide
    · obtain ⟨cred, -, rfl⟩ := List.mem_map.mp hrecord
      exact List.cons_ne_nil _ _
  rw [csvDataURL, roundTrips_iff hrecords, List.forall_mem_cons, List.forall_mem_map]
  exact and_iff_right (by decide)

/-! ## The export of the roster -/

section Export

variable [Library] [MongoServer] [AccountLibrary]

def formatDate (value : Option Time) : String := value.elim "" AccountLibrary.formatDate

def rosterHeader : List String :=
  ["studentId", "studentCode", "fullName", "username", "email", "gender", "birthday", "phone", "address",
    "parentName", "parentPhone", "parentEmail", "parentRelationship", "enrollmentDate",
    "schoolOrCenterId", "schoolOrCenterCode", "schoolOrCenterName", "schoolOrCenterType",
    "classId", "className", "grade", "academicYear", "status", "note"]

def rosterRow (student : StudentListItem) : List String :=
  [student.id, student.studentCode, student.fullName, student.username, student.email, student.gender,
    formatDate student.birthday, student.phone, student.address, student.parentName, student.parentPhone,
    student.parentEmail, student.parentRelationship, formatDate student.enrollmentDate, student.centerID,
    student.centerCode, student.centerName, student.centerType, student.classID, student.className, student.grade,
    student.academicYear, student.status, student.note]

namespace Service

/-- One turn of the loop of `exportStudentRoster`. -/
def rosterPage (b : Backend) (r : Roster) (tenantID : String) (actor : Actor) (centerID classID cursor : String) :
    Except LmsError (List StudentListItem × Option String) :=
  (listStudents b r tenantID actor { centerID := centerID, classID := classID, cursor := cursor, limit := 100 }).map
    fun page => (page.items, nextCursor page.nextCursor)

/-- The download URL, if the fuel is enough for the loop. -/
def exportStudentRoster (b : Backend) (r : Roster) (tenantID : String) (actor : Actor) (centerID classID : String)
    (fuel : ℕ) : Except LmsError (Option Bytes) :=
  (follow (rosterPage b r tenantID actor centerID classID) fuel "").map (Option.map fun pages =>
    dataURL (csvText (rosterHeader :: pages.flatten.map rosterRow)))

/-- All students that the actor may list. -/
def allStudents (b : Backend) (r : Roster) (tenantID : String) (actor : Actor) (centerID classID : String) :
    Except LmsError (List StudentListItem) := do
  let (centerIDs, classIDs) ← allowedIDs b r tenantID actor
  return studentsToDTO r tenantID
    (← r.allStudents b tenantID { centerID := centerID, classID := classID } centerIDs classIDs)

end Service

omit [AccountLibrary] in
lemma rosterPage_eq (b : Backend) (r : Roster) (tenantID : String) (actor : Actor) (centerID classID cursor : String)
    {allowed : List ObjectID × List ObjectID} (hallowed : Service.allowedIDs b r tenantID actor = .ok allowed) :
    Service.rosterPage b r tenantID actor centerID classID cursor =
      (r.studentPage b tenantID { centerID := centerID, classID := classID, limit := 100 } allowed.1 allowed.2 cursor).map
        (Prod.map (List.map (Service.studentToDTO r tenantID)) id) := by
  unfold Service.rosterPage Service.listStudents Roster.studentPage
  rw [hallowed]
  dsimp only [Bind.bind, Except.bind]
  cases r.listStudents b tenantID { centerID := centerID, classID := classID, cursor := cursor, limit := 100 } allowed.1
    allowed.2 <;> rfl

omit [AccountLibrary] in
lemma covers_rosterPage (b : Backend) {r : Roster} (hfits : r.students.docs.length < 2 ^ 63) (tenantID : String)
    (actor : Actor) (centerID classID : String) :
    Covers (fun fuel => follow (Service.rosterPage b r tenantID actor centerID classID) fuel "")
      (Service.allStudents b r tenantID actor centerID classID) := by
  unfold Service.allStudents Roster.allStudents
  cases hallowed : Service.allowedIDs b r tenantID actor with
  | error err =>
    refine covers_error ?_
    unfold Service.rosterPage Service.listStudents
    rw [hallowed]
    rfl
  | ok allowed =>
    have hpage := funext fun cursor => rosterPage_eq b r tenantID actor centerID classID cursor hallowed
    dsimp only [Bind.bind, Except.bind]
    rw [hpage]
    cases hp : Roster.matching b tenantID { centerID := centerID, classID := classID } allowed.1 allowed.2 with
    | error err =>
      have hmatching : Roster.matching b tenantID
          { centerID := centerID, classID := classID, cursor := "", limit := 100 } allowed.1 allowed.2 = .error err := hp
      refine covers_error ?_
      unfold Roster.studentPage
      rw [Roster.listStudents_eq, hmatching]
      rfl
    | ok p =>
      have hpages := Roster.pages_studentPage hfits tenantID { centerID := centerID, classID := classID, limit := 100 } hp
      exact covers_follow (studentLimit_pos 100) (hpages.map (Service.studentToDTO r tenantID))

omit [AccountLibrary] in
/-- In a store that does not change, the cursors of every list lead to its end, and the pages hold
every matching element once and in the order of the list. MongoDB leaves the order of students
with one creation time open; for its lists this supposes that every query orders them alike. -/
theorem cursors_cover (b : Backend) {r : Roster} (hfits : r.students.docs.length < 2 ^ 63) (tenantID : String) :
    (∀ req allowedCenterIDs allowedClassIDs,
      Covers (fun fuel => follow (r.studentPage b tenantID req allowedCenterIDs allowedClassIDs) fuel "")
        (r.allStudents b tenantID req allowedCenterIDs allowedClassIDs)) ∧
    (∀ actor centerID classID,
      Covers (fun fuel => follow (Service.rosterPage b r tenantID actor centerID classID) fuel "")
        (Service.allStudents b r tenantID actor centerID classID)) ∧
    (∀ (α : Type) (items : List α) (limit : ℤ), items.length < 2 ^ 63 →
      Covers (fun fuel => follow (contentPage b items limit) fuel "") (.ok items)) ∧
    ∀ p, ((r.ordered p).map Student.id).Nodup ∧
      ∀ student, student ∈ r.ordered p ↔ student ∈ r.students.docs ∧ p student := by
  refine ⟨fun req centerIDs classIDs => Roster.covers_studentPage b hfits tenantID req centerIDs classIDs,
    fun actor centerID classID => covers_rosterPage b hfits tenantID actor centerID classID,
    fun α items limit hitems => covers_contentPage b hitems limit, fun p => ⟨?_, fun student => ?_⟩⟩
  · have hperm := (Library.sortSlice_perm newestFirst (r.students.docs.filter p)).map Student.id
    exact hperm.nodup_iff.mpr (r.students.nodup.sublist (List.filter_sublist.map _))
  · rw [Roster.ordered, (Library.sortSlice_perm newestFirst _).mem_iff, List.mem_filter]

omit [Library] [MongoServer] in
lemma rosterRecords_ne_nil (students : List StudentListItem) :
    ∀ record ∈ rosterHeader :: students.map rosterRow, record ≠ [] := by
  intro record hrecord
  obtain rfl | hrecord := List.mem_cons.mp hrecord
  · decide
  · obtain ⟨student, -, rfl⟩ := List.mem_map.mp hrecord
    exact List.cons_ne_nil _ _

/-- The URL is made of the rows of all students that the actor may list. -/
lemma exportStudentRoster_ok {b : Backend} {r : Roster} (hfits : r.students.docs.length < 2 ^ 63) {tenantID : String}
    {actor : Actor} {centerID classID : String} {fuel : ℕ} {url : Bytes}
    (h : Service.exportStudentRoster b r tenantID actor centerID classID fuel = .ok (some url)) :
    ∃ students, Service.allStudents b r tenantID actor centerID classID = .ok students ∧
      url = dataURL (csvText (rosterHeader :: students.map rosterRow)) := by
  unfold Service.exportStudentRoster at h
  cases hrun : follow (Service.rosterPage b r tenantID actor centerID classID) fuel "" with
  | error err => simp [hrun, Except.map] at h
  | ok pages =>
    cases pages with
    | none => simp [hrun, Except.map] at h
    | some pages =>
      rw [hrun] at h
      refine ⟨pages.flatten, (covers_rosterPage b hfits tenantID actor centerID classID).result hrun, ?_⟩
      exact (Option.some.inj (Except.ok.inj h)).symm

/-- With enough fuel there is a URL. -/
lemma exists_exportStudentRoster {b : Backend} {r : Roster} (hfits : r.students.docs.length < 2 ^ 63)
    {tenantID : String} {actor : Actor} {centerID classID : String} {students : List StudentListItem}
    (h : Service.allStudents b r tenantID actor centerID classID = .ok students) :
    ∃ fuel, Service.exportStudentRoster b r tenantID actor centerID classID fuel =
      .ok (some (dataURL (csvText (rosterHeader :: students.map rosterRow)))) := by
  obtain ⟨enough, henough⟩ := covers_rosterPage b hfits tenantID actor centerID classID
  have hrun := henough enough le_rfl
  rw [h] at hrun
  obtain ⟨pages, hpages, rfl⟩ := hrun
  refine ⟨enough, ?_⟩
  unfold Service.exportStudentRoster
  dsimp only at hpages
  rw [hpages]
  rfl

/-- No student that the actor may list has a space in a cell of the export. -/
def RosterSpaceless (b : Backend) (r : Roster) (tenantID : String) (actor : Actor) (centerID classID : String) : Prop :=
  ∀ allowed p, Service.allowedIDs b r tenantID actor = .ok allowed →
    Roster.matching b tenantID { centerID := centerID, classID := classID } allowed.1 allowed.2 = .ok p →
    ∀ student ∈ r.students.docs, p student → Spaceless (rosterRow (Service.studentToDTO r tenantID student))

lemma rosterSpaceless_iff {b : Backend} {r : Roster} {tenantID : String} {actor : Actor} {centerID classID : String}
    {students : List StudentListItem}
    (h : Service.allStudents b r tenantID actor centerID classID = .ok students) :
    RosterSpaceless b r tenantID actor centerID classID ↔ ∀ student ∈ students, Spaceless (rosterRow student) := by
  unfold Service.allStudents at h
  obtain ⟨allowed, hallowed, h⟩ := except_bind_eq_ok.mp h
  obtain ⟨found, hfound, h⟩ := except_bind_eq_ok.mp h
  unfold Roster.allStudents at hfound
  obtain ⟨p, hp, rfl⟩ := except_map_eq_ok.mp hfound
  obtain rfl := Except.ok.inj h
  have hmem : ∀ student, student ∈ r.ordered p ↔ student ∈ r.students.docs ∧ p student := by
    intro student
    rw [Roster.ordered, (Library.sortSlice_perm newestFirst _).mem_iff, List.mem_filter]
  constructor
  · intro hspaceless item hitem
    obtain ⟨student, hstudent, rfl⟩ := List.mem_map.mp hitem
    exact hspaceless allowed p hallowed hp student ((hmem student).mp hstudent).1 ((hmem student).mp hstudent).2
  · intro hspaceless allowed' p' hallowed' hp' student hstudent hpasses
    obtain rfl := Except.ok.inj (hallowed.symm.trans hallowed')
    obtain rfl := Except.ok.inj (hp.symm.trans hp')
    exact hspaceless _ (List.mem_map_of_mem ((hmem student).mpr ⟨hstudent, hpasses⟩))

/-- The exports come back as they were written exactly if no cell has a space, which the form
encoding writes as a plus sign. -/
theorem exports_roundTrip_iff :
    (∀ credentials, RoundTrips (csvDataURL credentials) (credentialHeader :: credentials.map credentialRow) ↔
      ∀ cred ∈ credentials, Spaceless (credentialRow cred)) ∧
    ∀ (b : Backend) (r : Roster) (tenantID : String) (actor : Actor) (centerID classID : String) (fuel : ℕ)
        (url : Bytes), r.students.docs.length < 2 ^ 63 →
      Service.exportStudentRoster b r tenantID actor centerID classID fuel = .ok (some url) →
      ∃ students, Service.allStudents b r tenantID actor centerID classID = .ok students ∧
        (RoundTrips url (rosterHeader :: students.map rosterRow) ↔
          RosterSpaceless b r tenantID actor centerID classID) := by
  refine ⟨roundTrips_csvDataURL, ?_⟩
  intro b r tenantID actor centerID classID fuel url hfits hrun
  obtain ⟨students, hstudents, rfl⟩ := exportStudentRoster_ok hfits hrun
  refine ⟨students, hstudents, ?_⟩
  rw [roundTrips_iff (rosterRecords_ne_nil students), rosterSpaceless_iff hstudents, List.forall_mem_cons,
    List.forall_mem_map]
  exact and_iff_right (by decide)

end Export

section Sample

attribute [local instance] asciiLibrary Sample.server Sample.accountLibrary

theorem cursors_cover_school :
    Covers (fun fuel => follow (Service.rosterPage .memory Sample.school "erg" ⟨"admin", ["admin"]⟩ "" "") fuel "")
      (Service.allStudents .memory Sample.school "erg" ⟨"admin", ["admin"]⟩ "" "") ∧
    Covers (fun fuel => follow (contentPage .memory [1, 2, 3] 2) fuel "") (.ok [1, 2, 3]) := by
  have hcover := cursors_cover .memory (r := Sample.school) (by decide) "erg"
  exact ⟨hcover.2.1 ⟨"admin", ["admin"]⟩ "" "", hcover.2.2.1 ℕ [1, 2, 3] 2 (by decide)⟩

theorem export_roundTrips_school : ∃ url students,
    Service.allStudents .memory Sample.school "erg" ⟨"admin", ["admin"]⟩ "" "" = .ok students ∧
      RoundTrips url (rosterHeader :: students.map rosterRow) := by
  have hok : (Service.allStudents .memory Sample.school "erg" ⟨"admin", ["admin"]⟩ "" "").isOk := by decide
  cases hall : Service.allStudents .memory Sample.school "erg" ⟨"admin", ["admin"]⟩ "" "" with
  | error err =>
    rw [hall] at hok
    cases hok
  | ok listed =>
    obtain ⟨fuel, hrun⟩ := exists_exportStudentRoster (by decide) hall
    obtain ⟨students, hstudents, hiff⟩ := exports_roundTrip_iff.2 .memory Sample.school "erg" ⟨"admin", ["admin"]⟩ "" ""
      fuel _ (by decide) hrun
    refine ⟨_, students, hall.symm.trans hstudents, hiff.mpr ?_⟩
    intro allowed p _ _ student hstudent _
    obtain rfl : student = Sample.student := List.mem_singleton.mp hstudent
    decide

/-- A school whose student has a first and a last name. -/
def Sample.namedSchool : Roster :=
  { Sample.school with students := ⟨[{ Sample.student with fullName := "An Ngo" }], by simp⟩ }

/-- The URL of the roster does not decode to the text that was written. -/
theorem named_student_changed : ∃ fuel url students,
    Service.exportStudentRoster .memory Sample.namedSchool "erg" ⟨"admin", ["admin"]⟩ "" "" fuel = .ok (some url) ∧
      Service.allStudents .memory Sample.namedSchool "erg" ⟨"admin", ["admin"]⟩ "" "" = .ok students ∧
      ¬RoundTrips url (rosterHeader :: students.map rosterRow) := by
  have hnames : (Service.allStudents .memory Sample.namedSchool "erg" ⟨"admin", ["admin"]⟩ "" "").map
      (List.map StudentListItem.fullName) = .ok ["An Ngo"] := by decide
  obtain ⟨students, hstudents, hname⟩ := except_map_eq_ok.mp hnames
  obtain ⟨fuel, hrun⟩ := exists_exportStudentRoster (by decide) hstudents
  refine ⟨fuel, _, students, hrun, hstudents, fun htrips => ?_⟩
  obtain ⟨student, hstudent, hfullName⟩ := List.mem_map.mp (hname ▸ List.mem_singleton_self "An Ngo")
  have hspaceless := (roundTrips_iff (rosterRecords_ne_nil students)).mp htrips (rosterRow student)
    (List.mem_cons_of_mem _ (List.mem_map_of_mem hstudent))
  refine hspaceless student.fullName (by simp [rosterRow]) ?_
  rw [hfullName]
  decide

end Sample

end ErgGo.Lms
