import ErgGo.Lms.RosterExports

/-!
# Imports from a sheet

A preview reads students from a range of a sheet, a commit creates their accounts, and their
usernames and passwords are written back into the sheet, into the rows that the preview has
numbered.
-/

namespace ErgGo.Lms
open Go Documents Concurrent Program

/-- Google Sheets: the sheet that a range is in and its first row. -/
class SheetsServer where
  locate : String → String × ℕ

/-- `strings.ToUpper`, and `time.Parse` of a layout and a value. -/
class SheetLibrary where
  toUpper : String → String
  parseTime : String → String → Option Time

/-! ## The rows of a grid -/

structure GoogleSheetPreviewMapping where
  rowNumber : String := ""
  familyName : String := ""
  givenName : String := ""
  studentCode : String := ""
  fullName : String := ""
  className : String := ""
  email : String := ""
  gender : String := ""
  birthday : String := ""
  phone : String := ""
  address : String := ""
  parentName : String := ""
  parentPhone : String := ""
  parentEmail : String := ""
  parentRelationship : String := ""
  enrollmentDate : String := ""
  note : String := ""

/-- The columns of a grid, none for a column that was not found. -/
structure StudentColumns where
  studentCode : Option ℕ
  email : Option ℕ
  gender : Option ℕ
  address : Option ℕ
  parentName : Option ℕ
  parentPhone : Option ℕ
  parentEmail : Option ℕ
  parentRelationship : Option ℕ
  enrollmentDate : Option ℕ
  fullName : Option ℕ
  family : Option ℕ
  given : Option ℕ
  class' : Option ℕ
  birthday : Option ℕ
  phone : Option ℕ
  note : Option ℕ

section Parse

variable [Library] [Go.Unicode]

def normalizeHeader (value : String) : String := normalizeUsername value

def buildHeaderIndex (headers : List String) : GoMap ℕ :=
  GoMap.setAll ∅ (headers.zipIdx.map fun header => (normalizeHeader header.1, header.2))

def mappedColumn (mapped : String) (index : GoMap ℕ) (aliases : List String) : Option ℕ :=
  ((if mapped ≠ "" then [mapped] else []) ++ aliases).findSome? fun name => index.lookup (normalizeHeader name)

/-- The columns that `parseStudentRows` looks up. -/
def studentColumns (mapping : GoogleSheetPreviewMapping) (headers : List String) : StudentColumns :=
  let index := buildHeaderIndex headers
  { studentCode := mappedColumn mapping.studentCode index ["student code", "student id", "ma hoc sinh", "mhs"]
    email := mappedColumn mapping.email index ["email", "student email", "email hoc sinh"]
    gender := mappedColumn mapping.gender index ["gender", "gioi tinh", "sex"]
    address := mappedColumn mapping.address index ["address", "dia chi"]
    parentName := mappedColumn mapping.parentName index ["parent name", "guardian name", "phu huynh", "ten phu huynh"]
    parentPhone := mappedColumn mapping.parentPhone index ["parent phone", "guardian phone", "sdt phu huynh"]
    parentEmail := mappedColumn mapping.parentEmail index ["parent email", "guardian email", "email phu huynh"]
    parentRelationship :=
      mappedColumn mapping.parentRelationship index ["parent relationship", "relationship", "quan he"]
    enrollmentDate :=
      mappedColumn mapping.enrollmentDate index ["enrollment date", "admission date", "ngay nhap hoc"]
    fullName := mappedColumn mapping.fullName index ["full name", "fullname", "ho ten", "họ tên", "name"]
    family := mappedColumn mapping.familyName index ["ho", "họ", "family name"]
    given := mappedColumn mapping.givenName index ["ten", "tên", "given name"]
    class' := mappedColumn mapping.className index ["class", "class name", "lop", "lớp"]
    birthday := mappedColumn mapping.birthday index ["birthday", "dob", "ngay sinh", "ngày sinh"]
    phone := mappedColumn mapping.phone index ["phone", "sdt", "số điện thoại"]
    note := mappedColumn mapping.note index ["note", "ghi chu", "ghi chú"] }

def cell (row : List String) (column : Option ℕ) : String := (column.bind (row[·]?)).elim "" trimSpace

def parseDate [SheetLibrary] (value : String) : Option Time :=
  if value = "" then none
  else ["2006-01-02", "02/01/2006", "2/1/2006", "01/02/2006"].findSome? (SheetLibrary.parseTime · value)

def rowIDOf (n : ℕ) : String := "row-" ++ toString n

/-- What is wrong with a row: its status and the messages. -/
def rowStatus (fullName className : String) : String × List String :=
  let status := if fullName = "" then "error" else if className = "" then "warning" else "valid"
  (status, (if fullName = "" then ["missing fullName"] else []) ++ if className = "" then ["missing className"] else [])

/-- The student in row `i` of the grid. -/
def parseStudentRow [SheetLibrary] (columns : StudentColumns) (i : ℕ) (raw : List String) : ParsedStudentRow :=
  let fullName := cell raw columns.fullName
  let fullName :=
    if fullName = "" then trimSpace (cell raw columns.family ++ " " ++ cell raw columns.given) else fullName
  let className := cell raw columns.class'
  { rowID := rowIDOf (i + 1)
    rowNumber := i + 1
    studentCode := cell raw columns.studentCode
    fullName := fullName
    className := className
    email := cell raw columns.email
    gender := cell raw columns.gender
    birthday := parseDate (cell raw columns.birthday)
    phone := cell raw columns.phone
    address := cell raw columns.address
    parentName := cell raw columns.parentName
    parentPhone := cell raw columns.parentPhone
    parentEmail := cell raw columns.parentEmail
    parentRelationship := cell raw columns.parentRelationship
    enrollmentDate := parseDate (cell raw columns.enrollmentDate)
    note := cell raw columns.note
    status := (rowStatus fullName className).1
    messages := (rowStatus fullName className).2 }

/-- The students below the headers, and the warnings. -/
def parseStudentRows [SheetLibrary] (values : List (List String)) (mapping : GoogleSheetPreviewMapping) :
    List ParsedStudentRow × List String :=
  match values with
  | [] => ([], ["sheet range has no rows"])
  | headers :: rest =>
    let columns := studentColumns mapping headers
    (rest.mapIdx fun i raw => parseStudentRow columns (i + 1) raw,
      (if columns.fullName.isNone && (columns.family.isNone || columns.given.isNone) then
        ["fullName mapping not detected"] else []) ++
      if columns.class'.isNone then ["className mapping not detected"] else [])

lemma mem_parseStudentRows [SheetLibrary] {values : List (List String)} {mapping : GoogleSheetPreviewMapping}
    {row : ParsedStudentRow} : row ∈ (parseStudentRows values mapping).1 ↔ ∃ i raw, 0 < i ∧ values[i]? = some raw ∧
      parseStudentRow (studentColumns mapping (values.headD [])) i raw = row := by
  cases values with
  | nil => simp [parseStudentRows]
  | cons headers rest =>
    change row ∈ rest.mapIdx _ ↔ _
    rw [List.mem_mapIdx]
    constructor
    · rintro ⟨i, hi, hrow⟩
      exact ⟨i + 1, rest[i], Nat.succ_pos i, by simp [hi], hrow⟩
    · rintro ⟨i, raw, hpos, hraw, hrow⟩
      obtain ⟨i, rfl⟩ : ∃ j, i = j + 1 := ⟨i - 1, by omega⟩
      rw [List.getElem?_cons_succ] at hraw
      obtain ⟨hi, rfl⟩ := List.getElem?_eq_some_iff.mp hraw
      exact ⟨i, hi, hrow⟩

end Parse

/-! ## Ranges -/

def apostrophe : Char := Char.ofNat 0x27

/-- The name between apostrophes, with its own doubled. -/
def quoteSheetName (name : String) : String :=
  String.ofList (apostrophe :: name.toList.flatMap (fun c => if c = apostrophe then [c, c] else [c]) ++ [apostrophe])

def sheetRange (sheetName readRange : String) : String :=
  if contains readRange "!" then readRange else quoteSheetName sheetName ++ "!" ++ readRange

structure GoogleSheetPreviewRequest where
  sheetName : String
  range : String
  mapping : GoogleSheetPreviewMapping := {}

structure SheetWritebackRequest where
  usernameColumn : String
  passwordColumn : String
  writeMode : String

structure SheetWritebackResponse where
  updatedRows : ℕ
  downloadURL : Bytes := []
  sheetUpdatedAt : Option Time := none

/-- A call of `UpdateValues`, whose range is of one row. The row is the number that is appended to
the columns of the request: a column that ends in digits of its own makes a range of another row,
which `row` does not cover. -/
structure SheetUpdate where
  spreadsheetID : String
  sheetName : String
  usernameColumn : String
  passwordColumn : String
  row : ℤ
  values : List (List String)

def SheetUpdate.writeRange [SheetLibrary] (update : SheetUpdate) : String :=
  quoteSheetName update.sheetName ++ "!" ++ SheetLibrary.toUpper update.usernameColumn ++ toString update.row ++ ":" ++
    SheetLibrary.toUpper update.passwordColumn ++ toString update.row

/-- The sheets client: the values of a range, none where the call fails, and whether an update of a
range succeeds. -/
structure SheetsClient where
  values : String → String → Option (List (List String))
  updateValues : String → String → List (List String) → Bool

def errSheetAccess : LmsError := .message "SHEET_ACCESS_DENIED"

/-! ## The calls -/

def AccountStore.createImportPreview (b : Backend) (env : AccountEnv) (preview : ImportPreview) (s : AccountStore) :
    Except LmsError ImportPreview × AccountStore :=
  if b = .memory then (.error .runtimePanic, s)
  else
    match s.previews.insertOne { preview with id := env.id, createdAt := env.now } with
    | none => (.error .duplicateKey, s)
    | some previews => (.ok { preview with id := env.id, createdAt := env.now }, { s with previews := previews })

def AccountStore.getImportJob (b : Backend) (tenantID id : String) (s : AccountStore) :
    Except LmsError (Option ImportJob) := do
  let oid ← objectID id
  if b = .memory then throw .runtimePanic
  else return s.importJobs.find (fun job => job.tenantID = tenantID && job.id = oid)

/-- What a preview is made of: the request and the values that the sheet gave. -/
structure Fetch where
  req : GoogleSheetPreviewRequest
  values : List (List String)

def Fetch.range (fetch : Fetch) : String := sheetRange fetch.req.sheetName fetch.req.range

section Calls

variable [Library] [Go.Unicode] [SheetLibrary]

def Fetch.rows (fetch : Fetch) : List ParsedStudentRow := (parseStudentRows fetch.values fetch.req.mapping).1

def Fetch.preview (fetch : Fetch) (tenantID : String) (actor : Actor) (spreadsheetID : String) : ImportPreview where
  id := .nil
  tenantID := tenantID
  userID := actor.userID
  spreadsheetID := spreadsheetID
  sheetName := fetch.req.sheetName
  range := fetch.req.range
  rows := fetch.rows

namespace Service

/-- `PreviewGoogleSheet` of the spreadsheet that the URL of the request names. -/
def previewGoogleSheet (client : Option SheetsClient) (b : Backend) (env : AccountEnv) (tenantID : String)
    (actor : Actor) (spreadsheetID : String) (req : GoogleSheetPreviewRequest) (s : AccountStore) :
    Except LmsError (ImportPreview × List String) × AccountStore :=
  match client.bind fun client => client.values spreadsheetID (sheetRange req.sheetName req.range) with
  | none => (.error errSheetAccess, s)
  | some values =>
    let (reply, s') := s.createImportPreview b env (Fetch.preview ⟨req, values⟩ tenantID actor spreadsheetID)
    (reply.map fun preview => (preview, (parseStudentRows values req.mapping).2), s')

omit [Library] [Go.Unicode] [SheetLibrary] in
/-- The update for a credential. -/
def rowUpdate (job : ImportJob) (req : SheetWritebackRequest) (cred : ImportCredential) : SheetUpdate where
  spreadsheetID := job.spreadsheetID
  sheetName := job.sheetName
  usernameColumn := req.usernameColumn
  passwordColumn := req.passwordColumn
  row := cred.rowNumber
  values := [[cred.username, cred.password]]

/-- The updates up to the first that fails, and whether none has. -/
def sendUpdates (client : SheetsClient) : List SheetUpdate → Bool × List SheetUpdate
  | [] => (true, [])
  | update :: updates =>
    if client.updateValues update.spreadsheetID update.writeRange update.values then
      ((sendUpdates client updates).1, update :: (sendUpdates client updates).2)
    else (false, [update])

/-- The response and the updates that were sent. -/
def writebackImportJob (client : Option SheetsClient) (b : Backend) (now : Time) (tenantID jobID : String)
    (req : SheetWritebackRequest) (s : AccountStore) : Except LmsError SheetWritebackResponse × List SheetUpdate :=
  match s.getImportJob b tenantID jobID with
  | .error err => (.error err, [])
  | .ok none => (.error .notFound, [])
  | .ok (some job) =>
    if req.writeMode = "download-csv" then
      (.ok { updatedRows := job.credentials.length, downloadURL := csvDataURL job.credentials }, [])
    else
      match client with
      | none => (.error errSheetAccess, [])
      | some client =>
        let (ok, sent) := sendUpdates client (job.credentials.map (rowUpdate job req))
        (if ok then .ok { updatedRows := job.credentials.length, sheetUpdatedAt := some now }
          else .error errSheetAccess, sent)

omit [Library] [Go.Unicode] in
lemma mem_sendUpdates {client : SheetsClient} {updates : List SheetUpdate} {update : SheetUpdate}
    (h : update ∈ (sendUpdates client updates).2) : update ∈ updates := by
  induction updates with
  | nil => exact h
  | cons first updates ih =>
    unfold sendUpdates at h
    split at h
    · exact (List.mem_cons.mp h).elim (fun h => h ▸ List.mem_cons_self) fun h => List.mem_cons_of_mem first (ih h)
    · exact List.mem_singleton.mp h ▸ List.mem_cons_self

omit [Library] [Go.Unicode] in
/-- Every update is for a credential of the stored job. -/
lemma mem_writebackImportJob {client : Option SheetsClient} {b : Backend} {now : Time} {tenantID jobID : String}
    {req : SheetWritebackRequest} {s : AccountStore} {update : SheetUpdate}
    (h : update ∈ (writebackImportJob client b now tenantID jobID req s).2) :
    ∃ job ∈ s.importJobs.docs, ∃ cred ∈ job.credentials, update = rowUpdate job req cred := by
  unfold writebackImportJob at h
  cases hfound : s.getImportJob b tenantID jobID with
  | error err => simp [hfound] at h
  | ok found =>
    cases found with
    | none => simp [hfound] at h
    | some job =>
      rw [hfound] at h
      dsimp only at h
      split at h
      · cases h
      · cases client with
        | none => cases h
        | some client =>
          obtain ⟨cred, hcred, hupdate⟩ := List.mem_map.mp (mem_sendUpdates h)
          refine ⟨job, ?_, cred, hcred, hupdate.symm⟩
          unfold AccountStore.getImportJob at hfound
          obtain ⟨oid, _, hfound⟩ := except_bind_eq_ok.mp hfound
          split at hfound
          · cases hfound
          · exact List.mem_of_find?_eq_some (Except.ok.inj hfound)

end Service

end Calls

/-! ## A job and its preview -/

/-- The job imports the preview: the credentials have the row numbers of its rows. -/
structure Imports (preview : ImportPreview) (job : ImportJob) : Prop where
  previewID : job.previewID = preview.id
  sheetName : job.sheetName = preview.sheetName
  rowNumber : ∀ cred ∈ job.credentials,
    cred.rowNumber = (GoogleSheetCommitRow.rowByID preview.rows cred.rowID).rowNumber

namespace Imports

variable {preview : ImportPreview} {job : ImportJob}

lemma skip (h : Imports preview job) (rowID : String) (err : Option String) : Imports preview (job.skip rowID err) :=
  ⟨h.previewID, h.sheetName, h.rowNumber⟩

lemma countDuplicate (h : Imports preview job) (duplicate : Bool) : Imports preview (job.countDuplicate duplicate) :=
  ⟨h.previewID, h.sheetName, h.rowNumber⟩

lemma credit (h : Imports preview job) {cred : ImportCredential}
    (hcred : cred.rowNumber = (GoogleSheetCommitRow.rowByID preview.rows cred.rowID).rowNumber) :
    Imports preview (job.credit cred) where
  previewID := h.previewID
  sheetName := h.sheetName
  rowNumber := by
    intro cred' hcred'
    obtain hcred' | hcred' := List.mem_append.mp hcred'
    · exact h.rowNumber cred' hcred'
    · exact List.mem_singleton.mp hcred' ▸ hcred

lemma start (tenantID : String) (actor : Actor) (preview : ImportPreview) :
    Imports preview (Service.newImportJob tenantID actor preview) :=
  ⟨rfl, rfl, fun _ hcred => absurd hcred List.not_mem_nil⟩

end Imports

section Commit

variable [Library] [Go.Unicode] [AccountLibrary] {b : Backend}

/-- Neither a preview nor a job has been added. -/
def SameImports (s s' : AccountStore) : Prop := s'.previews = s.previews ∧ s'.importJobs = s.importJobs

omit [Go.Unicode] in
lemma sameImports_refusing {env : AccountEnv × Bool} {q : AccountRequest} {s : AccountStore}
    (hq : ∀ job, q ≠ .createImportJob job) : SameImports s (AccountStore.refusing b env q s).2 := by
  unfold AccountStore.refusing
  split
  · exact ⟨rfl, rfl⟩
  · cases q with
    | createImportJob job => exact absurd rfl (hq job)
    | _ => exact ⟨rfl, rfl⟩

omit [Go.Unicode] in
lemma ensures_sameImports {α β : Type} {post : Except LmsError β → AccountStore → Prop} {call : AccountCall α}
    {f : Except LmsError α → AccountCall β} {s : AccountStore}
    (hcall : call.run.AllRequests (fun q => ∀ job, q ≠ .createImportJob job))
    (h : ∀ r s', SameImports s s' → Ensures (AccountStore.refusing b) post (f r).run s') :
    Ensures (AccountStore.refusing b) post (caught call >>= f).run s := by
  refine ensures_caught_bind (Ensures.mono h ?_)
  exact Ensures.of_allRequests (I := SameImports s)
    (fun _ _ _ hq hs => ⟨(sameImports_refusing hq).1.trans hs.1, (sameImports_refusing hq).2.trans hs.2⟩) hcall
    ⟨rfl, rfl⟩

omit [Go.Unicode] in
lemma provisionRow_imports {preview : ImportPreview} {job : ImportJob} (hjob : Imports preview job) (tenantID : String)
    {rowID : String} {merged : ParsedStudentRow}
    (hmerged : merged.rowNumber = (GoogleSheetCommitRow.rowByID preview.rows rowID).rowNumber) (class' : Class)
    (profile : NormalizedStudentProfile) (username : String) (s : AccountStore) :
    Ensures (AccountStore.refusing b) (fun r s' => SameImports s s' ∧ ∀ job', r = .ok job' → Imports preview job')
      (Service.provisionRow tenantID job rowID merged class' profile username).run s := by
  have hdone : ∀ {s' job'}, SameImports s s' → Imports preview job' →
      Ensures (AccountStore.refusing b) (fun r s' => SameImports s s' ∧ ∀ job', r = .ok job' → Imports preview job')
        (pure job' : AccountCall ImportJob).run s' := by
    intro s' job' hs' hjob'
    refine ⟨hs', fun job'' h => ?_⟩
    cases h
    exact hjob'
  unfold Service.provisionRow
  refine ensures_reads_bind secureTempPassword_reads (fun _ => ⟨⟨rfl, rfl⟩, fun _ h => nomatch h⟩) fun password => ?_
  have huser : (Service.createStudentAuthUser tenantID profile.fullName username password profile.phone
      merged.birthday).run.AllRequests (fun q => ∀ job, q ≠ .createImportJob job) := by
    unfold Service.createStudentAuthUser
    apply AllRequests.run_bind
    · exact ⟨fun _ => nofun, fun _ => trivial⟩
    · exact fun _ => ⟨fun _ => nofun, fun _ => trivial⟩
  refine ensures_sameImports huser fun r s₁ hs₁ => ?_
  cases r with
  | error err =>
    dsimp only
    split
    · exact hdone hs₁ ((hjob.countDuplicate true).skip rowID _)
    · exact ⟨hs₁, fun _ h => nomatch h⟩
  | ok userID =>
    refine ensures_sameImports ⟨fun _ => nofun, fun _ => trivial⟩ fun r s₂ hs₂ => ?_
    have hsame : SameImports s s₂ := ⟨hs₂.1.trans hs₁.1, hs₂.2.trans hs₁.2⟩
    cases r with
    | ok student => exact hdone hsame (hjob.credit hmerged)
    | error err =>
      refine ensures_sameImports ⟨fun _ => nofun, fun _ => trivial⟩ fun r s₃ hs₃ => ?_
      exact hdone ⟨hs₃.1.trans hsame.1, hs₃.2.trans hsame.2⟩ (hjob.skip rowID _)

omit [Library] [Go.Unicode] [AccountLibrary] in
lemma rowNumber_mergeCommitRow (parsed : ParsedStudentRow) (commit : GoogleSheetCommitRow) :
    (mergeCommitRow parsed commit).rowNumber = parsed.rowNumber := rfl

lemma commitRow_imports {preview : ImportPreview} {job : ImportJob} (hjob : Imports preview job) (tenantID : String)
    (centerID : ObjectID) (classID : String) (row : GoogleSheetCommitRow) (s : AccountStore) :
    Ensures (AccountStore.refusing b) (fun r s' => SameImports s s' ∧ ∀ job', r = .ok job' → Imports preview job')
      (Service.commitRow tenantID centerID classID preview.rows job row).run s := by
  unfold Service.commitRow
  have hmerged := rowNumber_mergeCommitRow (GoogleSheetCommitRow.rowByID preview.rows row.rowID) row
  generalize mergeCommitRow (GoogleSheetCommitRow.rowByID preview.rows row.rowID) row = merged at hmerged ⊢
  refine Ensures.run_bind ?_
  refine (prepareRow_free tenantID centerID classID row.included merged s).mono ?_
  rintro r s' ⟨rfl, -⟩
  cases r with
  | error err => exact ⟨⟨rfl, rfl⟩, fun _ h => nomatch h⟩
  | ok prepared =>
    cases prepared with
    | skipped err =>
      refine ⟨⟨rfl, rfl⟩, fun job' h => ?_⟩
      cases h
      exact hjob.skip row.rowID err
    | ready class' profile username duplicate =>
      exact provisionRow_imports (hjob.countDuplicate duplicate) tenantID hmerged class' profile username s'

omit [Library] [Go.Unicode] [AccountLibrary] in
lemma mem_of_getImportPreview [Library] [AccountLibrary] {env : AccountEnv × Bool} {tenantID id : String}
    {s : AccountStore} {preview : ImportPreview}
    (h : (AccountStore.refusing b env (.getImportPreview tenantID id) s).1 = .ok (some preview)) :
    preview ∈ s.previews.docs := by
  unfold AccountStore.refusing AccountStore.exec at h
  split at h
  · cases h
  · obtain ⟨oid, _, h⟩ := except_bind_eq_ok.mp h
    split at h
    · cases h
    · exact List.mem_of_find?_eq_some (Except.ok.inj h)

omit [Go.Unicode] in
/-- The preview that is imported is stored. -/
lemma importTarget_preview (tenantID : String) (actor : Actor) (req : GoogleSheetCommitRequest) (s : AccountStore) :
    Ensures (AccountStore.refusing b) (fun r s' => s' = s ∧ ∀ target, r = .ok target → target.1 ∈ s.previews.docs)
      (Service.importTarget tenantID actor req).run s := by
  have herror : ∀ e : LmsError, s = s ∧
      ∀ target : ImportPreview × Center, Except.error e = .ok target → target.1 ∈ s.previews.docs :=
    fun e => ⟨rfl, fun target h => nomatch h⟩
  unfold Service.importTarget
  refine ensures_account_bind (fun env e _ => ?_) fun env found hfound => ?_
  · rw [refusing_of_reads rfl]
    exact herror e
  · rw [refusing_of_reads rfl]
    refine Ensures.lift_bind (fun e _ => herror e) fun preview hpreview => ?_
    rw [required_ok hpreview] at hfound
    have hmem := mem_of_getImportPreview hfound
    refine ensures_reads_bind (account_reads rfl) herror fun _ => Ensures.lift_bind (fun e _ => herror e) fun _ _ => ?_
    refine ensures_reads_bind (accountCenterAccess_reads tenantID actor req.centerID) herror fun _ => ?_
    refine Ensures.lift_bind (fun e _ => herror e) fun _ _ => ⟨rfl, fun target htarget => ?_⟩
    cases htarget
    exact hmem

omit [Go.Unicode] in
/-- No request of the account service adds a preview. -/
lemma previews_refusing (env : AccountEnv × Bool) (q : AccountRequest) (s : AccountStore) :
    (AccountStore.refusing b env q s).2.previews = s.previews := by
  unfold AccountStore.refusing
  split
  · rfl
  · cases q with
    | createImportJob job =>
      unfold AccountStore.exec
      dsimp only
      split
      · rfl
      · split <;> rfl
    | _ => rfl

omit [Go.Unicode] in
lemma createImportJob_imports {env : AccountEnv × Bool} {job job' : ImportJob} {s : AccountStore}
    {preview : ImportPreview} (hjob : Imports preview job)
    (hmem : job' ∈ (AccountStore.refusing b env (.createImportJob job) s).2.importJobs.docs) :
    job' ∈ s.importJobs.docs ∨ Imports preview job' := by
  unfold AccountStore.refusing AccountStore.exec at hmem
  split at hmem
  · exact .inl hmem
  · dsimp only at hmem
    split at hmem
    · exact .inl hmem
    · split at hmem
      · exact .inl hmem
      · rename_i hinsert
        rw [Collection.docs_insertOne hinsert] at hmem
        obtain hmem | hmem := List.mem_append.mp hmem
        · exact .inl hmem
        · rw [List.mem_singleton] at hmem
          subst hmem
          exact .inr ⟨hjob.previewID, hjob.sheetName, hjob.rowNumber⟩

/-- A commit adds at most a job, for a preview that it has read. -/
lemma commit_imports (provisioning : Bool) (tenantID : String) (actor : Actor) (req : GoogleSheetCommitRequest)
    (s : AccountStore) :
    Ensures (AccountStore.refusing b) (fun _ s' => s'.previews = s.previews ∧ ∀ job ∈ s'.importJobs.docs,
        job ∈ s.importJobs.docs ∨ ∃ preview ∈ s.previews.docs, Imports preview job)
      (Service.commitGoogleSheetImport provisioning tenantID actor req).run s := by
  have hsame : ∀ s', SameImports s s' → s'.previews = s.previews ∧ ∀ job ∈ s'.importJobs.docs,
      job ∈ s.importJobs.docs ∨ ∃ preview ∈ s.previews.docs, Imports preview job :=
    fun s' hs' => ⟨hs'.1, fun job hjob => .inl (hs'.2 ▸ hjob)⟩
  unfold Service.commitGoogleSheetImport
  refine Ensures.lift_bind (fun _ _ => hsame s ⟨rfl, rfl⟩) fun _ _ => ?_
  refine Ensures.run_bind ((importTarget_preview tenantID actor req s).mono ?_)
  rintro (e | ⟨preview, center⟩) _ ⟨rfl, htarget⟩
  · exact hsame _ ⟨rfl, rfl⟩
  rename_i s₀
  have hpreview := htarget (preview, center) rfl
  refine Ensures.run_bind ?_
  have hrows : Ensures (AccountStore.refusing b)
      (fun r s' => SameImports s₀ s' ∧ ∀ job, r = .ok job → Imports preview job)
      (req.rows.foldlM (Service.commitRow tenantID center.id req.classID preview.rows)
        (Service.newImportJob tenantID actor preview)).run s₀ := by
    refine Ensures.run_foldlM_result ?_ ⟨rfl, rfl⟩ (Imports.start tenantID actor preview)
    intro job row _ s' hs' hjob
    refine (commitRow_imports hjob tenantID center.id req.classID row s').mono ?_
    rintro r s'' ⟨hs'', hr⟩
    exact ⟨⟨hs''.1.trans hs'.1, hs''.2.trans hs'.2⟩, hr⟩
  refine hrows.mono ?_
  rintro (e | job) s₁ ⟨hs₁, hjob⟩
  · exact hsame s₁ hs₁
  have hcreated : ∀ env, (AccountStore.refusing b env (.createImportJob job) s₁).2.previews = s₀.previews ∧
      ∀ job' ∈ (AccountStore.refusing b env (.createImportJob job) s₁).2.importJobs.docs,
        job' ∈ s₀.importJobs.docs ∨ ∃ preview ∈ s₀.previews.docs, Imports preview job' := by
    intro env
    refine ⟨(previews_refusing env _ s₁).trans hs₁.1, fun job' hjob' => ?_⟩
    refine (createImportJob_imports (hjob job rfl) hjob').imp (fun h => hs₁.2 ▸ h) fun h => ⟨preview, hpreview, h⟩
  exact ensures_account_bind (fun env _ _ => hcreated env) fun env _ _ => hcreated env

end Commit

/-! ## Runs -/

section Runs

variable [Library] [Go.Unicode] [AccountLibrary] [SheetLibrary] {b : Backend}

/-- The previews that were made, and what each was made of. -/
abbrev ImportLog := List (ImportPreview × Fetch)

/-- Previews and commits, and whatever other calls do to the store. -/
inductive ImportRun (b : Backend) : ImportLog → AccountStore → Prop
  | start {s : AccountStore} (hpreviews : s.previews.docs = []) (hjobs : s.importJobs.docs = []) : ImportRun b [] s
  | preview {log : ImportLog} {s s' : AccountStore} (hrun : ImportRun b log s) (client : SheetsClient)
      (env : AccountEnv) (tenantID : String) (actor : Actor) (spreadsheetID : String) (fetch : Fetch)
      (reply : ImportPreview × List String) (hvalues : client.values spreadsheetID fetch.range = some fetch.values)
      (hpreview : Service.previewGoogleSheet (some client) b env tenantID actor spreadsheetID fetch.req s =
        (.ok reply, s')) : ImportRun b (log ++ [(reply.1, fetch)]) s'
  | commit {log : ImportLog} {s s' : AccountStore} (hrun : ImportRun b log s) (provisioning : Bool)
      (tenantID : String) (actor : Actor) (req : GoogleSheetCommitRequest)
      (reply : Except LmsError GoogleSheetCommitResponse) (hcommit : Evaluates (AccountStore.refusing b)
        (Service.commitGoogleSheetImport provisioning tenantID actor req).run s reply s') : ImportRun b log s'
  | other {log : ImportLog} {s s' : AccountStore} (hrun : ImportRun b log s) (hsame : SameImports s s') :
      ImportRun b log s'

/-- The previews are those that were made, with the rows of their grids, and every job imports one. -/
structure Traced (log : ImportLog) (s : AccountStore) : Prop where
  docs : s.previews.docs = log.map Prod.fst
  parsed : ∀ entry ∈ log, entry.1.sheetName = entry.2.req.sheetName ∧ entry.1.rows = entry.2.rows
  imports : ∀ job ∈ s.importJobs.docs, ∃ preview ∈ s.previews.docs, Imports preview job

omit [AccountLibrary] in
lemma Traced.preview {log : ImportLog} {s s' : AccountStore} (h : Traced log s) {client : SheetsClient}
    {env : AccountEnv} {tenantID : String} {actor : Actor} {spreadsheetID : String} {fetch : Fetch}
    {reply : ImportPreview × List String} (hvalues : client.values spreadsheetID fetch.range = some fetch.values)
    (hpreview : Service.previewGoogleSheet (some client) b env tenantID actor spreadsheetID fetch.req s =
      (.ok reply, s')) : Traced (log ++ [(reply.1, fetch)]) s' := by
  unfold Service.previewGoogleSheet at hpreview
  rw [Option.bind_some] at hpreview
  rw [Fetch.range] at hvalues
  rw [hvalues] at hpreview
  dsimp only at hpreview
  unfold AccountStore.createImportPreview at hpreview
  split at hpreview
  · cases hpreview
  · split at hpreview
    · cases hpreview
    · rename_i previews hinsert
      obtain ⟨hreply, rfl⟩ := Prod.mk.inj hpreview
      obtain rfl := Except.ok.inj hreply
      have hdocs := Collection.docs_insertOne hinsert
      refine ⟨?_, ?_, ?_⟩
      · rw [List.map_append, ← h.docs]
        exact hdocs
      · intro entry hentry
        obtain hentry | hentry := List.mem_append.mp hentry
        · exact h.parsed entry hentry
        · rw [List.mem_singleton] at hentry
          subst hentry
          exact ⟨rfl, rfl⟩
      · intro job hjob
        obtain ⟨preview, hmem, himports⟩ := h.imports job hjob
        refine ⟨preview, ?_, himports⟩
        change preview ∈ previews.docs
        rw [hdocs]
        exact List.mem_append_left _ hmem

lemma ImportRun.traced {log : ImportLog} {s : AccountStore} (h : ImportRun b log s) : Traced log s := by
  induction h with
  | start hpreviews hjobs =>
    exact ⟨hpreviews, fun _ h => absurd h List.not_mem_nil, fun job hjob => by simp [hjobs] at hjob⟩
  | preview _ client env tenantID actor spreadsheetID fetch reply hvalues hpreview ih =>
    exact ih.preview hvalues hpreview
  | commit _ provisioning tenantID actor req reply hcommit ih =>
    obtain ⟨hpreviews, hjobs⟩ := (commit_imports provisioning tenantID actor req _).sound hcommit
    refine ⟨by rw [hpreviews, ih.docs], ih.parsed, fun job hjob => ?_⟩
    rw [hpreviews]
    exact (hjobs job hjob).elim (ih.imports job) id
  | other _ hsame ih =>
    refine ⟨by rw [hsame.1, ih.docs], ih.parsed, fun job hjob => ?_⟩
    rw [hsame.1]
    exact ih.imports job (hsame.2 ▸ hjob)

/-! ## Writing back -/

variable [SheetsServer]

/-- The update is of the sheet and the row from which the data of the row of this id were read. -/
def WritesWhereRead (fetch : Fetch) (rowID : String) (update : SheetUpdate) : Prop :=
  ∃ i raw, 0 < i ∧ fetch.values[i]? = some raw ∧
    parseStudentRow (studentColumns fetch.req.mapping (fetch.values.headD [])) i raw =
      GoogleSheetCommitRow.rowByID fetch.rows rowID ∧
    update.sheetName = (SheetsServer.locate fetch.range).1 ∧ update.row = (SheetsServer.locate fetch.range).2 + i

/-- The id is that of a row of the grid. -/
def Fetch.HasRow (fetch : Fetch) (rowID : String) : Prop :=
  ∃ i, 0 < i ∧ i < fetch.values.length ∧ rowID = rowIDOf (i + 1)

omit [AccountLibrary] [SheetsServer] in
lemma Fetch.rowByID_of_hasRow {fetch : Fetch} {rowID : String} (h : fetch.HasRow rowID) :
    GoogleSheetCommitRow.rowByID fetch.rows rowID ∈ fetch.rows := by
  obtain ⟨i, hpos, hi, rfl⟩ := h
  have hrow : parseStudentRow (studentColumns fetch.req.mapping (fetch.values.headD [])) i fetch.values[i] ∈
      fetch.rows := mem_parseStudentRows.mpr ⟨i, fetch.values[i], hpos, by simp [hi], rfl⟩
  unfold GoogleSheetCommitRow.rowByID
  cases hfind : fetch.rows.reverse.find? fun row => row.rowID = rowIDOf (i + 1) with
  | none => exact absurd (decide_eq_true rfl) (List.find?_eq_none.mp hfind _ (List.mem_reverse.mpr hrow))
  | some row => exact List.mem_reverse.mp (List.mem_of_find?_eq_some hfind)

omit [AccountLibrary] [SheetsServer] in
lemma Fetch.hasRow_of_rowByID {fetch : Fetch} {rowID : String} {i : ℕ} {raw : List String} (hpos : 0 < i)
    (hraw : fetch.values[i]? = some raw)
    (h : parseStudentRow (studentColumns fetch.req.mapping (fetch.values.headD [])) i raw =
      GoogleSheetCommitRow.rowByID fetch.rows rowID) : fetch.HasRow rowID := by
  refine ⟨i, hpos, (List.getElem?_eq_some_iff.mp hraw).1, ?_⟩
  unfold GoogleSheetCommitRow.rowByID at h
  cases hfind : fetch.rows.reverse.find? fun row => row.rowID = rowID with
  | none =>
    -- the row of an unknown id has the number zero
    rw [hfind] at h
    have hnumber : (i : ℤ) + 1 = 0 := congrArg ParsedStudentRow.rowNumber h
    omega
  | some row =>
    rw [hfind] at h
    have hid : row.rowID = rowID := by simpa using List.find?_some hfind
    rw [← hid, ← show _ = row from h]
    rfl

omit [AccountLibrary] in
lemma writesWhereRead_iff {fetch : Fetch} {preview : ImportPreview} {job : ImportJob} {cred : ImportCredential}
    (himports : Imports preview job) (hsheet : preview.sheetName = fetch.req.sheetName)
    (hrows : preview.rows = fetch.rows) (hcred : cred ∈ job.credentials) (req : SheetWritebackRequest) :
    WritesWhereRead fetch cred.rowID (Service.rowUpdate job req cred) ↔
      SheetsServer.locate fetch.range = (fetch.req.sheetName, 1) ∧ fetch.HasRow cred.rowID := by
  have hname : (Service.rowUpdate job req cred).sheetName = fetch.req.sheetName := himports.sheetName.trans hsheet
  have hnumber : (Service.rowUpdate job req cred).row =
      (GoogleSheetCommitRow.rowByID fetch.rows cred.rowID).rowNumber := by
    rw [← hrows]
    exact himports.rowNumber cred hcred
  constructor
  · rintro ⟨i, raw, hpos, hraw, hparsed, hlocated, hrow⟩
    refine ⟨Prod.ext (hlocated.symm.trans hname) ?_, Fetch.hasRow_of_rowByID hpos hraw hparsed⟩
    rw [hnumber, ← hparsed] at hrow
    change (i : ℤ) + 1 = _ at hrow
    omega
  · rintro ⟨hlocate, hrow⟩
    obtain ⟨i, raw, hpos, hraw, hparsed⟩ := mem_parseStudentRows.mp (Fetch.rowByID_of_hasRow hrow)
    refine ⟨i, raw, hpos, hraw, hparsed, ?_, ?_⟩
    · rw [hlocate, hname]
    · rw [hlocate, hnumber, ← hparsed]
      change (i : ℤ) + 1 = 1 + i
      omega

/-- In every run, an update of a write-back is of the row that the data were read from exactly if the
range of the preview begins in the first row of the sheet that its request names, and the commit
has named a row of the preview. -/
theorem writebackRow_iff {log : ImportLog} {s : AccountStore} (hrun : ImportRun b log s)
    {client : Option SheetsClient} {now : Time} {tenantID jobID : String} {req : SheetWritebackRequest}
    {update : SheetUpdate} (hsent : update ∈ (Service.writebackImportJob client b now tenantID jobID req s).2) :
    ∃ entry ∈ log, ∃ job ∈ s.importJobs.docs, ∃ cred ∈ job.credentials,
      job.previewID = entry.1.id ∧ update = Service.rowUpdate job req cred ∧
        (WritesWhereRead entry.2 cred.rowID update ↔
          SheetsServer.locate entry.2.range = (entry.2.req.sheetName, 1) ∧ entry.2.HasRow cred.rowID) := by
  have htraced := hrun.traced
  obtain ⟨job, hjob, cred, hcred, rfl⟩ := Service.mem_writebackImportJob hsent
  obtain ⟨preview, hpreview, himports⟩ := htraced.imports job hjob
  rw [htraced.docs] at hpreview
  obtain ⟨entry, hentry, rfl⟩ := List.mem_map.mp hpreview
  obtain ⟨hsheet, hrows⟩ := htraced.parsed entry hentry
  exact ⟨entry, hentry, job, hjob, cred, hcred, himports.previewID, rfl,
    writesWhereRead_iff himports hsheet hrows hcred req⟩

end Runs

section Sample

attribute [local instance] asciiLibrary asciiUnicode Sample.accountLibrary

namespace Sample

@[reducible] def sheetLibrary : SheetLibrary := ⟨fun text => text, fun _ _ => none⟩

/-- A server whose only sheet is called `Students`. -/
@[reducible] def sheetsServer : SheetsServer :=
  ⟨fun range => ("Students", if range = quoteSheetName "Students" ++ "!A5:C6" then 5 else 1)⟩

attribute [local instance] sheetLibrary sheetsServer

def values : List (List String) := [["n", "c", "x"], ["An Ngo", "5A", ""]]

/-- A name and a class; the other columns are mapped to one that is empty. -/
def mapping : GoogleSheetPreviewMapping where
  familyName := "x"
  givenName := "x"
  studentCode := "x"
  fullName := "n"
  className := "c"
  email := "x"
  gender := "x"
  birthday := "x"
  phone := "x"
  address := "x"
  parentName := "x"
  parentPhone := "x"
  parentEmail := "x"
  parentRelationship := "x"
  enrollmentDate := "x"
  note := "x"

def fetchOf (range : String) : Fetch := ⟨⟨"Students", range, mapping⟩, values⟩

def client : SheetsClient := ⟨fun _ _ => some values, fun _ _ _ => true⟩

def unimported : AccountStore := { enrolment with previews := .empty }

def previewed (range : String) : Except LmsError (ImportPreview × List String) × AccountStore :=
  Service.previewGoogleSheet (some client) .mongo (drawing (id 3)) "t" registrar "book" (fetchOf range).req unimported

/-- The row is imported under the id that the preview has given it. -/
def rowImport : GoogleSheetCommitRequest :=
  ⟨(id 3).hex, (id 1).hex, (id 2).hex, [{ rowID := "row-2", included := true }]⟩

def rowImported (range : String) : Except LmsError GoogleSheetCommitResponse × AccountStore :=
  (Service.commitGoogleSheetImport true "t" registrar rowImport).run.alone (AccountStore.refusing .mongo)
    (drawing (id 4), false) (previewed range).2

def columns : SheetWritebackRequest := ⟨"C", "D", "sheet"⟩

def written (range : String) : List SheetUpdate :=
  (Service.writebackImportJob (some client) .mongo 0 "t" (id 4).hex columns (rowImported range).2).2

lemma importRun (range : String) (h : (previewed range).1.isOk) :
    ∃ preview, ImportRun .mongo [(preview, fetchOf range)] (rowImported range).2 := by
  cases hpreviewed : (previewed range).1 with
  | error err =>
    rw [hpreviewed] at h
    cases h
  | ok reply =>
    have hpreview : previewed range = (.ok reply, (previewed range).2) := Prod.ext hpreviewed rfl
    have hstart : ImportRun .mongo [] unimported := .start rfl rfl
    have hrun := hstart.preview client (drawing (id 3)) "t" registrar "book" (fetchOf range) reply rfl hpreview
    exact ⟨reply.1, hrun.commit true "t" registrar rowImport _ (evaluates_alone _ _ _ _)⟩

end Sample

attribute [local instance] Sample.sheetLibrary Sample.sheetsServer

theorem writesWhereRead_firstRow : ∃ update ∈ Sample.written "A1:C2", ∃ rowID,
    WritesWhereRead (Sample.fetchOf "A1:C2") rowID update := by
  obtain ⟨preview, hrun⟩ := Sample.importRun "A1:C2" (by decide)
  have hsent : (Sample.written "A1:C2").map SheetUpdate.row = [2] := by decide
  obtain ⟨update, hupdate, -⟩ := List.mem_map.mp (hsent ▸ List.mem_singleton_self (2 : ℤ))
  obtain ⟨entry, hentry, job, hjob, cred, hcred, -, -, hiff⟩ := writebackRow_iff hrun hupdate
  obtain rfl := List.mem_singleton.mp hentry
  have hids : (Sample.rowImported "A1:C2").2.importJobs.docs.flatMap
      (fun job => job.credentials.map ImportCredential.rowID) = ["row-2"] := by decide
  have hid : cred.rowID ∈ ["row-2"] := hids ▸ List.mem_flatMap.mpr ⟨job, hjob, List.mem_map_of_mem hcred⟩
  rw [List.mem_singleton] at hid
  have hlocate : SheetsServer.locate (Sample.fetchOf "A1:C2").range = ("Students", 1) := by decide
  have hrow : (Sample.fetchOf "A1:C2").HasRow "row-2" := ⟨1, by decide, by decide, by decide⟩
  exact ⟨update, hupdate, cred.rowID, hiff.mpr ⟨hlocate, hid ▸ hrow⟩⟩

/-- The data are read from row six and the update is of row two. -/
theorem laterRow_overwrites : ∃ preview, ImportRun .mongo [(preview, Sample.fetchOf "A5:C6")]
    (Sample.rowImported "A5:C6").2 ∧ ∃ update ∈ Sample.written "A5:C6", ∀ rowID,
      ¬WritesWhereRead (Sample.fetchOf "A5:C6") rowID update := by
  obtain ⟨preview, hrun⟩ := Sample.importRun "A5:C6" (by decide)
  have hsent : (Sample.written "A5:C6").map SheetUpdate.row = [2] := by decide
  obtain ⟨update, hupdate, hrow⟩ := List.mem_map.mp (hsent ▸ List.mem_singleton_self (2 : ℤ))
  refine ⟨preview, hrun, update, hupdate, ?_⟩
  rintro rowID ⟨i, raw, hpos, -, -, -, hread⟩
  have hfirst : (SheetsServer.locate (Sample.fetchOf "A5:C6").range).2 = 5 := by decide
  rw [hrow, hfirst] at hread
  omega

end Sample

end ErgGo.Lms