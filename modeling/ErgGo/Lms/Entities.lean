import ErgGo.Lib.Documents
import ErgGo.Lib.GoRuntime

/-!
# LMS records

The stored records of the LMS module, object ids with their hexadecimal form, and the
errors of the service.
-/

namespace ErgGo.Lms
open Go Documents

inductive LmsError where
  | scopeForbidden
  | notFound
  | emptyRecipient
  | attemptDone
  | hashMismatch
  | invalidFieldKey
  | invalidContentPayload
  | invalidQuestionKind (kind : String)
  | invalidStudentProfile
  | invalidStudentAccountPayload
  | studentAccountProvisioningUnavailable
  | accessManagementUnavailable
  | invalidAccessPolicy (detail : String)
  | invalidObjectID (id : String)
  | duplicateKey
  | storeFailure
  | message (text : String)
  | runtimePanic
  deriving DecidableEq

/-- The `Error()` text, as far as the service fixes it. -/
def LmsError.text : LmsError → String
  | .scopeForbidden => "SCOPE_FORBIDDEN"
  | .notFound => "NOT_FOUND"
  | .emptyRecipient => "ASSIGNMENT_RECIPIENT_EMPTY"
  | .attemptDone => "ATTEMPT_ALREADY_SUBMITTED"
  | .hashMismatch => "ATTEMPT_PACKAGE_HASH_MISMATCH"
  | .invalidFieldKey => "INVALID_FIELD_KEY"
  | .invalidContentPayload => "INVALID_CONTENT_PAYLOAD"
  | .invalidQuestionKind kind => "INVALID_QUESTION_KIND: " ++ kind
  | .invalidStudentProfile => "INVALID_STUDENT_PROFILE"
  | .invalidStudentAccountPayload => "INVALID_STUDENT_ACCOUNT_PAYLOAD"
  | .studentAccountProvisioningUnavailable => "STUDENT_ACCOUNT_PROVISIONING_UNAVAILABLE"
  | .accessManagementUnavailable => "ACCESS_MANAGEMENT_UNAVAILABLE"
  | .invalidAccessPolicy detail => "INVALID_ACCESS_POLICY: " ++ detail
  | .invalidObjectID id => "invalid object id \"" ++ id ++ "\""
  | .duplicateKey => "duplicate key"
  | .storeFailure => "store failure"
  | .message text => text
  | .runtimePanic => "runtime error"

/-- The twelve bytes of a BSON object id, as their 24 hexadecimal digits. -/
structure ObjectID where
  digits : List (Fin 16)
  length_digits : digits.length = 24
  deriving DecidableEq

namespace ObjectID

def nil : ObjectID := ⟨List.replicate 24 0, by simp⟩

def isZero (id : ObjectID) : Bool := id = nil

/-- `Hex()`. -/
def hex (id : ObjectID) : String := String.ofList (id.digits.map (fun d => Nat.digitChar d.val))

end ObjectID

/-- The value of a hexadecimal digit in either case. -/
def hexValue (c : Char) : Option (Fin 16) :=
  if h : 48 ≤ c.toNat ∧ c.toNat ≤ 57 then some ⟨c.toNat - 48, by omega⟩
  else if h : 97 ≤ c.toNat ∧ c.toNat ≤ 102 then some ⟨c.toNat - 87, by omega⟩
  else if h : 65 ≤ c.toNat ∧ c.toNat ≤ 70 then some ⟨c.toNat - 55, by omega⟩
  else none

/-- `bson.ObjectIDFromHex` with the error of the repository's `objectID`. -/
def objectID (id : String) : Except LmsError ObjectID :=
  match id.toList.mapM hexValue with
  | some digits => if h : digits.length = 24 then .ok ⟨digits, h⟩ else .error (.invalidObjectID id)
  | none => .error (.invalidObjectID id)

lemma hexValue_digitChar (d : Fin 16) : hexValue (Nat.digitChar d.val) = some d := by
  revert d
  decide

@[simp] lemma objectID_hex (id : ObjectID) : objectID id.hex = .ok id := by
  have hparse : ∀ ds : List (Fin 16),
      (ds.map (fun d => Nat.digitChar d.val)).mapM hexValue = some ds := by
    intro ds
    induction ds with
    | nil => rfl
    | cons d ds ih => simp [hexValue_digitChar, ih]
  have h := hparse id.digits
  simp only [objectID, ObjectID.hex, String.toList_ofList, h, id.length_digits, ↓reduceDIte]

lemma objectID_empty : objectID "" = .error (.invalidObjectID "") := by decide

lemma objectID_ne_scopeForbidden (id : String) : objectID id ≠ .error .scopeForbidden := by
  unfold objectID
  split
  · split <;> simp
  · simp

lemma ObjectID.hex_injective : Function.Injective ObjectID.hex := by
  intro a b h
  have := congrArg objectID h
  simpa using this

/-- The ids of examples. -/
def Sample.id (n : ℕ) : ObjectID := ⟨List.replicate 23 0 ++ [Fin.ofNat 16 n], by simp⟩

structure Actor where
  userID : String
  roles : List String

structure Center where
  id : ObjectID
  tenantID : String
  type : String := ""
  name : String := ""
  code : String := ""
  parentID : ObjectID := .nil
  status : String := "active"
  managerUserID : String := ""

structure Class where
  id : ObjectID
  tenantID : String
  centerID : ObjectID
  name : String := ""
  grade : String := ""
  academicYear : String := ""
  status : String := "active"
  homeroomTeacherID : String := ""
  createdAt : Time := 0
  updatedAt : Time := 0

structure StudentMetrics where
  averageScore : Option Float64 := none
  completedAssignments : ℤ := 0
  lastActivityAt : Option Time := none

structure Student where
  id : ObjectID
  tenantID : String
  centerID : ObjectID
  classID : ObjectID
  studentCode : String := ""
  fullName : String := ""
  username : String := ""
  authUserID : String := ""
  email : String := ""
  gender : String := ""
  birthday : Option Time := none
  phone : String := ""
  address : String := ""
  parentName : String := ""
  parentPhone : String := ""
  parentEmail : String := ""
  parentRelationship : String := ""
  enrollmentDate : Option Time := none
  note : String := ""
  status : String := "active"
  metrics : StudentMetrics := {}
  createdAt : Time := 0
  updatedAt : Time := 0

structure CurrentScope where
  id : ObjectID
  tenantID : String
  userID : String
  level : String
  centerID : String := ""
  classID : String := ""
  updatedAt : Time := 0

/-- Of a quiz the modelled operations read its identity, tenant and subject. -/
structure Quiz where
  id : ObjectID
  tenantID : String
  subjectID : ObjectID

structure Assignment where
  id : ObjectID := .nil
  tenantID : String
  classID : ObjectID
  quizID : ObjectID
  subjectID : ObjectID := .nil
  studentIDs : List ObjectID
  dueAt : Option Time := none
  teacherNote : String := ""
  status : String := ""
  assignedBy : String := ""
  recipientMode : String := ""
  createdAt : Time := 0
  updatedAt : Time := 0

/-- A decoded `map[string]any`. -/
abbrev JsonObject := List (String × JsonValue)

structure AttemptAnswer where
  questionID : String
  answer : JsonValue := .null
  clientResult : Option JsonObject := none
  answeredAt : Option Time := none

structure Attempt where
  id : ObjectID := .nil
  tenantID : String
  assignmentID : ObjectID
  quizID : ObjectID
  studentID : ObjectID
  packageID : String := ""
  packageHash : String := ""
  quizVersion : String := ""
  status : String := ""
  answers : GoMap AttemptAnswer := ∅
  events : Option (List JsonObject) := none
  client : Option JsonObject := none
  score : Float64 := 0
  maxScore : Float64 := 0
  percent : Float64 := 0
  passed : Bool := false
  startedAt : Time := 0
  submittedAt : Option Time := none
  updatedAt : Time := 0

/-- What the unique partial index on attempts in progress is over. -/
def Attempt.activeKey (a : Attempt) : String × ObjectID × ObjectID × ObjectID :=
  (a.tenantID, a.assignmentID, a.quizID, a.studentID)

end ErgGo.Lms
