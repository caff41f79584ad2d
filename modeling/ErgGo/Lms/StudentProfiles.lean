import ErgGo.Lib.Runes
import ErgGo.Lms.ContentService

/-!
# Student profiles, usernames and passwords

How the service normalises and validates what a request says about a student.
-/

namespace ErgGo.Lms
open Go

/-! ## Profiles -/

def maxStudentCodeLength : ℕ := 64
def maxStudentNameLength : ℕ := 160
def maxStudentEmailLength : ℕ := 254
def maxStudentPhoneLength : ℕ := 32
def maxStudentAddressChars : ℕ := 300
def maxStudentNoteChars : ℕ := 1000

structure NormalizedStudentProfile where
  studentCode : String := ""
  fullName : String := ""
  email : String := ""
  gender : String := ""
  phone : String := ""
  address : String := ""
  parentName : String := ""
  parentPhone : String := ""
  parentEmail : String := ""
  parentRelationship : String := ""
  note : String := ""
  deriving DecidableEq

/-- A letter or digit, then up to 63 of the letters, the digits and the signs. -/
def studentCodePattern (s : String) : Bool :=
  match s.toList with
  | [] => false
  | c :: rest => c.isAlphanum && rest.length ≤ 63 && rest.all (fun c => c.isAlphanum || c ∈ ['.', '_', '/', '-'])

/-- `[^@\s]`. -/
def addressChar (c : Char) : Bool := c.val ∉ [0x40, 0x09, 0x0A, 0x0C, 0x0D, 0x20]

/-- `^[^@\s]+@[^@\s]+\.[^@\s]+$`. -/
def studentEmailPattern (s : String) : Bool :=
  match s.toList.splitOn '@' with
  | [name, domain] =>
    name ≠ [] && name.all addressChar && domain.all addressChar && '.' ∈ domain.tail.dropLast
  | _ => false

/-- A plus or a digit, then between 5 and 31 digits and signs. -/
def studentPhonePattern (s : String) : Bool :=
  match s.toList with
  | [] => false
  | c :: rest =>
    (c = '+' || c.isDigit) && 5 ≤ rest.length && rest.length ≤ 31 &&
      rest.all (fun c => c.isDigit || c ∈ [' ', '.', '(', ')', '/', '-'])

def exceedsRunes (value : String) (limit : ℕ) : Bool := value.length > limit

/-- Neither address of a profile may miss the pattern, be too long or hold a control character. -/
def invalidStudentEmail (email : String) : Bool :=
  email ≠ "" && (!studentEmailPattern email || exceedsRunes email maxStudentEmailLength || hasControlChars email)

def invalidStudentPhone (phone : String) : Bool :=
  phone ≠ "" && (!studentPhonePattern phone || exceedsRunes phone maxStudentPhoneLength || hasControlChars phone)

section Normalization

variable [Library]

def normalizeStudentProfile (profile : NormalizedStudentProfile) : Except LmsError NormalizedStudentProfile := do
  let profile : NormalizedStudentProfile :=
    { studentCode := trimSpace profile.studentCode
      fullName := joinFields profile.fullName
      email := toLower (trimSpace profile.email)
      gender := toLower (trimSpace profile.gender)
      phone := trimSpace profile.phone
      address := trimSpace profile.address
      parentName := joinFields profile.parentName
      parentPhone := trimSpace profile.parentPhone
      parentEmail := toLower (trimSpace profile.parentEmail)
      parentRelationship := toLower (trimSpace profile.parentRelationship)
      note := trimSpace profile.note }
  rejectIf (profile.fullName = "" || exceedsRunes profile.fullName maxStudentNameLength ||
    hasControlChars profile.fullName) .invalidStudentProfile
  rejectIf (profile.studentCode ≠ "" && (!studentCodePattern profile.studentCode ||
    exceedsRunes profile.studentCode maxStudentCodeLength)) .invalidStudentProfile
  rejectIf (invalidStudentEmail profile.email) .invalidStudentProfile
  rejectIf (invalidStudentEmail profile.parentEmail) .invalidStudentProfile
  rejectIf (profile.gender ∉ ["", "male", "female", "other"]) .invalidStudentProfile
  rejectIf (invalidStudentPhone profile.phone) .invalidStudentProfile
  rejectIf (invalidStudentPhone profile.parentPhone) .invalidStudentProfile
  rejectIf (exceedsRunes profile.address maxStudentAddressChars || exceedsRunes profile.note maxStudentNoteChars)
    .invalidStudentProfile
  rejectIf (hasControlChars profile.address || hasControlChars profile.parentName ||
    hasControlChars profile.parentRelationship || hasControlChars profile.note) .invalidStudentProfile
  return profile

/-! ## Usernames -/

def foldVietnamese (r : Char) : Char :=
  if r ∈ "àáảãạăằắẳẵặâầấẩẫậ".toList then 'a'
  else if r ∈ "èéẻẽẹêềếểễệ".toList then 'e'
  else if r ∈ "ìíỉĩị".toList then 'i'
  else if r ∈ "òóỏõọôồốổỗộơờớởỡợ".toList then 'o'
  else if r ∈ "ùúủũụưừứửữự".toList then 'u'
  else if r ∈ "ỳýỷỹỵ".toList then 'y'
  else if r = 'đ' then 'd'
  else r

/-- The loop over the runes of a name: whatever is neither letter nor digit becomes one dot. -/
def dotted [Unicode] (lastDot : Bool) : List Char → List Char
  | [] => []
  | r :: rest =>
    let r := foldVietnamese r
    if Unicode.isLetter r || Unicode.isDigit r then r :: dotted false rest
    else if lastDot then dotted true rest
    else '.' :: dotted true rest

def normalizeUsername [Unicode] (value : String) : String :=
  String.ofList (trim (dotted false (toLower (trimSpace value)).toList) ['.'])

/-- What `uniqueStudentUsername` tries first. -/
def usernameBase [Unicode] (fullName className : String) : String :=
  let base := normalizeUsername (fullName ++ "." ++ className)
  let base := if base = "" then "student" else base
  if base.utf8ByteSize > 56 then String.ofList (trim (takeBytes 56 base.toList) ['.', '_', '-']) else base

def usernameChar (c : Char) : Bool := c.isLower || c.isDigit

/-- `^[a-z0-9](?:[a-z0-9._-]{1,62}[a-z0-9])?$`. -/
def studentUsernamePattern (s : String) : Bool :=
  match s.toList with
  | [] => false
  | c :: rest =>
    usernameChar c && (rest.isEmpty || (2 ≤ rest.length && rest.length ≤ 63 &&
      rest.dropLast.all (fun c => usernameChar c || c ∈ ['.', '_', '-']) && rest.getLast?.all usernameChar))

def validateStudentUsername (username : String) : Except LmsError Unit := do
  rejectIf (!studentUsernamePattern username) .invalidStudentAccountPayload
  rejectIf (contains username ".." || contains username "__" || contains username "--") .invalidStudentAccountPayload

def normalizeStudentUsername (value : String) : String := toLower (trimSpace value)

def studentAccountEmailDomain : String := "student.erg.edu.vn"

def studentAccountEmail (username : String) : String :=
  normalizeStudentUsername username ++ "@" ++ studentAccountEmailDomain

/-! ## Passwords -/

def studentPasswordMinLength : ℕ := 8
def studentPasswordMaxLength : ℕ := 128

def compactCredentialToken [Unicode] (value : String) : String :=
  String.ofList ((toLower value).toList.filter (fun r => Unicode.isLetter r || Unicode.isDigit r))

def validateStudentPassword [Unicode] (password username fullName : String) : Except LmsError Unit := do
  let password := trimSpace password
  let lowerPassword := toLower password
  let nameToken := compactCredentialToken fullName
  rejectIf (password.utf8ByteSize < studentPasswordMinLength || password.utf8ByteSize > studentPasswordMaxLength)
    .invalidStudentAccountPayload
  rejectIf (username ≠ "" && contains lowerPassword (toLower username)) .invalidStudentAccountPayload
  rejectIf (nameToken.utf8ByteSize ≥ 4 && contains lowerPassword nameToken) .invalidStudentAccountPayload
  rejectIf (password.toList.any isControl) .invalidStudentAccountPayload
  rejectIf (!password.toList.any Unicode.isLetter || !password.toList.any Unicode.isDigit) .invalidStudentAccountPayload

/-- The password for a random number below a million. -/
def tempPassword (n : ℕ) : String :=
  "ERG" ++ String.ofList ((Nat.toDigits 10 n).leftpad 6 '0')

end Normalization

end ErgGo.Lms
