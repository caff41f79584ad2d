import ErgGo.Hoclieu.Entities

/-!
# Selected file types

The type selected for a file is checked against its extension and its detected MIME type; a few
mismatches are let through with a warning.
-/

namespace ErgGo.Hoclieu
open Go

/-- `strconv.Quote`, base64 and the host and path of `url.Parse`, as the service uses them. -/
class WebLibrary where
  quote : String → String
  encodeBase64 : String → String
  parseURL : String → Option (String × String)

def hasPrefix (s start : String) : Bool := start.toList <+: s.toList

/-- `filepath.Ext`: the last element of the path from its last dot on. -/
def filepathExt (path : String) : String :=
  let element := path.toList.reverse.takeWhile (· ≠ '/')
  if '.' ∈ element then String.ofList ('.' :: (element.takeWhile (· ≠ '.')).reverse) else ""

def extensionsFor : AssetFileType → List String
  | .pdf => [".pdf"]
  | .pptx => [".pptx"]
  | .video => [".mp4", ".m4v", ".mov", ".webm", ".avi", ".mkv"]
  | .audio => [".mp3", ".wav", ".m4a", ".aac", ".ogg", ".oga"]
  | .html5 => [".html", ".htm", ".zip"]
  | .link => [".url", ".webloc", ".html", ".htm"]
  | .quiz => [".json", ".quiz", ".qti", ".zip"]
  | .zip => [".zip"]
  | .docx => [".docx"]
  | .xlsx => [".xlsx"]
  | .image => [".jpg", ".jpeg", ".png", ".gif", ".webp", ".svg"]
  | .other _ => []

def exactMimesFor : AssetFileType → List String
  | .pdf => ["application/pdf"]
  | .pptx => ["application/vnd.openxmlformats-officedocument.presentationml.presentation"]
  | .html5 => ["text/html", "application/xhtml+xml", "application/zip"]
  | .link => ["text/uri-list", "text/html"]
  | .quiz => ["application/json", "application/zip", "application/xml", "text/xml"]
  | .zip => ["application/zip", "application/x-zip-compressed"]
  | .docx => ["application/vnd.openxmlformats-officedocument.wordprocessingml.document"]
  | .xlsx => ["application/vnd.openxmlformats-officedocument.spreadsheetml.sheet"]
  | _ => []

def extensionAllowedFor (fileType : AssetFileType) (ext : String) : Bool := (extensionsFor fileType).contains ext

def mimeAllowedFor (fileType : AssetFileType) (mimeType : String) : Bool :=
  (exactMimesFor fileType).contains mimeType ||
    match fileType with
    | .video => hasPrefix mimeType "video/"
    | .audio => hasPrefix mimeType "audio/"
    | .image => hasPrefix mimeType "image/"
    | _ => false

def isSoftMimeMismatch (fileType : AssetFileType) (ext mimeType : String) : Bool :=
  if ext = "" || !extensionAllowedFor fileType ext then false
  else if mimeType = "application/octet-stream" || mimeType = "binary/octet-stream" then true
  else if mimeType = "application/zip" then fileType = .pptx || fileType = .docx || fileType = .xlsx
  else if mimeType = "text/plain" then fileType = .link && (ext = ".url" || ext = ".webloc")
  else false

structure FileTypeValidationResult where
  originalFileName : String
  detectedMimeType : String
  fileExtension : String
  warnings : List FileTypeWarning := []

section Validation

variable [Library] [WebLibrary]

def normalizeExtension (originalFileName : String) : String :=
  let ext := toLower (trimSpace (filepathExt originalFileName))
  if ext = "." then "" else ext

/-- The type without its parameters. -/
def normalizeMime (mimeType : String) : String :=
  let mimeType := toLower (trimSpace mimeType)
  if ';' ∈ mimeType.toList then trimSpace (String.ofList (mimeType.toList.takeWhile (· ≠ ';'))) else mimeType

def softMimeWarning (fileType : AssetFileType) (mimeType : String) : FileTypeWarning where
  code := "mime_metadata_warning"
  field := "detectedMimeType"
  message := "detected MIME " ++ WebLibrary.quote mimeType ++ " is accepted for " ++ fileType.text ++
    " only as a soft metadata warning"

def validateSelectedFileTypeMetadata (fileType : AssetFileType) (originalFileName detectedMimeType : String) :
    Except HoclieuError FileTypeValidationResult :=
  let result : FileTypeValidationResult :=
    { originalFileName := trimSpace originalFileName
      detectedMimeType := normalizeMime detectedMimeType
      fileExtension := normalizeExtension originalFileName }
  if !fileType.valid then .error .invalidFileType
  else if result.fileExtension ≠ "" && !extensionAllowedFor fileType result.fileExtension then
    .error (.extensionNotAllowed fileType.text result.fileExtension)
  else if result.detectedMimeType = "" || mimeAllowedFor fileType result.detectedMimeType then .ok result
  else if isSoftMimeMismatch fileType result.fileExtension result.detectedMimeType then
    .ok { result with warnings := [softMimeWarning fileType result.detectedMimeType] }
  else .error (.mimeNotAllowed fileType.text result.detectedMimeType)

def actorOrSystem (actorID : String) : String := if trimSpace actorID = "" then "system" else trimSpace actorID

def newFileTypeAudit (now : Time) (actorID source : String) (previous : Option AssetFileType) (current : AssetFileType)
    (validation : FileTypeValidationResult) : FileTypeAudit where
  changedAt := now
  changedBy := actorOrSystem actorID
  previousSelectedFileType := previous
  selectedFileType := current
  source := source
  originalFileName := trimSpace validation.originalFileName
  detectedMimeType := normalizeMime validation.detectedMimeType
  warnings := validation.warnings.map FileTypeWarning.code

end Validation

/-- What is recorded after a check. -/
def fileTypeMetadata (selectedFileType : AssetFileType) (validation : FileTypeValidationResult) (audit : FileTypeAudit) :
    FileTypeMetadata where
  selectedFileType := selectedFileType
  fileTypeBadge := selectedFileType.text
  launchMode := defaultLaunchMode selectedFileType
  originalFileName := validation.originalFileName
  detectedMimeType := validation.detectedMimeType
  fileExtension := validation.fileExtension
  metadataWarnings := validation.warnings
  fileTypeAudit := audit

def applyResourceFileTypeMetadata (resource : ResourceDetail) (selectedFileType : AssetFileType)
    (validation : FileTypeValidationResult) (audit : FileTypeAudit) : ResourceDetail :=
  { resource with toFileTypeMetadata := fileTypeMetadata selectedFileType validation audit }

def applyAssetFileTypeMetadata (asset : AssetRecord) (selectedFileType : AssetFileType)
    (validation : FileTypeValidationResult) (audit : FileTypeAudit) : AssetRecord :=
  { asset with toFileTypeMetadata := fileTypeMetadata selectedFileType validation audit }

end ErgGo.Hoclieu
