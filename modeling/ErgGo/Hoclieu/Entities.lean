import ErgGo.Lib.GoRuntime

/-!
# The data of the learning materials

Resources with their assets and items, the taxonomy, the progress events of teachers, and the
requests that create and change them. A copy of a record is the record.
-/

namespace ErgGo.Hoclieu
open Go

inductive HoclieuError where
  | invalidFileType
  | extensionNotAllowed (fileType extension : String)
  | mimeNotAllowed (fileType mimeType : String)
  | invalidRequest
  | notFound
  | storage (text : String)
  deriving DecidableEq

inductive AssetFileType where
  | pdf
  | pptx
  | video
  | audio
  | html5
  | link
  | quiz
  | zip
  | docx
  | xlsx
  | image
  | other (text : String)
  deriving DecidableEq

namespace AssetFileType

def text : AssetFileType → String
  | pdf => "PDF"
  | pptx => "PPTX"
  | video => "VIDEO"
  | audio => "AUDIO"
  | html5 => "HTML5"
  | link => "LINK"
  | quiz => "QUIZ"
  | zip => "ZIP"
  | docx => "DOCX"
  | xlsx => "XLSX"
  | image => "IMAGE"
  | other text => text

def valid : AssetFileType → Bool
  | other _ => false
  | _ => true

end AssetFileType

inductive LaunchMode where
  | pdfReader
  | slideImageProxy
  | googleSlide
  | videoPlayer
  | audioPlayer
  | html5Embed
  | quizRuntime
  | downloadOnly
  | external
  deriving DecidableEq

def defaultLaunchMode : AssetFileType → LaunchMode
  | .pdf => .pdfReader
  | .pptx => .slideImageProxy
  | .video => .videoPlayer
  | .audio => .audioPlayer
  | .html5 => .html5Embed
  | .quiz => .quizRuntime
  | .link => .external
  | _ => .downloadOnly

structure FileTypeWarning where
  code : String
  field : String
  message : String
  deriving DecidableEq

structure FileTypeAudit where
  changedAt : Time
  changedBy : String
  previousSelectedFileType : Option AssetFileType
  selectedFileType : AssetFileType
  source : String
  originalFileName : String
  detectedMimeType : String
  warnings : List String
  deriving DecidableEq

/-- What a resource and an asset record about the selected file type. -/
structure FileTypeMetadata where
  selectedFileType : AssetFileType
  fileTypeBadge : String
  launchMode : LaunchMode
  originalFileName : String
  detectedMimeType : String
  fileExtension : String
  metadataWarnings : List FileTypeWarning
  fileTypeAudit : FileTypeAudit
  deriving DecidableEq

structure ResourceItem where
  id : String := ""
  resourceID : String := ""
  assetID : String := ""
  unitTitle : String := ""
  lessonTitle : String := ""
  sortOrder : ℤ := 0
  pageCount : ℤ := 0
  durationSec : ℤ := 0
  deriving DecidableEq

structure LectureDesign where
  templateID : String := ""
  bannerTitle : String := ""
  bannerSubtitle : String := ""
  backgroundURL : String := ""
  coverURL : String := ""
  accentColor : String := ""
  secondaryColor : String := ""
  logoURL : String := ""
  itemColumns : ℤ := 0
  showDownload : Bool := false
  unitLabels : List String := []
  deriving DecidableEq

structure Asset extends FileTypeMetadata where
  id : String
  resourceID : String
  title : String
  fileSizeBytes : ℤ := 0
  storageProvider : String
  storageURL : String
  status : String := "ready"
  canDownload : Bool
  updatedAt : Time
  deriving DecidableEq

structure AssetRecord extends Asset where
  upstreamURL : String
  deriving DecidableEq

structure ResourceCard extends FileTypeMetadata where
  id : String
  slug : String
  title : String
  subtitle : String
  thumbnailURL : String
  programSlug : String
  subjectID : String
  gradeID : String
  categoryID : String
  sectionID : String
  bookSeriesID : String
  topicID : String
  levelID : String
  documentTypeID : String
  priceType : String
  accessState : String := "open"
  visibility : String
  status : String
  canDownload : Bool
  updatedAt : Time
  deriving DecidableEq

structure ResourceDetail extends ResourceCard where
  description : String
  tags : List String
  assets : List Asset
  items : List ResourceItem := []
  lectureDesign : Option LectureDesign
  deriving DecidableEq

structure Program where
  id : String
  slug : String
  name : String
  shortName : String
  subjectIDs : List String
  gradeIDs : List String
  description : String

structure TaxonomyOption where
  id : String
  label : String
  slug : String
  parentID : String := ""
  subjectID : String := ""
  gradeID : String := ""
  categoryID : String := ""
  bookSeriesID : String := ""
  topicID : String := ""
  levelIDs : List String := []
  description : String := ""
  sortOrder : ℤ := 0
  status : String := ""
  metadata : GoMap String := ∅
  deriving DecidableEq

structure LectureDesignerPreset where
  id : String
  name : String
  description : String
  accentColor : String
  layout : String

structure ViewerPage where
  index : ℤ
  title : String
  imageURL : String := ""
  width : ℤ
  height : ℤ
  durationSec : ℤ := 0

structure TeacherProgressEvent where
  id : String
  teacherID : String
  schoolID : String
  academicYear : String
  subjectID : String
  nodeID : String
  nodeKind : String
  eventType : String
  resourceID : String
  occurredAt : Time
  deriving DecidableEq

structure CreateResourceRequest where
  title : String
  slug : String := ""
  subtitle : String := ""
  description : String := ""
  thumbnailURL : String := ""
  upstreamURL : String := ""
  programSlug : String
  subjectID : String
  gradeID : String := ""
  categoryID : String
  sectionID : String := ""
  bookSeriesID : String := ""
  topicID : String := ""
  levelID : String := ""
  documentTypeID : String := ""
  selectedFileType : AssetFileType
  originalFileName : String := ""
  detectedMimeType : String := ""
  priceType : String := ""
  visibility : String := ""
  status : String := ""
  canDownload : Option Bool := none
  tags : List String := []
  items : List ResourceItem := []
  lectureDesign : Option LectureDesign := none
  actorID : String := ""

structure UpdateResourceRequest where
  programSlug : Option String := none
  subjectID : Option String := none
  gradeID : Option String := none
  categoryID : Option String := none
  sectionID : Option String := none
  title : Option String := none
  subtitle : Option String := none
  description : Option String := none
  thumbnailURL : Option String := none
  bookSeriesID : Option String := none
  topicID : Option String := none
  levelID : Option String := none
  documentTypeID : Option String := none
  selectedFileType : Option AssetFileType := none
  originalFileName : Option String := none
  detectedMimeType : Option String := none
  priceType : Option String := none
  visibility : Option String := none
  status : Option String := none
  canDownload : Option Bool := none
  tags : Option (List String) := none
  items : Option (List ResourceItem) := none
  lectureDesign : Option LectureDesign := none
  actorID : String := ""

structure CreateAssetRequest where
  resourceID : String
  title : String
  selectedFileType : AssetFileType
  originalFileName : String := ""
  detectedMimeType : String := ""
  fileSizeBytes : ℤ := 0
  storageProvider : String := ""
  storageURL : String := ""
  upstreamURL : String := ""
  canDownload : Option Bool := none
  actorID : String := ""

structure UpdateAssetRequest where
  title : Option String := none
  selectedFileType : Option AssetFileType := none
  originalFileName : Option String := none
  detectedMimeType : Option String := none
  fileSizeBytes : Option ℤ := none
  storageProvider : Option String := none
  storageURL : Option String := none
  upstreamURL : Option String := none
  canDownload : Option Bool := none
  status : Option String := none
  actorID : String := ""

structure UploadAssetRequest where
  resourceID : String
  title : String
  selectedFileType : AssetFileType
  canDownload : Bool
  actorID : String := ""

structure CreateTaxonomyOptionRequest where
  id : String := ""
  label : String
  slug : String := ""
  parentID : String := ""
  subjectID : String := ""
  gradeID : String := ""
  categoryID : String := ""
  bookSeriesID : String := ""
  topicID : String := ""
  levelIDs : List String := []
  description : String := ""
  sortOrder : ℤ := 0
  status : String := ""
  metadata : GoMap String := ∅

structure UpdateTaxonomyOptionRequest where
  label : Option String := none
  slug : Option String := none
  parentID : Option String := none
  subjectID : Option String := none
  gradeID : Option String := none
  categoryID : Option String := none
  bookSeriesID : Option String := none
  topicID : Option String := none
  levelIDs : Option (List String) := none
  description : Option String := none
  sortOrder : Option ℤ := none
  status : Option String := none
  metadata : Option (GoMap String) := none

structure TrackTeacherProgressEventRequest where
  schoolID : String
  academicYear : String
  subjectID : String
  nodeID : String
  nodeKind : String
  eventType : String
  resourceID : String := ""
  occurredAt : Option Time := none
  teacherID : String

/-- What the service keeps in memory. -/
structure Memory where
  programs : List Program := []
  grades : List TaxonomyOption := []
  subjects : List TaxonomyOption := []
  categories : List TaxonomyOption := []
  sections : List TaxonomyOption := []
  bookSeries : List TaxonomyOption := []
  topics : List TaxonomyOption := []
  designerPresets : List LectureDesignerPreset := []
  resources : GoMap ResourceDetail := ∅
  assets : GoMap AssetRecord := ∅
  items : GoMap (List ResourceItem) := ∅
  pages : GoMap (List ViewerPage) := ∅
  progressEvents : List TeacherProgressEvent := []

end ErgGo.Hoclieu
