import ErgGo.Hoclieu.AssetMetadata

/-!
# The learning material service

Every mutating operation checks its request, changes the memory and then writes to the
repository, if there is one. An operation is given by the memory it leaves, the writes it makes
in turn and its result.
-/

namespace ErgGo.Hoclieu
open Go

/-- What an operation meets: two readings of the clock, a fresh id, and the outcome of an upload
where uploads are configured. -/
structure ServiceEnv where
  now : Time
  later : Time := now
  newID : String := ""
  upload : Option (Except HoclieuError String) := none

inductive RepositoryWrite where
  | upsertResource (detail : ResourceDetail)
  | upsertAsset (asset : AssetRecord)
  | replaceResourceItems (resourceID : String) (items : List ResourceItem)
  | deleteResource (id : String)
  | upsertTaxonomy (kind : String) (option : TaxonomyOption)
  | deleteTaxonomy (kind id : String)
  | appendProgressEvent (event : TeacherProgressEvent)

structure Mutation (α : Type) where
  memory : Memory
  writes : List RepositoryWrite
  result : α

/-- `time.Time.UnixNano`. -/
def unixNano (t : Time) : ℤ := t - 62135596800000000000

def isDash (c : Char) : Bool := c = '-'

/-- `strings.Trim(s, "-")`. -/
def trimDashes (s : String) : String :=
  String.ofList ((s.toList.dropWhile isDash).reverse.dropWhile isDash).reverse

def isHTTPURLValue [Library] (value : String) : Bool :=
  let trimmed := trimSpace (toLower value)
  hasPrefix trimmed "http://" || hasPrefix trimmed "https://"

def slugify [Library] (now : Time) (input : String) : String :=
  let s := toLower (trimSpace input)
  let s := String.ofList (s.toList.map (fun c => if c ∈ [' ', '/', '_', '.'] then '-' else c))
  let s := trimDashes s
  if s = "" then "resource-" ++ toString (unixNano now) else s

def normalizeVisibility (value : String) : String :=
  if trimSpace value ∈ ["private", "center", "school", "public"] then trimSpace value else "public"

def normalizeStatus (value : String) : String :=
  if trimSpace value ∈ ["draft", "review", "published", "archived"] then trimSpace value else "draft"

def normalizeResourceItems (resourceID fallbackAssetID : String) (items : List ResourceItem) : List ResourceItem :=
  items.zipIdx.map (fun (item, idx) =>
    { item with
      resourceID := resourceID
      id := if item.id = "" then resourceID ++ "-item-" ++ toString (idx + 1) else item.id
      assetID := if item.assetID = "" then fallbackAssetID else item.assetID
      sortOrder := if item.sortOrder = 0 then idx + 1 else item.sortOrder })

/-- Replaces the listed copy of the asset, or lists it. -/
def syncAssetIntoResource (resource : ResourceDetail) (asset : Asset) : ResourceDetail :=
  { resource with
    assets :=
      if resource.assets.any (fun existing => existing.id = asset.id) then
        replaceFirst resource.assets
      else resource.assets ++ [asset] }
where
  replaceFirst : List Asset → List Asset
    | [] => []
    | existing :: rest => if existing.id = asset.id then asset :: rest else existing :: replaceFirst rest

/-- Listed without a file: what `CreateResource` lists for a resource without a link. -/
def Asset.isPlaceholder (asset : Asset) : Bool :=
  hasPrefix asset.id "asset-" && asset.storageURL = "" && asset.fileSizeBytes = 0

/-- The asset comes first; other copies of it and placeholders go. -/
def promotePrimaryAsset (assets : List Asset) (asset : Asset) : List Asset :=
  asset :: assets.filter (fun existing => existing.id ≠ asset.id && !existing.isPlaceholder)

def normalizeTaxonomyKind (kind : String) : String :=
  if trimSpace kind = "levels" then "grades"
  else if trimSpace kind = "document-types" then "categories"
  else trimSpace kind

inductive TaxonomyKind where
  | grades
  | subjects
  | categories
  | sections
  | bookSeries
  | topics
  deriving DecidableEq

def taxonomyKind (kind : String) : Option TaxonomyKind :=
  match normalizeTaxonomyKind kind with
  | "grades" => some .grades
  | "subjects" => some .subjects
  | "categories" => some .categories
  | "sections" => some .sections
  | "book-series" => some .bookSeries
  | "topics" => some .topics
  | _ => none

def Memory.taxonomySlice (m : Memory) : TaxonomyKind → List TaxonomyOption
  | .grades => m.grades
  | .subjects => m.subjects
  | .categories => m.categories
  | .sections => m.sections
  | .bookSeries => m.bookSeries
  | .topics => m.topics

def Memory.setTaxonomySlice (m : Memory) (options : List TaxonomyOption) : TaxonomyKind → Memory
  | .grades => { m with grades := options }
  | .subjects => { m with subjects := options }
  | .categories => { m with categories := options }
  | .sections => { m with sections := options }
  | .bookSeries => { m with bookSeries := options }
  | .topics => { m with topics := options }

@[simp] lemma Memory.taxonomySlice_set (m : Memory) (options : List TaxonomyOption) (kind : TaxonomyKind) :
    (m.setTaxonomySlice options kind).taxonomySlice kind = options := by
  cases kind <;> rfl

/-- Trims keys and values and drops the empty ones. -/
def sanitizeStringMap (input : GoMap String) : GoMap String :=
  GoMap.setAll ∅ ((input.pairs.map (fun (key, value) => (trimSpace key, trimSpace value))).filter
    (fun (key, value) => key ≠ "" && value ≠ ""))

def taxonomyOptionFromRequest [Library] (now : Time) (req : CreateTaxonomyOptionRequest) : TaxonomyOption :=
  let label := trimSpace req.label
  let slug := if trimSpace req.slug = "" then slugify now label else trimSpace req.slug
  { id := if trimSpace req.id = "" then slug else trimSpace req.id
    label := label
    slug := slug
    parentID := trimSpace req.parentID
    subjectID := trimSpace req.subjectID
    gradeID := trimSpace req.gradeID
    categoryID := trimSpace req.categoryID
    bookSeriesID := trimSpace req.bookSeriesID
    topicID := trimSpace req.topicID
    levelIDs := req.levelIDs
    description := trimSpace req.description
    sortOrder := req.sortOrder
    status := if trimSpace req.status = "" then "active" else trimSpace req.status
    metadata := sanitizeStringMap req.metadata }

def upsertTaxonomyOption (option : TaxonomyOption) : List TaxonomyOption → List TaxonomyOption
  | [] => [option]
  | existing :: rest => if existing.id = option.id then option :: rest else existing :: upsertTaxonomyOption option rest

/-- The option after an update that leaves it a label. -/
def updateTaxonomyOptionFields [Library] (now : Time) (req : UpdateTaxonomyOptionRequest) (option : TaxonomyOption) :
    Except HoclieuError TaxonomyOption :=
  let label := (req.label.map trimSpace).getD option.label
  if req.label.isSome && label = "" then .error .invalidRequest
  else .ok { option with
    label := label
    slug := match req.slug with
      | some slug => if trimSpace slug = "" then slugify now label else trimSpace slug
      | none => option.slug
    description := (req.description.map trimSpace).getD option.description
    parentID := (req.parentID.map trimSpace).getD option.parentID
    subjectID := (req.subjectID.map trimSpace).getD option.subjectID
    gradeID := (req.gradeID.map trimSpace).getD option.gradeID
    categoryID := (req.categoryID.map trimSpace).getD option.categoryID
    bookSeriesID := (req.bookSeriesID.map trimSpace).getD option.bookSeriesID
    topicID := (req.topicID.map trimSpace).getD option.topicID
    levelIDs := req.levelIDs.getD option.levelIDs
    sortOrder := req.sortOrder.getD option.sortOrder
    status := match req.status with
      | some status => if trimSpace status = "" then "active" else trimSpace status
      | none => option.status
    metadata := (req.metadata.map sanitizeStringMap).getD option.metadata }

def validTeacherNodeKind (kind : String) : Bool :=
  ["folder", "category", "section", "book_series", "topic", "resource", "lesson"].contains kind

def validProgressEventType (eventType : String) : Bool :=
  ["open", "start_teaching", "mark_taught", "complete"].contains eventType

namespace Service

variable [Library] [WebLibrary]

/-- The slug given, or one made from the title. -/
def resourceSlug (env : ServiceEnv) (req : CreateResourceRequest) : String :=
  if req.slug = "" then slugify env.later req.title else req.slug

def resourceID (slug : String) : String := "res-" ++ slug

def primaryAssetID (slug : String) : String := "asset-" ++ slug

/-- The upstream and the storage address of a new resource's asset: of a link each stands in for the other. -/
def assetURLs (req : CreateResourceRequest) : String × String :=
  let upstreamURL := trimSpace req.upstreamURL
  let storageURL := trimSpace req.thumbnailURL
  if req.selectedFileType = .link then
    let upstreamURL := if upstreamURL = "" && isHTTPURLValue storageURL then storageURL else upstreamURL
    (upstreamURL, if storageURL = "" then upstreamURL else storageURL)
  else (upstreamURL, storageURL)

def newResourceAsset (env : ServiceEnv) (req : CreateResourceRequest) (validation : FileTypeValidationResult) : AssetRecord where
  toFileTypeMetadata := fileTypeMetadata req.selectedFileType validation
    (newFileTypeAudit env.now req.actorID "resource.create.asset" none req.selectedFileType validation)
  id := primaryAssetID (resourceSlug env req)
  resourceID := resourceID (resourceSlug env req)
  title := req.title
  storageProvider := "r2"
  storageURL := (assetURLs req).2
  canDownload := req.canDownload.getD false
  updatedAt := env.now
  upstreamURL := (assetURLs req).1

def newResource (env : ServiceEnv) (req : CreateResourceRequest) (validation : FileTypeValidationResult)
    (items : List ResourceItem) : ResourceDetail where
  toFileTypeMetadata := fileTypeMetadata req.selectedFileType validation
    (newFileTypeAudit env.now req.actorID "resource.create" none req.selectedFileType validation)
  id := resourceID (resourceSlug env req)
  slug := resourceSlug env req
  title := req.title
  subtitle := req.subtitle
  thumbnailURL := req.thumbnailURL
  programSlug := req.programSlug
  subjectID := req.subjectID
  gradeID := req.gradeID
  categoryID := req.categoryID
  sectionID := req.sectionID
  bookSeriesID := req.bookSeriesID
  topicID := req.topicID
  levelID := req.levelID
  documentTypeID := req.documentTypeID
  priceType := if req.priceType = "" then "free" else req.priceType
  visibility := normalizeVisibility req.visibility
  status := normalizeStatus req.status
  canDownload := req.canDownload.getD false
  updatedAt := env.now
  description := req.description
  tags := req.tags
  assets := [(newResourceAsset env req validation).toAsset]
  items := items
  lectureDesign := req.lectureDesign

def createResource (env : ServiceEnv) (req : CreateResourceRequest) (m : Memory) :
    Except HoclieuError (Mutation ResourceDetail) := do
  let validation ← validateSelectedFileTypeMetadata req.selectedFileType req.originalFileName req.detectedMimeType
  let id := resourceID (resourceSlug env req)
  let asset := newResourceAsset env req validation
  let items := normalizeResourceItems id asset.id req.items
  let detail := newResource env req validation items
  let memory := { m with
    resources := m.resources.insert id detail
    assets := m.assets.insert asset.id asset
    items := if req.items.isEmpty then m.items else m.items.insert id items }
  return { memory := memory
           writes := [.upsertResource detail, .upsertAsset asset,
             .replaceResourceItems id ((memory.items.lookup id).getD [])]
           result := detail }

/-- The file type metadata after an update, if it touches them. -/
def updatedMetadata (now : Time) (actorID source : String) (selectedFileType : Option AssetFileType)
    (originalFileName detectedMimeType : Option String) (current : FileTypeMetadata) :
    Except HoclieuError (Option (AssetFileType × FileTypeValidationResult × FileTypeAudit)) :=
  if selectedFileType.isSome || originalFileName.isSome || detectedMimeType.isSome then do
    let selected := selectedFileType.getD current.selectedFileType
    let validation ← validateSelectedFileTypeMetadata selected (originalFileName.getD current.originalFileName)
      (detectedMimeType.getD current.detectedMimeType)
    return some (selected, validation, newFileTypeAudit now actorID source (some current.selectedFileType) selected validation)
  else return none

/-- The record with the metadata of an update, if it touches them. -/
def applyUpdatedMetadata {Record : Type}
    (apply : Record → AssetFileType → FileTypeValidationResult → FileTypeAudit → Record) (record : Record) :
    Option (AssetFileType × FileTypeValidationResult × FileTypeAudit) → Record
  | some (selected, validation, audit) => apply record selected validation audit
  | none => record

/-- The fields an update sets directly. -/
def updateResourceFields (later : Time) (req : UpdateResourceRequest) (resource : ResourceDetail) : ResourceDetail :=
  { resource with
    title := req.title.getD resource.title
    programSlug := (req.programSlug.map trimSpace).getD resource.programSlug
    subjectID := (req.subjectID.map trimSpace).getD resource.subjectID
    gradeID := (req.gradeID.map trimSpace).getD resource.gradeID
    categoryID := (req.categoryID.map trimSpace).getD resource.categoryID
    sectionID := (req.sectionID.map trimSpace).getD resource.sectionID
    subtitle := req.subtitle.getD resource.subtitle
    description := req.description.getD resource.description
    thumbnailURL := req.thumbnailURL.getD resource.thumbnailURL
    bookSeriesID := req.bookSeriesID.getD resource.bookSeriesID
    topicID := req.topicID.getD resource.topicID
    levelID := req.levelID.getD resource.levelID
    documentTypeID := req.documentTypeID.getD resource.documentTypeID
    priceType := req.priceType.getD resource.priceType
    visibility := (req.visibility.map normalizeVisibility).getD resource.visibility
    status := (req.status.map normalizeStatus).getD resource.status
    canDownload := req.canDownload.getD resource.canDownload
    tags := req.tags.getD resource.tags
    lectureDesign := req.lectureDesign <|> resource.lectureDesign
    updatedAt := later }

def updateResource (env : ServiceEnv) (id : String) (req : UpdateResourceRequest) (m : Memory) :
    Except HoclieuError (Mutation ResourceDetail) := do
  let some resource := m.resources.lookup id | throw .notFound
  let metadata ← updatedMetadata env.now req.actorID "resource.update" req.selectedFileType req.originalFileName
    req.detectedMimeType resource.toFileTypeMetadata
  let resource := applyUpdatedMetadata applyResourceFileTypeMetadata resource metadata
  let resource := updateResourceFields env.later req resource
  match req.items with
  | some items =>
    let items := normalizeResourceItems id ((resource.assets.head?.map Asset.id).getD "") items
    let resource := { resource with items := items }
    return { memory := { m with resources := m.resources.insert id resource, items := m.items.insert id items }
             writes := [.upsertResource resource, .replaceResourceItems id items]
             result := resource }
  | none =>
    return { memory := { m with resources := m.resources.insert id resource }
             writes := [.upsertResource resource]
             result := resource }

def deleteResource (id : String) (m : Memory) : Except HoclieuError (Mutation Unit) := do
  let some resource := m.resources.lookup id | throw .notFound
  return { memory := { m with
             resources := m.resources.erase id
             items := m.items.erase id
             assets := resource.assets.foldl (fun assets asset => assets.erase asset.id) m.assets
             pages := resource.assets.foldl (fun pages asset => pages.erase asset.id) m.pages }
           writes := [.deleteResource id]
           result := () }

def nextAssetID (resourceID : String) (m : Memory) : String :=
  "asset-" ++ resourceID ++ "-" ++ toString (m.assets.len + 1)

def newAsset (env : ServiceEnv) (req : CreateAssetRequest) (validation : FileTypeValidationResult) (id : String) : AssetRecord where
  toFileTypeMetadata := fileTypeMetadata req.selectedFileType validation
    (newFileTypeAudit env.now req.actorID "asset.create" none req.selectedFileType validation)
  id := id
  resourceID := req.resourceID
  title := req.title
  fileSizeBytes := req.fileSizeBytes
  storageProvider := if req.storageProvider = "" then "r2" else req.storageProvider
  storageURL := req.storageURL
  canDownload := req.canDownload.getD false
  updatedAt := env.now
  upstreamURL := req.upstreamURL

/-- The resource with a new asset in first place. -/
def withNewAsset (env : ServiceEnv) (req : CreateAssetRequest) (validation : FileTypeValidationResult)
    (record : AssetRecord) (resource : ResourceDetail) : ResourceDetail :=
  let audit := newFileTypeAudit env.now req.actorID "asset.create.resource_card" (some resource.selectedFileType)
    req.selectedFileType validation
  { applyResourceFileTypeMetadata resource req.selectedFileType validation audit with
    assets := promotePrimaryAsset resource.assets record.toAsset
    canDownload := req.canDownload.getD false
    updatedAt := env.now }

def createAsset (env : ServiceEnv) (req : CreateAssetRequest) (m : Memory) : Except HoclieuError (Mutation Asset) := do
  let validation ← validateSelectedFileTypeMetadata req.selectedFileType req.originalFileName req.detectedMimeType
  let some resource := m.resources.lookup req.resourceID | throw .notFound
  let record := newAsset env req validation (nextAssetID req.resourceID m)
  let resource := withNewAsset env req validation record resource
  return { memory := { m with
             assets := m.assets.insert record.id record
             resources := m.resources.insert req.resourceID resource }
           writes := [.upsertAsset record, .upsertResource resource]
           result := record.toAsset }

/-- The fields an update sets directly. -/
def updateAssetFields (now : Time) (req : UpdateAssetRequest) (record : AssetRecord) : AssetRecord :=
  { record with
    title := req.title.getD record.title
    fileSizeBytes := req.fileSizeBytes.getD record.fileSizeBytes
    storageProvider := req.storageProvider.getD record.storageProvider
    storageURL := req.storageURL.getD record.storageURL
    upstreamURL := req.upstreamURL.getD record.upstreamURL
    canDownload := req.canDownload.getD record.canDownload
    status := req.status.getD record.status
    updatedAt := now }

/-- The resource of an asset after the asset was updated. -/
def withUpdatedAsset (env : ServiceEnv) (req : UpdateAssetRequest) (validation : Option FileTypeValidationResult)
    (record : AssetRecord) (resource : ResourceDetail) : ResourceDetail :=
  let resource := syncAssetIntoResource resource record.toAsset
  let resource := match validation with
    | some validation => applyResourceFileTypeMetadata resource record.selectedFileType validation
        (newFileTypeAudit env.now req.actorID "asset.update.resource_card" (some resource.selectedFileType)
          record.selectedFileType validation)
    | none => resource
  { resource with
    canDownload := if req.canDownload.isSome then record.canDownload else resource.canDownload
    updatedAt := env.now }

def updateAsset (env : ServiceEnv) (id : String) (req : UpdateAssetRequest) (m : Memory) :
    Except HoclieuError (Mutation Asset) := do
  let some record := m.assets.lookup id | throw .notFound
  let metadata ← updatedMetadata env.now req.actorID "asset.update" req.selectedFileType req.originalFileName
    req.detectedMimeType record.toFileTypeMetadata
  let record := applyUpdatedMetadata applyAssetFileTypeMetadata record metadata
  let record := updateAssetFields env.now req record
  let assets := m.assets.insert id record
  match m.resources.lookup record.resourceID with
  | some resource =>
    let resource := withUpdatedAsset env req (metadata.map (fun checked => checked.2.1)) record resource
    return { memory := { m with assets := assets, resources := m.resources.insert record.resourceID resource }
             writes := [.upsertAsset record, .upsertResource resource]
             result := record.toAsset }
  | none =>
    return { memory := { m with assets := assets }
             writes := [.upsertAsset record]
             result := record.toAsset }

/-- The asset that an upload creates: where uploads are configured, of the file stored. -/
def uploadRequest (env : ServiceEnv) (req : UploadAssetRequest) (size : ℕ) (originalFileName detectedMimeType : String) :
    Except HoclieuError CreateAssetRequest := do
  let validation ← validateSelectedFileTypeMetadata req.selectedFileType originalFileName detectedMimeType
  let (storageURL, provider) ← match env.upload with
    | some (.ok url) => pure (url, "r2")
    | some (.error e) => throw e
    | none => pure ("", "local")
  return { resourceID := req.resourceID
           title := if trimSpace req.title = "" then validation.originalFileName else trimSpace req.title
           selectedFileType := req.selectedFileType
           originalFileName := validation.originalFileName
           detectedMimeType := validation.detectedMimeType
           fileSizeBytes := size
           storageProvider := provider
           storageURL := storageURL
           upstreamURL := storageURL
           canDownload := some req.canDownload
           actorID := req.actorID }

def uploadAsset (env : ServiceEnv) (req : UploadAssetRequest) (size : ℕ) (originalFileName detectedMimeType : String)
    (m : Memory) : Except HoclieuError (Mutation Asset) := do
  createAsset env (← uploadRequest env req size originalFileName detectedMimeType) m

def createTaxonomyOption (env : ServiceEnv) (kind : String) (req : CreateTaxonomyOptionRequest) (m : Memory) :
    Except HoclieuError (Mutation TaxonomyOption) := do
  let option := taxonomyOptionFromRequest env.now req
  let some target := taxonomyKind kind | throw .notFound
  return { memory := m.setTaxonomySlice (upsertTaxonomyOption option (m.taxonomySlice target)) target
           writes := [.upsertTaxonomy (normalizeTaxonomyKind kind) option]
           result := option }

/-- Changes the first option with this id. -/
def updateTaxonomyOption (env : ServiceEnv) (kind id : String) (req : UpdateTaxonomyOptionRequest) (m : Memory) :
    Except HoclieuError (Mutation TaxonomyOption) := do
  let some target := taxonomyKind kind | throw .notFound
  let some option := (m.taxonomySlice target).find? (fun option => option.id = trimSpace id) | throw .notFound
  let option ← updateTaxonomyOptionFields env.now req option
  return { memory := m.setTaxonomySlice (upsertTaxonomyOption option (m.taxonomySlice target)) target
           writes := [.upsertTaxonomy (normalizeTaxonomyKind kind) option]
           result := option }

/-- Removes the first option with this id. -/
def deleteTaxonomyOption (kind id : String) (m : Memory) : Except HoclieuError (Mutation Unit) := do
  let some target := taxonomyKind kind | throw .notFound
  let some _ := (m.taxonomySlice target).find? (fun option => option.id = trimSpace id) | throw .notFound
  return { memory := m.setTaxonomySlice ((m.taxonomySlice target).eraseP (fun option => option.id = trimSpace id)) target
           writes := [.deleteTaxonomy (normalizeTaxonomyKind kind) (trimSpace id)]
           result := () }

def trackProgressEvent (env : ServiceEnv) (req : TrackTeacherProgressEventRequest) (m : Memory) :
    Except HoclieuError (Mutation TeacherProgressEvent) :=
  let event : TeacherProgressEvent :=
    { id := env.newID
      teacherID := trimSpace req.teacherID
      schoolID := trimSpace req.schoolID
      academicYear := trimSpace req.academicYear
      subjectID := trimSpace req.subjectID
      nodeID := trimSpace req.nodeID
      nodeKind := req.nodeKind
      eventType := req.eventType
      resourceID := trimSpace req.resourceID
      occurredAt := match req.occurredAt with
        | some time => if time = 0 then env.now else time
        | none => env.now }
  if event.subjectID = "" || event.schoolID = "" || event.academicYear = "" || event.nodeID = "" || event.teacherID = "" then
    .error .invalidRequest
  else if !validProgressEventType req.eventType || !validTeacherNodeKind req.nodeKind then .error .invalidRequest
  else .ok { memory := { m with progressEvents := event :: m.progressEvents }
             writes := [.appendProgressEvent event]
             result := event }

end Service

/-- A web library for computing examples, without quoting and without links. -/
@[reducible] def plainWeb : WebLibrary where
  quote s := s
  encodeBase64 s := s
  parseURL _ := none

end ErgGo.Hoclieu
