import ErgGo.Lib.Documents
import ErgGo.Lib.Interleaving
import ErgGo.Lms.Entities

/-!
# Posts

The posts table and the calls that write it. An update reads the post, derives a set of
columns from the request and from what was read, and writes those columns alone. The JSON
columns of a record hold the values they decode to.
-/

namespace ErgGo.Posts
open Go Documents Concurrent Program Lms

class PostsLibrary where
  /-- `unicode.ToUpper`. -/
  toUpper : Char → Char
  /-- `unicode.IsLetter`. -/
  isLetter : Char → Bool
  /-- `unicode.IsDigit`. -/
  isDigit : Char → Bool
  /-- The text in NFD, without its nonspacing marks, in NFC. -/
  removeMarks : String → String

/-- `strings.ToUpper`. -/
def toUpper [PostsLibrary] (s : String) : String := String.ofList (s.toList.map PostsLibrary.toUpper)

def postStatusDraft : String := "DRAFT"
def postStatusPublished : String := "PUBLISHED"

structure Category where
  id : ObjectID
  name : String
  slug : String
  isHidden : Bool := false

/-- A row of `posts`. -/
structure Post where
  id : ObjectID
  title : String
  slug : String
  excerpt : String := ""
  content : String := ""
  thumbnailURL : String := ""
  status : String
  isPublished : Bool := false
  publishedAt : Option Time := none
  createdByID : String := ""
  publishedByID : String := ""
  authorID : ObjectID := .nil
  viewCount : ℤ := 0
  commentCount : ℤ := 0
  categoryID : String
  isCreatedByAI : Bool := false
  aiPrompt : String := ""
  aiJobID : String := ""
  metaTitle : String := ""
  metaDescription : String := ""
  focusKeyword : String := ""
  keywords : String := ""
  canonicalURL : String := ""
  schemaType : String := ""
  seoScore : ℤ := 0
  readabilityScore : ℤ := 0
  keywordDensity : Float64 := 0
  robotsIndex : Bool := true
  robotsFollow : Bool := true
  tags : Option (List String) := none
  extra : Option JsonObject := none
  createdAt : Time := 0
  updatedAt : Time := 0
  deletedAt : Option Time := none

/-- The columns of a partial write. -/
structure PostUpdates where
  title : Option String := none
  slug : Option String := none
  excerpt : Option String := none
  content : Option String := none
  thumbnailURL : Option String := none
  status : Option String := none
  isPublished : Option Bool := none
  publishedAt : Option Time := none
  publishedByID : Option String := none
  categoryID : Option String := none
  tags : Option (List String) := none
  metaTitle : Option String := none
  metaDescription : Option String := none
  focusKeyword : Option String := none
  keywords : Option String := none
  canonicalURL : Option String := none
  schemaType : Option String := none
  seoScore : Option ℤ := none
  readabilityScore : Option ℤ := none
  keywordDensity : Option Float64 := none
  extra : Option JsonObject := none
  isCreatedByAI : Option Bool := none

def PostUpdates.apply (updates : PostUpdates) (now : Time) (post : Post) : Post :=
  { post with
    title := updates.title.getD post.title
    slug := updates.slug.getD post.slug
    excerpt := updates.excerpt.getD post.excerpt
    content := updates.content.getD post.content
    thumbnailURL := updates.thumbnailURL.getD post.thumbnailURL
    status := updates.status.getD post.status
    isPublished := updates.isPublished.getD post.isPublished
    publishedAt := updates.publishedAt.or post.publishedAt
    publishedByID := updates.publishedByID.getD post.publishedByID
    categoryID := updates.categoryID.getD post.categoryID
    tags := updates.tags.or post.tags
    metaTitle := updates.metaTitle.getD post.metaTitle
    metaDescription := updates.metaDescription.getD post.metaDescription
    focusKeyword := updates.focusKeyword.getD post.focusKeyword
    keywords := updates.keywords.getD post.keywords
    canonicalURL := updates.canonicalURL.getD post.canonicalURL
    schemaType := updates.schemaType.getD post.schemaType
    seoScore := updates.seoScore.getD post.seoScore
    readabilityScore := updates.readabilityScore.getD post.readabilityScore
    keywordDensity := updates.keywordDensity.getD post.keywordDensity
    extra := updates.extra.or post.extra
    isCreatedByAI := updates.isCreatedByAI.getD post.isCreatedByAI
    updatedAt := now }

/-! ## The store -/

structure Store where
  posts : Collection Post.id
  categories : List Category

/-- The unique index on slugs and the foreign key of the category. -/
def Store.admits (s : Store) (post : Post) : Bool :=
  s.posts.docs.all (fun other => other.id = post.id || other.slug ≠ post.slug) &&
    s.categories.any (fun cat => cat.id.hex = post.categoryID)

inductive PostsError where
  | message (text : String)
  | storeFailure
  deriving DecidableEq

inductive PostRequest where
  | now
  | newObjectID
  | newUUID
  | getCategoryByID (id : String)
  | createPost (post : Post)
  | getPostByID (id : String)
  | updatePost (id : String) (updates : PostUpdates)
  | softDeletePost (id : String)
  | restorePost (id : String)

abbrev PostResult : PostRequest → Type
  | .now => Time
  | .newObjectID => ObjectID
  | .newUUID => String
  | .getCategoryByID _ => Option Category
  | .createPost _ => Unit
  | .getPostByID _ => Option Post
  | .updatePost .. => Unit
  | .softDeletePost _ => Unit
  | .restorePost _ => Unit

abbrev PostReply (q : PostRequest) := Except PostsError (PostResult q)

structure PostEnv where
  now : Time := 0
  objectID : ObjectID := .nil
  uuid : String := ""

/-- `id = ? AND deleted_at IS NULL`. -/
def undeleted (id : String) (post : Post) : Bool := post.id.hex = id && post.deletedAt.isNone

def setColumns (updates : PostUpdates) (now : Time) : Update Post.id := ⟨updates.apply now, fun _ => rfl⟩

def setDeletedAt (deletedAt : Option Time) (now : Time) : Update Post.id :=
  ⟨fun post => { post with deletedAt := deletedAt, updatedAt := now }, fun _ => rfl⟩

def Repository.createPost (s : Store) (now : Time) (post : Post) : Except PostsError Unit × Store :=
  let record := { post with
    status := if post.status = "" then postStatusDraft else post.status
    viewCount := 0
    commentCount := 0
    createdAt := now
    updatedAt := now }
  if s.admits record then
    match s.posts.insertOne record with
    | some posts => (.ok (), { s with posts := posts })
    | none => (.error .storeFailure, s)
  else (.error .storeFailure, s)

def Repository.updatePost (s : Store) (now : Time) (id : String) (updates : PostUpdates) : Except PostsError Unit × Store :=
  match s.posts.find (undeleted id) with
  | none => (.ok (), s)
  | some post =>
    if s.admits (updates.apply now post) then
      (.ok (), { s with posts := s.posts.updateOne (undeleted id) (setColumns updates now) })
    else (.error .storeFailure, s)

/-- Each statement takes effect at once. -/
def carryOut (env : PostEnv) (q : PostRequest) (s : Store) : PostReply q × Store :=
  match q with
  | .now => (.ok env.now, s)
  | .newObjectID => (.ok env.objectID, s)
  | .newUUID => (.ok env.uuid, s)
  | .getCategoryByID id => (.ok (s.categories.find? (fun cat => cat.id.hex = id)), s)
  | .createPost post => Repository.createPost s env.now post
  | .getPostByID id => (.ok (s.posts.find (undeleted id)), s)
  | .updatePost id updates => Repository.updatePost s env.now id updates
  | .softDeletePost id =>
    (.ok (), { s with posts := s.posts.updateOne (undeleted id) (setDeletedAt (some env.now) env.now) })
  | .restorePost id =>
    (.ok (), { s with posts := s.posts.updateOne (fun post => post.id.hex = id) (setDeletedAt none env.now) })

/-- The clock and the random source do not fail. -/
def fallible : PostRequest → Bool
  | .now => false
  | .newObjectID => false
  | .newUUID => false
  | _ => true

def exec (env : PostEnv × Fault) (q : PostRequest) (s : Store) : PostReply q × Store :=
  if fallible q then withFaults .storeFailure carryOut env q s else carryOut env.1 q s

/-! ## The service -/

abbrev PostCall := ExceptT PostsError (Program PostRequest PostReply)

def call (q : PostRequest) : PostCall (PostResult q) := ExceptT.mk (.send q)

structure CreatePostRequest where
  title : String
  slug : String := ""
  excerpt : String := ""
  content : String := ""
  thumbnail : String := ""
  status : String := ""
  categoryID : String
  tags : Option (List String) := none
  isCreatedByAI : Bool := false
  aiPrompt : String := ""
  aiJobID : String := ""
  metaTitle : String := ""
  metaDescription : String := ""
  focusKeyword : String := ""
  keywords : String := ""
  canonicalURL : String := ""
  schemaType : String := ""
  seoScore : ℤ := 0
  readabilityScore : ℤ := 0
  keywordDensity : Float64 := 0
  extra : Option JsonObject := none

structure UpdatePostRequest where
  title : String := ""
  slug : String := ""
  excerpt : String := ""
  content : String := ""
  thumbnail : String := ""
  status : String := ""
  categoryID : String := ""
  tags : Option (List String) := none
  isCreatedByAI : Option Bool := none
  metaTitle : String := ""
  metaDescription : String := ""
  focusKeyword : String := ""
  keywords : String := ""
  canonicalURL : String := ""
  schemaType : String := ""
  seoScore : Option ℤ := none
  readabilityScore : Option ℤ := none
  keywordDensity : Option Float64 := none
  extra : Option JsonObject := none

/-- `if value != ""`. -/
def nonempty (value : String) : Option String := if value = "" then none else some value

namespace Service

section Content

variable [Library] [PostsLibrary]

def generateSlug (text : String) : PostCall String := do
  let slug := toLower (PostsLibrary.removeMarks text)
  let result := slug.toList.filter (fun r => PostsLibrary.isLetter r || PostsLibrary.isDigit r || r = '-')
  let uuid ← call .newUUID
  return String.ofList result ++ "-" ++ String.ofList (uuid.toList.take 8)

def slugFor (req : CreatePostRequest) : PostCall String :=
  if req.slug = "" then generateSlug req.title else pure req.slug

/-- The publication time and the publisher of a post that is published. -/
def stampPublication (authorID : String) (post : Post) : PostCall Post :=
  if post.isPublished then do
    let now ← call .now
    return { post with publishedAt := some now, publishedByID := authorID }
  else return post

def createPost (req : CreatePostRequest) (authorID : String) : PostCall (Option Post) := do
  match ← call (.getCategoryByID req.categoryID) with
  | none => throw (.message "posts.CreatePost: category not found")
  | some _ =>
    let slug ← slugFor req
    let status := if toUpper req.status = "" then postStatusDraft else toUpper req.status
    let id ← call .newObjectID
    let post ← stampPublication authorID
      { id := id, title := req.title, slug := slug, excerpt := req.excerpt, content := req.content,
        thumbnailURL := req.thumbnail, status := status, isPublished := status = postStatusPublished,
        authorID := (objectID authorID).toOption.getD .nil, createdByID := authorID,
        categoryID := ((objectID req.categoryID).toOption.getD .nil).hex, tags := req.tags,
        isCreatedByAI := req.isCreatedByAI, aiPrompt := req.aiPrompt, aiJobID := req.aiJobID,
        metaTitle := if req.metaTitle = "" then req.title else req.metaTitle,
        metaDescription := if req.metaDescription = "" then req.excerpt else req.metaDescription,
        focusKeyword := req.focusKeyword, keywords := req.keywords, canonicalURL := req.canonicalURL,
        schemaType := req.schemaType, extra := req.extra, seoScore := req.seoScore,
        readabilityScore := req.readabilityScore, keywordDensity := req.keywordDensity }
    call (.createPost post)
    return some post

/-- The columns an update writes, for the post it has read. -/
def updateFields (post : Post) (req : UpdatePostRequest) (userID : String) : PostCall PostUpdates := do
  let updates : PostUpdates :=
    { title := nonempty req.title, slug := (nonempty req.slug).map toLower, excerpt := nonempty req.excerpt,
      content := nonempty req.content, thumbnailURL := nonempty req.thumbnail, categoryID := nonempty req.categoryID,
      tags := req.tags, metaTitle := nonempty req.metaTitle, metaDescription := nonempty req.metaDescription,
      focusKeyword := nonempty req.focusKeyword, keywords := nonempty req.keywords,
      canonicalURL := nonempty req.canonicalURL, schemaType := nonempty req.schemaType, seoScore := req.seoScore,
      readabilityScore := req.readabilityScore, keywordDensity := req.keywordDensity, extra := req.extra,
      isCreatedByAI := req.isCreatedByAI }
  if req.status = "" then return updates
  else
    let status := toUpper req.status
    if status = postStatusPublished ∧ post.status ≠ postStatusPublished then
      let now ← call .now
      return { updates with status := some status, publishedAt := some now, publishedByID := some userID, isPublished := some true }
    else if status ≠ postStatusPublished then return { updates with status := some status, isPublished := some false }
    else return { updates with status := some status }

def updatePost (id : String) (req : UpdatePostRequest) (userID : String) : PostCall (Option Post) := do
  match ← call (.getPostByID id) with
  | none => return none
  | some post =>
    let updates ← updateFields post req userID
    call (.updatePost id updates)
    call (.getPostByID id)

end Content

def softDeletePost (id : String) : PostCall (Option Post) := do
  match ← call (.getPostByID id) with
  | none => throw (.message "posts.SoftDeletePost: post not found")
  | some _ =>
    call (.softDeletePost id)
    return none

def restorePost (id : String) : PostCall (Option Post) := do
  call (.restorePost id)
  return none

def promotePost (postID categoryID : String) : PostCall (Option Post) := do
  match ← call (.getCategoryByID categoryID) with
  | none => throw (.message "posts.PromotePost: category not found")
  | some cat =>
    if cat.isHidden then throw (.message "posts.PromotePost: target category is hidden")
    else
      call (.updatePost postID { categoryID := some categoryID })
      call (.getPostByID postID)

end Service

end ErgGo.Posts
