import ErgGo.Lib.ReadCommitted
import ErgGo.Postgres.Models

/-!
# The community store

Topics, posts, comments, reactions and follows with their counters, and the transactions
that write them. An update moves a counter relative to its stored value. The reads after
COMMIT that answer the caller are left out.
-/

namespace ErgGo.Community
open Go Documents Concurrent Program Lms Postgres

def targetTypePost : String := "post"
def targetTypeComment : String := "comment"
def targetTypeTopic : String := "topic"
def targetTypeUser : String := "user"

def validReaction (value : String) : Bool :=
  value ∈ ["like", "love", "care", "haha", "wow", "sad", "angry"]

def validTargetType (value : String) : Bool := value = targetTypePost || value = targetTypeComment

/-- A row of `community_topics`. -/
structure CommunityTopic where
  id : String
  tenantID : String
  slug : String
  threadCount : ℤ := 0
  postCount : ℤ := 0
  followerCount : ℤ := 0
  lastPostID : String := ""
  lastPostAt : Option Time := none
  updatedAt : Time := 0
  deletedAt : Option Time := none

/-- A row of `community_posts`. -/
structure CommunityPost where
  id : String := ""
  tenantID : String
  topicID : String
  authorID : String
  title : String := ""
  content : String
  postType : String := ""
  status : String := ""
  visibility : String := ""
  tags : List String := []
  commentCount : ℤ := 0
  reactionCount : ℤ := 0
  lastActivityAt : Time := 0
  createdAt : Time := 0
  updatedAt : Time := 0
  deletedAt : Option Time := none

/-- A row of `community_media`. -/
structure CommunityMedia where
  id : String := ""
  postID : String := ""
  mediaType : String
  url : String
  sortOrder : ℕ := 0
  createdAt : Time := 0

/-- A row of `community_comments`. -/
structure CommunityComment where
  id : String := ""
  tenantID : String
  postID : String
  parentID : String := ""
  rootID : String := ""
  authorID : String
  content : String
  depth : ℤ := 0
  replyCount : ℤ := 0
  reactionCount : ℤ := 0
  createdAt : Time := 0
  updatedAt : Time := 0
  deletedAt : Option Time := none

/-- The columns of the unique index on reactions and of the one on follows. -/
structure TargetKey where
  tenantID : String
  targetType : String
  targetID : String
  userID : String
  deriving DecidableEq

/-- A row of `community_reactions`. -/
structure CommunityReaction where
  id : String
  key : TargetKey
  reaction : String
  createdAt : Time := 0
  updatedAt : Time := 0

/-- A row of `community_follows`. -/
structure CommunityFollow where
  id : String
  key : TargetKey
  createdAt : Time := 0

/-! ## The store -/

structure Store where
  users : List Postgres.AuthUser
  topics : Collection CommunityTopic.id
  posts : Collection CommunityPost.id
  media : Collection CommunityMedia.id
  comments : Collection CommunityComment.id
  reactions : Collection CommunityReaction.id
  follows : Collection CommunityFollow.key

inductive CommunityError where
  | message (text : String)
  | recordNotFound
  | constraintViolation
  | storeFailure
  | wrapped (operation : String) (err : CommunityError)
  deriving DecidableEq

/-- `SET` of an update of a topic. -/
inductive TopicChange where
  | newThread (postID : String) (now : Time)
  | newFollower
  | lostFollower

def TopicChange.apply (topic : CommunityTopic) : TopicChange → CommunityTopic
  | .newThread postID now =>
    { topic with
      threadCount := topic.threadCount + 1
      postCount := topic.postCount + 1
      lastPostID := postID
      lastPostAt := some now
      updatedAt := now }
  | .newFollower => { topic with followerCount := topic.followerCount + 1 }
  | .lostFollower => { topic with followerCount := max (topic.followerCount - 1) 0 }

/-- `SET` of an update of a post. -/
inductive PostChange where
  | newComment (now : Time)
  | reactions (delta : ℤ) (now : Time)

def PostChange.apply (post : CommunityPost) : PostChange → CommunityPost
  | .newComment now => { post with commentCount := post.commentCount + 1, lastActivityAt := now, updatedAt := now }
  | .reactions delta now => { post with reactionCount := max (post.reactionCount + delta) 0, updatedAt := now }

/-- `SET` of an update of a comment. -/
inductive CommentChange where
  | newReply (now : Time)
  | reactions (delta : ℤ) (now : Time)

def CommentChange.apply (comment : CommunityComment) : CommentChange → CommunityComment
  | .newReply now => { comment with replyCount := comment.replyCount + 1, updatedAt := now }
  | .reactions delta now =>
    { comment with reactionCount := max (comment.reactionCount + delta) 0, updatedAt := now }

def TopicChange.update (change : TopicChange) : Update CommunityTopic.id :=
  ⟨fun topic => change.apply topic, fun _ => by cases change <;> rfl⟩

def PostChange.update (change : PostChange) : Update CommunityPost.id :=
  ⟨fun post => change.apply post, fun _ => by cases change <;> rfl⟩

def CommentChange.update (change : CommentChange) : Update CommunityComment.id :=
  ⟨fun comment => change.apply comment, fun _ => by cases change <;> rfl⟩

def reactionUpdate (reaction : String) (now : Time) : Update CommunityReaction.id :=
  ⟨fun row => { row with reaction := reaction, updatedAt := now }, fun _ => rfl⟩

/-- The statements that write. A `WHERE` names one id, with or without the tenant; a
reaction is updated or deleted by the id it was read with. -/
inductive Write where
  | insertPost (row : CommunityPost)
  | insertMedia (rows : List CommunityMedia)
  | insertComment (row : CommunityComment)
  | insertReaction (row : CommunityReaction)
  | insertFollow (row : CommunityFollow)
  | updateTopic (tenantID : Option String) (id : String) (change : TopicChange)
  | updatePost (tenantID : Option String) (id : String) (change : PostChange)
  | updateComment (tenantID : Option String) (id : String) (change : CommentChange)
  | updateReaction (existing : CommunityReaction) (reaction : String) (now : Time)
  | deleteReaction (existing : CommunityReaction)
  | deleteFollow (key : TargetKey)

/-- `WHERE id = ?`, with `tenant_id = ?` if a tenant is given. -/
def selects (tenantID : Option String) (id rowTenantID rowID : String) : Bool :=
  rowID = id && tenantID.all (rowTenantID = ·)

/-! `deleted_at IS NULL` is written out in the reads, and gorm adds it to an update of a
model with a `DeletedAt` column. -/

def topicSelected (tenantID : Option String) (id : String) (topic : CommunityTopic) : Bool :=
  selects tenantID id topic.tenantID topic.id && topic.deletedAt.isNone

def postSelected (tenantID : Option String) (id : String) (post : CommunityPost) : Bool :=
  selects tenantID id post.tenantID post.id && post.deletedAt.isNone

def commentSelected (tenantID : Option String) (id : String) (comment : CommunityComment) : Bool :=
  selects tenantID id comment.tenantID comment.id && comment.deletedAt.isNone

/-- The rows a write inserts, updates or deletes, or the constraint it violates. Inserting a
follow does nothing on conflict. -/
def Store.rowsAffected (s : Store) : Write → Except CommunityError ℕ
  | .insertPost row =>
    if (s.posts.lookup row.id).isSome || (s.topics.lookup row.topicID).isNone ||
        !s.users.any (fun user => user.id.hex = row.authorID) then .error .constraintViolation
    else .ok 1
  | .insertMedia rows =>
    if (s.media.insertMany rows).isNone || rows.any (fun row => (s.posts.lookup row.postID).isNone) then
      .error .constraintViolation
    else .ok rows.length
  | .insertComment row =>
    if (s.comments.lookup row.id).isSome || (s.posts.lookup row.postID).isNone ||
        !s.users.any (fun user => user.id.hex = row.authorID) then .error .constraintViolation
    else .ok 1
  | .insertReaction row =>
    if (s.reactions.lookup row.id).isSome || s.reactions.docs.any (fun other => other.key = row.key) ||
        !s.users.any (fun user => user.id.hex = row.key.userID) then .error .constraintViolation
    else .ok 1
  | .insertFollow row =>
    if (s.follows.lookup row.key).isSome || s.follows.docs.any (fun other => other.id = row.id) then .ok 0
    else if !s.users.any (fun user => user.id.hex = row.key.userID) then .error .constraintViolation
    else .ok 1
  | .updateTopic tenantID id _ => .ok (s.topics.docs.countP (topicSelected tenantID id))
  | .updatePost tenantID id _ => .ok (s.posts.docs.countP (postSelected tenantID id))
  | .updateComment tenantID id _ => .ok (s.comments.docs.countP (commentSelected tenantID id))
  | .updateReaction existing _ _ => .ok (s.reactions.docs.countP (fun row => row.id = existing.id))
  | .deleteReaction existing => .ok (s.reactions.docs.countP (fun row => row.id = existing.id))
  | .deleteFollow key => .ok (s.follows.docs.countP (fun row => row.key = key))

def Store.apply (s : Store) : Write → Store
  | .insertPost row => { s with posts := (s.posts.insertOne row).getD s.posts }
  | .insertMedia rows => { s with media := (s.media.insertMany rows).getD s.media }
  | .insertComment row => { s with comments := (s.comments.insertOne row).getD s.comments }
  | .insertReaction row => { s with reactions := (s.reactions.insertOne row).getD s.reactions }
  | .insertFollow row => { s with follows := (s.follows.insertOne row).getD s.follows }
  | .updateTopic tenantID id change =>
    { s with topics := s.topics.updateMany (topicSelected tenantID id) change.update }
  | .updatePost tenantID id change =>
    { s with posts := s.posts.updateMany (postSelected tenantID id) change.update }
  | .updateComment tenantID id change =>
    { s with comments := s.comments.updateMany (commentSelected tenantID id) change.update }
  | .updateReaction existing reaction now =>
    { s with reactions := s.reactions.updateMany (fun row => row.id = existing.id) (reactionUpdate reaction now) }
  | .deleteReaction existing => { s with reactions := s.reactions.deleteMany (fun row => row.id = existing.id) }
  | .deleteFollow key => { s with follows := s.follows.deleteMany (fun row => row.key = key) }

/-- Rows, by primary key, and entries of the unique indexes. -/
inductive Lock where
  | topic (id : String)
  | post (id : String)
  | media (id : String)
  | comment (id : String)
  | reaction (id : String)
  | reactionKey (key : TargetKey)
  | follow (key : TargetKey)
  deriving DecidableEq

def Write.locks : Write → List Lock
  | .insertPost row => [.post row.id]
  | .insertMedia rows => rows.map (fun row => .media row.id)
  | .insertComment row => [.comment row.id]
  | .insertReaction row => [.reaction row.id, .reactionKey row.key]
  | .insertFollow row => [.follow row.key]
  | .updateTopic _ id _ => [.topic id]
  | .updatePost _ id _ => [.post id]
  | .updateComment _ id _ => [.comment id]
  | .updateReaction existing _ _ => [.reaction existing.id, .reactionKey existing.key]
  | .deleteReaction existing => [.reaction existing.id, .reactionKey existing.key]
  | .deleteFollow key => [.follow key]

/-- What an existence check counts. -/
inductive RowQuery where
  | post (tenantID id : String)
  | comment (tenantID id : String)
  | topic (tenantID id : String)
  | user (id : String)

def Store.count (s : Store) : RowQuery → ℕ
  | .post tenantID id => s.posts.docs.countP (postSelected (some tenantID) id)
  | .comment tenantID id => s.comments.docs.countP (commentSelected (some tenantID) id)
  | .topic tenantID id => s.topics.docs.countP (topicSelected (some tenantID) id)
  | .user id => s.users.countP (fun row => row.id.hex = id && row.deletedAt.isNone)

inductive Statement where
  | count (query : RowQuery)
  | firstComment (tenantID id : String)
  | firstReaction (key : TargetKey)
  | listTopics (tenantID : String)
  | write (w : Write)

/-- No row is `gorm.ErrRecordNotFound`. -/
def Statement.Result : Statement → Type
  | .count _ => ℕ
  | .firstComment _ _ => Option CommunityComment
  | .firstReaction _ => Option CommunityReaction
  | .listTopics _ => List CommunityTopic
  | .write _ => ℕ

abbrev Statement.Response (q : Statement) : Type := Except CommunityError q.Result

/-- An insert waits for its keys, an update or delete for the row it finds. -/
def Store.waits (s : Store) : Statement → List Lock
  | .write (.insertFollow row) => [.follow row.key]
  | .write w => if s.rowsAffected w = .ok 0 then [] else w.locks
  | _ => []

/-- A statement that fails or finds no row writes nothing. -/
def Store.written (s : Store) (w : Write) : List Write :=
  match s.rowsAffected w with
  | .ok (_ + 1) => [w]
  | _ => []

def Store.exec (s : Store) : (q : Statement) → q.Response × List Write
  | .count query => (.ok (s.count query), [])
  | .firstComment tenantID id =>
    (.ok (s.comments.find (commentSelected (some tenantID) id)), [])
  | .firstReaction key => (.ok (s.reactions.find (fun row => row.key = key)), [])
  | .listTopics tenantID =>
    (.ok (s.topics.docs.filter (fun topic => topic.tenantID = tenantID && topic.deletedAt.isNone)), [])
  | .write w => (s.rowsAffected w, s.written w)

lemma exec_locks (q : Statement) (s : Store) : (s.exec q).2.flatMap Write.locks ⊆ s.waits q := by
  cases q with
  | write w =>
    cases h : s.rowsAffected w with
    | error err => simp [Store.exec, Store.written, h]
    | ok n =>
      cases n with
      | zero => simp [Store.exec, Store.written, h]
      | succ n => cases w <;> simp [Store.exec, Store.written, Store.waits, h, Write.locks]
  | _ => exact List.nil_subset _

def engine : ReadCommitted.Engine Statement Statement.Response Write Lock Store where
  waits q s := s.waits q
  exec q s := s.exec q
  apply := Store.apply
  locks := Write.locks
  locks_subset q s := exec_locks q s

/-! ## The transactions -/

abbrev Transaction := ExceptT CommunityError (Program Statement Statement.Response)

def sql (q : Statement) : Transaction q.Result := ExceptT.mk (send q)

def wrap {α : Type} (operation : String) (x : Transaction α) : Transaction α :=
  tryCatch x (fun err => throw (.wrapped operation err))

def ensureRowExists (query : RowQuery) (message : String) : Transaction Unit := do
  let count ← sql (.count query)
  if (show ℕ from count) = 0 then throw (.message message) else pure ()

def ensureReactionTargetTx (tenantID targetType targetID : String) : Transaction Unit :=
  if targetType = targetTypePost then
    ensureRowExists (.post tenantID targetID) "community.SetReaction: target post not found"
  else if targetType = targetTypeComment then
    ensureRowExists (.comment tenantID targetID) "community.SetReaction: target comment not found"
  else throw (.message "community.SetReaction: invalid target type")

def ensureFollowTargetTx (tenantID targetType targetID : String) : Transaction Unit :=
  if targetType = targetTypeTopic then
    ensureRowExists (.topic tenantID targetID) "community.SetFollow: target topic not found"
  else if targetType = targetTypeUser then
    ensureRowExists (.user targetID) "community.SetFollow: target user not found"
  else throw (.message "community.SetFollow: invalid follow target")

def incrementReactionCounterTx (targetType targetID : String) (delta : ℤ) (now : Time) : Transaction Unit :=
  if targetType = targetTypePost then do
    let _ ← sql (.write (.updatePost none targetID (.reactions delta now)))
  else if targetType = targetTypeComment then do
    let _ ← sql (.write (.updateComment none targetID (.reactions delta now)))
  else pure ()

namespace Repository

variable (newID : ObjectID) (now : Time)

/-- The row as `CreatePost` stores it. -/
def newPost (row : CommunityPost) : CommunityPost :=
  { row with
    id := if row.id = "" then newID.hex else row.id
    status := if row.status = "" then "open" else row.status
    postType := if row.postType = "" then "discussion" else row.postType
    visibility := if row.visibility = "" then "community" else row.visibility
    lastActivityAt := now
    createdAt := now
    updatedAt := now }

/-- The media of a new post, under ids of their own. -/
def newMedia (mediaIDs : ℕ → ObjectID) (postID : String) (media : List CommunityMedia) : List CommunityMedia :=
  media.mapIdx fun i item =>
    { item with id := (mediaIDs i).hex, postID := postID, sortOrder := i, createdAt := now }

def insertPostMedia (rows : List CommunityMedia) : Transaction Unit :=
  if rows.isEmpty then pure () else do
    let _ ← sql (.write (.insertMedia rows))

def createPost (mediaIDs : ℕ → ObjectID) (row : CommunityPost) (media : List CommunityMedia) : Transaction Unit :=
  wrap "community.CreatePost" do
    let row := newPost newID now row
    let _ ← sql (.write (.insertPost row))
    insertPostMedia (newMedia now mediaIDs row.id media)
    let _ ← sql (.write (.updateTopic (some row.tenantID) row.topicID (.newThread row.id now)))

/-- The reply is placed below its parent, and the parent counts it. -/
def replyTo (row : CommunityComment) : Option CommunityComment → Transaction CommunityComment
  | none => throw .recordNotFound
  | some parent =>
    if 2 ≤ parent.depth then throw (.message "community.CreateComment: max comment depth is 3")
    else do
      let _ ← sql (.write (.updateComment none parent.id (.newReply now)))
      return { row with
        depth := parent.depth + 1
        rootID := if parent.rootID ≠ "" then parent.rootID else parent.id }

def placeComment (row : CommunityComment) : Transaction CommunityComment :=
  if row.parentID = "" then pure row else do
    let parent ← sql (.firstComment row.tenantID row.parentID)
    replyTo now row parent

/-- The row as `CreateComment` stores it, before it is placed. -/
def newComment (row : CommunityComment) : CommunityComment :=
  { row with id := if row.id = "" then newID.hex else row.id, createdAt := now, updatedAt := now }

def createComment (row : CommunityComment) : Transaction Unit :=
  wrap "community.CreateComment" do
    let row ← placeComment now (newComment newID now row)
    let _ ← sql (.write (.insertComment row))
    let _ ← sql (.write (.updatePost (some row.tenantID) row.postID (.newComment now)))

def removeReaction (key : TargetKey) : Option CommunityReaction → Transaction Unit
  | none => pure ()
  | some existing => do
    let _ ← sql (.write (.deleteReaction existing))
    incrementReactionCounterTx key.targetType key.targetID (-1) now

def storeReaction (key : TargetKey) (reaction : String) : Option CommunityReaction → Transaction Unit
  | none => do
    let _ ← sql (.write (.insertReaction ⟨newID.hex, key, reaction, now, now⟩))
    incrementReactionCounterTx key.targetType key.targetID 1 now
  | some existing => do
    let _ ← sql (.write (.updateReaction existing reaction now))

def setReaction (key : TargetKey) (reaction : String) : Transaction Unit :=
  if !validTargetType key.targetType then throw (.message "community.SetReaction: invalid target type")
  else if trimSpace key.targetID = "" then throw (.message "community.SetReaction: target id is required")
  else if reaction ≠ "" && !validReaction reaction then throw (.message "community.SetReaction: invalid reaction")
  else wrap "community.SetReaction" do
    ensureReactionTargetTx key.tenantID key.targetType key.targetID
    let existing ← sql (.firstReaction key)
    if reaction = "" then removeReaction now key existing else storeReaction newID now key reaction existing

def follow (key : TargetKey) : Transaction Unit := do
  let rows ← sql (.write (.insertFollow ⟨newID.hex, key, now⟩))
  if 0 < (show ℕ from rows) ∧ key.targetType = targetTypeTopic then
    let _ ← sql (.write (.updateTopic none key.targetID .newFollower))

def unfollow (key : TargetKey) : Transaction Unit := do
  let rows ← sql (.write (.deleteFollow key))
  if 0 < (show ℕ from rows) ∧ key.targetType = targetTypeTopic then
    let _ ← sql (.write (.updateTopic none key.targetID .lostFollower))

def setFollow (key : TargetKey) (enabled : Bool) : Transaction Unit :=
  if key.targetType ≠ targetTypeTopic ∧ key.targetType ≠ targetTypeUser then
    throw (.message "community.SetFollow: invalid follow target")
  else if trimSpace key.targetID = "" then throw (.message "community.SetFollow: target id is required")
  else do
    ensureFollowTargetTx key.tenantID key.targetType key.targetID
    if enabled then follow newID now key else unfollow key

end Repository

/-! ## The service -/

def normalizePostType (value : String) : String :=
  if trimSpace value ∈ ["question", "review", "share", "case", "video", "resource"] then value else "discussion"

def normalizePostStatus (value : String) : String :=
  if trimSpace value ∈ ["open", "answered", "mentor-needed", "resource", "closed"] then value else "open"

def normalizeVisibility (value : String) : String :=
  if trimSpace value ∈ ["public", "community", "private"] then value else "community"

structure MediaDTO where
  type : String
  url : String

structure CreatePostRequest where
  topicID : String := ""
  topicSlug : String := ""
  title : String := ""
  content : String
  postType : String := ""
  status : String := ""
  visibility : String := ""
  tags : List String := []
  media : List MediaDTO := []

structure CreateCommentRequest where
  content : String
  parentID : String := ""

namespace Service

variable (tenantID actorID : String) (newID : ObjectID) (now : Time)

def mediaRow (item : MediaDTO) : Except CommunityError CommunityMedia :=
  if trimSpace item.type ≠ "image" ∧ trimSpace item.type ≠ "video" then
    .error (.message "community.CreatePost: media type must be image or video")
  else if trimSpace item.url = "" then .error (.message "community.CreatePost: media url is required")
  else .ok { mediaType := trimSpace item.type, url := trimSpace item.url }

/-- The topic by its id, or else by its slug. -/
def resolveTopic (req : CreatePostRequest) : Transaction String :=
  if trimSpace req.topicID = "" ∧ trimSpace req.topicSlug ≠ "" then do
    let topics ← wrap "community.ListTopics" (sql (.listTopics tenantID))
    return ((List.find? (fun topic => topic.slug = req.topicSlug) topics).map CommunityTopic.id).getD ""
  else pure (trimSpace req.topicID)

def postRow (req : CreatePostRequest) (topicID : String) : CommunityPost :=
  { tenantID := tenantID
    topicID := topicID
    authorID := actorID
    title := trimSpace req.title
    content := trimSpace req.content
    postType := normalizePostType req.postType
    status := normalizePostStatus req.status
    visibility := normalizeVisibility req.visibility
    tags := req.tags }

def createPost (mediaIDs : ℕ → ObjectID) (req : CreatePostRequest) : Transaction Unit :=
  if trimSpace req.content = "" then throw (.message "community.CreatePost: content is required")
  else do
    let topicID ← resolveTopic tenantID req
    if topicID = "" then throw (.message "community.CreatePost: topicId is required")
    else do
      let media ← liftM (req.media.mapM mediaRow)
      Repository.createPost newID now mediaIDs (postRow tenantID actorID req topicID) media

def createComment (postID : String) (req : CreateCommentRequest) : Transaction Unit :=
  if trimSpace postID = "" then throw (.message "community.CreateComment: postId is required")
  else if trimSpace req.content = "" then throw (.message "community.CreateComment: content is required")
  else Repository.createComment newID now
    { tenantID := tenantID
      postID := postID
      parentID := trimSpace req.parentID
      authorID := actorID
      content := trimSpace req.content }

def setReaction (targetType targetID reaction : String) : Transaction Unit :=
  Repository.setReaction newID now ⟨tenantID, trimSpace targetType, trimSpace targetID, actorID⟩ (trimSpace reaction)

def setFollow (targetType targetID : String) (enabled : Bool) : Transaction Unit :=
  Repository.setFollow newID now ⟨tenantID, trimSpace targetType, trimSpace targetID, actorID⟩ enabled

end Service

inductive Operation where
  | createPost (mediaIDs : ℕ → ObjectID) (req : CreatePostRequest)
  | createComment (postID : String) (req : CreateCommentRequest)
  | setReaction (targetType targetID reaction : String)
  | setFollow (targetType targetID : String) (enabled : Bool)

/-- A call with its caller, its clock reading and the id it draws. -/
structure Call where
  tenantID : String
  actorID : String
  newID : ObjectID
  now : Time
  operation : Operation

def Call.transaction (call : Call) : Transaction Unit :=
  match call.operation with
  | .createPost mediaIDs req => Service.createPost call.tenantID call.actorID call.newID call.now mediaIDs req
  | .createComment postID req => Service.createComment call.tenantID call.actorID call.newID call.now postID req
  | .setReaction targetType targetID reaction =>
    Service.setReaction call.tenantID call.actorID call.newID call.now targetType targetID reaction
  | .setFollow targetType targetID enabled =>
    Service.setFollow call.tenantID call.actorID call.newID call.now targetType targetID enabled

/-- The transactions of the calls on a shared store, none of them begun. -/
def start (s : Store) (calls : List Call) :
    ReadCommitted.Database Statement Statement.Response Write Store CommunityError Unit :=
  ReadCommitted.start s (calls.map fun call => call.transaction.run)

end ErgGo.Community
