import ErgGo.Community.Counting

/-!
# Counters in every interleaving

Each transaction, whatever the others commit between its statements, commits only writes
that keep the counters exact.
-/

namespace ErgGo.Community
open Go Documents Concurrent Program Lms Postgres ReadCommitted Discipline

/-- What a transaction commits keeps the counters. -/
abbrev Committable (pending : List Write) (s : Store) : Prop := counting.Commits pending s

section Rules

variable {α : Type} {post : α → List Write → Store → Prop} {pending : List Write} {s : Store}

lemma safe_sql {q : Statement} {post : q.Result → List Write → Store → Prop}
    (h : ∀ s', s'.Kept → Frame (engine.held pending) s s' → q.Presumes (engine.view s' pending) →
      ∀ r, ((engine.view s' pending).exec q).1 = .ok r →
        post r (pending ++ ((engine.view s' pending).exec q).2) s') :
    counting.Safe (OnSuccess post) pending (sql q).run s :=
  safe_send h

lemma safe_wrap {operation : String} {x : Transaction α} (h : counting.Safe (OnSuccess post) pending x.run s) :
    counting.Safe (OnSuccess post) pending (wrap operation x).run s := by
  unfold wrap
  rw [Program.run_tryCatch]
  refine h.bind fun r ws s' hr => ?_
  cases r with
  | ok a => exact safe_done hr
  | error err => exact safe_throw _ ws s'

end Rules

/-- A key names at most one row. -/
lemma forall_of_lookup {Doc Key : Type} [DecidableEq Key] {key : Doc → Key} {c : Collection key} {k : Key} {d : Doc}
    {P : Doc → Prop} (h : c.lookup k = some d) (hd : P d) : ∀ d' ∈ c.docs, key d' = k → P d' := by
  intro d' hmem hkey
  have hsame : c.lookup k = some d' := Collection.lookup_eq_some_iff.mpr ⟨hmem, hkey⟩
  rw [h] at hsame
  cases hsame
  exact hd

/-! ## Statements that succeed -/

section Statements

variable {s : Store} {r : ℕ}

lemma written_of_pos {w : Write} (h : s.rowsAffected w = .ok r) (hr : 0 < r) : s.written w = [w] := by
  obtain ⟨n, rfl⟩ := Nat.exists_eq_add_one_of_ne_zero (Nat.pos_iff_ne_zero.mp hr)
  unfold Store.written
  rw [h]

lemma insertPost_ok {row : CommunityPost} (h : s.rowsAffected (.insertPost row) = .ok r) :
    s.posts.lookup row.id = none ∧ (∃ topic, s.topics.lookup row.topicID = some topic) ∧
      s.written (.insertPost row) = [.insertPost row] := by
  have hok := h
  rw [Store.rowsAffected] at h
  split at h
  · cases h
  · next hcheck =>
    cases h
    simp only [Bool.or_eq_true, not_or, Bool.not_eq_true, Option.isSome_eq_false_iff,
      Option.isNone_iff_eq_none] at hcheck
    exact ⟨hcheck.1.1, Option.ne_none_iff_exists'.mp hcheck.1.2, written_of_pos hok Nat.one_pos⟩

lemma insertComment_ok {row : CommunityComment} (h : s.rowsAffected (.insertComment row) = .ok r) :
    s.comments.lookup row.id = none ∧ (∃ post, s.posts.lookup row.postID = some post) ∧
      s.written (.insertComment row) = [.insertComment row] := by
  have hok := h
  rw [Store.rowsAffected] at h
  split at h
  · cases h
  · next hcheck =>
    cases h
    simp only [Bool.or_eq_true, not_or, Bool.not_eq_true, Option.isSome_eq_false_iff,
      Option.isNone_iff_eq_none] at hcheck
    exact ⟨hcheck.1.1, Option.ne_none_iff_exists'.mp hcheck.1.2, written_of_pos hok Nat.one_pos⟩

lemma insertReaction_ok {row : CommunityReaction} (h : s.rowsAffected (.insertReaction row) = .ok r) :
    s.reactions.lookup row.id = none ∧ s.written (.insertReaction row) = [.insertReaction row] := by
  have hok := h
  rw [Store.rowsAffected] at h
  split at h
  · cases h
  · next hcheck =>
    cases h
    simp only [Bool.or_eq_true, not_or, Bool.not_eq_true, Option.isSome_eq_false_iff,
      Option.isNone_iff_eq_none] at hcheck
    exact ⟨hcheck.1.1, written_of_pos hok Nat.one_pos⟩

/-- Inserting a follow writes nothing where the user follows already. -/
lemma insertFollow_ok {row : CommunityFollow} (h : s.rowsAffected (.insertFollow row) = .ok r) :
    (r = 0 ∧ s.written (.insertFollow row) = []) ∨
      (0 < r ∧ s.follows.lookup row.key = none ∧ s.written (.insertFollow row) = [.insertFollow row]) := by
  have hok := h
  rw [Store.rowsAffected] at h
  split at h
  · cases h
    refine .inl ⟨rfl, ?_⟩
    unfold Store.written
    rw [hok]
  · next hcheck =>
    split at h
    · cases h
    · cases h
      simp only [Bool.or_eq_true, not_or, Bool.not_eq_true, Option.isSome_eq_false_iff,
        Option.isNone_iff_eq_none] at hcheck
      exact .inr ⟨Nat.one_pos, hcheck.1, written_of_pos hok Nat.one_pos⟩

lemma deleteFollow_ok {key : TargetKey} (h : s.rowsAffected (.deleteFollow key) = .ok r) :
    (r = 0 ∧ s.written (.deleteFollow key) = []) ∨
      (0 < r ∧ (∃ row, s.follows.lookup key = some row) ∧ s.written (.deleteFollow key) = [.deleteFollow key]) := by
  have hok := h
  simp only [Store.rowsAffected, Except.ok.injEq] at h
  rcases Nat.eq_zero_or_pos r with rfl | hr
  · refine .inl ⟨rfl, ?_⟩
    unfold Store.written
    rw [hok]
  · obtain ⟨row, hrow, hkey⟩ := List.countP_pos_iff.mp (h ▸ hr)
    rw [decide_eq_true_eq] at hkey
    exact .inr ⟨hr, ⟨row, Collection.lookup_eq_some_iff.mpr ⟨hrow, hkey⟩⟩, written_of_pos hok hr⟩

/-- An update writes the rows it selects. -/
lemma updateTopic_ok {tenantID : Option String} {id : String} {change : TopicChange} {topic : CommunityTopic}
    (htopic : topic ∈ s.topics.docs) (hselected : topicSelected tenantID id topic) :
    s.written (.updateTopic tenantID id change) = [.updateTopic tenantID id change] :=
  written_of_pos rfl (List.countP_pos_iff.mpr ⟨topic, htopic, hselected⟩)

lemma updatePost_ok {tenantID : Option String} {id : String} {change : PostChange} {post : CommunityPost}
    (hpost : post ∈ s.posts.docs) (hselected : postSelected tenantID id post) :
    s.written (.updatePost tenantID id change) = [.updatePost tenantID id change] :=
  written_of_pos rfl (List.countP_pos_iff.mpr ⟨post, hpost, hselected⟩)

lemma updateComment_ok {tenantID : Option String} {id : String} {change : CommentChange} {comment : CommunityComment}
    (hcomment : comment ∈ s.comments.docs) (hselected : commentSelected tenantID id comment) :
    s.written (.updateComment tenantID id change) = [.updateComment tenantID id change] :=
  written_of_pos rfl (List.countP_pos_iff.mpr ⟨comment, hcomment, hselected⟩)

end Statements

/-! ## Creating a post -/

section CreatePost

variable {row : CommunityPost} {s s' : Store} {pending : List Write}

/-- The topic of the new post is there, of its tenant and not deleted, and the id of the post
is free. -/
structure PostReady (row : CommunityPost) (s : Store) : Prop where
  free : s.posts.lookup row.id = none
  topic : (s.topics.lookup row.topicID).map CommunityTopic.place = some (row.tenantID, none)

lemma PostReady.frame (h : PostReady row s) {locks : List Lock} (hlock : Lock.post row.id ∈ locks)
    (hframe : Frame locks s s') : PostReady row s' := by
  refine ⟨?_, (hframe.topics _).trans h.topic⟩
  have huntouched : s'.posts.lookup row.id = s.posts.lookup row.id := hframe.locked _ hlock
  rw [huntouched, h.free]

/-- What the transaction has written once the post and its media are there. -/
def PostWritten (row : CommunityPost) (pending : List Write) : Prop :=
  pending = [.insertPost row] ∨ ∃ rows, pending = [.insertPost row, .insertMedia rows]

lemma PostWritten.lock_mem (h : PostWritten row pending) : Lock.post row.id ∈ engine.held pending := by
  obtain rfl | ⟨rows, rfl⟩ := h <;> exact List.mem_cons_self

lemma PostWritten.view (h : PostWritten row pending) (s : Store) :
    ∃ media, engine.view s pending = { s.apply (.insertPost row) with media := media } := by
  obtain rfl | ⟨rows, rfl⟩ := h
  · exact ⟨s.media, rfl⟩
  · exact ⟨_, rfl⟩

lemma safe_insertPost : counting.Safe (OnSuccess fun _ ws s' => ws = [.insertPost row] ∧ PostReady row s') []
    (sql (.write (.insertPost row))).run s := by
  refine safe_sql fun s' _ _ hpresumes r hr => ?_
  obtain ⟨hfree, ⟨topic, htopic⟩, hwritten⟩ := insertPost_ok hr
  refine ⟨hwritten, hfree, ?_⟩
  obtain ⟨hmem, hid⟩ := Collection.lookup_eq_some_iff.mp htopic
  obtain ⟨htenant, hundeleted⟩ := hpresumes topic hmem hid
  rw [engine.view_nil] at htopic
  rw [htopic, Option.map_some, CommunityTopic.place, htenant, hundeleted]

lemma safe_insertPostMedia (rows : List CommunityMedia) (h : PostReady row s) :
    counting.Safe (OnSuccess fun _ ws s' => PostWritten row ws ∧ PostReady row s') [.insertPost row]
      (Repository.insertPostMedia rows).run s := by
  unfold Repository.insertPostMedia
  split
  · exact safe_pure ⟨.inl rfl, h⟩
  · refine Safe.run_bind (fun _ ws s' => PostWritten row ws ∧ PostReady row s') ?_ ?_
    · refine safe_sql fun s' _ hframe _ r hr => ?_
      refine ⟨?_, h.frame List.mem_cons_self hframe⟩
      change PostWritten row ([.insertPost row] ++ Store.written _ _)
      unfold Store.written
      split
      · exact .inr ⟨rows, rfl⟩
      · exact .inl rfl
    · exact fun _ ws s' hmid => safe_pure hmid

lemma committable_post {now : Time} (hcomments : row.commentCount = 0) (hreactions : row.reactionCount = 0)
    (hwritten : PostWritten row pending) (h : PostReady row s) :
    Committable (pending ++ [.updateTopic (some row.tenantID) row.topicID (.newThread row.id now)]) s := by
  intro s' hkept hframe
  have hready := h.frame (by rw [engine.held_append]; exact List.mem_append_left _ hwritten.lock_mem) hframe
  obtain ⟨media, hview⟩ := hwritten.view s'
  rw [engine.view_append, hview]
  refine Store.Kept.createPost hkept hready.free hcomments hreactions (fun topic htopic hid => ?_)
    (Collection.docs_getD_insertOne hready.free) rfl rfl rfl rfl
  have hlookup : s'.topics.lookup row.topicID = some topic := Collection.lookup_eq_some_iff.mpr ⟨htopic, hid⟩
  have hplace := hready.topic
  rw [hlookup] at hplace
  exact Prod.mk.inj (Option.some.inj hplace)

lemma safe_newThread {now : Time} (hcomments : row.commentCount = 0) (hreactions : row.reactionCount = 0)
    (hwritten : PostWritten row pending) (h : PostReady row s) :
    counting.Safe (OnSuccess fun _ => Committable) pending
      (sql (.write (.updateTopic (some row.tenantID) row.topicID (.newThread row.id now)))).run s := by
  refine safe_sql fun s' _ hframe _ r _ => ?_
  have hready := h.frame hwritten.lock_mem hframe
  obtain ⟨topic, htopic, hplace⟩ := Option.map_eq_some_iff.mp hready.topic
  obtain ⟨htenant, hundeleted⟩ := Prod.mk.inj hplace
  obtain ⟨hmem, hid⟩ := Collection.lookup_eq_some_iff.mp htopic
  obtain ⟨media, hview⟩ := hwritten.view s'
  have hupdate : (engine.view s' pending).written (.updateTopic (some row.tenantID) row.topicID (.newThread row.id now)) =
      [.updateTopic (some row.tenantID) row.topicID (.newThread row.id now)] := by
    rw [hview]
    exact updateTopic_ok hmem (by simp [topicSelected, selects, hid, htenant, hundeleted])
  change Committable (pending ++ Store.written _ _) s'
  rw [hupdate]
  exact committable_post hcomments hreactions hwritten hready

lemma safe_createPost (newID : ObjectID) (now : Time) (mediaIDs : ℕ → ObjectID) (row : CommunityPost)
    (media : List CommunityMedia) (hcomments : row.commentCount = 0) (hreactions : row.reactionCount = 0) :
    counting.Safe (OnSuccess fun _ => Committable) [] (Repository.createPost newID now mediaIDs row media).run s := by
  refine safe_wrap (Safe.run_bind _ safe_insertPost ?_)
  rintro _ _ s₁ ⟨rfl, hready₁⟩
  refine Safe.run_bind _ (safe_insertPostMedia _ hready₁) ?_
  rintro _ pending s₂ ⟨hwritten, hready₂⟩
  exact Safe.run_bind _ (safe_newThread hcomments hreactions hwritten hready₂) (fun _ ws s' hmid => safe_pure hmid)

end CreatePost

/-! ## Creating a comment -/

section CreateComment

variable {row row' : CommunityComment} {s s' : Store} {now : Time}

/-- What the transaction has written once the parent counts the reply. -/
def replyWrites (row : CommunityComment) (now : Time) : List Write :=
  if row.parentID = "" then [] else [.updateComment none row.parentID (.newReply now)]

def parentChanged (row : CommunityComment) (now : Time) (comments : Collection CommunityComment.id) :
    Collection CommunityComment.id :=
  comments.updateMany (commentSelected none row.parentID) (CommentChange.newReply now).update

lemma view_replyWrites (h : s.Kept) (row : CommunityComment) (now : Time) :
    engine.view s (replyWrites row now) = { s with comments := parentChanged row now s.comments } := by
  unfold replyWrites
  split
  · next hblank =>
    -- no comment has the blank id
    have hnone : ∀ comment ∈ s.comments.docs, commentSelected none row.parentID comment = false := by
      intro comment hc
      rw [hblank]
      exact selects_of_ne (Ne.symm (h.wellFormed.commentID comment hc)) _
    have hsame : parentChanged row now s.comments = s.comments := by
      refine Collection.ext ((List.map_congr_left fun comment hc => ?_).trans (List.map_id _))
      rw [hnone comment hc]
      rfl
    rw [hsame]
    rfl
  · rfl

/-- The row got its depth and its root. -/
def Placed (row row' : CommunityComment) : Prop :=
  ∃ depth rootID, row' = { row with depth := depth, rootID := rootID }

def ParentReady (row : CommunityComment) (s : Store) : Prop :=
  row.parentID ≠ "" → ∃ parent, s.comments.lookup row.parentID = some parent ∧ parent.tenantID = row.tenantID ∧
    parent.deletedAt = none

lemma ParentReady.frame (h : ParentReady row s) {locks : List Lock} (hframe : Frame locks s s') :
    ParentReady row s' := by
  intro hblank
  obtain ⟨parent, hparent, htenant, hundeleted⟩ := h hblank
  obtain ⟨parent', hparent', hplace⟩ := hframe.comments _ parent hparent
  simp only [CommunityComment.place, Prod.mk.injEq] at hplace
  exact ⟨parent', hparent', hplace.1.trans htenant, hplace.2.2.trans hundeleted⟩

lemma safe_firstComment :
    counting.Safe (OnSuccess fun (r : (Statement.firstComment _ _).Result) ws s' => ws = [] ∧ ∀ parent, r = some parent →
      s'.comments.lookup row.parentID = some parent ∧ parent.tenantID = row.tenantID ∧ parent.deletedAt = none) []
      (sql (.firstComment row.tenantID row.parentID)).run s := by
  refine safe_sql fun s' _ _ _ r hr => ⟨rfl, ?_⟩
  rintro parent rfl
  have hfound : s'.comments.docs.find? (commentSelected (some row.tenantID) row.parentID) = some parent :=
    Except.ok.inj hr
  have hmatches := List.find?_some hfound
  simp only [commentSelected, selects, Option.all_some, Bool.and_eq_true, decide_eq_true_eq,
    Option.isNone_iff_eq_none] at hmatches
  obtain ⟨⟨hid, htenant⟩, hundeleted⟩ := hmatches
  exact ⟨Collection.lookup_eq_some_iff.mpr ⟨List.mem_of_find?_eq_some hfound, hid⟩, htenant, hundeleted⟩

lemma safe_replyTo {parent : CommunityComment} (hblank : row.parentID ≠ "")
    (hparent : s.comments.lookup row.parentID = some parent) (htenant : parent.tenantID = row.tenantID)
    (hundeleted : parent.deletedAt = none) :
    counting.Safe (OnSuccess fun row' ws s' => ws = replyWrites row now ∧ Placed row row' ∧ ParentReady row s') []
      (Repository.replyTo now row (some parent)).run s := by
  obtain ⟨-, hid⟩ := Collection.lookup_eq_some_iff.mp hparent
  have hready : ParentReady row s := fun _ => ⟨parent, hparent, htenant, hundeleted⟩
  rw [Repository.replyTo]
  split
  · exact safe_throw _ _ _
  · refine Safe.run_bind (fun _ ws s' => ws = replyWrites row now ∧ ParentReady row s') ?_ ?_
    · refine safe_sql fun s' _ hframe _ r _ => ⟨?_, hready.frame hframe⟩
      obtain ⟨parent', hparent', -, hundeleted'⟩ := hready.frame hframe hblank
      obtain ⟨hmem, hid'⟩ := Collection.lookup_eq_some_iff.mp hparent'
      change Store.written s' (.updateComment none parent.id (.newReply now)) = _
      rw [replyWrites, if_neg hblank, hid]
      exact updateComment_ok hmem (by simp [commentSelected, selects, hid', hundeleted'])
    · rintro _ ws s' ⟨hws, hready'⟩
      exact safe_pure ⟨hws, ⟨_, _, rfl⟩, hready'⟩

lemma safe_placeComment :
    counting.Safe (OnSuccess fun row' ws s' => ws = replyWrites row now ∧ Placed row row' ∧ ParentReady row s') []
      (Repository.placeComment now row).run s := by
  unfold Repository.placeComment
  split
  · next hblank =>
    refine safe_pure ⟨?_, ⟨_, _, rfl⟩, fun h => absurd hblank h⟩
    rw [replyWrites, if_pos hblank]
  · next hblank =>
    refine Safe.run_bind _ safe_firstComment ?_
    rintro parent _ s' ⟨rfl, hfound⟩
    cases parent with
    | none => exact safe_throw _ _ _
    | some parent =>
      obtain ⟨hparent, htenant, hundeleted⟩ := hfound parent rfl
      exact safe_replyTo hblank hparent htenant hundeleted

/-- The id of the new comment is free, and its post and its parent are where it belongs. -/
structure CommentReady (row : CommunityComment) (s : Store) : Prop where
  free : s.comments.lookup row.id = none
  post : ∃ post, s.posts.lookup row.postID = some post ∧ post.tenantID = row.tenantID ∧ post.deletedAt = none
  parent : row.parentID ≠ "" → ∃ parent, s.comments.lookup row.parentID = some parent ∧ row.IsReplyTo parent ∧
    parent.deletedAt = none

lemma CommentReady.frame (h : CommentReady row s) {locks : List Lock} (hlock : Lock.comment row.id ∈ locks)
    (hframe : Frame locks s s') : CommentReady row s' := by
  refine ⟨?_, ?_, fun hblank => ?_⟩
  · have huntouched : s'.comments.lookup row.id = s.comments.lookup row.id := hframe.locked _ hlock
    rw [huntouched, h.free]
  · obtain ⟨post, hpost, htenant, hundeleted⟩ := h.post
    obtain ⟨post', hpost', hplace⟩ := hframe.posts _ post hpost
    simp only [CommunityPost.place, Prod.mk.injEq] at hplace
    exact ⟨post', hpost', hplace.1.trans htenant, hplace.2.trans hundeleted⟩
  · obtain ⟨parent, hparent, ⟨hid, hpost, htenant⟩, hundeleted⟩ := h.parent hblank
    obtain ⟨parent', hparent', hplace⟩ := hframe.comments _ parent hparent
    simp only [CommunityComment.place, Prod.mk.injEq] at hplace
    exact ⟨parent', hparent', ⟨(Collection.lookup_eq_some_iff.mp hparent').2, hplace.2.1.trans hpost,
      hplace.1.trans htenant⟩, hplace.2.2.trans hundeleted⟩

lemma lookup_parentChanged (comments : Collection CommunityComment.id) (id : String) :
    (parentChanged row now comments).lookup id = (comments.lookup id).map
      (changed (commentSelected none row.parentID) (CommentChange.apply · (.newReply now))) :=
  Collection.lookup_updateMany _ _ _ _

lemma safe_insertComment (hplaced : Placed row row') (h : ParentReady row s) :
    counting.Safe (OnSuccess fun _ ws s' => ws = replyWrites row now ++ [.insertComment row'] ∧ CommentReady row' s')
      (replyWrites row now) (sql (.write (.insertComment row'))).run s := by
  obtain ⟨depth, rootID, rfl⟩ := hplaced
  refine safe_sql fun s' hkept hframe hpresumes r hr => ?_
  rw [view_replyWrites hkept] at hpresumes hr ⊢
  obtain ⟨hfree, ⟨post, hpost⟩, hwritten⟩ := insertComment_ok hr
  obtain ⟨hpostPlace, hparentPost⟩ := hpresumes
  refine ⟨congrArg _ hwritten, ?_, ⟨post, hpost, ?_⟩, fun hblank => ?_⟩
  · rw [lookup_parentChanged, Option.map_eq_none_iff] at hfree
    exact hfree
  · obtain ⟨hmem, hid⟩ := Collection.lookup_eq_some_iff.mp hpost
    exact hpostPlace post hmem hid
  · obtain ⟨parent, hparent, htenant, hundeleted⟩ := h.frame hframe hblank
    obtain ⟨hmem, hid⟩ := Collection.lookup_eq_some_iff.mp hparent
    have hpost' := hparentPost (changed (commentSelected none row.parentID) (CommentChange.apply · (.newReply now))
      parent) (List.mem_map_of_mem hmem) hblank ((id_changed _ parent _).trans hid)
    exact ⟨parent, hparent, ⟨hid, (postID_changed _ parent _).symm.trans hpost', htenant⟩, hundeleted⟩

lemma committable_comment (hid : row'.id ≠ "") (hreplies : row.replyCount = 0) (hreactions : row.reactionCount = 0)
    (hplaced : Placed row row') (h : CommentReady row' s) :
    Committable (replyWrites row now ++ [.insertComment row'] ++
      [.updatePost (some row'.tenantID) row'.postID (.newComment now)]) s := by
  intro s' hkept hframe
  have hmem : Lock.comment row'.id ∈ engine.held (replyWrites row now ++ [.insertComment row'] ++
      [.updatePost (some row'.tenantID) row'.postID (.newComment now)]) := by
    rw [engine.held_append, engine.held_append]
    exact List.mem_append_left _ (List.mem_append_right _ List.mem_cons_self)
  have hready := h.frame hmem hframe
  rw [engine.view_append, engine.view_append, view_replyWrites hkept]
  obtain ⟨depth, rootID, rfl⟩ := hplaced
  obtain ⟨post, hpost, hplace⟩ := hready.post
  obtain ⟨hpostMem, hpostID⟩ := Collection.lookup_eq_some_iff.mp hpost
  refine Store.Kept.createComment hkept hready.free hid hreplies hreactions ?_ (fun other hother hotherID => ?_)
    (fun hblank => ?_) (Collection.docs_getD_insertOne ?_) rfl rfl rfl rfl
  · exact List.mem_map.mpr ⟨post, hpostMem, hpostID⟩
  · have hsame : s'.posts.lookup row.postID = some other := Collection.lookup_eq_some_iff.mpr ⟨hother, hotherID⟩
    rw [hpost] at hsame
    cases hsame
    exact hplace
  · obtain ⟨parent, hparent, hreply⟩ := hready.parent hblank
    exact ⟨parent, (Collection.lookup_eq_some_iff.mp hparent).1, hreply⟩
  · rw [lookup_parentChanged, Option.map_eq_none_iff]
    exact hready.free

lemma safe_newComment (hid : row'.id ≠ "") (hreplies : row.replyCount = 0) (hreactions : row.reactionCount = 0)
    (hplaced : Placed row row') (h : CommentReady row' s) :
    counting.Safe (OnSuccess fun _ => Committable) (replyWrites row now ++ [.insertComment row'])
      (sql (.write (.updatePost (some row'.tenantID) row'.postID (.newComment now)))).run s := by
  refine safe_sql fun s' hkept hframe _ r _ => ?_
  have hmem : Lock.comment row'.id ∈ engine.held (replyWrites row now ++ [.insertComment row']) := by
    rw [engine.held_append]
    exact List.mem_append_right _ List.mem_cons_self
  have hready := h.frame hmem hframe
  obtain ⟨post, hpost, htenant, hundeleted⟩ := hready.post
  obtain ⟨hpostMem, hpostID⟩ := Collection.lookup_eq_some_iff.mp hpost
  have hupdate : (engine.view s' (replyWrites row now ++ [.insertComment row'])).written
      (.updatePost (some row'.tenantID) row'.postID (.newComment now)) =
        [.updatePost (some row'.tenantID) row'.postID (.newComment now)] := by
    rw [engine.view_append, view_replyWrites hkept]
    exact updatePost_ok hpostMem (by simp [postSelected, selects, hpostID, htenant, hundeleted])
  change Committable (replyWrites row now ++ [.insertComment row'] ++ Store.written _ _) s'
  rw [hupdate]
  exact committable_comment hid hreplies hreactions hplaced hready

lemma hex_ne_empty (id : ObjectID) : id.hex ≠ "" := by
  intro h
  have hdigits : id.digits.map (fun d => Nat.digitChar d.val) = [] := by
    have := congrArg String.toList h
    simpa [ObjectID.hex] using this
  have hlength := id.length_digits
  rw [List.map_eq_nil_iff.mp hdigits] at hlength
  cases hlength

lemma safe_createComment (newID : ObjectID) (now : Time) (row : CommunityComment) (hreplies : row.replyCount = 0)
    (hreactions : row.reactionCount = 0) :
    counting.Safe (OnSuccess fun _ => Committable) [] (Repository.createComment newID now row).run s := by
  have hid : (Repository.newComment newID now row).id ≠ "" := by
    unfold Repository.newComment
    dsimp only
    split
    · exact hex_ne_empty newID
    · next hne => exact hne
  refine safe_wrap (Safe.run_bind _ safe_placeComment ?_)
  rintro row' _ s₁ ⟨rfl, hplaced, hready₁⟩
  have hid' : row'.id ≠ "" := by
    obtain ⟨depth, rootID, rfl⟩ := hplaced
    exact hid
  refine Safe.run_bind _ (safe_insertComment hplaced hready₁) ?_
  rintro _ _ s₂ ⟨rfl, hready₂⟩
  exact Safe.run_bind _ (safe_newComment hid' hreplies hreactions hplaced hready₂) (fun _ ws s' hmid => safe_pure hmid)

end CreateComment

/-! ## Reactions -/

section SetReaction

variable {key : TargetKey} {s s' : Store} {now : Time} {delta : ℤ}

/-- The target of the key is there and not deleted. -/
def TargetReady (key : TargetKey) (s : Store) : Prop :=
  (key.targetType = targetTypePost →
    ∃ post, s.posts.lookup key.targetID = some post ∧ post.deletedAt = none) ∧
  (key.targetType = targetTypeComment →
    ∃ comment, s.comments.lookup key.targetID = some comment ∧ comment.deletedAt = none)

lemma TargetReady.frame (h : TargetReady key s) {locks : List Lock} (hframe : Frame locks s s') :
    TargetReady key s' := by
  refine ⟨fun htype => ?_, fun htype => ?_⟩
  · obtain ⟨post, hpost, hundeleted⟩ := h.1 htype
    obtain ⟨post', hpost', hplace⟩ := hframe.posts _ post hpost
    exact ⟨post', hpost', (Prod.mk.inj hplace).2.trans hundeleted⟩
  · obtain ⟨comment, hcomment, hundeleted⟩ := h.2 htype
    obtain ⟨comment', hcomment', hplace⟩ := hframe.comments _ comment hcomment
    simp only [CommunityComment.place, Prod.mk.injEq] at hplace
    exact ⟨comment', hcomment', hplace.2.2.trans hundeleted⟩

lemma TargetReady.ids (h : TargetReady key s) :
    (key.targetType = targetTypePost → key.targetID ∈ s.posts.docs.map CommunityPost.id) ∧
      (key.targetType = targetTypeComment → key.targetID ∈ s.comments.docs.map CommunityComment.id) := by
  refine ⟨fun htype => ?_, fun htype => ?_⟩
  · obtain ⟨post, hpost, -⟩ := h.1 htype
    obtain ⟨hmem, hid⟩ := Collection.lookup_eq_some_iff.mp hpost
    exact List.mem_map.mpr ⟨post, hmem, hid⟩
  · obtain ⟨comment, hcomment, -⟩ := h.2 htype
    obtain ⟨hmem, hid⟩ := Collection.lookup_eq_some_iff.mp hcomment
    exact List.mem_map.mpr ⟨comment, hmem, hid⟩

lemma TargetReady.posts_undeleted (h : TargetReady key s) (htype : key.targetType = targetTypePost) :
    ∀ post ∈ s.posts.docs, post.id = key.targetID → post.deletedAt = none := by
  obtain ⟨post, hpost, hundeleted⟩ := h.1 htype
  exact forall_of_lookup hpost hundeleted

lemma TargetReady.comments_undeleted (h : TargetReady key s) (htype : key.targetType = targetTypeComment) :
    ∀ comment ∈ s.comments.docs, comment.id = key.targetID → comment.deletedAt = none := by
  obtain ⟨comment, hcomment, hundeleted⟩ := h.2 htype
  exact forall_of_lookup hcomment hundeleted

lemma safe_ensureRowExists {query : RowQuery} {message : String} {P : Store → Prop}
    (h : ∀ s', 0 < s'.count query → P s') :
    counting.Safe (OnSuccess fun _ ws s' => ws = [] ∧ P s') [] (ensureRowExists query message).run s := by
  refine Safe.run_bind (fun (count : (Statement.count query).Result) ws s' => ws = [] ∧ count = s'.count query) ?_ ?_
  · exact safe_sql fun s' _ _ _ r hr => ⟨rfl, (Except.ok.inj hr).symm⟩
  · rintro count _ s' ⟨rfl, rfl⟩
    split
    · exact safe_throw _ _ _
    · next hpos => exact safe_pure ⟨rfl, h s' (Nat.pos_of_ne_zero hpos)⟩

lemma safe_ensureReactionTargetTx :
    counting.Safe (OnSuccess fun _ ws s' => ws = [] ∧ TargetReady key s') []
      (ensureReactionTargetTx key.tenantID key.targetType key.targetID).run s := by
  unfold ensureReactionTargetTx
  split
  · next htype =>
    refine safe_ensureRowExists fun s' hpos => ⟨fun _ => ?_, fun htype' => ?_⟩
    · obtain ⟨post, hpost, hselected⟩ := List.countP_pos_iff.mp hpos
      simp only [postSelected, selects, Bool.and_eq_true, decide_eq_true_eq, Option.isNone_iff_eq_none] at hselected
      exact ⟨post, Collection.lookup_eq_some_iff.mpr ⟨hpost, hselected.1.1⟩, hselected.2⟩
    · rw [htype] at htype'
      exact absurd htype' (by decide)
  · split
    · next htype =>
      refine safe_ensureRowExists fun s' hpos => ⟨fun htype' => ?_, fun _ => ?_⟩
      · rw [htype] at htype'
        exact absurd htype' (by decide)
      · obtain ⟨comment, hcomment, hselected⟩ := List.countP_pos_iff.mp hpos
        simp only [commentSelected, selects, Bool.and_eq_true, decide_eq_true_eq,
          Option.isNone_iff_eq_none] at hselected
        exact ⟨comment, Collection.lookup_eq_some_iff.mpr ⟨hcomment, hselected.1.1⟩, hselected.2⟩
    · exact safe_throw _ _ _

/-- The write that moves the counter of the target. -/
def counterWrite (key : TargetKey) (delta : ℤ) (now : Time) : Write :=
  if key.targetType = targetTypePost then .updatePost none key.targetID (.reactions delta now)
  else .updateComment none key.targetID (.reactions delta now)

/-- The counters of the target move, and nothing else. -/
lemma apply_counterWrite {s : Store} (delta : ℤ) (now : Time) (htype : validTargetType key.targetType)
    (h : TargetReady key s) (row : CommunityReaction) (hkey : row.key = key) :
    (s.apply (counterWrite key delta now)).posts.docs = s.posts.docs.map
        (changed (fun post => row.targets targetTypePost post.id) (PostChange.apply · (.reactions delta now))) ∧
      (s.apply (counterWrite key delta now)).comments.docs = s.comments.docs.map
        (changed (fun comment => row.targets targetTypeComment comment.id)
          (CommentChange.apply · (.reactions delta now))) ∧
      (s.apply (counterWrite key delta now)).topics = s.topics ∧
      (s.apply (counterWrite key delta now)).reactions = s.reactions ∧
      (s.apply (counterWrite key delta now)).follows = s.follows := by
  subst hkey
  unfold counterWrite
  have hid : ∀ {α : Type} (f : α → α) (l : List α), l.map (changed (fun _ => false) f) = l := by
    intro α f l
    exact (List.map_congr_left fun a _ => rfl).trans (List.map_id l)
  by_cases hpost : row.key.targetType = targetTypePost
  · rw [if_pos hpost]
    have hselected : (s.apply (.updatePost none row.key.targetID (.reactions delta now))).posts.docs = s.posts.docs.map
        (changed (fun post => row.targets targetTypePost post.id) (PostChange.apply · (.reactions delta now))) := by
      refine List.map_congr_left fun post hmem => ?_
      rw [changed, CommunityReaction.targets, hpost, decide_eq_true rfl, Bool.true_and,
        ← postSelected_eq (h.posts_undeleted hpost) post hmem]
      rfl
    have hnone : (fun comment : CommunityComment => row.targets targetTypeComment comment.id) = fun _ => false := by
      funext comment
      simp [CommunityReaction.targets, hpost, targetTypePost, targetTypeComment]
    rw [hnone, hid]
    exact ⟨hselected, rfl, rfl, rfl, rfl⟩
  · have hcomment : row.key.targetType = targetTypeComment := by
      simpa [validTargetType, hpost] using htype
    rw [if_neg hpost]
    have hselected : (s.apply (.updateComment none row.key.targetID (.reactions delta now))).comments.docs =
        s.comments.docs.map (changed (fun comment => row.targets targetTypeComment comment.id)
          (CommentChange.apply · (.reactions delta now))) := by
      refine List.map_congr_left fun comment hmem => ?_
      rw [changed, CommunityReaction.targets, hcomment, decide_eq_true rfl, Bool.true_and,
        ← commentSelected_eq (h.comments_undeleted hcomment) comment hmem]
      rfl
    have hnone : (fun post : CommunityPost => row.targets targetTypePost post.id) = fun _ => false := by
      funext post
      simp [CommunityReaction.targets, hpost]
    rw [hnone, hid]
    exact ⟨rfl, hselected, rfl, rfl, rfl⟩

lemma committable_nil (s : Store) : Committable [] s := fun _ hkept _ => hkept

/-- The counter is moved after a write that leaves posts and comments as they are. -/
lemma safe_incrementReactionCounterTx (htype : validTargetType key.targetType) {ws : List Write}
    (h : TargetReady key s) (hposts : ∀ s', (engine.view s' ws).posts = s'.posts)
    (hcomments : ∀ s', (engine.view s' ws).comments = s'.comments)
    (hcommit : ∀ s', Frame (engine.held ws) s s' → Committable (ws ++ [counterWrite key delta now]) s') :
    counting.Safe (OnSuccess fun _ => Committable) ws
      (incrementReactionCounterTx key.targetType key.targetID delta now).run s := by
  unfold incrementReactionCounterTx
  by_cases hpost : key.targetType = targetTypePost
  · rw [if_pos hpost]
    refine Safe.run_bind (fun _ => Committable) ?_ (fun _ ws s' hmid => safe_pure hmid)
    refine safe_sql fun s' _ hframe _ r _ => ?_
    obtain ⟨post, hlookup, hundeleted⟩ := (h.frame hframe).1 hpost
    obtain ⟨hmem, hid⟩ := Collection.lookup_eq_some_iff.mp hlookup
    have hupdate : (engine.view s' ws).written (.updatePost none key.targetID (.reactions delta now)) =
        [counterWrite key delta now] := by
      rw [counterWrite, if_pos hpost]
      exact updatePost_ok (hposts s' ▸ hmem) (by simp [postSelected, selects, hid, hundeleted])
    change Committable (ws ++ Store.written _ _) s'
    rw [hupdate]
    exact hcommit s' hframe
  · have hcomment : key.targetType = targetTypeComment := by
      simpa [validTargetType, hpost] using htype
    rw [if_neg hpost, if_pos hcomment]
    refine Safe.run_bind (fun _ => Committable) ?_ (fun _ ws s' hmid => safe_pure hmid)
    refine safe_sql fun s' _ hframe _ r _ => ?_
    obtain ⟨comment, hlookup, hundeleted⟩ := (h.frame hframe).2 hcomment
    obtain ⟨hmem, hid⟩ := Collection.lookup_eq_some_iff.mp hlookup
    have hupdate : (engine.view s' ws).written (.updateComment none key.targetID (.reactions delta now)) =
        [counterWrite key delta now] := by
      rw [counterWrite, if_neg hpost]
      exact updateComment_ok (hcomments s' ▸ hmem) (by simp [commentSelected, selects, hid, hundeleted])
    change Committable (ws ++ Store.written _ _) s'
    rw [hupdate]
    exact hcommit s' hframe

lemma committable_delete (htype : validTargetType key.targetType) {existing row : CommunityReaction}
    (hrow : s.reactions.lookup existing.id = some row) (hkey : row.key = key) (htarget : TargetReady key s) :
    Committable ([.deleteReaction existing] ++ [counterWrite key (-1) now]) s := by
  intro s' hkept hframe
  have huntouched : s'.reactions.lookup existing.id = s.reactions.lookup existing.id :=
    hframe.locked (.reaction existing.id) List.mem_cons_self
  rw [hrow] at huntouched
  obtain ⟨hmem, hid⟩ := Collection.lookup_eq_some_iff.mp huntouched
  have htarget' : TargetReady key s' := htarget.frame hframe
  obtain ⟨hposts, hcomments, htopics, hreactions, hfollows⟩ :=
    apply_counterWrite (s := s'.apply (.deleteReaction existing)) (-1) now htype htarget' row hkey
  exact hkept.deleteReaction hmem hid hposts hcomments hreactions htopics hfollows

lemma committable_insert (htype : validTargetType key.targetType) {row : CommunityReaction} (hkey : row.key = key)
    (hfree : s.reactions.lookup row.id = none) (htarget : TargetReady key s) :
    Committable ([.insertReaction row] ++ [counterWrite key 1 now]) s := by
  intro s' hkept hframe
  have huntouched : s'.reactions.lookup row.id = s.reactions.lookup row.id :=
    hframe.locked (.reaction row.id) List.mem_cons_self
  rw [hfree] at huntouched
  have htarget' : TargetReady key s' := htarget.frame hframe
  obtain ⟨hposts, hcomments, htopics, hreactions, hfollows⟩ :=
    apply_counterWrite (s := s'.apply (.insertReaction row)) 1 now htype htarget' row hkey
  refine hkept.insertReaction ?_ hposts hcomments ?_ htopics hfollows
  · rw [hkey]
    exact htarget'.ids
  · rw [engine.view_append]
    exact (congrArg Collection.docs hreactions).trans (Collection.docs_getD_insertOne huntouched)

lemma safe_removeReaction (htype : validTargetType key.targetType) (h : TargetReady key s)
    {existing : Option CommunityReaction} (hkey : ∀ row, existing = some row → row.key = key) :
    counting.Safe (OnSuccess fun _ => Committable) [] (Repository.removeReaction now key existing).run s := by
  cases existing with
  | none => exact safe_pure (committable_nil s)
  | some existing =>
    refine Safe.run_bind (fun _ ws s' => ws = [.deleteReaction existing] ∧ TargetReady key s' ∧
      ∃ row, s'.reactions.lookup existing.id = some row ∧ row.key = key) ?_ ?_
    · refine safe_sql fun s' _ hframe hpresumes r hr => ?_
      obtain ⟨row, hmem, hid, hrowkey⟩ := hpresumes
      refine ⟨?_, h.frame hframe, row, Collection.lookup_eq_some_iff.mpr ⟨hmem, hid⟩,
        hrowkey.trans (hkey existing rfl)⟩
      exact written_of_pos rfl (List.countP_pos_iff.mpr ⟨row, hmem, decide_eq_true hid⟩)
    · rintro _ _ s' ⟨rfl, htarget, row, hrow, hrowkey⟩
      refine safe_incrementReactionCounterTx htype htarget (fun _ => rfl) (fun _ => rfl) fun s'' hframe => ?_
      have huntouched : s''.reactions.lookup existing.id = s'.reactions.lookup existing.id :=
        hframe.locked (.reaction existing.id) List.mem_cons_self
      exact committable_delete htype (huntouched.trans hrow) hrowkey (htarget.frame hframe)

lemma safe_storeReaction (htype : validTargetType key.targetType) (h : TargetReady key s) (newID : ObjectID)
    (reaction : String) (existing : Option CommunityReaction) :
    counting.Safe (OnSuccess fun _ => Committable) []
      (Repository.storeReaction newID now key reaction existing).run s := by
  cases existing with
  | none =>
    refine Safe.run_bind (fun _ ws s' => ws = [.insertReaction ⟨newID.hex, key, reaction, now, now⟩] ∧
      TargetReady key s' ∧ s'.reactions.lookup newID.hex = none) ?_ ?_
    · refine safe_sql fun s' _ hframe _ r hr => ?_
      obtain ⟨hfree, hwritten⟩ := insertReaction_ok hr
      exact ⟨hwritten, h.frame hframe, hfree⟩
    · rintro _ _ s' ⟨rfl, htarget, hfree⟩
      refine safe_incrementReactionCounterTx htype htarget (fun _ => rfl) (fun _ => rfl) fun s'' hframe => ?_
      have huntouched : s''.reactions.lookup newID.hex = s'.reactions.lookup newID.hex :=
        hframe.locked (.reaction newID.hex) List.mem_cons_self
      exact committable_insert htype rfl (huntouched.trans hfree) (htarget.frame hframe)
  | some existing =>
    refine Safe.run_bind (fun _ => Committable) ?_ (fun _ ws s' hmid => safe_pure hmid)
    refine safe_sql fun s' _ _ _ r _ => ?_
    change Committable (Store.written s' _) s'
    unfold Store.written
    split
    · exact fun s'' hkept _ => hkept.updateReaction rfl
    · exact committable_nil s'

lemma safe_setReaction (newID : ObjectID) (now : Time) (key : TargetKey) (reaction : String) :
    counting.Safe (OnSuccess fun _ => Committable) [] (Repository.setReaction newID now key reaction).run s := by
  unfold Repository.setReaction
  split
  · exact safe_throw _ _ _
  next hvalid =>
  rw [Bool.not_eq_true', Bool.not_eq_false] at hvalid
  split
  · exact safe_throw _ _ _
  split
  · exact safe_throw _ _ _
  refine safe_wrap (Safe.run_bind _ safe_ensureReactionTargetTx ?_)
  rintro _ _ s₁ ⟨rfl, htarget₁⟩
  refine Safe.run_bind (fun (existing : (Statement.firstReaction key).Result) ws s' => ws = [] ∧ TargetReady key s' ∧
    ∀ row, existing = some row → row.key = key) ?_ ?_
  · refine safe_sql fun s₂ _ hframe _ r hr => ⟨rfl, htarget₁.frame hframe, ?_⟩
    rintro row rfl
    have hfound : s₂.reactions.docs.find? (fun row => row.key = key) = some row := Except.ok.inj hr
    simpa using List.find?_some hfound
  · rintro existing _ s₂ ⟨rfl, htarget₂, hkey⟩
    split
    · exact safe_removeReaction hvalid htarget₂ hkey
    · exact safe_storeReaction hvalid htarget₂ newID reaction existing

end SetReaction

/-! ## Follows -/

section SetFollow

variable {key : TargetKey} {s s' : Store} {now : Time}

def TopicReady (key : TargetKey) (s : Store) : Prop :=
  key.targetType = targetTypeTopic → ∃ topic, s.topics.lookup key.targetID = some topic ∧ topic.deletedAt = none

lemma TopicReady.frame (h : TopicReady key s) {locks : List Lock} (hframe : Frame locks s s') : TopicReady key s' := by
  intro htype
  obtain ⟨topic, htopic, hundeleted⟩ := h htype
  have hplaces := hframe.topics key.targetID
  rw [htopic, Option.map_some] at hplaces
  obtain ⟨topic', htopic', hplace⟩ := Option.map_eq_some_iff.mp hplaces
  exact ⟨topic', htopic', (Prod.mk.inj hplace).2.trans hundeleted⟩

lemma TopicReady.undeleted (h : TopicReady key s) (htype : key.targetType = targetTypeTopic) :
    ∀ topic ∈ s.topics.docs, topic.id = key.targetID → topic.deletedAt = none := by
  obtain ⟨topic, htopic, hundeleted⟩ := h htype
  exact forall_of_lookup htopic hundeleted

lemma safe_ensureFollowTargetTx :
    counting.Safe (OnSuccess fun _ ws s' => ws = [] ∧ TopicReady key s') []
      (ensureFollowTargetTx key.tenantID key.targetType key.targetID).run s := by
  unfold ensureFollowTargetTx
  split
  · refine safe_ensureRowExists fun s' hpos _ => ?_
    obtain ⟨topic, htopic, hselected⟩ := List.countP_pos_iff.mp hpos
    simp only [topicSelected, selects, Bool.and_eq_true, decide_eq_true_eq, Option.isNone_iff_eq_none] at hselected
    exact ⟨topic, Collection.lookup_eq_some_iff.mpr ⟨htopic, hselected.1.1⟩, hselected.2⟩
  · next htopic =>
    split
    · exact safe_ensureRowExists fun s' _ htype => absurd htype htopic
    · exact safe_throw _ _ _

/-- The follower counter is moved where a row of a topic was written. -/
lemma safe_follower (change : TopicChange) (w : Write) (h : TopicReady key s)
    (htype : key.targetType = targetTypeTopic) (htopics : ∀ s' : Store, (s'.apply w).topics = s'.topics)
    (hcommit : ∀ s', Frame (engine.held [w]) s s' →
      Committable ([w] ++ [.updateTopic none key.targetID change]) s') :
    counting.Safe (OnSuccess fun _ => Committable) [w]
      (do let _ ← sql (.write (.updateTopic none key.targetID change)) : Transaction Unit).run s := by
  refine Safe.run_bind (fun _ => Committable) ?_ (fun _ ws s' hmid => safe_pure hmid)
  refine safe_sql fun s' _ hframe _ r _ => ?_
  obtain ⟨topic, hlookup, hundeleted⟩ := h.frame hframe htype
  obtain ⟨hmem, hid⟩ := Collection.lookup_eq_some_iff.mp hlookup
  have hupdate : (engine.view s' [w]).written (.updateTopic none key.targetID change) =
      [.updateTopic none key.targetID change] :=
    updateTopic_ok (htopics s' ▸ hmem) (by simp [topicSelected, selects, hid, hundeleted])
  change Committable ([w] ++ Store.written _ _) s'
  rw [hupdate]
  exact hcommit s' hframe

/-- The write found no row to write, or is pending and `P` holds. -/
def Wrote (w : Write) (P : Store → Prop) (rows : ℕ) (ws : List Write) (s : Store) : Prop :=
  (rows = 0 ∧ ws = []) ∨ (0 < rows ∧ ws = [w] ∧ P s)

lemma safe_follow (newID : ObjectID) (h : TopicReady key s) :
    counting.Safe (OnSuccess fun _ => Committable) [] (Repository.follow newID now key).run s := by
  refine Safe.run_bind (fun (rows : (Statement.write _).Result) ws s' => TopicReady key s' ∧
    Wrote (.insertFollow ⟨newID.hex, key, now⟩) (fun s' => s'.follows.lookup key = none) rows ws s') ?_ ?_
  · refine safe_sql fun s' _ hframe _ r hr => ⟨h.frame hframe, ?_⟩
    obtain ⟨hzero, hwritten⟩ | ⟨hpos, hfree, hwritten⟩ := insertFollow_ok hr
    · exact .inl ⟨hzero, hwritten⟩
    · exact .inr ⟨hpos, hwritten, hfree⟩
  · rintro rows _ s' ⟨hready, ⟨rfl, rfl⟩ | ⟨hpos, rfl, hfree⟩⟩
    · exact safe_pure (committable_nil s')
    have hfollow : ∀ {locks s₁ s₂}, Lock.follow key ∈ locks → Frame locks s₁ s₂ →
        s₁.follows.lookup key = none → s₂.follows.lookup key = none := by
      intro locks s₁ s₂ hmem hframe hnone
      have huntouched : s₂.follows.lookup key = s₁.follows.lookup key := hframe.locked (.follow key) hmem
      exact huntouched.trans hnone
    by_cases htype : key.targetType = targetTypeTopic
    · rw [if_pos ⟨hpos, htype⟩]
      refine safe_follower _ _ hready htype (fun _ => rfl) fun s₁ hframe₁ s₂ hkept hframe₂ => ?_
      have hfree₁ := hfollow List.mem_cons_self hframe₁ hfree
      exact hkept.insertFollow (hfollow List.mem_cons_self hframe₂ hfree₁) htype
        (((hready.frame hframe₁).frame hframe₂).undeleted htype)
    · rw [if_neg (fun hboth => htype hboth.2)]
      exact safe_pure fun s₁ hkept hframe => hkept.insertFollow_user (hfollow List.mem_cons_self hframe hfree) htype

lemma safe_unfollow (h : TopicReady key s) :
    counting.Safe (OnSuccess fun _ => Committable) [] (Repository.unfollow key).run s := by
  refine Safe.run_bind (fun (rows : (Statement.write _).Result) ws s' => TopicReady key s' ∧
    Wrote (.deleteFollow key) (fun s' => ∃ row, s'.follows.lookup key = some row) rows ws s') ?_ ?_
  · refine safe_sql fun s' _ hframe _ r hr => ⟨h.frame hframe, ?_⟩
    obtain ⟨hzero, hwritten⟩ | ⟨hpos, hrow, hwritten⟩ := deleteFollow_ok hr
    · exact .inl ⟨hzero, hwritten⟩
    · exact .inr ⟨hpos, hwritten, hrow⟩
  · rintro rows _ s' ⟨hready, ⟨rfl, rfl⟩ | ⟨hpos, rfl, row, hrow⟩⟩
    · exact safe_pure (committable_nil s')
    by_cases htype : key.targetType = targetTypeTopic
    · rw [if_pos ⟨hpos, htype⟩]
      refine safe_follower _ _ hready htype (fun _ => rfl) fun s₁ hframe₁ s₂ hkept hframe₂ => ?_
      have huntouched₁ : s₁.follows.lookup key = s'.follows.lookup key :=
        hframe₁.locked (.follow key) List.mem_cons_self
      have huntouched₂ : s₂.follows.lookup key = s₁.follows.lookup key :=
        hframe₂.locked (.follow key) List.mem_cons_self
      obtain ⟨hmem, hkey⟩ := Collection.lookup_eq_some_iff.mp (huntouched₂.trans (huntouched₁.trans hrow))
      exact hkept.deleteFollow hmem hkey htype (((hready.frame hframe₁).frame hframe₂).undeleted htype)
    · rw [if_neg (fun hboth => htype hboth.2)]
      exact safe_pure fun s₁ hkept _ => hkept.deleteFollow_user htype

lemma safe_setFollow (newID : ObjectID) (now : Time) (key : TargetKey) (enabled : Bool) :
    counting.Safe (OnSuccess fun _ => Committable) [] (Repository.setFollow newID now key enabled).run s := by
  unfold Repository.setFollow
  split
  · exact safe_throw _ _ _
  split
  · exact safe_throw _ _ _
  refine Safe.run_bind _ safe_ensureFollowTargetTx ?_
  rintro _ _ s₁ ⟨rfl, hready⟩
  split
  · exact safe_follow newID hready
  · exact safe_unfollow hready

end SetFollow

/-! ## Whole runs -/

lemma safe_resolveTopic {tenantID : String} {req : CreatePostRequest} {s : Store} :
    counting.Safe (OnSuccess fun _ ws _ => ws = []) [] (Service.resolveTopic tenantID req).run s := by
  unfold Service.resolveTopic
  split
  · refine Safe.run_bind (fun _ ws _ => ws = []) (safe_wrap ?_) (fun _ ws s' hmid => safe_pure hmid)
    exact safe_sql fun _ _ _ _ _ _ => rfl
  · exact safe_pure rfl

section Service

variable (tenantID actorID : String) (newID : ObjectID) (now : Time) (s : Store)

lemma safe_serviceCreatePost (mediaIDs : ℕ → ObjectID) (req : CreatePostRequest) :
    counting.Safe (OnSuccess fun _ => Committable) []
      (Service.createPost tenantID actorID newID now mediaIDs req).run s := by
  unfold Service.createPost
  split
  · exact safe_throw _ _ _
  refine Safe.run_bind _ safe_resolveTopic ?_
  rintro topicID _ s₁ rfl
  split
  · exact safe_throw _ _ _
  refine Safe.run_bind (fun _ ws _ => ws = []) (safe_lift fun _ _ => rfl) ?_
  rintro media _ s₂ rfl
  exact safe_createPost newID now mediaIDs _ media rfl rfl

lemma safe_serviceCreateComment (postID : String) (req : CreateCommentRequest) :
    counting.Safe (OnSuccess fun _ => Committable) []
      (Service.createComment tenantID actorID newID now postID req).run s := by
  unfold Service.createComment
  split
  · exact safe_throw _ _ _
  split
  · exact safe_throw _ _ _
  · exact safe_createComment newID now _ rfl rfl

end Service

lemma safe_transaction (call : Call) (s : Store) :
    counting.Safe (OnSuccess fun _ => Committable) [] call.transaction.run s := by
  unfold Call.transaction
  split
  · exact safe_serviceCreatePost _ _ _ _ _ _ _
  · exact safe_serviceCreateComment _ _ _ _ _ _ _
  · exact safe_setReaction _ _ _ _
  · exact safe_setFollow _ _ _ _

/-- In every interleaving of transactions whose statements meet what the code takes for
granted, what is committed has exact counters and well placed replies. -/
theorem countersExact_run {s : Store} (hwf : s.WellFormed) (hexact : s.CountersExact) {calls : List Call}
    {schedule : List (ℕ × Option CommunityError)}
    (hpresumes : Runs.Throughout engine.step (engine.Meets Statement.Presumes) (start s calls) schedule) :
    (engine.run (start s calls) schedule).committed.CountersExact := by
  refine (Discipline.inv_run (D := counting) ⟨hwf, hexact⟩ (fun p hp => ?_) hpresumes).exact
  obtain ⟨call, -, rfl⟩ := List.mem_map.mp hp
  exact safe_transaction call s

/-- One post with two reactions. -/
def Sample.community : Store where
  users := [
    ⟨Sample.id 1, "a", "", "", "", "", "", "", "", "", "", "", "", false, none, 0, 0, 0, none⟩]
  topics := .singleton { id := "t", tenantID := "a", slug := "s", threadCount := 1 }
  posts := .singleton { id := "p", tenantID := "a", topicID := "t", authorID := "u", content := "", reactionCount := 2 }
  media := .empty
  comments := .empty
  reactions := ⟨[⟨"r", ⟨"a", targetTypePost, "p", "u"⟩, "like", 0, 0⟩, ⟨"q", ⟨"a", targetTypePost, "p", "v"⟩, "love", 0, 0⟩],
    by decide⟩
  follows := .empty

/-- A user takes the reaction back. -/
def Sample.unlike : Call := ⟨"a", "u", Sample.id 1, 0, .setReaction targetTypePost "p" ""⟩

lemma Sample.community_wellFormed : Sample.community.WellFormed :=
  ⟨fun _ h => absurd h List.not_mem_nil, fun _ h => absurd h List.not_mem_nil, by decide, by decide⟩

lemma Sample.community_exact : Sample.community.CountersExact :=
  ⟨by decide, by decide, by decide, by decide, by decide, by decide, fun _ h => absurd h List.not_mem_nil⟩

/-- Each statement of the one transaction, and COMMIT. -/
def Sample.one (i : ℕ) (steps : ℕ) : List (ℕ × Option CommunityError) := List.replicate steps (i, none)

theorem countersExact_sample :
    (engine.run (start Sample.community [Sample.unlike]) (Sample.one 0 5)).committed.CountersExact :=
  countersExact_run Sample.community_wellFormed Sample.community_exact (by decide)

/-- Both of two concurrent removals of one reaction count it down. -/
theorem reaction_counted_down_twice :
    let db := engine.run (start Sample.community [Sample.unlike, Sample.unlike])
      (Sample.one 0 2 ++ Sample.one 1 2 ++ Sample.one 0 3 ++ Sample.one 1 3)
    Sample.community.WellFormed ∧ Sample.community.CountersExact ∧ db.quiescent ∧
      db.committed.posts.docs.map (fun post => post.reactionCount) = [0] ∧
      db.committed.reactions.docs.length = 1 ∧ ¬ db.committed.CountersExact :=
  ⟨Sample.community_wellFormed, Sample.community_exact, by decide, by decide, by decide,
    fun h => absurd h.postReactions (by decide)⟩

end ErgGo.Community
