import ErgGo.Community.Repository
import ErgGo.Lib.Counters

/-!
# Counters and replies

Six counters are kept beside the rows they count. What is committed keeps them exact, and a
reply below a comment of its own post, as long as the code's statements meet what it takes
for granted. SetReaction deletes a reaction it has read, without looking whether it is still
there, and so two concurrent removals count one reaction down twice.
-/

namespace ErgGo.Community
open Go Documents Concurrent Program Lms Postgres ReadCommitted Counters

/-- The reaction targets the row `id` of type `targetType`. -/
def CommunityReaction.targets (targetType : String) (row : CommunityReaction) (id : String) : Bool :=
  row.key.targetType = targetType && row.key.targetID = id

def CommunityFollow.follows (row : CommunityFollow) (id : String) : Bool :=
  row.key.targetType = targetTypeTopic && row.key.targetID = id

/-- The parent of a reply is a comment of its post and tenant. -/
def CommunityComment.IsReplyTo (reply parent : CommunityComment) : Prop :=
  parent.id = reply.parentID ∧ parent.postID = reply.postID ∧ parent.tenantID = reply.tenantID

def RepliesPlaced (comments : List CommunityComment) : Prop :=
  ∀ reply ∈ comments, reply.parentID ≠ "" → ∃ parent ∈ comments, reply.IsReplyTo parent

/-- Every counter is the number of its rows, and replies stay in the post of their parent. -/
structure Store.CountersExact (s : Store) : Prop where
  threads : Counted CommunityTopic.id CommunityTopic.threadCount (fun post id => post.topicID = id) s.topics.docs
    s.posts.docs
  followers : Counted CommunityTopic.id CommunityTopic.followerCount CommunityFollow.follows s.topics.docs
    s.follows.docs
  comments : Counted CommunityPost.id CommunityPost.commentCount (fun comment id => comment.postID = id) s.posts.docs
    s.comments.docs
  replies : Counted CommunityComment.id CommunityComment.replyCount (fun reply id => reply.parentID = id)
    s.comments.docs s.comments.docs
  postReactions : Counted CommunityPost.id CommunityPost.reactionCount (CommunityReaction.targets targetTypePost)
    s.posts.docs s.reactions.docs
  commentReactions : Counted CommunityComment.id CommunityComment.reactionCount
    (CommunityReaction.targets targetTypeComment) s.comments.docs s.reactions.docs
  parents : RepliesPlaced s.comments.docs

/-- Comments belong to posts and reactions to posts or comments that exist. -/
structure Store.WellFormed (s : Store) : Prop where
  commentID : ∀ comment ∈ s.comments.docs, comment.id ≠ ""
  commentPost : ∀ comment ∈ s.comments.docs, comment.postID ∈ s.posts.docs.map CommunityPost.id
  postTarget : ∀ row ∈ s.reactions.docs, row.key.targetType = targetTypePost →
    row.key.targetID ∈ s.posts.docs.map CommunityPost.id
  commentTarget : ∀ row ∈ s.reactions.docs, row.key.targetType = targetTypeComment →
    row.key.targetID ∈ s.comments.docs.map CommunityComment.id

/-- What the code takes for granted: a post's topic and a comment's post are of the caller's
tenant and not deleted, a parent is a comment of the same post, and the reaction to delete is
still there. -/
def Statement.Presumes : Statement → Store → Prop
  | .write (.insertPost row), s => ∀ topic ∈ s.topics.docs, topic.id = row.topicID →
    topic.tenantID = row.tenantID ∧ topic.deletedAt = none
  | .write (.insertComment row), s =>
    (∀ post ∈ s.posts.docs, post.id = row.postID → post.tenantID = row.tenantID ∧ post.deletedAt = none) ∧
      ∀ parent ∈ s.comments.docs, row.parentID ≠ "" → parent.id = row.parentID → parent.postID = row.postID
  | .write (.deleteReaction existing), s => ∃ row ∈ s.reactions.docs, row.id = existing.id ∧ row.key = existing.key
  | _, _ => True

instance : ∀ (q : Statement) (s : Store), Decidable (q.Presumes s)
  | .write (.insertPost row), s =>
    inferInstanceAs (Decidable (∀ topic ∈ s.topics.docs, topic.id = row.topicID →
      topic.tenantID = row.tenantID ∧ topic.deletedAt = none))
  | .write (.insertComment row), s =>
    inferInstanceAs (Decidable ((∀ post ∈ s.posts.docs, post.id = row.postID →
      post.tenantID = row.tenantID ∧ post.deletedAt = none) ∧
      ∀ parent ∈ s.comments.docs, row.parentID ≠ "" → parent.id = row.parentID → parent.postID = row.postID))
  | .write (.deleteReaction existing), s =>
    inferInstanceAs (Decidable (∃ row ∈ s.reactions.docs, row.id = existing.id ∧ row.key = existing.key))
  | .write (.insertMedia _), _ => .isTrue trivial
  | .write (.insertReaction _), _ => .isTrue trivial
  | .write (.insertFollow _), _ => .isTrue trivial
  | .write (.updateTopic _ _ _), _ => .isTrue trivial
  | .write (.updatePost _ _ _), _ => .isTrue trivial
  | .write (.updateComment _ _ _), _ => .isTrue trivial
  | .write (.updateReaction _ _ _), _ => .isTrue trivial
  | .write (.deleteFollow _), _ => .isTrue trivial
  | .count _, _ => .isTrue trivial
  | .firstComment _ _, _ => .isTrue trivial
  | .firstReaction _, _ => .isTrue trivial
  | .listTopics _, _ => .isTrue trivial

structure Store.Kept (s : Store) : Prop where
  wellFormed : s.WellFormed
  exact : s.CountersExact

/-! ## What the writes of a transaction do -/

/-! A row that is not deleted is selected by its id. -/

section Selected

variable {id : String}

lemma topicSelected_eq {topics : List CommunityTopic} (h : ∀ topic ∈ topics, topic.id = id → topic.deletedAt = none) :
    ∀ topic ∈ topics, topicSelected none id topic = decide (id = topic.id) := by
  intro topic ht
  by_cases hid : topic.id = id
  · simp [topicSelected, selects, hid, h topic ht hid]
  · simp [topicSelected, selects, hid, Ne.symm hid]

lemma postSelected_eq {posts : List CommunityPost} (h : ∀ post ∈ posts, post.id = id → post.deletedAt = none) :
    ∀ post ∈ posts, postSelected none id post = decide (id = post.id) := by
  intro post hp
  by_cases hid : post.id = id
  · simp [postSelected, selects, hid, h post hp hid]
  · simp [postSelected, selects, hid, Ne.symm hid]

lemma commentSelected_eq {comments : List CommunityComment}
    (h : ∀ comment ∈ comments, comment.id = id → comment.deletedAt = none) :
    ∀ comment ∈ comments, commentSelected none id comment = decide (id = comment.id) := by
  intro comment hc
  by_cases hid : comment.id = id
  · simp [commentSelected, selects, hid, h comment hc hid]
  · simp [commentSelected, selects, hid, Ne.symm hid]

end Selected

/-- The rows an update selects are changed, and the others are not. -/
def changed {α : Type} (p : α → Bool) (f : α → α) (a : α) : α := if p a then f a else a

lemma changed_eq {α β : Type} {p : α → Bool} {f : α → α} {g : α → β} (hg : ∀ a, g (f a) = g a) (a : α) :
    g (changed p f a) = g a := by
  unfold changed
  split
  · exact hg a
  · rfl

lemma map_changed {α β : Type} {p : α → Bool} {f : α → α} {g : α → β} (hg : ∀ a, g (f a) = g a) (l : List α) :
    (l.map (changed p f)).map g = l.map g := by
  rw [List.map_map]
  exact List.map_congr_left fun a _ => changed_eq hg a

/-- A primary key names one row. -/
lemma filter_key_eq {α Key : Type} [DecidableEq Key] {key : α → Key} {l : List α} (hnodup : (l.map key).Nodup)
    {a : α} (ha : a ∈ l) : l.filter (fun b => key b = key a) = [a] := by
  induction l with
  | nil => cases ha
  | cons b l ih =>
    rw [List.map_cons, List.nodup_cons] at hnodup
    rcases List.mem_cons.mp ha with rfl | ha
    · rw [List.filter_cons_of_pos (by simp), List.filter_eq_nil_iff.mpr]
      intro c hc hkey
      exact hnodup.1 (List.mem_map.mpr ⟨c, hc, by simpa using hkey⟩)
    · have hne : ¬ key b = key a := fun hkey => hnodup.1 (hkey ▸ List.mem_map_of_mem ha)
      rw [List.filter_cons_of_neg (by simpa using hne)]
      exact ih hnodup.2 ha

section Columns

variable (p : CommunityPost → Bool) (q : CommunityComment → Bool) (post : CommunityPost) (comment : CommunityComment)
  (change : PostChange) (change' : CommentChange)

@[simp] lemma topicID_changed : (changed p (PostChange.apply · change) post).topicID = post.topicID :=
  changed_eq (fun _ => by cases change <;> rfl) post

@[simp] lemma postID_changed : (changed q (CommentChange.apply · change') comment).postID = comment.postID :=
  changed_eq (fun _ => by cases change' <;> rfl) comment

@[simp] lemma parentID_changed : (changed q (CommentChange.apply · change') comment).parentID = comment.parentID :=
  changed_eq (fun _ => by cases change' <;> rfl) comment

@[simp] lemma tenantID_changed : (changed q (CommentChange.apply · change') comment).tenantID = comment.tenantID :=
  changed_eq (fun _ => by cases change' <;> rfl) comment

@[simp] lemma id_changed : (changed q (CommentChange.apply · change') comment).id = comment.id :=
  changed_eq (fun _ => by cases change' <;> rfl) comment

lemma map_id_changed_posts (l : List CommunityPost) :
    (l.map (changed p (PostChange.apply · change))).map CommunityPost.id = l.map CommunityPost.id :=
  map_changed (fun _ => by cases change <;> rfl) l

lemma map_id_changed_comments (l : List CommunityComment) :
    (l.map (changed q (CommentChange.apply · change'))).map CommunityComment.id = l.map CommunityComment.id :=
  map_changed (fun _ => by cases change' <;> rfl) l

end Columns

lemma CommunityComment.IsReplyTo.changed {reply parent : CommunityComment} (h : reply.IsReplyTo parent)
    (p : CommunityComment → Bool) (change : CommentChange) :
    reply.IsReplyTo (changed p (CommentChange.apply · change) parent) := by
  refine ⟨?_, ?_, ?_⟩
  · rw [id_changed]
    exact h.1
  · rw [postID_changed]
    exact h.2.1
  · rw [tenantID_changed]
    exact h.2.2

lemma RepliesPlaced.map_changed {comments : List CommunityComment} (h : RepliesPlaced comments)
    (p : CommunityComment → Bool) (change : CommentChange) :
    RepliesPlaced (comments.map (changed p (CommentChange.apply · change))) := by
  intro reply' hreply'
  obtain ⟨reply, hreply, rfl⟩ := List.mem_map.mp hreply'
  rw [parentID_changed]
  intro hblank
  obtain ⟨parent, hparent, hplace⟩ := h reply hreply hblank
  refine ⟨_, List.mem_map_of_mem hparent, ?_⟩
  unfold CommunityComment.IsReplyTo
  rw [parentID_changed, postID_changed p reply, tenantID_changed p reply]
  exact hplace.changed p change

lemma RepliesPlaced.append {comments : List CommunityComment} (h : RepliesPlaced comments) {row : CommunityComment}
    (hrow : row.parentID ≠ "" → ∃ parent ∈ comments, row.IsReplyTo parent) : RepliesPlaced (comments ++ [row]) := by
  intro reply hreply hblank
  have hplaced : ∃ parent ∈ comments, reply.IsReplyTo parent := by
    rcases List.mem_append.mp hreply with hreply | hreply
    · exact h reply hreply hblank
    · obtain rfl := List.mem_singleton.mp hreply
      exact hrow hblank
  obtain ⟨parent, hparent, hplace⟩ := hplaced
  exact ⟨parent, List.mem_append_left _ hparent, hplace⟩

section Commits

variable {s s' : Store} (h : s.Kept)

include h

lemma Store.Kept.createPost {row : CommunityPost} {now : Time} (hfree : s.posts.lookup row.id = none)
    (hcomments : row.commentCount = 0) (hreactions : row.reactionCount = 0)
    (htopic : ∀ topic ∈ s.topics.docs, topic.id = row.topicID →
      topic.tenantID = row.tenantID ∧ topic.deletedAt = none)
    (hposts' : s'.posts.docs = s.posts.docs ++ [row])
    (htopics' : s'.topics.docs = s.topics.docs.map (changed (topicSelected (some row.tenantID) row.topicID)
      (TopicChange.apply · (.newThread row.id now))))
    (hcomments' : s'.comments = s.comments) (hreactions' : s'.reactions = s.reactions)
    (hfollows' : s'.follows = s.follows) : s'.Kept := by
  obtain ⟨hwf, hexact⟩ := h
  have hnew : row.id ∉ s.posts.docs.map CommunityPost.id := Collection.lookup_eq_none_iff.mp hfree
  have hselected : ∀ topic ∈ s.topics.docs,
      topicSelected (some row.tenantID) row.topicID topic = decide (row.topicID = topic.id) := by
    intro topic hmem
    have hrow := htopic topic hmem
    by_cases hid : topic.id = row.topicID
    · simp [topicSelected, selects, hid, hrow hid]
    · simp [topicSelected, selects, hid, Ne.symm hid]
  constructor
  · refine ⟨?_, ?_, ?_, ?_⟩
    · rw [hcomments']
      exact hwf.commentID
    · rw [hcomments', hposts', List.map_append]
      exact fun comment hc => List.mem_append_left _ (hwf.commentPost comment hc)
    · rw [hreactions', hposts', List.map_append]
      exact fun reaction hr ht => List.mem_append_left _ (hwf.postTarget reaction hr ht)
    · rw [hreactions', hcomments']
      exact hwf.commentTarget
  · refine ⟨?_, ?_, ?_, ?_, ?_, ?_, ?_⟩
    · rw [htopics', hposts']
      exact hexact.threads.append_child (fun _ => rfl) (fun _ _ => rfl) hselected
    · rw [htopics', hfollows']
      exact hexact.followers.map_parents (changed_eq fun _ => rfl) (changed_eq fun _ => rfl)
    · rw [hposts', hcomments']
      refine hexact.comments.append_parent hcomments fun comment hc => decide_eq_false fun hid => ?_
      exact hnew (hid ▸ hwf.commentPost comment hc)
    · rw [hcomments']
      exact hexact.replies
    · rw [hposts', hreactions']
      refine hexact.postReactions.append_parent hreactions fun reaction hr => ?_
      refine Bool.eq_false_iff.mpr fun htarget => ?_
      simp only [CommunityReaction.targets, Bool.and_eq_true, decide_eq_true_eq] at htarget
      exact hnew (htarget.2 ▸ hwf.postTarget reaction hr htarget.1)
    · rw [hcomments', hreactions']
      exact hexact.commentReactions
    · rw [hcomments']
      exact hexact.parents

lemma Store.Kept.createComment {row : CommunityComment} {now : Time} (hfree : s.comments.lookup row.id = none)
    (hid : row.id ≠ "") (hreplies : row.replyCount = 0) (hreactions : row.reactionCount = 0)
    (hpost : row.postID ∈ s.posts.docs.map CommunityPost.id)
    (hundeleted : ∀ post ∈ s.posts.docs, post.id = row.postID → post.tenantID = row.tenantID ∧ post.deletedAt = none)
    (hparent : row.parentID ≠ "" → ∃ parent ∈ s.comments.docs, row.IsReplyTo parent ∧ parent.deletedAt = none)
    (hcomments' : s'.comments.docs =
      s.comments.docs.map (changed (commentSelected none row.parentID) (CommentChange.apply · (.newReply now))) ++ [row])
    (hposts' : s'.posts.docs = s.posts.docs.map (changed (postSelected (some row.tenantID) row.postID)
      (PostChange.apply · (.newComment now))))
    (htopics' : s'.topics = s.topics) (hreactions' : s'.reactions = s.reactions)
    (hfollows' : s'.follows = s.follows) : s'.Kept := by
  obtain ⟨hwf, hexact⟩ := h
  have hnew : row.id ∉ s.comments.docs.map CommunityComment.id := Collection.lookup_eq_none_iff.mp hfree
  have hposts : s'.posts.docs.map CommunityPost.id = s.posts.docs.map CommunityPost.id := by
    rw [hposts', map_id_changed_posts]
  have hcomments : s'.comments.docs.map CommunityComment.id = s.comments.docs.map CommunityComment.id ++ [row.id] := by
    rw [hcomments', List.map_append, map_id_changed_comments]
    rfl
  have hreplied : ∀ comment ∈ s.comments.docs,
      commentSelected none row.parentID comment = decide (row.parentID = comment.id) := by
    refine commentSelected_eq fun comment hc hcid => ?_
    obtain ⟨parent, hp, hreply, hparentUndeleted⟩ := hparent (hcid ▸ hwf.commentID comment hc)
    obtain rfl : comment = parent := List.inj_on_of_nodup_map s.comments.nodup hc hp (hcid.trans hreply.1.symm)
    exact hparentUndeleted
  have hselected : ∀ post ∈ s.posts.docs,
      postSelected (some row.tenantID) row.postID post = decide (row.postID = post.id) := by
    intro post hp
    have hrow := hundeleted post hp
    by_cases hid : post.id = row.postID
    · simp [postSelected, selects, hid, hrow hid]
    · simp [postSelected, selects, hid, Ne.symm hid]
  -- a comment that is not there yet has no replies
  have hunreplied : ∀ reply ∈ s.comments.docs ++ [row], reply.parentID ≠ row.id := by
    intro reply hr hreply
    have hblank : reply.parentID ≠ "" := hreply ▸ hid
    obtain ⟨parent, hp, hpid⟩ : ∃ parent ∈ s.comments.docs, parent.id = reply.parentID := by
      rcases List.mem_append.mp hr with hr | hr
      · obtain ⟨parent, hp, hpid, -⟩ := hexact.parents reply hr hblank
        exact ⟨parent, hp, hpid⟩
      · obtain rfl := List.mem_singleton.mp hr
        obtain ⟨parent, hp, ⟨hpid, -⟩, -⟩ := hparent hblank
        exact ⟨parent, hp, hpid⟩
    exact hnew (List.mem_map.mpr ⟨parent, hp, hpid.trans hreply⟩)
  constructor
  · refine ⟨?_, ?_, ?_, ?_⟩
    · have hids : ∀ id ∈ s'.comments.docs.map CommunityComment.id, id ≠ "" := by
        rw [hcomments]
        intro id hmem
        rcases List.mem_append.mp hmem with hmem | hmem
        · obtain ⟨comment, hc, rfl⟩ := List.mem_map.mp hmem
          exact hwf.commentID comment hc
        · rw [List.mem_singleton.mp hmem]
          exact hid
      exact fun comment hc => hids _ (List.mem_map_of_mem hc)
    · rw [hposts, hcomments']
      intro comment hc
      rcases List.mem_append.mp hc with hc | hc
      · obtain ⟨comment, hcomment, rfl⟩ := List.mem_map.mp hc
        rw [postID_changed]
        exact hwf.commentPost comment hcomment
      · rw [List.mem_singleton.mp hc]
        exact hpost
    · rw [hposts, hreactions']
      exact hwf.postTarget
    · rw [hcomments, hreactions']
      exact fun reaction hr ht => List.mem_append_left _ (hwf.commentTarget reaction hr ht)
  · refine ⟨?_, ?_, ?_, ?_, ?_, ?_, ?_⟩
    · rw [htopics', hposts']
      exact hexact.threads.map_children fun post id => by rw [topicID_changed]
    · rw [htopics', hfollows']
      exact hexact.followers
    · rw [hposts', hcomments']
      refine Counted.append_child (hexact.comments.map_children fun comment id => ?_) (fun _ => rfl) (fun _ _ => rfl)
        hselected
      rw [postID_changed]
    · rw [hcomments']
      refine Counted.append_parent ?_ hreplies fun reply hr => ?_
      · refine Counted.append_child (hexact.replies.map_children fun reply id => ?_) (fun _ => rfl) (fun _ _ => rfl)
          hreplied
        rw [parentID_changed]
      · refine decide_eq_false fun hreply => ?_
        rcases List.mem_append.mp hr with hr | hr
        · obtain ⟨reply, hmem, rfl⟩ := List.mem_map.mp hr
          rw [parentID_changed] at hreply
          exact hunreplied reply (List.mem_append_left _ hmem) hreply
        · exact hunreplied reply (List.mem_append_right _ hr) hreply
    · rw [hposts', hreactions']
      exact hexact.postReactions.map_parents (changed_eq fun _ => rfl) (changed_eq fun _ => rfl)
    · rw [hcomments', hreactions']
      refine Counted.append_parent ?_ hreactions fun reaction hr => ?_
      · exact hexact.commentReactions.map_parents (changed_eq fun _ => rfl) (changed_eq fun _ => rfl)
      refine Bool.eq_false_iff.mpr fun htarget => ?_
      simp only [CommunityReaction.targets, Bool.and_eq_true, decide_eq_true_eq] at htarget
      exact hnew (htarget.2 ▸ hwf.commentTarget reaction hr htarget.1)
    · rw [hcomments']
      refine (hexact.parents.map_changed _ _).append fun hblank => ?_
      obtain ⟨parent, hp, hreply, -⟩ := hparent hblank
      exact ⟨_, List.mem_map_of_mem hp, hreply.changed _ _⟩

/-- A transaction on reactions moves the reaction counters of the target of `row` alone. -/
lemma Store.Kept.reactions {row : CommunityReaction} {delta : ℤ} {now : Time}
    (hposts' : s'.posts.docs = s.posts.docs.map (changed (fun post => row.targets targetTypePost post.id)
      (PostChange.apply · (.reactions delta now))))
    (hcomments' : s'.comments.docs = s.comments.docs.map (changed
      (fun comment => row.targets targetTypeComment comment.id) (CommentChange.apply · (.reactions delta now))))
    (htopics' : s'.topics = s.topics) (hfollows' : s'.follows = s.follows)
    (htargets : ∀ reaction ∈ s'.reactions.docs,
      (reaction.key.targetType = targetTypePost → reaction.key.targetID ∈ s.posts.docs.map CommunityPost.id) ∧
        (reaction.key.targetType = targetTypeComment →
          reaction.key.targetID ∈ s.comments.docs.map CommunityComment.id))
    (hpostReactions : Counted CommunityPost.id CommunityPost.reactionCount (CommunityReaction.targets targetTypePost)
      s'.posts.docs s'.reactions.docs)
    (hcommentReactions : Counted CommunityComment.id CommunityComment.reactionCount
      (CommunityReaction.targets targetTypeComment) s'.comments.docs s'.reactions.docs) : s'.Kept := by
  obtain ⟨hwf, hexact⟩ := h
  have hposts : s'.posts.docs.map CommunityPost.id = s.posts.docs.map CommunityPost.id := by
    rw [hposts', map_id_changed_posts]
  have hcomments : s'.comments.docs.map CommunityComment.id = s.comments.docs.map CommunityComment.id := by
    rw [hcomments', map_id_changed_comments]
  constructor
  · refine ⟨fun comment hc => ?_, fun comment hc => ?_, fun reaction hr => ?_, fun reaction hr => ?_⟩
    · rw [hcomments'] at hc
      obtain ⟨comment, hcomment, rfl⟩ := List.mem_map.mp hc
      rw [id_changed]
      exact hwf.commentID comment hcomment
    · rw [hcomments'] at hc
      obtain ⟨comment, hcomment, rfl⟩ := List.mem_map.mp hc
      rw [postID_changed, hposts]
      exact hwf.commentPost comment hcomment
    · rw [hposts]
      exact (htargets reaction hr).1
    · rw [hcomments]
      exact (htargets reaction hr).2
  · refine ⟨?_, ?_, ?_, ?_, hpostReactions, hcommentReactions, ?_⟩
    · rw [htopics', hposts']
      exact hexact.threads.map_children fun post id => by rw [topicID_changed]
    · rw [htopics', hfollows']
      exact hexact.followers
    · rw [hposts', hcomments']
      refine Counted.map_parents ?_ (changed_eq fun _ => rfl) (changed_eq fun _ => rfl)
      exact hexact.comments.map_children fun comment id => by rw [postID_changed]
    · rw [hcomments']
      refine Counted.map_parents ?_ (changed_eq fun _ => rfl) (changed_eq fun _ => rfl)
      exact hexact.replies.map_children fun reply id => by rw [parentID_changed]
    · rw [hcomments']
      exact hexact.parents.map_changed _ _

lemma Store.Kept.insertReaction {row : CommunityReaction} {now : Time}
    (htarget : (row.key.targetType = targetTypePost → row.key.targetID ∈ s.posts.docs.map CommunityPost.id) ∧
      (row.key.targetType = targetTypeComment → row.key.targetID ∈ s.comments.docs.map CommunityComment.id))
    (hposts' : s'.posts.docs = s.posts.docs.map (changed (fun post => row.targets targetTypePost post.id)
      (PostChange.apply · (.reactions 1 now))))
    (hcomments' : s'.comments.docs = s.comments.docs.map (changed
      (fun comment => row.targets targetTypeComment comment.id) (CommentChange.apply · (.reactions 1 now))))
    (hreactions' : s'.reactions.docs = s.reactions.docs ++ [row])
    (htopics' : s'.topics = s.topics) (hfollows' : s'.follows = s.follows) : s'.Kept := by
  have hposts := h.exact.postReactions
  have hcomments := h.exact.commentReactions
  refine h.reactions hposts' hcomments' htopics' hfollows' (fun reaction hr => ?_) ?_ ?_
  · rw [hreactions'] at hr
    rcases List.mem_append.mp hr with hr | hr
    · exact ⟨h.wellFormed.postTarget reaction hr, h.wellFormed.commentTarget reaction hr⟩
    · rw [List.mem_singleton.mp hr]
      exact htarget
  · rw [hposts', hreactions']
    refine hposts.append_child (fun _ => rfl) (fun post hp => ?_) (fun _ _ => rfl)
    have := hposts post hp
    simp only [PostChange.apply]
    omega
  · rw [hcomments', hreactions']
    refine hcomments.append_child (fun _ => rfl) (fun comment hc => ?_) (fun _ _ => rfl)
    have := hcomments comment hc
    simp only [CommentChange.apply]
    omega

lemma Store.Kept.deleteReaction {row existing : CommunityReaction} {now : Time} (hrow : row ∈ s.reactions.docs)
    (hid : row.id = existing.id)
    (hposts' : s'.posts.docs = s.posts.docs.map (changed (fun post => row.targets targetTypePost post.id)
      (PostChange.apply · (.reactions (-1) now))))
    (hcomments' : s'.comments.docs = s.comments.docs.map (changed
      (fun comment => row.targets targetTypeComment comment.id) (CommentChange.apply · (.reactions (-1) now))))
    (hreactions' : s'.reactions = s.reactions.deleteMany (fun row => row.id = existing.id))
    (htopics' : s'.topics = s.topics) (hfollows' : s'.follows = s.follows) : s'.Kept := by
  have hfilter : s.reactions.docs.filter (fun row => row.id = existing.id) = [row] := by
    rw [← hid]
    exact filter_key_eq s.reactions.nodup hrow
  refine h.reactions hposts' hcomments' htopics' hfollows' (fun reaction hr => ?_) ?_ ?_
  · rw [hreactions'] at hr
    have hmem := (List.mem_filter.mp hr).1
    exact ⟨h.wellFormed.postTarget reaction hmem, h.wellFormed.commentTarget reaction hmem⟩
  · rw [hposts', hreactions']
    exact h.exact.postReactions.filter_child (fun _ => rfl) (fun _ _ => rfl) hfilter (fun _ _ => rfl)
  · rw [hcomments', hreactions']
    exact h.exact.commentReactions.filter_child (fun _ => rfl) (fun _ _ => rfl) hfilter (fun _ _ => rfl)

lemma Store.Kept.updateReaction {existing : CommunityReaction} {reaction : String} {now : Time}
    (hs' : s' = s.apply (.updateReaction existing reaction now)) : s'.Kept := by
  obtain ⟨hwf, hexact⟩ := h
  have hreactions' : s'.reactions.docs = s.reactions.docs.map
      (changed (fun row => row.id = existing.id) (fun row => { row with reaction := reaction, updatedAt := now })) := by
    rw [hs']
    rfl
  have hkey : ∀ row : CommunityReaction, (changed (fun row => row.id = existing.id)
      (fun row => { row with reaction := reaction, updatedAt := now }) row).key = row.key :=
    changed_eq fun _ => rfl
  have htargets : ∀ (targetType : String) (row : CommunityReaction) (id : String),
      (changed (fun row => row.id = existing.id) (fun row => { row with reaction := reaction, updatedAt := now })
        row).targets targetType id = row.targets targetType id := by
    intro targetType row id
    unfold CommunityReaction.targets
    rw [hkey]
  have hmem : ∀ row' ∈ s'.reactions.docs, ∃ row ∈ s.reactions.docs, row'.key = row.key := by
    rw [hreactions']
    intro row' hr
    obtain ⟨row, hrow, rfl⟩ := List.mem_map.mp hr
    exact ⟨row, hrow, hkey row⟩
  constructor
  · refine ⟨?_, ?_, fun row' hr => ?_, fun row' hr => ?_⟩
    · rw [hs']
      exact hwf.commentID
    · rw [hs']
      exact hwf.commentPost
    · obtain ⟨row, hrow, hrowkey⟩ := hmem row' hr
      rw [hs', hrowkey]
      exact hwf.postTarget row hrow
    · obtain ⟨row, hrow, hrowkey⟩ := hmem row' hr
      rw [hs', hrowkey]
      exact hwf.commentTarget row hrow
  · refine ⟨?_, ?_, ?_, ?_, ?_, ?_, ?_⟩
    · rw [hs']
      exact hexact.threads
    · rw [hs']
      exact hexact.followers
    · rw [hs']
      exact hexact.comments
    · rw [hs']
      exact hexact.replies
    · rw [hreactions', hs']
      exact hexact.postReactions.map_children (htargets _)
    · rw [hreactions', hs']
      exact hexact.commentReactions.map_children (htargets _)
    · rw [hs']
      exact hexact.parents

/-- A transaction on follows moves the follower counters alone. -/
lemma Store.Kept.follows {topics : Collection CommunityTopic.id} {follows : Collection CommunityFollow.key}
    (hs' : s' = { s with topics := topics, follows := follows })
    (hthreads : Counted CommunityTopic.id CommunityTopic.threadCount (fun post id => post.topicID = id) topics.docs
      s.posts.docs)
    (hfollowers : Counted CommunityTopic.id CommunityTopic.followerCount CommunityFollow.follows topics.docs
      follows.docs) : s'.Kept := by
  obtain ⟨hwf, hexact⟩ := h
  subst hs'
  exact ⟨⟨hwf.commentID, hwf.commentPost, hwf.postTarget, hwf.commentTarget⟩,
    ⟨hthreads, hfollowers, hexact.comments, hexact.replies, hexact.postReactions, hexact.commentReactions,
      hexact.parents⟩⟩

lemma Store.Kept.insertFollow {row : CommunityFollow} (hfree : s.follows.lookup row.key = none)
    (htype : row.key.targetType = targetTypeTopic)
    (hundeleted : ∀ topic ∈ s.topics.docs, topic.id = row.key.targetID → topic.deletedAt = none) :
    ((s.apply (.insertFollow row)).apply (.updateTopic none row.key.targetID .newFollower)).Kept := by
  have hdocs : (s.apply (.insertFollow row)).follows.docs = s.follows.docs ++ [row] :=
    Collection.docs_getD_insertOne hfree
  refine h.follows rfl ?_ ?_
  · exact h.exact.threads.map_parents (changed_eq fun _ => rfl) (changed_eq fun _ => rfl)
  · rw [hdocs]
    refine h.exact.followers.append_child (fun _ => rfl) (fun _ _ => rfl) fun topic ht => ?_
    simpa [CommunityFollow.follows, htype] using topicSelected_eq hundeleted topic ht

lemma Store.Kept.insertFollow_user {row : CommunityFollow} (hfree : s.follows.lookup row.key = none)
    (htype : row.key.targetType ≠ targetTypeTopic) : (s.apply (.insertFollow row)).Kept := by
  refine h.follows rfl h.exact.threads ?_
  rw [Collection.docs_getD_insertOne hfree]
  refine h.exact.followers.append_unrelated fun topic _ => ?_
  simp [CommunityFollow.follows, htype]

lemma Store.Kept.deleteFollow {key : TargetKey} {row : CommunityFollow} (hrow : row ∈ s.follows.docs)
    (hkey : row.key = key) (htype : key.targetType = targetTypeTopic)
    (hundeleted : ∀ topic ∈ s.topics.docs, topic.id = key.targetID → topic.deletedAt = none) :
    ((s.apply (.deleteFollow key)).apply (.updateTopic none key.targetID .lostFollower)).Kept := by
  subst hkey
  refine h.follows rfl ?_ ?_
  · exact h.exact.threads.map_parents (changed_eq fun _ => rfl) (changed_eq fun _ => rfl)
  · refine h.exact.followers.filter_child (fun _ => rfl) (fun _ _ => rfl) (filter_key_eq s.follows.nodup hrow)
      fun topic ht => ?_
    simpa [CommunityFollow.follows, htype] using topicSelected_eq hundeleted topic ht

lemma Store.Kept.deleteFollow_user {key : TargetKey} (htype : key.targetType ≠ targetTypeTopic) :
    (s.apply (.deleteFollow key)).Kept := by
  refine h.follows rfl h.exact.threads (h.exact.followers.filter_unrelated fun row _ hq topic _ => ?_)
  rw [decide_eq_true_eq] at hq
  simp [CommunityFollow.follows, hq, htype]

end Commits

/-! ## What a transaction relies on -/

/-- The row of a lock is as it was. -/
def Lock.Untouched (s s' : Store) : Lock → Prop
  | .topic id => s'.topics.lookup id = s.topics.lookup id
  | .post id => s'.posts.lookup id = s.posts.lookup id
  | .media _ => True
  | .comment id => s'.comments.lookup id = s.comments.lookup id
  | .reaction id => s'.reactions.lookup id = s.reactions.lookup id
  | .reactionKey _ => True
  | .follow key => s'.follows.lookup key = s.follows.lookup key

/-- What no update changes of a topic. -/
def CommunityTopic.place (topic : CommunityTopic) : String × Option Time := (topic.tenantID, topic.deletedAt)

def CommunityPost.place (post : CommunityPost) : String × Option Time := (post.tenantID, post.deletedAt)

def CommunityComment.place (comment : CommunityComment) : String × String × Option Time :=
  (comment.tenantID, comment.postID, comment.deletedAt)

/-- Topics, posts and comments stay where they are, none is deleted, and nobody else touches
a locked row. -/
structure Frame (locks : List Lock) (s s' : Store) : Prop where
  topics : ∀ id, (s'.topics.lookup id).map CommunityTopic.place = (s.topics.lookup id).map CommunityTopic.place
  posts : ∀ id post, s.posts.lookup id = some post → ∃ post', s'.posts.lookup id = some post' ∧
    post'.place = post.place
  comments : ∀ id comment, s.comments.lookup id = some comment → ∃ comment', s'.comments.lookup id = some comment' ∧
    comment'.place = comment.place
  locked : ∀ lock ∈ locks, lock.Untouched s s'

lemma Frame.refl (locks : List Lock) (s : Store) : Frame locks s s := by
  refine ⟨fun _ => rfl, fun _ post h => ⟨post, h, rfl⟩, fun _ comment h => ⟨comment, h, rfl⟩, fun lock _ => ?_⟩
  cases lock <;> trivial

lemma Lock.Untouched.trans {s₁ s₂ s₃ : Store} {lock : Lock} (h₁ : lock.Untouched s₁ s₂) (h₂ : lock.Untouched s₂ s₃) :
    lock.Untouched s₁ s₃ := by
  cases lock <;> first | exact Eq.trans h₂ h₁ | trivial

lemma Frame.trans {locks : List Lock} {s₁ s₂ s₃ : Store} (h₁ : Frame locks s₁ s₂) (h₂ : Frame locks s₂ s₃) :
    Frame locks s₁ s₃ := by
  refine ⟨fun id => (h₂.topics id).trans (h₁.topics id), fun id post hp => ?_, fun id comment hc => ?_,
    fun lock hl => (h₁.locked lock hl).trans (h₂.locked lock hl)⟩
  · obtain ⟨post', hp', hplace⟩ := h₁.posts id post hp
    obtain ⟨post'', hp'', hplace'⟩ := h₂.posts id post' hp'
    exact ⟨post'', hp'', hplace'.trans hplace⟩
  · obtain ⟨comment', hc', hplace⟩ := h₁.comments id comment hc
    obtain ⟨comment'', hc'', hplace'⟩ := h₂.comments id comment' hc'
    exact ⟨comment'', hc'', hplace'.trans hplace⟩

lemma apply_topics (s : Store) (w : Write) (id : String) :
    ((s.apply w).topics.lookup id).map CommunityTopic.place = (s.topics.lookup id).map CommunityTopic.place := by
  cases w with
  | updateTopic tenantID topicID change =>
    rw [Store.apply, Collection.lookup_updateMany, Option.map_map]
    refine congrFun (congrArg _ (funext fun topic => ?_)) _
    exact changed_eq (p := topicSelected tenantID topicID) (f := (TopicChange.apply · change))
      (g := CommunityTopic.place) (fun _ => by cases change <;> rfl) topic
  | _ => rfl

lemma apply_posts {s : Store} (w : Write) {id : String} {post : CommunityPost} (h : s.posts.lookup id = some post) :
    ∃ post', (s.apply w).posts.lookup id = some post' ∧ post'.place = post.place := by
  cases w with
  | insertPost row => exact ⟨post, Collection.lookup_getD_insertOne h row, rfl⟩
  | updatePost tenantID postID change =>
    refine ⟨_, ?_, changed_eq (p := postSelected tenantID postID) (f := (PostChange.apply · change))
      (g := CommunityPost.place) (fun _ => by cases change <;> rfl) post⟩
    rw [Store.apply, Collection.lookup_updateMany, h]
    rfl
  | _ => exact ⟨post, h, rfl⟩

lemma apply_comments {s : Store} (w : Write) {id : String} {comment : CommunityComment}
    (h : s.comments.lookup id = some comment) : ∃ comment', (s.apply w).comments.lookup id = some comment' ∧
      comment'.place = comment.place := by
  cases w with
  | insertComment row => exact ⟨comment, Collection.lookup_getD_insertOne h row, rfl⟩
  | updateComment tenantID commentID change =>
    refine ⟨_, ?_, changed_eq (p := commentSelected tenantID commentID) (f := (CommentChange.apply · change))
      (g := CommunityComment.place) (fun _ => by cases change <;> rfl) comment⟩
    rw [Store.apply, Collection.lookup_updateMany, h]
    rfl
  | _ => exact ⟨comment, h, rfl⟩

lemma selects_of_ne {tenantID : Option String} {id rowTenantID rowID : String} (h : id ≠ rowID) (undeleted : Bool) :
    (selects tenantID id rowTenantID rowID && undeleted) = false := by
  simp [selects, Ne.symm h]

lemma apply_untouched {s : Store} {w : Write} {lock : Lock} (h : lock ∉ w.locks) : lock.Untouched s (s.apply w) := by
  cases lock with
  | topic id =>
    cases w with
    | updateTopic tenantID topicID change =>
      refine Collection.lookup_updateMany_of_ne _ fun topic hid => selects_of_ne ?_ _
      rintro rfl
      exact h (by simp [Write.locks, hid])
    | _ => rfl
  | post id =>
    cases w with
    | insertPost row =>
      refine Collection.lookup_getD_insertOne_of_ne fun hid => h ?_
      simp [Write.locks, hid]
    | updatePost tenantID postID change =>
      refine Collection.lookup_updateMany_of_ne _ fun post hid => selects_of_ne ?_ _
      rintro rfl
      exact h (by simp [Write.locks, hid])
    | _ => rfl
  | media id => trivial
  | comment id =>
    cases w with
    | insertComment row =>
      refine Collection.lookup_getD_insertOne_of_ne fun hid => h ?_
      simp [Write.locks, hid]
    | updateComment tenantID commentID change =>
      refine Collection.lookup_updateMany_of_ne _ fun comment hid => selects_of_ne ?_ _
      rintro rfl
      exact h (by simp [Write.locks, hid])
    | _ => rfl
  | reaction id =>
    cases w with
    | insertReaction row =>
      refine Collection.lookup_getD_insertOne_of_ne fun hid => h ?_
      simp [Write.locks, hid]
    | updateReaction existing reaction now =>
      refine Collection.lookup_updateMany_of_ne _ fun row hid => decide_eq_false fun hrow => h ?_
      simp [Write.locks, ← hrow, hid]
    | deleteReaction existing =>
      refine Collection.lookup_deleteMany_of_ne fun row hid => decide_eq_false fun hrow => h ?_
      simp [Write.locks, ← hrow, hid]
    | _ => rfl
  | reactionKey key => trivial
  | follow key =>
    cases w with
    | insertFollow row =>
      refine Collection.lookup_getD_insertOne_of_ne fun hkey => h ?_
      simp [Write.locks, hkey]
    | deleteFollow key' =>
      refine Collection.lookup_deleteMany_of_ne fun row hkey => decide_eq_false fun hrow => h ?_
      simp [Write.locks, ← hrow, hkey]
    | _ => rfl

lemma frame_apply {locks : List Lock} {s : Store} {w : Write} (h : w.locks.Disjoint locks) :
    Frame locks s (s.apply w) where
  topics := apply_topics s w
  posts _ _ hp := apply_posts w hp
  comments _ _ hc := apply_comments w hc
  locked _ hlock := apply_untouched fun hw => h hw hlock

def counting : Discipline engine where
  Inv := Store.Kept
  Frame := Frame
  Meets := Statement.Presumes
  refl := Frame.refl
  trans := Frame.trans
  write := frame_apply

end ErgGo.Community
