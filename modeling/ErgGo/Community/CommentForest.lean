import ErgGo.Community.Repository
import ErgGo.Lib.Provenance
import Mathlib.Data.List.Flatten
import Mathlib.Data.List.Permutation

/-!
# The forest of comments

`nestComments` goes through the comments of a post once and copies each of them, with the replies it
has by then, into its parent. What is copied before its own replies are there stays without them.
-/

namespace ErgGo.Community
open Go

structure AuthorDTO where
  id : String := ""
  fullName : String := ""
  avatarURL : String := ""
  role : String := ""
  verified : Bool := false

structure ReactionSummaryDTO where
  like : ℤ := 0
  love : ℤ := 0
  care : ℤ := 0
  haha : ℤ := 0
  wow : ℤ := 0
  sad : ℤ := 0
  angry : ℤ := 0
  total : ℤ := 0

/-- A comment as it is shown, without its replies. -/
structure CommentFields where
  id : String := ""
  postID : String := ""
  parentID : String := ""
  rootID : String := ""
  author : AuthorDTO := {}
  content : String := ""
  depth : ℤ := 0
  replyCount : ℤ := 0
  reactionCount : ℤ := 0
  viewerReaction : String := ""
  reactions : ReactionSummaryDTO := {}
  createdAt : Time := 0
  updatedAt : Time := 0

inductive CommentDTO where
  | mk (fields : CommentFields) (replies : List CommentDTO)

namespace CommentDTO

def fields : CommentDTO → CommentFields
  | mk fields _ => fields

def replies : CommentDTO → List CommentDTO
  | mk _ replies => replies

/-- `parent.Replies = append(parent.Replies, dto)`. -/
def addReply (parent dto : CommentDTO) : CommentDTO := mk parent.fields (parent.replies ++ [dto])

end CommentDTO

/-- What the database answers while the comments are shown. -/
structure CommentReads where
  authors : List String → Except CommunityError (GoMap AuthorDTO)
  reactionSummary : String → Except CommunityError ReactionSummaryDTO
  viewerReactions : List String → Except CommunityError (GoMap String)

def commentToDTO (reads : CommentReads) (row : CommunityComment) : Except CommunityError CommentFields := do
  let authors ← reads.authors [row.authorID]
  let reactions ← reads.reactionSummary row.id
  let viewer ← reads.viewerReactions [row.id]
  return {
    id := row.id
    postID := row.postID
    parentID := row.parentID
    rootID := row.rootID
    author := (authors.lookup row.authorID).getD {}
    content := row.content
    depth := row.depth
    replyCount := row.replyCount
    reactionCount := row.reactionCount
    viewerReaction := (viewer.lookup row.id).getD ""
    reactions := reactions
    createdAt := row.createdAt
    updatedAt := row.updatedAt }

/-- A comment of the map, or the zero value. -/
def entry (flat : GoMap CommentDTO) (id : String) : CommentDTO := (flat.lookup id).getD (.mk {} [])

/-- The second loop: a reply is appended to its parent. -/
def attach (flat : GoMap CommentDTO) (id : String) : GoMap CommentDTO :=
  let dto := entry flat id
  if dto.fields.parentID = "" then flat
  else flat.insert dto.fields.parentID ((entry flat dto.fields.parentID).addReply dto)

def nestComments (reads : CommentReads) (rows : List CommunityComment) : Except CommunityError (List CommentDTO) := do
  let flat ← rows.foldlM (fun (flat : GoMap CommentDTO) row => do
    let dto ← commentToDTO reads row
    return flat.insert row.id (.mk dto [])) ∅
  let order := rows.map (·.id)
  let flat := order.foldl attach flat
  return (order.map (entry flat)).filter (·.fields.parentID = "")

/-! ## What the forest must be -/

/-- A comment of the forest, so far below a root. -/
inductive InForest (forest : List CommentDTO) : CommentDTO → ℕ → Prop
  | root {node : CommentDTO} (h : node ∈ forest) : InForest forest node 0
  | reply {parent node : CommentDTO} {depth : ℕ} (hparent : InForest forest parent depth) (h : node ∈ parent.replies) :
    InForest forest node (depth + 1)

mutual

/-- A comment and all below it. -/
def CommentDTO.all : CommentDTO → List CommentFields
  | .mk fields replies => fields :: allOf replies

def allOf : List CommentDTO → List CommentFields
  | [] => []
  | node :: forest => node.all ++ allOf forest

end

/-- The replies to a comment, in the order in which they were fetched. -/
def repliesTo (id : String) (comments : List CommentFields) : List CommentFields :=
  comments.filter (·.parentID = id)

/-- Each comment is there once, under its parent if it has one, at its depth, among its siblings in
the order in which they were fetched. -/
structure Nests (comments : List CommentFields) (forest : List CommentDTO) : Prop where
  once : (allOf forest).Perm comments
  roots : forest.map CommentDTO.fields = repliesTo "" comments
  replies : ∀ node depth, InForest forest node depth →
    node.replies.map CommentDTO.fields = repliesTo node.fields.id comments
  depth : ∀ node depth, InForest forest node depth → node.fields.depth = depth

/-- Where a comment stands, as it is stored. -/
structure Placement where
  id : String
  parentID : String
  depth : ℤ

def CommunityComment.placement (row : CommunityComment) : Placement := ⟨row.id, row.parentID, row.depth⟩

def CommentFields.placement (comment : CommentFields) : Placement := ⟨comment.id, comment.parentID, comment.depth⟩

/-- The comments of a post as they are fetched: each parent is among them and one less deep. -/
structure Fetched (places : List Placement) : Prop where
  ids : (places.map (·.id)).Nodup
  named : ∀ place ∈ places, place.id ≠ ""
  rootDepth : ∀ place ∈ places, place.parentID = "" → place.depth = 0
  parents : ∀ place ∈ places, place.parentID ≠ "" →
    ∃ parent ∈ places, parent.id = place.parentID ∧ place.depth = parent.depth + 1
  shallow : ∀ place ∈ places, 0 ≤ place.depth ∧ place.depth ≤ 2

/-- No comment that is a reply itself is fetched before a reply to it. -/
def RepliesFirst (places : List Placement) : Prop :=
  places.Pairwise fun earlier later => earlier.parentID ≠ "" → later.parentID ≠ earlier.id

/-! ## The two loops -/

/-- The replies that a comment has once the comments of `past` were appended, the last one first: each
is the copy that it was then. -/
def repliesIn : List CommentFields → String → List CommentDTO
  | [], _ => []
  | dto :: past, id => repliesIn past id ++ if dto.parentID = id then [.mk dto (repliesIn past dto.id)] else []

section Loops

variable {reads : CommentReads} {rows : List CommunityComment} {comments : List CommentFields}

lemma placement_commentToDTO {row : CommunityComment} {dto : CommentFields} (h : commentToDTO reads row = .ok dto) :
    dto.placement = row.placement := by
  unfold commentToDTO at h
  cases hauthors : reads.authors [row.authorID] with
  | error e => simp [hauthors, Bind.bind, Except.bind] at h
  | ok authors =>
    cases hreactions : reads.reactionSummary row.id with
    | error e => simp [hauthors, hreactions, Bind.bind, Except.bind] at h
    | ok reactions =>
      cases hviewer : reads.viewerReactions [row.id] with
      | error e => simp [hauthors, hreactions, hviewer, Bind.bind, Except.bind] at h
      | ok viewer =>
        simp only [hauthors, hreactions, hviewer, Bind.bind, Except.bind, Pure.pure, Except.pure,
          Except.ok.injEq] at h
        subst h
        rfl

/-- The first loop puts every comment into the map. -/
lemma firstLoop (hdtos : rows.mapM (commentToDTO reads) = .ok comments) (flat : GoMap CommentDTO) :
    comments.map (·.placement) = rows.map (·.placement) ∧
    rows.foldlM (fun (flat : GoMap CommentDTO) row => do
      let dto ← commentToDTO reads row
      return flat.insert row.id (.mk dto [])) flat =
        .ok (comments.foldl (fun flat dto => flat.insert dto.id (.mk dto [])) flat) := by
  induction rows generalizing comments flat with
  | nil =>
    cases hdtos
    exact ⟨rfl, rfl⟩
  | cons row rows ih =>
    rw [List.mapM_cons] at hdtos
    cases hdto : commentToDTO reads row with
    | error e => simp [hdto, Bind.bind, Except.bind] at hdtos
    | ok dto =>
      cases hrest : rows.mapM (commentToDTO reads) with
      | error e => simp [hdto, hrest, Bind.bind, Except.bind] at hdtos
      | ok rest =>
        simp only [hdto, hrest, Bind.bind, Except.bind, Pure.pure, Except.pure, Except.ok.injEq] at hdtos
        subst hdtos
        have hplacement := placement_commentToDTO hdto
        have hid : dto.id = row.id := congrArg Placement.id hplacement
        obtain ⟨hplacements, hfold⟩ := ih hrest (flat.insert row.id (.mk dto []))
        refine ⟨by rw [List.map_cons, List.map_cons, hplacement, hplacements], ?_⟩
        rw [List.foldlM_cons, List.foldl_cons, hdto, hid]
        exact hfold

lemma entry_insert (flat : GoMap CommentDTO) (id : String) (dto : CommentDTO) : entry (flat.insert id dto) id = dto := by
  rw [entry, AList.lookup_insert]
  rfl

lemma entry_insert_ne {flat : GoMap CommentDTO} {id id' : String} {dto : CommentDTO} (h : id' ≠ id) :
    entry (flat.insert id dto) id' = entry flat id' := by
  rw [entry, entry, AList.lookup_insert_ne h]

lemma entry_firstLoop (hids : (comments.map (·.id)).Nodup) (flat : GoMap CommentDTO) :
    ∀ c ∈ comments, entry (comments.foldl (fun flat dto => flat.insert dto.id (.mk dto [])) flat) c.id = .mk c [] := by
  have hkept : ∀ (comments : List CommentFields) (flat : GoMap CommentDTO) (id : String), id ∉ comments.map (·.id) →
      entry (comments.foldl (fun flat dto => flat.insert dto.id (.mk dto [])) flat) id = entry flat id := by
    intro comments
    induction comments with
    | nil => exact fun _ _ _ => rfl
    | cons c comments ih =>
      intro flat id hid
      rw [List.map_cons, List.mem_cons, not_or] at hid
      rw [List.foldl_cons, ih _ _ hid.2, entry_insert_ne hid.1]
  induction comments generalizing flat with
  | nil => exact fun _ hc => absurd hc List.not_mem_nil
  | cons c comments ih =>
    obtain ⟨hnew, hids⟩ := List.nodup_cons.mp hids
    intro c' hc'
    obtain rfl | hc' := List.mem_cons.mp hc'
    · rw [List.foldl_cons, hkept _ _ _ hnew, entry_insert]
    · exact ih hids _ c' hc'

/-- Each comment of the map has the replies of those that were appended. -/
def Attached (comments past : List CommentFields) (flat : GoMap CommentDTO) : Prop :=
  ∀ c ∈ comments, entry flat c.id = .mk c (repliesIn past c.id)

lemma Attached.attach (hfetched : Fetched (comments.map (·.placement))) {past : List CommentFields}
    {flat : GoMap CommentDTO} (h : Attached comments past flat) {dto : CommentFields} (hdto : dto ∈ comments) :
    Attached comments (dto :: past) (attach flat dto.id) := by
  have hplace : ∀ {c}, c ∈ comments → c.placement ∈ comments.map (·.placement) := fun hc => List.mem_map_of_mem hc
  have hattach : Community.attach flat dto.id = if dto.parentID = "" then flat
      else flat.insert dto.parentID ((entry flat dto.parentID).addReply (.mk dto (repliesIn past dto.id))) := by
    unfold Community.attach
    rw [h dto hdto]
    rfl
  intro c hc
  rw [hattach]
  by_cases hroot : dto.parentID = ""
  · have hother : dto.parentID ≠ c.id := fun hid => hfetched.named _ (hplace hc) (hid.symm.trans hroot)
    rw [if_pos hroot, repliesIn, if_neg hother, List.append_nil]
    exact h c hc
  · obtain ⟨place, hmem, hid, -⟩ := hfetched.parents _ (hplace hdto) hroot
    obtain ⟨parent, hparent, rfl⟩ := List.mem_map.mp hmem
    change parent.id = dto.parentID at hid
    rw [if_neg hroot, ← hid, h parent hparent]
    by_cases hsame : c.id = parent.id
    · have hids := hfetched.ids
      rw [List.map_map] at hids
      obtain rfl := List.inj_on_of_nodup_map hids hc hparent hsame
      rw [entry_insert, repliesIn, if_pos hid.symm]
      rfl
    · rw [entry_insert_ne hsame, repliesIn, if_neg (fun h => hsame (h.symm.trans hid.symm)), List.append_nil]
      exact h c hc

/-- The second loop over the comments that are left. -/
lemma Attached.foldl (hfetched : Fetched (comments.map (·.placement))) {past left : List CommentFields}
    {flat : GoMap CommentDTO} (h : Attached comments past flat) (hleft : left ⊆ comments) :
    Attached comments (left.reverse ++ past) ((left.map (·.id)).foldl Community.attach flat) := by
  induction left generalizing past flat with
  | nil => exact h
  | cons dto left ih =>
    have hstep := h.attach hfetched (hleft List.mem_cons_self)
    rw [List.reverse_cons, List.append_assoc]
    exact ih hstep fun c hc => hleft (List.mem_cons_of_mem _ hc)

/-- The forest that the loops build of the comments. -/
def forestOf (comments : List CommentFields) : List CommentDTO :=
  (repliesTo "" comments).map fun c => .mk c (repliesIn comments.reverse c.id)

lemma nestComments_eq (hfetched : Fetched (rows.map (·.placement))) (hdtos : rows.mapM (commentToDTO reads) = .ok comments) :
    nestComments reads rows = .ok (forestOf comments) := by
  obtain ⟨hplacements, hfirst⟩ := firstLoop hdtos ∅
  have hids := hfetched.ids
  rw [← hplacements, List.map_map] at hids
  have hstart : Attached comments [] _ := entry_firstLoop hids ∅
  have hend := hstart.foldl (hplacements ▸ hfetched) (fun _ hc => hc)
  rw [List.append_nil] at hend
  have horder : rows.map (·.id) = comments.map (·.id) := by
    have hmap := congrArg (List.map Placement.id) hplacements
    rw [List.map_map, List.map_map] at hmap
    exact hmap.symm
  unfold nestComments
  rw [hfirst]
  simp only [Bind.bind, Except.bind, Pure.pure, Except.pure, horder, List.map_map]
  refine congrArg Except.ok ?_
  have hentries : comments.map (entry ((comments.map (·.id)).foldl Community.attach
      (comments.foldl (fun flat dto => flat.insert dto.id (.mk dto [])) ∅)) ∘ fun c => c.id) =
        comments.map fun c => .mk c (repliesIn comments.reverse c.id) := List.map_congr_left hend
  rw [hentries, List.filter_map]
  rfl

end Loops

/-! ## What the loops build -/

section Forest

variable {comments past : List CommentFields} {id : String} {node : CommentDTO}

lemma repliesTo_append (l l' : List CommentFields) : repliesTo id (l ++ l') = repliesTo id l ++ repliesTo id l' :=
  List.filter_append ..

lemma mem_repliesTo {c : CommentFields} : c ∈ repliesTo id comments ↔ c ∈ comments ∧ c.parentID = id := by
  rw [repliesTo, List.mem_filter, decide_eq_true_eq]

lemma fields_repliesIn : ((repliesIn past id).map CommentDTO.fields) = repliesTo id past.reverse := by
  induction past with
  | nil => rfl
  | cons dto past ih =>
    rw [repliesIn, List.map_append, ih, List.reverse_cons, repliesTo_append]
    refine congrArg _ ?_
    unfold repliesTo
    by_cases hid : dto.parentID = id
    · rw [if_pos hid, List.filter_cons_of_pos (by simpa using hid)]
      rfl
    · rw [if_neg hid, List.filter_cons_of_neg (by simpa using hid)]
      rfl

/-- A reply is a copy of a comment, with the replies that stood before it. -/
lemma mem_repliesIn (h : node ∈ repliesIn past.reverse id) : ∃ before dto after, past = before ++ dto :: after ∧
    dto.parentID = id ∧ node = .mk dto (repliesIn before.reverse dto.id) := by
  induction past using List.reverseRecOn with
  | nil => cases h
  | append_singleton past last ih =>
    rw [List.reverse_concat, repliesIn] at h
    obtain h | h := List.mem_append.mp h
    · obtain ⟨before, dto, after, rfl, hparent, hnode⟩ := ih h
      exact ⟨before, dto, after ++ [last], by rw [List.append_assoc, List.cons_append], hparent, hnode⟩
    · split at h
      · rename_i hparent
        exact ⟨past, last, [], rfl, hparent, List.mem_singleton.mp h⟩
      · cases h

lemma mem_repliesIn_split (before after : List CommentFields) {dto : CommentFields} (hparent : dto.parentID = id) :
    .mk dto (repliesIn before.reverse dto.id) ∈ repliesIn (before ++ dto :: after).reverse id := by
  induction after using List.reverseRecOn with
  | nil =>
    rw [List.reverse_concat, repliesIn, if_pos hparent]
    exact List.mem_append_right _ List.mem_cons_self
  | append_singleton after last ih =>
    rw [← List.cons_append, ← List.append_assoc, List.reverse_concat, repliesIn]
    exact List.mem_append_left _ ih

variable (hfetched : Fetched (comments.map (·.placement)))

include hfetched

lemma comment_ids : (comments.map (·.id)).Nodup := by
  have hids := hfetched.ids
  rwa [List.map_map] at hids

/-- The parent of a reply. -/
lemma parent_of_reply {c : CommentFields} (hc : c ∈ comments) (hreply : c.parentID ≠ "") :
    ∃ parent ∈ comments, parent.id = c.parentID ∧ c.depth = parent.depth + 1 := by
  obtain ⟨place, hmem, hid, hdepth⟩ := hfetched.parents _ (List.mem_map_of_mem hc) hreply
  obtain ⟨parent, hparent, rfl⟩ := List.mem_map.mp hmem
  exact ⟨parent, hparent, hid, hdepth⟩

lemma depth_of_reply {c d : CommentFields} (hc : c ∈ comments) (hd : d ∈ comments) (h : d.parentID = c.id) :
    d.depth = c.depth + 1 := by
  have hnamed : c.id ≠ "" := hfetched.named _ (List.mem_map_of_mem hc)
  obtain ⟨parent, hparent, hid, hdepth⟩ := parent_of_reply hfetched hd (h.trans_ne hnamed)
  rw [List.inj_on_of_nodup_map (comment_ids hfetched) hparent hc (hid.trans h)] at hdepth
  exact hdepth

lemma depth_bounds {c : CommentFields} (hc : c ∈ comments) : 0 ≤ c.depth ∧ c.depth ≤ 2 :=
  hfetched.shallow _ (List.mem_map_of_mem hc)

lemma root_iff {c : CommentFields} (hc : c ∈ comments) : c.parentID = "" ↔ c.depth = 0 := by
  constructor
  · exact hfetched.rootDepth _ (List.mem_map_of_mem hc)
  · intro hdepth
    by_contra hreply
    obtain ⟨parent, hparent, -, hbelow⟩ := parent_of_reply hfetched hc hreply
    have hbounds := depth_bounds hfetched hparent
    omega

/-- A reply to a root shows all its replies only if they were fetched before it. -/
lemma repliesFirst_of_nests (h : Nests comments (forestOf comments)) : RepliesFirst (comments.map (·.placement)) := by
  have hsplits : ∀ before dto after, comments = before ++ dto :: after → ∀ reply ∈ after, dto.parentID ≠ "" →
      reply.parentID ≠ dto.id := by
    intro before dto after hcomments reply hreply hbelow hto
    have hdto : dto ∈ comments := hcomments ▸ List.mem_append_right _ List.mem_cons_self
    have hmem : reply ∈ comments := hcomments ▸ List.mem_append_right _ (List.mem_cons_of_mem _ hreply)
    obtain ⟨root, hroot, hid, hdepth⟩ := parent_of_reply hfetched hdto hbelow
    have hreplyDepth := depth_of_reply hfetched hdto hmem hto
    have hbounds := depth_bounds hfetched hmem
    have hrootBounds := depth_bounds hfetched hroot
    have htop : root.parentID = "" := (root_iff hfetched hroot).mpr (by omega)
    -- the copy of the comment under its parent
    have hshown : InForest (forestOf comments) (.mk root (repliesIn comments.reverse root.id)) 0 :=
      .root (List.mem_map_of_mem (mem_repliesTo.mpr ⟨hroot, htop⟩))
    have hcopy := mem_repliesIn_split before after hid.symm
    rw [← hcomments] at hcopy
    have hall := h.replies _ _ (.reply hshown hcopy)
    change (repliesIn before.reverse dto.id).map CommentDTO.fields = repliesTo dto.id comments at hall
    rw [fields_repliesIn, List.reverse_reverse] at hall
    have hbefore : reply ∈ before := (mem_repliesTo.mp (hall ▸ mem_repliesTo.mpr ⟨hmem, hto⟩)).1
    have hids := comment_ids hfetched
    rw [hcomments, List.map_append] at hids
    exact (List.nodup_append.mp hids).2.2 _ (List.mem_map_of_mem hbefore) _
      (List.mem_map_of_mem (List.mem_cons_of_mem _ hreply)) rfl
  unfold RepliesFirst
  rw [List.pairwise_map]
  exact Concurrent.pairwise_of_splits fun before dto _ reply _ hcomments =>
    hsplits before dto _ hcomments reply (List.mem_append_right _ List.mem_cons_self)

/-- What a node of the forest shows: all the replies to its comment. -/
def Shown (comments : List CommentFields) (node : CommentDTO) (depth : ℕ) : Prop :=
  ∃ dto past left, comments = past ++ left ∧ dto ∈ comments ∧ node = .mk dto (repliesIn past.reverse dto.id) ∧
    dto.depth = depth ∧ repliesTo dto.id past = repliesTo dto.id comments

lemma shown_of_inForest (hfirst : RepliesFirst (comments.map (·.placement))) {depth : ℕ}
    (h : InForest (forestOf comments) node depth) : Shown comments node depth := by
  induction h with
  | root hnode =>
    obtain ⟨dto, hdto, rfl⟩ := List.mem_map.mp hnode
    obtain ⟨hdto, hroot⟩ := mem_repliesTo.mp hdto
    refine ⟨dto, comments, [], (List.append_nil _).symm, hdto, rfl, ?_, rfl⟩
    exact (root_iff hfetched hdto).mp hroot
  | reply _ hnode ih =>
    obtain ⟨dto, past, left, hcomments, hdto, rfl, hdepth, -⟩ := ih
    obtain ⟨before, reply, after, rfl, hparent, rfl⟩ := mem_repliesIn hnode
    rw [List.append_assoc, List.cons_append] at hcomments
    have hreply : reply ∈ comments := hcomments ▸ List.mem_append_right _ List.mem_cons_self
    have hbelow := depth_of_reply hfetched hdto hreply hparent
    refine ⟨reply, before, reply :: (after ++ left), hcomments, hreply, rfl, by push_cast; omega, ?_⟩
    -- the replies to it were all fetched before it
    have hnone : repliesTo reply.id (reply :: (after ++ left)) = [] := by
      refine List.filter_eq_nil_iff.mpr fun c hc hto => ?_
      rw [decide_eq_true_eq] at hto
      obtain rfl | hc := List.mem_cons.mp hc
      · have := depth_of_reply hfetched hreply hreply hto
        omega
      · have hnamed : dto.id ≠ "" := hfetched.named _ (List.mem_map_of_mem hdto)
        unfold RepliesFirst at hfirst
        rw [List.pairwise_map, hcomments] at hfirst
        exact List.rel_of_pairwise_cons (List.pairwise_append.mp hfirst).2.1 hc (hparent.trans_ne hnamed) hto
    rw [hcomments, repliesTo_append, hnone, List.append_nil]

/-- The replies to the comments of one depth are those of the next. -/
lemma flatMap_repliesTo (depth : ℤ) (hdepth : 0 ≤ depth) :
    ((comments.filter (·.depth = depth)).flatMap fun c => repliesTo c.id comments).Perm
      (comments.filter (·.depth = depth + 1)) := by
  have hids := comment_ids hfetched
  have hnodup : comments.Nodup := hids.of_map _
  refine (List.perm_ext_iff_of_nodup ?_ (hnodup.filter _)).mpr fun c => ?_
  · refine List.nodup_flatMap.mpr ⟨fun _ _ => hnodup.filter _, ?_⟩
    refine List.Pairwise.imp ?_ (List.pairwise_map.mp hids) |>.filter _
    intro c c' hne d hd hd'
    exact hne ((mem_repliesTo.mp hd).2.symm.trans (mem_repliesTo.mp hd').2)
  · simp only [List.mem_flatMap, List.mem_filter, decide_eq_true_eq, mem_repliesTo]
    constructor
    · rintro ⟨parent, ⟨hparent, rfl⟩, hc, hto⟩
      exact ⟨hc, depth_of_reply hfetched hparent hc hto⟩
    · rintro ⟨hc, hbelow⟩
      have hreply : c.parentID ≠ "" := by
        intro hroot
        have := (root_iff hfetched hc).mp hroot
        omega
      obtain ⟨parent, hparent, hid, habove⟩ := parent_of_reply hfetched hc hreply
      exact ⟨parent, ⟨hparent, by omega⟩, hc, hid.symm⟩

omit hfetched in
lemma allOf_append (forest forest' : List CommentDTO) : allOf (forest ++ forest') = allOf forest ++ allOf forest' := by
  induction forest with
  | nil => rfl
  | cons node forest ih => rw [List.cons_append, allOf, allOf, ih, List.append_assoc]

omit hfetched in
/-- The comments of a forest are its roots and the comments below them. -/
lemma allOf_perm (forest : List CommentDTO) :
    (allOf forest).Perm (forest.map CommentDTO.fields ++ allOf (forest.flatMap CommentDTO.replies)) := by
  induction forest with
  | nil => exact .refl _
  | cons node forest ih =>
    obtain ⟨fields, replies⟩ := node
    rw [allOf, CommentDTO.all, List.map_cons, List.flatMap_cons, allOf_append, List.cons_append, List.cons_append]
    refine .cons _ ((ih.append_left _).trans ?_)
    exact List.perm_append_comm_assoc ..

omit hfetched in
lemma filter_depth_perm (depth : ℤ) : (comments.filter (·.depth = depth) ++
    comments.filter (depth + 1 ≤ ·.depth)).Perm (comments.filter (depth ≤ ·.depth)) := by
  have hsplit := List.filter_append_perm (fun c : CommentFields => decide (c.depth = depth))
    (comments.filter (depth ≤ ·.depth))
  rw [List.filter_filter, List.filter_filter] at hsplit
  have heq : comments.filter (·.depth = depth) =
      comments.filter fun c => decide (c.depth = depth) && decide (depth ≤ c.depth) := by
    refine List.filter_congr fun c _ => ?_
    rw [← Bool.decide_and]
    exact decide_eq_decide.mpr (by omega)
  have hlt : comments.filter (depth + 1 ≤ ·.depth) =
      comments.filter fun c => !decide (c.depth = depth) && decide (depth ≤ c.depth) := by
    refine List.filter_congr fun c _ => ?_
    rw [← decide_not, ← Bool.decide_and]
    exact decide_eq_decide.mpr (by omega)
  rw [heq, hlt]
  exact hsplit

/-- A level of the forest and all below it: by the number of levels that are left. -/
lemma level_perm (hshown : ∀ {node depth}, InForest (forestOf comments) node depth → Shown comments node depth)
    (levels : ℕ) : ∀ (depth : ℕ) (forest : List CommentDTO), depth + levels = 3 →
      (∀ node ∈ forest, InForest (forestOf comments) node depth) →
      (forest.map CommentDTO.fields).Perm (comments.filter (·.depth = depth)) →
      (allOf forest).Perm (comments.filter (depth ≤ ·.depth)) := by
  induction levels with
  | zero =>
    intro depth forest hdepth _ hlevel
    have hnone : ∀ p : CommentFields → Bool, (∀ c, p c → 3 ≤ c.depth) → comments.filter p = [] := by
      refine fun p hp => List.filter_eq_nil_iff.mpr fun c hc h => ?_
      have hdeep := hp c h
      have hbounds := depth_bounds hfetched hc
      omega
    rw [hnone _ (fun c h => by rw [decide_eq_true_eq] at h; omega)] at hlevel
    rw [List.map_eq_nil_iff.mp hlevel.eq_nil, hnone _ (fun c h => by rw [decide_eq_true_eq] at h; omega)]
    exact .refl _
  | succ levels ih =>
    intro depth forest hdepth hforest hlevel
    have hbelow : ∀ node ∈ forest.flatMap CommentDTO.replies, InForest (forestOf comments) node (depth + 1) := by
      intro node hnode
      obtain ⟨parent, hparent, hnode⟩ := List.mem_flatMap.mp hnode
      exact .reply (hforest parent hparent) hnode
    have hreplies : (forest.flatMap CommentDTO.replies).map CommentDTO.fields =
        (forest.map CommentDTO.fields).flatMap fun c => repliesTo c.id comments := by
      rw [List.map_flatMap, List.flatMap_map]
      refine List.flatMap_congr fun node hnode => ?_
      obtain ⟨dto, past, left, -, -, rfl, -, hall⟩ := hshown (hforest node hnode)
      change (repliesIn past.reverse dto.id).map CommentDTO.fields = _
      rw [fields_repliesIn, List.reverse_reverse, hall]
      rfl
    have hnext := ih (depth + 1) _ (by omega) hbelow (by
      rw [hreplies]
      push_cast
      exact (hlevel.flatMap_right _).trans (flatMap_repliesTo hfetched _ (by omega)))
    push_cast at hnext
    exact (allOf_perm forest).trans ((hlevel.append hnext).trans (filter_depth_perm _))

lemma nests_of_repliesFirst (hfirst : RepliesFirst (comments.map (·.placement))) : Nests comments (forestOf comments) := by
  have hshown {node depth} (h : InForest (forestOf comments) node depth) : Shown comments node depth :=
    shown_of_inForest hfetched hfirst h
  have hroots : (forestOf comments).map CommentDTO.fields = repliesTo "" comments := by
    rw [forestOf, List.map_map]
    exact List.map_id _
  refine ⟨?_, hroots, fun node depth h => ?_, fun node depth h => ?_⟩
  · have hzero : repliesTo "" comments = comments.filter (·.depth = ((0 : ℕ) : ℤ)) :=
      List.filter_congr fun c hc => decide_eq_decide.mpr (root_iff hfetched hc)
    have hall := level_perm hfetched hshown 3 0 (forestOf comments) rfl (fun _ h => .root h)
      (by rw [hroots, hzero])
    rwa [List.filter_eq_self.mpr] at hall
    exact fun c hc => decide_eq_true (depth_bounds hfetched hc).1
  · obtain ⟨dto, past, left, -, -, rfl, -, hall⟩ := hshown h
    change (repliesIn past.reverse dto.id).map CommentDTO.fields = _
    rw [fields_repliesIn, List.reverse_reverse, hall]
    rfl
  · obtain ⟨dto, past, left, -, -, rfl, hdepth, -⟩ := hshown h
    exact hdepth

end Forest

/-- The forest is right if and only if every reply to a reply was fetched before the comment it is to. -/
theorem nestComments_nests_iff {reads : CommentReads} {rows : List CommunityComment} {comments : List CommentFields}
    (hfetched : Fetched (rows.map (·.placement))) (hdtos : rows.mapM (commentToDTO reads) = .ok comments) :
    (∃ forest, nestComments reads rows = .ok forest ∧ Nests comments forest) ↔
      RepliesFirst (rows.map (·.placement)) := by
  have hplacements := (firstLoop hdtos ∅).1
  have hcomments := hplacements ▸ hfetched
  rw [nestComments_eq hfetched hdtos, ← hplacements]
  constructor
  · rintro ⟨_, ⟨⟩, hnests⟩
    exact repliesFirst_of_nests hcomments hnests
  · exact fun hfirst => ⟨_, rfl, nests_of_repliesFirst hcomments hfirst⟩

/-! ## One thread -/

namespace CommentSamples

/-- No authors, no reactions. -/
def reads : CommentReads where
  authors _ := .ok ∅
  reactionSummary _ := .ok {}
  viewerReactions _ := .ok ∅

def question : CommunityComment := { id := "c1", tenantID := "t", postID := "p", authorID := "u", content := "Why?" }

def answer : CommunityComment :=
  { question with id := "c2", parentID := "c1", rootID := "c1", content := "So", depth := 1, createdAt := 1 }

def thanks : CommunityComment :=
  { question with id := "c3", parentID := "c2", rootID := "c1", content := "Ok", depth := 2, createdAt := 2 }

/-- The comment as it is shown. -/
def shown (row : CommunityComment) : CommentFields :=
  { id := row.id, postID := row.postID, parentID := row.parentID, rootID := row.rootID, content := row.content,
    depth := row.depth, createdAt := row.createdAt, updatedAt := row.updatedAt }

lemma fetched_thread : Fetched ([question, answer, thanks].map (·.placement)) where
  ids := by decide
  named := by decide
  rootDepth := by decide
  parents := by decide
  shallow := by decide

end CommentSamples

open CommentSamples in
/-- A question and its answer. -/
theorem nestComments_nests_answer : ∃ forest, nestComments reads [question, answer] = .ok forest ∧
    Nests ([question, answer].map shown) forest :=
  (nestComments_nests_iff
    { ids := by decide, named := by decide, rootDepth := by decide, parents := by decide, shallow := by decide }
    rfl).mpr (by simp [RepliesFirst, CommunityComment.placement, question, answer])

open CommentSamples in
/-- In a thread that was written from the top down the answer to an answer is lost. -/
theorem nestComments_loses_thanks : Fetched ([question, answer, thanks].map (·.placement)) ∧
    [question, answer, thanks].mapM (commentToDTO reads) = .ok ([question, answer, thanks].map shown) ∧
    nestComments reads [question, answer, thanks] = .ok [.mk (shown question) [.mk (shown answer) []]] ∧
    ¬ Nests ([question, answer, thanks].map shown) [.mk (shown question) [.mk (shown answer) []]] := by
  refine ⟨fetched_thread, rfl, ?_, fun h => ?_⟩
  · rw [nestComments_eq fetched_thread rfl]
    rfl
  · have hlength := h.once.length_eq
    simp [allOf, CommentDTO.all] at hlength

end ErgGo.Community
