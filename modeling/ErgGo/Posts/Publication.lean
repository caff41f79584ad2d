import ErgGo.Posts.Service

/-!
# The publication flag

A post is published exactly when its status says so, and then it has a publication time.
Every column set that an update writes keeps this, except the status PUBLISHED without the
flag: it is right only where the stored post still is what the update has read.
-/

namespace ErgGo.Posts
open Go Documents Concurrent Program Lms

structure Post.Consistent (post : Post) : Prop where
  flag : post.isPublished ↔ post.status = postStatusPublished
  time : post.isPublished → post.publishedAt.isSome

def Store.Consistent (s : Store) : Prop := ∀ post ∈ s.posts.docs, post.Consistent

/-- The status PUBLISHED, without the flag and the time. -/
def PostUpdates.Confirms (updates : PostUpdates) : Prop :=
  updates.status = some postStatusPublished ∧ updates.isPublished = none

/-- The columns agree among themselves as far as they are set. -/
inductive PostUpdates.Coherent (updates : PostUpdates) : Prop
  | untouched (hstatus : updates.status = none) (hflag : updates.isPublished = none)
  | published (hstatus : updates.status = some postStatusPublished) (hflag : updates.isPublished = some true)
      (htime : updates.publishedAt.isSome)
  | withdrawn {status : String} (hne : status ≠ postStatusPublished) (hstatus : updates.status = some status)
      (hflag : updates.isPublished = some false)
  | confirmed (h : updates.Confirms)

lemma consistent_apply_iff {updates : PostUpdates} (hupdates : updates.Coherent) {post : Post} (hpost : post.Consistent)
    (now : Time) : (updates.apply now post).Consistent ↔ (updates.Confirms → post.status = postStatusPublished) := by
  have htime : post.publishedAt.isSome → (updates.publishedAt.or post.publishedAt).isSome := by
    intro h
    rw [Option.isSome_or, h, Bool.or_true]
  cases hupdates with
  | untouched hstatus hflag =>
    refine iff_of_true ⟨?_, fun h => htime (hpost.time ?_)⟩ (fun h => absurd (hstatus.symm.trans h.1) (by simp))
    · simpa only [PostUpdates.apply, hstatus, hflag, Option.getD_none] using hpost.flag
    · simpa only [PostUpdates.apply, hflag, Option.getD_none] using h
  | published hstatus hflag hsome =>
    refine iff_of_true ⟨?_, fun _ => ?_⟩ (fun h => absurd (hflag.symm.trans h.2) (by simp))
    · simp only [PostUpdates.apply, hstatus, hflag, Option.getD_some]
    · simp only [PostUpdates.apply, Option.isSome_or, hsome, Bool.true_or]
  | withdrawn hne hstatus hflag =>
    refine iff_of_true ⟨?_, fun h => ?_⟩ (fun h => absurd (hflag.symm.trans h.2) (by simp))
    · simp only [PostUpdates.apply, hstatus, hflag, Option.getD_some, hne, Bool.false_eq_true]
    · simp [PostUpdates.apply, hflag] at h
  | confirmed h =>
    have hflag : (updates.apply now post).isPublished = post.isPublished := by
      simp only [PostUpdates.apply, h.2, Option.getD_none]
    have hstatus : (updates.apply now post).status = postStatusPublished := by
      simp only [PostUpdates.apply, h.1, Option.getD_some]
    constructor
    · intro hafter _
      exact hpost.flag.mp (hflag ▸ hafter.flag.mpr hstatus)
    · intro hconfirmed
      have hpublished : post.isPublished := hpost.flag.mpr (hconfirmed h)
      exact ⟨iff_of_true (hflag ▸ hpublished) hstatus, fun _ => htime (hpost.time hpublished)⟩

/-! ## The requests of the service -/

/-- What the service sends: new posts are consistent, and column sets coherent. -/
def PostRequest.Sound : PostRequest → Prop
  | .createPost post => post.Consistent ∧ post.status ≠ ""
  | .updatePost _ updates => updates.Coherent
  | _ => True

section Sends

variable {P : PostRequest → Prop}

lemma allRequests_call_bind {α : Type} {q : PostRequest} (hq : P q) {f : PostResult q → PostCall α}
    (hf : ∀ r, (f r).run.AllRequests P) : (call q >>= f).run.AllRequests P :=
  AllRequests.run_bind ⟨hq, fun _ => trivial⟩ hf

lemma allRequests_call {q : PostRequest} (hq : P q) : (call q).run.AllRequests P := ⟨hq, fun _ => trivial⟩

variable [Library] [PostsLibrary]

/-- The status is confirmed only for a post that was read as published. -/
lemma allRequests_updateFields_bind {α : Type} {post : Post} {req : UpdatePostRequest} {userID : String}
    {f : PostUpdates → PostCall α} (hnow : P .now)
    (hf : ∀ updates, updates.Coherent → (updates.Confirms → post.status = postStatusPublished) →
      (f updates).run.AllRequests P) : (Service.updateFields post req userID >>= f).run.AllRequests P := by
  unfold Service.updateFields
  by_cases hempty : req.status = ""
  · rw [if_pos hempty]
    exact hf _ (.untouched rfl rfl) (fun h => by simp [PostUpdates.Confirms] at h)
  · rw [if_neg hempty]
    by_cases hpublish : toUpper req.status = postStatusPublished ∧ post.status ≠ postStatusPublished
    · simp only [if_pos hpublish, LawfulMonad.bind_assoc]
      refine allRequests_call_bind hnow fun now => ?_
      exact hf _ (.published (congrArg some hpublish.1) rfl rfl) (fun h => by simp [PostUpdates.Confirms] at h)
    · simp only [if_neg hpublish]
      by_cases hwithdraw : toUpper req.status ≠ postStatusPublished
      · simp only [if_pos hwithdraw]
        exact hf _ (.withdrawn hwithdraw rfl rfl) (fun h => by simp [PostUpdates.Confirms] at h)
      · simp only [if_neg hwithdraw]
        have hstatus := not_not.mp hwithdraw
        refine hf _ (.confirmed ⟨congrArg some hstatus, rfl⟩) (fun _ => ?_)
        by_contra hread
        exact hpublish ⟨hstatus, hread⟩

/-- A call of the posts service. -/
inductive PostOperation where
  | createPost (req : CreatePostRequest) (authorID : String)
  | updatePost (id : String) (req : UpdatePostRequest) (userID : String)
  | softDeletePost (id : String)
  | restorePost (id : String)
  | promotePost (postID categoryID : String)

def PostOperation.call : PostOperation → PostCall (Option Post)
  | .createPost req authorID => Service.createPost req authorID
  | .updatePost id req userID => Service.updatePost id req userID
  | .softDeletePost id => Service.softDeletePost id
  | .restorePost id => Service.restorePost id
  | .promotePost postID categoryID => Service.promotePost postID categoryID

omit [Library] [PostsLibrary] in
lemma allRequests_stampPublication_bind {α : Type} {authorID : String} {post : Post}
    (hflag : post.isPublished ↔ post.status = postStatusPublished) {f : Post → PostCall α} (hnow : P .now)
    (hf : ∀ stamped : Post, stamped.Consistent → stamped.status = post.status → (f stamped).run.AllRequests P) :
    (Service.stampPublication authorID post >>= f).run.AllRequests P := by
  unfold Service.stampPublication
  by_cases hpublished : post.isPublished
  · rw [if_pos hpublished, LawfulMonad.bind_assoc]
    exact allRequests_call_bind hnow fun now => hf _ ⟨hflag, fun _ => rfl⟩ rfl
  · rw [if_neg hpublished]
    exact hf _ ⟨hflag, fun h => absurd h hpublished⟩ rfl

lemma allRequests_createPost (req : CreatePostRequest) (authorID : String) :
    (Service.createPost req authorID).run.AllRequests PostRequest.Sound := by
  refine allRequests_call_bind trivial fun cat => ?_
  cases cat with
  | none => trivial
  | some cat =>
    refine AllRequests.run_bind ?_ fun slug => ?_
    · unfold Service.slugFor
      split
      · exact allRequests_call_bind trivial fun _ => trivial
      · trivial
    · refine allRequests_call_bind trivial fun id => ?_
      refine allRequests_stampPublication_bind ?_ trivial fun post hpost hstatus => ?_
      · exact decide_eq_true_iff
      · refine allRequests_call_bind ⟨hpost, hstatus ▸ ?_⟩ fun _ => trivial
        dsimp only
        split
        · decide
        · assumption

lemma PostOperation.sound (op : PostOperation) : op.call.run.AllRequests PostRequest.Sound := by
  cases op with
  | createPost req authorID => exact allRequests_createPost req authorID
  | updatePost id req userID =>
    refine allRequests_call_bind trivial fun read => ?_
    cases read with
    | none => trivial
    | some post =>
      refine allRequests_updateFields_bind trivial fun updates hcoherent _ => ?_
      exact allRequests_call_bind hcoherent fun _ => allRequests_call trivial
  | softDeletePost id =>
    refine allRequests_call_bind trivial fun read => ?_
    cases read with
    | none => trivial
    | some post => exact allRequests_call_bind trivial fun _ => trivial
  | restorePost id => exact allRequests_call_bind trivial fun _ => trivial
  | promotePost postID categoryID =>
    refine allRequests_call_bind trivial fun read => ?_
    cases read with
    | none => trivial
    | some cat =>
      dsimp only
      split
      · trivial
      · exact allRequests_call_bind (PostUpdates.Coherent.untouched rfl rfl) fun _ => allRequests_call trivial

end Sends

/-! ## One event -/

abbrev PostEvent := Event (PostEnv × Fault) PostRequest Store

/-- A write of the status alone that takes effect on a post that is no longer published. -/
def StaleConfirmation (e : PostEvent) : Prop :=
  ∃ id updates post, e.req = .updatePost id updates ∧ updates.Confirms ∧ e.before.posts.find (undeleted id) = some post ∧
    e.before.admits (updates.apply e.env.1.now post) ∧ e.env.2 ≠ .lost ∧ post.status ≠ postStatusPublished

lemma consistent_updateOne {s : Store} (hs : s.Consistent) {p : Post → Bool} {u : Update Post.id}
    (hu : ∀ post ∈ s.posts.docs, post.Consistent → (u.apply post).Consistent) :
    Store.Consistent { s with posts := s.posts.updateOne p u } :=
  forall_modifyFirst hs fun post hpost =>
    hu post (List.mem_of_find?_eq_some hpost) (hs post (List.mem_of_find?_eq_some hpost))

lemma consistent_setDeletedAt {s : Store} (hs : s.Consistent) (p : Post → Bool) (deletedAt : Option Time) (now : Time) :
    Store.Consistent { s with posts := s.posts.updateOne p (setDeletedAt deletedAt now) } :=
  consistent_updateOne hs fun _ _ hpost => ⟨hpost.flag, hpost.time⟩

lemma consistent_createPost {s : Store} (hs : s.Consistent) {post : Post} (hpost : post.Consistent) (hne : post.status ≠ "")
    (now : Time) : (Repository.createPost s now post).2.Consistent := by
  unfold Repository.createPost
  dsimp only
  rw [if_neg hne]
  split
  · split
    · next posts hinsert =>
      intro stored hstored
      rw [Collection.docs_insertOne hinsert] at hstored
      rcases List.mem_append.mp hstored with hstored | hstored
      · exact hs stored hstored
      · rw [List.mem_singleton] at hstored
        subst hstored
        exact ⟨hpost.flag, hpost.time⟩
    · exact hs
  · exact hs

lemma consistent_updatePost_iff {s : Store} (hs : s.Consistent) {updates : PostUpdates} (hupdates : updates.Coherent)
    (now : Time) (id : String) : (Repository.updatePost s now id updates).2.Consistent ↔
      ∀ post, s.posts.find (undeleted id) = some post → s.admits (updates.apply now post) → updates.Confirms →
        post.status = postStatusPublished := by
  unfold Repository.updatePost
  cases hfind : s.posts.find (undeleted id) with
  | none => exact iff_of_true hs (fun post h => by cases h)
  | some post =>
    simp only [Option.some.injEq, forall_eq']
    by_cases hadmits : s.admits (updates.apply now post)
    · rw [if_pos hadmits, forall_prop_of_true hadmits,
        ← consistent_apply_iff hupdates (hs post (List.mem_of_find?_eq_some hfind)) now]
      constructor
      · intro hafter
        exact hafter _ (mem_modifyFirst_of_find? hfind _)
      · intro hpost
        refine forall_modifyFirst hs fun found hfound => ?_
        cases hfind.symm.trans hfound
        exact hpost
    · rw [if_neg hadmits]
      exact iff_of_true hs (fun h => absurd h hadmits)

lemma exec_updatePost (env : PostEnv × Fault) (id : String) (updates : PostUpdates) (s : Store) :
    (exec env (.updatePost id updates) s).2 = if env.2 = .lost then s else (Repository.updatePost s env.1.now id updates).2 := by
  obtain ⟨env, fault⟩ := env
  cases fault <;> rfl

lemma exec_store (env : PostEnv × Fault) (q : PostRequest) (s : Store) :
    (exec env q s).2 = s ∨ (exec env q s).2 = (carryOut env.1 q s).2 := by
  unfold exec
  split
  · obtain ⟨hlost, -⟩ | ⟨hdone, -⟩ := withFaults_store .storeFailure carryOut env q s
    · exact .inl hlost
    · exact .inr hdone
  · exact .inr rfl

lemma consistent_of_carryOut {env : PostEnv × Fault} {q : PostRequest} {s : Store} (hs : s.Consistent)
    (h : (carryOut env.1 q s).2.Consistent) : (exec env q s).2.Consistent := by
  obtain hsame | hdone := exec_store env q s
  · rwa [hsame]
  · rwa [hdone]

/-- The only event that breaks consistency is a stale confirmation. -/
lemma consistent_after_iff {e : PostEvent} (hsound : e.req.Sound) (hs : e.before.Consistent) :
    (e.after exec).Consistent ↔ ¬StaleConfirmation e := by
  obtain ⟨thread, env, req, s⟩ := e
  have hother : (∀ id updates, req ≠ .updatePost id updates) → (carryOut env.1 req s).2.Consistent →
      ((exec env req s).2.Consistent ↔ ¬StaleConfirmation ⟨thread, env, req, s⟩) :=
    fun hne h => iff_of_true (consistent_of_carryOut hs h) fun ⟨id, updates, _, hreq, _⟩ => hne id updates hreq
  cases req with
  | now => exact hother (fun _ _ h => by cases h) hs
  | newObjectID => exact hother (fun _ _ h => by cases h) hs
  | newUUID => exact hother (fun _ _ h => by cases h) hs
  | getCategoryByID id => exact hother (fun _ _ h => by cases h) hs
  | createPost post => exact hother (fun _ _ h => by cases h) (consistent_createPost hs hsound.1 hsound.2 env.1.now)
  | getPostByID id => exact hother (fun _ _ h => by cases h) hs
  | softDeletePost id => exact hother (fun _ _ h => by cases h) (consistent_setDeletedAt hs _ _ _)
  | restorePost id => exact hother (fun _ _ h => by cases h) (consistent_setDeletedAt hs _ _ _)
  | updatePost id updates =>
    rw [Event.after, exec_updatePost]
    by_cases hlost : env.2 = .lost
    · rw [if_pos hlost]
      exact iff_of_true hs fun ⟨_, _, _, _, _, _, _, harrives, _⟩ => harrives hlost
    · rw [if_neg hlost, consistent_updatePost_iff hs hsound]
      constructor
      · rintro h ⟨id', updates', post, hreq, hconfirms, hfind, hadmits, -, hne⟩
        cases hreq
        exact hne (h post hfind hadmits hconfirms)
      · intro h post hfind hadmits hconfirms
        by_contra hne
        exact h ⟨id, updates, post, rfl, hconfirms, hfind, hadmits, hlost, hne⟩

/-! ## Every interleaving -/

section Runs

variable [Library] [PostsLibrary]

abbrev postRun (s : Store) (ops : List PostOperation) (schedule : List (Nat × (PostEnv × Fault))) :
    Config (PostEnv × Fault) PostRequest PostReply Store (Except PostsError (Option Post)) :=
  (start s (ops.map (fun op => op.call.run))).run exec schedule

/-- Every state a run reaches is consistent exactly when no stale confirmation is written. -/
theorem consistent_iff_no_staleConfirmation {s : Store} (hs : s.Consistent) (ops : List PostOperation)
    (schedule : List (Nat × (PostEnv × Fault))) :
    (∀ l, l <+: schedule → (postRun s ops l).store.Consistent) ↔ ∀ e ∈ (postRun s ops schedule).history, ¬StaleConfirmation e := by
  have hsent : ∀ e ∈ (postRun s ops schedule).history, e.req.Sound := by
    refine history_sent (P := fun _ (q : PostRequest) => q.Sound) s (fun i p hp => ?_) schedule
    obtain ⟨op, -, rfl⟩ := List.mem_map.mp (List.mem_of_getElem? hp)
    exact op.sound
  exact forall_prefix_iff hs fun e he hbefore => consistent_after_iff (hsent e he) hbefore

end Runs

namespace Sample

@[reducible] def asciiPosts : PostsLibrary where
  toUpper := Char.toUpper
  isLetter := Char.isAlpha
  isDigit := Char.isDigit
  removeMarks s := s

def category : Category := { id := Lms.Sample.id 1, name := "News", slug := "news" }

def post : Post :=
  { id := Lms.Sample.id 2, title := "Title", slug := "title", status := postStatusPublished, isPublished := true,
    publishedAt := some 1, categoryID := category.id.hex }

def store : Store := ⟨.singleton post, [category]⟩

/-- One call publishes the post again while another takes it back to a draft. -/
def ops : List PostOperation :=
  [.updatePost post.id.hex { status := "PUBLISHED" } "", .updatePost post.id.hex { status := "DRAFT" } ""]

def schedule : List (Nat × (PostEnv × Fault)) := [0, 1, 1, 0].map (fun i => (i, {}, .none))

lemma store_consistent : store.Consistent := by
  intro p hp
  rw [List.mem_singleton.mp hp]
  exact ⟨iff_of_true rfl rfl, fun _ => rfl⟩

end Sample

theorem consistent_sample :
    letI := asciiLibrary
    letI := Sample.asciiPosts
    (∀ l, l <+: Sample.schedule → (postRun Sample.store Sample.ops l).store.Consistent) ↔
      ∀ e ∈ (postRun Sample.store Sample.ops Sample.schedule).history, ¬StaleConfirmation e :=
  let := asciiLibrary
  let := Sample.asciiPosts
  consistent_iff_no_staleConfirmation Sample.store_consistent _ _

/-- The post ends with the status PUBLISHED and without the flag. -/
theorem published_without_flag :
    letI := asciiLibrary
    letI := Sample.asciiPosts
    Sample.store.Consistent ∧ ¬(postRun Sample.store Sample.ops Sample.schedule).store.Consistent := by
  let := asciiLibrary
  let := Sample.asciiPosts
  have hposts : (postRun Sample.store Sample.ops Sample.schedule).store.posts.docs.map (fun p => (p.status, p.isPublished)) =
      [("PUBLISHED", false)] := by decide
  refine ⟨Sample.store_consistent, fun h => ?_⟩
  obtain ⟨p, hp, hpost⟩ := List.mem_map.mp (hposts ▸ List.mem_singleton_self ("PUBLISHED", false))
  obtain ⟨hstatus, hunset⟩ := Prod.mk.inj hpost
  exact Bool.false_ne_true (hunset.symm.trans ((h p hp).flag.mpr hstatus))

end ErgGo.Posts
