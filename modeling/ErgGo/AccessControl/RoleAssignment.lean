import ErgGo.AccessControl.Repository
import ErgGo.Lib.Provenance

/-!
# Assigning roles concurrently

Assigning, removing and bulk-assigning replace the whole role set of a user. Removing and
bulk-assigning compute the new set from a set they have read before, so a write that comes
between the read and their own write is lost. Without such overlaps every update lasts until
a later operation undoes it.
-/

namespace ErgGo.AccessControl
open Go Concurrent Program Lms Postgres

namespace Service

def loadUserRoles (userID : String) : ACCall (List String) := ac (.getUserRoles userID)

def saveUserRoles (userID : String) (roles : List String) : ACCall Unit :=
  ac (.setUserRoles userID (uniqueStrings roles))

def resolveRoleRef (roleRef : String) : ACCall (Option ACRole) :=
  if trimSpace roleRef = "" then pure none
  else do
    match ← ac (.getRoleByID (trimSpace roleRef)) with
    | some role => pure (some role)
    | none => ac (.getRoleByName (trimSpace roleRef))

def normalizeSingleRoleRef (roleRef : String) : ACCall String := do
  match ← resolveRoleRef roleRef with
  | some role => return role.name
  | none => throw (.roleNotFound roleRef)

def normalizeRoleRefs (roleRefs : List String) : ACCall (List String) := do
  let result ← roleRefs.mapM normalizeSingleRoleRef
  return uniqueStrings result

def assignRoles (userID : String) (roleIDs : List String) : ACCall Unit := do
  let normalized ← wrapping "access_control.AssignRoles.normalizeRoleRefs" (normalizeRoleRefs roleIDs)
  saveUserRoles userID normalized

def removeRole (userID roleID : String) : ACCall Unit := do
  let existing ← wrapping "access_control.RemoveRole.loadUserRoles" (loadUserRoles userID)
  let target ← wrapping "access_control.RemoveRole.normalizeSingleRoleRef" (normalizeSingleRoleRef roleID)
  saveUserRoles userID (existing.filter (fun r => r ≠ target))

/-- A user whose roles cannot be read or written is logged and skipped. -/
def bulkAssignUser (normalizedRole uid : String) : ACCall Unit :=
  tryCatch
    (do
      let existing ← loadUserRoles uid
      saveUserRoles uid (uniqueStrings (existing ++ [normalizedRole])))
    (fun _ => pure ())

def bulkAssignRole (userIDs : List String) (roleID : String) : ACCall Unit := do
  let normalizedRole ← wrapping "access_control.BulkAssignRole.normalizeSingleRoleRef"
    (normalizeSingleRoleRef roleID)
  userIDs.forM (bulkAssignUser normalizedRole)

end Service

inductive RoleOperation where
  | assignRoles (userID : String) (roleIDs : List String)
  | removeRole (userID roleID : String)
  | bulkAssignRole (userIDs : List String) (roleID : String)

def RoleOperation.call : RoleOperation → ACCall Unit
  | .assignRoles userID roleIDs => Service.assignRoles userID roleIDs
  | .removeRole userID roleID => Service.removeRole userID roleID
  | .bulkAssignRole userIDs roleID => Service.bulkAssignRole userIDs roleID

/-- The name of the role a reference stands for, as the role table has it. -/
def roleName (db : Database) (roleRef : String) : Option String :=
  if trimSpace roleRef = "" then none
  else match db.roles.find (fun role => role.id = trimSpace roleRef) with
    | some role => some role.name
    | none => (db.roles.find (fun role => role.name = trimSpace roleRef)).map ACRole.name

/-- The operation gives the role to its users. -/
def RoleOperation.Adds (db : Database) (role : String) : RoleOperation → Prop
  | .assignRoles _ roleIDs => role ∈ uniqueStrings (roleIDs.filterMap (roleName db))
  | .removeRole .. => False
  | .bulkAssignRole _ roleID => role ∈ uniqueStrings (roleName db roleID).toList

/-- The operation removes the role or replaces it by others. -/
def RoleOperation.Drops (db : Database) (role : String) : RoleOperation → Prop
  | .assignRoles _ roleIDs => role ∉ uniqueStrings (roleIDs.filterMap (roleName db))
  | .removeRole _ roleID => roleName db roleID = some role
  | .bulkAssignRole .. => False

abbrev RoleEvent := Event Time ACRequest Database

abbrev RoleWorld := World Time ACRequest Database

/-- The event replaces the roles of the user. -/
def Writes (userID : String) (e : RoleEvent) : Prop :=
  userExists e.before userID ∧ ∃ roles, e.req = .setUserRoles userID roles

/-- The operation of thread `j` started after the one of thread `i` had written the roles. -/
def StartedAfter (h : List RoleEvent) (userID : String) (i j : Nat) : Prop :=
  ∀ h₁ e h₂, h = h₁ ++ e :: h₂ → e.thread = i → Writes userID e → ∀ a ∈ h₁, a.thread ≠ j

/-- No operation that has started before another one writes the user's roles writes them
after it. -/
def NoOverlap (h : List RoleEvent) (userID : String) : Prop :=
  ∀ h₁ e h₂, h = h₁ ++ e :: h₂ → Writes userID e → ∀ d ∈ h₂, Writes userID d → d.thread ≠ e.thread →
    ∀ a ∈ h₁, a.thread ≠ d.thread

/-- Where the roles come from that an operation writes: from its references, and for an
operation that changes the set, from an earlier read. -/
def RoleOperation.Origin (db : Database) (h : List RoleEvent) (thread : Nat) (userID : String)
    (roles : List String) : RoleOperation → Prop
  | .assignRoles _ roleIDs => roles = uniqueStrings (roleIDs.filterMap (roleName db))
  | .removeRole _ roleID => ∃ target, roleName db roleID = some target ∧
      ∃ r ∈ h, r.thread = thread ∧ r.req = .getUserRoles userID ∧
        roles = uniqueStrings ((getUserRoles r.before userID).filter (fun x => x ≠ target))
  | .bulkAssignRole _ roleID => ∃ role, roleName db roleID = some role ∧
      ∃ r ∈ h, r.thread = thread ∧ r.req = .getUserRoles userID ∧
        roles = uniqueStrings (getUserRoles r.before userID ++ [role])

def Justified (db : Database) (ops : List RoleOperation) (h : List RoleEvent) (d : RoleEvent) : Prop :=
  ∀ userID roles, d.req = .setUserRoles userID roles →
    ∃ op, ops[d.thread]? = some op ∧ op.Origin db h d.thread userID roles

/-- The role table does not change. -/
def SameRoles (db : Database) (s : Database) : Prop := s.roles = db.roles

lemma Justified.read {db : Database} {ops : List RoleOperation} {h : List RoleEvent} {d : RoleEvent}
    (hd : ∀ userID roles, d.req ≠ .setUserRoles userID roles) : Justified db ops h d :=
  fun userID roles hreq => absurd hreq (hd userID roles)

/-- An operation that does not drop a role writes it, if the role was there at its reads. -/
lemma RoleOperation.Origin.keeps {db : Database} {op : RoleOperation} {h : List RoleEvent} {thread : Nat}
    {userID role : String} {roles : List String} (horigin : op.Origin db h thread userID roles)
    (hkeeps : ¬op.Drops db role) (hrole : role ≠ "" ∧ trimSpace role = role)
    (hreads : ∀ r ∈ h, r.thread = thread → role ∈ getUserRoles r.before userID) : role ∈ uniqueStrings roles := by
  cases op with
  | assignRoles other roleIDs =>
    rw [horigin, uniqueStrings_uniqueStrings]
    exact not_not.mp hkeeps
  | removeRole other roleID =>
    obtain ⟨target, htarget, r, hr, hthread, -, rfl⟩ := horigin
    have hne : role ≠ target := fun heq => hkeeps (heq ▸ htarget)
    rw [uniqueStrings_uniqueStrings, mem_uniqueStrings]
    exact ⟨hrole.1, role, List.mem_filter.mpr ⟨hreads r hr hthread, decide_eq_true hne⟩, hrole.2⟩
  | bulkAssignRole others roleID =>
    obtain ⟨added, -, r, hr, hthread, -, rfl⟩ := horigin
    rw [uniqueStrings_uniqueStrings, mem_uniqueStrings]
    exact ⟨hrole.1, role, List.mem_append_left _ (hreads r hr hthread), hrole.2⟩

/-- An operation that does not add a role does not write it, if the role was not there at
its reads. -/
lemma RoleOperation.Origin.omits {db : Database} {op : RoleOperation} {h : List RoleEvent} {thread : Nat}
    {userID role : String} {roles : List String} (horigin : op.Origin db h thread userID roles)
    (homits : ¬op.Adds db role)
    (hreads : ∀ r ∈ h, r.thread = thread → role ∉ getUserRoles r.before userID) : role ∉ uniqueStrings roles := by
  cases op with
  | assignRoles other roleIDs =>
    rw [horigin, uniqueStrings_uniqueStrings]
    exact homits
  | removeRole other roleID =>
    obtain ⟨target, -, r, hr, hthread, -, rfl⟩ := horigin
    rw [uniqueStrings_uniqueStrings, mem_uniqueStrings]
    rintro ⟨-, stored, hstored, rfl⟩
    have hread := (List.mem_filter.mp hstored).1
    rw [(trimSpace_of_mem_getUserRoles hread).2] at hreads
    exact hreads r hr hthread hread
  | bulkAssignRole others roleID =>
    obtain ⟨added, hadded, r, hr, hthread, -, rfl⟩ := horigin
    rw [uniqueStrings_uniqueStrings, mem_uniqueStrings]
    rintro ⟨hne, stored, hstored, rfl⟩
    obtain hread | hnew := List.mem_append.mp hstored
    · rw [(trimSpace_of_mem_getUserRoles hread).2] at hreads
      exact hreads r hr hthread hread
    · refine homits ?_
      change trimSpace stored ∈ uniqueStrings (roleName db roleID).toList
      rw [hadded, mem_uniqueStrings]
      exact ⟨hne, stored, hnew, rfl⟩

/-- A write after the last write of thread `i`, in a history without overlaps, is one of an
operation that started later; all it has read, it has read after that write. -/
lemma later_write {h h₁ h₂ a b : List RoleEvent} {e d : RoleEvent} {userID : String}
    (hoverlap : NoOverlap h userID) (hsplit : h = h₁ ++ e :: h₂) (he : Writes userID e)
    (hlast : ∀ d ∈ h₂, ¬(d.thread = e.thread ∧ Writes userID d)) (hd : h₂ = a ++ d :: b) (hwrites : Writes userID d) :
    StartedAfter h userID e.thread d.thread ∧ ∀ r ∈ h₁ ++ e :: a, r.thread = d.thread → r ∈ a := by
  have hmem : d ∈ h₂ := by simp [hd]
  have hother : d.thread ≠ e.thread := fun hsame => hlast d hmem ⟨hsame, hwrites⟩
  have hlater := hoverlap h₁ e h₂ hsplit he d hmem hwrites hother
  constructor
  · intro g₁ e' g₂ hsplit' hthread hwrites' x hx
    have heq : g₁ ++ e' :: g₂ = h₁ ++ e :: h₂ := hsplit'.symm.trans hsplit
    obtain ⟨t, hh, -⟩ | ⟨t, hg, ht⟩ := List.append_eq_append_iff.mp heq
    · exact hlater x (hh ▸ List.mem_append_left t hx)
    · cases t with
      | nil =>
        rw [List.append_nil] at hg
        exact hlater x (hg ▸ hx)
      | cons y t =>
        have hbad : e' ∈ h₂ := by
          have htail := (List.cons.inj ht).2
          simp [htail]
        exact absurd ⟨hthread, hwrites'⟩ (hlast e' hbad)
  · intro r hr hthread
    obtain hr | hr := List.mem_append.mp hr
    · exact absurd hthread (hlater r hr)
    · obtain rfl | hr := List.mem_cons.mp hr
      · exact absurd hthread.symm hother
      · exact hr

/-- Operations carried out one after another do not overlap. -/
lemma noOverlap_of_sequential {h : List RoleEvent} (hthreads : (h.map Event.thread).Pairwise (· ≤ ·))
    (userID : String) : NoOverlap h userID := by
  intro h₁ e h₂ hsplit _ d hd _ hother a ha hsame
  rw [hsplit, List.pairwise_map, List.pairwise_append, List.pairwise_cons] at hthreads
  have hae := hthreads.2.2 a ha e (by simp)
  have hed := hthreads.2.1.1 d hd
  omega

section RoleRuns

variable [Library]

/-- Added roles are there, and removed ones are not, unless an operation that started later
undid it. -/
structure NoLostUpdate (db : Database) (ops : List RoleOperation)
    (c : Config Time ACRequest ACReply Database (Except ACError Unit)) (userID : String) : Prop where
  added : ∀ i userIDs roleID role, ops[i]? = some (.bulkAssignRole userIDs roleID) →
    c.threads[i]? = some (.done (.ok ())) → roleName db roleID = some role →
    (∃ e ∈ c.history, e.thread = i ∧ Writes userID e ∧ role ∈ getUserRoles (e.after exec) userID) →
    (∀ d ∈ c.history, Writes userID d → StartedAfter c.history userID i d.thread →
      ∀ op, ops[d.thread]? = some op → ¬op.Drops db role) →
    role ∈ getUserRoles c.store userID
  removed : ∀ i roleID role, ops[i]? = some (.removeRole userID roleID) →
    c.threads[i]? = some (.done (.ok ())) → roleName db roleID = some role →
    (∀ d ∈ c.history, Writes userID d → StartedAfter c.history userID i d.thread →
      ∀ op, ops[d.thread]? = some op → ¬op.Adds db role) →
    role ∉ getUserRoles c.store userID

lemma exec_roles (now : Time) (q : ACRequest) (db : Database) : (exec now q db).2.roles = db.roles := by
  cases q with
  | setUserRoles userID roles =>
    unfold exec setUserRoles replaceUserRoles
    dsimp only
    split <;> rfl
  | _ => rfl

section Safe

-- Unfolding a call must not run the string functions it uses.
attribute [local irreducible] trimSpace

variable {db : Database} {ops : List RoleOperation} {i : Nat} {w : RoleWorld}

lemma safe_ac {q : ACRequest} {post : ACResult q → RoleWorld → Prop}
    (hJ : ∀ h now s, w.2 <+: h → Justified db ops h ⟨i, now, q, s⟩)
    (hpost : ∀ h now s r, w.2 <+: h → SameRoles db s → (exec now q s).1 = .ok r →
      post r ((exec now q s).2, h ++ [⟨i, now, q, s⟩])) :
    (provenance (SameRoles db) (Justified db ops)).Safe exec i (OnSuccess post) (ac q).run w := by
  refine safe_send (fun now s hs => (exec_roles now q s).trans hs) (fun h now s hrely _ => hJ h now s hrely) ?_
  intro h now s hrely hs
  cases hreply : (exec now q s).1 with
  | ok r => exact hpost h now s r hrely hs hreply
  | error e => trivial

lemma safe_wrapping {α : Type} {post : α → RoleWorld → Prop} (context : String) {call : ACCall α}
    (hcall : (provenance (SameRoles db) (Justified db ops)).Safe exec i (OnSuccess post) call.run w) :
    (provenance (SameRoles db) (Justified db ops)).Safe exec i (OnSuccess post) (wrapping context call).run w :=
  hcall.run_tryCatch (fun _ _ _ => trivial)

lemma safe_resolveRoleRef (roleRef : String) :
    (provenance (SameRoles db) (Justified db ops)).Safe exec i
      (OnSuccess (fun role _ => role.map ACRole.name = roleName db roleRef))
      (Service.resolveRoleRef roleRef).run w := by
  unfold Service.resolveRoleRef
  by_cases hblank : trimSpace roleRef = ""
  · rw [if_pos hblank]
    change none = roleName db roleRef
    rw [roleName, if_pos hblank]
  · rw [if_neg hblank]
    have hfirst : (provenance (SameRoles db) (Justified db ops)).Safe exec i
        (OnSuccess (fun role _ => role = db.roles.find (fun role => role.id = trimSpace roleRef)))
        (ac (.getRoleByID (trimSpace roleRef))).run w := by
      refine safe_ac (fun _ _ _ _ => .read (fun _ _ hreq => nomatch hreq)) ?_
      intro h now s r _ hs hreply
      cases hreply
      rw [hs]
    refine hfirst.run_bind fun role w' _ hrole => ?_
    cases role with
    | some role =>
      change some role.name = roleName db roleRef
      rw [roleName, if_neg hblank, ← hrole]
    | none =>
      refine safe_ac (fun _ _ _ _ => .read (fun _ _ hreq => nomatch hreq)) ?_
      intro h now s r _ hs hreply
      cases hreply
      rw [roleName, if_neg hblank, ← hrole, hs]

lemma safe_normalizeSingleRoleRef (roleRef : String) :
    (provenance (SameRoles db) (Justified db ops)).Safe exec i
      (OnSuccess (fun name _ => roleName db roleRef = some name))
      (Service.normalizeSingleRoleRef roleRef).run w := by
  refine (safe_resolveRoleRef roleRef).run_bind ?_
  intro role w' _ hrole
  cases role with
  | some role => exact hrole.symm
  | none => trivial

lemma safe_mapM_normalizeSingleRoleRef (roleRefs : List String) :
    (provenance (SameRoles db) (Justified db ops)).Safe exec i
      (OnSuccess (fun names _ => names = roleRefs.filterMap (roleName db)))
      (roleRefs.mapM Service.normalizeSingleRoleRef).run w := by
  induction roleRefs generalizing w with
  | nil => rfl
  | cons roleRef roleRefs ih =>
    rw [List.mapM_cons]
    refine (safe_normalizeSingleRoleRef roleRef).run_bind fun name w' _ hname => ?_
    refine ih.run_bind fun names w'' _ hnames => ?_
    change name :: names = (roleRef :: roleRefs).filterMap (roleName db)
    rw [List.filterMap_cons_some hname, hnames]

lemma safe_loadUserRoles (userID : String) :
    (provenance (SameRoles db) (Justified db ops)).Safe exec i
      (OnSuccess (fun existing w' => ∃ r ∈ w'.2, r.thread = i ∧ r.req = .getUserRoles userID ∧
        existing = getUserRoles r.before userID))
      (Service.loadUserRoles userID).run w := by
  refine safe_ac (fun _ _ _ _ => .read (fun _ _ hreq => nomatch hreq)) ?_
  intro h now s r _ _ hreply
  cases hreply
  exact ⟨_, List.mem_append_right h (List.mem_singleton.mpr rfl), rfl, rfl, rfl⟩

lemma safe_saveUserRoles {op : RoleOperation} (hop : ops[i]? = some op) {userID : String} {roles : List String}
    (horigin : ∀ h, w.2 <+: h → op.Origin db h i userID (uniqueStrings roles)) :
    (provenance (SameRoles db) (Justified db ops)).Safe exec i
      (OnSuccess (fun _ w' => ∃ e ∈ w'.2, e.thread = i ∧ Writes userID e))
      (Service.saveUserRoles userID roles).run w := by
  refine safe_ac ?_ ?_
  · intro h now s hrely userID' roles' hreq
    cases hreq
    exact ⟨op, hop, horigin h hrely⟩
  · intro h now s r _ _ hreply
    refine ⟨_, List.mem_append_right h (List.mem_singleton.mpr rfl), rfl, ?_, _, rfl⟩
    unfold exec setUserRoles at hreply
    dsimp only at hreply
    split at hreply
    · assumption
    · cases hreply

lemma safe_assignRoles {userID : String} {roleIDs : List String}
    (hop : ops[i]? = some (.assignRoles userID roleIDs)) :
    (provenance (SameRoles db) (Justified db ops)).Safe exec i (OnSuccess (fun _ _ => True))
      (Service.assignRoles userID roleIDs).run w := by
  have hnormalize : (provenance (SameRoles db) (Justified db ops)).Safe exec i
      (OnSuccess (fun names _ => names = uniqueStrings (roleIDs.filterMap (roleName db))))
      (Service.normalizeRoleRefs roleIDs).run w :=
    (safe_mapM_normalizeSingleRoleRef roleIDs).run_bind (fun names _ _ hnames => congrArg uniqueStrings hnames)
  refine (safe_wrapping _ hnormalize).run_bind fun normalized w' _ hnormalized => ?_
  refine (safe_saveUserRoles hop ?_).mono (fun r _ _ _ => by cases r <;> trivial)
  intro h _
  rw [hnormalized, uniqueStrings_uniqueStrings]
  rfl

lemma safe_removeRole {userID roleID : String} (hop : ops[i]? = some (.removeRole userID roleID)) :
    (provenance (SameRoles db) (Justified db ops)).Safe exec i
      (OnSuccess (fun _ w' => ∃ e ∈ w'.2, e.thread = i ∧ Writes userID e))
      (Service.removeRole userID roleID).run w := by
  refine (safe_wrapping _ (safe_loadUserRoles userID)).run_bind ?_
  rintro existing w₁ _ ⟨r, hr, hthread, hreq, rfl⟩
  refine (safe_wrapping _ (safe_normalizeSingleRoleRef roleID)).run_bind ?_
  intro target w₂ hrely htarget
  refine safe_saveUserRoles hop ?_
  intro h hextends
  exact ⟨target, htarget, r, (hrely.trans hextends).subset hr, hthread, hreq, rfl⟩

lemma safe_bulkAssignUser {userIDs : List String} {roleID normalizedRole : String}
    (hop : ops[i]? = some (.bulkAssignRole userIDs roleID)) (hrole : roleName db roleID = some normalizedRole)
    (uid : String) : (provenance (SameRoles db) (Justified db ops)).Safe exec i (OnSuccess (fun _ _ => True))
      (Service.bulkAssignUser normalizedRole uid).run w := by
  refine Protocol.Safe.run_tryCatch ((safe_loadUserRoles uid).run_bind ?_) (fun _ _ _ => trivial)
  rintro existing w₁ _ ⟨r, hr, hthread, hreq, rfl⟩
  refine (safe_saveUserRoles hop ?_).mono (fun r _ _ _ => by cases r <;> trivial)
  intro h hextends
  rw [uniqueStrings_uniqueStrings]
  exact ⟨normalizedRole, hrole, r, hextends.subset hr, hthread, hreq, rfl⟩

lemma safe_bulkAssignRole {userIDs : List String} {roleID : String}
    (hop : ops[i]? = some (.bulkAssignRole userIDs roleID)) :
    (provenance (SameRoles db) (Justified db ops)).Safe exec i (OnSuccess (fun _ _ => True))
      (Service.bulkAssignRole userIDs roleID).run w := by
  refine (safe_wrapping _ (safe_normalizeSingleRoleRef roleID)).run_bind ?_
  intro normalizedRole w₁ _ hrole
  have hloop : ∀ (uids : List String) (w : RoleWorld),
      (provenance (SameRoles db) (Justified db ops)).Safe exec i (OnSuccess (fun _ _ => True))
        (uids.forM (Service.bulkAssignUser normalizedRole)).run w := by
    intro uids
    induction uids with
    | nil => exact fun _ => trivial
    | cons uid uids ih =>
      intro w
      exact (safe_bulkAssignUser hop hrole uid).run_bind (fun _ w' _ _ => ih w')
  exact hloop userIDs w₁

/-- Every operation writes only roles of the right origin, and a successful removal has
written. -/
lemma safe_call {op : RoleOperation} (hop : ops[i]? = some op) :
    (provenance (SameRoles db) (Justified db ops)).Safe exec i
      (OnSuccess (fun _ w' => ∀ userID roleID, op = .removeRole userID roleID →
        ∃ e ∈ w'.2, e.thread = i ∧ Writes userID e)) op.call.run w := by
  cases op with
  | assignRoles userID roleIDs =>
    refine (safe_assignRoles hop).mono fun r _ _ _ => ?_
    cases r with
    | ok _ => exact fun _ _ hne => nomatch hne
    | error _ => trivial
  | removeRole userID roleID =>
    refine (safe_removeRole hop).mono fun r w' _ hr => ?_
    cases r with
    | ok _ =>
      intro userID' roleID' heq
      cases heq
      exact hr
    | error _ => trivial
  | bulkAssignRole userIDs roleID =>
    refine (safe_bulkAssignRole hop).mono fun r _ _ _ => ?_
    cases r with
    | ok _ => exact fun _ _ hne => nomatch hne
    | error _ => trivial

end Safe

/-- What leaves a user's roles alone. -/
lemma getUserRoles_of_not_writes {e : RoleEvent} {userID : String} (he : ¬Writes userID e) :
    getUserRoles (e.after exec) userID = getUserRoles e.before userID := by
  obtain ⟨thread, now, q, db⟩ := e
  cases q with
  | setUserRoles other roles =>
    have hafter : Event.after exec ⟨thread, now, .setUserRoles other roles, db⟩ = (setUserRoles db other roles).2 := rfl
    rw [hafter]
    unfold setUserRoles
    by_cases hexists : userExists db other
    · rw [if_pos hexists]
      refine getUserRoles_replace_ne (fun hsame => he ?_) roles
      subst hsame
      exact ⟨hexists, roles, rfl⟩
    · rw [if_neg hexists]
  | _ => rfl

lemma mem_getUserRoles_of_writes {e : RoleEvent} {userID role : String} {roles : List String}
    (hexists : userExists e.before userID) (hreq : e.req = .setUserRoles userID roles) :
    role ∈ getUserRoles (e.after exec) userID ↔
      role ∈ uniqueStrings roles ∧ ∃ r ∈ e.before.roles.rows, r.name = role ∧ r.id ≠ "" := by
  obtain ⟨thread, now, q, db⟩ := e
  cases hreq
  have hafter : Event.after exec ⟨thread, now, .setUserRoles userID roles, db⟩ = replaceUserRoles db userID roles := by
    change (setUserRoles db userID roles).2 = _
    rw [setUserRoles, if_pos hexists]
  rw [hafter]
  exact mem_getUserRoles_replace

section Run

variable (db : Database) (ops : List RoleOperation) (schedule : List (Nat × Time))

/-- The operations, interleaved. -/
abbrev roleRun : Config Time ACRequest ACReply Database (Except ACError Unit) :=
  (start db (ops.map (fun op => op.call.run))).run exec schedule

lemma roleRun_provenance : Provenance (Justified db ops) (roleRun db ops schedule).history ∧
    ∀ i userID roleID, ops[i]? = some (.removeRole userID roleID) →
      (roleRun db ops schedule).threads[i]? = some (.done (.ok ())) →
      ∃ e ∈ (roleRun db ops schedule).history, e.thread = i ∧ Writes userID e := by
  obtain ⟨-, hprovenance, hresults⟩ := provenance_run exec (SameRoles db) (Justified db ops)
    (fun i => OnSuccess (fun _ w => ∀ userID roleID, ops[i]? = some (.removeRole userID roleID) →
      ∃ e ∈ w.2, e.thread = i ∧ Writes userID e)) db (ops.map (fun op => op.call.run)) rfl (by
      intro i p hp
      rw [List.getElem?_map, Option.map_eq_some_iff] at hp
      obtain ⟨op, hop, rfl⟩ := hp
      refine (safe_call hop).mono fun r w _ hr => ?_
      cases r with
      | ok _ => exact fun userID roleID hremove => hr userID roleID (Option.some.inj (hop.symm.trans hremove))
      | error _ => trivial) schedule
  refine ⟨hprovenance, fun i userID roleID hop hdone => ?_⟩
  obtain ⟨w, hextends, hpost⟩ := hresults i _ hdone
  obtain ⟨e, he, hwrites⟩ := hpost userID roleID hop
  exact ⟨e, hextends.subset he, hwrites⟩

lemma roleRun_roles : ∀ e ∈ (roleRun db ops schedule).history, e.before.roles = db.roles :=
  (run_replays db _ schedule).before (I := SameRoles db) rfl (fun e _ hs => (exec_roles e.env e.req e.before).trans hs)

variable {db ops schedule}

/-- What holds of a user's roles after the last write of an operation lasts, if it outlives
the writes of the operations that started later. -/
lemma roleRun_persists {userID : String} {Q : List String → Prop} {h₁ h₂ : List RoleEvent} {e : RoleEvent}
    (hoverlap : NoOverlap (roleRun db ops schedule).history userID)
    (hsplit : (roleRun db ops schedule).history = h₁ ++ e :: h₂) (he : Writes userID e)
    (hlast : ∀ d ∈ h₂, ¬(d.thread = e.thread ∧ Writes userID d)) (hQ : Q (getUserRoles (e.after exec) userID))
    (hlater : ∀ d ∈ (roleRun db ops schedule).history,
      StartedAfter (roleRun db ops schedule).history userID e.thread d.thread →
      ∀ h op roles, ops[d.thread]? = some op → userExists d.before userID → d.req = .setUserRoles userID roles →
        op.Origin db h d.thread userID roles → (∀ r ∈ h, r.thread = d.thread → Q (getUserRoles r.before userID)) →
        Q (getUserRoles (d.after exec) userID)) :
    Q (getUserRoles (roleRun db ops schedule).store userID) := by
  have hprovenance := (roleRun_provenance db ops schedule).1
  have hreplays : Replays exec db (roleRun db ops schedule).history (roleRun db ops schedule).store :=
    run_replays db _ schedule
  rw [hsplit] at hreplays
  obtain ⟨s₁, -, rfl, hreplays⟩ := replays_append.mp hreplays
  refine hreplays.persists (Q := fun s => Q (getUserRoles s userID)) hQ ?_
  intro a d b hd hbefore hcurrent
  by_cases hwrites : Writes userID d
  · obtain ⟨hstarted, hreads⟩ := later_write hoverlap hsplit he hlast hd hwrites
    obtain ⟨hexists, roles, hreq⟩ := hwrites
    have hhistory : (roleRun db ops schedule).history = (h₁ ++ e :: a) ++ d :: b := by
      rw [hsplit, hd, List.append_assoc, List.cons_append]
    obtain ⟨op, hop, horigin⟩ := hprovenance _ d b hhistory userID roles hreq
    have hmem : d ∈ (roleRun db ops schedule).history := by simp [hhistory]
    exact hlater d hmem hstarted _ op roles hop hexists hreq horigin
      (fun r hr hthread => hbefore r (hreads r hr hthread))
  · rw [getUserRoles_of_not_writes hwrites]
    exact hcurrent

/-- No update is lost in an interleaving in which no operation writes a user's roles between
the first step and the write of another. -/
theorem noLostUpdate_of_noOverlap {userID : String}
    (hoverlap : NoOverlap (roleRun db ops schedule).history userID) :
    NoLostUpdate db ops (roleRun db ops schedule) userID := by
  obtain ⟨hprovenance, hremoved⟩ := roleRun_provenance db ops schedule
  have hroles := roleRun_roles db ops schedule
  constructor
  · rintro i userIDs roleID role hop - hrole ⟨e₀, he₀, hthread₀, ⟨hexists₀, roles₀, hreq₀⟩, hadded⟩ hkept
    have htrimmed := trimSpace_of_mem_getUserRoles hadded
    have hstored := ((mem_getUserRoles_of_writes hexists₀ hreq₀).mp hadded).2
    rw [hroles e₀ he₀] at hstored
    obtain ⟨h₁, e, h₂, hsplit, ⟨rfl, he⟩, hlast⟩ := exists_last
      (p := fun d : RoleEvent => d.thread = i ∧ Writes userID d) ⟨e₀, he₀, hthread₀, hexists₀, roles₀, hreq₀⟩
    have hmem : ∀ d ∈ (roleRun db ops schedule).history, ∀ roles, userExists d.before userID →
        d.req = .setUserRoles userID roles → role ∈ uniqueStrings roles →
        role ∈ getUserRoles (d.after exec) userID := by
      intro d hd roles hexists hreq hin
      rw [mem_getUserRoles_of_writes hexists hreq, hroles d hd]
      exact ⟨hin, hstored⟩
    refine roleRun_persists (Q := fun roles => role ∈ roles) hoverlap hsplit he hlast ?_ ?_
    · obtain ⟨hexists, roles, hreq⟩ := he
      obtain ⟨op, hop', horigin⟩ := hprovenance h₁ e h₂ hsplit userID roles hreq
      cases hop.symm.trans hop'
      obtain ⟨added, hadded, r, -, -, -, rfl⟩ := horigin
      cases hrole.symm.trans hadded
      refine hmem e (by simp [hsplit]) _ hexists hreq ?_
      rw [uniqueStrings_uniqueStrings, mem_uniqueStrings]
      exact ⟨htrimmed.1, role, by simp, htrimmed.2⟩
    · intro d hd hstarted h op roles hop hexists hreq horigin hreads
      have hkeeps := hkept d hd ⟨hexists, roles, hreq⟩ hstarted op hop
      exact hmem d hd roles hexists hreq (horigin.keeps hkeeps htrimmed hreads)
  · intro i roleID role hop hdone hrole hkept
    obtain ⟨h₁, e, h₂, hsplit, ⟨rfl, he⟩, hlast⟩ := exists_last
      (p := fun d : RoleEvent => d.thread = i ∧ Writes userID d) (hremoved i userID roleID hop hdone)
    have hmem : ∀ d : RoleEvent, ∀ roles, userExists d.before userID →
        d.req = .setUserRoles userID roles → role ∉ uniqueStrings roles →
        role ∉ getUserRoles (d.after exec) userID := by
      intro d roles hexists hreq hout hin
      exact hout ((mem_getUserRoles_of_writes hexists hreq).mp hin).1
    refine roleRun_persists (Q := fun roles => role ∉ roles) hoverlap hsplit he hlast ?_ ?_
    · obtain ⟨hexists, roles, hreq⟩ := he
      obtain ⟨op, hop', horigin⟩ := hprovenance h₁ e h₂ hsplit userID roles hreq
      cases hop.symm.trans hop'
      obtain ⟨target, htarget, r, -, -, -, rfl⟩ := horigin
      cases hrole.symm.trans htarget
      refine hmem e _ hexists hreq ?_
      rw [uniqueStrings_uniqueStrings, mem_uniqueStrings]
      rintro ⟨-, stored, hstored, rfl⟩
      obtain ⟨hread, hne⟩ := List.mem_filter.mp hstored
      rw [(trimSpace_of_mem_getUserRoles hread).2] at hne
      exact of_decide_eq_true hne rfl
    · intro d hd hstarted h op roles hop hexists hreq horigin hreads
      have homits := hkept d hd ⟨hexists, roles, hreq⟩ hstarted op hop
      exact hmem d roles hexists hreq (horigin.omits homits hreads)

end Run

end RoleRuns

section Sample

attribute [local instance] asciiLibrary

namespace Sample

def userID : String := (Sample.id 1).hex

def user : Postgres.AuthUser :=
  { id := Sample.id 1, tenantID := "erg", email := "an@erg.vn", passwordHash := "hash" }

def twoRoles : Database :=
  { Database.empty with
    users := ⟨[user], by simp, by simp⟩
    roles := ⟨[⟨"role-1", "editor"⟩, ⟨"role-2", "viewer"⟩], by decide, by decide⟩ }

/-- Two administrators, each giving one role to the same user. -/
def twoBulks : List RoleOperation := [.bulkAssignRole [userID] "role-1", .bulkAssignRole [userID] "role-2"]

/-- One administrator gives a role, then another removes it. -/
def addThenRemove : List RoleOperation := [.bulkAssignRole [userID] "role-1", .removeRole userID "role-1"]

def schedule (threads : List Nat) : List (Nat × Time) := threads.map (fun i => (i, 0))

end Sample

theorem noLostUpdate_addThenRemove : NoLostUpdate Sample.twoRoles Sample.addThenRemove
    (roleRun Sample.twoRoles Sample.addThenRemove (Sample.schedule [0, 0, 0, 1, 1, 1])) Sample.userID := by
  have hthreads : (roleRun Sample.twoRoles Sample.addThenRemove
      (Sample.schedule [0, 0, 0, 1, 1, 1])).history.map Event.thread = [0, 0, 0, 1, 1, 1] := rfl
  refine noLostUpdate_of_noOverlap (noOverlap_of_sequential ?_ _)
  rw [hthreads]
  decide

/-- Both have read the roles before either writes them: the role given first is lost. -/
theorem role_lost_by_overlap : ¬NoLostUpdate Sample.twoRoles Sample.twoBulks
    (roleRun Sample.twoRoles Sample.twoBulks (Sample.schedule [0, 0, 1, 1, 0, 1])) Sample.userID := by
  intro h
  generalize hrun : roleRun Sample.twoRoles Sample.twoBulks (Sample.schedule [0, 0, 1, 1, 0, 1]) = c at h
  have hdone : c.threads[0]? = some (.done (.ok ())) := hrun ▸ rfl
  have hroles : getUserRoles c.store Sample.userID = ["viewer"] := hrun ▸ rfl
  have hevents : ∃ e₀ e₁ e₂ e₃ e₅, c.history =
      [e₀, e₁, e₂, e₃, ⟨0, 0, .setUserRoles Sample.userID ["editor"], Sample.twoRoles⟩, e₅] ∧
        e₀.thread = 0 ∧ e₂.thread = 1 ∧ c.history.map Event.thread = [0, 0, 1, 1, 0, 1] :=
    hrun ▸ ⟨_, _, _, _, _, rfl, rfl, rfl, rfl⟩
  obtain ⟨e₀, e₁, e₂, e₃, e₅, hhistory, hthread₀, hthread₂, hthreads⟩ := hevents
  generalize hwrite : (⟨0, 0, .setUserRoles Sample.userID ["editor"], Sample.twoRoles⟩ : RoleEvent) = e at hhistory
  have hwrites : e.thread = 0 ∧ Writes Sample.userID e := hwrite ▸ ⟨rfl, rfl, _, rfl⟩
  have hadded : getUserRoles (e.after exec) Sample.userID = ["editor"] := hwrite ▸ rfl
  -- Both operations have started before the write of the first.
  have hstarted : ∀ j, StartedAfter c.history Sample.userID 0 j → j ≠ 0 ∧ j ≠ 1 := by
    intro j hj
    have hearlier := hj [e₀, e₁, e₂, e₃] e [e₅] hhistory hwrites.1 hwrites.2
    exact ⟨fun heq => hearlier e₀ (by simp) (hthread₀.trans heq.symm),
      fun heq => hearlier e₂ (by simp) (hthread₂.trans heq.symm)⟩
  have hlost := h.added 0 _ "role-1" "editor" rfl hdone rfl
    ⟨e, by simp [hhistory], hwrites.1, hwrites.2, by simp [hadded]⟩ (by
      intro d hd _ hlater
      have hthread : d.thread ∈ c.history.map Event.thread := List.mem_map_of_mem hd
      obtain ⟨hne₀, hne₁⟩ := hstarted _ hlater
      rw [hthreads] at hthread
      simp [hne₀, hne₁] at hthread)
  rw [hroles] at hlost
  simp at hlost

end Sample

end ErgGo.AccessControl
