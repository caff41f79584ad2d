import ErgGo.Lms.Entities

/-!
# Access records in PostgreSQL

The tables behind access management and the functions of its repository.
-/

namespace ErgGo.Lms
open Go Documents

structure AccessUserRecord where
  id : String
  email : String := ""
  fullName : String := ""
  avatarURL : String := ""
  phone : String := ""
  status : String := "ACTIVE"
  accountType : String := "erg"
  isProfileCompleted : Bool := false
  createdAt : Time := 0
  roles : List String := []

/-- A row of `users`, with the names of its roles. -/
structure AuthUser where
  record : AccessUserRecord
  tenantID : String
  deletedAt : Option Time := none

def AuthUser.id (user : AuthUser) : String := user.record.id

def uniqueStrings (values : List String) : List String :=
  sortStrings ((values.map trimSpace).filter (fun value => value ≠ "")).dedup

lemma mem_uniqueStrings {values : List String} {s : String} :
    s ∈ uniqueStrings values ↔ s ≠ "" ∧ ∃ value ∈ values, trimSpace value = s := by
  unfold uniqueStrings
  rw [mem_sortStrings, List.mem_dedup, List.mem_filter, List.mem_map, decide_eq_true_eq, and_comm]

lemma uniqueStrings_ext {a b : List String} (h : ∀ s, s ∈ uniqueStrings a ↔ s ∈ uniqueStrings b) :
    uniqueStrings a = uniqueStrings b := by
  apply sortStrings_congr
  rw [List.perm_ext_iff_of_nodup (List.nodup_dedup _) (List.nodup_dedup _)]
  intro s
  have hs := h s
  unfold uniqueStrings at hs
  rwa [mem_sortStrings, mem_sortStrings] at hs

lemma uniqueStrings_uniqueStrings (values : List String) :
    uniqueStrings (uniqueStrings values) = uniqueStrings values := by
  apply uniqueStrings_ext
  intro s
  rw [mem_uniqueStrings, mem_uniqueStrings]
  refine and_congr_right fun hs => ⟨?_, ?_⟩
  · rintro ⟨trimmed, htrimmed, rfl⟩
    obtain ⟨-, value, hvalue, rfl⟩ := mem_uniqueStrings.mp htrimmed
    exact ⟨value, hvalue, (trimSpace_trimSpace value).symm⟩
  · rintro ⟨value, hvalue, rfl⟩
    exact ⟨trimSpace value, mem_uniqueStrings.mpr ⟨hs, value, hvalue, rfl⟩, trimSpace_trimSpace value⟩

/-- A row of `user_access_scopes`; the modules are what its JSON text decodes to. -/
structure UserAccessScope where
  id : String
  userID : String
  centerID : String
  modules : List String
  role : String
  createdAt : Time := 0
  updatedAt : Time := 0

/-- What a row grants: everything but its id and time stamps. -/
def UserAccessScope.grant (row : UserAccessScope) : String × String × List String × String :=
  (row.userID, row.centerID, row.modules, row.role)

structure UserAccessRecord where
  id : String
  userID : String
  centerID : String
  modules : List String
  role : String

/-- A row as `listAccess` reads it. -/
def UserAccessScope.record (row : UserAccessScope) : UserAccessRecord where
  id := row.id
  userID := row.userID
  centerID := row.centerID
  modules := uniqueStrings row.modules
  role := row.role

/-- The tables; of `centers` only the ids matter, to which scopes refer. -/
structure AccessDatabase where
  users : Collection AuthUser.id
  centerIDs : List String
  scopes : Collection UserAccessScope.id

/-- The clock during a transaction and the ids it generates. -/
structure AccessEnv where
  now : Time
  newIDs : ℕ → ObjectID

/-- Storing into a `varchar(n)`: a NUL is refused, as is excess length other than spaces. -/
def varchar (n : ℕ) (s : String) : Option String :=
  if Char.ofNat 0 ∈ s.toList then none
  else if (s.toList.drop n).all (fun c => c = ' ') then some (String.ofList (s.toList.take n))
  else none

namespace AccessDatabase

def getUser (db : AccessDatabase) (tenantID userID : String) : Option AccessUserRecord :=
  (db.users.find (fun user => user.tenantID = tenantID && user.id = userID && user.deletedAt.isNone)).map
    AuthUser.record

def listAccess [Library] (db : AccessDatabase) (userID : String) : List UserAccessRecord :=
  (Library.sortSlice (fun a b => a.createdAt < b.createdAt)
    (db.scopes.docs.filter (fun row => row.userID = userID))).map UserAccessScope.record

/-- The row as the table takes it, if it does: its columns fit and its user and center exist. -/
def admitted (db : AccessDatabase) (row : UserAccessScope) : Option UserAccessScope :=
  match varchar 24 row.id with
  | some id =>
    if row.userID ∈ db.users.docs.map AuthUser.id ∧ row.centerID ∈ db.centerIDs ∧ row.role.length ≤ 32 then
      some { row with id := id }
    else none
  | none => none

/-- The rows `replaceAccess` creates. -/
def rows (env : AccessEnv) (userID : String) (policies : List UserAccessRecord) : List UserAccessScope :=
  policies.zipIdx.map (fun entry =>
    { id := if entry.1.id = "" then (env.newIDs entry.2).hex else entry.1.id
      userID := userID
      centerID := entry.1.centerID
      modules := uniqueStrings entry.1.modules
      role := entry.1.role
      createdAt := env.now
      updatedAt := env.now })

/-- One transaction that deletes the rows of the user and creates the new ones. -/
def replaceAccess (env : AccessEnv) (db : AccessDatabase) (userID : String)
    (policies : List UserAccessRecord) : Except LmsError AccessDatabase :=
  match (rows env userID policies).mapM db.admitted with
  | none => .error .storeFailure
  | some created =>
    match (db.scopes.deleteMany (fun row => row.userID = userID)).insertMany created with
    | none => .error .storeFailure
    | some scopes => .ok { db with scopes := scopes }

lemma grant_admitted {db : AccessDatabase} {row row' : UserAccessScope} (h : db.admitted row = some row') :
    row'.grant = row.grant := by
  unfold admitted at h
  split at h
  · split at h
    · cases h
      rfl
    · cases h
  · cases h

lemma map_of_mapM {α β γ : Type} {f : α → Option β} {g : β → γ} {g' : α → γ}
    (hf : ∀ {a b}, f a = some b → g b = g' a) {l : List α} {l' : List β} (h : l.mapM f = some l') :
    l'.map g = l.map g' := by
  induction l generalizing l' with
  | nil =>
    cases h
    rfl
  | cons a l ih =>
    rw [List.mapM_cons] at h
    obtain ⟨b, hb, h⟩ := Option.bind_eq_some_iff.mp h
    obtain ⟨bs, hbs, h⟩ := Option.bind_eq_some_iff.mp h
    cases h
    rw [List.map_cons, List.map_cons, hf hb, ih hbs]

lemma replaceAccess_ok {env : AccessEnv} {db db' : AccessDatabase} {userID : String}
    {policies : List UserAccessRecord} (h : db.replaceAccess env userID policies = .ok db') :
    ∃ created, db' = { db with scopes := db'.scopes } ∧
      db'.scopes.docs = db.scopes.docs.filter (fun row => !decide (row.userID = userID)) ++ created ∧
      created.map UserAccessScope.grant = policies.map (fun policy =>
        (userID, policy.centerID, uniqueStrings policy.modules, policy.role)) := by
  unfold replaceAccess at h
  cases hcreated : (rows env userID policies).mapM db.admitted with
  | none =>
    rw [hcreated] at h
    cases h
  | some created =>
    rw [hcreated] at h
    dsimp only at h
    split at h
    · cases h
    · next scopes hscopes =>
      cases h
      refine ⟨created, rfl, Collection.docs_insertMany hscopes, ?_⟩
      rw [map_of_mapM grant_admitted hcreated, rows, List.map_map, ← List.zipIdx_map_fst 0 policies,
        List.map_map, List.zipIdx_map_fst]
      rfl

end AccessDatabase

end ErgGo.Lms
