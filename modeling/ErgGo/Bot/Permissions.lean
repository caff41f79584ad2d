import ErgGo.Lib.Documents
import ErgGo.Lib.GoRuntime
import ErgGo.Lib.Runs

/-!
# Permission levels

The level of a user stands in a document of `bot_conversations` and, where the service has a
Redis, in a cache that look-ups fill. `SetUserLevel` updates the document and deletes the
cached level: it asks neither whether there is a document nor whether the delete succeeded.
-/

namespace ErgGo.Bot
open Go Documents Runs

abbrev PermissionLevel := ℤ

def permissionViewer : PermissionLevel := 1
def permissionEditor : PermissionLevel := 2
def permissionCrawler : PermissionLevel := 3
def permissionModerator : PermissionLevel := 4
def permissionAdmin : PermissionLevel := 5

/-- A document of `bot_conversations`, as far as the levels are concerned. -/
structure ConversationLevel where
  userID : String
  permissionLevel : ℤ
  deriving DecidableEq

structure PermissionService where
  docs : List ConversationLevel
  redis : Option (GoMap String)
  adminIDs : List String := []

/-- What one call meets: the keys that have expired, and failures with whether the server has
carried out the request all the same. -/
structure PermissionEnv where
  expired : List String := []
  mongo : Option (String × Bool) := none
  redisGet : Option (String × Bool) := none
  redisSet : Option (String × Bool) := none
  redisDel : Option (String × Bool) := none

def parsePermissionLevel (s : String) : Option PermissionLevel :=
  if s = "1" then some permissionViewer
  else if s = "2" then some permissionEditor
  else if s = "3" then some permissionCrawler
  else if s = "4" then some permissionModerator
  else if s = "5" then some permissionAdmin
  else none

def commandPermissions : List (String × PermissionLevel) := [
  ("rss add", permissionCrawler), ("rss remove", permissionCrawler), ("rss sync", permissionCrawler),
  ("rss list", permissionViewer), ("rss preview", permissionViewer),
  ("crawl start", permissionCrawler), ("crawl stop", permissionCrawler), ("crawl batch", permissionCrawler),
  ("crawl status", permissionViewer), ("crawl history", permissionViewer),
  ("trending top", permissionViewer), ("trending keyword", permissionViewer),
  ("draft list", permissionEditor), ("draft publish", permissionEditor), ("draft delete", permissionEditor),
  ("stats users", permissionModerator), ("stats crawler", permissionModerator), ("stats queue", permissionModerator),
  ("stats system", permissionAdmin),
  ("system health", permissionViewer), ("system ping", permissionViewer), ("system reload", permissionAdmin),
  ("system version", permissionViewer)]

def getCommandPermission (command : String) : PermissionLevel := (commandPermissions.lookup command).getD permissionViewer

def levelKey (userID : String) : String := "bot:perm:" ++ userID

namespace PermissionService

def ofUser (userID : String) (conv : ConversationLevel) : Bool := conv.userID = userID

/-- The cached text. -/
def cached (s : PermissionService) (userID : String) : Option String := s.redis.bind fun redis => redis.lookup (levelKey userID)

def expire (keys : List String) (s : PermissionService) : PermissionService :=
  { s with redis := s.redis.map fun redis => keys.foldl (fun redis key => redis.erase key) redis }

/-- `redis.Set`; its error is ignored. -/
def setCache (env : PermissionEnv) (userID value : String) (s : PermissionService) : PermissionService :=
  match env.redisSet with
  | some (_, false) => s
  | _ => { s with redis := s.redis.map fun redis => redis.insert (levelKey userID) value }

def delCache (env : PermissionEnv) (userID : String) (s : PermissionService) : PermissionService :=
  match env.redisDel with
  | some (_, false) => s
  | _ => { s with redis := s.redis.map fun redis => redis.erase (levelKey userID) }

/-- The level that `GetUserLevel` takes from the cache. -/
def cachedLevel (env : PermissionEnv) (userID : String) (s : PermissionService) : Option PermissionLevel :=
  match env.redisGet with
  | some _ => none
  | none => (s.cached userID).bind parsePermissionLevel

def getUserLevel (env : PermissionEnv) (userID : String) (s : PermissionService) :
    Except String PermissionLevel × PermissionService :=
  match s.cachedLevel env userID with
  | some level => (.ok level, s)
  | none =>
    match env.mongo with
    | some (e, _) => (.error ("permission: fetch user level: " ++ e), s)
    | none =>
      match s.docs.find? (ofUser userID) with
      | none => (.ok permissionViewer, s.setCache env userID "1")
      | some conv =>
        let level := if conv.permissionLevel = 0 then permissionViewer else conv.permissionLevel
        (.ok level, s.setCache env userID (toString level))

def setLevel (level : PermissionLevel) (conv : ConversationLevel) : ConversationLevel := { conv with permissionLevel := level }

def setUserLevel (env : PermissionEnv) (userID : String) (level : PermissionLevel) (s : PermissionService) :
    Except String Unit × PermissionService :=
  match env.mongo with
  | some (e, false) => (.error ("permission: set user level: " ++ e), s)
  | some (e, true) =>
    (.error ("permission: set user level: " ++ e), { s with docs := modifyFirst (ofUser userID) (setLevel level) s.docs })
  | none => (.ok (), delCache env userID { s with docs := modifyFirst (ofUser userID) (setLevel level) s.docs })

def isAdmin (s : PermissionService) (userID : String) : Bool := userID ≠ "" && userID ∈ s.adminIDs

/-- The decision of `Check` for a user who is no admin. -/
def checkLevel (level required : PermissionLevel) : Except String Unit :=
  if level < required then
    .error ("permission: forbidden: requires level " ++ toString required ++ ", you have level " ++ toString level)
  else .ok ()

def check (env : PermissionEnv) (userID command : String) (s : PermissionService) : Except String Unit × PermissionService :=
  if s.isAdmin userID then (.ok (), s)
  else
    match s.getUserLevel env userID with
    | (.error e, s') => (.error ("permission check: " ++ e), s')
    | (.ok level, s') => (checkLevel level (getCommandPermission command), s')

def invalidateCache (env : PermissionEnv) (userID : String) (s : PermissionService) : Except String Unit × PermissionService :=
  match s.redis, env.redisDel with
  | some _, some (e, _) => (.error e, s.delCache env userID)
  | _, _ => (.ok (), s.delCache env userID)

end PermissionService

/-! ## Histories -/

inductive PermissionCall where
  | setUserLevel (userID : String) (level : PermissionLevel)
  | getUserLevel (userID : String)
  | check (userID command : String)
  | invalidateCache (userID : String)

/-- The service with the level that each user was last given, where it is one of the five. -/
structure PermissionRun where
  service : PermissionService
  given : String → Option PermissionLevel

def assignable (level : PermissionLevel) : Bool := permissionViewer ≤ level && level ≤ permissionAdmin

def recordLevel (given : String → Option PermissionLevel) (userID : String) (level : PermissionLevel) :
    Except String Unit → String → Option PermissionLevel
  | .ok () => Function.update given userID (if assignable level then some level else none)
  | .error _ => given

def PermissionRun.step (c : PermissionRun) (call : PermissionEnv × PermissionCall) : PermissionRun :=
  let s := c.service.expire call.1.expired
  match call.2 with
  | .setUserLevel userID level =>
    let reply := s.setUserLevel call.1 userID level
    ⟨reply.2, recordLevel c.given userID level reply.1⟩
  | .getUserLevel userID => { c with service := (s.getUserLevel call.1 userID).2 }
  | .check userID command => { c with service := (s.check call.1 userID command).2 }
  | .invalidateCache userID => { c with service := (s.invalidateCache call.1 userID).2 }

/-- What a call that asks for the level of a user returns: what the level given last says, or an
error of MongoDB. -/
def AnswersLatest (c : PermissionRun) (call : PermissionEnv × PermissionCall) : Prop :=
  let s := c.service.expire call.1.expired
  match call.2 with
  | .getUserLevel userID => ∀ level ∈ c.given userID,
    (s.getUserLevel call.1 userID).1 = .ok level ∨ call.1.mongo.isSome ∧ ∃ e, (s.getUserLevel call.1 userID).1 = .error e
  | .check userID command => ∀ level ∈ c.given userID,
    (s.check call.1 userID command).1 =
        (if s.isAdmin userID then .ok () else PermissionService.checkLevel level (getCommandPermission command)) ∨
      call.1.mongo.isSome ∧ ∃ e, (s.check call.1 userID command).1 = .error e
  | .setUserLevel .. => True
  | .invalidateCache _ => True

/-- The request to delete a cached level never arrives. -/
def PermissionEnv.delLost (env : PermissionEnv) : Bool :=
  match env.redisDel with
  | some (_, false) => true
  | _ => false

def effectiveLevel (level : PermissionLevel) : PermissionLevel := if level = 0 then permissionViewer else level

/-- What is asked of `SetUserLevel`, by what becomes of its update: one that succeeds finds a
document, unless the user becomes a viewer, and the delete reaches Redis, unless no other level
is cached; one that fails leaves the level given last. -/
def AssignmentReaches (s : PermissionService) (given : Option PermissionLevel) (env : PermissionEnv) (userID : String)
    (level : PermissionLevel) : Option (String × Bool) → Prop
  | none => assignable level → ((s.docs.find? (PermissionService.ofUser userID)).isSome ∨ level = permissionViewer) ∧
      (env.delLost → ∀ other ∈ (s.cached userID).bind parsePermissionLevel, other = level)
  | some (_, false) => True
  | some (_, true) => (s.docs.find? (PermissionService.ofUser userID)).isSome → ∀ latest ∈ given, effectiveLevel level = latest

instance (s : PermissionService) (given : Option PermissionLevel) (env : PermissionEnv) (userID : String)
    (level : PermissionLevel) : DecidablePred (AssignmentReaches s given env userID level)
  | none => inferInstanceAs (Decidable (assignable level →
      ((s.docs.find? (PermissionService.ofUser userID)).isSome ∨ level = permissionViewer) ∧
        (env.delLost → ∀ other ∈ (s.cached userID).bind parsePermissionLevel, other = level)))
  | some (_, false) => .isTrue trivial
  | some (_, true) => inferInstanceAs (Decidable ((s.docs.find? (PermissionService.ofUser userID)).isSome →
      ∀ latest ∈ given, effectiveLevel level = latest))

def LevelReaches (c : PermissionRun) : PermissionEnv × PermissionCall → Prop
  | (env, .setUserLevel userID level) =>
    AssignmentReaches (c.service.expire env.expired) (c.given userID) env userID level env.mongo
  | (_, .getUserLevel _) => True
  | (_, .check ..) => True
  | (_, .invalidateCache _) => True

instance (c : PermissionRun) : DecidablePred (LevelReaches c)
  | (env, .setUserLevel userID level) => inferInstanceAs (Decidable
      (AssignmentReaches (c.service.expire env.expired) (c.given userID) env userID level env.mongo))
  | (_, .getUserLevel _) => .isTrue trivial
  | (_, .check ..) => .isTrue trivial
  | (_, .invalidateCache _) => .isTrue trivial

/-! ## What the service stores -/

namespace PermissionService

/-- The level that the documents say. -/
def storedLevel (s : PermissionService) (userID : String) : PermissionLevel :=
  match s.docs.find? (ofUser userID) with
  | none => permissionViewer
  | some conv => effectiveLevel conv.permissionLevel

variable {s : PermissionService} {env : PermissionEnv} {userID u : String} {value v : String}

lemma levelKey_inj : levelKey userID = levelKey u ↔ userID = u := String.append_right_inj _

lemma cached_expire (keys : List String) (h : (s.expire keys).cached u = some v) : s.cached u = some v := by
  obtain ⟨docs, redis, adminIDs⟩ := s
  cases redis with
  | none => exact h
  | some redis =>
    have herase : ∀ (keys : List String) (redis : GoMap String),
        (keys.foldl (fun redis key => redis.erase key) redis).lookup (levelKey u) = some v →
          redis.lookup (levelKey u) = some v := by
      intro keys
      induction keys with
      | nil => exact fun _ h => h
      | cons key keys ih =>
        intro redis h
        have hkept := ih (redis.erase key) h
        by_cases hkey : levelKey u = key
        · rw [hkey, AList.lookup_erase] at hkept
          cases hkept
        · rwa [AList.lookup_erase_ne hkey] at hkept
    exact herase keys redis h

lemma cached_setCache (h : (s.setCache env userID value).cached u = some v) :
    s.cached u = some v ∨ u = userID ∧ v = value := by
  unfold setCache at h
  split at h
  · exact .inl h
  · obtain ⟨docs, redis, adminIDs⟩ := s
    cases redis with
    | none => exact .inl h
    | some redis =>
      have hlookup : (redis.insert (levelKey userID) value).lookup (levelKey u) = some v := h
      by_cases hsame : u = userID
      · subst hsame
        rw [AList.lookup_insert, Option.some_inj] at hlookup
        exact .inr ⟨rfl, hlookup.symm⟩
      · rw [AList.lookup_insert_ne (fun hkey => hsame (levelKey_inj.mp hkey))] at hlookup
        exact .inl hlookup

lemma cached_delCache (h : (s.delCache env userID).cached u = some v) :
    s.cached u = some v ∧ (u = userID → env.delLost) := by
  unfold delCache at h
  split at h
  · next e hdel => exact ⟨h, fun _ => by unfold PermissionEnv.delLost; rw [hdel]⟩
  · obtain ⟨docs, redis, adminIDs⟩ := s
    cases redis with
    | none => cases h
    | some redis =>
      have hlookup : (redis.erase (levelKey userID)).lookup (levelKey u) = some v := h
      by_cases hsame : u = userID
      · subst hsame
        rw [AList.lookup_erase] at hlookup
        cases hlookup
      · rw [AList.lookup_erase_ne (fun hkey => hsame (levelKey_inj.mp hkey))] at hlookup
        exact ⟨hlookup, fun hu => absurd hu hsame⟩

@[simp] lemma docs_setCache : (s.setCache env userID value).docs = s.docs := by
  unfold setCache
  split <;> rfl

@[simp] lemma docs_delCache : (s.delCache env userID).docs = s.docs := by
  unfold delCache
  split <;> rfl

lemma storedLevel_congr {s' : PermissionService} (h : s'.docs = s.docs) : s'.storedLevel u = s.storedLevel u := by
  unfold storedLevel
  rw [h]

/-- What a look-up that is not answered by the cache does. -/
lemma getUserLevel_of_missed (hmissed : s.cachedLevel env userID = none) (hmongo : env.mongo = none) :
    s.getUserLevel env userID = (.ok (s.storedLevel userID), s.setCache env userID (toString (s.storedLevel userID))) := by
  unfold getUserLevel storedLevel
  rw [hmissed, hmongo]
  dsimp only
  cases s.docs.find? (ofUser userID) with
  | none => rfl
  | some conv => rfl

end PermissionService

lemma parsePermissionLevel_toString {level other : PermissionLevel} (hlevel : assignable level)
    (h : parsePermissionLevel (toString level) = some other) : other = level := by
  obtain ⟨hviewer, hadmin⟩ := Bool.and_eq_true_iff.mp hlevel
  have hfive : ∀ n : ℤ, 1 ≤ n → n ≤ 5 → n = 1 ∨ n = 2 ∨ n = 3 ∨ n = 4 ∨ n = 5 := by
    intro n hlow hhigh
    omega
  have hrange := hfive level (of_decide_eq_true hviewer) (of_decide_eq_true hadmin)
  obtain rfl | rfl | rfl | rfl | rfl := hrange
  all_goals exact (Option.some.inj h).symm

/-! ## Runs -/

/-- The level that a user was given last is stored, and no other is cached. -/
structure LevelsKept (c : PermissionRun) : Prop where
  given : ∀ userID, ∀ level ∈ c.given userID, assignable level
  stored : ∀ userID, ∀ level ∈ c.given userID, c.service.storedLevel userID = level
  cached : ∀ userID, ∀ level ∈ c.given userID, ∀ other ∈ (c.service.cached userID).bind parsePermissionLevel, other = level

namespace LevelsKept

open PermissionService

variable {c : PermissionRun} {env : PermissionEnv} {userID : String}

lemma expire (h : LevelsKept c) (keys : List String) : LevelsKept { c with service := c.service.expire keys } where
  given := h.given
  stored := h.stored
  cached userID level hlevel other hother := by
    obtain ⟨value, hvalue, hparse⟩ := Option.bind_eq_some_iff.mp hother
    exact h.cached userID level hlevel other (Option.bind_eq_some_iff.mpr ⟨value, cached_expire keys hvalue, hparse⟩)

lemma setCache (h : LevelsKept c) (env : PermissionEnv) (userID : String) :
    LevelsKept { c with service := c.service.setCache env userID (toString (c.service.storedLevel userID)) } where
  given := h.given
  stored u level hlevel := (storedLevel_congr docs_setCache).trans (h.stored u level hlevel)
  cached u level hlevel other hother := by
    obtain ⟨value, hvalue, hparse⟩ := Option.bind_eq_some_iff.mp hother
    obtain hbefore | ⟨rfl, rfl⟩ := cached_setCache hvalue
    · exact h.cached u level hlevel other (Option.bind_eq_some_iff.mpr ⟨value, hbefore, hparse⟩)
    · rw [h.stored u level hlevel] at hparse
      exact parsePermissionLevel_toString (h.given u level hlevel) hparse

lemma delCache (h : LevelsKept c) (env : PermissionEnv) (userID : String) :
    LevelsKept { c with service := c.service.delCache env userID } where
  given := h.given
  stored u level hlevel := (storedLevel_congr docs_delCache).trans (h.stored u level hlevel)
  cached u level hlevel other hother := by
    obtain ⟨value, hvalue, hparse⟩ := Option.bind_eq_some_iff.mp hother
    exact h.cached u level hlevel other (Option.bind_eq_some_iff.mpr ⟨value, (cached_delCache hvalue).1, hparse⟩)

/-- A look-up keeps the levels and returns the one given last, unless MongoDB fails. -/
lemma getUserLevel (h : LevelsKept c) (env : PermissionEnv) (userID : String) :
    LevelsKept { c with service := (c.service.getUserLevel env userID).2 } ∧
      ∀ level ∈ c.given userID, (c.service.getUserLevel env userID).1 = .ok level ∨
        env.mongo.isSome ∧ ∃ e, (c.service.getUserLevel env userID).1 = .error e := by
  cases hcached : c.service.cachedLevel env userID with
  | some found =>
    have hreply : c.service.getUserLevel env userID = (.ok found, c.service) := by
      unfold PermissionService.getUserLevel
      rw [hcached]
    rw [hreply]
    refine ⟨h, fun level hlevel => .inl ?_⟩
    unfold cachedLevel at hcached
    split at hcached
    · cases hcached
    · rw [h.cached userID level hlevel found hcached]
  | none =>
    cases hmongo : env.mongo with
    | none =>
      rw [getUserLevel_of_missed hcached hmongo]
      exact ⟨h.setCache env userID, fun level hlevel => .inl (congrArg Except.ok (h.stored userID level hlevel))⟩
    | some failure =>
      obtain ⟨e, carriedOut⟩ := failure
      have hreply : c.service.getUserLevel env userID = (.error ("permission: fetch user level: " ++ e), c.service) := by
        unfold PermissionService.getUserLevel
        rw [hcached, hmongo]
      rw [hreply]
      exact ⟨h, fun level hlevel => .inr ⟨rfl, _, rfl⟩⟩

/-- A check keeps the levels and decides by the level given last, unless MongoDB fails. -/
lemma check (h : LevelsKept c) (env : PermissionEnv) (userID command : String) :
    LevelsKept { c with service := (c.service.check env userID command).2 } ∧
      ∀ level ∈ c.given userID, (c.service.check env userID command).1 =
          (if c.service.isAdmin userID then .ok () else checkLevel level (getCommandPermission command)) ∨
        env.mongo.isSome ∧ ∃ e, (c.service.check env userID command).1 = .error e := by
  unfold PermissionService.check
  by_cases hadmin : c.service.isAdmin userID
  · simp only [if_pos hadmin]
    exact ⟨h, fun level hlevel => .inl trivial⟩
  · simp only [if_neg hadmin]
    obtain ⟨hkept, hlatest⟩ := h.getUserLevel env userID
    cases hreply : c.service.getUserLevel env userID with
    | mk reply s' =>
    rw [hreply] at hkept hlatest
    cases reply with
    | error e =>
      refine ⟨hkept, fun level hlevel => .inr ?_⟩
      obtain hok | ⟨hfailed, -⟩ := hlatest level hlevel
      · cases hok
      · exact ⟨hfailed, _, rfl⟩
    | ok found =>
      refine ⟨hkept, fun level hlevel => .inl ?_⟩
      obtain hok | ⟨-, e, herror⟩ := hlatest level hlevel
      · rw [Except.ok.inj hok]
      · cases herror

/-- The documents after an update of one user's level. -/
lemma storedLevel_setLevel (s : PermissionService) (userID u : String) (level : PermissionLevel) :
    PermissionService.storedLevel { s with docs := modifyFirst (ofUser userID) (setLevel level) s.docs } u =
      if u = userID ∧ (s.docs.find? (ofUser userID)).isSome then effectiveLevel level else s.storedLevel u := by
  unfold storedLevel
  dsimp only
  by_cases hsame : u = userID
  · subst hsame
    rw [find?_modifyFirst (p := ofUser u) (f := PermissionService.setLevel level) (fun _ => rfl)]
    cases s.docs.find? (ofUser u) with
    | none => simp
    | some conv => simp [setLevel]
  · have hdisjoint : ∀ conv, ofUser userID conv → ofUser u conv = false ∧ ofUser u (setLevel level conv) = false := by
      intro conv hconv
      have hother : ofUser u conv = false := by
        have hconv : conv.userID = userID := of_decide_eq_true hconv
        exact decide_eq_false (fun hu => hsame (hu.symm.trans hconv))
      exact ⟨hother, hother⟩
    rw [find?_modifyFirst_disjoint hdisjoint, if_neg (fun h => hsame h.1)]

/-- An update that fails but is carried out. -/
lemma setLevel (h : LevelsKept c) {userID : String} {level : PermissionLevel}
    (hkeeps : (c.service.docs.find? (ofUser userID)).isSome → ∀ latest ∈ c.given userID, effectiveLevel level = latest) :
    LevelsKept { c with service := { c.service with
      docs := modifyFirst (ofUser userID) (PermissionService.setLevel level) c.service.docs } } where
  given := h.given
  stored u latest hlatest := by
    dsimp only
    rw [storedLevel_setLevel]
    split
    · next hfound =>
      obtain ⟨rfl, hdoc⟩ := hfound
      exact hkeeps hdoc latest hlatest
    · exact h.stored u latest hlatest
  cached := h.cached

/-- An update that succeeds. -/
lemma assigned (h : LevelsKept c) {userID : String} {level : PermissionLevel}
    (hreaches : assignable level → ((c.service.docs.find? (ofUser userID)).isSome ∨ level = permissionViewer) ∧
      (env.delLost → ∀ other ∈ (c.service.cached userID).bind parsePermissionLevel, other = level)) :
    LevelsKept ⟨PermissionService.delCache env userID { c.service with
        docs := modifyFirst (ofUser userID) (PermissionService.setLevel level) c.service.docs },
      Function.update c.given userID (if assignable level then some level else none)⟩ := by
  have hgiven : ∀ u latest, latest ∈ Function.update c.given userID (if assignable level then some level else none) u →
      u = userID ∧ latest = level ∧ assignable level ∨ u ≠ userID ∧ latest ∈ c.given u := by
    intro u latest hlatest
    by_cases hsame : u = userID
    · subst hsame
      rw [Function.update_self] at hlatest
      split at hlatest
      · next hassignable => exact .inl ⟨rfl, (Option.some.inj hlatest).symm, hassignable⟩
      · cases hlatest
    · rw [Function.update_of_ne hsame] at hlatest
      exact .inr ⟨hsame, hlatest⟩
  refine ⟨fun u latest hlatest => ?_, fun u latest hlatest => ?_, fun u latest hlatest other hother => ?_⟩
  · obtain ⟨-, rfl, hassignable⟩ | ⟨-, hbefore⟩ := hgiven u latest hlatest
    · exact hassignable
    · exact h.given u latest hbefore
  · rw [storedLevel_congr docs_delCache, storedLevel_setLevel]
    obtain ⟨rfl, rfl, hassignable⟩ | ⟨hother, hbefore⟩ := hgiven u latest hlatest
    · have hviewer : (1 : ℤ) ≤ latest := of_decide_eq_true (Bool.and_eq_true_iff.mp hassignable).1
      have hnonzero : latest ≠ 0 := by
        rintro rfl
        exact absurd hviewer (by decide)
      obtain hdoc | rfl := (hreaches hassignable).1
      · rw [if_pos ⟨rfl, hdoc⟩]
        exact if_neg hnonzero
      · split
        · rfl
        · next hnone =>
          have hdoc : c.service.docs.find? (ofUser u) = none := by simpa using hnone
          unfold storedLevel
          rw [hdoc]
    · rw [if_neg (fun hfound => hother hfound.1)]
      exact h.stored u latest hbefore
  · obtain ⟨value, hvalue, hparse⟩ := Option.bind_eq_some_iff.mp hother
    obtain ⟨hcached, hlost⟩ := cached_delCache hvalue
    have hbefore : other ∈ (c.service.cached u).bind parsePermissionLevel := Option.bind_eq_some_iff.mpr ⟨value, hcached, hparse⟩
    obtain ⟨rfl, rfl, hassignable⟩ | ⟨-, hgivenBefore⟩ := hgiven u latest hlatest
    · exact (hreaches hassignable).2 (hlost rfl) other hbefore
    · exact h.cached u latest hgivenBefore other hbefore

/-- Every call keeps the levels. -/
lemma step (h : LevelsKept c) (call : PermissionEnv × PermissionCall) (hreaches : LevelReaches c call) :
    LevelsKept (c.step call) := by
  obtain ⟨env, call⟩ := call
  have hexpired := h.expire env.expired
  cases call with
  | setUserLevel userID level =>
    have hreaches : AssignmentReaches (c.service.expire env.expired) (c.given userID) env userID level env.mongo := hreaches
    simp only [PermissionRun.step, PermissionService.setUserLevel]
    cases hmongo : env.mongo with
    | none =>
      rw [hmongo] at hreaches
      exact hexpired.assigned hreaches
    | some failure =>
      obtain ⟨e, carriedOut⟩ := failure
      rw [hmongo] at hreaches
      cases carriedOut with
      | false => exact hexpired
      | true => exact hexpired.setLevel hreaches
  | getUserLevel userID => exact (hexpired.getUserLevel env userID).1
  | check userID command => exact (hexpired.check env userID command).1
  | invalidateCache userID =>
    have hdeleted := hexpired.delCache env userID
    simp only [PermissionRun.step, PermissionService.invalidateCache]
    split
    · exact hdeleted
    · exact hdeleted

lemma answersLatest (h : LevelsKept c) (call : PermissionEnv × PermissionCall) : AnswersLatest c call := by
  obtain ⟨env, call⟩ := call
  have hexpired := h.expire env.expired
  cases call with
  | setUserLevel userID level => trivial
  | getUserLevel userID => exact (hexpired.getUserLevel env userID).2
  | check userID command => exact (hexpired.check env userID command).2
  | invalidateCache userID => trivial

end LevelsKept

/-- From any documents and any cache, in every run whose assignments reach the store and the
cache, the level given last is the one that is found. -/
theorem answersLatest_run (s : PermissionService) (calls : List (PermissionEnv × PermissionCall))
    (h : Throughout PermissionRun.step LevelReaches ⟨s, fun _ => none⟩ calls) :
    Throughout PermissionRun.step AnswersLatest ⟨s, fun _ => none⟩ calls := by
  have hstart : LevelsKept ⟨s, fun _ => none⟩ := by
    refine ⟨fun u level hlevel => ?_, fun u level hlevel => ?_, fun u level hlevel => ?_⟩ <;> cases hlevel
  exact Throughout.of_invariant (fun c call hc hcall => hc.step call hcall) (fun c call hc _ => hc.answersLatest call) hstart h

namespace Sample

/-- A user with a conversation becomes an admin while a lower level is cached. -/
def promoted : List (PermissionEnv × PermissionCall) :=
  [({}, .getUserLevel "user-1"), ({}, .setUserLevel "user-1" permissionAdmin), ({}, .check "user-1" "system reload"),
    ({}, .getUserLevel "user-1")]

end Sample

theorem answersLatest_promoted :
    Throughout PermissionRun.step LevelReaches ⟨⟨[⟨"user-1", 0⟩], some ∅, []⟩, fun _ => none⟩ Sample.promoted ∧
      Throughout PermissionRun.step AnswersLatest ⟨⟨[⟨"user-1", 0⟩], some ∅, []⟩, fun _ => none⟩ Sample.promoted := by
  have hreaches : Throughout PermissionRun.step LevelReaches ⟨⟨[⟨"user-1", 0⟩], some ∅, []⟩, fun _ => none⟩ Sample.promoted := by
    decide
  exact ⟨hreaches, answersLatest_run _ _ hreaches⟩

/-- The same calls for a user without a conversation: the user stays a viewer. -/
theorem promoted_without_document :
    ¬Throughout PermissionRun.step AnswersLatest ⟨⟨[], some ∅, []⟩, fun _ => none⟩ Sample.promoted := by
  intro h
  obtain hok | ⟨hfailed, -⟩ := h.2.2.2.1 permissionAdmin rfl
  · have hlevel : permissionViewer = permissionAdmin := Except.ok.inj hok
    exact absurd hlevel (by decide)
  · exact absurd hfailed (by decide)

end ErgGo.Bot
