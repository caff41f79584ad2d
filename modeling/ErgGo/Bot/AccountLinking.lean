import ErgGo.Lib.Bson

/-!
# Linking platform users to accounts

A code is stored in Redis for five minutes and links the platform user who presents it. The
link is a document whose `unlinked_at` says whether it is active: linking sets it to `null`,
unlinking to the time, and the look-ups ask for documents without the field.
-/

namespace ErgGo.Bot
open Go Documents Bson

def linkCodeCharset : List Char := "ABCDEFGHJKLMNPQRSTUVWXYZ23456789".toList
def linkCodeLength : ℕ := 6
def linkCodeTTL : Time := 300000000000
def linkCodePrefix : String := "bot:link:"

/-- A document of `bot_linked_accounts`. -/
structure BotLinkedAccount where
  platform : String
  platformUserID : String
  internalUserID : String
  verifiedAt : Time
  linkedAt : Time
  unlinkedAt : BsonField Time
  deriving DecidableEq

structure RedisEntry where
  value : String
  expiresAt : Time

structure LinkStore where
  redis : GoMap RedisEntry
  accounts : List BotLinkedAccount

/-- What one call meets: random bytes, the clocks of Redis and of the process, failures. -/
structure LinkEnv where
  random : ℕ → UInt8 := fun _ => 0
  redisTime : Time
  now : Time
  redisError : Option String := none
  delError : Option String := none
  mongoError : Option String := none

namespace LinkStore

/-- `redis.Get`, with `""` for a key that is not there or has expired. -/
def get (s : LinkStore) (now : Time) (key : String) : String :=
  match s.redis.lookup key with
  | some entry => if now < entry.expiresAt then entry.value else ""
  | none => ""

end LinkStore

def generateCode (random : ℕ → UInt8) (length : ℕ) : String :=
  String.ofList ((List.range length).map (fun i => linkCodeCharset.getD ((random i).toNat % linkCodeCharset.length) 'A'))

def sameUser (platform platformUserID : String) (d : BotLinkedAccount) : Bool :=
  d.platform = platform && d.platformUserID = platformUserID

/-- The `$set` of a verification. -/
def setLinked (userID : String) (now : Time) (d : BotLinkedAccount) : BotLinkedAccount :=
  { d with internalUserID := userID, verifiedAt := dateTime now, linkedAt := dateTime now, unlinkedAt := .null }

def newLink (platform platformUserID userID : String) (now : Time) : BotLinkedAccount :=
  ⟨platform, platformUserID, userID, dateTime now, dateTime now, .null⟩

def setUnlinked (now : Time) (d : BotLinkedAccount) : BotLinkedAccount :=
  { d with unlinkedAt := .value (dateTime now) }

namespace LinkService

def createLinkCode (env : LinkEnv) (userID : String) (s : LinkStore) : Except String String × LinkStore :=
  let code := generateCode env.random linkCodeLength
  match env.redisError with
  | some e => (.error ("link: create code: " ++ e), s)
  | none => (.ok code, { s with redis := s.redis.insert (linkCodePrefix ++ code) ⟨userID, env.redisTime + linkCodeTTL⟩ })

/-- The upsert at the end of `VerifyLinkCode`. -/
def saveLink (env : LinkEnv) (platform platformUserID userID : String) (s : LinkStore) : Except String String × LinkStore :=
  match env.mongoError with
  | some e => (.error ("link: upsert account: " ++ e), s)
  | none =>
    let accounts := upsertOne (sameUser platform platformUserID) (setLinked userID env.now)
      (newLink platform platformUserID userID env.now) s.accounts
    (.ok userID, { s with accounts := accounts })

def verifyLinkCode (env : LinkEnv) (platform platformUserID code : String) (s : LinkStore) :
    Except String String × LinkStore :=
  let key := linkCodePrefix ++ code
  match env.redisError with
  | some e => (.error ("link: get code: " ++ e), s)
  | none =>
    if s.get env.redisTime key = "" then (.error "link: code not found or expired", s)
    else
      saveLink env platform platformUserID (s.get env.redisTime key)
        (if env.delError.isSome then s else { s with redis := s.redis.erase key })

def getLinkedAccounts (env : LinkEnv) (internalUserID : String) (s : LinkStore) : Except String (List BotLinkedAccount) :=
  match env.mongoError with
  | some e => .error ("link: list accounts: " ++ e)
  | none => .ok (s.accounts.filter (fun d => d.internalUserID = internalUserID && !d.unlinkedAt.exists?))

def getAccountByPlatformUser (env : LinkEnv) (platform platformUserID : String) (s : LinkStore) :
    Except String (Option BotLinkedAccount) :=
  match env.mongoError with
  | some e => .error ("link: get account: " ++ e)
  | none => .ok (s.accounts.find? (fun d => sameUser platform platformUserID d && !d.unlinkedAt.exists?))

def unlinkAccount (env : LinkEnv) (platform platformUserID : String) (s : LinkStore) : Except String Unit × LinkStore :=
  match env.mongoError with
  | some e => (.error ("link: unlink: " ++ e), s)
  | none => (.ok (), { s with accounts := modifyFirst (sameUser platform platformUserID) (setUnlinked env.now) s.accounts })

end LinkService

/-! ## Histories -/

inductive LinkOperation where
  | createLinkCode (userID : String)
  | verifyLinkCode (platform platformUserID code : String)
  | getLinkedAccounts (internalUserID : String)
  | getAccountByPlatformUser (platform platformUserID : String)
  | unlinkAccount (platform platformUserID : String)

/-- What a successful call means for a platform user. -/
inductive LinkEvent where
  | linked (platform platformUserID internalUserID : String)
  | unlinked (platform platformUserID : String)

def LinkEvent.concerns (platform platformUserID : String) : LinkEvent → Bool
  | .linked p u _ => p = platform && u = platformUserID
  | .unlinked p u => p = platform && u = platformUserID

def LinkEvent.user : LinkEvent → Option String
  | .linked _ _ userID => some userID
  | .unlinked .. => none

structure LinkConfig where
  store : LinkStore
  /-- The latest event first. -/
  history : List LinkEvent

/-- The event of a call that returned `reply`, if it returned no error. -/
def recordEvent {α : Type} (history : List LinkEvent) (reply : Except String α) (event : α → LinkEvent) : List LinkEvent :=
  match reply with
  | .ok a => event a :: history
  | .error _ => history

def linkStep (c : LinkConfig) (call : LinkEnv × LinkOperation) : LinkConfig :=
  match call.2 with
  | .createLinkCode userID => { c with store := (LinkService.createLinkCode call.1 userID c.store).2 }
  | .verifyLinkCode platform platformUserID code =>
    let reply := LinkService.verifyLinkCode call.1 platform platformUserID code c.store
    ⟨reply.2, recordEvent c.history reply.1 (.linked platform platformUserID)⟩
  | .unlinkAccount platform platformUserID =>
    let reply := LinkService.unlinkAccount call.1 platform platformUserID c.store
    ⟨reply.2, recordEvent c.history reply.1 (fun _ => .unlinked platform platformUserID)⟩
  | .getLinkedAccounts _ => c
  | .getAccountByPlatformUser .. => c

/-- The calls, made one after another, from an empty collection. -/
def linkRun (redis : GoMap RedisEntry) (calls : List (LinkEnv × LinkOperation)) : LinkConfig :=
  calls.foldl linkStep ⟨⟨redis, []⟩, []⟩

/-- The user of the most recent successful verification, unless an unlinking came later. -/
def linkedUser (history : List LinkEvent) (platform platformUserID : String) : Option String :=
  (history.find? (LinkEvent.concerns platform platformUserID)).bind LinkEvent.user

/-- Both look-ups, where they return no error, return the links of the history. -/
structure LookupsAgree (c : LinkConfig) : Prop where
  byPlatformUser : ∀ env platform platformUserID account,
    LinkService.getAccountByPlatformUser env platform platformUserID c.store = .ok account →
      account.map (·.internalUserID) = linkedUser c.history platform platformUserID
  byInternalUser : ∀ env userID accounts, LinkService.getLinkedAccounts env userID c.store = .ok accounts →
    ∀ platform platformUserID, (∃ d ∈ accounts, sameUser platform platformUserID d) ↔
      linkedUser c.history platform platformUserID = some userID

/-! ## What the documents record -/

/-- The link that a document stands for. -/
def activeUser (d : BotLinkedAccount) : Option String := if d.unlinkedAt.get?.isSome then none else some d.internalUserID

/-- The documents record the links of the history, each with the field `unlinked_at`. -/
structure Records (c : LinkConfig) : Prop where
  links : ∀ platform platformUserID, (c.store.accounts.find? (sameUser platform platformUserID)).bind activeUser =
    linkedUser c.history platform platformUserID
  written : ∀ d ∈ c.store.accounts, d.unlinkedAt.exists?

lemma sameUser_iff {platform platformUserID : String} {d : BotLinkedAccount} :
    sameUser platform platformUserID d ↔ d.platform = platform ∧ d.platformUserID = platformUserID := by
  simp [sameUser]

/-- An update that keeps the platform user is not seen by look-ups of other users. -/
lemma sameUser_disjoint {platform platformUserID p u : String} {f : BotLinkedAccount → BotLinkedAccount}
    (hf : ∀ d, (f d).platform = d.platform ∧ (f d).platformUserID = d.platformUserID)
    (hother : ¬(platform = p ∧ platformUserID = u)) (d : BotLinkedAccount) (hd : sameUser platform platformUserID d) :
    sameUser p u d = false ∧ sameUser p u (f d) = false := by
  obtain ⟨hplatform, huser⟩ := sameUser_iff.mp hd
  obtain ⟨hfp, hfu⟩ := hf d
  rw [Bool.eq_false_iff, Bool.eq_false_iff, ne_eq, ne_eq, sameUser_iff, sameUser_iff, hfp, hfu, hplatform, huser]
  exact ⟨hother, hother⟩

lemma sameUser_setLinked (platform platformUserID userID : String) (now : Time) (d : BotLinkedAccount) :
    sameUser platform platformUserID (setLinked userID now d) = sameUser platform platformUserID d := rfl

lemma sameUser_setUnlinked (platform platformUserID : String) (now : Time) (d : BotLinkedAccount) :
    sameUser platform platformUserID (setUnlinked now d) = sameUser platform platformUserID d := rfl

lemma linkedUser_cons (event : LinkEvent) (history : List LinkEvent) (p u : String) :
    linkedUser (event :: history) p u = if event.concerns p u then event.user else linkedUser history p u := by
  unfold linkedUser
  by_cases hevent : event.concerns p u
  · rw [List.find?_cons_of_pos hevent, if_pos hevent]
    rfl
  · rw [List.find?_cons_of_neg hevent, if_neg hevent]

lemma concerns_linked {platform platformUserID userID p u : String} :
    (LinkEvent.linked platform platformUserID userID).concerns p u ↔ platform = p ∧ platformUserID = u := by
  simp [LinkEvent.concerns]

lemma concerns_unlinked {platform platformUserID p u : String} :
    (LinkEvent.unlinked platform platformUserID).concerns p u ↔ platform = p ∧ platformUserID = u := by
  simp [LinkEvent.concerns]

section Steps

variable {c : LinkConfig}

/-- A successful verification. -/
lemma Records.linked (hc : Records c) (redis : GoMap RedisEntry) (platform platformUserID userID : String) (now : Time) :
    Records ⟨⟨redis, upsertOne (sameUser platform platformUserID) (setLinked userID now)
      (newLink platform platformUserID userID now) c.store.accounts⟩,
      .linked platform platformUserID userID :: c.history⟩ where
  links p u := by
    dsimp only
    rw [linkedUser_cons]
    by_cases hsame : platform = p ∧ platformUserID = u
    · obtain ⟨rfl, rfl⟩ := hsame
      have hnew : sameUser platform platformUserID (newLink platform platformUserID userID now) := by simp [sameUser, newLink]
      rw [if_pos (concerns_linked.mpr ⟨rfl, rfl⟩), find?_upsertOne (sameUser_setLinked _ _ _ _) hnew]
      cases c.store.accounts.find? (sameUser platform platformUserID) with
      | none => rfl
      | some d => rfl
    · have hnew : sameUser p u (newLink platform platformUserID userID now) = false := by
        rw [Bool.eq_false_iff, ne_eq, sameUser_iff]
        exact hsame
      have hlinked : ∀ d, (setLinked userID now d).platform = d.platform ∧
          (setLinked userID now d).platformUserID = d.platformUserID := fun d => ⟨rfl, rfl⟩
      rw [if_neg (fun h => hsame (concerns_linked.mp h)), ← hc.links,
        find?_upsertOne_disjoint (sameUser_disjoint hlinked hsame) hnew]
  written := forall_upsertOne hc.written (fun _ _ => rfl) rfl

/-- A successful unlinking. -/
lemma Records.unlinked (hc : Records c) (redis : GoMap RedisEntry) (platform platformUserID : String) (now : Time) :
    Records ⟨⟨redis, modifyFirst (sameUser platform platformUserID) (setUnlinked now) c.store.accounts⟩,
      .unlinked platform platformUserID :: c.history⟩ where
  links p u := by
    dsimp only
    rw [linkedUser_cons]
    by_cases hsame : platform = p ∧ platformUserID = u
    · obtain ⟨rfl, rfl⟩ := hsame
      rw [if_pos (concerns_unlinked.mpr ⟨rfl, rfl⟩), find?_modifyFirst (sameUser_setUnlinked _ _ _)]
      cases c.store.accounts.find? (sameUser platform platformUserID) with
      | none => rfl
      | some d => rfl
    · have hunlinked : ∀ d, (setUnlinked now d).platform = d.platform ∧
          (setUnlinked now d).platformUserID = d.platformUserID := fun d => ⟨rfl, rfl⟩
      rw [if_neg (fun h => hsame (concerns_unlinked.mp h)), ← hc.links,
        find?_modifyFirst_disjoint (sameUser_disjoint hunlinked hsame)]
  written := forall_modifyFirst hc.written (fun _ _ => rfl)

lemma Records.saveLink (hc : Records c) (env : LinkEnv) (platform platformUserID userID : String)
    (redis : GoMap RedisEntry) :
    let reply := LinkService.saveLink env platform platformUserID userID { c.store with redis := redis }
    Records ⟨reply.2, recordEvent c.history reply.1 (.linked platform platformUserID)⟩ := by
  unfold LinkService.saveLink
  cases env.mongoError with
  | some e => exact ⟨hc.links, hc.written⟩
  | none => exact hc.linked redis platform platformUserID userID env.now

/-- Every call keeps the records true. -/
lemma Records.step (hc : Records c) (call : LinkEnv × LinkOperation) : Records (linkStep c call) := by
  obtain ⟨env, operation⟩ := call
  cases operation with
  | createLinkCode userID =>
    simp only [linkStep, LinkService.createLinkCode]
    cases env.redisError with
    | some e => exact hc
    | none => exact ⟨hc.links, hc.written⟩
  | verifyLinkCode platform platformUserID code =>
    simp only [linkStep, LinkService.verifyLinkCode]
    cases env.redisError with
    | some e => exact hc
    | none =>
      dsimp only
      split_ifs
      · exact hc
      · exact hc.saveLink env platform platformUserID _ c.store.redis
      · exact hc.saveLink env platform platformUserID _ _
  | getLinkedAccounts userID => exact hc
  | getAccountByPlatformUser platform platformUserID => exact hc
  | unlinkAccount platform platformUserID =>
    simp only [linkStep, LinkService.unlinkAccount]
    cases env.mongoError with
    | some e => exact hc
    | none => exact hc.unlinked c.store.redis platform platformUserID env.now

end Steps

/-- After every sequence of calls the documents record the links. -/
theorem records_linkRun (redis : GoMap RedisEntry) (calls : List (LinkEnv × LinkOperation)) :
    Records (linkRun redis calls) := by
  unfold linkRun
  induction calls using List.reverseRecOn with
  | nil => exact ⟨fun _ _ => rfl, by simp⟩
  | append_singleton calls call ih =>
    rw [List.foldl_concat]
    exact ih.step call

/-! ## What the look-ups return -/

/-- No document lacks the field, so the look-ups find nothing: they are right exactly if no
platform user is linked. -/
theorem lookupsAgree_iff (redis : GoMap RedisEntry) (calls : List (LinkEnv × LinkOperation)) :
    LookupsAgree (linkRun redis calls) ↔
      ∀ platform platformUserID, linkedUser (linkRun redis calls).history platform platformUserID = none := by
  have hwritten := (records_linkRun redis calls).written
  have hnothing : ∀ env platform platformUserID account,
      LinkService.getAccountByPlatformUser env platform platformUserID (linkRun redis calls).store = .ok account →
        account = none := by
    intro env platform platformUserID account haccount
    unfold LinkService.getAccountByPlatformUser at haccount
    cases hmongo : env.mongoError with
    | some e =>
      rw [hmongo] at haccount
      cases haccount
    | none =>
      rw [hmongo, Except.ok.injEq] at haccount
      rw [← haccount, List.find?_eq_none]
      intro d hd
      simp [hwritten d hd]
  have hempty : ∀ env userID accounts, LinkService.getLinkedAccounts env userID (linkRun redis calls).store = .ok accounts →
      accounts = [] := by
    intro env userID accounts haccounts
    unfold LinkService.getLinkedAccounts at haccounts
    cases hmongo : env.mongoError with
    | some e =>
      rw [hmongo] at haccounts
      cases haccounts
    | none =>
      rw [hmongo, Except.ok.injEq] at haccounts
      rw [← haccounts, List.filter_eq_nil_iff]
      intro d hd
      simp [hwritten d hd]
  constructor
  · intro hagree platform platformUserID
    have hreply : LinkService.getAccountByPlatformUser ⟨fun _ => 0, 0, 0, none, none, none⟩ platform platformUserID
        (linkRun redis calls).store = .ok _ := rfl
    have hnone := hnothing _ _ _ _ hreply
    rw [← hagree.byPlatformUser _ _ _ _ hreply, hnone]
    rfl
  · intro hnone
    constructor
    · intro env platform platformUserID account haccount
      rw [hnothing _ _ _ _ haccount, hnone]
      rfl
    · intro env userID accounts haccounts platform platformUserID
      rw [hempty _ _ _ haccounts, hnone]
      simp

/-- A code created and presented within five minutes. -/
def linkedOnce : List (LinkEnv × LinkOperation) :=
  [({ redisTime := 0, now := 0 }, .createLinkCode "user-1"),
    ({ redisTime := 60000000000, now := 60000000000 }, .verifyLinkCode "telegram" "4711" "AAAAAA")]

theorem linked_account_is_not_found : ¬LookupsAgree (linkRun ∅ linkedOnce) := by
  rw [lookupsAgree_iff]
  intro hnone
  have hlinked : linkedUser (linkRun ∅ linkedOnce).history "telegram" "4711" = some "user-1" := by decide
  rw [hnone] at hlinked
  cases hlinked

end ErgGo.Bot
