import ErgGo.Lib.Bson
import ErgGo.Lib.Runs

/-!
# Refreshing a feed

The job fetches a feed and writes what it has counted: all items are added to `item_count`, the
items that are newer than every one before them are reported as new, and a failed fetch sets
`error_count` to one. A feed of the legacy collection is read but these fields are not written.
-/

namespace ErgGo.Crawler
open Go Documents Bson Runs

structure RSSFeed where
  id : String
  url : String
  frequency : String
  enabled : Bool
  lastFetchAt : Option Time
  lastItemAt : Option Time
  itemCount : ℤ
  errorCount : ℤ
  lastError : String
  etag : String
  lastModified : String
  updatedAt : Time

/-- An item of a fetched feed; `pubDate` is zero where the feed has none. -/
structure FeedItem where
  link : String
  pubDate : Time

structure FetchedFeed where
  etag : String
  lastModified : String
  items : List FeedItem

/-- The two collections of feeds, the legacy one as `normalizeLegacyFeedDoc` reads it. -/
structure FeedStore where
  feeds : List RSSFeed
  legacyFeeds : List RSSFeed

/-- What one job meets: successive clock readings, the site, and failures of MongoDB, an update
with whether it has been carried out all the same. -/
structure RefreshEnv where
  clock : ℕ → Time
  fetch : (url etag lastModified : String) → Except String FetchedFeed
  getError : Option String := none
  updateError : Option (String × Bool) := none

/-- The fields that a job sets. -/
structure FeedUpdate where
  lastFetchAt : Option Time := none
  errorCount : ℤ
  lastError : String
  etag : Option String := none
  lastModified : Option String := none
  itemCount : Option ℤ := none
  lastItemAt : Option Time := none

def FeedUpdate.apply (update : FeedUpdate) (now : Time) (feed : RSSFeed) : RSSFeed :=
  { feed with
    lastFetchAt := update.lastFetchAt.map dateTime <|> feed.lastFetchAt
    errorCount := update.errorCount
    lastError := update.lastError
    etag := update.etag.getD feed.etag
    lastModified := update.lastModified.getD feed.lastModified
    itemCount := update.itemCount.getD feed.itemCount
    lastItemAt := update.lastItemAt.map dateTime <|> feed.lastItemAt
    updatedAt := dateTime now }

def crawlerIDFilter (id : String) (feed : RSSFeed) : Bool := feed.id = id

namespace FeedStore

def getFeed (id : String) (s : FeedStore) : Option RSSFeed :=
  s.feeds.find? (crawlerIDFilter id) <|> s.legacyFeeds.find? (crawlerIDFilter id)

/-- `UpdateFeed` with fields that it does not pass on to the legacy collection. -/
def updateFeed (env : RefreshEnv) (now : Time) (id : String) (update : FeedUpdate) (s : FeedStore) :
    Except String Unit × FeedStore :=
  let updated := { s with feeds := modifyFirst (crawlerIDFilter id) (update.apply now) s.feeds }
  match env.updateError with
  | none => (.ok (), updated)
  | some (e, true) => (.error ("crawler.UpdateFeed: " ++ e), updated)
  | some (e, false) => (.error ("crawler.UpdateFeed: " ++ e), s)

end FeedStore

def minute : Time := 60000000000

def refreshInterval (frequency : String) : Time :=
  if frequency = "5m" then 5 * minute
  else if frequency = "15m" then 15 * minute
  else if frequency = "1h" then 60 * minute
  else if frequency = "6h" then 360 * minute
  else if frequency = "12h" then 720 * minute
  else if frequency = "daily" then 1440 * minute
  else 60 * minute

def isFeedDue (now : Time) (feed : RSSFeed) : Bool :=
  match feed.lastFetchAt with
  | none => true
  | some lastFetchAt => lastFetchAt + refreshInterval (if feed.frequency = "" then "1h" else feed.frequency) < now

/-- The time of each item, in turn: its date, or the clock where it has none. -/
def itemTimes (clock : ℕ → Time) (items : List FeedItem) : List Time :=
  items.mapIdx fun i item => if item.pubDate = 0 then clock (2 + i) else item.pubDate

/-- One turn of the loop, on `newItems` and `lastPub`. -/
def countItem (state : ℕ × Time) (itemTime : Time) : ℕ × Time :=
  if state.2 < itemTime then (state.1 + 1, itemTime) else state

def countItems (lastItemAt : Option Time) (times : List Time) : ℕ × Time := times.foldl countItem (0, lastItemAt.getD 0)

inductive RefreshOutcome where
  | failed (message : String)
  | skipped
  | fetchFailed (message : String)
  | completed (newItems : ℕ)

/-- The job up to the fetch: the feed, if it is to be fetched. -/
def feedToRefresh (env : RefreshEnv) (id : String) (force : Bool) (s : FeedStore) : Except String (Option RSSFeed) :=
  match env.getError with
  | some e => .error ("refresh-feed: get feed " ++ id ++ ": " ++ e)
  | none =>
    match s.getFeed id with
    | none => .ok none
    | some feed =>
      if !feed.enabled then .ok none
      else if !force && !isFeedDue (env.clock 0) feed then .ok none
      else .ok (some feed)

def updateFeedError (message : String) : FeedUpdate where
  errorCount := 1
  lastError := message

/-- The update after a fetch. -/
def refreshUpdate (env : RefreshEnv) (feed : RSSFeed) (feedData : FetchedFeed) : FeedUpdate :=
  let counted := countItems feed.lastItemAt (itemTimes env.clock feedData.items)
  { lastFetchAt := some (env.clock 1)
    errorCount := 0
    lastError := ""
    etag := if feedData.etag = "" then none else some feedData.etag
    lastModified := if feedData.lastModified = "" then none else some feedData.lastModified
    itemCount := some (feed.itemCount + feedData.items.length)
    lastItemAt := if 0 < counted.1 then some counted.2 else none }

/-- `Handle`; the errors of `UpdateFeed` are only logged. -/
def handle (env : RefreshEnv) (id : String) (force : Bool) (s : FeedStore) : RefreshOutcome × FeedStore :=
  match feedToRefresh env id force s with
  | .error e => (.failed e, s)
  | .ok none => (.skipped, s)
  | .ok (some feed) =>
    match env.fetch feed.url feed.etag feed.lastModified with
    | .error e =>
      (.fetchFailed ("refresh-feed: fetch " ++ id ++ ": " ++ e), (s.updateFeed env (env.clock 1) id (updateFeedError e)).2)
    | .ok feedData =>
      (.completed (countItems feed.lastItemAt (itemTimes env.clock feedData.items)).1,
        (s.updateFeed env (env.clock (2 + feedData.items.length)) id (refreshUpdate env feed feedData)).2)

/-! ## Bookkeeping -/

/-- The item is dated after the previous last one, if there is one. -/
def after (lastItemAt : Option Time) (time : Time) : Bool := lastItemAt.all (· < time)

def newest (lastItemAt : Option Time) (times : List Time) : Option Time :=
  times.foldl (fun latest time => some (latest.elim time (max · time))) lastItemAt

/-- What a job that fetched items of these times should leave of a feed. -/
structure Bookkeeping (feed feed' : RSSFeed) (times : List Time) (outcome : RefreshOutcome) (failures : ℤ) : Prop where
  itemCount : feed'.itemCount = feed.itemCount + times.countP (after feed.lastItemAt)
  reported : ∀ newItems, outcome = .completed newItems → newItems = times.countP (after feed.lastItemAt)
  anyOrder : ∀ times', times'.Perm times → (countItems feed.lastItemAt times').1 = times.countP (after feed.lastItemAt)
  lastItemAt : feed'.lastItemAt = newest feed.lastItemAt times
  errorCount : feed'.errorCount = failures

/-- The store, and the fetches that have failed since the last one that succeeded. -/
structure RefreshRun where
  store : FeedStore
  failures : ℤ

def nextFailures (failures : ℤ) : RefreshOutcome → ℤ
  | .failed _ => failures
  | .skipped => failures
  | .fetchFailed _ => failures + 1
  | .completed _ => 0

def RefreshRun.step (id : String) (c : RefreshRun) (job : RefreshEnv × Bool) : RefreshRun :=
  let reply := handle job.1 id job.2 c.store
  ⟨reply.2, nextFailures c.failures reply.1⟩

/-- The times of the items that a job fetches. -/
def fetchedTimes (env : RefreshEnv) (id : String) (force : Bool) (s : FeedStore) : List Time :=
  match feedToRefresh env id force s with
  | .ok (some feed) =>
    match env.fetch feed.url feed.etag feed.lastModified with
    | .ok feedData => itemTimes env.clock feedData.items
    | .error _ => []
  | _ => []

def Bookkept (id : String) (c : RefreshRun) (job : RefreshEnv × Bool) : Prop :=
  let reply := handle job.1 id job.2 c.store
  ∀ feed, c.store.getFeed id = some feed → ∃ feed', reply.2.getFeed id = some feed' ∧
    Bookkeeping feed feed' (fetchedTimes job.1 id job.2 c.store) reply.1 (nextFailures c.failures reply.1)

/-- The update of a job reaches the feed. -/
def Recorded (env : RefreshEnv) (id : String) (s : FeedStore) : Prop :=
  (s.feeds.find? (crawlerIDFilter id)).isSome ∧ env.updateError.all (·.2)

/-- When the job keeps the books right. -/
def Accounted (id : String) (c : RefreshRun) (job : RefreshEnv × Bool) : Prop :=
  match feedToRefresh job.1 id job.2 c.store with
  | .ok (some feed) =>
    match job.1.fetch feed.url feed.etag feed.lastModified with
    | .error _ => Recorded job.1 id c.store ∧ feed.errorCount = 0
    | .ok feedData =>
      Recorded job.1 id c.store ∧ (feedData.items = [] ∨ ∃ time, itemTimes job.1.clock feedData.items = [time] ∧
          feed.lastItemAt.getD 0 < time ∧ dateTime time = time) ∨
        ¬Recorded job.1 id c.store ∧ feed.errorCount = 0 ∧
          ∀ time ∈ itemTimes job.1.clock feedData.items, after feed.lastItemAt time = false
  | _ => True

/-! ## Counting -/

section Counting

variable {lastItemAt : Option Time} {times : List Time}

lemma foldl_countItem_le (times : List Time) (n : ℕ) (lastPub : Time) :
    (times.foldl countItem (n, lastPub)).1 ≤ n + times.length := by
  induction times generalizing n lastPub with
  | nil => exact le_refl n
  | cons time times ih =>
    rw [List.foldl_cons, List.length_cons]
    unfold countItem
    split
    · exact (ih (n + 1) time).trans (by omega)
    · exact (ih n lastPub).trans (by omega)

/-- Where every item is counted, the first one is newer than all before. -/
lemma counted_all {time lastPub : Time} {n : ℕ}
    (h : ((time :: times).foldl countItem (n, lastPub)).1 = n + (times.length + 1)) :
    lastPub < time ∧ (times.foldl countItem (n + 1, time)).1 = n + 1 + times.length := by
  rw [List.foldl_cons] at h
  unfold countItem at h
  by_cases hnewer : lastPub < time
  · rw [if_pos hnewer] at h
    exact ⟨hnewer, h.trans (by omega)⟩
  · rw [if_neg hnewer] at h
    have hle := foldl_countItem_le times n lastPub
    have hcount : (times.foldl countItem (n, lastPub)).1 = n + (times.length + 1) := h
    omega

/-- Two items are not both counted in either order. -/
lemma not_counted_twice {first second : Time}
    (h : ∀ times', times'.Perm (first :: second :: times) → (countItems lastItemAt times').1 = times.length + 2) : False := by
  have hforward := h _ (.refl _)
  have hbackward := h _ (.swap first second times)
  unfold countItems at hforward hbackward
  have hlength : ∀ time : Time, 0 + ((time :: times).length + 1) = times.length + 2 := by
    intro time
    rw [List.length_cons]
    omega
  obtain ⟨-, hforward⟩ := counted_all (hforward.trans (hlength second).symm)
  obtain ⟨-, hbackward⟩ := counted_all (hbackward.trans (hlength first).symm)
  exact lt_asymm (counted_all hforward).1 (counted_all hbackward).1

lemma after_false_cons {time : Time} (h : ∀ t ∈ time :: times, after lastItemAt t = false) :
    ∃ t, lastItemAt = some t ∧ ∀ time' ∈ time :: times, time' ≤ t := by
  cases lastItemAt with
  | none =>
    have hfirst := h time List.mem_cons_self
    cases hfirst
  | some t => exact ⟨t, rfl, fun time' htime' => not_lt.mp (of_decide_eq_false (h time' htime'))⟩

/-- Items that are not new are not counted and leave the newest time. -/
lemma nothing_new (h : ∀ t ∈ times, after lastItemAt t = false) :
    (countItems lastItemAt times).1 = 0 ∧ newest lastItemAt times = lastItemAt := by
  cases times with
  | nil => exact ⟨rfl, rfl⟩
  | cons time times =>
    obtain ⟨t, rfl, hold⟩ := after_false_cons h
    have hcount : ∀ (times : List Time), (∀ time ∈ times, time ≤ t) → times.foldl countItem (0, t) = (0, t) := by
      intro times hold
      induction times with
      | nil => rfl
      | cons time times ih =>
        have hfirst : countItem (0, t) time = (0, t) := if_neg (not_lt.mpr (hold time List.mem_cons_self))
        rw [List.foldl_cons, hfirst]
        exact ih (fun time' htime' => hold time' (List.mem_cons_of_mem time htime'))
    have hnewest : ∀ (times : List Time), (∀ time ∈ times, time ≤ t) → newest (some t) times = some t := by
      intro times hold
      unfold newest
      induction times with
      | nil => rfl
      | cons time times ih =>
        have hfirst : max t time = t := max_eq_left (hold time List.mem_cons_self)
        rw [List.foldl_cons]
        dsimp only [Option.elim]
        rw [hfirst]
        exact ih (fun time' htime' => hold time' (List.mem_cons_of_mem time htime'))
    exact ⟨congrArg Prod.fst (hcount _ hold), hnewest _ hold⟩

/-- One item that is newer than the last one. -/
lemma one_new {time : Time} (h : lastItemAt.getD 0 < time) :
    countItems lastItemAt [time] = (1, time) ∧ newest lastItemAt [time] = some time ∧ after lastItemAt time := by
  refine ⟨if_pos h, ?_, ?_⟩
  · cases lastItemAt with
    | none => rfl
    | some t => exact congrArg some (max_eq_right (le_of_lt h))
  · cases lastItemAt with
    | none => rfl
    | some t => exact decide_eq_true h

end Counting

/-! ## One job -/

section Job

variable {s : FeedStore} {env : RefreshEnv} {id : String} {now : Time} {update : FeedUpdate}

lemma getFeed_recorded (h : Recorded env id s) :
    (s.updateFeed env now id update).2.getFeed id = (s.getFeed id).map (update.apply now) := by
  obtain ⟨hfound, harrives⟩ := h
  obtain ⟨feed, hfeed⟩ := Option.isSome_iff_exists.mp hfound
  have hupdated : (s.updateFeed env now id update).2 =
      { s with feeds := modifyFirst (crawlerIDFilter id) (update.apply now) s.feeds } := by
    unfold FeedStore.updateFeed
    dsimp only
    split
    · rfl
    · rfl
    · next e hlost =>
      rw [hlost] at harrives
      cases harrives
  rw [hupdated]
  unfold FeedStore.getFeed
  rw [find?_modifyFirst (f := update.apply now) (fun _ => rfl), hfeed]
  rfl

lemma getFeed_unrecorded (h : ¬Recorded env id s) : (s.updateFeed env now id update).2.getFeed id = s.getFeed id := by
  unfold FeedStore.updateFeed
  dsimp only
  by_cases hfound : (s.feeds.find? (crawlerIDFilter id)).isSome
  · split
    · next hok => exact absurd ⟨hfound, by rw [hok]; rfl⟩ h
    · next e happlied => exact absurd ⟨hfound, by rw [happlied]; rfl⟩ h
    · rfl
  · have hnone : s.feeds.find? (crawlerIDFilter id) = none := by simpa using hfound
    have hsame : ({ s with feeds := modifyFirst (crawlerIDFilter id) (update.apply now) s.feeds } : FeedStore).getFeed id =
        s.getFeed id := by
      unfold FeedStore.getFeed
      rw [find?_modifyFirst (f := update.apply now) (fun _ => rfl), hnone]
      rfl
    split
    · exact hsame
    · exact hsame
    · rfl

lemma getFeed_of_feedToRefresh {force : Bool} {feed : RSSFeed} (h : feedToRefresh env id force s = .ok (some feed)) :
    s.getFeed id = some feed := by
  unfold feedToRefresh at h
  split at h
  · cases h
  · split at h
    · cases h
    · next feed' hfeed' =>
      split at h
      · cases h
      · split at h
        · cases h
        · rw [hfeed', Option.some.inj (Except.ok.inj h)]

/-- A job that leaves the feed as it is keeps its books where nothing was new. -/
lemma bookkeeping_unchanged {feed : RSSFeed} {times : List Time} {outcome : RefreshOutcome} {failures : ℤ}
    (hold : ∀ time ∈ times, after feed.lastItemAt time = false)
    (hcompleted : ∀ newItems, outcome = .completed newItems → newItems = (countItems feed.lastItemAt times).1)
    (hfailures : feed.errorCount = failures) : Bookkeeping feed feed times outcome failures := by
  have hzero : times.countP (after feed.lastItemAt) = 0 := by
    rw [List.countP_eq_zero]
    intro time htime
    rw [hold time htime]
    exact Bool.false_ne_true
  have hnothing : ∀ times' : List Time, times'.Perm times → (countItems feed.lastItemAt times').1 = 0 :=
    fun times' hperm => (nothing_new (fun time htime => hold time (hperm.mem_iff.mp htime))).1
  refine ⟨by rw [hzero]; simp, fun newItems houtcome => ?_, fun times' hperm => ?_, (nothing_new hold).2.symm, hfailures⟩
  · rw [hzero, hcompleted newItems houtcome, hnothing times (.refl _)]
  · rw [hzero, hnothing times' hperm]

/-- What a failed fetch leaves. -/
lemma bookkeeping_failed {feed : RSSFeed} {message e : String} :
    Bookkeeping feed ((updateFeedError e).apply now feed) [] (.fetchFailed message) 1 := by
  refine ⟨?_, fun newItems h => ?_, fun times' hperm => ?_, rfl, rfl⟩
  · simp [FeedUpdate.apply, updateFeedError]
  · cases h
  · rw [hperm.eq_nil]
    rfl

/-- What a fetch of these items, written to the feed, keeps. -/
lemma bookkeeping_recorded {feed : RSSFeed} {feedData : FetchedFeed} :
    Bookkeeping feed ((refreshUpdate env feed feedData).apply now feed) (itemTimes env.clock feedData.items)
        (.completed (countItems feed.lastItemAt (itemTimes env.clock feedData.items)).1) 0 ↔
      feedData.items = [] ∨ ∃ time, itemTimes env.clock feedData.items = [time] ∧ feed.lastItemAt.getD 0 < time ∧
        dateTime time = time := by
  have hlength : (itemTimes env.clock feedData.items).length = feedData.items.length := List.length_mapIdx
  constructor
  · intro h
    have hgrown : feed.itemCount + (feedData.items.length : ℤ) =
        feed.itemCount + ((itemTimes env.clock feedData.items).countP (after feed.lastItemAt) : ℤ) := h.itemCount
    have hall : (itemTimes env.clock feedData.items).countP (after feed.lastItemAt) = feedData.items.length := by omega
    have hanyOrder := h.anyOrder
    have hlastItemAt : ((if 0 < (countItems feed.lastItemAt (itemTimes env.clock feedData.items)).1 then
        some (countItems feed.lastItemAt (itemTimes env.clock feedData.items)).2 else none).map dateTime <|> feed.lastItemAt) =
          newest feed.lastItemAt (itemTimes env.clock feedData.items) := h.lastItemAt
    rw [hall, ← hlength] at hanyOrder
    cases hitems : itemTimes env.clock feedData.items with
    | nil =>
      rw [hitems] at hlength
      exact .inl (List.length_eq_zero_iff.mp hlength.symm)
    | cons time times =>
      rw [hitems] at hanyOrder hlastItemAt
      cases times with
      | nil =>
        have hcounted := hanyOrder [time] (.refl _)
        have hnewer := (counted_all (n := 0) hcounted).1
        obtain ⟨hone, hnewest, -⟩ := one_new hnewer
        rw [hone, hnewest] at hlastItemAt
        exact .inr ⟨time, rfl, hnewer, Option.some.inj hlastItemAt⟩
      | cons second times => exact (not_counted_twice hanyOrder).elim
  · rintro (hnone | ⟨time, htimes, hnewer, hmilliseconds⟩)
    · have htimes : itemTimes env.clock feedData.items = [] := by
        rw [hnone]
        rfl
      rw [htimes]
      refine ⟨?_, fun newItems h => ?_, fun times' hperm => ?_, ?_, rfl⟩
      · simp [FeedUpdate.apply, refreshUpdate, hnone]
      · cases h
        rfl
      · rw [hperm.eq_nil]
        rfl
      · simp [FeedUpdate.apply, refreshUpdate, htimes, countItems, newest]
    · obtain ⟨hone, hnewest, hafter⟩ := one_new hnewer
      have hsingle : feedData.items.length = 1 := by
        rw [← hlength, htimes]
        rfl
      have hcount : [time].countP (after feed.lastItemAt) = 1 := by simp [hafter]
      rw [htimes, hone]
      refine ⟨?_, fun newItems h => ?_, fun times' hperm => ?_, ?_, rfl⟩
      · rw [hcount]
        simp [FeedUpdate.apply, refreshUpdate, hsingle]
      · cases h
        exact hcount.symm
      · rw [List.perm_singleton.mp hperm, hone, hcount]
      · rw [hnewest]
        simp [FeedUpdate.apply, refreshUpdate, htimes, hone, hmilliseconds]

/-- One job keeps the books exactly if it is accounted for, as long as they were right before. -/
lemma bookkept_iff {c : RefreshRun} (hfailures : ∀ feed, c.store.getFeed id = some feed → feed.errorCount = c.failures)
    (job : RefreshEnv × Bool) : Bookkept id c job ↔ Accounted id c job := by
  obtain ⟨env, force⟩ := job
  unfold Bookkept Accounted handle fetchedTimes
  dsimp only
  cases hstage : feedToRefresh env id force c.store with
  | error e =>
    refine iff_of_true (fun feed hfeed => ⟨feed, hfeed, ?_⟩) trivial
    exact bookkeeping_unchanged (by simp) (fun newItems h => by cases h) (hfailures feed hfeed)
  | ok found =>
  cases found with
  | none =>
    refine iff_of_true (fun feed hfeed => ⟨feed, hfeed, ?_⟩) trivial
    exact bookkeeping_unchanged (by simp) (fun newItems h => by cases h) (hfailures feed hfeed)
  | some feed =>
  have hfeed := getFeed_of_feedToRefresh hstage
  have herrors := hfailures feed hfeed
  dsimp only
  cases hfetch : env.fetch feed.url feed.etag feed.lastModified with
  | error e =>
    dsimp only [nextFailures]
    by_cases hrecorded : Recorded env id c.store
    · rw [getFeed_recorded hrecorded, hfeed]
      constructor
      · intro h
        obtain ⟨feed', hfeed', hbooks⟩ := h feed rfl
        obtain rfl := Option.some.inj hfeed'
        have hone : (1 : ℤ) = c.failures + 1 := hbooks.errorCount
        exact ⟨hrecorded, by omega⟩
      · rintro ⟨-, hzero⟩ feed₁ hfeed₁
        obtain rfl := Option.some.inj hfeed₁
        have hone : c.failures + 1 = 1 := by omega
        rw [hone]
        exact ⟨_, rfl, bookkeeping_failed⟩
    · rw [getFeed_unrecorded hrecorded, hfeed]
      refine iff_of_false (fun h => ?_) (fun h => hrecorded h.1)
      obtain ⟨feed', hfeed', hbooks⟩ := h feed rfl
      obtain rfl := Option.some.inj hfeed'
      have hsame : feed.errorCount = c.failures + 1 := hbooks.errorCount
      omega
  | ok feedData =>
    dsimp only [nextFailures]
    by_cases hrecorded : Recorded env id c.store
    · rw [getFeed_recorded hrecorded, hfeed]
      simp only [hrecorded, true_and, not_true_eq_false, false_and, or_false]
      constructor
      · intro h
        obtain ⟨feed', hfeed', hbooks⟩ := h feed rfl
        obtain rfl := Option.some.inj hfeed'
        exact bookkeeping_recorded.mp hbooks
      · intro h feed₁ hfeed₁
        obtain rfl := Option.some.inj hfeed₁
        exact ⟨_, rfl, bookkeeping_recorded.mpr h⟩
    · rw [getFeed_unrecorded hrecorded, hfeed]
      simp only [hrecorded, false_and, not_false_eq_true, true_and, false_or]
      constructor
      · intro h
        obtain ⟨feed', hfeed', hbooks⟩ := h feed rfl
        obtain rfl := Option.some.inj hfeed'
        have hgrown := hbooks.itemCount
        have hnothing : (itemTimes env.clock feedData.items).countP (after feed.lastItemAt) = 0 := by omega
        refine ⟨hbooks.errorCount, fun time htime => ?_⟩
        rw [Bool.eq_false_iff]
        exact List.countP_eq_zero.mp hnothing time htime
      · rintro ⟨hzero, hold⟩ feed₁ hfeed₁
        obtain rfl := Option.some.inj hfeed₁
        refine ⟨feed, rfl, bookkeeping_unchanged hold (fun newItems h => ?_) hzero⟩
        cases h
        rfl

lemma getFeed_of_bookkept {c : RefreshRun} (job : RefreshEnv × Bool) (hbooks : Bookkept id c job) :
    ∀ feed', (c.step id job).store.getFeed id = some feed' → feed'.errorCount = (c.step id job).failures := by
  intro feed' hfeed'
  cases hbefore : c.store.getFeed id with
  | some feed =>
    obtain ⟨feed₁, hfeed₁, hright⟩ := hbooks feed hbefore
    obtain rfl := Option.some.inj (hfeed₁.symm.trans hfeed')
    exact hright.errorCount
  | none =>
    have hskipped : (c.step id job).store = c.store := by
      unfold RefreshRun.step handle
      cases hstage : feedToRefresh job.1 id job.2 c.store with
      | error e => rfl
      | ok found =>
        cases found with
        | none => rfl
        | some feed =>
          rw [getFeed_of_feedToRefresh hstage] at hbefore
          cases hbefore
    rw [hskipped, hbefore] at hfeed'
    cases hfeed'

end Job

/-- The run starts with the failures that the feed records. -/
def startRefresh (s : FeedStore) (id : String) : RefreshRun := ⟨s, ((s.getFeed id).map RSSFeed.errorCount).getD 0⟩

/-- In every sequence of jobs the books are right exactly if every job is accounted for. -/
theorem bookkept_throughout_iff (s : FeedStore) (id : String) (jobs : List (RefreshEnv × Bool)) :
    Throughout (RefreshRun.step id) (Bookkept id) (startRefresh s id) jobs ↔
      Throughout (RefreshRun.step id) (Accounted id) (startRefresh s id) jobs := by
  have hstart : ∀ feed, (startRefresh s id).store.getFeed id = some feed → feed.errorCount = (startRefresh s id).failures := by
    intro feed hfeed
    unfold startRefresh at hfeed ⊢
    rw [hfeed]
    rfl
  exact Throughout.congr (I := fun c => ∀ feed, c.store.getFeed id = some feed → feed.errorCount = c.failures)
    (fun _ job _ hbooks => getFeed_of_bookkept job hbooks) (fun _ job hright => bookkept_iff hright job) hstart jobs

namespace Sample

def createdFeed : RSSFeed :=
  { id := "feed-1", url := "https://erg.vn/feed", frequency := "", enabled := true, lastFetchAt := none, lastItemAt := none,
    itemCount := 0, errorCount := 0, lastError := "", etag := "", lastModified := "", updatedAt := 0 }

def feedStore : FeedStore := ⟨[createdFeed], []⟩

/-- The beginning of 2026. -/
def newYear : Time := 739616 * 24 * 60 * 60 * 1000000000

/-- A forced job that fetches one item, with this date. -/
def fetchOne (pubDate : Time) : RefreshEnv × Bool :=
  (⟨fun _ => 0, fun _ _ _ => .ok ⟨"", "", [⟨"https://erg.vn/1", pubDate⟩]⟩, none, none⟩, true)

end Sample

open Sample

/-- The same item fetched again is counted again. -/
theorem item_counted_twice : ¬Throughout (RefreshRun.step "feed-1") (Bookkept "feed-1") (startRefresh feedStore "feed-1")
    [fetchOne newYear, fetchOne newYear] := by
  intro h
  obtain ⟨feed', hfeed', hbooks⟩ := h.2.1 _ rfl
  have hstored : some (2 : ℤ) = some feed'.itemCount := congrArg (Option.map RSSFeed.itemCount) hfeed'
  have hgrown : feed'.itemCount = (1 : ℤ) + (0 : ℕ) := hbooks.itemCount
  rw [hgrown] at hstored
  exact absurd (Option.some.inj hstored) (by decide)

end ErgGo.Crawler
