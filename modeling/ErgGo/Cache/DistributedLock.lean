import Mathlib.Data.Bool.Basic
import Mathlib.Data.Int.Order.Basic
import Mathlib.Logic.Function.Basic

/-!
# The distributed lock

A lock is a Redis key that holds a value of its owner and expires. Clients acquire it, extend
it and release it, each by one command or script that Redis executes atomically, while commands
and replies can get lost.
-/

namespace ErgGo.Cache

structure Entry where
  value : String
  /-- In milliseconds; none never expires. -/
  expiresAt : Option ℤ
  deriving DecidableEq

def Entry.live (e : Entry) (now : ℤ) : Bool := e.expiresAt.all (now ≤ ·)

structure Redis where
  now : ℤ
  keys : String → Option Entry

namespace Redis

/-- An expired key is none. -/
def entry (r : Redis) (key : String) : Option Entry := (r.keys key).filter (·.live r.now)

/-- `GET`. -/
def get (r : Redis) (key : String) : Option String := (r.entry key).map Entry.value

def put (r : Redis) (key : String) (e : Option Entry) : Redis := { r with keys := Function.update r.keys key e }

/-- `SET` with `NX` and the lifetime, if any, in milliseconds. -/
def setNX (r : Redis) (key value : String) (lifetime : Option ℕ) : Bool × Redis :=
  match r.entry key with
  | some _ => (false, r)
  | none => (true, r.put key (some ⟨value, lifetime.map fun ms : ℕ => r.now + ms⟩))

/-- `DEL`. -/
def del (r : Redis) (key : String) : ℤ × Redis :=
  match r.entry key with
  | some _ => (1, r.put key none)
  | none => (0, r)

/-- `PEXPIRE`, which deletes what expires at once. -/
def pexpire (r : Redis) (key : String) (ms : ℤ) : ℤ × Redis :=
  match r.entry key with
  | some e => (1, r.put key (if 0 < ms then some { e with expiresAt := some (r.now + ms) } else none))
  | none => (0, r)

/-- The script of `Release`. -/
def releaseScript (r : Redis) (key value : String) : ℤ × Redis :=
  if r.get key = some value then r.del key else (0, r)

/-- The script of `Extend`. -/
def extendScript (r : Redis) (key value : String) (ms : ℤ) : ℤ × Redis :=
  if r.get key = some value then r.pexpire key ms else (0, r)

end Redis

class RedisLibrary where
  /-- How a lifetime is passed on with `SET`: none where Redis refuses it, else none where the key
  never expires, else in milliseconds. -/
  lifetime : ℤ → Option (Option ℕ)

/-- What becomes of a command. -/
inductive Delivery where
  | lost
  | executed
  | answered
  deriving DecidableEq

inductive LockError where
  | redis
  | lockNotAcquired
  | lockNotHeld
  deriving DecidableEq

/-- The state that a command leaves, and its reply. -/
def Delivery.run {α : Type} (d : Delivery) (r : Redis) (command : α × Redis) : Redis × Except LockError α :=
  match d with
  | .lost => (r, .error .redis)
  | .executed => (command.2, .error .redis)
  | .answered => (command.2, .ok command.1)

structure DistributedLock where
  key : String
  value : String
  /-- In nanoseconds. -/
  ttl : ℤ
  deriving DecidableEq

/-- `AcquireLock`, with the value it generates. -/
def acquireLock [RedisLibrary] (r : Redis) (lock : DistributedLock) (d : Delivery) :
    Redis × Except LockError DistributedLock :=
  match RedisLibrary.lifetime lock.ttl with
  | none => (r, .error .redis)
  | some lifetime =>
    let (r, reply) := d.run r (r.setNX lock.key lock.value lifetime)
    (r, reply.bind fun ok => if ok then .ok lock else .error .lockNotAcquired)

namespace DistributedLock

def release (l : DistributedLock) (r : Redis) (d : Delivery) : Redis × Except LockError Unit :=
  let (r, reply) := d.run r (r.releaseScript l.key l.value)
  (r, reply.bind fun result => if result = 0 then .error .lockNotHeld else .ok ())

/-- `ttl.Milliseconds()` is rounded towards zero. -/
def extend (l : DistributedLock) (ttl : ℤ) (r : Redis) (d : Delivery) : Redis × Except LockError Unit :=
  let (r, reply) := d.run r (r.extendScript l.key l.value (ttl.tdiv 1000000))
  (r, reply.bind fun result => if result = 0 then .error .lockNotHeld else .ok ())

/-- A command of the lock is executed while the key has its value. -/
def owns (l : DistributedLock) (r : Redis) (d : Delivery) : Bool := d ≠ .lost && r.get l.key = some l.value

end DistributedLock

/-- An acquired lock, with what has become of it in Redis. -/
structure Handle where
  lock : DistributedLock
  expiresAt : Option ℤ
  released : Bool
  deriving DecidableEq

def Handle.unexpired (h : Handle) (now : ℤ) : Bool := h.expiresAt.all (now ≤ ·)

/-- Acquired, unreleased and unexpired. -/
def Handle.held (h : Handle) (now : ℤ) : Bool := !h.released && h.unexpired now

section Runs

variable {ι : Type} [DecidableEq ι]

/-- The calls of `AcquireLock` are numbered; each has at most one handle. -/
structure State (ι : Type) where
  redis : Redis
  handles : ι → Option Handle

inductive Event (ι : Type) where
  | pass (ms : ℕ)
  /-- One execution of the command; the library may send it again. -/
  | acquire (i : ι) (d : Delivery)
  | release (i : ι) (d : Delivery)
  | extend (i : ι) (ttl : ℤ) (d : Delivery)

/-- A time to live of nothing ends before now. -/
def expiry (now ms : ℤ) : ℤ := if 0 < ms then now + ms else now - 1

def step [RedisLibrary] (calls : ι → DistributedLock) (s : State ι) : Event ι → State ι
  | .pass ms => { s with redis := { s.redis with now := s.redis.now + ms } }
  | .acquire i d =>
    match s.handles i with
    | some _ => s
    | none =>
      let (redis, result) := acquireLock s.redis (calls i) d
      match result with
      | .error _ => { s with redis }
      | .ok lock =>
        let lifetime := (RedisLibrary.lifetime lock.ttl).getD none
        ⟨redis, Function.update s.handles i (some ⟨lock, lifetime.map fun ms : ℕ => s.redis.now + ms, false⟩)⟩
  | .release i d =>
    match s.handles i with
    | none => s
    | some h =>
      let handle := if h.lock.owns s.redis d then { h with released := true } else h
      ⟨(h.lock.release s.redis d).1, Function.update s.handles i (some handle)⟩
  | .extend i ttl d =>
    match s.handles i with
    | none => s
    | some h =>
      let handle :=
        if h.lock.owns s.redis d then { h with expiresAt := some (expiry s.redis.now (ttl.tdiv 1000000)) } else h
      ⟨(h.lock.extend ttl s.redis d).1, Function.update s.handles i (some handle)⟩

def initial (ι : Type) (now : ℤ) : State ι := ⟨⟨now, fun _ => none⟩, fun _ => none⟩

/-- The state after these events. -/
def run [RedisLibrary] (calls : ι → DistributedLock) (now : ℤ) (events : List (Event ι)) : State ι :=
  events.foldl (step calls) (initial ι now)

/-- What is asked of every state. -/
structure Excludes (calls : ι → DistributedLock) (s : State ι) : Prop where
  release_owner : ∀ i h d, s.handles i = some h → (h.lock.release s.redis d).2 = .ok () →
    s.redis.get (calls i).key = some (calls i).value
  extend_owner : ∀ i h ttl d, s.handles i = some h → (h.lock.extend ttl s.redis d).2 = .ok () →
    s.redis.get (calls i).key = some (calls i).value
  release_expired : ∀ i h d, s.handles i = some h → ¬h.unexpired s.redis.now →
    (h.lock.release s.redis d).1 = s.redis
  extend_expired : ∀ i h ttl d, s.handles i = some h → ¬h.unexpired s.redis.now →
    (h.lock.extend ttl s.redis d).1 = s.redis
  exclusive : ∀ i j hi hj, s.handles i = some hi → s.handles j = some hj → (calls i).key = (calls j).key →
    hi.held s.redis.now → hj.held s.redis.now → i = j

/-- Handles are as their calls made them; an entry with the value of a handle belongs to it, and
a lock that is held has its entry. -/
structure Consistent (calls : ι → DistributedLock) (s : State ι) : Prop where
  lock_eq : ∀ i h, s.handles i = some h → h.lock = calls i
  entry : ∀ i h e, s.handles i = some h → s.redis.keys (calls i).key = some e → e.value = (calls i).value →
    e.expiresAt = h.expiresAt ∧ h.released = false
  held : ∀ i h, s.handles i = some h → h.held s.redis.now →
    ∃ e, s.redis.keys (calls i).key = some e ∧ e.value = (calls i).value

end Runs

lemma Redis.get_eq_some_iff {r : Redis} {key value : String} :
    r.get key = some value ↔ ∃ e, r.keys key = some e ∧ e.live r.now ∧ e.value = value := by
  simp only [Redis.get, Redis.entry, Option.map_eq_some_iff, Option.filter_eq_some_iff, and_assoc]

lemma Redis.releaseScript_eq (r : Redis) (key value : String) :
    r.releaseScript key value = if r.get key = some value then (1, r.put key none) else (0, r) := by
  unfold releaseScript
  split
  · next hget =>
    obtain ⟨e, he, -⟩ := Option.map_eq_some_iff.mp hget
    simp only [del, he]
  · rfl

/-- The entry that a key of this value has after `PEXPIRE`. -/
def extended (now : ℤ) (value : String) (ms : ℤ) : Option Entry :=
  if 0 < ms then some ⟨value, some (now + ms)⟩ else none

lemma Redis.extendScript_eq (r : Redis) (key value : String) (ms : ℤ) : r.extendScript key value ms =
    if r.get key = some value then (1, r.put key (extended r.now value ms)) else (0, r) := by
  unfold extendScript
  split
  · next hget =>
    obtain ⟨e, he, rfl⟩ := Option.map_eq_some_iff.mp hget
    simp only [pexpire, he, extended]
  · rfl

lemma Delivery.run_fst (d : Delivery) (r changed : Redis) (p : Prop) [Decidable p] :
    (d.run r (if p then ((1 : ℤ), changed) else (0, r))).1 = if d ≠ .lost && p then changed else r := by
  cases d <;> by_cases h : p <;> simp [run, h]

lemma Delivery.run_snd_iff (d : Delivery) (r changed : Redis) (p : Prop) [Decidable p] :
    ((d.run r (if p then ((1 : ℤ), changed) else (0, r))).2.bind fun result =>
      if result = 0 then .error LockError.lockNotHeld else .ok ()) = .ok () ↔ d = .answered ∧ p := by
  cases d <;> by_cases h : p <;> simp [run, h, Except.bind]

namespace DistributedLock

variable (l : DistributedLock) (r : Redis) (d : Delivery)

/-- Releasing removes the key exactly while it has the value of the lock. -/
lemma release_state : (l.release r d).1 = if l.owns r d then r.put l.key none else r := by
  simp only [release, Redis.releaseScript_eq]
  exact d.run_fst r _ _

lemma release_ok_iff : (l.release r d).2 = .ok () ↔ d = .answered ∧ r.get l.key = some l.value := by
  simp only [release, Redis.releaseScript_eq]
  exact d.run_snd_iff r _ _

lemma extend_state (ttl : ℤ) : (l.extend ttl r d).1 =
    if l.owns r d then r.put l.key (extended r.now l.value (ttl.tdiv 1000000)) else r := by
  simp only [extend, Redis.extendScript_eq]
  exact d.run_fst r _ _

lemma extend_ok_iff (ttl : ℤ) : (l.extend ttl r d).2 = .ok () ↔ d = .answered ∧ r.get l.key = some l.value := by
  simp only [extend, Redis.extendScript_eq]
  exact d.run_snd_iff r _ _

end DistributedLock

lemma DistributedLock.get_of_owns {l : DistributedLock} {r : Redis} {d : Delivery} (h : l.owns r d) :
    r.get l.key = some l.value := by
  simp only [owns, Bool.and_eq_true, decide_eq_true_eq] at h
  exact h.2

lemma extended_spec {now ms : ℤ} {value : String} {entry : Entry} (h : entry ∈ extended now value ms) :
    entry.value = value ∧ entry.expiresAt = some (expiry now ms) := by
  unfold extended at h
  split at h
  · next hpos =>
    cases h
    exact ⟨rfl, by rw [expiry, if_pos hpos]⟩
  · cases h

/-- What has not expired at once has an entry. -/
lemma extended_isSome {now ms : ℤ} {value : String} (h : now ≤ expiry now ms) : (extended now value ms).isSome := by
  unfold expiry at h
  unfold extended
  split at h
  · next hpos => rw [if_pos hpos, Option.isSome_some]
  · omega

/-- What acquiring can do: nothing, or give the key its value while it has none. -/
lemma acquireLock_cases [RedisLibrary] (r : Redis) (lock : DistributedLock) (d : Delivery) :
    ((acquireLock r lock d).1 = r ∧ ∃ e, (acquireLock r lock d).2 = .error e) ∨
      r.entry lock.key = none ∧ ∃ lifetime, RedisLibrary.lifetime lock.ttl = some lifetime ∧
        (acquireLock r lock d).1 = r.put lock.key (some ⟨lock.value, lifetime.map fun ms : ℕ => r.now + ms⟩) ∧
        ((acquireLock r lock d).2 = .ok lock ∨ ∃ e, (acquireLock r lock d).2 = .error e) := by
  unfold acquireLock
  cases hlifetime : RedisLibrary.lifetime lock.ttl with
  | none => exact .inl ⟨rfl, _, rfl⟩
  | some lifetime =>
    cases hentry : r.entry lock.key with
    | some e =>
      left
      cases d <;> simp [Delivery.run, Redis.setNX, hentry, Except.bind]
    | none =>
      cases d with
      | lost => exact .inl ⟨rfl, _, rfl⟩
      | executed => exact .inr ⟨rfl, lifetime, rfl, by simp [Delivery.run, Redis.setNX, hentry], .inr ⟨_, rfl⟩⟩
      | answered =>
        refine .inr ⟨rfl, lifetime, rfl, by simp [Delivery.run, Redis.setNX, hentry], .inl ?_⟩
        simp [Delivery.run, Redis.setNX, hentry, Except.bind]

@[simp] lemma Redis.put_now (r : Redis) (key : String) (e : Option Entry) : (r.put key e).now = r.now := rfl

@[simp] lemma Redis.put_keys_self (r : Redis) (key : String) (e : Option Entry) : (r.put key e).keys key = e := by
  simp [put]

lemma Redis.put_keys_of_ne {r : Redis} {key other : String} (h : other ≠ key) (e : Option Entry) :
    (r.put key e).keys other = r.keys other := by
  simp [put, h]

section Runs

variable {ι : Type} {calls : ι → DistributedLock} {s : State ι}

lemma Handle.held_iff {h : Handle} {now : ℤ} : h.held now ↔ h.released = false ∧ h.unexpired now := by
  simp [held]

/-- The entry of a held lock is live. -/
lemma Consistent.live (hs : Consistent calls s) {i : ι} {h : Handle} (hi : s.handles i = some h)
    (hheld : h.held s.redis.now) : s.redis.get (calls i).key = some (calls i).value := by
  obtain ⟨e, he, hvalue⟩ := hs.held i h hi hheld
  refine Redis.get_eq_some_iff.mpr ⟨e, he, ?_, hvalue⟩
  unfold Entry.live
  rw [(hs.entry i h e hi he hvalue).1]
  exact (Handle.held_iff.mp hheld).2

/-- Only an unexpired lock owns its key. -/
lemma Consistent.unexpired (hs : Consistent calls s) {i : ι} {h : Handle} (hi : s.handles i = some h)
    (hget : s.redis.get (calls i).key = some (calls i).value) : h.unexpired s.redis.now := by
  obtain ⟨e, he, hlive, hvalue⟩ := Redis.get_eq_some_iff.mp hget
  unfold Handle.unexpired
  rw [← (hs.entry i h e hi he hvalue).1]
  exact hlive

lemma Consistent.pass (hs : Consistent calls s) (ms : ℕ) :
    Consistent calls { s with redis := { s.redis with now := s.redis.now + ms } } where
  lock_eq := hs.lock_eq
  entry := hs.entry
  held i h hi hheld := by
    refine hs.held i h hi ?_
    obtain ⟨hreleased, hunexpired⟩ := Handle.held_iff.mp hheld
    refine Handle.held_iff.mpr ⟨hreleased, ?_⟩
    unfold Handle.unexpired at hunexpired ⊢
    rw [Option.all_eq_true] at hunexpired ⊢
    intro t ht
    have hle : s.redis.now + ms ≤ t := of_decide_eq_true (hunexpired t ht)
    exact decide_eq_true (by omega)

/-- A lock may change the entry of its key while no other lock holds it. -/
lemma Consistent.put (hdistinct : Function.Injective fun i => (calls i).value) (hs : Consistent calls s) (i : ι)
    (hothers : ∀ j h, j ≠ i → s.handles j = some h → h.held s.redis.now → (calls j).key ≠ (calls i).key)
    {e : Option Entry} (hvalue : ∀ entry ∈ e, entry.value = (calls i).value) {handles : ι → Option Handle}
    (hsame : ∀ j, j ≠ i → handles j = s.handles j)
    (hself : ∀ h, handles i = some h → h.lock = calls i ∧
      (∀ entry ∈ e, entry.expiresAt = h.expiresAt ∧ h.released = false) ∧ (h.held s.redis.now → e.isSome)) :
    Consistent calls ⟨s.redis.put (calls i).key e, handles⟩ where
  lock_eq j h hj := by
    obtain rfl | hne := eq_or_ne j i
    · exact (hself h hj).1
    · exact hs.lock_eq j h (hsame j hne ▸ hj)
  entry j h entry hj hentry hown := by
    obtain rfl | hne := eq_or_ne j i
    · rw [Redis.put_keys_self] at hentry
      exact (hself h hj).2.1 entry hentry
    · obtain hkey | hkey := eq_or_ne (calls j).key (calls i).key
      · rw [hkey, Redis.put_keys_self] at hentry
        exact absurd (hdistinct (hown.symm.trans (hvalue entry hentry))) hne
      · rw [Redis.put_keys_of_ne hkey] at hentry
        exact hs.entry j h entry (hsame j hne ▸ hj) hentry hown
  held j h hj hheld := by
    obtain rfl | hne := eq_or_ne j i
    · obtain ⟨entry, hentry⟩ := Option.isSome_iff_exists.mp ((hself h hj).2.2 hheld)
      exact ⟨entry, (Redis.put_keys_self _ _ _).trans hentry, hvalue entry hentry⟩
    · have hold : s.handles j = some h := hsame j hne ▸ hj
      rw [Redis.put_keys_of_ne (hothers j h hne hold hheld)]
      exact hs.held j h hold hheld

/-- While a lock owns its key, no other lock holds it. -/
lemma Consistent.alone (hdistinct : Function.Injective fun i => (calls i).value) (hs : Consistent calls s) {i : ι}
    (hget : s.redis.get (calls i).key = some (calls i).value) (j : ι) (h : Handle) (hne : j ≠ i)
    (hj : s.handles j = some h) (hheld : h.held s.redis.now) : (calls j).key ≠ (calls i).key := by
  intro hkey
  have hlive := hs.live hj hheld
  rw [hkey, hget] at hlive
  exact hne (hdistinct (Option.some.inj hlive).symm)

variable [DecidableEq ι] [RedisLibrary]

lemma Consistent.acquire (hdistinct : Function.Injective fun i => (calls i).value) (hs : Consistent calls s) (i : ι)
    (d : Delivery) : Consistent calls (step calls s (.acquire i d)) := by
  cases hi : s.handles i with
  | some h =>
    simp only [step, hi]
    exact hs
  | none =>
    obtain ⟨hstate, e, hresult⟩ | ⟨hentry, lifetime, hlifetime, hstate, hresult⟩ :=
      acquireLock_cases s.redis (calls i) d
    · simp only [step, hi, hstate, hresult]
      exact hs
    · have hothers : ∀ j h, j ≠ i → s.handles j = some h → h.held s.redis.now → (calls j).key ≠ (calls i).key := by
        intro j h _ hj hheld hkey
        have hlive := hs.live hj hheld
        rw [hkey, Redis.get, hentry] at hlive
        cases hlive
      obtain hok | ⟨e, herror⟩ := hresult
      · simp only [step, hi, hstate, hok, hlifetime, Option.getD_some]
        refine hs.put hdistinct i hothers (by simp) (fun j hne => Function.update_of_ne hne _ _) fun h hh => ?_
        rw [Function.update_self] at hh
        cases hh
        simp
      · simp only [step, hi, hstate, herror]
        refine hs.put hdistinct i hothers (by simp) (fun j _ => rfl) fun h hh => ?_
        rw [hi] at hh
        cases hh

lemma Consistent.release (hdistinct : Function.Injective fun i => (calls i).value) (hs : Consistent calls s) (i : ι)
    (d : Delivery) : Consistent calls (step calls s (.release i d)) := by
  cases hi : s.handles i with
  | none =>
    simp only [step, hi]
    exact hs
  | some h =>
    have hlock := hs.lock_eq i h hi
    simp only [step, hi, DistributedLock.release_state, hlock]
    by_cases howns : (calls i).owns s.redis d
    · have hget := DistributedLock.get_of_owns howns
      simp only [if_pos howns]
      refine hs.put hdistinct i (hs.alone hdistinct hget) (by simp) (fun j hne => Function.update_of_ne hne _ _)
        fun h' hh => ?_
      rw [Function.update_self] at hh
      cases hh
      exact ⟨rfl, by simp, by simp [Handle.held]⟩
    · simp only [if_neg howns, ← hi, Function.update_eq_self]
      exact hs

lemma Consistent.extend (hdistinct : Function.Injective fun i => (calls i).value) (hs : Consistent calls s) (i : ι)
    (ttl : ℤ) (d : Delivery) : Consistent calls (step calls s (.extend i ttl d)) := by
  cases hi : s.handles i with
  | none =>
    simp only [step, hi]
    exact hs
  | some h =>
    have hlock := hs.lock_eq i h hi
    simp only [step, hi, DistributedLock.extend_state, hlock]
    by_cases howns : (calls i).owns s.redis d
    · have hget := DistributedLock.get_of_owns howns
      obtain ⟨e, he, -, hvalue⟩ := Redis.get_eq_some_iff.mp hget
      have hreleased := (hs.entry i h e hi he hvalue).2
      simp only [if_pos howns]
      refine hs.put hdistinct i (hs.alone hdistinct hget) (fun entry hentry => ?_)
        (fun j hne => Function.update_of_ne hne _ _) fun h' hh => ?_
      · exact (extended_spec hentry).1
      · rw [Function.update_self] at hh
        cases hh
        refine ⟨rfl, fun entry hentry => ⟨(extended_spec hentry).2, hreleased⟩, fun hheld => ?_⟩
        exact extended_isSome (of_decide_eq_true (Handle.held_iff.mp hheld).2)
    · simp only [if_neg howns, ← hi, Function.update_eq_self]
      exact hs

theorem Consistent.run (hdistinct : Function.Injective fun i => (calls i).value) (now : ℤ) (events : List (Event ι)) :
    Consistent calls (run calls now events) := by
  have hstart : Consistent calls (initial ι now) := ⟨by simp [initial], by simp [initial], by simp [initial]⟩
  unfold Cache.run
  generalize initial ι now = s at hstart
  induction events generalizing s with
  | nil => exact hstart
  | cons event events ih =>
    refine ih _ ?_
    cases event with
    | pass ms => exact hstart.pass ms
    | acquire i d => exact hstart.acquire hdistinct i d
    | release i d => exact hstart.release hdistinct i d
    | extend i ttl d => exact hstart.extend hdistinct i ttl d

omit [DecidableEq ι] [RedisLibrary] in
/-- An expired lock owns nothing. -/
lemma Consistent.not_owns (hs : Consistent calls s) {i : ι} {h : Handle} (hi : s.handles i = some h)
    (hexpired : ¬h.unexpired s.redis.now) (d : Delivery) : ¬(calls i).owns s.redis d :=
  fun howns => hexpired (hs.unexpired hi (DistributedLock.get_of_owns howns))

omit [DecidableEq ι] [RedisLibrary] in
lemma Consistent.excludes (hdistinct : Function.Injective fun i => (calls i).value) (hs : Consistent calls s) :
    Excludes calls s where
  release_owner i h d hi hok := by
    rw [hs.lock_eq i h hi] at hok
    exact (((calls i).release_ok_iff s.redis d).mp hok).2
  extend_owner i h ttl d hi hok := by
    rw [hs.lock_eq i h hi] at hok
    exact (((calls i).extend_ok_iff s.redis d ttl).mp hok).2
  release_expired i h d hi hexpired := by
    rw [hs.lock_eq i h hi, DistributedLock.release_state, if_neg (hs.not_owns hi hexpired d)]
  extend_expired i h ttl d hi hexpired := by
    rw [hs.lock_eq i h hi, DistributedLock.extend_state, if_neg (hs.not_owns hi hexpired d)]
  exclusive i j hi hj hhi hhj hkey hheldi hheldj := by
    by_contra hne
    exact hs.alone hdistinct (hs.live hhj hheldj) i hi hne hhi hheldi hkey

/-- In every interleaving the lock excludes all but its owner. -/
theorem mutual_exclusion (hdistinct : Function.Injective fun i => (calls i).value) (now : ℤ)
    (events : List (Event ι)) : Excludes calls (run calls now events) :=
  (Consistent.run hdistinct now events).excludes hdistinct

end Runs

section Sample

/-- Lifetimes are whole milliseconds. -/
@[reducible] def Sample.library : RedisLibrary := ⟨fun ttl => some (some (ttl / 1000000).toNat)⟩

attribute [local instance] Sample.library

/-- Two calls for one key, with a second and two seconds to live. -/
def Sample.calls : Bool → DistributedLock
  | false => ⟨"lock:feed", "5f1c", 1000000000⟩
  | true => ⟨"lock:feed", "a07e", 2000000000⟩

/-- The first lock expires before the second is acquired, and is then extended and released. -/
def Sample.events : List (Event Bool) :=
  [.acquire false .answered, .pass 1001, .acquire true .answered, .extend false 5000000000 .answered,
    .release false .answered]

theorem mutual_exclusion_expired : (run Sample.calls 0 Sample.events).redis.get "lock:feed" = some "a07e" ∧
    Excludes Sample.calls (run Sample.calls 0 Sample.events) :=
  ⟨by decide, mutual_exclusion (Bool.injective_iff.mpr (by decide)) 0 Sample.events⟩

end Sample

end ErgGo.Cache
