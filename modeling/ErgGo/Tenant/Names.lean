import ErgGo.Lib.Filepath

/-!
# Tenant-scoped names

A tenant's collections, Redis keys and queues are named by the tenant and a name of their own,
joined by a separator. The tenant of a request is read from its header, its claims or its host.
-/

namespace ErgGo.Tenant
open Go Go.Bytes

def colon : UInt8 := 0x3A

/-- The white space that `normalize` leaves out. -/
def blanks : Bytes := [0x20, 0x09, 0x0A, 0x0D]

def normalize (s : Bytes) : Bytes :=
  (s.filter (· ∉ blanks)).map fun c => if 0x41 ≤ c && c ≤ 0x5A then c + 0x20 else c

/-- A tenant ID that has been normalised. -/
@[ext] structure TenantID where
  text : Bytes
  normalized : ∃ raw, normalize raw = text

def TenantID.of (raw : Bytes) : TenantID := ⟨normalize raw, raw, rfl⟩

/-- What a tenant is read from: the header, the claim `tenant_id` if it is a string, and the host. -/
structure Request where
  header : Bytes
  claim : Option Bytes
  host : Bytes

def extractSubdomain (host : Bytes) : Bytes :=
  let host := if colon ∈ host then (host.rdropWhile (· ≠ colon)).dropLast else host
  let parts := host.splitOn dot
  if parts.length < 2 then [] else parts.headD []

def resolveTenantID (r : Request) (allowSubdomain : Bool) (defaultID : Bytes) : TenantID :=
  if trimSpace r.header ≠ [] then .of (trimSpace r.header)
  else if r.claim.getD [] ≠ [] then .of (r.claim.getD [])
  else if allowSubdomain ∧ extractSubdomain r.host ≠ [] then .of (extractSubdomain r.host)
  else .of defaultID

inductive IsolationMode where
  | collection
  | field
  deriving DecidableEq

/-- The ID itself, or the first default that is not empty. -/
def orDefault (id defaultID : Bytes) : Bytes :=
  if id ≠ [] then id else if defaultID ≠ [] then defaultID else bytes "default"

structure TenantMongoClient where
  mode : IsolationMode
  defaultID : Bytes
  defaultID_ne_nil : defaultID ≠ []

def TenantMongoClient.collectionNameFor (m : TenantMongoClient) (tenantID name : Bytes) : Bytes :=
  match m.mode with
  | .field => name
  | .collection => tenantID ++ underscore :: name

/-- The collection for the tenant of a context. -/
def TenantMongoClient.tenantCollection (m : TenantMongoClient) (id name : Bytes) : Bytes :=
  match m.mode with
  | .field => name
  | .collection => m.collectionNameFor (orDefault id m.defaultID) name

/-- `prefixKey`, of a wrapper made for the tenant. -/
def prefixKey (tenantID key : Bytes) : Bytes := bytes "tenant:" ++ (orDefault tenantID [] ++ colon :: key)

def tenantQueueName (baseQueue tenantID : Bytes) : Bytes := baseQueue ++ underscore :: tenantID

/-- The queue that `EnqueueTenant` dedicates to the tenant of a context. -/
def enqueueTenant (defaultTenantID baseQueue id : Bytes) : Bytes :=
  tenantQueueName baseQueue (orDefault id defaultTenantID)

/-- Equal names are names of one thing of one tenant. -/
structure Scoped (m : TenantMongoClient) (queueDefault : Bytes) (t₁ t₂ : TenantID) (n₁ n₂ : Bytes) : Prop where
  collectionFor : m.collectionNameFor t₁.text n₁ = m.collectionNameFor t₂.text n₂ → t₁ = t₂ ∧ n₁ = n₂
  collection : m.tenantCollection t₁.text n₁ = m.tenantCollection t₂.text n₂ → t₁ = t₂ ∧ n₁ = n₂
  key : prefixKey t₁.text n₁ = prefixKey t₂.text n₂ → t₁ = t₂ ∧ n₁ = n₂
  queue : enqueueTenant queueDefault n₁ t₁.text = enqueueTenant queueDefault n₂ t₂.text → t₁ = t₂ ∧ n₁ = n₂

/-- What `a` has more than `c`, after a separator, stands before a separator and `b` in `d`. -/
def Shifted (sep : UInt8) (a b c d : Bytes) : Prop := ∃ r, a = c ++ sep :: r ∧ d = r ++ sep :: b

/-- The pairs cannot be joined to one word. -/
def Apart (sep : UInt8) (a b c d : Bytes) : Prop := ¬Shifted sep a b c d ∧ ¬Shifted sep c d a b

/-- One of the tenants is none and the other is what none stands for. -/
def Fallback (defaultID : Bytes) (t₁ t₂ : TenantID) : Prop :=
  t₁.text = [] ∧ t₂.text = defaultID ∨ t₂.text = [] ∧ t₁.text = defaultID

/-- No separator inside an ID or a name lets two pairs look alike, no tenant shares what is named
without a tenant, and none has the name of the default. -/
structure Separate (m : TenantMongoClient) (queueDefault : Bytes) (t₁ t₂ : TenantID) (n₁ n₂ : Bytes) : Prop where
  field : m.mode = .field → n₁ = n₂ → t₁ = t₂
  collectionFor : m.mode = .collection → Apart underscore t₁.text n₁ t₂.text n₂
  collection : m.mode = .collection →
    Apart underscore (orDefault t₁.text m.defaultID) n₁ (orDefault t₂.text m.defaultID) n₂ ∧
      (n₁ = n₂ → ¬Fallback m.defaultID t₁ t₂)
  key : Apart colon (orDefault t₁.text []) n₁ (orDefault t₂.text []) n₂ ∧
    (n₁ = n₂ → ¬Fallback (bytes "default") t₁ t₂)
  queue : Apart underscore n₁ (orDefault t₁.text queueDefault) n₂ (orDefault t₂.text queueDefault) ∧
    (n₁ = n₂ → ¬Fallback (orDefault [] queueDefault) t₁ t₂)

lemma joined_eq_iff {sep : UInt8} {a b c d : Bytes} : a ++ sep :: b = c ++ sep :: d ↔
    (a = c ∧ b = d) ∨ ¬Apart sep a b c d := by
  rw [Apart, not_and_or, not_not, not_not]
  constructor
  · intro h
    obtain ⟨r, hc, hb⟩ | ⟨r, ha, hd⟩ := List.append_eq_append_iff.mp h
    · cases r with
      | nil => exact .inl ⟨by simpa using hc.symm, (List.cons.inj hb).2⟩
      | cons x r =>
        obtain ⟨rfl, htail⟩ := List.cons.inj hb
        exact .inr (.inr ⟨r, hc, htail⟩)
    · cases r with
      | nil => exact .inl ⟨by simpa using ha, (List.cons.inj hd).2.symm⟩
      | cons x r =>
        obtain ⟨rfl, htail⟩ := List.cons.inj hd
        exact .inr (.inl ⟨r, ha, htail⟩)
  · rintro (⟨rfl, rfl⟩ | ⟨r, rfl, rfl⟩ | ⟨r, rfl, rfl⟩)
    · rfl
    · simp
    · simp

lemma apart_self (sep : UInt8) (a b : Bytes) : Apart sep a b a b := by
  have h : ¬Shifted sep a b a b := by
    rintro ⟨r, hr, -⟩
    have hlength := congrArg List.length hr
    simp only [List.length_append, List.length_cons] at hlength
    omega
  exact ⟨h, h⟩

lemma joined_inj_iff {sep : UInt8} {a b c d : Bytes} :
    (a ++ sep :: b = c ++ sep :: d → a = c ∧ b = d) ↔ Apart sep a b c d := by
  rw [joined_eq_iff]
  constructor
  · intro h
    by_contra hapart
    obtain ⟨rfl, rfl⟩ := h (.inr hapart)
    exact hapart (apart_self sep a b)
  · exact fun hapart h => h.resolve_right (not_not.mpr hapart)

lemma orDefault_nil_ne_nil (d : Bytes) : orDefault [] d ≠ [] := by
  by_cases hd : d = []
  · rw [hd]
    decide
  · simp [orDefault, hd]

lemma orDefault_of_ne_nil {d : Bytes} (hd : d ≠ []) : orDefault [] d = d := by
  simp [orDefault, hd]

/-- Two tenants stand for one exactly where they are one or one of them falls back to the other. -/
lemma orDefault_eq_iff (d : Bytes) (t₁ t₂ : TenantID) :
    orDefault t₁.text d = orDefault t₂.text d ↔ t₁ = t₂ ∨ Fallback (orDefault [] d) t₁ t₂ := by
  have hne := orDefault_nil_ne_nil d
  have hself : ∀ {s : Bytes}, s ≠ [] → orDefault s d = s := fun hs => if_pos hs
  rw [TenantID.ext_iff, Fallback]
  by_cases h₁ : t₁.text = []
  · by_cases h₂ : t₂.text = []
    · simp [h₁, h₂]
    · rw [h₁, hself h₂]
      constructor
      · exact fun h => .inr (.inl ⟨rfl, h.symm⟩)
      · rintro (h | ⟨-, h⟩ | ⟨h, -⟩)
        · exact absurd h.symm h₂
        · exact h.symm
        · exact absurd h h₂
  · by_cases h₂ : t₂.text = []
    · rw [h₂, hself h₁]
      simp [h₁]
    · simp [hself h₁, hself h₂, h₁, h₂]

lemma Fallback.ne {d : Bytes} (hd : d ≠ []) {t₁ t₂ : TenantID} (h : Fallback d t₁ t₂) : t₁ ≠ t₂ := by
  rintro rfl
  obtain ⟨hempty, hdefault⟩ | ⟨hempty, hdefault⟩ := h
  · exact hd (hdefault.symm.trans hempty)
  · exact hd (hdefault.symm.trans hempty)

/-- Names made of the tenant that an ID stands for tell the IDs apart. -/
lemma resolved_inj_iff {joined apart : Prop} {d : Bytes} {t₁ t₂ : TenantID} {n₁ n₂ : Bytes}
    (hjoined : (joined → orDefault t₁.text d = orDefault t₂.text d ∧ n₁ = n₂) ↔ apart)
    (heq : orDefault t₁.text d = orDefault t₂.text d → n₁ = n₂ → joined) :
    (joined → t₁ = t₂ ∧ n₁ = n₂) ↔ apart ∧ (n₁ = n₂ → ¬Fallback (orDefault [] d) t₁ t₂) := by
  have hiff := orDefault_eq_iff d t₁ t₂
  rw [← hjoined]
  constructor
  · intro h
    refine ⟨fun hj => ⟨hiff.mpr (.inl (h hj).1), (h hj).2⟩, fun hn hfallback => ?_⟩
    exact hfallback.ne (orDefault_nil_ne_nil d) (h (heq (hiff.mpr (.inr hfallback)) hn)).1
  · rintro ⟨h, hfallback⟩ hj
    obtain ⟨hr, hn⟩ := h hj
    exact ⟨(hiff.mp hr).resolve_right (hfallback hn), hn⟩

lemma key_inj_iff (t₁ t₂ : TenantID) (n₁ n₂ : Bytes) :
    (prefixKey t₁.text n₁ = prefixKey t₂.text n₂ → t₁ = t₂ ∧ n₁ = n₂) ↔
      Apart colon (orDefault t₁.text []) n₁ (orDefault t₂.text []) n₂ ∧
        (n₁ = n₂ → ¬Fallback (bytes "default") t₁ t₂) := by
  have hkey : prefixKey t₁.text n₁ = prefixKey t₂.text n₂ ↔
      orDefault t₁.text [] ++ colon :: n₁ = orDefault t₂.text [] ++ colon :: n₂ := List.append_right_inj _
  rw [hkey]
  exact resolved_inj_iff joined_inj_iff fun hr hn => by rw [hr, hn]

lemma queue_inj_iff (d : Bytes) (t₁ t₂ : TenantID) (n₁ n₂ : Bytes) :
    (enqueueTenant d n₁ t₁.text = enqueueTenant d n₂ t₂.text → t₁ = t₂ ∧ n₁ = n₂) ↔
      Apart underscore n₁ (orDefault t₁.text d) n₂ (orDefault t₂.text d) ∧
        (n₁ = n₂ → ¬Fallback (orDefault [] d) t₁ t₂) := by
  refine resolved_inj_iff ?_ fun hr hn => by rw [enqueueTenant, enqueueTenant, hr, hn]
  rw [← joined_inj_iff, and_comm]
  rfl

lemma collection_inj_iff {m : TenantMongoClient} (hmode : m.mode = .collection) (t₁ t₂ : TenantID) (n₁ n₂ : Bytes) :
    (m.tenantCollection t₁.text n₁ = m.tenantCollection t₂.text n₂ → t₁ = t₂ ∧ n₁ = n₂) ↔
      Apart underscore (orDefault t₁.text m.defaultID) n₁ (orDefault t₂.text m.defaultID) n₂ ∧
        (n₁ = n₂ → ¬Fallback m.defaultID t₁ t₂) := by
  have hname : ∀ t : TenantID, ∀ n : Bytes,
      m.tenantCollection t.text n = orDefault t.text m.defaultID ++ underscore :: n := by
    intro t n
    simp only [TenantMongoClient.tenantCollection, TenantMongoClient.collectionNameFor, hmode]
  have hdefault : Fallback m.defaultID t₁ t₂ ↔ Fallback (orDefault [] m.defaultID) t₁ t₂ := by
    rw [orDefault_of_ne_nil m.defaultID_ne_nil]
  rw [hname, hname, hdefault]
  exact resolved_inj_iff joined_inj_iff fun hr hn => by rw [hr, hn]

/-- Names tell tenants apart exactly where no separator can be read in two ways. -/
theorem scoped_iff (m : TenantMongoClient) (queueDefault : Bytes) (t₁ t₂ : TenantID) (n₁ n₂ : Bytes) :
    Scoped m queueDefault t₁ t₂ n₁ n₂ ↔ Separate m queueDefault t₁ t₂ n₁ n₂ := by
  have hkey := key_inj_iff t₁ t₂ n₁ n₂
  have hqueue := queue_inj_iff queueDefault t₁ t₂ n₁ n₂
  cases hmode : m.mode with
  | field =>
    have hfor : m.collectionNameFor t₁.text n₁ = m.collectionNameFor t₂.text n₂ ↔ n₁ = n₂ := by
      simp only [TenantMongoClient.collectionNameFor, hmode]
    have hcollection : m.tenantCollection t₁.text n₁ = m.tenantCollection t₂.text n₂ ↔ n₁ = n₂ := by
      simp only [TenantMongoClient.tenantCollection, hmode]
    constructor
    · intro h
      exact ⟨fun _ hn => (h.collectionFor (hfor.mpr hn)).1, by simp [hmode], by simp [hmode], hkey.mp h.key,
        hqueue.mp h.queue⟩
    · intro h
      exact ⟨fun hn => ⟨h.field hmode (hfor.mp hn), hfor.mp hn⟩,
        fun hn => ⟨h.field hmode (hcollection.mp hn), hcollection.mp hn⟩, hkey.mpr h.key, hqueue.mpr h.queue⟩
  | collection =>
    have hfor : (m.collectionNameFor t₁.text n₁ = m.collectionNameFor t₂.text n₂ → t₁ = t₂ ∧ n₁ = n₂) ↔
        Apart underscore t₁.text n₁ t₂.text n₂ := by
      simp only [TenantMongoClient.collectionNameFor, hmode, TenantID.ext_iff]
      exact joined_inj_iff
    have hcollection := collection_inj_iff hmode t₁ t₂ n₁ n₂
    constructor
    · intro h
      exact ⟨by simp [hmode], fun _ => hfor.mp h.collectionFor, fun _ => hcollection.mp h.collection, hkey.mp h.key,
        hqueue.mp h.queue⟩
    · intro h
      exact ⟨hfor.mpr (h.collectionFor hmode), hcollection.mpr (h.collection hmode), hkey.mpr h.key,
        hqueue.mpr h.queue⟩

/-- The tenant of a request with this header. -/
def Sample.tenant (header : String) : TenantID := resolveTenantID ⟨bytes header, none, []⟩ false []

def Sample.client : TenantMongoClient := ⟨.collection, bytes "default", by decide⟩

/-- Two headers whose tenants share a collection, a key and a queue. -/
theorem tenants_collide :
    ¬Scoped Sample.client [] (Sample.tenant "acme") (Sample.tenant "Acme_eu") (bytes "eu_posts") (bytes "posts") ∧
    ¬Scoped Sample.client [] (Sample.tenant "acme") (Sample.tenant "acme:eu") (bytes "eu:posts") (bytes "posts") ∧
    ¬Scoped Sample.client [] (Sample.tenant "eu_acme") (Sample.tenant "acme") (bytes "jobs") (bytes "jobs_eu") := by
  refine ⟨fun h => ?_, fun h => ?_, fun h => ?_⟩
  · exact absurd (h.collection (by decide)).2 (by decide)
  · exact absurd (h.key (by decide)).2 (by decide)
  · exact absurd (h.queue (by decide)).2 (by decide)

end ErgGo.Tenant
