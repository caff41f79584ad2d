import ErgGo.Hoclieu.ServiceSpec

/-!
# Repository writes that fail

An operation has changed the memory when it turns to the repository, and does not take the change
back when a write fails. The error leaves the memory as it was only where the operation had
nothing to change: the clock moves on, so this is the case of a taxonomy option stored as it is.
-/

namespace ErgGo.Hoclieu
open Go

/-- Every record in memory was last changed before this time. -/
structure Memory.ChangedBefore (m : Memory) (t : Time) : Prop where
  resources : ∀ id resource, m.resources.lookup id = some resource → resource.updatedAt < t
  assets : ∀ id asset, m.assets.lookup id = some asset → asset.updatedAt < t

lemma Memory.ChangedBefore.mono {m : Memory} {t t' : Time} (h : m.ChangedBefore t) (htime : t ≤ t') : m.ChangedBefore t' where
  resources id resource hid := lt_of_lt_of_le (h.resources id resource hid) htime
  assets id asset hid := lt_of_lt_of_le (h.assets id asset hid) htime

lemma changedBefore_empty (t : Time) : Memory.ChangedBefore {} t where
  resources _ _ h := by cases h
  assets _ _ h := by cases h

/-- The environment of an operation. -/
def Operation.env? : Operation → Option ServiceEnv
  | createResource env _ | updateResource env _ _ | createAsset env _ | updateAsset env _ _ | uploadAsset env _ _ _ _
  | createTaxonomyOption env _ _ | updateTaxonomyOption env _ _ _ | trackProgressEvent env _ => some env
  | deleteResource _ | deleteTaxonomyOption _ _ => none

/-- The operation reads the clock from `t` on and before `t'`. -/
structure Operation.ReadsClock (op : Operation) (t t' : Time) : Prop where
  now : ∀ env, op.env? = some env → t ≤ env.now
  later : ∀ env, op.env? = some env → env.now ≤ env.later
  next : t ≤ t' ∧ ∀ env, op.env? = some env → env.later < t'

section Failures

variable [Library] [WebLibrary]

/-- The operation stores an option of the taxonomy exactly as it is stored. -/
def Operation.Restores : Operation → Memory → Prop
  | createTaxonomyOption env kind req, m =>
    let option := taxonomyOptionFromRequest env.now req
    ∃ target, taxonomyKind kind = some target ∧
      (m.taxonomySlice target).find? (fun existing => existing.id = option.id) = some option
  | updateTaxonomyOption env kind id req, m =>
    ∃ target option, taxonomyKind kind = some target ∧
      (m.taxonomySlice target).find? (fun option => option.id = trimSpace id) = some option ∧
      updateTaxonomyOptionFields env.now req option = .ok option
  | _, _ => False

section Lists

variable {option : TaxonomyOption} {options : List TaxonomyOption}

omit [Library] [WebLibrary]

/-- Storing an option changes the list unless it is the one found under its id. -/
lemma upsertTaxonomyOption_eq_iff :
    upsertTaxonomyOption option options = options ↔
      options.find? (fun existing => existing.id = option.id) = some option := by
  induction options with
  | nil => simp [upsertTaxonomyOption]
  | cons existing rest ih =>
    rw [upsertTaxonomyOption]
    by_cases hid : existing.id = option.id
    · rw [if_pos hid, List.find?_cons_of_pos (by simpa using hid), List.cons_eq_cons, Option.some.injEq, eq_comm]
      exact and_iff_left rfl
    · rw [if_neg hid, List.find?_cons_of_neg (by simpa using hid), List.cons_eq_cons]
      exact (and_iff_right rfl).trans ih

lemma setTaxonomySlice_eq_iff (m : Memory) (options : List TaxonomyOption) (kind : TaxonomyKind) :
    m.setTaxonomySlice options kind = m ↔ options = m.taxonomySlice kind := by
  constructor
  · intro h
    have hslice : (m.setTaxonomySlice options kind).taxonomySlice kind = m.taxonomySlice kind := by rw [h]
    rwa [Memory.taxonomySlice_set] at hslice
  · rintro rfl
    cases kind <;> rfl

end Lists

section Stamps

omit [Library] [WebLibrary]

/-- The records are old ones, or were changed at `t`. -/
structure StampedAt (m m' : Memory) (t : Time) : Prop where
  resources : ∀ id resource, m'.resources.lookup id = some resource →
    m.resources.lookup id = some resource ∨ resource.updatedAt = t
  assets : ∀ id asset, m'.assets.lookup id = some asset → m.assets.lookup id = some asset ∨ asset.updatedAt = t

/-- Some record was changed at `t`. -/
def HasStamp (m : Memory) (t : Time) : Prop :=
  (∃ id resource, m.resources.lookup id = some resource ∧ resource.updatedAt = t) ∨
    ∃ id asset, m.assets.lookup id = some asset ∧ asset.updatedAt = t

lemma StampedAt.changedBefore {m m' : Memory} {t t' : Time} (hstamps : StampedAt m m' t) (h : m.ChangedBefore t')
    (hlt : t < t') : m'.ChangedBefore t' where
  resources id resource hid := by
    obtain hold | hstamp := hstamps.resources id resource hid
    · exact h.resources id resource hold
    · exact hstamp ▸ hlt
  assets id asset hid := by
    obtain hold | hstamp := hstamps.assets id asset hid
    · exact h.assets id asset hold
    · exact hstamp ▸ hlt

lemma HasStamp.not_changedBefore {m : Memory} {t t' : Time} (h : HasStamp m t') (hle : t ≤ t') : ¬m.ChangedBefore t := by
  intro hbefore
  obtain ⟨id, resource, hid, hstamp⟩ | ⟨id, asset, hid, hstamp⟩ := h
  · have hlt := hbefore.resources id resource hid
    exact absurd (lt_of_lt_of_le hlt hle) (by rw [hstamp]; exact lt_irrefl t')
  · have hlt := hbefore.assets id asset hid
    exact absurd (lt_of_lt_of_le hlt hle) (by rw [hstamp]; exact lt_irrefl t')

lemma lookup_insert_cases {V : Type} {records : GoMap V} {k id : String} {value record : V}
    (h : (records.insert k value).lookup id = some record) : records.lookup id = some record ∨ record = value := by
  by_cases hid : id = k
  · subst hid
    rw [AList.lookup_insert, Option.some.injEq] at h
    exact .inr h.symm
  · rw [AList.lookup_insert_ne hid] at h
    exact .inl h

/-- Replacing one record of each kind, by records changed at `t`. -/
lemma stampedAt_insert {m m' : Memory} {t : Time} {id assetID : String} {resource : ResourceDetail} {asset : AssetRecord}
    (hresources : m'.resources = m.resources ∨ m'.resources = m.resources.insert id resource ∧ resource.updatedAt = t)
    (hassets : m'.assets = m.assets ∨ m'.assets = m.assets.insert assetID asset ∧ asset.updatedAt = t) :
    StampedAt m m' t where
  resources k r hk := by
    obtain hsame | ⟨hinsert, hstamp⟩ := hresources
    · exact .inl (hsame ▸ hk)
    · rw [hinsert] at hk
      obtain hold | rfl := lookup_insert_cases hk
      · exact .inl hold
      · exact .inr hstamp
  assets k a hk := by
    obtain hsame | ⟨hinsert, hstamp⟩ := hassets
    · exact .inl (hsame ▸ hk)
    · rw [hinsert] at hk
      obtain hold | rfl := lookup_insert_cases hk
      · exact .inl hold
      · exact .inr hstamp

end Stamps

namespace Service

variable {env : ServiceEnv} {m : Memory} {t : Time} {id : String}

lemma createResource_stamps {req : CreateResourceRequest} {mutation : Mutation ResourceDetail}
    (hok : createResource env req m = .ok mutation) :
    StampedAt m mutation.memory env.now ∧ HasStamp mutation.memory env.now := by
  obtain ⟨validation, -, hresources, hassets, -, hresult⟩ := createResource_eq_ok hok
  have hstamp : mutation.result.updatedAt = env.now := by rw [hresult]; rfl
  refine ⟨stampedAt_insert (.inr ⟨hresources, hstamp⟩) (.inr ⟨hassets, rfl⟩), .inl ⟨resourceID (resourceSlug env req), mutation.result, ?_, hstamp⟩⟩
  rw [hresources]
  exact AList.lookup_insert _

lemma updateResource_stamps {req : UpdateResourceRequest} {mutation : Mutation ResourceDetail}
    (hok : updateResource env id req m = .ok mutation) :
    StampedAt m mutation.memory env.later ∧ HasStamp mutation.memory env.later := by
  obtain ⟨resource, -, hresources, hassets, -, hstamp⟩ := updateResource_eq_ok hok
  refine ⟨⟨?_, fun k a hk => .inl (hassets ▸ hk)⟩, .inl ⟨id, mutation.result, ?_, hstamp⟩⟩
  · intro k r hk
    rw [hresources] at hk
    obtain hold | rfl := lookup_insert_cases hk
    · exact .inl hold
    · exact .inr hstamp
  · rw [hresources]
    exact AList.lookup_insert _

lemma createAsset_stamps {req : CreateAssetRequest} {mutation : Mutation Asset} (hok : createAsset env req m = .ok mutation) :
    StampedAt m mutation.memory env.now ∧ HasStamp mutation.memory env.now := by
  obtain ⟨validation, resource, -, -, -, hmemory⟩ := createAsset_eq_ok hok
  refine ⟨stampedAt_insert (.inr ⟨congrArg Memory.resources hmemory, rfl⟩) (.inr ⟨congrArg Memory.assets hmemory, rfl⟩),
    .inr ⟨nextAssetID req.resourceID m, newAsset env req validation (nextAssetID req.resourceID m), ?_, rfl⟩⟩
  rw [hmemory]
  exact AList.lookup_insert _

lemma updateAsset_stamps {req : UpdateAssetRequest} {mutation : Mutation Asset} (hok : updateAsset env id req m = .ok mutation) :
    StampedAt m mutation.memory env.now ∧ HasStamp mutation.memory env.now := by
  obtain ⟨record, updated, -, -, -, hstamp, hassets, hresources⟩ := updateAsset_eq_ok hok
  have hstored : HasStamp mutation.memory env.now := by
    refine .inr ⟨id, updated, ?_, hstamp⟩
    rw [hassets]
    exact AList.lookup_insert _
  obtain ⟨-, hsame⟩ | ⟨resource, changed, -, -, hchanged, hresources⟩ := hresources
  · refine ⟨⟨fun k r hk => .inl (hsame ▸ hk), fun k a hk => ?_⟩, hstored⟩
    rw [hassets] at hk
    obtain hold | rfl := lookup_insert_cases hk
    · exact .inl hold
    · exact .inr hstamp
  · exact ⟨stampedAt_insert (.inr ⟨hresources, hchanged⟩) (.inr ⟨hassets, hstamp⟩), hstored⟩

omit [Library] [WebLibrary] in
lemma lookup_of_foldl_erase {assets : List Asset} {records : GoMap AssetRecord} {k : String} {record : AssetRecord}
    (h : (assets.foldl (fun records asset => records.erase asset.id) records).lookup k = some record) :
    records.lookup k = some record := by
  induction assets generalizing records with
  | nil => exact h
  | cons asset assets ih =>
    have herase := ih h
    by_cases hk : k = asset.id
    · subst hk
      rw [AList.lookup_erase] at herase
      cases herase
    · rwa [AList.lookup_erase_ne hk] at herase

omit [Library] [WebLibrary] in
lemma deleteResource_stamps {mutation : Mutation Unit} (hok : deleteResource id m = .ok mutation) (t : Time) :
    StampedAt m mutation.memory t ∧ mutation.memory ≠ m := by
  obtain ⟨resource, hlookup, hresources, hassets⟩ := deleteResource_eq_ok hok
  refine ⟨⟨fun k r hk => .inl ?_, fun k a hk => .inl (lookup_of_foldl_erase (hassets ▸ hk))⟩, ?_⟩
  · rw [hresources] at hk
    by_cases hid : k = id
    · subst hid
      rw [AList.lookup_erase] at hk
      cases hk
    · rwa [AList.lookup_erase_ne hid] at hk
  · intro hsame
    rw [hsame] at hresources
    have hgone : m.resources.lookup id = none := by rw [hresources]; exact AList.lookup_erase _ _
    rw [hgone] at hlookup
    cases hlookup

end Service

omit [WebLibrary] in
lemma updateTaxonomyOptionFields_id {now : Time} {req : UpdateTaxonomyOptionRequest} {option changed : TaxonomyOption}
    (h : updateTaxonomyOptionFields now req option = .ok changed) : changed.id = option.id := by
  unfold updateTaxonomyOptionFields at h
  dsimp only at h
  split at h
  · cases h
  · cases h
    rfl

omit [Library] [WebLibrary] in
lemma setTaxonomySlice_stamps (m : Memory) (options : List TaxonomyOption) (kind : TaxonomyKind) (t : Time) :
    StampedAt m (m.setTaxonomySlice options kind) t := by
  obtain ⟨hresources, hassets, -⟩ := m.setTaxonomySlice_kept options kind
  exact ⟨fun k r hk => .inl (hresources ▸ hk), fun k a hk => .inl (hassets ▸ hk)⟩

/-- What an accepted operation leaves was changed before its end, and differs from what it met
unless it restores an option. -/
lemma Operation.mutate_changes {op : Operation} {m : Memory} {t t' : Time} {mutation : Mutation op.Result}
    (h : m.ChangedBefore t) (hclock : op.ReadsClock t t') (hok : op.mutate m = .ok mutation) :
    mutation.memory.ChangedBefore t' ∧ (mutation.memory = m ↔ op.Restores m) := by
  have hbefore : m.ChangedBefore t' := h.mono hclock.next.1
  have hstamped : ∀ {m' : Memory} {env : ServiceEnv} {stamp : Time}, op.env? = some env → env.now ≤ stamp → stamp ≤ env.later →
      ¬op.Restores m → StampedAt m m' stamp ∧ HasStamp m' stamp → m'.ChangedBefore t' ∧ (m' = m ↔ op.Restores m) := by
    intro m' env stamp henv hnow hlater hrestores hstamps
    refine ⟨hstamps.1.changedBefore hbefore (lt_of_le_of_lt hlater (hclock.next.2 env henv)), ?_⟩
    refine iff_of_false (fun hsame => ?_) hrestores
    exact hstamps.2.not_changedBefore ((hclock.now env henv).trans hnow) (hsame ▸ h)
  cases op with
  | createResource env req =>
    exact hstamped rfl le_rfl (hclock.later env rfl) id (Service.createResource_stamps hok)
  | updateResource env id req =>
    exact hstamped rfl (hclock.later env rfl) le_rfl (fun h => h) (Service.updateResource_stamps hok)
  | createAsset env req =>
    exact hstamped rfl le_rfl (hclock.later env rfl) id (Service.createAsset_stamps hok)
  | updateAsset env id req =>
    exact hstamped rfl le_rfl (hclock.later env rfl) (fun h => h) (Service.updateAsset_stamps hok)
  | uploadAsset env req size name mimeType =>
    obtain ⟨created, -, hasset⟩ := except_bind_eq_ok.mp hok
    exact hstamped rfl le_rfl (hclock.later env rfl) id (Service.createAsset_stamps hasset)
  | deleteResource id =>
    obtain ⟨hstamps, hne⟩ := Service.deleteResource_stamps hok (t' - 1)
    exact ⟨hstamps.changedBefore hbefore (sub_one_lt t'), iff_of_false hne (fun h => h)⟩
  | createTaxonomyOption env kind req =>
    change Service.createTaxonomyOption env kind req m = .ok mutation at hok
    obtain ⟨target, hkind, hmemory⟩ := Service.createTaxonomyOption_eq_ok hok
    rw [hmemory]
    refine ⟨(setTaxonomySlice_stamps m _ target (t' - 1)).changedBefore hbefore (sub_one_lt t'), ?_⟩
    rw [setTaxonomySlice_eq_iff, upsertTaxonomyOption_eq_iff]
    simp only [Restores, hkind, Option.some.injEq, exists_eq_left']
  | updateTaxonomyOption env kind id req =>
    change Service.updateTaxonomyOption env kind id req m = .ok mutation at hok
    obtain ⟨target, option, changed, hkind, hfind, hchanged, hmemory⟩ := Service.updateTaxonomyOption_eq_ok hok
    rw [hmemory]
    refine ⟨(setTaxonomySlice_stamps m _ target (t' - 1)).changedBefore hbefore (sub_one_lt t'), ?_⟩
    have hid : option.id = trimSpace id := by simpa using List.find?_some hfind
    have hkept : changed.id = option.id := updateTaxonomyOptionFields_id hchanged
    rw [setTaxonomySlice_eq_iff, upsertTaxonomyOption_eq_iff, hkept, hid, hfind, Option.some.injEq]
    constructor
    · rintro rfl
      exact ⟨target, option, hkind, hfind, hchanged⟩
    · rintro ⟨target', option', hkind', hfind', hsame⟩
      obtain rfl := Option.some.inj (hkind.symm.trans hkind')
      obtain rfl := Option.some.inj (hfind.symm.trans hfind')
      exact Except.ok.inj (hsame.symm.trans hchanged)
  | deleteTaxonomyOption kind id =>
    change Service.deleteTaxonomyOption kind id m = .ok mutation at hok
    obtain ⟨target, option, -, hfind, hmemory⟩ := Service.deleteTaxonomyOption_eq_ok hok
    rw [hmemory]
    refine ⟨(setTaxonomySlice_stamps m _ target (t' - 1)).changedBefore hbefore (sub_one_lt t'), ?_⟩
    refine iff_of_false (fun hsame => ?_) (fun h => h)
    rw [setTaxonomySlice_eq_iff, List.eraseP_eq_self_iff] at hsame
    have hid : option.id = trimSpace id := by simpa using List.find?_some hfind
    exact hsame option (List.mem_of_find?_eq_some hfind) (decide_eq_true hid)
  | trackProgressEvent env req =>
    change Service.trackProgressEvent env req m = .ok mutation at hok
    have hmemory := Service.trackProgressEvent_eq_ok hok
    rw [hmemory]
    refine ⟨⟨hbefore.resources, hbefore.assets⟩, iff_of_false (fun hsame => ?_) (fun h => h)⟩
    exact absurd (congrArg Memory.progressEvents hsame) (List.cons_ne_self _ _)

section Repository

variable {σ : Type} (write : RepositoryWrite → σ → Except HoclieuError Unit × σ)

/-- Memory and repository after operations whose readings of the clock increase. At first the
memory is empty or was loaded; all changes in it lie in the past. -/
inductive Reached : Time → Memory → σ → Prop
  | start {t : Time} {m : Memory} (s : σ) (h : m.ChangedBefore t) : Reached t m s
  | step {t t' : Time} {m : Memory} {s : σ} (op : Operation) (h : Reached t m s) (hclock : op.ReadsClock t t') :
    Reached t' (op.run write m s).2.1 (op.run write m s).2.2

/-- One of the writes of the operation fails. -/
def Operation.WriteFails (op : Operation) (m : Memory) (s : σ) : Prop :=
  ∃ mutation e, op.mutate m = .ok mutation ∧ (performWrites write mutation.writes s).1 = .error e

variable {write}

lemma Operation.run_memory (op : Operation) (m : Memory) (s : σ) : (op.run write m s).2.1 = op.perform m := by
  unfold run perform
  cases op.mutate m with
  | error e => rfl
  | ok mutation =>
    dsimp only
    split <;> rfl

lemma Operation.run_eq_error {op : Operation} {m : Memory} {s : σ} :
    (∃ e, (op.run write m s).1 = .error e) ↔ (∃ e, op.mutate m = .error e) ∨ op.WriteFails write m s := by
  unfold run WriteFails
  cases op.mutate m with
  | error e => simp
  | ok mutation =>
    cases hwrites : performWrites write mutation.writes s with
    | mk outcome s' => cases outcome <;> simp [hwrites]

lemma Reached.changedBefore {t : Time} {m : Memory} {s : σ} (h : Reached write t m s) : m.ChangedBefore t := by
  induction h with
  | start s h => exact h
  | @step t t' m s op _ hclock ih =>
    rw [Operation.run_memory]
    obtain ⟨e, -, hsame⟩ | ⟨mutation, hok, hmemory⟩ := op.perform_cases m
    · rw [hsame]
      exact ih.mono hclock.next.1
    · rw [hmemory]
      exact (Operation.mutate_changes ih hclock hok).1

/-- An error leaves the memory as it was exactly when it does not come from a write that fails, or
the operation has stored an option as it was. -/
theorem memory_kept_iff {t t' : Time} {m : Memory} {s : σ} (hreached : Reached write t m s) {op : Operation}
    (hclock : op.ReadsClock t t') :
    (∀ e, (op.run write m s).1 = .error e → (op.run write m s).2.1 = m) ↔ (op.WriteFails write m s → op.Restores m) := by
  have hbefore := hreached.changedBefore
  rw [Operation.run_memory, ← exists_imp, Operation.run_eq_error]
  obtain ⟨e, herror, hsame⟩ | ⟨mutation, hok, hmemory⟩ := op.perform_cases m
  · refine iff_of_true (fun _ => hsame) ?_
    rintro ⟨mutation, -, hok, -⟩
    rw [herror] at hok
    cases hok
  · have haccepted : ¬∃ e, op.mutate m = .error e := by simp [hok]
    rw [or_iff_right haccepted, hmemory, (Operation.mutate_changes hbefore hclock hok).2]

end Repository

end Failures

section Sample

attribute [local instance] asciiLibrary plainWeb

namespace Sample

/-- The repository as it answers while it is reachable, or while it is not. -/
def answers (reachable : Bool) (_ : RepositoryWrite) (_ : Unit) : Except HoclieuError Unit × Unit :=
  (if reachable then .ok () else .error (.storage "no reachable servers"), ())

def newLesson : Operation :=
  .createResource ⟨1, 2, "", none⟩
    { title := "Unit 1", slug := "unit-1", programSlug := "english", subjectID := "english", categoryID := "lecture",
      selectedFileType := .pdf }

lemma newLesson_readsClock : newLesson.ReadsClock 1 3 where
  now env henv := by
    cases henv
    decide
  later env henv := by
    cases henv
    decide
  next := by
    refine ⟨by decide, fun env henv => ?_⟩
    cases henv
    decide

end Sample

theorem memory_kept_reachable : ¬Sample.newLesson.WriteFails (Sample.answers true) {} () ∧
    ∀ e, (Sample.newLesson.run (Sample.answers true) {} ()).1 = .error e →
      (Sample.newLesson.run (Sample.answers true) {} ()).2.1 = {} := by
  have hwritten : ¬Sample.newLesson.WriteFails (Sample.answers true) {} () := by
    rintro ⟨mutation, e, hok, hwrites⟩
    cases hok
    cases hwrites
  exact ⟨hwritten, (memory_kept_iff (.start () (changedBefore_empty 1)) Sample.newLesson_readsClock).mpr
    (fun hfails => absurd hfails hwritten)⟩

/-- The resource is in memory although its creation has failed. -/
theorem failed_creation_stays : Reached (Sample.answers false) 1 {} () ∧
    (∃ e, (Sample.newLesson.run (Sample.answers false) {} ()).1 = .error e) ∧
    (Sample.newLesson.run (Sample.answers false) {} ()).2.1 ≠ {} := by
  refine ⟨.start () (changedBefore_empty 1), ⟨.storage "no reachable servers", by rfl⟩, fun hsame => ?_⟩
  have hstored : ((Sample.newLesson.run (Sample.answers false) {} ()).2.1.resources.lookup "res-unit-1").isSome = true := by
    decide
  rw [hsame] at hstored
  exact absurd hstored (by decide)

end Sample

end ErgGo.Hoclieu
