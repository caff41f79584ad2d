import ErgGo.Hoclieu.ServiceSpec
import ErgGo.Hoclieu.Viewing
import ErgGo.Lib.Listing

/-!
# The assets and the listings of the resources

An asset is kept in the map of assets and, as a copy, in the listing of its resource. Creating an
asset drops the placeholders from the listing but not from the map, and creating a resource or an
asset under an id in use leaves the other copy behind; while neither happens the two agree.
-/

namespace ErgGo.Hoclieu
open Go Listing

/-- The map of assets, as the resources list them. -/
def Memory.assetCopies (m : Memory) (id : String) : Option Asset := (m.assets.lookup id).map AssetRecord.toAsset

/-- Every asset in the map is listed by the resource it names, and every listed asset is in the map. -/
def Memory.AssetsAgree (m : Memory) : Prop :=
  Agrees ResourceDetail.assets Asset.id Asset.resourceID (fun id => m.resources.lookup id) m.assetCopies

section Agreement

variable [Library] [WebLibrary]

section Copies

variable {m m' : Memory} {id : String}

omit [Library] [WebLibrary]

lemma assetCopies_congr (h : m'.assets = m.assets) : m'.assetCopies = m.assetCopies := by
  funext id
  rw [Memory.assetCopies, h, Memory.assetCopies]

lemma assetCopies_insert {record : AssetRecord} (h : m'.assets = m.assets.insert id record) (k : String) :
    m'.assetCopies k = if k = id then some record.toAsset else m.assetCopies k := by
  rw [Memory.assetCopies, h]
  by_cases hk : k = id
  · subst hk
    rw [AList.lookup_insert, if_pos rfl]
    rfl
  · rw [AList.lookup_insert_ne hk, if_neg hk, Memory.assetCopies]

lemma lookup_foldl_erase (assets : List Asset) (records : GoMap AssetRecord) (k : String) :
    (assets.foldl (fun records asset => records.erase asset.id) records).lookup k =
      if k ∈ assets.map Asset.id then none else records.lookup k := by
  induction assets generalizing records with
  | nil => simp
  | cons asset assets ih =>
    rw [List.foldl_cons, ih]
    by_cases hk : k = asset.id
    · subst hk
      simp
    · simp [AList.lookup_erase_ne hk, hk]

lemma lookup_insert_of_eq {r : String} {resource : ResourceDetail}
    (h : m'.resources = m.resources.insert r resource) :
    m'.resources.lookup r = some resource ∧ ∀ s, s ≠ r → m'.resources.lookup s = m.resources.lookup s := by
  rw [h]
  exact ⟨AList.lookup_insert _, fun s hs => AList.lookup_insert_ne hs⟩

end Copies

/-- The new asset's id is free, but for an asset of its own resource, and the resource lists no other placeholder. -/
def ListsAsset (req : CreateAssetRequest) (m : Memory) : Prop :=
  ∀ validation resource,
    validateSelectedFileTypeMetadata req.selectedFileType req.originalFileName req.detectedMimeType = .ok validation →
    m.resources.lookup req.resourceID = some resource →
    (∀ record, m.assets.lookup (Service.nextAssetID req.resourceID m) = some record → record.resourceID = req.resourceID) ∧
    ∀ asset ∈ resource.assets, asset.isPlaceholder → asset.id = Service.nextAssetID req.resourceID m

/-- The new resource's asset takes the place of exactly the assets under the resource's id. -/
def ListsResource (env : ServiceEnv) (req : CreateResourceRequest) (m : Memory) : Prop :=
  ∀ validation,
    validateSelectedFileTypeMetadata req.selectedFileType req.originalFileName req.detectedMimeType = .ok validation →
    ∀ id record, m.assets.lookup id = some record →
      (record.resourceID = Service.resourceID (Service.resourceSlug env req) ↔
        id = Service.primaryAssetID (Service.resourceSlug env req))

def Operation.KeepsListings : Operation → Memory → Prop
  | createResource env req, m => ListsResource env req m
  | createAsset _ req, m => ListsAsset req m
  | uploadAsset env req size name mimeType, m =>
    ∀ created, Service.uploadRequest env req size name mimeType = .ok created → ListsAsset created m
  | _, _ => True

namespace Service

variable {env : ServiceEnv} {m : Memory} {id : String}

lemma agree_createResource {req : CreateResourceRequest} {mutation : Mutation ResourceDetail} (h : m.AssetsAgree)
    (hok : createResource env req m = .ok mutation) : mutation.memory.AssetsAgree ↔ ListsResource env req m := by
  obtain ⟨validation, hvalidation, hresources, hassets, -, hresult⟩ := createResource_eq_ok hok
  have hlisting : mutation.result.assets = [(newResourceAsset env req validation).toAsset] := by rw [hresult]; rfl
  obtain ⟨hself, hothers⟩ := lookup_insert_of_eq hresources
  have hcopies := assetCopies_insert hassets
  constructor
  · intro h' checked hchecked k record hrecord
    have hcopy : m.assetCopies k = some record.toAsset := by rw [Memory.assetCopies, hrecord]; rfl
    constructor
    · intro hparent
      by_contra hk
      have hkept : mutation.memory.assetCopies k = some record.toAsset := by rw [hcopies, if_neg hk, hcopy]
      have hmem : record.toAsset ∈ mutation.result.assets := h'.mem_of_child hkept (hparent ▸ hself)
      rw [hlisting, List.mem_singleton] at hmem
      exact hk ((h.listed_of_child hcopy).1.symm.trans (congrArg Asset.id hmem))
    · rintro rfl
      by_contra hparent
      have hkept := h.others_kept h' hothers hcopy hparent
      rw [hcopies, if_pos rfl, Option.some.injEq] at hkept
      exact hparent (congrArg Asset.resourceID hkept).symm
  · intro hkeeps
    have hiff := hkeeps validation hvalidation
    refine h.change hothers ?_ ?_ ?_ ?_
    · intro p hp
      obtain rfl := Option.some.inj (hself.symm.trans hp)
      rw [hlisting]
      exact List.nodup_singleton _
    · intro p hp c hc
      obtain rfl := Option.some.inj (hself.symm.trans hp)
      rw [hlisting, List.mem_singleton] at hc
      subst hc
      refine ⟨rfl, ?_⟩
      rw [hcopies]
      exact if_pos rfl
    · intro k c hc
      rw [hcopies] at hc
      split at hc
      · next hk =>
        cases hc
        refine .inr ⟨hk.symm, rfl, _, hself, ?_⟩
        rw [hlisting]
        exact List.mem_singleton_self _
      · next hk =>
        obtain ⟨record, hrecord, rfl⟩ := Option.map_eq_some_iff.mp hc
        exact .inl ⟨hc, fun hparent => hk ((hiff k record hrecord).mp hparent)⟩
    · intro k c hc hother
      obtain ⟨record, hrecord, rfl⟩ := Option.map_eq_some_iff.mp hc
      rw [hcopies, if_neg (fun hk => hother ((hiff k record hrecord).mpr hk)), hc]

lemma agree_createAsset {req : CreateAssetRequest} {mutation : Mutation Asset} (h : m.AssetsAgree)
    (hok : createAsset env req m = .ok mutation) : mutation.memory.AssetsAgree ↔ ListsAsset req m := by
  obtain ⟨validation, resource, hvalidation, hlookup, -, hmemory⟩ := createAsset_eq_ok hok
  obtain ⟨hself, hothers⟩ := lookup_insert_of_eq (m := m) (congrArg Memory.resources hmemory)
  have hcopies := assetCopies_insert (m := m) (congrArg Memory.assets hmemory)
  set record := newAsset env req validation (nextAssetID req.resourceID m) with hrecord
  constructor
  · intro h' checked other hchecked hother
    obtain rfl := Option.some.inj (hlookup.symm.trans hother)
    constructor
    · intro old hold
      by_contra hparent
      have hcopy : m.assetCopies (nextAssetID req.resourceID m) = some old.toAsset := by rw [Memory.assetCopies, hold]; rfl
      have hkept := h.others_kept h' hothers hcopy hparent
      rw [hcopies, if_pos rfl, Option.some.injEq] at hkept
      exact hparent (congrArg Asset.resourceID hkept).symm
    · intro asset hasset hplaceholder
      by_contra hid
      obtain ⟨hparent, hcopy⟩ := h.child_of_listed hlookup hasset
      have hkept : mutation.memory.assetCopies asset.id = some asset := by rw [hcopies, if_neg hid, hcopy]
      have hmem : asset ∈ promotePrimaryAsset resource.assets record.toAsset := h'.mem_of_child hkept (hparent ▸ hself)
      simp only [promotePrimaryAsset, List.mem_cons, List.mem_filter, hplaceholder, Bool.not_true, Bool.and_false,
        Bool.false_eq_true, and_false, or_false] at hmem
      exact hid (congrArg Asset.id hmem)
  · intro hkeeps
    obtain ⟨hfree, hplaceholders⟩ := hkeeps validation resource hvalidation hlookup
    refine h.change hothers ?_ ?_ ?_ ?_
    · intro p hp
      obtain rfl := Option.some.inj (hself.symm.trans hp)
      change ((promotePrimaryAsset resource.assets record.toAsset).map Asset.id).Nodup
      rw [promotePrimaryAsset, List.map_cons, List.nodup_cons]
      refine ⟨?_, (h.nodup hlookup).sublist (List.filter_sublist.map Asset.id)⟩
      simp only [List.mem_map, List.mem_filter, Bool.and_eq_true, decide_eq_true_eq]
      rintro ⟨asset, ⟨-, hid, -⟩, hsame⟩
      exact hid hsame
    · intro p hp c hc
      obtain rfl := Option.some.inj (hself.symm.trans hp)
      change c ∈ promotePrimaryAsset resource.assets record.toAsset at hc
      rw [promotePrimaryAsset, List.mem_cons, List.mem_filter] at hc
      obtain rfl | ⟨hc, hkept⟩ := hc
      · refine ⟨rfl, ?_⟩
        rw [hcopies]
        exact if_pos rfl
      · have hid : c.id ≠ nextAssetID req.resourceID m := by
          simp only [Bool.and_eq_true, decide_eq_true_eq] at hkept
          exact hkept.1
        rw [hcopies, if_neg hid]
        exact h.child_of_listed hlookup hc
    · intro k c hc
      rw [hcopies] at hc
      split at hc
      · next hk =>
        cases hc
        exact .inr ⟨hk.symm, rfl, _, hself, List.mem_cons_self⟩
      · next hk =>
        by_cases hparent : c.resourceID = req.resourceID
        · have hmem : c ∈ resource.assets := h.mem_of_child hc (hparent ▸ hlookup)
          have hkey : c.id = k := (h.listed_of_child hc).1
          have hfile : c.isPlaceholder = false := by
            by_contra hplaceholder
            exact hk (hkey ▸ hplaceholders c hmem (Bool.not_eq_false _ ▸ hplaceholder))
          refine .inr ⟨hkey, hparent, _, hself, List.mem_cons_of_mem _ (List.mem_filter.mpr ⟨hmem, ?_⟩)⟩
          rw [hfile, Bool.not_false, Bool.and_true, decide_eq_true_eq, hkey]
          exact hk
        · exact .inl ⟨hc, hparent⟩
    · intro k c hc hother
      rw [hcopies, if_neg, hc]
      rintro rfl
      obtain ⟨old, hold, rfl⟩ := Option.map_eq_some_iff.mp hc
      exact hother (hfree old hold)

lemma agree_updateResource {req : UpdateResourceRequest} {mutation : Mutation ResourceDetail} (h : m.AssetsAgree)
    (hok : updateResource env id req m = .ok mutation) : mutation.memory.AssetsAgree := by
  obtain ⟨resource, hlookup, hresources, hassets, hlisting, -⟩ := updateResource_eq_ok hok
  obtain ⟨hself, hothers⟩ := lookup_insert_of_eq hresources
  have hcopies := assetCopies_congr hassets
  refine h.change hothers ?_ ?_ ?_ ?_
  · intro p hp
    obtain rfl := Option.some.inj (hself.symm.trans hp)
    rw [hlisting]
    exact h.nodup hlookup
  · intro p hp c hc
    obtain rfl := Option.some.inj (hself.symm.trans hp)
    rw [hlisting] at hc
    rw [hcopies]
    exact h.child_of_listed hlookup hc
  · intro k c hc
    rw [hcopies] at hc
    by_cases hparent : c.resourceID = id
    · refine .inr ⟨(h.listed_of_child hc).1, hparent, _, hself, ?_⟩
      rw [hlisting]
      exact h.mem_of_child hc (hparent ▸ hlookup)
    · exact .inl ⟨hc, hparent⟩
  · intro k c hc _
    rw [hcopies, hc]

omit [Library] [WebLibrary] in
lemma agree_deleteResource {mutation : Mutation Unit} (h : m.AssetsAgree) (hok : deleteResource id m = .ok mutation) :
    mutation.memory.AssetsAgree ∧ ∀ k c, mutation.memory.assetCopies k = some c → c.resourceID ≠ id := by
  obtain ⟨resource, hlookup, hresources, hassets⟩ := deleteResource_eq_ok hok
  have hgone : mutation.memory.resources.lookup id = none := by rw [hresources]; exact AList.lookup_erase _ _
  have hothers : ∀ s, s ≠ id → mutation.memory.resources.lookup s = m.resources.lookup s := by
    intro s hs
    rw [hresources]
    exact AList.lookup_erase_ne hs
  have hcopies : ∀ k, mutation.memory.assetCopies k =
      if k ∈ resource.assets.map Asset.id then none else m.assetCopies k := by
    intro k
    rw [Memory.assetCopies, hassets, lookup_foldl_erase]
    split
    · rfl
    · rfl
  have hkept : ∀ k c, mutation.memory.assetCopies k = some c → m.assetCopies k = some c ∧ c.resourceID ≠ id := by
    intro k c hc
    rw [hcopies] at hc
    split at hc
    · cases hc
    · next hk =>
      refine ⟨hc, fun hparent => hk ?_⟩
      have hmem : c ∈ resource.assets := h.mem_of_child hc (hparent ▸ hlookup)
      exact (h.listed_of_child hc).1 ▸ List.mem_map_of_mem hmem
  refine ⟨h.change hothers ?_ ?_ (fun k c hc => .inl (hkept k c hc)) ?_, fun k c hc => (hkept k c hc).2⟩
  · intro p hp
    exact absurd (hgone.symm.trans hp) (by simp)
  · intro p hp
    exact absurd (hgone.symm.trans hp) (by simp)
  · intro k c hc hother
    rw [hcopies, if_neg, hc]
    intro hk
    obtain ⟨asset, hasset, hid⟩ := List.mem_map.mp hk
    obtain ⟨hparent, hcopy⟩ := h.child_of_listed hlookup hasset
    rw [hid, hc] at hcopy
    exact hother (Option.some.inj hcopy ▸ hparent)

omit [Library] [WebLibrary] in
/-- Where the asset is listed once, its copy is replaced. -/
lemma mem_syncAssetIntoResource {resource : ResourceDetail} {old asset c : Asset} (hnodup : (resource.assets.map Asset.id).Nodup)
    (hold : old ∈ resource.assets) (hid : asset.id = old.id) :
    c ∈ (syncAssetIntoResource resource asset).assets ↔ c = asset ∨ (c ∈ resource.assets ∧ c.id ≠ asset.id) := by
  have hreplace : ∀ assets : List Asset, (assets.map Asset.id).Nodup → old ∈ assets →
      (c ∈ syncAssetIntoResource.replaceFirst asset assets ↔ c = asset ∨ (c ∈ assets ∧ c.id ≠ asset.id)) := by
    intro assets hassets hmem
    induction assets with
    | nil => cases hmem
    | cons existing rest ih =>
      rw [List.map_cons, List.nodup_cons] at hassets
      rw [syncAssetIntoResource.replaceFirst]
      by_cases hfirst : existing.id = asset.id
      · have hrest : ∀ d ∈ rest, d.id ≠ asset.id := by
          intro d hd heq
          exact hassets.1 (hfirst.trans heq.symm ▸ List.mem_map_of_mem hd)
        rw [if_pos hfirst, List.mem_cons, List.mem_cons]
        constructor
        · rintro (rfl | hc)
          · exact .inl rfl
          · exact .inr ⟨.inr hc, hrest c hc⟩
        · rintro (rfl | ⟨rfl | hc, hne⟩)
          · exact .inl rfl
          · exact absurd hfirst hne
          · exact .inr hc
      · have hmem' : old ∈ rest := by
          obtain rfl | hmem := List.mem_cons.mp hmem
          · exact absurd hid.symm hfirst
          · exact hmem
        rw [if_neg hfirst, List.mem_cons, ih hassets.2 hmem', List.mem_cons]
        constructor
        · rintro (rfl | rfl | ⟨hc, hne⟩)
          · exact .inr ⟨.inl rfl, hfirst⟩
          · exact .inl rfl
          · exact .inr ⟨.inr hc, hne⟩
        · rintro (rfl | ⟨rfl | hc, hne⟩)
          · exact .inr (.inl rfl)
          · exact .inl rfl
          · exact .inr (.inr ⟨hc, hne⟩)
  have hany : resource.assets.any (fun existing => existing.id = asset.id) := by
    simpa using ⟨old, hold, hid.symm⟩
  rw [syncAssetIntoResource, if_pos hany]
  exact hreplace resource.assets hnodup hold

omit [Library] [WebLibrary] in
lemma map_id_syncAssetIntoResource {resource : ResourceDetail} {asset : Asset}
    (hlisted : asset.id ∈ resource.assets.map Asset.id) :
    (syncAssetIntoResource resource asset).assets.map Asset.id = resource.assets.map Asset.id := by
  have hreplace : ∀ assets : List Asset, (syncAssetIntoResource.replaceFirst asset assets).map Asset.id = assets.map Asset.id := by
    intro assets
    induction assets with
    | nil => rfl
    | cons existing rest ih =>
      rw [syncAssetIntoResource.replaceFirst]
      split
      · next hfirst => rw [List.map_cons, List.map_cons, hfirst]
      · rw [List.map_cons, List.map_cons, ih]
  have hany : resource.assets.any (fun existing => existing.id = asset.id) := by
    simpa using hlisted
  rw [syncAssetIntoResource, if_pos hany]
  exact hreplace resource.assets

lemma agree_updateAsset {req : UpdateAssetRequest} {mutation : Mutation Asset} (h : m.AssetsAgree)
    (hok : updateAsset env id req m = .ok mutation) : mutation.memory.AssetsAgree := by
  obtain ⟨record, updated, hlookup, hid, hparent, -, hassets, hresources⟩ := updateAsset_eq_ok hok
  have hcopies := assetCopies_insert hassets
  have hcopy : m.assetCopies id = some record.toAsset := by rw [Memory.assetCopies, hlookup]; rfl
  obtain ⟨hkey, resource, hresource, hmem⟩ := h.listed_of_child hcopy
  obtain ⟨hnone, -⟩ | ⟨resource', changed, hresource', hlisting, -, hresources⟩ := hresources
  · exact absurd (hnone.symm.trans hresource) (by simp)
  obtain rfl := Option.some.inj (hresource.symm.trans hresource')
  obtain ⟨hself, hothers⟩ := lookup_insert_of_eq hresources
  have hlisted : ∀ c, c ∈ changed.assets ↔ c = updated.toAsset ∨ (c ∈ resource.assets ∧ c.id ≠ updated.toAsset.id) := by
    intro c
    rw [hlisting]
    exact mem_syncAssetIntoResource (h.nodup hresource) hmem hid
  have hkey' : updated.toAsset.id = id := hid.trans hkey
  refine h.change hothers ?_ ?_ ?_ ?_
  · intro p hp
    obtain rfl := Option.some.inj (hself.symm.trans hp)
    rw [hlisting, map_id_syncAssetIntoResource (hid ▸ List.mem_map_of_mem hmem)]
    exact h.nodup hresource
  · intro p hp c hc
    obtain rfl := Option.some.inj (hself.symm.trans hp)
    obtain rfl | ⟨hc, hne⟩ := (hlisted c).mp hc
    · refine ⟨hparent, ?_⟩
      rw [hcopies, if_pos hkey']
    · rw [hcopies, if_neg (hkey' ▸ hne)]
      exact h.child_of_listed hresource hc
  · intro k c hc
    rw [hcopies] at hc
    split at hc
    · next hk =>
      cases hc
      exact .inr ⟨hkey'.trans hk.symm, hparent, _, hself, (hlisted _).mpr (.inl rfl)⟩
    · next hk =>
      by_cases hc' : c.resourceID = record.resourceID
      · have hlisted' : c ∈ resource.assets := h.mem_of_child hc (hc' ▸ hresource)
        have hid' : c.id = k := (h.listed_of_child hc).1
        exact .inr ⟨hid', hc', _, hself, (hlisted c).mpr (.inr ⟨hlisted', hid'.trans_ne (hkey' ▸ hk)⟩)⟩
      · exact .inl ⟨hc, hc'⟩
  · intro k c hc hother
    rw [hcopies, if_neg, hc]
    rintro rfl
    obtain rfl := Option.some.inj (hcopy.symm.trans hc)
    exact hother rfl

omit [Library] [WebLibrary] in
lemma agree_congr {m' : Memory} (hresources : m'.resources = m.resources) (hassets : m'.assets = m.assets) :
    m'.AssetsAgree ↔ m.AssetsAgree := by
  rw [Memory.AssetsAgree, Memory.AssetsAgree, hresources, assetCopies_congr hassets]

/-- A request for an asset that is refused meets no file type or no resource. -/
lemma listsAsset_of_error {req : CreateAssetRequest} {e : HoclieuError} (h : createAsset env req m = .error e) :
    ListsAsset req m := by
  intro validation resource hvalidation hlookup
  simp [createAsset, hvalidation, hlookup, bind, Except.bind, pure, Except.pure] at h

lemma listsUpload_of_error {req : UploadAssetRequest} {size : ℕ} {name mimeType : String} {e : HoclieuError}
    (h : uploadAsset env req size name mimeType m = .error e) {created : CreateAssetRequest}
    (hcreated : uploadRequest env req size name mimeType = .ok created) : ListsAsset created m := by
  refine listsAsset_of_error (?_ : createAsset env created m = .error e)
  rw [← h, uploadAsset, hcreated]
  rfl

omit [Library] [WebLibrary] in
lemma lookup_of_deleteResource_error {e : HoclieuError} (h : deleteResource id m = .error e) :
    m.resources.lookup id = none := by
  cases hlookup : m.resources.lookup id with
  | none => rfl
  | some resource => simp [deleteResource, hlookup, pure, Except.pure] at h

lemma listsResource_of_error {req : CreateResourceRequest} {e : HoclieuError} (h : createResource env req m = .error e) :
    ListsResource env req m := by
  intro validation hvalidation
  simp [createResource, hvalidation, bind, Except.bind, pure, Except.pure] at h

end Service

/-- From a state in agreement, it is kept by exactly the operations that meet the condition. -/
lemma Operation.agree_perform_iff {op : Operation} {m : Memory} (h : m.AssetsAgree) :
    (op.perform m).AssetsAgree ↔ op.KeepsListings m := by
  cases op with
  | createResource env req =>
    obtain ⟨e, herror, hsame⟩ | ⟨mutation, hok, hmemory⟩ := perform_cases (.createResource env req) m
    · rw [hsame]
      exact iff_of_true h (Service.listsResource_of_error herror)
    · rw [hmemory]
      exact Service.agree_createResource h hok
  | createAsset env req =>
    obtain ⟨e, herror, hsame⟩ | ⟨mutation, hok, hmemory⟩ := perform_cases (.createAsset env req) m
    · rw [hsame]
      exact iff_of_true h (Service.listsAsset_of_error herror)
    · rw [hmemory]
      exact Service.agree_createAsset h hok
  | uploadAsset env req size name mimeType =>
    obtain ⟨e, herror, hsame⟩ | ⟨mutation, hok, hmemory⟩ :=
      perform_cases (.uploadAsset env req size name mimeType) m
    · rw [hsame]
      exact iff_of_true h (fun _ hcreated => Service.listsUpload_of_error herror hcreated)
    · obtain ⟨created, hcreated, hasset⟩ := except_bind_eq_ok.mp hok
      rw [hmemory, Service.agree_createAsset h hasset]
      refine ⟨fun hlists other hother => ?_, fun hlists => hlists created hcreated⟩
      cases hcreated.symm.trans hother
      exact hlists
  | updateResource env id req =>
    refine iff_of_true ?_ trivial
    obtain ⟨e, -, hsame⟩ | ⟨mutation, hok, hmemory⟩ := perform_cases (.updateResource env id req) m
    · exact hsame.symm ▸ h
    · exact hmemory.symm ▸ Service.agree_updateResource h hok
  | deleteResource id =>
    refine iff_of_true ?_ trivial
    obtain ⟨e, -, hsame⟩ | ⟨mutation, hok, hmemory⟩ := perform_cases (.deleteResource id) m
    · exact hsame.symm ▸ h
    · exact hmemory.symm ▸ (Service.agree_deleteResource h hok).1
  | updateAsset env id req =>
    refine iff_of_true ?_ trivial
    obtain ⟨e, -, hsame⟩ | ⟨mutation, hok, hmemory⟩ := perform_cases (.updateAsset env id req) m
    · exact hsame.symm ▸ h
    · exact hmemory.symm ▸ Service.agree_updateAsset h hok
  | createTaxonomyOption env kind req =>
    refine iff_of_true ?_ trivial
    obtain ⟨e, -, hsame⟩ | ⟨mutation, hok, hmemory⟩ := perform_cases (.createTaxonomyOption env kind req) m
    · exact hsame.symm ▸ h
    · change Service.createTaxonomyOption env kind req m = .ok mutation at hok
      obtain ⟨target, -, hslice⟩ := Service.createTaxonomyOption_eq_ok hok
      obtain ⟨hresources, hassets, -⟩ := m.setTaxonomySlice_kept _ target
      rw [hmemory, hslice, Service.agree_congr hresources hassets]
      exact h
  | updateTaxonomyOption env kind id req =>
    refine iff_of_true ?_ trivial
    obtain ⟨e, -, hsame⟩ | ⟨mutation, hok, hmemory⟩ := perform_cases (.updateTaxonomyOption env kind id req) m
    · exact hsame.symm ▸ h
    · change Service.updateTaxonomyOption env kind id req m = .ok mutation at hok
      obtain ⟨target, option, changed, -, -, -, hslice⟩ := Service.updateTaxonomyOption_eq_ok hok
      obtain ⟨hresources, hassets, -⟩ := m.setTaxonomySlice_kept _ target
      rw [hmemory, hslice, Service.agree_congr hresources hassets]
      exact h
  | deleteTaxonomyOption kind id =>
    refine iff_of_true ?_ trivial
    obtain ⟨e, -, hsame⟩ | ⟨mutation, hok, hmemory⟩ := perform_cases (.deleteTaxonomyOption kind id) m
    · exact hsame.symm ▸ h
    · change Service.deleteTaxonomyOption kind id m = .ok mutation at hok
      obtain ⟨target, option, -, -, hslice⟩ := Service.deleteTaxonomyOption_eq_ok hok
      obtain ⟨hresources, hassets, -⟩ := m.setTaxonomySlice_kept _ target
      rw [hmemory, hslice, Service.agree_congr hresources hassets]
      exact h
  | trackProgressEvent env req =>
    refine iff_of_true ?_ trivial
    obtain ⟨e, -, hsame⟩ | ⟨mutation, hok, hmemory⟩ := perform_cases (.trackProgressEvent env req) m
    · exact hsame.symm ▸ h
    · change Service.trackProgressEvent env req m = .ok mutation at hok
      rw [hmemory, Service.trackProgressEvent_eq_ok hok]
      exact (Service.agree_congr rfl rfl).mpr h

/-- In agreement, a resource that was deleted or was not there leaves no asset of its own. -/
lemma no_asset_after_delete {m : Memory} {id : String} (h : m.AssetsAgree) {k : String} {c : Asset}
    (hc : ((Operation.deleteResource id).perform m).assetCopies k = some c) : c.resourceID ≠ id := by
  obtain ⟨e, herror, hsame⟩ | ⟨mutation, hok, hmemory⟩ := Operation.perform_cases (.deleteResource id) m
  · rw [hsame] at hc
    rintro rfl
    obtain ⟨-, p, hp, -⟩ := h.listed_of_child hc
    rw [Service.lookup_of_deleteResource_error herror] at hp
    cases hp
  · rw [hmemory] at hc
    exact (Service.agree_deleteResource h hok).2 k c hc

/-- At every point of the run the assets agree with the listings, and no asset of a resource just deleted can be launched. -/
structure AgreeThroughout (ops : List Operation) : Prop where
  agree : ∀ done, done <+: ops → (memoryAfter done).AssetsAgree
  deleted : ∀ done id, done ++ [.deleteResource id] <+: ops → ∀ env assetID userID response,
    Service.launch env assetID userID (memoryAfter (done ++ [.deleteResource id])) = .ok response → response.resourceID ≠ id

/-- The copies agree throughout a run exactly when each of its operations meets the condition where it is made. -/
theorem agreeThroughout_iff (ops : List Operation) :
    AgreeThroughout ops ↔ ∀ done op, done ++ [op] <+: ops → op.KeepsListings (memoryAfter done) := by
  constructor
  · intro h done op hbegin
    have hbefore : (memoryAfter done).AssetsAgree := h.agree done ((List.prefix_append done [op]).trans hbegin)
    have hafter := h.agree (done ++ [op]) hbegin
    rw [memoryAfter_concat] at hafter
    exact (Operation.agree_perform_iff hbefore).mp hafter
  · intro h
    have hagree : ∀ done, done <+: ops → (memoryAfter done).AssetsAgree := by
      intro done hdone
      refine memoryAfter_induction agrees_empty fun before op hbegin hbefore => ?_
      exact (Operation.agree_perform_iff hbefore).mpr (h before op (hbegin.trans hdone))
    refine ⟨hagree, fun done id hbegin env assetID userID response hlaunch => ?_⟩
    have hbefore := hagree done ((List.prefix_append done [_]).trans hbegin)
    obtain ⟨record, hlookup, hresource⟩ := Service.launch_eq_ok hlaunch
    rw [memoryAfter_concat] at hlookup
    rw [hresource]
    exact no_asset_after_delete hbefore (c := record.toAsset) (by rw [Memory.assetCopies, hlookup]; rfl)

end Agreement

section Sample

attribute [local instance] asciiLibrary plainWeb

namespace Sample

def lesson : CreateResourceRequest :=
  { title := "Unit 1", slug := "unit-1", programSlug := "english", subjectID := "english", categoryID := "lecture",
    selectedFileType := .pdf, status := "published" }

def lessonFile : CreateAssetRequest :=
  { resourceID := "res-unit-1", title := "Unit 1", selectedFileType := .pdf, originalFileName := "unit-1.pdf",
    fileSizeBytes := 2048, storageURL := "https://files/unit-1.pdf" }

/-- A resource without a link, then its file. -/
def lessonRun : List Operation := [.createResource ⟨1, 1, "", none⟩ lesson, .createAsset ⟨2, 2, "", none⟩ lessonFile]

end Sample

/-- The file takes the placeholder out of the listing, and the placeholder outlives the resource. -/
theorem placeholder_outlives_resource :
    ¬(memoryAfter Sample.lessonRun).AssetsAgree ∧
      ∃ response, Service.launch ⟨4, 4, "", none⟩ "asset-unit-1" "teacher"
          (memoryAfter (Sample.lessonRun ++ [.deleteResource "res-unit-1"])) = .ok response ∧
        response.resourceID = "res-unit-1" := by
  constructor
  · intro h
    have hplaceholder : ((memoryAfter Sample.lessonRun).assetCopies "asset-unit-1").map Asset.resourceID =
        some "res-unit-1" := by decide
    obtain ⟨c, hc, hparent⟩ := Option.map_eq_some_iff.mp hplaceholder
    obtain ⟨hid, p, hp, hmem⟩ := h.listed_of_child hc
    have hlisting : ((memoryAfter Sample.lessonRun).resources.lookup "res-unit-1").map (fun p => p.assets.map Asset.id) =
        some ["asset-res-unit-1-2"] := by decide
    rw [hparent] at hp
    rw [hp, Option.map_some, Option.some.injEq] at hlisting
    have hmem' : c.id ∈ p.assets.map Asset.id := List.mem_map_of_mem hmem
    rw [hlisting, hid] at hmem'
    exact absurd hmem' (by decide)
  · have hlaunch : (Service.launch ⟨4, 4, "", none⟩ "asset-unit-1" "teacher"
        (memoryAfter (Sample.lessonRun ++ [.deleteResource "res-unit-1"]))).toOption.map LaunchResponse.resourceID =
        some "res-unit-1" := by decide
    obtain ⟨response, hresponse, hresource⟩ := Option.map_eq_some_iff.mp hlaunch
    refine ⟨response, ?_, hresource⟩
    cases h : Service.launch ⟨4, 4, "", none⟩ "asset-unit-1" "teacher"
        (memoryAfter (Sample.lessonRun ++ [.deleteResource "res-unit-1"])) with
    | error e =>
      rw [h] at hresponse
      cases hresponse
    | ok r =>
      rw [h] at hresponse
      cases hresponse
      rfl

end Sample

end ErgGo.Hoclieu
