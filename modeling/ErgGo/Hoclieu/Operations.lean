import ErgGo.Hoclieu.MaterialService

/-!
# Runs of the learning material service

The mutating operations one after another: in memory alone, or with a repository whose writes
may fail. An operation stops at the first write that fails; the memory has been changed by then.
-/

namespace ErgGo.Hoclieu
open Go

inductive Operation where
  | createResource (env : ServiceEnv) (req : CreateResourceRequest)
  | updateResource (env : ServiceEnv) (id : String) (req : UpdateResourceRequest)
  | deleteResource (id : String)
  | createAsset (env : ServiceEnv) (req : CreateAssetRequest)
  | updateAsset (env : ServiceEnv) (id : String) (req : UpdateAssetRequest)
  | uploadAsset (env : ServiceEnv) (req : UploadAssetRequest) (size : ℕ) (originalFileName detectedMimeType : String)
  | createTaxonomyOption (env : ServiceEnv) (kind : String) (req : CreateTaxonomyOptionRequest)
  | updateTaxonomyOption (env : ServiceEnv) (kind id : String) (req : UpdateTaxonomyOptionRequest)
  | deleteTaxonomyOption (kind id : String)
  | trackProgressEvent (env : ServiceEnv) (req : TrackTeacherProgressEventRequest)

def Operation.Result : Operation → Type
  | createResource _ _ => ResourceDetail
  | updateResource _ _ _ => ResourceDetail
  | createAsset _ _ => Asset
  | updateAsset _ _ _ => Asset
  | uploadAsset _ _ _ _ _ => Asset
  | createTaxonomyOption _ _ _ => TaxonomyOption
  | updateTaxonomyOption _ _ _ _ => TaxonomyOption
  | trackProgressEvent _ _ => TeacherProgressEvent
  | deleteResource _ => Unit
  | deleteTaxonomyOption _ _ => Unit

section Runs

variable [Library] [WebLibrary]

def Operation.mutate : (op : Operation) → Memory → Except HoclieuError (Mutation op.Result)
  | createResource env req, m => Service.createResource env req m
  | updateResource env id req, m => Service.updateResource env id req m
  | deleteResource id, m => Service.deleteResource id m
  | createAsset env req, m => Service.createAsset env req m
  | updateAsset env id req, m => Service.updateAsset env id req m
  | uploadAsset env req size name mimeType, m => Service.uploadAsset env req size name mimeType m
  | createTaxonomyOption env kind req, m => Service.createTaxonomyOption env kind req m
  | updateTaxonomyOption env kind id req, m => Service.updateTaxonomyOption env kind id req m
  | deleteTaxonomyOption kind id, m => Service.deleteTaxonomyOption kind id m
  | trackProgressEvent env req, m => Service.trackProgressEvent env req m

/-- The memory after an operation without a repository. -/
def Operation.perform (op : Operation) (m : Memory) : Memory :=
  match op.mutate m with
  | .ok mutation => mutation.memory
  | .error _ => m

/-- The memory after these operations, without a repository. -/
def memoryFrom (m : Memory) (ops : List Operation) : Memory := ops.foldl (fun m op => op.perform m) m

/-- The memory after these operations on an empty service. -/
def memoryAfter (ops : List Operation) : Memory := memoryFrom {} ops

@[simp] lemma memoryAfter_concat (ops : List Operation) (op : Operation) :
    memoryAfter (ops ++ [op]) = op.perform (memoryAfter ops) := by
  simp [memoryAfter, memoryFrom]

/-- What holds at first and after each operation of the run holds after the run. -/
theorem memoryAfter_induction {I : Memory → Prop} {ops : List Operation} (hempty : I {})
    (hstep : ∀ done op, done ++ [op] <+: ops → I (memoryAfter done) → I (op.perform (memoryAfter done))) :
    I (memoryAfter ops) := by
  induction ops using List.reverseRecOn with
  | nil => exact hempty
  | append_singleton ops op ih =>
    have hbefore : I (memoryAfter ops) :=
      ih (fun done op' hbegin => hstep done op' (hbegin.trans (List.prefix_append ops [op])))
    rw [memoryAfter_concat]
    exact hstep ops op List.prefix_rfl hbefore

/-- An operation that is refused leaves the memory as it is; one that is accepted changes it as it says. -/
lemma Operation.perform_cases (op : Operation) (m : Memory) :
    (∃ e, op.mutate m = .error e ∧ op.perform m = m) ∨
      ∃ mutation, op.mutate m = .ok mutation ∧ op.perform m = mutation.memory := by
  unfold perform
  cases h : op.mutate m with
  | error e => exact .inl ⟨e, rfl, rfl⟩
  | ok mutation => exact .inr ⟨mutation, rfl, rfl⟩

end Runs

section Repository

variable {σ : Type} (write : RepositoryWrite → σ → Except HoclieuError Unit × σ)

/-- The writes in turn, up to the first that fails. -/
def performWrites : List RepositoryWrite → σ → Except HoclieuError Unit × σ
  | [], s => (.ok (), s)
  | w :: ws, s =>
    match write w s with
    | (.ok _, s') => performWrites ws s'
    | (.error e, s') => (.error e, s')

variable [Library] [WebLibrary]

/-- An operation with a repository, whose writes are its last steps. -/
def Operation.run (op : Operation) (m : Memory) (s : σ) : Except HoclieuError op.Result × Memory × σ :=
  match op.mutate m with
  | .error e => (.error e, m, s)
  | .ok mutation =>
    match performWrites write mutation.writes s with
    | (.ok _, s') => (.ok mutation.result, mutation.memory, s')
    | (.error e, s') => (.error e, mutation.memory, s')

end Repository

end ErgGo.Hoclieu
