import ErgGo.Lib.GoRuntime
import ErgGo.Lib.Kahn

/-!
# The order of the services

Services are started after the enabled services they depend on, in the order of Kahn's
algorithm, or not at all where the dependencies form a cycle.
-/

namespace ErgGo.Compose
open Go Relation

/-- A service of `deploy.yaml`, as far as the scheduler reads it. -/
structure ServiceSpec where
  name : String
  enabled : Bool := false
  dependencies : List String := []
  deriving DecidableEq

structure ServiceManifest where
  services : List ServiceSpec

def enabledServices (manifest : ServiceManifest) : List ServiceSpec := manifest.services.filter ServiceSpec.enabled

/-- `edges j i` where `i` depends on `j`. -/
structure DependencyGraph where
  nodes : List ServiceSpec
  indexMap : GoMap (Fin nodes.length)
  edges : Fin nodes.length → Fin nodes.length → Bool

structure CycleError where
  services : List ServiceSpec
  edges : Fin services.length → Fin services.length → Bool

section Graph

variable (enabled : List ServiceSpec)

def indexByName (indices : List (Fin enabled.length)) (indexMap : GoMap (Fin enabled.length)) :
    GoMap (Fin enabled.length) :=
  indices.foldl (fun indexMap i => indexMap.insert enabled[i].name i) indexMap

/-- The dependencies of one service; those that are not enabled are skipped. -/
def addDependencies (indexMap : GoMap (Fin enabled.length)) (edges : Fin enabled.length → Fin enabled.length → Bool)
    (i : Fin enabled.length) : Fin enabled.length → Fin enabled.length → Bool :=
  enabled[i].dependencies.foldl (fun edges dep =>
    match indexMap.lookup dep with
    | some j => Function.update edges j (Function.update (edges j) i true)
    | none => edges) edges

def newGraph (manifest : ServiceManifest) : DependencyGraph :=
  let enabled := enabledServices manifest
  let indexMap := indexByName enabled (List.finRange enabled.length) ∅
  ⟨enabled, indexMap, (List.finRange enabled.length).foldl (addDependencies enabled indexMap) (fun _ _ => false)⟩

end Graph

def topSort (g : DependencyGraph) : Except CycleError (List ServiceSpec) :=
  if g.nodes.length = 0 then .ok []
  else
    let order := Kahn.sort g.edges
    if order.length < g.nodes.length then .error ⟨g.nodes, g.edges⟩ else .ok (order.map (fun i => g.nodes[i]))

def resolve (manifest : ServiceManifest) : Except CycleError (List ServiceSpec) := topSort (newGraph manifest)

/-! ## The dependency relation -/

/-- Both are enabled, and the second names the first. -/
def DependsOn (manifest : ServiceManifest) (dep svc : ServiceSpec) : Prop :=
  dep ∈ enabledServices manifest ∧ svc ∈ enabledServices manifest ∧ dep.name ∈ svc.dependencies

def Cyclic (manifest : ServiceManifest) : Prop := ∃ svc, TransGen (DependsOn manifest) svc svc

section Edges

variable {enabled : List ServiceSpec}

lemma lookup_indexByName (hnames : (enabled.map ServiceSpec.name).Nodup) (indices : List (Fin enabled.length))
    (indexMap : GoMap (Fin enabled.length)) (name : String) (i : Fin enabled.length) :
    (indexByName enabled indices indexMap).lookup name = some i ↔
      (i ∈ indices ∧ enabled[i].name = name) ∨
        (∀ k ∈ indices, enabled[k].name ≠ name) ∧ indexMap.lookup name = some i := by
  have hinjective : ∀ i k : Fin enabled.length, enabled[i].name = enabled[k].name → i = k := by
    intro i k h
    have hi : i.val < (enabled.map ServiceSpec.name).length := by simp
    have hk : k.val < (enabled.map ServiceSpec.name).length := by simp
    have hsame : (enabled.map ServiceSpec.name)[i.val] = (enabled.map ServiceSpec.name)[k.val] := by simpa using h
    exact Fin.ext (hnames.getElem_inj_iff.mp hsame)
  induction indices generalizing indexMap with
  | nil => simp [indexByName]
  | cons k indices ih =>
    refine (ih (indexMap.insert enabled[k].name k)).trans ?_
    by_cases hk : enabled[k].name = name
    · subst hk
      rw [AList.lookup_insert, Option.some_inj]
      constructor
      · rintro (⟨hi, hname⟩ | ⟨-, rfl⟩)
        · exact .inl ⟨List.mem_cons_of_mem _ hi, hname⟩
        · exact .inl ⟨List.mem_cons_self, rfl⟩
      · rintro (⟨-, hname⟩ | ⟨hother, -⟩)
        · obtain rfl := hinjective i k hname
          by_cases hi : i ∈ indices
          · exact .inl ⟨hi, rfl⟩
          · exact .inr ⟨fun l hl hname => hi (hinjective l i hname ▸ hl), rfl⟩
        · exact absurd rfl (hother k List.mem_cons_self)
    · rw [AList.lookup_insert_ne (Ne.symm hk)]
      have hi : enabled[i].name = name → i ≠ k := by
        rintro hname rfl
        exact hk hname
      simp only [List.mem_cons, forall_eq_or_imp, ne_eq, hk, not_false_eq_true, true_and]
      refine or_congr_left (and_congr_left fun hname => ?_)
      simp [hi hname]

lemma addDependencies_eq (indexMap : GoMap (Fin enabled.length))
    (edges : Fin enabled.length → Fin enabled.length → Bool) (i j k : Fin enabled.length) :
    addDependencies enabled indexMap edges i j k ↔
      edges j k ∨ k = i ∧ ∃ dep ∈ enabled[i].dependencies, indexMap.lookup dep = some j := by
  have hfold : ∀ (deps : List String) (edges : Fin enabled.length → Fin enabled.length → Bool),
      deps.foldl (fun edges dep =>
        match indexMap.lookup dep with
        | some j => Function.update edges j (Function.update (edges j) i true)
        | none => edges) edges j k ↔ edges j k ∨ k = i ∧ ∃ dep ∈ deps, indexMap.lookup dep = some j := by
    intro deps
    induction deps with
    | nil => simp
    | cons dep deps ih =>
      intro edges
      rw [List.foldl_cons, ih, List.exists_mem_cons_iff]
      cases hdep : indexMap.lookup dep with
      | none => simp
      | some l =>
        by_cases hl : j = l
        · subst hl
          by_cases hk : k = i <;> simp [hk]
        · simp [hl, Ne.symm hl]
  exact hfold _ _

lemma edges_iff (hnames : (enabled.map ServiceSpec.name).Nodup) (j k : Fin enabled.length) :
    (List.finRange enabled.length).foldl
        (addDependencies enabled (indexByName enabled (List.finRange enabled.length) ∅)) (fun _ _ => false) j k ↔
      enabled[j].name ∈ enabled[k].dependencies := by
  have hfold : ∀ (indices : List (Fin enabled.length)) (edges : Fin enabled.length → Fin enabled.length → Bool),
      indices.foldl (addDependencies enabled (indexByName enabled (List.finRange enabled.length) ∅)) edges j k ↔
        edges j k ∨ k ∈ indices ∧ enabled[j].name ∈ enabled[k].dependencies := by
    intro indices
    induction indices with
    | nil => simp
    | cons i indices ih =>
      intro edges
      rw [List.foldl_cons, ih, addDependencies_eq, List.mem_cons, or_assoc]
      simp only [lookup_indexByName hnames, List.mem_finRange, true_and, AList.lookup_empty, reduceCtorEq, and_false,
        or_false]
      by_cases hk : k = i
      · subst hk
        simp only [true_and, true_or, exists_eq_right']
        tauto
      · simp [hk]
  rw [hfold]
  simp

end Edges

section Manifest

variable {manifest : ServiceManifest}

lemma nodup_enabledServices (hnames : (manifest.services.map ServiceSpec.name).Nodup) :
    ((enabledServices manifest).map ServiceSpec.name).Nodup :=
  hnames.sublist ((List.filter_sublist).map _)

lemma newGraph_edges (hnames : (manifest.services.map ServiceSpec.name).Nodup)
    (j k : Fin (newGraph manifest).nodes.length) :
    (newGraph manifest).edges j k ↔ DependsOn manifest (newGraph manifest).nodes[j] (newGraph manifest).nodes[k] := by
  have hmem : ∀ i : Fin (newGraph manifest).nodes.length, (newGraph manifest).nodes[i] ∈ enabledServices manifest :=
    fun i => List.getElem_mem i.isLt
  have hedges := edges_iff (nodup_enabledServices hnames) j k
  exact hedges.trans ⟨fun h => ⟨hmem j, hmem k, h⟩, fun h => h.2.2⟩

/-- A path of dependencies is a path of the graph. -/
lemma transGen_edges_iff (hnames : (manifest.services.map ServiceSpec.name).Nodup)
    (j k : Fin (newGraph manifest).nodes.length) :
    TransGen (fun j k => (newGraph manifest).edges j k) j k ↔
      TransGen (DependsOn manifest) (newGraph manifest).nodes[j] (newGraph manifest).nodes[k] := by
  have hnodup : (newGraph manifest).nodes.Nodup := (nodup_enabledServices hnames).of_map
  constructor
  · exact fun h => TransGen.lift (fun i => (newGraph manifest).nodes[i])
      (fun j k => (newGraph_edges hnames j k).mp) j k h
  · intro h
    have hpath : ∀ svc, TransGen (DependsOn manifest) (newGraph manifest).nodes[j] svc →
        ∃ k, (newGraph manifest).nodes[k] = svc ∧ TransGen (fun j k => (newGraph manifest).edges j k) j k := by
      intro svc hsvc
      induction hsvc with
      | single hdep =>
        obtain ⟨i, hi, rfl⟩ := List.mem_iff_getElem.mp hdep.2.1
        exact ⟨⟨i, hi⟩, rfl, .single ((newGraph_edges hnames j ⟨i, hi⟩).mpr hdep)⟩
      | tail _ hdep ih =>
        obtain ⟨l, rfl, hl⟩ := ih
        obtain ⟨i, hi, rfl⟩ := List.mem_iff_getElem.mp hdep.2.1
        exact ⟨⟨i, hi⟩, rfl, hl.tail ((newGraph_edges hnames l ⟨i, hi⟩).mpr hdep)⟩
    obtain ⟨l, hl, hjl⟩ := hpath _ h
    obtain rfl : l = k := Fin.ext ((List.Nodup.getElem_inj_iff hnodup).mp hl)
    exact hjl

lemma cyclic_iff (hnames : (manifest.services.map ServiceSpec.name).Nodup) :
    Cyclic manifest ↔ ∃ j, TransGen (fun j k => (newGraph manifest).edges j k) j j := by
  constructor
  · rintro ⟨svc, hsvc⟩
    obtain ⟨next, hdep, -⟩ := TransGen.head'_iff.mp hsvc
    obtain ⟨i, hi, rfl⟩ := List.mem_iff_getElem.mp hdep.1
    exact ⟨⟨i, hi⟩, (transGen_edges_iff hnames ⟨i, hi⟩ ⟨i, hi⟩).mpr hsvc⟩
  · rintro ⟨j, hj⟩
    exact ⟨_, (transGen_edges_iff hnames j j).mp hj⟩

lemma sort_perm {n : ℕ} {edges : Fin n → Fin n → Bool} (hall : ∀ j, j ∈ Kahn.sort edges) :
    (Kahn.sort edges).Perm (List.finRange n) :=
  (List.perm_ext_iff_of_nodup Kahn.nodup_sort (List.nodup_finRange n)).mpr fun j =>
    iff_of_true (hall j) (List.mem_finRange j)

/-- What `Resolve` returns: the services in the order of the sort, or the error if it falls short. -/
lemma resolve_cases (hnames : (manifest.services.map ServiceSpec.name).Nodup) :
    (Cyclic manifest ∧ ∃ e, resolve manifest = .error e) ∨
      ¬Cyclic manifest ∧ resolve manifest =
        .ok ((Kahn.sort (newGraph manifest).edges).map (fun i => (newGraph manifest).nodes[i])) := by
  rw [cyclic_iff hnames, ← Kahn.length_sort_lt_iff]
  unfold resolve topSort
  by_cases hempty : (newGraph manifest).nodes.length = 0
  · have hsort : Kahn.sort (newGraph manifest).edges = [] :=
      List.eq_nil_of_length_eq_zero (Nat.le_zero.mp (hempty ▸ Kahn.length_sort_le))
    rw [if_pos hempty, hsort]
    exact .inr ⟨by simp [hempty], rfl⟩
  · rw [if_neg hempty]
    by_cases hshort : (Kahn.sort (newGraph manifest).edges).length < (newGraph manifest).nodes.length
    · rw [if_pos hshort]
      exact .inl ⟨hshort, _, rfl⟩
    · rw [if_neg hshort]
      exact .inr ⟨hshort, rfl⟩

lemma order_perm (hnames : (manifest.services.map ServiceSpec.name).Nodup) (hacyclic : ¬Cyclic manifest) :
    ((Kahn.sort (newGraph manifest).edges).map (fun i => (newGraph manifest).nodes[i])).Perm
      (enabledServices manifest) := by
  have hall : ∀ j, j ∈ Kahn.sort (newGraph manifest).edges := by
    refine Kahn.mem_sort_of_acyclic fun j hj => hacyclic ?_
    exact (cyclic_iff hnames).mpr ⟨j, hj⟩
  have hmap : (List.finRange (newGraph manifest).nodes.length).map (fun i => (newGraph manifest).nodes[i]) =
      (newGraph manifest).nodes := List.map_getElem_finRange _
  have hperm := (sort_perm hall).map (fun i => (newGraph manifest).nodes[i])
  rw [hmap] at hperm
  exact hperm

/-- A listed service comes after the services it depends on. -/
lemma order_sorted (hnames : (manifest.services.map ServiceSpec.name).Nodup) {before after : List ServiceSpec}
    {svc dep : ServiceSpec}
    (horder : (Kahn.sort (newGraph manifest).edges).map (fun i => (newGraph manifest).nodes[i]) =
      before ++ svc :: after) (hdep : DependsOn manifest dep svc) : dep ∈ before := by
  obtain ⟨first, rest, hsort, rfl, hrest⟩ := List.map_eq_append_iff.mp horder
  obtain ⟨k, last, rfl, rfl, rfl⟩ := List.map_eq_cons_iff.mp hrest
  obtain ⟨i, hi, rfl⟩ := List.mem_iff_getElem.mp hdep.1
  have hedge := (newGraph_edges hnames ⟨i, hi⟩ k).mpr hdep
  exact List.mem_map_of_mem (Kahn.sorted_sort first k last hsort _ hedge)

/-- `Resolve` lists every enabled service once, after the enabled services it depends on, or it
reports a cycle where there is one. -/
theorem resolve_correct (manifest : ServiceManifest) (hnames : (manifest.services.map ServiceSpec.name).Nodup) :
    (¬Cyclic manifest → ∃ order, resolve manifest = .ok order ∧ order.Perm (enabledServices manifest) ∧
      ∀ before svc after, order = before ++ svc :: after → ∀ dep, DependsOn manifest dep svc → dep ∈ before) ∧
    ((∃ e, resolve manifest = .error e) ↔ Cyclic manifest) := by
  obtain ⟨hcyclic, herror⟩ | ⟨hacyclic, horder⟩ := resolve_cases hnames
  · exact ⟨fun h => absurd hcyclic h, iff_of_true herror hcyclic⟩
  · refine ⟨fun _ => ⟨_, horder, order_perm hnames hacyclic, fun before svc after h dep hdep => ?_⟩, ?_⟩
    · exact order_sorted hnames h hdep
    · refine iff_of_false ?_ hacyclic
      rintro ⟨e, he⟩
      rw [horder] at he
      cases he

end Manifest

section Sample

/-- The crawler feeds the trends and the bot, and the trends feed the bot. -/
def Sample.branches : ServiceManifest where
  services := [{ name := "bot", enabled := true, dependencies := ["crawler", "trending", "crawler"] },
    { name := "trending", enabled := true, dependencies := ["crawler"] }, { name := "crawler", enabled := true }]

example : (resolve Sample.branches).toOption.map (fun order => order.map ServiceSpec.name) =
    some ["crawler", "trending", "bot"] := by decide

theorem resolve_correct_branches :
    (∃ e, resolve Sample.branches = .error e) ↔ Cyclic Sample.branches :=
  (resolve_correct Sample.branches (by decide)).2

end Sample

end ErgGo.Compose
