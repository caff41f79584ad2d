import ErgGo.Hoclieu.DashboardTermination

/-!
# Which lessons the progress of a subject lists

The children of a node are taxonomy nodes or, where there are none, resources: what is attached
to a node that has nodes below it, or to a node that cannot be reached, is not listed.
-/

namespace ErgGo.Hoclieu
open Go Fuel Traversal Relation

/-! ## Leaves of different ids -/

lemma dedupeLeaves_go (seen : List String) (leaves : List DashboardLeaf) :
    ((dedupeLeaves.go seen leaves).map DashboardLeaf.id).Nodup ∧
      ∀ id, id ∈ (dedupeLeaves.go seen leaves).map DashboardLeaf.id ↔ id ∈ leaves.map DashboardLeaf.id ∧ id ∉ seen := by
  induction leaves generalizing seen with
  | nil => simp [dedupeLeaves.go]
  | cons leaf leaves ih =>
    unfold dedupeLeaves.go
    split
    · rename_i hseen
      refine ⟨(ih seen).1, fun id => ?_⟩
      rw [(ih seen).2, List.map_cons, List.mem_cons]
      constructor
      · exact fun h => ⟨.inr h.1, h.2⟩
      · rintro ⟨rfl | hlater, hnew⟩
        · exact absurd hseen hnew
        · exact ⟨hlater, hnew⟩
    · rename_i hseen
      obtain ⟨hnodup, hmem⟩ := ih (leaf.id :: seen)
      rw [List.map_cons]
      refine ⟨List.nodup_cons.mpr ⟨fun h => ((hmem _).mp h).2 List.mem_cons_self, hnodup⟩, fun id => ?_⟩
      rw [List.mem_cons, hmem, List.map_cons, List.mem_cons, List.mem_cons]
      by_cases hid : id = leaf.id
      · simp [hid, hseen]
      · simp [hid]

lemma dedupeLeaves_nodup (leaves : List DashboardLeaf) : ((dedupeLeaves leaves).map DashboardLeaf.id).Nodup :=
  (dedupeLeaves_go [] leaves).1

@[simp] lemma mem_dedupeLeaves (leaves : List DashboardLeaf) (id : String) :
    id ∈ (dedupeLeaves leaves).map DashboardLeaf.id ↔ id ∈ leaves.map DashboardLeaf.id := by
  simp [dedupeLeaves, (dedupeLeaves_go [] leaves).2]

lemma resourceLeaves_ids (resource : ResourceDetail) :
    (resourceLeaves resource).map DashboardLeaf.id = resource.lessonIDs := by
  unfold resourceLeaves ResourceDetail.lessonIDs
  split
  · rfl
  · rw [List.map_map]
    rfl

lemma resourceNodes_ids (s n : String) (resource : ResourceDetail) :
    (resourceNodes s n resource).map DashboardNode.id = resource.lessonIDs := by
  unfold resourceNodes ResourceDetail.lessonIDs
  split
  · rfl
  · rw [List.map_map]
    rfl

/-- Among ids that do not repeat, each of these occurs as often as there if and only if these do not
repeat either and occur. -/
lemma count_eq_iff {items lessons : List String} (hnodup : items.Nodup) :
    (∀ id ∈ lessons, items.count id = lessons.count id) ↔ lessons.Nodup ∧ ∀ id ∈ lessons, id ∈ items := by
  constructor
  · intro h
    refine ⟨List.nodup_iff_count_le_one.mpr (fun id => ?_), fun id hid => ?_⟩
    · by_cases hid : id ∈ lessons
      · rw [← h id hid]
        exact List.nodup_iff_count_le_one.mp hnodup id
      · rw [List.count_eq_zero_of_not_mem hid]
        exact Nat.zero_le 1
    · rw [← List.count_pos_iff, h id hid]
      exact List.count_pos_iff.mpr hid
  · rintro ⟨hlessons, hmem⟩ id hid
    rw [List.count_eq_one_of_mem hnodup (hmem id hid), List.count_eq_one_of_mem hlessons hid]

namespace Dashboard

section Lessons

variable [Library] {d : Dashboard} {s : String}

/-- The ids of the lesson items of a subject's resources and of its resources without items. -/
def lessons (d : Dashboard) (s : String) : List String := (d.resourcesForSubject s).flatMap ResourceDetail.lessonIDs

/-- Collecting at `n` gives a leaf with this id: that of a resource attached to `n`, which has no
nodes below it, or `n` itself, which has nothing below it. -/
def LeafAt (d : Dashboard) (s n id : String) : Prop :=
  n ≠ "" ∧
    (((d.memory.subjectTaxonomy s).childNodes n = [] ∧
      ∃ resource ∈ d.resourcesForSubject s, resourceMatchesParent resource n ∧ id ∈ resource.lessonIDs) ∨
    (id = n ∧ d.nodesBelow s n = [] ∧ ∃ fuel node, lookupNodeMeta fuel d s n = some (some node) ∧
      node.kind ∈ [.lesson, .resource, .sectionNode]))

/-- Some node entered from the root gives this leaf. -/
def LeafShown (d : Dashboard) (s id : String) : Prop := ∃ n, ReflTransGen (d.Entered s) n "" ∧ d.LeafAt s n id

/-- Each lesson item and each resource without items has an entry of its own in the progress of
the whole subject. -/
def LessonsAppearOnce (d : Dashboard) (subjectID schoolID academicYear : String) : Prop :=
  ∃ fuel response, progress fuel d subjectID "" schoolID academicYear = some (.ok response) ∧
    ∀ id ∈ d.lessons (trimSpace subjectID),
      (response.items.map ProgressDetailItem.id).count id = (d.lessons (trimSpace subjectID)).count id

/-- What it takes for every lesson to be listed. -/
structure LessonsShown (d : Dashboard) (s : String) : Prop where
  /-- Nothing entered from the root has a blank id. -/
  named : ¬TransGen (d.Entered s) "" ""
  /-- What is entered and has nothing below it is found by its id, or the search for it ends. -/
  found : (∀ n, ReflTransGen (d.Entered s) n "" → n ≠ "" → d.nodesBelow s n = [] →
      ∃ p, ReflTransGen (d.Listed s) p "" ∧ ∃ node ∈ d.nodesBelow s p, node.id = n) ∨
    ∀ n, ReflTransGen (d.Listed s) n "" → ¬TransGen (d.Listed s) n n
  distinct : (d.lessons s).Nodup
  /-- Without any leaf every resource is listed. -/
  shown : (∀ id ∈ d.lessons s, d.LeafShown s id) ∨ ∀ id, ¬d.LeafShown s id

/-! ## The leaves collected -/

/-- A resource is shown where no taxonomy node is. -/
lemma resource_below_iff {n id : String} : (∃ node ∈ d.nodesBelow s n, node.kind ∈ [.lesson, .resource] ∧ node.id = id) ↔
    (d.memory.subjectTaxonomy s).childNodes n = [] ∧
      ∃ resource ∈ d.resourcesForSubject s, resourceMatchesParent resource n ∧ id ∈ resource.lessonIDs := by
  have hmatches : ∀ resource, resourceMatchesParent resource (trimSpace n) = resourceMatchesParent resource n := by
    intro resource
    simp only [resourceMatchesParent, trimSpace_trimSpace]
  unfold nodesBelow
  split
  · rename_i hnodes
    constructor
    · rintro ⟨node, hnode, hkind, -⟩
      exact absurd hkind (SubjectTaxonomy.kind_of_mem_nodes (SubjectTaxonomy.mem_nodes_of_mem_childNodes hnode))
    · exact fun h => absurd h.1 hnodes
  · rename_i hnodes
    constructor
    · rintro ⟨node, hnode, -, rfl⟩
      obtain ⟨resource, hresource, hmatch, hnode⟩ := mem_resourceChildren.mp hnode
      rw [hmatches] at hmatch
      exact ⟨not_not.mp hnodes, resource, hresource, hmatch, (id_of_mem_resourceNodes hnode).1⟩
    · rintro ⟨-, resource, hresource, hmatch, hid⟩
      rw [← resourceNodes_ids s (trimSpace n)] at hid
      obtain ⟨node, hnode, rfl⟩ := List.mem_map.mp hid
      rw [← hmatches] at hmatch
      exact ⟨node, mem_resourceChildren.mpr ⟨resource, hresource, hmatch, hnode⟩, (id_of_mem_resourceNodes hnode).2, rfl⟩

/-- At a node with something below it the leaves are the resources there. -/
lemma leafAt_iff_of_below {n id : String} (hn : n ≠ "") (hbelow : d.nodesBelow s n ≠ []) :
    d.LeafAt s n id ↔ ∃ node ∈ d.nodesBelow s n, node.kind ∈ [.lesson, .resource] ∧ node.id = id := by
  rw [resource_below_iff]
  constructor
  · rintro ⟨-, hresource | ⟨-, hempty, -⟩⟩
    · exact hresource
    · exact absurd hempty hbelow
  · exact fun h => ⟨hn, .inl h⟩

/-- At a node with nothing below it the leaf is the node itself, when it is found. -/
lemma leafAt_iff_of_empty {n id : String} (hn : n ≠ "") (hempty : d.nodesBelow s n = []) :
    d.LeafAt s n id ↔ id = n ∧ ∃ fuel node, lookupNodeMeta fuel d s n = some (some node) ∧
      node.kind ∈ [.lesson, .resource, .sectionNode] := by
  constructor
  · rintro ⟨-, hresource | ⟨hid, -, hfound⟩⟩
    · obtain ⟨node, hnode, -⟩ := resource_below_iff.mpr hresource
      rw [hempty] at hnode
      cases hnode
    · exact ⟨hid, hfound⟩
  · exact fun h => ⟨hn, .inr ⟨h.1, hempty, h.2⟩⟩

omit [Library] in
lemma mem_flatten_of_mapM {f : DashboardNode → Option (List DashboardLeaf)} {nodes : List DashboardNode}
    {parts : List (List DashboardLeaf)} (h : nodes.mapM f = some parts) (id : String) :
    id ∈ parts.flatten.map DashboardLeaf.id ↔
      ∃ node ∈ nodes, ∃ part, f node = some part ∧ id ∈ part.map DashboardLeaf.id := by
  simp only [List.mem_map, List.mem_flatten]
  constructor
  · rintro ⟨leaf, ⟨part, hpart, hleaf⟩, rfl⟩
    obtain ⟨node, hnode, hf⟩ := (mem_of_mapM h part).mp hpart
    exact ⟨node, hnode, part, hf, leaf, hleaf, rfl⟩
  · rintro ⟨node, hnode, part, hf, leaf, hleaf, rfl⟩
    exact ⟨leaf, ⟨part, (mem_of_mapM h part).mpr ⟨node, hnode, hf⟩, hleaf⟩, rfl⟩

/-- Below the root the leaves collected are those of the nodes entered. -/
lemma mem_collectLeaves (hs : trimSpace s = s) (hsubject : s ≠ "") {fuel : ℕ} {n : String} {leaves : List DashboardLeaf}
    (hleaves : collectLeaves d fuel s n = some leaves) (hroot : ¬ReflTransGen (d.Entered s) "" (trimSpace n))
    (id : String) : id ∈ leaves.map DashboardLeaf.id ↔
      ∃ m, ReflTransGen (d.Entered s) m (trimSpace n) ∧ d.LeafAt s m id := by
  induction fuel generalizing n leaves with
  | zero => cases hleaves
  | succ fuel ih =>
    have hn : trimSpace n ≠ "" := fun h => hroot (h ▸ .refl)
    rw [collectLeaves_node hs hsubject hn] at hleaves
    obtain ⟨children, hchildren, hleaves⟩ := Option.bind_eq_some_iff.mp hleaves
    have hnodes := dashboardChildren_nodes hchildren
    by_cases hempty : children.1 = []
    · rw [if_pos hempty] at hleaves
      obtain ⟨found, hfound, hleaves⟩ := Option.bind_eq_some_iff.mp hleaves
      obtain rfl := Option.some.inj hleaves
      have hbelow : d.nodesBelow s (trimSpace n) = [] := hnodes ▸ hempty
      have hhere : ∀ m, ReflTransGen (d.Entered s) m (trimSpace n) ↔ m = trimSpace n := by
        intro m
        constructor
        · intro hm
          obtain hm | ⟨c, -, node, hnode, -⟩ := ReflTransGen.cases_tail hm
          · exact hm.symm
          · rw [hbelow] at hnode
            cases hnode
        · rintro rfl
          exact .refl
      simp only [hhere, exists_eq_left, leafAt_iff_of_empty hn hbelow, List.mem_map, List.mem_filter, Option.mem_toList]
      constructor
      · rintro ⟨_, ⟨node, ⟨hnode, hkind⟩, rfl⟩, rfl⟩
        obtain rfl := Option.mem_def.mp hnode
        exact ⟨(lookupNodeMeta_found hfound).1, fuel, node, hfound, by simpa using hkind⟩
      · rintro ⟨rfl, more, node, hnode, hkind⟩
        obtain rfl := (lookupNodeMeta_stable d s _).eq hfound hnode
        exact ⟨node.leaf, ⟨node, ⟨rfl, by simpa using hkind⟩, rfl⟩, (lookupNodeMeta_found hfound).1⟩
    · rw [if_neg hempty] at hleaves
      obtain ⟨parts, hparts, hleaves⟩ := Option.bind_eq_some_iff.mp hleaves
      obtain rfl := Option.some.inj hleaves
      rw [mem_dedupeLeaves, mem_flatten_of_mapM hparts]
      rw [hnodes] at hempty hparts ⊢
      constructor
      · rintro ⟨node, hnode, part, hpart, hid⟩
        split at hpart
        · rename_i hkind
          obtain rfl := Option.some.inj hpart
          refine ⟨trimSpace n, .refl, (leafAt_iff_of_below hn hempty).mpr ⟨node, hnode, by simpa using hkind, ?_⟩⟩
          simpa [DashboardNode.leaf, eq_comm] using hid
        · rename_i hkind
          have hstep : d.Entered s (trimSpace node.id) (trimSpace n) := ⟨node, hnode, .inr (by simpa using hkind), rfl⟩
          obtain ⟨m, hm, hleaf⟩ := (ih hpart (fun h => hroot (h.tail hstep))).mp hid
          exact ⟨m, hm.tail hstep, hleaf⟩
      · rintro ⟨m, hm, hleaf⟩
        obtain rfl | ⟨c, hmc, hstep⟩ := ReflTransGen.cases_tail hm
        · obtain ⟨node, hnode, hkind, rfl⟩ := (leafAt_iff_of_below hn hempty).mp hleaf
          refine ⟨node, hnode, [node.leaf], if_pos (by simpa using hkind), ?_⟩
          simp [DashboardNode.leaf]
        · have ⟨node, hnode, hentered, hc⟩ := hstep
          subst hc
          rw [trimSpace_trimSpace] at hentered
          have hkind : ¬(node.kind = .lesson || node.kind = .resource) := by simpa [hn] using hentered
          have hpart := isSome_of_mapM (Option.isSome_iff_exists.mpr ⟨_, hparts⟩) hnode
          obtain ⟨part, hpart⟩ := Option.isSome_iff_exists.mp hpart
          refine ⟨node, hnode, part, hpart, ?_⟩
          rw [if_neg hkind] at hpart
          exact (ih hpart (fun h => hroot (h.tail hstep))).mpr ⟨m, hmc, hleaf⟩

/-- The leaves collected for a subject: those shown or, where there are none, all. -/
lemma mem_collectLeaves_root (hs : trimSpace s = s) (hsubject : s ≠ "") {fuel : ℕ} {leaves : List DashboardLeaf}
    (hleaves : collectLeaves d fuel s "" = some leaves) (hnamed : ¬TransGen (d.Entered s) "" "") :
    (leaves.map DashboardLeaf.id).Nodup ∧
      ((∃ id, d.LeafShown s id) → ∀ id, id ∈ leaves.map DashboardLeaf.id ↔ d.LeafShown s id) ∧
      ((∀ id, ¬d.LeafShown s id) → ∀ id, id ∈ leaves.map DashboardLeaf.id ↔ id ∈ d.lessons s) := by
  have hblank : trimSpace "" = "" := by decide
  cases fuel with
  | zero => cases hleaves
  | succ fuel =>
    rw [collectLeaves_root hs hsubject hblank] at hleaves
    obtain ⟨children, hchildren, hleaves⟩ := Option.bind_eq_some_iff.mp hleaves
    obtain ⟨parts, hparts, hleaves⟩ := Option.bind_eq_some_iff.mp hleaves
    rw [dashboardChildren_nodes hchildren] at hparts
    have hcollected : ∀ id, id ∈ parts.flatten.map DashboardLeaf.id ↔ d.LeafShown s id := by
      intro id
      rw [mem_flatten_of_mapM hparts]
      constructor
      · rintro ⟨node, hnode, part, hpart, hid⟩
        have hstep : d.Entered s (trimSpace node.id) "" := ⟨node, hnode, .inl hblank, rfl⟩
        obtain ⟨m, hm, hleaf⟩ := (mem_collectLeaves hs hsubject hpart (fun h => hnamed (.tail' h hstep)) id).mp hid
        exact ⟨m, hm.tail hstep, hleaf⟩
      · rintro ⟨m, hm, hleaf⟩
        obtain rfl | ⟨c, hmc, hstep⟩ := ReflTransGen.cases_tail hm
        · exact absurd rfl hleaf.1
        · have ⟨node, hnode, _, hc⟩ := hstep
          subst hc
          have hpart := isSome_of_mapM (Option.isSome_iff_exists.mpr ⟨_, hparts⟩) hnode
          obtain ⟨part, hpart⟩ := Option.isSome_iff_exists.mp hpart
          exact ⟨node, hnode, part, hpart,
            (mem_collectLeaves hs hsubject hpart (fun h => hnamed (.tail' h hstep)) id).mpr ⟨m, hmc, hleaf⟩⟩
    have hall : ∀ id, id ∈ ((d.resourcesForSubject s).flatMap resourceLeaves).map DashboardLeaf.id ↔ id ∈ d.lessons s := by
      intro id
      rw [List.map_flatMap, lessons]
      simp only [resourceLeaves_ids]
    split at hleaves
    · rename_i hnone
      obtain rfl := Option.some.inj hleaves
      refine ⟨dedupeLeaves_nodup _, ?_, fun _ id => (mem_dedupeLeaves _ id).trans (hall id)⟩
      rintro ⟨id, hid⟩
      rw [← hcollected, hnone] at hid
      cases hid
    · rename_i hsome
      obtain rfl := Option.some.inj hleaves
      refine ⟨dedupeLeaves_nodup _, fun _ id => (mem_dedupeLeaves _ id).trans (hcollected id), fun hnone => ?_⟩
      obtain ⟨leaf, hleaf⟩ := List.exists_mem_of_ne_nil _ hsome
      exact absurd ((hcollected _).mp (List.mem_map_of_mem hleaf)) (hnone leaf.id)

/-! ## When the call returns -/

/-- Away from the root only taxonomy nodes are entered. -/
lemma Entered.below {c n : String} (h : d.Entered s c n) (hn : trimSpace n ≠ "") :
    (d.memory.subjectTaxonomy s).Below c n := by
  obtain ⟨node, hnode, hentered, rfl⟩ := h
  have hkind := hentered.resolve_left hn
  unfold nodesBelow at hnode
  split at hnode
  · exact ⟨node, hnode, rfl⟩
  · obtain ⟨resource, -, -, hnode⟩ := mem_resourceChildren.mp hnode
    exact absurd (id_of_mem_resourceNodes hnode).2 hkind

/-- A way down goes by taxonomy nodes alone or over the root. -/
lemma below_or_root {c n : String} (h : TransGen (d.Entered s) c n) (htrim : trimSpace n = n) :
    TransGen (d.memory.subjectTaxonomy s).Below c n ∨
      (TransGen (d.Entered s) c "" ∧ ReflTransGen (d.Entered s) "" n) := by
  induction h with
  | @single n hstep =>
    by_cases hn : n = ""
    · exact .inr ⟨hn ▸ .single hstep, hn ▸ .refl⟩
    · exact .inl (.single (hstep.below (htrim.symm ▸ hn)))
  | @tail m n hdown hstep ih =>
    by_cases hn : n = ""
    · exact .inr ⟨hn ▸ hdown.tail hstep, hn ▸ .refl⟩
    · obtain hbelow | ⟨hc, hm⟩ := ih hstep.listed.trim
      · exact .inl (hbelow.tail (hstep.below (htrim.symm ▸ hn)))
      · exact .inr ⟨hc, hm.tail hstep⟩

lemma acc_entered (hacyclic : ∀ n, ¬TransGen (d.memory.subjectTaxonomy s).Below n n)
    (hnamed : ¬TransGen (d.Entered s) "" "") : Acc (d.Entered s) "" := by
  have hfinite : {c | ∃ n, d.Entered s c n}.Finite :=
    (d.listed_finite s).subset (fun c hc => hc.imp (fun n hn => hn.listed))
  refine acc_of_acyclic hfinite "" (fun c _ hcycle => ?_)
  obtain ⟨_, hfirst, -⟩ := TransGen.head'_iff.mp hcycle
  obtain hbelow | ⟨hc, hroot⟩ := below_or_root hcycle hfirst.listed.trim
  · exact hacyclic c hbelow
  · exact hnamed (TransGen.trans_right hroot hc)

/-- Collecting for the whole subject returns exactly where nothing entered has a blank id and every
search ends. -/
lemma collectLeaves_subject_returns (hs : trimSpace s = s) (hsubject : s ≠ "")
    (hacyclic : ∀ n, ¬TransGen (d.memory.subjectTaxonomy s).Below n n) :
    (∃ fuel, (collectLeaves d fuel s "").isSome) ↔ ¬TransGen (d.Entered s) "" "" ∧
      ((∀ n, ReflTransGen (d.Entered s) n "" → n ≠ "" → d.nodesBelow s n = [] →
          ∃ p, ReflTransGen (d.Listed s) p "" ∧ ∃ node ∈ d.nodesBelow s p, node.id = n) ∨
        ∀ n, ReflTransGen (d.Listed s) n "" → ¬TransGen (d.Listed s) n n) := by
  have hblank : trimSpace "" = "" := by decide
  constructor
  · rintro ⟨fuel, hfuel⟩
    refine ⟨fun hcycle => ?_, ?_⟩
    · rw [not_collected_of_cycle hs hsubject hcycle fuel] at hfuel
      cases hfuel
    · by_cases hacc : Acc (d.Listed s) ""
      · exact .inr ((acc_iff_acyclic (d.listed_finite s) "").mp hacc)
      · refine .inl (fun n hn hroot hempty => ?_)
        obtain ⟨more, hsearch⟩ := lookupNodeMeta_of_collectLeaves hs hsubject hfuel (hblank.symm ▸ hn) hroot hempty
        obtain ⟨found, hfound⟩ := Option.isSome_iff_exists.mp hsearch
        cases found with
        | none => exact absurd (acc_of_lookupNodeMeta hfound) hacc
        | some x =>
          obtain ⟨hid, p, hp, hx⟩ := lookupNodeMeta_found hfound
          exact ⟨p, hp, x, hx, hid⟩
  · rintro ⟨hnamed, hfound⟩
    refine collectLeaves_returns hs hsubject hacyclic (fun n hn hroot hempty => ?_) (hblank.symm ▸ acc_entered hacyclic hnamed)
    rw [hblank] at hn
    obtain hfound | hlisted := hfound
    · obtain ⟨p, hp, node, hnode, rfl⟩ := hfound n hn hroot hempty
      exact lookupNodeMeta_returns_of_shown hacyclic hp hnode
    · exact lookupNodeMeta_returns_of_acc hacyclic ((acc_iff_acyclic (d.listed_finite s) "").mpr hlisted) n

/-- A taxonomy is acyclic when the leaves of all its nodes can be collected. -/
lemma acyclic_of_collectLeaves (hs : trimSpace s = s) (hsubject : s ≠ "") {fuel : ℕ}
    (h : ∀ node ∈ (d.memory.subjectTaxonomy s).nodes, (collectLeaves d fuel s node.id).isSome) (n : String) :
    ¬TransGen (d.memory.subjectTaxonomy s).Below n n := by
  intro hcycle
  have hmono : TransGen (d.memory.subjectTaxonomy s).Below ≤ TransGen (d.Entered s) :=
    TransGen.mono (fun _ _ => entered_of_below)
  obtain ⟨_, ⟨node, hnode, rfl⟩, -⟩ := TransGen.head'_iff.mp hcycle
  have hacc := acc_of_collectLeaves hs hsubject (h node (SubjectTaxonomy.mem_nodes_of_mem_childNodes hnode))
  exact not_below_self_of_acc hacc.transGen (hmono _ _ hcycle)

/-! ## Every lesson once -/

lemma progress_eq_some (hsubject : trimSpace s ≠ "") {fuel : ℕ} {n schoolID academicYear : String}
    {response : ProgressResponse} (h : progress fuel d s n schoolID academicYear = some (.ok response)) :
    ∃ leaves, collectLeaves d fuel (trimSpace s) n = some leaves ∧
      (response.items.map ProgressDetailItem.id).Perm (leaves.map DashboardLeaf.id) := by
  simp only [progress, if_neg hsubject] at h
  obtain ⟨leaves, hleaves, h⟩ := Option.bind_eq_some_iff.mp h
  obtain rfl := Except.ok.inj (Option.some.inj h)
  refine ⟨leaves, hleaves, ?_⟩
  have hitems := (sortSliceStable_perm (fun a b : ProgressDetailItem => a.label < b.label)
    (leaves.map (progressItem (d.statusByLeaf (trimSpace s) schoolID academicYear)))).map ProgressDetailItem.id
  rw [List.map_map] at hitems
  exact hitems

lemma progress_of_collectLeaves (hsubject : trimSpace s ≠ "") {fuel : ℕ} {n : String} (schoolID academicYear : String)
    (h : (collectLeaves d fuel (trimSpace s) n).isSome) :
    ∃ response, progress fuel d s n schoolID academicYear = some (.ok response) := by
  obtain ⟨leaves, hleaves⟩ := Option.isSome_iff_exists.mp h
  simp only [progress, if_neg hsubject, hleaves]
  exact ⟨_, rfl⟩

/-- For an acyclic taxonomy no lesson is lost exactly when every lesson has an id of its own and is
attached to a node without nodes below it that is reached from the root, or nothing is shown. -/
theorem lessons_appear_once_iff (d : Dashboard) (subjectID schoolID academicYear : String)
    (hsubject : trimSpace subjectID ≠ "")
    (hacyclic : ∀ n, ¬TransGen (d.memory.subjectTaxonomy (trimSpace subjectID)).Below n n) :
    d.LessonsAppearOnce subjectID schoolID academicYear ↔ d.LessonsShown (trimSpace subjectID) := by
  have hs := trimSpace_trimSpace subjectID
  have hreturns := collectLeaves_subject_returns hs hsubject hacyclic
  have hlisted : ∀ {fuel leaves}, collectLeaves d fuel (trimSpace subjectID) "" = some leaves →
      ¬TransGen (d.Entered (trimSpace subjectID)) "" "" →
      ((∀ id ∈ d.lessons (trimSpace subjectID), id ∈ leaves.map DashboardLeaf.id) ↔
        (∀ id ∈ d.lessons (trimSpace subjectID), d.LeafShown (trimSpace subjectID) id) ∨
          ∀ id, ¬d.LeafShown (trimSpace subjectID) id) := by
    intro fuel leaves hleaves hnamed
    obtain ⟨-, hsome, hnone⟩ := mem_collectLeaves_root hs hsubject hleaves hnamed
    by_cases hany : ∃ id, d.LeafShown (trimSpace subjectID) id
    · have hany' : ¬∀ id, ¬d.LeafShown (trimSpace subjectID) id := not_forall_not.mpr hany
      simp only [hsome hany, hany', or_false]
    · have hnone' := hnone (not_exists.mp hany)
      exact ⟨fun _ => .inr (not_exists.mp hany), fun _ id hid => (hnone' id).mpr hid⟩
  constructor
  · rintro ⟨fuel, response, hprogress, hcounts⟩
    obtain ⟨leaves, hleaves, hperm⟩ := progress_eq_some hsubject hprogress
    obtain ⟨hnamed, hfound⟩ := hreturns.mp ⟨fuel, Option.isSome_iff_exists.mpr ⟨leaves, hleaves⟩⟩
    have hnodup := (mem_collectLeaves_root hs hsubject hleaves hnamed).1
    obtain ⟨hdistinct, hmem⟩ := (count_eq_iff (hperm.nodup_iff.mpr hnodup)).mp hcounts
    exact ⟨hnamed, hfound, hdistinct, (hlisted hleaves hnamed).mp (fun id hid => hperm.mem_iff.mp (hmem id hid))⟩
  · intro h
    obtain ⟨fuel, hfuel⟩ := hreturns.mpr ⟨h.named, h.found⟩
    obtain ⟨response, hprogress⟩ := progress_of_collectLeaves hsubject schoolID academicYear hfuel
    obtain ⟨leaves, hleaves, hperm⟩ := progress_eq_some hsubject hprogress
    have hnodup := (mem_collectLeaves_root hs hsubject hleaves h.named).1
    have hmem := (hlisted hleaves h.named).mpr h.shown
    exact ⟨fuel, response, hprogress, (count_eq_iff (hperm.nodup_iff.mpr hnodup)).mpr
      ⟨h.distinct, fun id hid => hperm.mem_iff.mpr (hmem id hid)⟩⟩

end Lessons

section Sample

attribute [local instance] asciiLibrary plainWeb

def chapterResource (title topicID : String) : CreateResourceRequest :=
  { title := title, programSlug := "toan", subjectID := "toan", categoryID := "chuong-1", topicID := topicID,
    selectedFileType := .pdf }

/-- A chapter with a topic, and a resource at each of them. -/
def chapterOperations : List Operation :=
  [.createTaxonomyOption { now := 0 } "categories" { id := "chuong-1", label := "Chương 1", subjectID := "toan" },
   .createTaxonomyOption { now := 0 } "topics"
     { id := "chu-de-1", label := "Chủ đề 1", subjectID := "toan", parentID := "chuong-1" },
   .createResource { now := 1 } (chapterResource "De cuong" ""),
   .createResource { now := 2 } (chapterResource "Bai 1" "chu-de-1")]

def chapterDashboard : Dashboard := { memory := memoryAfter chapterOperations }

/-- Every link of the subject is blank or the id of one of its nodes. -/
def LinksResolve (d : Dashboard) (s : String) : Prop :=
  let t := d.memory.subjectTaxonomy s
  let resolves (link : String) : Prop := link = "" ∨ link ∈ t.nodes.map DashboardNode.id
  (∀ item ∈ t.categories ++ t.sections ++ t.bookSeries ++ t.topics, resolves (trimSpace item.parentID) ∧
      resolves (trimSpace item.categoryID) ∧ resolves (trimSpace item.topicID) ∧ resolves (trimSpace item.bookSeriesID)) ∧
    ∀ resource ∈ d.resourcesForSubject s, ∀ link ∈ linksOf resource, resolves link

lemma chapterDashboard_acyclic (n : String) : ¬TransGen (chapterDashboard.memory.subjectTaxonomy "toan").Below n n := by
  have hcollected : ∀ node ∈ (chapterDashboard.memory.subjectTaxonomy "toan").nodes,
      (collectLeaves chapterDashboard 6 "toan" node.id).isSome := by decide
  exact acyclic_of_collectLeaves (by decide) (by decide) hcollected n

/-- The resource of the chapter is not listed: the chapter has a topic. -/
theorem chapter_resource_is_lost :
    (∀ n, ¬TransGen (chapterDashboard.memory.subjectTaxonomy "toan").Below n n) ∧
      LinksResolve chapterDashboard "toan" ∧ ¬chapterDashboard.LessonsAppearOnce "toan" "" "" := by
  have hsubject : trimSpace "toan" = "toan" := by decide
  refine ⟨chapterDashboard_acyclic, ?_, ?_⟩
  · unfold LinksResolve
    decide
  · rintro ⟨fuel, response, hprogress, hcounts⟩
    obtain ⟨leaves, hleaves, hperm⟩ := progress_eq_some (by decide) hprogress
    rw [hsubject] at hleaves hcounts
    have hcollected : (collectLeaves chapterDashboard 6 "toan" "").map (fun leaves => leaves.map DashboardLeaf.id) =
        some ["res-bai-1"] := by decide
    obtain ⟨_, hsome, hids⟩ := Option.map_eq_some_iff.mp hcollected
    obtain rfl := (collectLeaves_stable chapterDashboard hsubject (by decide) "").eq hleaves hsome
    have hlost := hcounts "res-de-cuong" (by decide)
    rw [hperm.count_eq, hids] at hlost
    revert hlost
    decide

theorem chapter_lessons_appear_once_iff :
    chapterDashboard.LessonsAppearOnce "toan" "" "" ↔ chapterDashboard.LessonsShown (trimSpace "toan") := by
  have hsubject : trimSpace "toan" = "toan" := by decide
  refine lessons_appear_once_iff chapterDashboard "toan" "" "" (by decide) ?_
  rw [hsubject]
  exact chapterDashboard_acyclic

end Sample

end Dashboard

end ErgGo.Hoclieu
