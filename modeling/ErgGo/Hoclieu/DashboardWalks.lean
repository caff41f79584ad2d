import ErgGo.Hoclieu.Dashboard

/-!
# What is below what on the dashboard

The nodes below a node do not depend on the fuel. Where no taxonomy node is below itself, the
breadcrumbs of every node end: a node is below the parent it names.
-/

namespace ErgGo.Hoclieu
open Go Fuel Traversal Relation

lemma mem_sortDashboardNodes [Library] {nodes : List DashboardNode} {node : DashboardNode} :
    node ∈ sortDashboardNodes nodes ↔ node ∈ nodes :=
  (sortSliceStable_perm _ nodes).mem_iff

namespace SubjectTaxonomy

variable {t : SubjectTaxonomy}

/-! ## The look-up table -/

lemma lookup_eq (t : SubjectTaxonomy) : t.lookup =
    ((GoMap.setAll ∅ ((t.categories.map (t.node .category) ++ t.sections.map (t.node .sectionNode) ++
      t.bookSeries.map (t.node .bookSeries) ++ t.topics.map (t.node .topic)).map (fun node => (node.id, node)))).insert
        t.orphanTopicsFolder.id t.orphanTopicsFolder).insert t.orphanSectionsFolder.id t.orphanSectionsFolder := by
  rw [lookup, nodes, List.map_append, GoMap.setAll, List.foldl_append]
  rfl

lemma mem_nodes_of_lookup {k : String} {node : DashboardNode} (h : t.lookup.lookup k = some node) :
    node ∈ t.nodes ∧ node.id = k := by
  obtain hmem | hempty := GoMap.mem_of_lookup_setAll h
  · obtain ⟨node', hnode', heq⟩ := List.mem_map.mp hmem
    obtain ⟨rfl, rfl⟩ := Prod.mk.inj heq
    exact ⟨hnode', rfl⟩
  · rw [AList.lookup_empty] at hempty
    cases hempty

lemma lookup_orphanSectionsFolder (t : SubjectTaxonomy) :
    t.lookup.lookup t.orphanSectionsFolder.id = some t.orphanSectionsFolder := by
  rw [lookup_eq, AList.lookup_insert]

lemma orphanFolder_ids (t : SubjectTaxonomy) : t.orphanTopicsFolder.id ≠ t.orphanSectionsFolder.id := by
  intro h
  have hlength := congrArg String.length h
  have htopics : "folder:topics:".length = 14 := by decide
  have hsections : "folder:sections:".length = 16 := by decide
  rw [orphanTopicsFolder, orphanSectionsFolder, String.length_append, String.length_append, htopics,
    hsections] at hlength
  omega

lemma lookup_orphanTopicsFolder (t : SubjectTaxonomy) :
    t.lookup.lookup t.orphanTopicsFolder.id = some t.orphanTopicsFolder := by
  rw [lookup_eq, AList.lookup_insert_ne t.orphanFolder_ids, AList.lookup_insert]

/-- A node is one of the two folders or of an option. -/
lemma mem_nodes_iff {node : DashboardNode} : node ∈ t.nodes ↔
    (∃ item ∈ t.categories, t.node .category item = node) ∨ (∃ item ∈ t.sections, t.node .sectionNode item = node) ∨
      (∃ item ∈ t.bookSeries, t.node .bookSeries item = node) ∨ (∃ item ∈ t.topics, t.node .topic item = node) ∨
        node = t.orphanTopicsFolder ∨ node = t.orphanSectionsFolder := by
  simp only [nodes, List.mem_append, List.mem_map, List.mem_cons, List.not_mem_nil, or_false, or_assoc]

lemma kind_of_mem_nodes {node : DashboardNode} (h : node ∈ t.nodes) : node.kind ∉ [.lesson, .resource] := by
  obtain ⟨_, _, rfl⟩ | ⟨_, _, rfl⟩ | ⟨_, _, rfl⟩ | ⟨_, _, rfl⟩ | rfl | rfl := mem_nodes_iff.mp h <;>
    simp [SubjectTaxonomy.node, orphanTopicsFolder, orphanSectionsFolder]

/-- Folders are at the root; every other node names its parent by a trimmed id. -/
lemma parentID_of_mem_nodes {node : DashboardNode} (h : node ∈ t.nodes) :
    trimSpace node.parentID = node.parentID ∧ (node.kind = .folder → node.parentID = "") := by
  have hitem : ∀ kind item, kind ≠ .folder → trimSpace (t.node kind item).parentID = (t.node kind item).parentID ∧
      ((t.node kind item).kind = .folder → (t.node kind item).parentID = "") :=
    fun kind item hkind => ⟨trimSpace_trimSpace item.parentID, fun hfolder => absurd hfolder hkind⟩
  have hroot : trimSpace "" = "" := by decide
  obtain ⟨item, -, rfl⟩ | ⟨item, -, rfl⟩ | ⟨item, -, rfl⟩ | ⟨item, -, rfl⟩ | rfl | rfl := mem_nodes_iff.mp h
  · exact hitem .category item (by decide)
  · exact hitem .sectionNode item (by decide)
  · exact hitem .bookSeries item (by decide)
  · exact hitem .topic item (by decide)
  · exact ⟨hroot, fun _ => rfl⟩
  · exact ⟨hroot, fun _ => rfl⟩

lemma category_mem_nodes {item : TaxonomyOption} (h : item ∈ t.categories) : t.node .category item ∈ t.nodes :=
  mem_nodes_iff.mpr (.inl ⟨item, h, rfl⟩)

lemma section_mem_nodes {item : TaxonomyOption} (h : item ∈ t.sections) : t.node .sectionNode item ∈ t.nodes :=
  mem_nodes_iff.mpr (.inr (.inl ⟨item, h, rfl⟩))

lemma bookSeries_mem_nodes {item : TaxonomyOption} (h : item ∈ t.bookSeries) : t.node .bookSeries item ∈ t.nodes :=
  mem_nodes_iff.mpr (.inr (.inr (.inl ⟨item, h, rfl⟩)))

lemma topic_mem_nodes {item : TaxonomyOption} (h : item ∈ t.topics) : t.node .topic item ∈ t.nodes :=
  mem_nodes_iff.mpr (.inr (.inr (.inr (.inl ⟨item, h, rfl⟩))))

lemma orphanTopicsFolder_mem_nodes (t : SubjectTaxonomy) : t.orphanTopicsFolder ∈ t.nodes :=
  mem_nodes_iff.mpr (.inr (.inr (.inr (.inr (.inl rfl)))))

lemma orphanSectionsFolder_mem_nodes (t : SubjectTaxonomy) : t.orphanSectionsFolder ∈ t.nodes :=
  mem_nodes_iff.mpr (.inr (.inr (.inr (.inr (.inr rfl)))))

variable [Library]

/-! ## The nodes below a node -/

@[simp] lemma childNodes_trimSpace (t : SubjectTaxonomy) (n : String) : t.childNodes (trimSpace n) = t.childNodes n := by
  unfold childNodes
  rw [trimSpace_trimSpace]

lemma mem_nodes_of_mem_rootNodes {node : DashboardNode} (h : node ∈ t.rootNodes) : node ∈ t.nodes := by
  simp only [rootNodes, mem_sortDashboardNodes, List.mem_append, List.mem_map, List.mem_filter,
    List.mem_ite_nil_right, List.mem_singleton] at h
  obtain ((⟨item, hitem, rfl⟩ | ⟨item, hitem, rfl⟩) | ⟨-, rfl⟩) | ⟨-, rfl⟩ := h
  · exact category_mem_nodes hitem.1
  · exact bookSeries_mem_nodes hitem.1
  · exact t.orphanTopicsFolder_mem_nodes
  · exact t.orphanSectionsFolder_mem_nodes

lemma mem_nodes_of_mem_linkedNodes {kind : DashboardNodeKind} {n : String} {node : DashboardNode}
    (h : node ∈ t.linkedNodes kind n) : node ∈ t.nodes := by
  simp only [linkedNodes, mem_sortDashboardNodes, List.mem_append, List.mem_map, List.mem_filter] at h
  obtain ((⟨item, hitem, rfl⟩ | ⟨item, hitem, rfl⟩) | ⟨item, hitem, rfl⟩) | ⟨item, hitem, rfl⟩ := h
  · exact category_mem_nodes hitem.1
  · exact bookSeries_mem_nodes hitem.1
  · exact topic_mem_nodes hitem.1
  · exact section_mem_nodes hitem.1

lemma mem_nodes_of_mem_childNodes {n : String} {node : DashboardNode} (h : node ∈ t.childNodes n) : node ∈ t.nodes := by
  unfold childNodes at h
  dsimp only at h
  split_ifs at h
  · exact mem_nodes_of_mem_rootNodes h
  · simp only [orphanTopics, mem_sortDashboardNodes, List.mem_map, List.mem_filter] at h
    obtain ⟨item, hitem, rfl⟩ := h
    exact topic_mem_nodes hitem.1
  · simp only [orphanSections, mem_sortDashboardNodes, List.mem_map, List.mem_filter] at h
    obtain ⟨item, hitem, rfl⟩ := h
    exact section_mem_nodes hitem.1
  · split at h
    · exact mem_nodes_of_mem_linkedNodes h
    · cases h

/-- A node is below the parent it names, where that is an option of the subject. -/
lemma mem_childNodes_of_parentID {node parent : DashboardNode} (hnode : node ∈ t.nodes) (hnamed : node.parentID ≠ "")
    (hparent : t.lookup.lookup node.parentID = some parent) (hoption : parent.kind ≠ .folder) :
    node ∈ t.childNodes node.parentID := by
  have htrim := (parentID_of_mem_nodes hnode).1
  have htopics : node.parentID ≠ t.orphanTopicsFolder.id := by
    intro h
    rw [h, lookup_orphanTopicsFolder] at hparent
    exact hoption (Option.some.inj hparent ▸ rfl)
  have hsections : node.parentID ≠ t.orphanSectionsFolder.id := by
    intro h
    rw [h, lookup_orphanSectionsFolder] at hparent
    exact hoption (Option.some.inj hparent ▸ rfl)
  have hlinked : node ∈ t.linkedNodes parent.kind node.parentID := by
    simp only [linkedNodes, mem_sortDashboardNodes, List.mem_append, List.mem_map, List.mem_filter]
    obtain ⟨item, hitem, rfl⟩ | ⟨item, hitem, rfl⟩ | ⟨item, hitem, rfl⟩ | ⟨item, hitem, rfl⟩ | rfl | rfl :=
      mem_nodes_iff.mp hnode
    · exact .inl (.inl (.inl ⟨item, ⟨hitem, by simp [SubjectTaxonomy.node]⟩, rfl⟩))
    · exact .inr ⟨item, ⟨hitem, by simp [SubjectTaxonomy.node]⟩, rfl⟩
    · exact .inl (.inl (.inr ⟨item, ⟨hitem, by simp [SubjectTaxonomy.node]⟩, rfl⟩))
    · exact .inl (.inr ⟨item, ⟨hitem, by simp [SubjectTaxonomy.node]⟩, rfl⟩)
    · exact absurd rfl hnamed
    · exact absurd rfl hnamed
  unfold childNodes
  dsimp only
  rw [htrim, if_neg hnamed, if_neg htopics, if_neg hsections, hparent]
  exact hlinked

/-- `c` is the id of a taxonomy node directly below `n`. -/
def Below (t : SubjectTaxonomy) (c n : String) : Prop := ∃ node ∈ t.childNodes n, trimSpace node.id = c

/-- The breadcrumbs go from `p` to `q`, an option of the subject. -/
def Ancestor (t : SubjectTaxonomy) (q p : String) : Prop :=
  ∃ node parent, t.lookup.lookup p = some node ∧ node.parentID = q ∧ q ≠ "" ∧ t.lookup.lookup q = some parent ∧
    parent.kind ≠ .folder

omit [Library] in
lemma Ancestor.trim {q p : String} (h : t.Ancestor q p) : trimSpace q = q := by
  obtain ⟨node, -, hnode, rfl, -⟩ := h
  exact (parentID_of_mem_nodes (mem_nodes_of_lookup hnode).1).1

lemma Ancestor.below {q p : String} (h : t.Ancestor q p) (htrim : trimSpace p = p) : t.Below p q := by
  obtain ⟨node, parent, hnode, rfl, hnamed, hparent, hoption⟩ := h
  obtain ⟨hmem, rfl⟩ := mem_nodes_of_lookup hnode
  exact ⟨node, mem_childNodes_of_parentID hmem hnamed hparent hoption, htrim⟩

lemma below_of_ancestors {q p : String} (h : TransGen t.Ancestor q p) (htrim : trimSpace p = p) :
    TransGen t.Below p q := by
  induction h using TransGen.head_induction_on with
  | single h => exact .single (h.below htrim)
  | head hfirst hrest ih =>
    obtain ⟨_, hnext, -⟩ := TransGen.head'_iff.mp hrest
    exact ih.tail (hfirst.below hnext.trim)

/-- Where no node is below itself, the ancestors of every node come to an end. -/
lemma acc_ancestor (hacyclic : ∀ n, ¬TransGen t.Below n n) (p : String) : Acc t.Ancestor p := by
  have hfinite : {q | ∃ p, t.Ancestor q p}.Finite := by
    refine (t.nodes.map DashboardNode.id).finite_toSet.subset ?_
    rintro q ⟨p, -, parent, -, -, -, hparent, -⟩
    obtain ⟨hmem, rfl⟩ := mem_nodes_of_lookup hparent
    exact List.mem_map_of_mem hmem
  refine acc_of_acyclic hfinite p (fun q _ hcycle => ?_)
  obtain ⟨_, hq, -⟩ := TransGen.head'_iff.mp hcycle
  exact hacyclic q (below_of_ancestors hcycle hq.trim)

end SubjectTaxonomy

/-! ## Breadcrumbs -/

lemma parentChain_stable (lookup : GoMap DashboardNode) (p : String) :
    Stable (fun fuel => parentChain lookup fuel p) := by
  intro fuel more hle
  induction fuel generalizing p more with
  | zero => exact Below.none _
  | succ fuel ih =>
    obtain ⟨more, rfl⟩ := Nat.exists_eq_add_of_le' (Nat.le_of_add_left_le hle)
    simp only [parentChain]
    split
    · exact Below.refl _
    · split
      · exact Below.refl _
      · exact (ih _ (Nat.le_of_succ_le_succ hle)).map _

lemma parentChain_returns {t : SubjectTaxonomy} {p : String} (h : Acc t.Ancestor p) :
    ∃ fuel, (parentChain t.lookup fuel p).isSome := by
  induction h with
  | intro p _ ih =>
    by_cases hroot : p = ""
    · exact ⟨1, by simp [parentChain, hroot]⟩
    cases hnode : t.lookup.lookup p with
    | none => exact ⟨1, by simp [parentChain, hroot, hnode]⟩
    | some node =>
      -- From a folder and from a node without a parent the chain takes one step more.
      have hnext : ∃ fuel, (parentChain t.lookup fuel node.parentID).isSome := by
        by_cases hnamed : node.parentID = ""
        · exact ⟨1, by simp [parentChain, hnamed]⟩
        cases hparent : t.lookup.lookup node.parentID with
        | none => exact ⟨1, by simp [parentChain, hnamed, hparent]⟩
        | some parent =>
          by_cases hfolder : parent.kind = .folder
          · have hlast := (SubjectTaxonomy.parentID_of_mem_nodes (SubjectTaxonomy.mem_nodes_of_lookup hparent).1).2 hfolder
            exact ⟨2, by simp [parentChain, hnamed, hparent, hlast]⟩
          · exact ih _ ⟨node, parent, hnode, rfl, hnamed, hparent, hfolder⟩
      obtain ⟨fuel, hfuel⟩ := hnext
      exact ⟨fuel + 1, by simpa [parentChain, hroot, hnode] using hfuel⟩

namespace Dashboard

variable [Library] {d : Dashboard} {s : String}

/-! ## The nodes shown below a node -/

/-- The nodes that `dashboardChildren` returns. -/
def nodesBelow (d : Dashboard) (s n : String) : List DashboardNode :=
  if (d.memory.subjectTaxonomy s).childNodes n ≠ [] then (d.memory.subjectTaxonomy s).childNodes n
  else d.resourceChildren s (trimSpace n)

@[simp] lemma nodesBelow_trimSpace (d : Dashboard) (s n : String) : d.nodesBelow s (trimSpace n) = d.nodesBelow s n := by
  simp only [nodesBelow, SubjectTaxonomy.childNodes_trimSpace, trimSpace_trimSpace]

lemma taxonomyChildren_stable (t : SubjectTaxonomy) (n : String) : Stable (fun fuel => taxonomyChildren fuel t n) := by
  intro fuel more hle
  simp only [taxonomyChildren, buildBreadcrumbs]
  split
  · exact Below.refl _
  · exact ((parentChain_stable _ _ hle).map _).map _

lemma dashboardChildren_stable (d : Dashboard) (s n : String) : Stable (fun fuel => dashboardChildren fuel d s n) :=
  fun _ _ hle => (taxonomyChildren_stable _ _ hle).map _

lemma dashboardChildren_nodes {fuel : ℕ} {n : String} {found : List DashboardNode × List Breadcrumb}
    (h : dashboardChildren fuel d s n = some found) : found.1 = d.nodesBelow s n := by
  obtain ⟨⟨nodes, chain⟩, hnodes, rfl⟩ := Option.map_eq_some_iff.mp h
  have heq : nodes = (d.memory.subjectTaxonomy s).childNodes n := by
    unfold taxonomyChildren at hnodes
    rw [SubjectTaxonomy.childNodes_trimSpace] at hnodes
    split at hnodes
    · exact (Prod.mk.inj (Option.some.inj hnodes)).1.symm
    · obtain ⟨_, -, hpair⟩ := Option.map_eq_some_iff.mp hnodes
      exact (Prod.mk.inj hpair).1.symm
  dsimp only
  rw [nodesBelow, heq]
  split <;> rfl

lemma dashboardChildren_returns (hacyclic : ∀ n, ¬TransGen (d.memory.subjectTaxonomy s).Below n n) (n : String) :
    ∃ fuel, (dashboardChildren fuel d s n).isSome := by
  obtain ⟨fuel, hfuel⟩ := parentChain_returns (SubjectTaxonomy.acc_ancestor hacyclic (trimSpace n))
  refine ⟨fuel, ?_⟩
  simp only [dashboardChildren, taxonomyChildren, trimSpace_trimSpace, Option.isSome_map, buildBreadcrumbs]
  split
  · rfl
  · simpa using hfuel

/-! ## What is directly below a node -/

omit [Library] in
lemma mem_resourceChildren {n : String} {node : DashboardNode} : node ∈ d.resourceChildren s n ↔
    ∃ resource ∈ d.resourcesForSubject s, resourceMatchesParent resource n ∧ node ∈ resourceNodes s n resource := by
  rw [resourceChildren, (sortSliceStable_perm _ _).mem_iff, List.mem_flatMap]
  simp only [List.mem_filter, and_assoc]

/-- `c` is shown directly below `n`. -/
def Listed (d : Dashboard) (s c n : String) : Prop := ∃ node ∈ d.nodesBelow s n, trimSpace node.id = c

/-- Collecting the leaves of `n` takes collecting those of `c`: at the root of everything shown,
elsewhere of what is neither a lesson nor a resource. -/
def Entered (d : Dashboard) (s c n : String) : Prop :=
  ∃ node ∈ d.nodesBelow s n, (trimSpace n = "" ∨ node.kind ∉ [.lesson, .resource]) ∧ trimSpace node.id = c

lemma Entered.listed {c n : String} (h : d.Entered s c n) : d.Listed s c n := by
  obtain ⟨node, hnode, -, hid⟩ := h
  exact ⟨node, hnode, hid⟩

lemma Listed.trim {c n : String} (h : d.Listed s c n) : trimSpace c = c := by
  obtain ⟨node, -, rfl⟩ := h
  exact trimSpace_trimSpace node.id

/-- Taxonomy nodes are shown before resources, and entered. -/
lemma entered_of_below {c n : String} (h : (d.memory.subjectTaxonomy s).Below c n) : d.Entered s c n := by
  obtain ⟨node, hnode, hid⟩ := h
  have hkind := SubjectTaxonomy.kind_of_mem_nodes (SubjectTaxonomy.mem_nodes_of_mem_childNodes hnode)
  refine ⟨node, ?_, .inr hkind, hid⟩
  rwa [nodesBelow, if_pos (List.ne_nil_of_mem hnode)]

omit [Library] in
lemma id_of_mem_resourceNodes {n : String} {resource : ResourceDetail} {node : DashboardNode}
    (h : node ∈ resourceNodes s n resource) : node.id ∈ resource.lessonIDs ∧ node.kind ∈ [.lesson, .resource] := by
  unfold resourceNodes at h
  unfold ResourceDetail.lessonIDs
  split at h <;> rename_i hitems
  · obtain rfl := List.mem_singleton.mp h
    simp [hitems]
  · obtain ⟨item, hitem, rfl⟩ := List.mem_map.mp h
    rw [if_neg hitems]
    exact ⟨List.mem_map_of_mem hitem, by simp⟩

/-- The ids of everything that can be shown. -/
def shownIDs (d : Dashboard) (s : String) : List String :=
  (d.memory.subjectTaxonomy s).nodes.map DashboardNode.id ++ (d.resourcesForSubject s).flatMap ResourceDetail.lessonIDs

lemma id_mem_shownIDs {n : String} {node : DashboardNode} (h : node ∈ d.nodesBelow s n) : node.id ∈ d.shownIDs s := by
  rw [shownIDs, List.mem_append]
  unfold nodesBelow at h
  split at h
  · exact .inl (List.mem_map_of_mem (SubjectTaxonomy.mem_nodes_of_mem_childNodes h))
  · obtain ⟨resource, hresource, -, hnode⟩ := mem_resourceChildren.mp h
    exact .inr (List.mem_flatMap.mpr ⟨resource, hresource, (id_of_mem_resourceNodes hnode).1⟩)

lemma listed_finite (d : Dashboard) (s : String) : {c | ∃ n, d.Listed s c n}.Finite := by
  refine ((d.shownIDs s).map trimSpace).finite_toSet.subset ?_
  rintro c ⟨n, node, hnode, rfl⟩
  exact List.mem_map_of_mem (id_mem_shownIDs hnode)

/-! ## Looking for a node -/

lemma expands (d : Dashboard) (s : String) :
    Expands (fun fuel (current : DashboardNode) => (dashboardChildren fuel d s current.id).map Prod.fst)
      (fun node => d.nodesBelow s node.id) where
  stable node := fun _ _ hle => (dashboardChildren_stable d s node.id hle).map _
  eq_below h := by
    obtain ⟨found, hfound, rfl⟩ := Option.map_eq_some_iff.mp h
    exact dashboardChildren_nodes hfound

lemma reflTransGen_listed {x node : DashboardNode}
    (h : ReflTransGen (fun x node => x ∈ d.nodesBelow s node.id) x node) :
    ReflTransGen (d.Listed s) (trimSpace x.id) (trimSpace node.id) := by
  induction h with
  | refl => exact .refl
  | tail _ hstep ih =>
    refine ih.tail ⟨_, ?_, rfl⟩
    rwa [nodesBelow_trimSpace]

lemma acc_node_iff {node : DashboardNode} :
    Acc (fun x node => x ∈ d.nodesBelow s node.id) node ↔ Acc (d.Listed s) (trimSpace node.id) := by
  constructor
  · intro h
    induction h with
    | intro node _ ih =>
      refine Acc.intro _ ?_
      rintro c ⟨x, hx, rfl⟩
      rw [nodesBelow_trimSpace] at hx
      exact ih x hx
  · intro h
    generalize hid : trimSpace node.id = n at h
    induction h generalizing node with
    | intro n _ ih =>
      subst hid
      refine Acc.intro node (fun x hx => ih _ ⟨x, ?_, rfl⟩ rfl)
      rwa [nodesBelow_trimSpace]

lemma lookupNodeMeta_stable (d : Dashboard) (s n : String) : Stable (fun fuel => lookupNodeMeta fuel d s n) := by
  intro fuel more hle
  refine (dashboardChildren_stable d s "" hle).bind (fun children => ?_)
  split
  · exact Below.refl _
  · exact (expands d s).search_stable _ hle

/-- The search for a node that is not there goes everywhere. -/
lemma acc_of_lookupNodeMeta {fuel : ℕ} {n : String} (h : lookupNodeMeta fuel d s n = some none) :
    Acc (d.Listed s) "" := by
  obtain ⟨children, hchildren, hsearch⟩ := Option.bind_eq_some_iff.mp h
  split at hsearch
  · cases hsearch
  · refine Acc.intro _ ?_
    rintro c ⟨node, hnode, rfl⟩
    rw [← dashboardChildren_nodes hchildren] at hnode
    exact acc_node_iff.mp ((expands d s).of_exhausted hsearch node hnode)

/-- What is found is shown below the root. -/
lemma lookupNodeMeta_found {fuel : ℕ} {n : String} {x : DashboardNode} (h : lookupNodeMeta fuel d s n = some (some x)) :
    x.id = n ∧ ∃ p, ReflTransGen (d.Listed s) p "" ∧ x ∈ d.nodesBelow s p := by
  obtain ⟨children, hchildren, hsearch⟩ := Option.bind_eq_some_iff.mp h
  have hnodes := dashboardChildren_nodes hchildren
  split at hsearch
  · rename_i child hchild
    obtain rfl : child = x := Option.some.inj (Option.some.inj hsearch)
    refine ⟨by simpa using List.find?_some hchild, "", .refl, ?_⟩
    exact hnodes ▸ List.mem_of_find?_eq_some hchild
  · obtain ⟨hid, node, hnode, hbelow⟩ := (expands d s).of_found hsearch
    refine ⟨by simpa using hid, ?_⟩
    rw [hnodes] at hnode
    obtain rfl | ⟨y, hxy, hy⟩ := ReflTransGen.cases_head hbelow
    · exact ⟨"", .refl, hnode⟩
    · refine ⟨trimSpace y.id, (reflTransGen_listed hy).tail ⟨node, hnode, rfl⟩, ?_⟩
      rwa [nodesBelow_trimSpace]

end Dashboard

end ErgGo.Hoclieu
