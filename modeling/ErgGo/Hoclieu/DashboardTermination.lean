import ErgGo.Hoclieu.DashboardWalks
import ErgGo.Hoclieu.Operations

/-!
# Whether the dashboard comes to an end

Nothing keeps an option from being made its own ancestor. The walks of the dashboard end, for
every parent id, when nothing is entered below itself and nothing shown below the root is below
itself.
-/

namespace ErgGo.Hoclieu
open Go Fuel Traversal Relation

namespace Dashboard

section Walks

variable [Library] {d : Dashboard} {s : String}

/-- The search returns where its loop does. -/
lemma lookupNodeMeta_returns (hacyclic : ∀ n, ¬TransGen (d.memory.subjectTaxonomy s).Below n n) {n : String}
    (hloop : (∀ node ∈ d.nodesBelow s "", node.id ≠ n) → ∃ fuel, (searchNode d s n fuel (d.nodesBelow s "")).isSome) :
    ∃ fuel, (lookupNodeMeta fuel d s n).isSome := by
  refine (dashboardChildren_stable d s "").exists_bind (fun children => ?_) (dashboardChildren_returns hacyclic "") ?_
  · split
    · exact fun _ _ _ => Below.refl _
    · exact (expands d s).search_stable _
  · intro fuel children hchildren
    rw [dashboardChildren_nodes hchildren]
    split
    · exact ⟨0, rfl⟩
    · rename_i hnone
      exact hloop (by simpa using hnone)

lemma expand_returns (hacyclic : ∀ n, ¬TransGen (d.memory.subjectTaxonomy s).Below n n) (node : DashboardNode) :
    ∃ fuel, ((dashboardChildren fuel d s node.id).map Prod.fst).isSome := by
  obtain ⟨fuel, hfuel⟩ := dashboardChildren_returns hacyclic node.id
  exact ⟨fuel, by rwa [Option.isSome_map]⟩

/-- It returns for every id where the walks down from the root end. -/
lemma lookupNodeMeta_returns_of_acc (hacyclic : ∀ n, ¬TransGen (d.memory.subjectTaxonomy s).Below n n)
    (hacc : Acc (d.Listed s) "") (n : String) : ∃ fuel, (lookupNodeMeta fuel d s n).isSome :=
  lookupNodeMeta_returns hacyclic (fun _ => (expands d s).search_returns_of_acc (expand_returns hacyclic)
    (fun node hnode => acc_node_iff.mpr (hacc.inv ⟨node, hnode, rfl⟩)))

/-- What is listed below the root is reached by the nodes themselves. -/
lemma exists_node_of_listed {p : String} (h : ReflTransGen (d.Listed s) p "") : p = "" ∨
    ∃ c ∈ d.nodesBelow s "", ∃ y, ReflTransGen (fun x node => x ∈ d.nodesBelow s node.id) y c ∧ trimSpace y.id = p := by
  induction h using ReflTransGen.head_induction_on with
  | refl => exact .inl rfl
  | head hstep _ ih =>
    obtain ⟨node, hnode, rfl⟩ := hstep
    obtain rfl | ⟨c, hc, y, hy, rfl⟩ := ih
    · exact .inr ⟨node, hnode, node, .refl, rfl⟩
    · rw [nodesBelow_trimSpace] at hnode
      exact .inr ⟨c, hc, node, .head hnode hy, rfl⟩

/-- It returns for the id of a node that is shown below the root, whatever else is shown. -/
lemma lookupNodeMeta_returns_of_shown (hacyclic : ∀ n, ¬TransGen (d.memory.subjectTaxonomy s).Below n n)
    {p : String} {node : DashboardNode} (hp : ReflTransGen (d.Listed s) p "") (hnode : node ∈ d.nodesBelow s p) :
    ∃ fuel, (lookupNodeMeta fuel d s node.id).isSome := by
  refine lookupNodeMeta_returns hacyclic (fun helsewhere => ?_)
  obtain rfl | ⟨c, hc, y, hy, rfl⟩ := exists_node_of_listed hp
  · exact absurd rfl (helsewhere node hnode)
  · rw [nodesBelow_trimSpace] at hnode
    exact (expands d s).search_returns_of_found (expand_returns hacyclic) hc (.head hnode hy) (by simp)

/-! ## Collecting leaves -/

lemma collectLeaves_root (hs : trimSpace s = s) (hsubject : s ≠ "") {n : String} (hn : trimSpace n = "") (fuel : ℕ) :
    collectLeaves d (fuel + 1) s n = (dashboardChildren fuel d s "").bind (fun children =>
      (children.1.mapM (fun child : DashboardNode => collectLeaves d fuel s child.id)).bind (fun leaves =>
        if leaves.flatten = [] then some (dedupeLeaves ((d.resourcesForSubject s).flatMap resourceLeaves))
        else some (dedupeLeaves leaves.flatten))) := by
  simp only [collectLeaves, hs, hn, if_neg hsubject, if_true]
  rfl

lemma collectLeaves_node (hs : trimSpace s = s) (hsubject : s ≠ "") {n : String} (hn : trimSpace n ≠ "") (fuel : ℕ) :
    collectLeaves d (fuel + 1) s n = (dashboardChildren fuel d s (trimSpace n)).bind (fun children =>
      if children.1 = [] then (lookupNodeMeta fuel d s (trimSpace n)).bind (fun found =>
        some ((found.toList.filter (fun node => node.kind ∈ [.lesson, .resource, .sectionNode])).map DashboardNode.leaf))
      else (children.1.mapM (fun child : DashboardNode =>
          if child.kind = .lesson || child.kind = .resource then some [child.leaf]
          else collectLeaves d fuel s child.id)).bind (fun leaves => some (dedupeLeaves leaves.flatten))) := by
  simp only [collectLeaves, hs, if_neg hsubject, if_neg hn]
  rfl

lemma collectLeaves_stable (d : Dashboard) (hs : trimSpace s = s) (hsubject : s ≠ "") (n : String) :
    Stable (fun fuel => collectLeaves d fuel s n) := by
  intro fuel more hle
  induction fuel generalizing n more with
  | zero => exact Below.none _
  | succ fuel ih =>
    obtain ⟨more, rfl⟩ := Nat.exists_eq_add_of_le' (Nat.le_of_add_left_le hle)
    have hle := Nat.le_of_succ_le_succ hle
    by_cases hn : trimSpace n = ""
    · simp only [collectLeaves_root hs hsubject hn]
      refine (dashboardChildren_stable d s "" hle).bind (fun children => ?_)
      refine (Below.mapM _ (fun child => ?_)).bind (fun leaves => Below.refl _)
      exact ih child.id hle
    · simp only [collectLeaves_node hs hsubject hn]
      refine (dashboardChildren_stable d s _ hle).bind (fun children => ?_)
      split
      · exact (lookupNodeMeta_stable d s _ hle).bind (fun found => Below.refl _)
      · refine (Below.mapM _ (fun child => ?_)).bind (fun leaves => Below.refl _)
        split
        · exact Below.refl _
        · exact ih child.id hle

/-- A call that returns has had an answer for everything that it entered. -/
lemma collectLeaves_entered (hs : trimSpace s = s) (hsubject : s ≠ "") {fuel : ℕ} {n c : String}
    (h : (collectLeaves d (fuel + 1) s n).isSome) (hc : d.Entered s c (trimSpace n)) :
    ∃ node : DashboardNode, trimSpace node.id = c ∧ (collectLeaves d fuel s node.id).isSome := by
  obtain ⟨leaves, hleaves⟩ := Option.isSome_iff_exists.mp h
  obtain ⟨node, hnode, hentered, rfl⟩ := hc
  rw [trimSpace_trimSpace] at hentered
  refine ⟨node, rfl, ?_⟩
  by_cases hn : trimSpace n = ""
  · rw [collectLeaves_root hs hsubject hn] at hleaves
    obtain ⟨children, hchildren, hleaves⟩ := Option.bind_eq_some_iff.mp hleaves
    obtain ⟨_, hcollected, -⟩ := Option.bind_eq_some_iff.mp hleaves
    rw [hn, ← dashboardChildren_nodes hchildren] at hnode
    exact isSome_of_mapM (Option.isSome_iff_exists.mpr ⟨_, hcollected⟩) hnode
  · rw [collectLeaves_node hs hsubject hn] at hleaves
    obtain ⟨children, hchildren, hleaves⟩ := Option.bind_eq_some_iff.mp hleaves
    rw [← dashboardChildren_nodes hchildren] at hnode
    rw [if_neg (List.ne_nil_of_mem hnode)] at hleaves
    obtain ⟨_, hcollected, -⟩ := Option.bind_eq_some_iff.mp hleaves
    have hchild := isSome_of_mapM (Option.isSome_iff_exists.mpr ⟨_, hcollected⟩) hnode
    have hkind : ¬(node.kind = .lesson || node.kind = .resource) := by simpa [hn] using hentered
    rwa [if_neg hkind] at hchild

/-- The recursion has ended in every node that it entered. -/
lemma acc_of_collectLeaves (hs : trimSpace s = s) (hsubject : s ≠ "") {fuel : ℕ} {n : String}
    (h : (collectLeaves d fuel s n).isSome) : Acc (d.Entered s) (trimSpace n) := by
  induction fuel generalizing n with
  | zero => cases h
  | succ fuel ih =>
    refine Acc.intro _ (fun c hc => ?_)
    obtain ⟨node, rfl, hnode⟩ := collectLeaves_entered hs hsubject h hc
    exact ih hnode

/-- It has searched for every node it entered that has nothing below it. -/
lemma lookupNodeMeta_of_collectLeaves (hs : trimSpace s = s) (hsubject : s ≠ "") {fuel : ℕ} {n m : String}
    (h : (collectLeaves d fuel s n).isSome) (hm : ReflTransGen (d.Entered s) m (trimSpace n)) (hroot : m ≠ "")
    (hempty : d.nodesBelow s m = []) : ∃ fuel, (lookupNodeMeta fuel d s m).isSome := by
  induction fuel generalizing n with
  | zero => cases h
  | succ fuel ih =>
    obtain rfl | ⟨c, hmc, hc⟩ := ReflTransGen.cases_tail hm
    · obtain ⟨leaves, hleaves⟩ := Option.isSome_iff_exists.mp h
      rw [collectLeaves_node hs hsubject hroot] at hleaves
      obtain ⟨children, hchildren, hleaves⟩ := Option.bind_eq_some_iff.mp hleaves
      rw [if_pos ((dashboardChildren_nodes hchildren).trans hempty)] at hleaves
      obtain ⟨found, hfound, -⟩ := Option.bind_eq_some_iff.mp hleaves
      exact ⟨fuel, Option.isSome_iff_exists.mpr ⟨found, hfound⟩⟩
    · obtain ⟨node, rfl, hnode⟩ := collectLeaves_entered hs hsubject h hc
      exact ih hnode hmc

/-- Where the walks from its nodes end and its searches return, the recursion returns. -/
lemma collectLeaves_returns (hs : trimSpace s = s) (hsubject : s ≠ "")
    (hacyclic : ∀ n, ¬TransGen (d.memory.subjectTaxonomy s).Below n n) {n : String}
    (hsearch : ∀ c, ReflTransGen (d.Entered s) c (trimSpace n) → c ≠ "" → d.nodesBelow s c = [] →
      ∃ fuel, (lookupNodeMeta fuel d s c).isSome)
    (hacc : Acc (d.Entered s) (trimSpace n)) : ∃ fuel, (collectLeaves d fuel s n).isSome := by
  generalize hid : trimSpace n = m at hacc hsearch
  induction hacc generalizing n with
  | intro m _ ih =>
    subst hid
    have hstable := collectLeaves_stable d hs hsubject
    have hentered : ∀ node ∈ d.nodesBelow s n, (trimSpace n = "" ∨ node.kind ∉ [.lesson, .resource]) →
        ∃ fuel, (collectLeaves d fuel s node.id).isSome := by
      intro node hnode hkind
      have hstep : d.Entered s (trimSpace node.id) (trimSpace n) :=
        ⟨node, by rwa [nodesBelow_trimSpace], by rwa [trimSpace_trimSpace], rfl⟩
      exact ih _ hstep rfl (fun c hc => hsearch c (hc.tail hstep))
    suffices hsucc : ∃ fuel, (collectLeaves d (fuel + 1) s n).isSome by
      obtain ⟨fuel, hfuel⟩ := hsucc
      exact ⟨fuel + 1, hfuel⟩
    by_cases hn : trimSpace n = ""
    · simp only [collectLeaves_root hs hsubject hn]
      refine (dashboardChildren_stable d s "").exists_bind (fun children => ?_) (dashboardChildren_returns hacyclic "")
        (fun fuel children hchildren => ?_)
      · intro fuel more hle
        refine (Below.mapM _ (fun child => ?_)).bind (fun leaves => Below.refl _)
        exact hstable child.id hle
      · have hnodes : children.1 = d.nodesBelow s n := by
          rw [dashboardChildren_nodes hchildren, ← hn, nodesBelow_trimSpace]
        have hall : ∃ fuel, (children.1.mapM (fun child : DashboardNode => collectLeaves d fuel s child.id)).isSome :=
          Stable.exists_mapM (fun child => hstable child.id) (fun node hnode => hentered node (hnodes ▸ hnode) (.inl hn))
        obtain ⟨fuel, hfuel⟩ := hall
        obtain ⟨leaves, hleaves⟩ := Option.isSome_iff_exists.mp hfuel
        refine ⟨fuel, ?_⟩
        rw [hleaves, Option.bind_some]
        split <;> rfl
    · simp only [collectLeaves_node hs hsubject hn]
      have hchild : ∀ child : DashboardNode, Stable (fun fuel =>
          if child.kind = .lesson || child.kind = .resource then some [child.leaf]
          else collectLeaves d fuel s child.id) := by
        intro child fuel more hle
        dsimp only
        split
        · exact Below.refl _
        · exact hstable child.id hle
      refine (dashboardChildren_stable d s _).exists_bind (fun children => ?_)
        (dashboardChildren_returns hacyclic (trimSpace n)) (fun fuel children hchildren => ?_)
      · intro fuel more hle
        dsimp only
        split
        · exact (lookupNodeMeta_stable d s _ hle).bind (fun found => Below.refl _)
        · exact (Below.mapM _ (fun child => hchild child hle)).bind (fun leaves => Below.refl _)
      · have hnodes : children.1 = d.nodesBelow s n := by
          rw [dashboardChildren_nodes hchildren, nodesBelow_trimSpace]
        by_cases hempty : children.1 = []
        · obtain ⟨fuel, hfuel⟩ := hsearch (trimSpace n) .refl hn (by rw [nodesBelow_trimSpace, ← hnodes, hempty])
          obtain ⟨found, hfound⟩ := Option.isSome_iff_exists.mp hfuel
          refine ⟨fuel, ?_⟩
          rw [if_pos hempty, hfound]
          rfl
        · have hall : ∃ fuel, (children.1.mapM (fun child =>
              if child.kind = .lesson || child.kind = .resource then some [child.leaf]
              else collectLeaves d fuel s child.id)).isSome := by
            refine Stable.exists_mapM hchild (fun node hnode => ?_)
            by_cases hkind : node.kind = .lesson || node.kind = .resource
            · exact ⟨0, by rw [if_pos hkind]; rfl⟩
            · obtain ⟨fuel, hfuel⟩ := hentered node (hnodes ▸ hnode) (.inr (by simpa using hkind))
              exact ⟨fuel, by rwa [if_neg hkind]⟩
          obtain ⟨fuel, hfuel⟩ := hall
          obtain ⟨leaves, hleaves⟩ := Option.isSome_iff_exists.mp hfuel
          refine ⟨fuel, ?_⟩
          rw [if_neg hempty, hleaves]
          rfl

/-! ## The condition -/

/-- Nothing is entered below itself, and nothing shown below the root is below itself. -/
structure LinksAcyclic (d : Dashboard) (s : String) : Prop where
  entered : ∀ n, ¬TransGen (d.Entered s) n n
  listed : ∀ n, ReflTransGen (d.Listed s) n "" → ¬TransGen (d.Listed s) n n

lemma taxonomy_acyclic (h : ∀ n, ¬TransGen (d.Entered s) n n) (n : String) :
    ¬TransGen (d.memory.subjectTaxonomy s).Below n n := by
  have hmono : TransGen (d.memory.subjectTaxonomy s).Below ≤ TransGen (d.Entered s) :=
    TransGen.mono (fun _ _ => entered_of_below)
  exact fun hcycle => h n (hmono n n hcycle)

lemma LinksAcyclic.collectLeaves_returns (h : d.LinksAcyclic s) (hs : trimSpace s = s) (hsubject : s ≠ "")
    (n : String) : ∃ fuel, (collectLeaves d fuel s n).isSome := by
  have hacyclic := taxonomy_acyclic h.entered
  have hlisted : Acc (d.Listed s) "" := (acc_iff_acyclic (d.listed_finite s) "").mpr h.listed
  have hfinite : {c | ∃ n, d.Entered s c n}.Finite :=
    (d.listed_finite s).subset (fun c hc => hc.imp (fun n hn => hn.listed))
  have hentered : Acc (d.Entered s) (trimSpace n) := acc_of_acyclic hfinite _ (fun c _ => h.entered c)
  exact Dashboard.collectLeaves_returns hs hsubject hacyclic
    (fun c _ _ _ => lookupNodeMeta_returns_of_acc hacyclic hlisted c) hentered

lemma progress_returns (hsubject : trimSpace s ≠ "") {n : String} (schoolID academicYear : String) :
    (∃ fuel, (progress fuel d s n schoolID academicYear).isSome) ↔
      ∃ fuel, (collectLeaves d fuel (trimSpace s) n).isSome := by
  refine exists_congr (fun fuel => ?_)
  simp only [progress, if_neg hsubject]
  cases collectLeaves d fuel (trimSpace s) n <;> rfl

lemma LinksAcyclic.subjectTree_returns (h : d.LinksAcyclic (trimSpace s)) (hsubject : trimSpace s ≠ "")
    (schoolID academicYear parentID : String) :
    ∃ fuel, (subjectTree fuel d s schoolID academicYear parentID).isSome := by
  have hs := trimSpace_trimSpace s
  have hchildren := dashboardChildren_returns (d := d) (taxonomy_acyclic h.entered)
  have hsummaryStable : ∀ n, Stable (fun fuel => progressSummaryForNode fuel d (trimSpace s) n schoolID academicYear) :=
    fun n _ _ hle => (collectLeaves_stable d hs hsubject n hle).map _
  have hsummary : ∀ n, ∃ fuel, (progressSummaryForNode fuel d (trimSpace s) n schoolID academicYear).isSome := by
    intro n
    obtain ⟨fuel, hfuel⟩ := h.collectLeaves_returns hs hsubject n
    exact ⟨fuel, by rwa [progressSummaryForNode, Option.isSome_map]⟩
  have hmoreStable : ∀ n, Stable (fun fuel => nodeHasChildren fuel d (trimSpace s) n) :=
    fun n _ _ hle => (dashboardChildren_stable d _ n hle).map _
  have hmore : ∀ n, ∃ fuel, (nodeHasChildren fuel d (trimSpace s) n).isSome := by
    intro n
    obtain ⟨fuel, hfuel⟩ := hchildren n
    exact ⟨fuel, by rwa [nodeHasChildren, Option.isSome_map]⟩
  simp only [subjectTree, if_neg hsubject, Option.bind_eq_bind]
  -- The nodes one after another, then the summary.
  have hnodeStable : ∀ (label : String) (events : List TeacherProgressEvent) (child : DashboardNode), Stable (fun fuel =>
      (progressSummaryForNode fuel d (trimSpace s) child.id schoolID academicYear).bind (fun summary =>
        (nodeHasChildren fuel d (trimSpace s) child.id).bind (fun hasChildren =>
          some (TreeNode.mk child label hasChildren summary (latestOpenForNode events child.id))))) :=
    fun label events child _ _ hle => (hsummaryStable child.id hle).bind (fun _ =>
      (hmoreStable child.id hle).bind (fun _ => Below.refl _))
  refine (dashboardChildren_stable d _ parentID).exists_bind (fun children => ?_) (hchildren parentID)
    (fun _ children _ => ?_)
  · intro fuel more hle
    exact (Below.mapM _ (fun child => hnodeStable _ _ child hle)).bind (fun _ =>
      (hsummaryStable parentID hle).bind (fun _ => Below.refl _))
  · refine Stable.exists_bind ?_ (fun nodes => ?_) ?_ (fun _ nodes _ => ?_)
    · exact fun _ _ hle => Below.mapM _ (fun child => hnodeStable _ _ child hle)
    · exact fun _ _ hle => (hsummaryStable parentID hle).bind (fun _ => Below.refl _)
    · refine Stable.exists_mapM (hnodeStable _ _) (fun child _ => ?_)
      refine Stable.exists_bind (hsummaryStable child.id) (fun summary => ?_) (hsummary child.id) (fun _ summary _ => ?_)
      · exact fun _ _ hle => (hmoreStable child.id hle).bind (fun _ => Below.refl _)
      · obtain ⟨fuel, hfuel⟩ := hmore child.id
        obtain ⟨hasChildren, hhas⟩ := Option.isSome_iff_exists.mp hfuel
        exact ⟨fuel, by rw [hhas]; rfl⟩
    · obtain ⟨fuel, hfuel⟩ := hsummary parentID
      obtain ⟨summary, hsum⟩ := Option.isSome_iff_exists.mp hfuel
      exact ⟨fuel, by rw [hsum]; rfl⟩

/-! ## An id that nothing has -/

omit [Library] in
lemma exists_fresh (ids : List String) : ∃ n ∉ ids, n ≠ "" ∧ trimSpace n = n := by
  let long (k : ℕ) : String := String.ofList (List.replicate (k + 1) 'x')
  have hlong : ∃ k, long k ∉ ids := by
    by_contra! hall
    have hinjective : Function.Injective long := by
      intro i j hij
      have hlength := congrArg List.length (String.ofList_injective hij)
      simpa using hlength
    exact (Set.infinite_range_of_injective hinjective) (ids.finite_toSet.subset (Set.range_subset_iff.mpr hall))
  obtain ⟨k, hk⟩ := hlong
  refine ⟨long k, hk, fun hblank => ?_, ?_⟩
  · have hchars := congrArg String.toList hblank
    simp [long, List.replicate_succ] at hchars
  · have htrim : (List.replicate (k + 1) 'x').dropWhile isSpace = List.replicate (k + 1) 'x' := by
      rw [List.replicate_succ, List.dropWhile_cons_of_neg (by decide)]
    simp only [long, trimSpace, String.toList_ofList, htrim, List.reverse_replicate]

/-- The links of a resource. -/
def linksOf (resource : ResourceDetail) : List String :=
  [resource.categoryID, resource.sectionID, resource.bookSeriesID, resource.topicID]

lemma nodesBelow_fresh {n : String} (htrim : trimSpace n = n) (hn : n ≠ "") (hshown : n ∉ d.shownIDs s)
    (hlinked : n ∉ (d.resourcesForSubject s).flatMap linksOf) : d.nodesBelow s n = [] := by
  have hids : ∀ node ∈ (d.memory.subjectTaxonomy s).nodes, n ≠ node.id := by
    rintro node hnode rfl
    exact hshown (List.mem_append_left _ (List.mem_map_of_mem hnode))
  have hchild : (d.memory.subjectTaxonomy s).childNodes n = [] := by
    unfold SubjectTaxonomy.childNodes
    dsimp only
    rw [htrim, if_neg hn, if_neg (hids _ (SubjectTaxonomy.orphanTopicsFolder_mem_nodes _)),
      if_neg (hids _ (SubjectTaxonomy.orphanSectionsFolder_mem_nodes _))]
    split
    · rename_i hlookup
      obtain ⟨hmem, hid⟩ := SubjectTaxonomy.mem_nodes_of_lookup hlookup
      exact absurd hid.symm (hids _ hmem)
    · rfl
  have hresources : d.resourceChildren s n = [] := by
    refine List.eq_nil_iff_forall_not_mem.mpr (fun node hnode => ?_)
    obtain ⟨resource, hresource, hmatch, -⟩ := mem_resourceChildren.mp hnode
    simp only [resourceMatchesParent, htrim, if_neg hn, Bool.or_eq_true, decide_eq_true_eq] at hmatch
    refine hlinked (List.mem_flatMap.mpr ⟨resource, hresource, ?_⟩)
    obtain ((hlink | hlink) | hlink) | hlink := hmatch <;> simp [linksOf, hlink]
  rw [nodesBelow, hchild, htrim, hresources]
  rfl

/-- Looking for what is nowhere goes over everything shown. -/
lemma acc_listed_of_collectLeaves (hs : trimSpace s = s) (hsubject : s ≠ "")
    (h : ∀ n, ∃ fuel, (collectLeaves d fuel s n).isSome) : Acc (d.Listed s) "" := by
  obtain ⟨n, hfresh, hn, htrim⟩ := exists_fresh
    (d.shownIDs s ++ (d.resourcesForSubject s).flatMap linksOf)
  simp only [List.mem_append, not_or] at hfresh
  have hn' : trimSpace n ≠ "" := htrim.symm ▸ hn
  obtain ⟨fuel, hfuel⟩ := h n
  cases fuel with
  | zero => cases hfuel
  | succ fuel =>
    obtain ⟨leaves, hleaves⟩ := Option.isSome_iff_exists.mp hfuel
    rw [collectLeaves_node hs hsubject hn', htrim] at hleaves
    obtain ⟨children, hchildren, hleaves⟩ := Option.bind_eq_some_iff.mp hleaves
    have hempty : children.1 = [] :=
      (dashboardChildren_nodes hchildren).trans (nodesBelow_fresh htrim hn hfresh.1 hfresh.2)
    rw [if_pos hempty] at hleaves
    obtain ⟨found, hfound, -⟩ := Option.bind_eq_some_iff.mp hleaves
    cases found with
    | none => exact acc_of_lookupNodeMeta hfound
    | some x =>
      obtain ⟨rfl, p, -, hx⟩ := lookupNodeMeta_found hfound
      exact absurd (id_mem_shownIDs hx) hfresh.1

/-- A node that is entered below itself is never collected. -/
lemma not_collected_of_cycle (hs : trimSpace s = s) (hsubject : s ≠ "") {n : String}
    (hcycle : TransGen (d.Entered s) n n) (fuel : ℕ) : collectLeaves d fuel s n = none := by
  obtain ⟨_, hfirst, -⟩ := TransGen.head'_iff.mp hcycle
  by_contra hsome
  have hacc := acc_of_collectLeaves hs hsubject (Option.ne_none_iff_isSome.mp hsome)
  rw [hfirst.listed.trim] at hacc
  exact not_below_self_of_acc hacc.transGen hcycle

/-- Whatever the taxonomy and the resources, every call for a subject ends exactly when the links
go round in no circle. -/
theorem dashboard_ends_iff (d : Dashboard) (subjectID : String) :
    (∀ parentID schoolID academicYear,
      (∃ fuel, (subjectTree fuel d subjectID schoolID academicYear parentID).isSome) ∧
        ∃ fuel, (progress fuel d subjectID parentID schoolID academicYear).isSome) ↔
      (trimSpace subjectID ≠ "" → d.LinksAcyclic (trimSpace subjectID)) := by
  have hs := trimSpace_trimSpace subjectID
  constructor
  · intro h hsubject
    have hcollected : ∀ n, ∃ fuel, (collectLeaves d fuel (trimSpace subjectID) n).isSome :=
      fun n => (progress_returns hsubject "" "").mp (h n "" "").2
    refine ⟨fun n hcycle => ?_, ?_⟩
    · obtain ⟨fuel, hfuel⟩ := hcollected n
      rw [not_collected_of_cycle hs hsubject hcycle fuel] at hfuel
      cases hfuel
    · exact (acc_iff_acyclic (d.listed_finite _) "").mp (acc_listed_of_collectLeaves hs hsubject hcollected)
  · intro h parentID schoolID academicYear
    by_cases hsubject : trimSpace subjectID = ""
    · exact ⟨⟨0, by simp [subjectTree, hsubject]⟩, ⟨0, by simp [progress, hsubject]⟩⟩
    · have hacyclic := h hsubject
      exact ⟨hacyclic.subjectTree_returns hsubject schoolID academicYear parentID,
        (progress_returns hsubject schoolID academicYear).mpr (hacyclic.collectLeaves_returns hs hsubject parentID)⟩

end Walks

section Sample

attribute [local instance] asciiLibrary plainWeb

/-- Two chapters, of which the first is then put into the second. -/
def circularChapters : List Operation :=
  [.createTaxonomyOption { now := 0 } "categories" { id := "chuong-1", label := "Chương 1", subjectID := "toan" },
   .createTaxonomyOption { now := 0 } "categories"
     { id := "chuong-2", label := "Chương 2", subjectID := "toan", parentID := "chuong-1" },
   .updateTaxonomyOption { now := 0 } "categories" "chuong-1" { parentID := some "chuong-2" }]

lemma circularChapters_entered : TransGen ((⟨memoryAfter circularChapters, none⟩ : Dashboard).Entered "toan")
    "chuong-1" "chuong-1" := by
  have hup : (⟨memoryAfter circularChapters, none⟩ : Dashboard).Entered "toan" "chuong-1" "chuong-2" := by
    unfold Entered
    decide
  have hdown : (⟨memoryAfter circularChapters, none⟩ : Dashboard).Entered "toan" "chuong-2" "chuong-1" := by
    unfold Entered
    decide
  exact .tail (.single hup) hdown

theorem circularChapters_never_end : ¬∀ (ops : List Operation) (subjectID parentID schoolID academicYear : String),
    (∃ fuel, (subjectTree fuel ⟨memoryAfter ops, none⟩ subjectID schoolID academicYear parentID).isSome) ∧
      ∃ fuel, (progress fuel ⟨memoryAfter ops, none⟩ subjectID parentID schoolID academicYear).isSome := by
  intro h
  obtain ⟨fuel, hfuel⟩ := (progress_returns (by decide) "" "").mp (h circularChapters "toan" "chuong-1" "" "").2
  have hsubject : trimSpace "toan" = "toan" := by decide
  rw [hsubject, not_collected_of_cycle hsubject (by decide) circularChapters_entered] at hfuel
  cases hfuel

end Sample

end Dashboard

end ErgGo.Hoclieu
