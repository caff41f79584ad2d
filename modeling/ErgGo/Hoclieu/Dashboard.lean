import ErgGo.Hoclieu.MaterialService
import ErgGo.Lib.Traversal

/-!
# The teacher dashboard

The tree of a subject is implicit in the links of its taxonomy options and resources. Three walks
go over it without a list of visited nodes: from a node to its ancestors for the breadcrumbs, a
breadth-first search for a node by its id, and the recursion that collects the lessons below a
node. Each of them is given fuel here and has no result when it is spent.
-/

namespace ErgGo.Hoclieu
open Go

inductive DashboardNodeKind where
  | folder
  | category
  | sectionNode
  | bookSeries
  | topic
  | resource
  | lesson
  deriving DecidableEq

structure DashboardLeaf where
  id : String
  label : String
  kind : DashboardNodeKind
  resourceID : String
  resourceType : String
  deriving DecidableEq

structure DashboardNode where
  id : String
  label : String
  kind : DashboardNodeKind
  parentID : String := ""
  subjectID : String
  bookSeriesID : String := ""
  description : String
  resourceID : String := ""
  resourceType : String := ""
  thumbnailURL : String := ""
  fileTypeBadge : String := ""
  updatedAt : Option Time := none
  deriving DecidableEq

structure Breadcrumb where
  id : String
  label : String
  kind : DashboardNodeKind

structure TeachingStatus where
  status : String
  percent : Float64

structure ProgressSummary where
  progressRate : Float64 := 0
  taughtCount : ℕ := 0
  totalCount : ℕ := 0
  pendingCount : ℕ := 0

structure ProgressDetailItem where
  id : String
  label : String
  kind : DashboardNodeKind
  status : String
  progressRate : Float64

structure ProgressResponse where
  subjectID : String
  nodeID : String
  schoolID : String
  academicYear : String
  summary : ProgressSummary
  items : List ProgressDetailItem

structure TreeNode where
  node : DashboardNode
  subjectLabel : String
  hasChildren : Bool
  progress : ProgressSummary
  lastOpenedAt : Option Time

structure SubjectTree where
  subjectID : String
  subjectLabel : String
  schoolID : String
  academicYear : String
  parentID : String
  breadcrumbs : List Breadcrumb
  children : List TreeNode
  progress : ProgressSummary

/-- What the repository lists; a listing may fail. -/
structure DashboardRepository where
  /-- The first page, of a hundred. -/
  listResources (subjectID : String) : Option (List ResourceDetail)
  listResourceItems (resourceID : String) : List ResourceItem
  listProgressEvents (schoolID academicYear subjectID : String) : Option (List TeacherProgressEvent)

/-- What the dashboard reads. -/
structure Dashboard where
  memory : Memory
  repo : Option DashboardRepository := none

/-! ## The taxonomy of a subject -/

def filterTaxonomyBySubject (items : List TaxonomyOption) (subjectID : String) : List TaxonomyOption :=
  items.filter (fun item => trimSpace item.subjectID ≠ "" &&
    (trimSpace item.subjectID = subjectID || trimSpace item.id = subjectID))

section Labels

variable [Library]

def sortTaxonomyOptionsForDashboard (items : List TaxonomyOption) : List TaxonomyOption :=
  sortSliceStable (fun a b => if a.sortOrder ≠ b.sortOrder then a.sortOrder < b.sortOrder
    else toLower (trimSpace a.label) < toLower (trimSpace b.label)) items

def sortDashboardNodes (nodes : List DashboardNode) : List DashboardNode :=
  sortSliceStable (fun a b => toLower (trimSpace a.label) < toLower (trimSpace b.label)) nodes

end Labels

structure SubjectTaxonomy where
  subjectID : String
  categories : List TaxonomyOption
  sections : List TaxonomyOption
  bookSeries : List TaxonomyOption
  topics : List TaxonomyOption

def Memory.subjectTaxonomy [Library] (m : Memory) (subjectID : String) : SubjectTaxonomy where
  subjectID := subjectID
  categories := sortTaxonomyOptionsForDashboard (filterTaxonomyBySubject m.categories subjectID)
  sections := sortTaxonomyOptionsForDashboard (filterTaxonomyBySubject m.sections subjectID)
  bookSeries := sortTaxonomyOptionsForDashboard (filterTaxonomyBySubject m.bookSeries subjectID)
  topics := sortTaxonomyOptionsForDashboard (filterTaxonomyBySubject m.topics subjectID)

def TaxonomyOption.isOrphanTopic (item : TaxonomyOption) : Bool :=
  trimSpace item.parentID = "" && trimSpace item.categoryID = ""

def TaxonomyOption.isOrphanSection (item : TaxonomyOption) : Bool :=
  trimSpace item.parentID = "" && trimSpace item.categoryID = "" && trimSpace item.topicID = "" &&
    trimSpace item.bookSeriesID = ""

namespace SubjectTaxonomy

/-- `addNode`. -/
def node (t : SubjectTaxonomy) (kind : DashboardNodeKind) (item : TaxonomyOption) : DashboardNode where
  id := item.id
  label := item.label
  kind := kind
  parentID := trimSpace item.parentID
  subjectID := t.subjectID
  bookSeriesID := trimSpace item.bookSeriesID
  description := item.description

def orphanTopicsFolder (t : SubjectTaxonomy) : DashboardNode where
  id := "folder:topics:" ++ t.subjectID
  label := "Chủ đề chưa xếp nhóm"
  kind := .folder
  subjectID := t.subjectID
  description := "Những chủ đề chưa thuộc nhóm chương trình nào."

def orphanSectionsFolder (t : SubjectTaxonomy) : DashboardNode where
  id := "folder:sections:" ++ t.subjectID
  label := "Học phần chưa xếp nhóm"
  kind := .folder
  subjectID := t.subjectID
  description := "Những học phần chưa nằm trong chủ đề hoặc chương trình nào."

/-- Every node, in the order in which the nodes are entered in the look-up table. -/
def nodes (t : SubjectTaxonomy) : List DashboardNode :=
  t.categories.map (t.node .category) ++ t.sections.map (t.node .sectionNode) ++
    t.bookSeries.map (t.node .bookSeries) ++ t.topics.map (t.node .topic) ++
    [t.orphanTopicsFolder, t.orphanSectionsFolder]

def lookup (t : SubjectTaxonomy) : GoMap DashboardNode := GoMap.setAll ∅ (t.nodes.map (fun node => (node.id, node)))

variable [Library]

def rootNodes (t : SubjectTaxonomy) : List DashboardNode :=
  sortDashboardNodes (
    (t.categories.filter (fun item => trimSpace item.parentID = "")).map (t.node .category) ++
    (t.bookSeries.filter (fun item => trimSpace item.parentID = "" && trimSpace item.bookSeriesID = "")).map
      (t.node .bookSeries) ++
    (if t.topics.any TaxonomyOption.isOrphanTopic then [t.orphanTopicsFolder] else []) ++
    (if t.sections.any TaxonomyOption.isOrphanSection then [t.orphanSectionsFolder] else []))

def orphanTopics (t : SubjectTaxonomy) : List DashboardNode :=
  sortDashboardNodes ((t.topics.filter TaxonomyOption.isOrphanTopic).map (t.node .topic))

def orphanSections (t : SubjectTaxonomy) : List DashboardNode :=
  sortDashboardNodes ((t.sections.filter TaxonomyOption.isOrphanSection).map (t.node .sectionNode))

/-- The nodes linked to a node of this kind. -/
def linkedNodes (t : SubjectTaxonomy) (kind : DashboardNodeKind) (parentID : String) : List DashboardNode :=
  sortDashboardNodes (
    (t.categories.filter (fun item => trimSpace item.parentID = parentID)).map (t.node .category) ++
    (t.bookSeries.filter (fun item => trimSpace item.parentID = parentID ||
      (kind = .category && trimSpace item.categoryID = parentID))).map (t.node .bookSeries) ++
    (t.topics.filter (fun item => trimSpace item.parentID = parentID ||
      (kind = .category && trimSpace item.categoryID = parentID))).map (t.node .topic) ++
    (t.sections.filter (fun item => trimSpace item.parentID = parentID ||
      (kind = .category && trimSpace item.categoryID = parentID && trimSpace item.topicID = "") ||
      (kind = .topic && trimSpace item.topicID = parentID) ||
      (kind = .bookSeries && trimSpace item.bookSeriesID = parentID))).map (t.node .sectionNode))

/-- The nodes that `taxonomyChildren` returns. -/
def childNodes (t : SubjectTaxonomy) (parentID : String) : List DashboardNode :=
  let parentID := trimSpace parentID
  if parentID = "" then t.rootNodes
  else if parentID = t.orphanTopicsFolder.id then t.orphanTopics
  else if parentID = t.orphanSectionsFolder.id then t.orphanSections
  else
    match t.lookup.lookup parentID with
    | some parent => t.linkedNodes parent.kind parentID
    | none => []

end SubjectTaxonomy

def DashboardNode.breadcrumb (node : DashboardNode) : Breadcrumb := ⟨node.id, node.label, node.kind⟩

/-- From a node to its ancestors. -/
def parentChain (lookup : GoMap DashboardNode) : ℕ → String → Option (List Breadcrumb)
  | 0, _ => none
  | fuel + 1, currentID =>
    if currentID = "" then some []
    else
      match lookup.lookup currentID with
      | none => some []
      | some node => (parentChain lookup fuel node.parentID).map (fun chain => node.breadcrumb :: chain)

def buildBreadcrumbs (fuel : ℕ) (parentID : String) (lookup : GoMap DashboardNode) : Option (List Breadcrumb) :=
  (parentChain lookup fuel parentID).map List.reverse

/-! ## Resources -/

def resourceMatchesParent (resource : ResourceDetail) (parentID : String) : Bool :=
  let parentID := trimSpace parentID
  if parentID = "" then
    trimSpace resource.categoryID = "" && trimSpace resource.sectionID = "" &&
      trimSpace resource.bookSeriesID = "" && trimSpace resource.topicID = ""
  else
    resource.categoryID = parentID || resource.sectionID = parentID || resource.bookSeriesID = parentID ||
      resource.topicID = parentID

def ResourceDetail.resourceType (resource : ResourceDetail) : String :=
  if trimSpace resource.categoryID = "" then resource.selectedFileType.text else trimSpace resource.categoryID

/-- The label of a lesson, when it has a title. -/
def lessonLabel (item : ResourceItem) (untitled : String) : String :=
  if trimSpace item.lessonTitle ≠ "" then trimSpace item.lessonTitle
  else if trimSpace item.unitTitle ≠ "" then trimSpace item.unitTitle
  else untitled

/-- The nodes of a resource: itself, or one for each of its items. -/
def resourceNodes (subjectID parentID : String) (resource : ResourceDetail) : List DashboardNode :=
  let node (id label : String) (kind : DashboardNodeKind) (description : String) : DashboardNode :=
    { id := id
      label := label
      kind := kind
      parentID := parentID
      subjectID := subjectID
      description := description
      resourceID := resource.id
      resourceType := resource.resourceType
      thumbnailURL := trimSpace resource.thumbnailURL
      fileTypeBadge := trimSpace resource.fileTypeBadge
      updatedAt := some resource.updatedAt }
  if resource.items = [] then [node resource.id resource.title .resource resource.subtitle]
  else resource.items.map (fun item =>
    node item.id (lessonLabel item resource.title) .lesson (trimSpace item.unitTitle))

def resourceLeaves (resource : ResourceDetail) : List DashboardLeaf :=
  let leaf (id label : String) (kind : DashboardNodeKind) : DashboardLeaf :=
    { id := id, label := label, kind := kind, resourceID := resource.id, resourceType := resource.resourceType }
  if resource.items = [] then [leaf resource.id resource.title .resource]
  else resource.items.map (fun item =>
    leaf item.id (lessonLabel item (resource.title ++ " - bài " ++ toString item.sortOrder)) .lesson)

/-- The ids of a resource's lessons, or its own. -/
def ResourceDetail.lessonIDs (resource : ResourceDetail) : List String :=
  if resource.items = [] then [resource.id] else resource.items.map ResourceItem.id

/-- The first leaf of each id. -/
def dedupeLeaves : List DashboardLeaf → List DashboardLeaf :=
  go []
where
  go (seen : List String) : List DashboardLeaf → List DashboardLeaf
    | [] => []
    | leaf :: leaves => if leaf.id ∈ seen then go seen leaves else leaf :: go (leaf.id :: seen) leaves

def DashboardNode.leaf (node : DashboardNode) : DashboardLeaf where
  id := node.id
  label := node.label
  kind := node.kind
  resourceID := node.resourceID
  resourceType := node.resourceType

namespace Dashboard

def resourcesForSubject (d : Dashboard) (subjectID : String) : List ResourceDetail :=
  let listed := d.repo.bind (fun repo => (repo.listResources subjectID).map (fun resources =>
    resources.map (fun resource =>
      if resource.items = [] then { resource with items := repo.listResourceItems resource.id } else resource)))
  listed.getD (
    ((d.memory.resources.pairs.map Prod.snd).filter (fun resource => resource.subjectID = subjectID)).map
      (fun resource => { resource with items := (d.memory.items.lookup resource.id).getD [] }))

def resourceChildren (d : Dashboard) (subjectID parentID : String) : List DashboardNode :=
  sortSliceStable (fun a b => a.label < b.label)
    (((d.resourcesForSubject subjectID).filter (fun resource => resourceMatchesParent resource parentID)).flatMap
      (resourceNodes subjectID parentID))

/-! ## Progress -/

def progressEventsForScope (d : Dashboard) (schoolID academicYear subjectID : String) : List TeacherProgressEvent :=
  let schoolID := trimSpace schoolID
  let academicYear := trimSpace academicYear
  let subjectID := trimSpace subjectID
  let listed := d.repo.bind (fun repo => repo.listProgressEvents schoolID academicYear subjectID)
  listed.getD (d.memory.progressEvents.filter (fun event =>
    (schoolID = "" || event.schoolID = schoolID) && (academicYear = "" || event.academicYear = academicYear) &&
      (subjectID = "" || event.subjectID = subjectID)))

def teachingStatus (eventType : String) : TeachingStatus :=
  if eventType = "complete" || eventType = "mark_taught" then ⟨"taught", 100⟩
  else if eventType = "start_teaching" then ⟨"in_progress", 50⟩
  else ⟨"pending", 0⟩

/-- The latest event of each node that is not an opening. -/
def latestEvents (events : List TeacherProgressEvent) : GoMap TeacherProgressEvent :=
  events.foldl (fun latest event =>
    if event.eventType = "open" then latest
    else if (latest.lookup event.nodeID).all (fun current => current.occurredAt < event.occurredAt) then
      latest.insert event.nodeID event
    else latest) ∅

def statusByLeaf (d : Dashboard) (subjectID schoolID academicYear : String) : GoMap TeachingStatus :=
  GoMap.setAll ∅ ((latestEvents (d.progressEventsForScope schoolID academicYear subjectID)).pairs.map
    (fun (nodeID, event) => (nodeID, teachingStatus event.eventType)))

def summarizeLeafStatuses (leaves : List DashboardLeaf) (statusByLeaf : GoMap TeachingStatus) : ProgressSummary :=
  if leaves = [] then {}
  else
    let statuses := leaves.map (fun leaf => (statusByLeaf.lookup leaf.id).getD ⟨"pending", 0⟩)
    { progressRate := statuses.foldl (fun sum status => sum + status.percent) 0 / Float64.ofLen leaves.length
      taughtCount := statuses.countP (fun status => status.status = "taught")
      totalCount := leaves.length
      pendingCount := statuses.countP (fun status => status.status ≠ "taught") }

def latestOpenForNode (events : List TeacherProgressEvent) (nodeID : String) : Option Time :=
  events.foldl (fun latest event =>
    if event.nodeID ≠ nodeID || event.eventType ≠ "open" then latest
    else if latest.all (fun time => time < event.occurredAt) then some event.occurredAt
    else latest) none

def lookupSubjectLabel (d : Dashboard) (subjectID : String) : String :=
  ((d.memory.subjects.find? (fun subject => subject.id = subjectID || subject.slug = subjectID)).map
    TaxonomyOption.label).getD ""

/-! ## The walks -/

variable [Library]

def taxonomyChildren (fuel : ℕ) (t : SubjectTaxonomy) (parentID : String) :
    Option (List DashboardNode × List Breadcrumb) :=
  if trimSpace parentID = "" || (t.lookup.lookup (trimSpace parentID)).isNone then some (t.childNodes parentID, [])
  else (buildBreadcrumbs fuel (trimSpace parentID) t.lookup).map (fun chain => (t.childNodes parentID, chain))

def dashboardChildren (fuel : ℕ) (d : Dashboard) (subjectID parentID : String) :
    Option (List DashboardNode × List Breadcrumb) :=
  (taxonomyChildren fuel (d.memory.subjectTaxonomy subjectID) (trimSpace parentID)).map (fun (nodes, chain) =>
    if nodes ≠ [] then (nodes, chain) else (d.resourceChildren subjectID (trimSpace parentID), chain))

def nodeHasChildren (fuel : ℕ) (d : Dashboard) (subjectID nodeID : String) : Option Bool :=
  (dashboardChildren fuel d subjectID nodeID).map (fun children => children.1 ≠ [])

/-- The queue loop of `lookupNodeMeta`. -/
def searchNode (d : Dashboard) (subjectID nodeID : String) : ℕ → List DashboardNode → Option (Option DashboardNode) :=
  Traversal.search (fun fuel current => (dashboardChildren fuel d subjectID current.id).map Prod.fst)
    (fun current => current.id = nodeID)

/-- The breadcrumbs returned with the node are empty. -/
def lookupNodeMeta (fuel : ℕ) (d : Dashboard) (subjectID nodeID : String) : Option (Option DashboardNode) :=
  (dashboardChildren fuel d subjectID "").bind (fun children =>
    match children.1.find? (fun child => child.id = nodeID) with
    | some child => some (some child)
    | none => searchNode d subjectID nodeID fuel children.1)

def collectLeaves (d : Dashboard) : ℕ → String → String → Option (List DashboardLeaf)
  | 0, _, _ => none
  | fuel + 1, subjectID, nodeID => do
    let subjectID := trimSpace subjectID
    let nodeID := trimSpace nodeID
    if subjectID = "" then some []
    else if nodeID = "" then
      let children ← dashboardChildren fuel d subjectID ""
      let leaves ← children.1.mapM (fun child => collectLeaves d fuel subjectID child.id)
      if leaves.flatten = [] then some (dedupeLeaves ((d.resourcesForSubject subjectID).flatMap resourceLeaves))
      else some (dedupeLeaves leaves.flatten)
    else
      let children ← dashboardChildren fuel d subjectID nodeID
      if children.1 = [] then
        let found ← lookupNodeMeta fuel d subjectID nodeID
        some ((found.toList.filter (fun node => node.kind ∈ [.lesson, .resource, .sectionNode])).map DashboardNode.leaf)
      else
        let leaves ← children.1.mapM (fun child =>
          if child.kind = .lesson || child.kind = .resource then some [child.leaf]
          else collectLeaves d fuel subjectID child.id)
        some (dedupeLeaves leaves.flatten)

def progressSummaryForNode (fuel : ℕ) (d : Dashboard) (subjectID nodeID schoolID academicYear : String) :
    Option ProgressSummary :=
  (collectLeaves d fuel subjectID nodeID).map (fun leaves =>
    summarizeLeafStatuses leaves (d.statusByLeaf subjectID schoolID academicYear))

def subjectTree (fuel : ℕ) (d : Dashboard) (subjectID schoolID academicYear parentID : String) :
    Option (Except HoclieuError SubjectTree) := do
  let subjectID := trimSpace subjectID
  if subjectID = "" then some (.error .invalidRequest)
  else
    let label := d.lookupSubjectLabel subjectID
    let subjectLabel := if label = "" then subjectID else label
    let children ← dashboardChildren fuel d subjectID parentID
    let events := d.progressEventsForScope schoolID academicYear subjectID
    let childNodes ← children.1.mapM (fun child => do
      let summary ← progressSummaryForNode fuel d subjectID child.id schoolID academicYear
      let hasChildren ← nodeHasChildren fuel d subjectID child.id
      some { node := child
             subjectLabel := subjectLabel
             hasChildren := hasChildren
             progress := summary
             lastOpenedAt := latestOpenForNode events child.id : TreeNode })
    let summary ← progressSummaryForNode fuel d subjectID parentID schoolID academicYear
    some (.ok { subjectID := subjectID
                subjectLabel := subjectLabel
                schoolID := trimSpace schoolID
                academicYear := trimSpace academicYear
                parentID := trimSpace parentID
                breadcrumbs := children.2
                children := childNodes
                progress := summary })

def progressItem (statusByLeaf : GoMap TeachingStatus) (leaf : DashboardLeaf) : ProgressDetailItem :=
  let status := (statusByLeaf.lookup leaf.id).getD ⟨"", 0⟩
  let status := if status.status = "" then ⟨"pending", 0⟩ else status
  { id := leaf.id, label := leaf.label, kind := leaf.kind, status := status.status, progressRate := status.percent }

def progress (fuel : ℕ) (d : Dashboard) (subjectID nodeID schoolID academicYear : String) :
    Option (Except HoclieuError ProgressResponse) := do
  let subjectID := trimSpace subjectID
  if subjectID = "" then some (.error .invalidRequest)
  else
    let leaves ← collectLeaves d fuel subjectID nodeID
    let statuses := d.statusByLeaf subjectID schoolID academicYear
    some (.ok { subjectID := subjectID
                nodeID := trimSpace nodeID
                schoolID := trimSpace schoolID
                academicYear := trimSpace academicYear
                summary := summarizeLeafStatuses leaves statuses
                items := sortSliceStable (fun a b => a.label < b.label) (leaves.map (progressItem statuses)) })

end Dashboard

end ErgGo.Hoclieu
