import ErgGo.Lib.Xml

/-!
# Sitemap indexes

An index with the text `xmlns=` in it is searched for its locations as text, any other is decoded. The
search sees the locations as they are written, and sees none within a tag that is written otherwise.
-/

namespace ErgGo.Sitemaps
open Go Xml

/-! ## The two parsers -/

/-- The location in a part of the text. -/
def partLoc (part : List Char) : Option String := do
  let (_, rest) ← cutText "<loc>".toList part
  let (loc, _) ← cutText "</loc>".toList rest
  let loc := trimSpace (String.ofList loc)
  if loc = "" then none else some loc

def parseSitemapIndexNS (content : String) : List String :=
  ((splitText "<sitemap>".toList content.toList).drop 1).filterMap partLoc

/-- The `Loc` of a `sitemapRefXML`: the last element of this name sets it. -/
def sitemapLoc (sitemap : Node) : String :=
  String.ofList (((sitemap.children.filter (Node.named "loc".toList)).getLast?.map
    fun loc => charData loc.children).getD [])

/-- `xml.Unmarshal` of a document into a `sitemapIndexXML`. -/
def unmarshalIndex (doc : Document) : Except String (List String) :=
  match doc.root.elementName with
  | none => .error "EOF"
  | some name =>
    if name = "sitemapindex".toList then
      .ok ((doc.root.children.filter (Node.named "sitemap".toList)).map sitemapLoc)
    else .error ("expected element type <sitemapindex> but have <" ++ String.ofList name ++ ">")

/-- The children that are added to the sitemap. -/
def parseSitemapIndex (doc : Document) : Except String (List String) :=
  if contains doc.text "xmlns=" then .ok (parseSitemapIndexNS doc.text)
  else (unmarshalIndex doc).mapError ("sitemap: unmarshal sitemapindex: " ++ ·)

/-! ## Index documents -/

/-- An entry with its one location, and what stands between it and the next. -/
structure Entry where
  tag : StartTag
  before : List Node := []
  locTag : StartTag
  content : List Node
  locEnding : List Char := []
  after : List Node := []
  ending : List Char := []
  following : List Node := []
  isSitemap : localName tag.name = "sitemap".toList
  isLoc : localName locTag.name = "loc".toList
  onlyLoc : ∀ node ∈ before ++ after, node.named "loc".toList = false
  noElements : ∀ node ∈ content, node.elementName = none
  noSitemaps : ∀ node ∈ following, node.named "sitemap".toList = false

namespace Entry

def loc (e : Entry) : Node := .element e.locTag e.content e.locEnding

def node (e : Entry) : Node := .element e.tag (e.before ++ e.loc :: e.after) e.ending

def location (e : Entry) : String := String.ofList (charData e.content)

end Entry

structure SitemapIndex where
  prolog : List Node := []
  tag : StartTag
  preceding : List Node := []
  entries : List Entry
  ending : List Char := []
  epilog : List Node := []
  isIndex : localName tag.name = "sitemapindex".toList
  noSitemaps : ∀ node ∈ preceding, node.named "sitemap".toList = false

namespace SitemapIndex

def document (d : SitemapIndex) : Document where
  prolog := d.prolog
  root := .element d.tag (d.preceding ++ d.entries.flatMap (fun e => e.node :: e.following)) d.ending
  epilog := d.epilog

/-- Every location of the document, once and in order. -/
def locations (d : SitemapIndex) : List String := d.entries.map Entry.location

/-- What stands in the document besides the index, its entries and their locations. -/
def others (d : SitemapIndex) : List Node :=
  d.prolog ++ d.preceding ++ d.epilog ++ d.entries.flatMap fun e => e.before ++ e.content ++ e.after ++ e.following

end SitemapIndex

/-- The two parsers agree where both accept the document, and parsing it returns all locations. -/
def Agree (d : SitemapIndex) : Prop :=
  (∀ locs, unmarshalIndex d.document = .ok locs → parseSitemapIndexNS d.document.text = locs) ∧
    parseSitemapIndex d.document = .ok d.locations

/-- What the search looks for. -/
def searched : List (List Char) := ["sitemap".toList, "loc".toList, "/loc".toList]

/-- None of the texts that are searched for is in the node. -/
def Quiet (node : Node) : Prop := ∀ token ∈ node.tokens, ∀ label ∈ searched, ¬mark label <:+: token

/-- The tags are written with their names alone, and the location as it is read. -/
structure Entry.Plain (e : Entry) : Prop where
  tag : e.tag = ⟨"sitemap".toList, [], []⟩
  locTag : e.locTag = ⟨"loc".toList, [], []⟩
  locEnding : e.locEnding = []
  content : Verbatim e.content

/-! ## The decoder -/

lemma filter_named_eq_nil {name : List Char} {nodes : List Node} (h : ∀ node ∈ nodes, node.named name = false) :
    nodes.filter (Node.named name) = [] :=
  List.filter_eq_nil_iff.mpr fun node hnode => Bool.eq_false_iff.mp (h node hnode)

lemma sitemapLoc_entry (e : Entry) : sitemapLoc e.node = e.location := by
  have hloc : e.loc.named "loc".toList := decide_eq_true (congrArg some e.isLoc)
  have hchildren : e.node.children = e.before ++ e.loc :: e.after := rfl
  rw [sitemapLoc, hchildren, List.filter_append, List.filter_cons_of_pos hloc,
    filter_named_eq_nil fun node h => e.onlyLoc node (List.mem_append_left _ h),
    filter_named_eq_nil fun node h => e.onlyLoc node (List.mem_append_right _ h)]
  rfl

lemma sitemaps_entries (entries : List Entry) :
    ((entries.flatMap fun e => e.node :: e.following).filter (Node.named "sitemap".toList)).map sitemapLoc =
      entries.map Entry.location := by
  induction entries with
  | nil => rfl
  | cons e entries ih =>
    have hentry : e.node.named "sitemap".toList := decide_eq_true (congrArg some e.isSitemap)
    rw [List.flatMap_cons, List.cons_append, List.filter_cons_of_pos hentry, List.filter_append,
      filter_named_eq_nil e.noSitemaps, List.nil_append, List.map_cons, ih, sitemapLoc_entry, List.map_cons]

lemma unmarshalIndex_document (d : SitemapIndex) : unmarshalIndex d.document = .ok d.locations := by
  have hroot : d.document.root.elementName = some (localName d.tag.name) := rfl
  have hchildren : d.document.root.children = d.preceding ++ d.entries.flatMap fun e => e.node :: e.following := rfl
  rw [unmarshalIndex, hroot]
  dsimp only
  rw [if_pos d.isIndex, hchildren, List.filter_append, filter_named_eq_nil d.noSitemaps, List.nil_append,
    sitemaps_entries]
  rfl

/-- The document is parsed right just where the search finds the locations. -/
lemma agree_iff (d : SitemapIndex) : Agree d ↔ parseSitemapIndexNS d.document.text = d.locations := by
  have hunmarshal := unmarshalIndex_document d
  constructor
  · exact fun h => h.1 d.locations hunmarshal
  · intro h
    refine ⟨fun locs hlocs => ?_, ?_⟩
    · obtain rfl := Except.ok.inj (hunmarshal.symm.trans hlocs)
      exact h
    · unfold parseSitemapIndex
      split
      · rw [h]
      · rw [hunmarshal]
        rfl

/-! ## The tokens of a document -/

/-- No token holds the mark. -/
def Free (label : List Char) (tokens : List (List Char)) : Prop :=
  ∀ token ∈ tokens, Closed '<' '>' token ∧ ¬mark label <:+: token

lemma isName_of_wellFormed {tag : StartTag} (h : tag.wellFormed) : isName tag.name := by
  simp only [StartTag.wellFormed, Bool.and_eq_true] at h
  exact h.1.1

section Marks

variable {label : List Char}

lemma Free.append {ts ts' : List (List Char)} (h : Free label ts) (h' : Free label ts') : Free label (ts ++ ts') :=
  List.forall_mem_append.mpr ⟨h, h'⟩

lemma Free.cons {token : List Char} {ts : List (List Char)} (h : Free label [token]) (h' : Free label ts) :
    Free label (token :: ts) :=
  h.append h'

lemma Free.notMem {ts : List (List Char)} (h : Free label ts) : mark label ∉ ts :=
  fun hmem => (h _ hmem).2 (List.infix_refl _)

lemma free_nodes {nodes : List Node} (hlabel : label ∈ searched) (hwell : allWellFormed nodes)
    (hquiet : ∀ node ∈ nodes, Quiet node) : Free label (tokens nodes) := by
  intro token htoken
  obtain ⟨node, hnode, hmem⟩ := mem_tokens htoken
  exact ⟨closed_tokens nodes hwell token htoken, hquiet node hnode token hmem label hlabel⟩

lemma searched_labels (hlabel : label ∈ searched) : label.all labelChar ∧ localName label = label := by
  revert label
  decide

/-- A start tag holds no mark but that of its own name, and holds this as a whole. -/
lemma startTag_of_mark {tag : StartTag} (hwell : tag.wellFormed) (hlabel : label ∈ searched)
    (h : mark label <:+: tag.text) : tag = ⟨label, [], []⟩ ∧ localName tag.name = label := by
  obtain ⟨hchars, hlocal⟩ := searched_labels hlabel
  obtain rfl := StartTag.eq_of_mark hwell hchars h
  exact ⟨rfl, hlocal⟩

lemma free_startTag {tag : StartTag} (hwell : tag.wellFormed) (hlabel : label ∈ searched)
    (h : tag = ⟨label, [], []⟩ → localName tag.name ≠ label) : Free label [tag.text] := by
  intro token htoken
  rw [List.mem_singleton.mp htoken]
  refine ⟨closed_append rfl, fun hmark => ?_⟩
  obtain ⟨htag, hlocal⟩ := startTag_of_mark hwell hlabel hmark
  exact h htag hlocal

/-- An end tag holds no mark but that of the end of a location. -/
lemma endTag_mark {name ending : List Char} (hname : isName name) (hending : ending.all isBlank)
    (hlabel : label ∈ searched) (h : mark label <:+: endTag name ending) :
    label = "/loc".toList ∧ name = "loc".toList ∧ ending = [] := by
  obtain ⟨hslash, hnone⟩ := endTag_of_mark hname hending (searched_labels hlabel).1 h
  subst hslash
  have hloc : ∀ label ∈ searched, label.head? = some '/' → label = "/loc".toList := by decide
  have hlabel := hloc _ hlabel rfl
  exact ⟨hlabel, (List.cons.inj hlabel).2, hnone⟩

lemma free_endTag {name ending : List Char} (hname : isName name) (hending : ending.all isBlank)
    (hlabel : label ∈ searched) (h : label = "/loc".toList → name = "loc".toList → ending ≠ []) :
    Free label [endTag name ending] := by
  intro token htoken
  rw [List.mem_singleton.mp htoken]
  refine ⟨closed_append rfl, fun hmark => ?_⟩
  obtain ⟨rfl, hloc, hnone⟩ := endTag_mark hname hending hlabel hmark
  exact h rfl hloc hnone

end Marks

section Parts

variable {part before rest content after : List Char}

lemma partLoc_eq (hstart : cutText "<loc>".toList part = some (before, rest))
    (hend : cutText "</loc>".toList rest = some (content, after)) :
    partLoc part = if trimSpace (String.ofList content) = "" then none
      else some (trimSpace (String.ofList content)) := by
  rw [partLoc, hstart, Option.bind_eq_bind, Option.bind_some]
  dsimp only
  rw [hend]
  rfl

lemma partLoc_without_end (hstart : cutText "<loc>".toList part = some (before, rest))
    (hend : cutText "</loc>".toList rest = none) : partLoc part = none := by
  rw [partLoc, hstart, Option.bind_eq_bind, Option.bind_some]
  dsimp only
  rw [hend]
  rfl

lemma partLoc_without_start (hstart : cutText "<loc>".toList part = none) : partLoc part = none := by
  rw [partLoc, hstart]
  rfl

lemma trimmed_iff {s : String} {location : List Char} :
    (if s = "" then none else some s) = some (String.ofList location) ↔ s = String.ofList location ∧ location ≠ [] := by
  have hempty : String.ofList location = "" ↔ location = [] := String.ofList_eq_empty_iff
  split
  · next hblank =>
    rw [hblank]
    exact iff_of_false (fun hsome => by cases hsome) fun ⟨hread, hne⟩ => hne (hempty.mp hread.symm)
  · next hblank =>
    rw [Option.some.injEq]
    exact ⟨fun hread => ⟨hread, fun hnone => hblank (hread.trans (hempty.mpr hnone))⟩, fun h => h.1⟩

end Parts

namespace Entry

/-- The tokens of an entry after its tag, and of what follows it. -/
def inner (e : Entry) : List (List Char) :=
  tokens e.before ++ e.locTag.text :: (tokens e.content ++ endTag e.locTag.name e.locEnding ::
    (tokens e.after ++ endTag e.tag.name e.ending :: tokens e.following))

lemma tokens_node (e : Entry) : tokens (e.node :: e.following) = e.tag.text :: e.inner := by
  simp only [tokens, node, loc, inner, Node.tokens, tokens_append, List.cons_append, List.append_assoc, List.nil_append]

/-- What a well-formed document, in which only its tags have the marks, says of an entry. -/
structure Regular (e : Entry) : Prop where
  tag : e.tag.wellFormed
  locTag : e.locTag.wellFormed
  ending : e.ending.all isBlank
  locEnding : e.locEnding.all isBlank
  before : ∀ label ∈ searched, Free label (tokens e.before)
  content : ∀ label ∈ searched, Free label (tokens e.content)
  after : ∀ label ∈ searched, Free label (tokens e.after)
  following : ∀ label ∈ searched, Free label (tokens e.following)

variable {e : Entry}

/-- The tag of the location apart, the rest of an entry holds no mark. -/
lemma Regular.afterContent (h : e.Regular) {label : List Char} (hlabel : label ∈ searched)
    (hending : label = "/loc".toList → e.locTag.name = "loc".toList → e.locEnding ≠ []) :
    Free label (tokens e.content ++ endTag e.locTag.name e.locEnding ::
      (tokens e.after ++ endTag e.tag.name e.ending :: tokens e.following)) := by
  have hsitemap : e.tag.name ≠ "loc".toList := fun hname => by
    have hlocal := e.isSitemap
    rw [hname] at hlocal
    exact absurd hlocal (by decide)
  exact (h.content label hlabel).append (.cons (free_endTag (isName_of_wellFormed h.locTag) h.locEnding hlabel hending)
    ((h.after label hlabel).append (.cons (free_endTag (isName_of_wellFormed h.tag) h.ending hlabel
      fun _ hname => absurd hname hsitemap) (h.following label hlabel))))

lemma Regular.inner (h : e.Regular) {label : List Char} (hlabel : label ∈ searched)
    (hloc : e.locTag = ⟨label, [], []⟩ → label ≠ "loc".toList)
    (hending : label = "/loc".toList → e.locTag.name = "loc".toList → e.locEnding ≠ []) : Free label e.inner := by
  refine (h.before label hlabel).append (.cons (free_startTag h.locTag hlabel fun htag hlocal => ?_)
    (h.afterContent hlabel hending))
  exact hloc htag (hlocal.symm.trans e.isLoc)

/-- The search finds the location of an entry just where it is plain. -/
lemma partLoc_iff (h : e.Regular) {junk : List (List Char)} (hjunk : ∀ label ∈ searched, Free label junk) :
    partLoc (e.inner ++ junk).flatten = some e.location ↔
      e.locTag = ⟨"loc".toList, [], []⟩ ∧ e.locEnding = [] ∧ Verbatim e.content := by
  have hloc : "loc".toList ∈ searched := by decide
  have hend : "/loc".toList ∈ searched := by decide
  by_cases htag : e.locTag = ⟨"loc".toList, [], []⟩
  · have hcut : cutText "<loc>".toList (e.inner ++ junk).flatten = some ((tokens e.before).flatten,
        (tokens e.content ++ endTag e.locTag.name e.locEnding ::
          (tokens e.after ++ endTag e.tag.name e.ending :: (tokens e.following ++ junk))).flatten) := by
      have htext : e.locTag.text = "<loc>".toList := by rw [htag]; rfl
      rw [Entry.inner, htext]
      simp only [List.append_assoc, List.cons_append]
      exact cutText_eq_some (bracketed_mark (searched_labels hloc).1) (h.before _ hloc) _
    by_cases hending : e.locEnding = []
    · have htext : endTag e.locTag.name e.locEnding = "</loc>".toList := by rw [htag, hending]; rfl
      have hcontent : cutText "</loc>".toList (tokens e.content ++ endTag e.locTag.name e.locEnding ::
          (tokens e.after ++ endTag e.tag.name e.ending :: (tokens e.following ++ junk))).flatten =
          some (textOf e.content,
            (tokens e.after ++ endTag e.tag.name e.ending :: (tokens e.following ++ junk)).flatten) := by
        rw [htext]
        exact cutText_eq_some (bracketed_mark (searched_labels hend).1) (h.content _ hend) _
      rw [partLoc_eq hcut hcontent, location, trimmed_iff, verbatim_iff]
      exact ⟨fun hread => ⟨htag, hending, hread⟩, fun hplain => hplain.2.2⟩
    · have hnone : cutText "</loc>".toList (tokens e.content ++ endTag e.locTag.name e.locEnding ::
          (tokens e.after ++ endTag e.tag.name e.ending :: (tokens e.following ++ junk))).flatten = none := by
        have hfree := (h.afterContent hend fun _ _ => hending).append (hjunk _ hend)
        simp only [List.append_assoc, List.cons_append] at hfree
        exact cutText_eq_none (bracketed_mark (searched_labels hend).1) hfree
      rw [partLoc_without_end hcut hnone]
      exact iff_of_false (fun hsome => by cases hsome) fun hplain => hending hplain.2.1
  · have hcut : cutText "<loc>".toList (e.inner ++ junk).flatten = none := by
      refine cutText_eq_none (bracketed_mark (searched_labels hloc).1) ((h.inner hloc (fun htag' => ?_) ?_).append
        (hjunk _ hloc))
      · exact absurd htag' htag
      · exact fun hlabel => absurd hlabel (by decide)
    rw [partLoc_without_start hcut]
    exact iff_of_false (fun hnone => by cases hnone) fun hplain => htag hplain.1

end Entry

/-! ## The parts of a document -/

lemma splitOn_append_of_notMem {α : Type} [BEq α] [LawfulBEq α] {sep : α} {before after first : List α}
    (h : sep ∉ before) {rest : List (List α)} (hsplit : after.splitOn sep = first :: rest) :
    (before ++ after).splitOn sep = (before ++ first) :: rest := by
  induction before with
  | nil => exact hsplit
  | cons a before ih =>
    obtain ⟨hne, hbefore⟩ := not_or.mp (List.mem_cons.not.mp h)
    rw [List.cons_append, List.splitOn_cons_eq_if_modifyHead, if_neg (by simpa using Ne.symm hne), ih hbefore]
    rfl

/-- The entries found part by part. -/
lemma filterMap_eq_map_iff {α β γ : Type} {f : β → Option γ} {g : α → γ} {l : List α} {m : List β}
    (hlength : m.length ≤ l.length) : m.filterMap f = l.map g ↔ List.Forall₂ (fun a b => f b = some (g a)) l m := by
  refine ⟨fun h => ?_, fun h => ?_⟩
  · induction l generalizing m with
    | nil =>
      rw [List.eq_nil_of_length_eq_zero (Nat.le_zero.mp hlength)]
      exact .nil
    | cons a l ih =>
      cases m with
      | nil => cases h
      | cons b m =>
        have hle : m.length ≤ l.length := Nat.le_of_succ_le_succ hlength
        cases hb : f b with
        | none =>
          rw [List.filterMap_cons_none hb] at h
          have hcount := congrArg List.length h
          have hfound := List.length_filterMap_le f m
          rw [List.length_map, List.length_cons] at hcount
          omega
        | some c =>
          rw [List.filterMap_cons_some hb, List.map_cons, List.cons.injEq] at h
          obtain ⟨rfl, hrest⟩ := h
          exact .cons hb (ih hle hrest)
  · induction h with
    | nil => rfl
    | cons hb _ ih => rw [List.filterMap_cons_some hb, List.map_cons, ih (Nat.le_of_succ_le_succ hlength)]

/-- The tag is written with its name alone. -/
def Entry.bare (e : Entry) : Bool := e.tag.text = mark "sitemap".toList

/-- An entry and the part that begins with it, up to the next mark. -/
def PartOf (e : Entry) (part : List (List Char)) : Prop :=
  ∃ junk, (∀ label ∈ searched, Free label junk) ∧ part = e.inner ++ junk

lemma Entry.bare_iff {e : Entry} (h : e.Regular) : e.bare ↔ e.tag = ⟨"sitemap".toList, [], []⟩ := by
  rw [Entry.bare, decide_eq_true_eq]
  refine ⟨fun htext => ?_, fun htag => by rw [htag]; rfl⟩
  exact (startTag_of_mark h.tag (by decide) (htext ▸ List.infix_refl _)).1

/-- The parts of a document: one for each entry whose tag is bare. -/
lemma splitOn_entries {entries : List Entry} (h : ∀ e ∈ entries, e.Regular) {tail : List (List Char)}
    (htail : ∀ label ∈ searched, Free label tail) :
    ∃ first rest,
      ((entries.flatMap fun e => e.tag.text :: e.inner) ++ tail).splitOn (mark "sitemap".toList) = first :: rest ∧
      rest.length = entries.countP Entry.bare ∧
      ((∀ e ∈ entries, e.bare) → (∀ label ∈ searched, Free label first) ∧ List.Forall₂ PartOf entries rest) := by
  have hsitemap : "sitemap".toList ∈ searched := by decide
  induction entries with
  | nil =>
    refine ⟨tail, [], ?_, rfl, fun _ => ⟨htail, .nil⟩⟩
    exact List.splitOn_eq_singleton (htail _ hsitemap).notMem
  | cons e entries ih =>
    obtain ⟨hregular, hentries⟩ := List.forall_mem_cons.mp h
    obtain ⟨first, rest, hsplit, hlength, hparts⟩ := ih hentries
    have hinner : mark "sitemap".toList ∉ e.inner := by
      refine (hregular.inner hsitemap (fun _ => by decide) ?_).notMem
      exact fun hlabel => absurd hlabel (by decide)
    have hinside := splitOn_append_of_notMem hinner hsplit
    rw [List.flatMap_cons, List.append_assoc, List.cons_append]
    by_cases hbare : e.bare
    · refine ⟨[], (e.inner ++ first) :: rest, ?_, ?_, fun hall => ?_⟩
      · rw [of_decide_eq_true hbare]
        exact (List.splitOn_append_cons_self_of_not_mem List.not_mem_nil _).trans (congrArg ([] :: ·) hinside)
      · rw [List.countP_cons_of_pos hbare, List.length_cons, hlength]
      · obtain ⟨hfirst, hrest⟩ := hparts (List.forall_mem_cons.mp hall).2
        exact ⟨fun _ _ => fun _ h => absurd h List.not_mem_nil, .cons ⟨first, hfirst, rfl⟩ hrest⟩
    · refine ⟨e.tag.text :: (e.inner ++ first), rest, ?_, ?_, fun hall => ?_⟩
      · refine splitOn_append_of_notMem (?_ : _ ∉ [e.tag.text]) hinside
        exact fun hmem => hbare (decide_eq_true (List.mem_singleton.mp hmem).symm)
      · rw [List.countP_cons_of_neg hbare, hlength]
      · exact absurd (hall e List.mem_cons_self) hbare

/-! ## Documents -/

section Documents

variable {d : SitemapIndex}

/-- What follows the last entry. -/
def SitemapIndex.tail (d : SitemapIndex) : List (List Char) := endTag d.tag.name d.ending :: tokens d.epilog

lemma tokens_document (d : SitemapIndex) : d.document.tokens = tokens d.prolog ++ d.tag.text :: tokens d.preceding ++
    (d.entries.flatMap (fun e => e.tag.text :: e.inner) ++ d.tail) := by
  have hentries : (d.entries.flatMap fun e => tokens (e.node :: e.following)) =
      d.entries.flatMap fun e => e.tag.text :: e.inner := List.flatMap_congr fun e _ => e.tokens_node
  rw [Document.tokens, SitemapIndex.document, Node.tokens, tokens_append, tokens_flatMap, hentries, SitemapIndex.tail]
  simp only [List.append_assoc, List.cons_append, List.nil_append]

/-- The parts of a well-formed index in which only its tags have the marks. -/
structure SitemapIndex.Regular (d : SitemapIndex) : Prop where
  tag : d.tag.wellFormed
  ending : d.ending.all isBlank
  entries : ∀ e ∈ d.entries, e.Regular
  prolog : ∀ label ∈ searched, Free label (tokens d.prolog)
  preceding : ∀ label ∈ searched, Free label (tokens d.preceding)
  epilog : ∀ label ∈ searched, Free label (tokens d.epilog)

lemma regular_of_quiet (hwell : d.document.wellFormed) (hquiet : ∀ node ∈ d.others, Quiet node) : d.Regular := by
  have hfree {nodes : List Node} (hnodes : ∀ node ∈ nodes, node.wellFormed) (hothers : nodes ⊆ d.others) :
      ∀ label ∈ searched, Free label (tokens nodes) := fun label hlabel =>
    free_nodes hlabel (allWellFormed_iff.mpr hnodes) fun node hnode => hquiet node (hothers hnode)
  simp only [SitemapIndex.document, Document.wellFormed, Node.wellFormed, Bool.and_eq_true, allWellFormed_iff] at hwell
  obtain ⟨⟨⟨-, hprolog⟩, ⟨⟨htag, hending⟩, -⟩, hchildren⟩, hepilog⟩ := hwell
  obtain ⟨hpreceding, hentries⟩ := List.forall_mem_append.mp hchildren
  refine ⟨htag, hending, fun e he => ?_, hfree hprolog ?_, hfree hpreceding ?_, hfree hepilog ?_⟩
  · have hnodes : ∀ node ∈ e.node :: e.following, node.wellFormed := fun node hnode =>
      hentries node (List.mem_flatMap.mpr ⟨e, he, hnode⟩)
    have hothers {nodes : List Node} (h : nodes ⊆ e.before ++ e.content ++ e.after ++ e.following) : nodes ⊆ d.others :=
      fun node hnode => List.mem_append_right _ (List.mem_flatMap.mpr ⟨e, he, h hnode⟩)
    obtain ⟨hnode, hfollowing⟩ := List.forall_mem_cons.mp hnodes
    simp only [Entry.node, Node.wellFormed, Bool.and_eq_true, allWellFormed_iff] at hnode
    obtain ⟨⟨⟨hsitemap, hsitemapEnding⟩, -⟩, hinside⟩ := hnode
    obtain ⟨hbefore, hrest⟩ := List.forall_mem_append.mp hinside
    obtain ⟨hloc, hafter⟩ := List.forall_mem_cons.mp hrest
    simp only [Entry.loc, Node.wellFormed, Bool.and_eq_true, allWellFormed_iff] at hloc
    obtain ⟨⟨⟨hlocTag, hlocEnding⟩, -⟩, hcontent⟩ := hloc
    refine ⟨hsitemap, hlocTag, hsitemapEnding, hlocEnding, hfree hbefore (hothers ?_), hfree hcontent (hothers ?_),
      hfree hafter (hothers ?_), hfree hfollowing (hothers ?_)⟩
    all_goals
      intro node hnode
      simp [hnode]
  all_goals
    intro node hnode
    simp [SitemapIndex.others, hnode]

lemma SitemapIndex.Regular.tail (h : d.Regular) {label : List Char} (hlabel : label ∈ searched) :
    Free label d.tail := by
  refine .cons (free_endTag (isName_of_wellFormed h.tag) h.ending hlabel fun _ hname => ?_) (h.epilog label hlabel)
  have hlocal := d.isIndex
  rw [hname] at hlocal
  exact absurd hlocal (by decide)

lemma SitemapIndex.Regular.head (h : d.Regular) {label : List Char} (hlabel : label ∈ searched) :
    Free label (tokens d.prolog ++ d.tag.text :: tokens d.preceding) := by
  refine (h.prolog label hlabel).append (.cons (free_startTag h.tag hlabel fun _ hlocal => ?_)
    (h.preceding label hlabel))
  have hindex : ∀ label ∈ searched, label ≠ "sitemapindex".toList := by decide
  exact hindex label hlabel (hlocal.symm.trans d.isIndex)

/-- The parts that the search looks at are the parts of the tokens. -/
lemma parseSitemapIndexNS_document (h : d.Regular) : parseSitemapIndexNS d.document.text =
    ((d.document.tokens.splitOn (mark "sitemap".toList)).drop 1).filterMap fun part => partLoc part.flatten := by
  have hsitemap : "sitemap".toList ∈ searched := by decide
  have hfree {ts : List (List Char)} (hts : Free "sitemap".toList ts) : ∀ token ∈ ts, Closed '<' '>' token ∧
      (mark "sitemap".toList <:+: token → token = mark "sitemap".toList) := fun token htoken =>
    ⟨(hts token htoken).1, fun hmark => absurd hmark (hts token htoken).2⟩
  have htokens : ∀ token ∈ d.document.tokens, Closed '<' '>' token ∧
      (mark "sitemap".toList <:+: token → token = mark "sitemap".toList) := by
    rw [tokens_document]
    refine List.forall_mem_append.mpr ⟨hfree (h.head hsitemap), ?_⟩
    refine List.forall_mem_append.mpr ⟨?_, hfree (h.tail hsitemap)⟩
    intro token htoken
    obtain ⟨e, he, htoken⟩ := List.mem_flatMap.mp htoken
    have hregular := h.entries e he
    obtain rfl | htoken := List.mem_cons.mp htoken
    · refine ⟨closed_append rfl, fun hmark => ?_⟩
      rw [(startTag_of_mark hregular.tag hsitemap hmark).1]
      rfl
    · refine hfree (hregular.inner hsitemap (fun _ => by decide) ?_) token htoken
      exact fun hlabel => absurd hlabel (by decide)
  have hbracketed : Bracketed '<' '>' (mark "sitemap".toList) := bracketed_mark (searched_labels hsitemap).1
  have htext : d.document.text.toList = d.document.tokens.flatten := String.toList_ofList
  rw [parseSitemapIndexNS, htext]
  change ((splitText (mark "sitemap".toList) d.document.tokens.flatten).drop 1).filterMap partLoc = _
  rw [splitText_flatten hbracketed htokens, ← List.map_drop, List.filterMap_map]
  rfl

lemma forall₂_partLoc_iff {entries : List Entry} (h : ∀ e ∈ entries, e.Regular) {parts : List (List (List Char))}
    (hparts : List.Forall₂ PartOf entries parts) :
    List.Forall₂ (fun e part => partLoc part.flatten = some e.location) entries parts ↔
      ∀ e ∈ entries, e.locTag = ⟨"loc".toList, [], []⟩ ∧ e.locEnding = [] ∧ Verbatim e.content := by
  induction hparts with
  | nil => simp
  | @cons e part entries parts hpart hparts ih =>
    obtain ⟨hregular, hentries⟩ := List.forall_mem_cons.mp h
    obtain ⟨junk, hjunk, rfl⟩ := hpart
    rw [List.forall₂_cons, ih hentries, List.forall_mem_cons, Entry.partLoc_iff hregular hjunk]

/-- The search finds the locations just where they are written plainly. -/
lemma parseSitemapIndexNS_iff (hregular : d.Regular) :
    parseSitemapIndexNS d.document.text = d.locations ↔ ∀ e ∈ d.entries, e.Plain := by
  have hsitemap : "sitemap".toList ∈ searched := by decide
  obtain ⟨first, rest, hsplit, hlength, hparts⟩ := splitOn_entries hregular.entries fun _ => hregular.tail
  have hdocument := splitOn_append_of_notMem (hregular.head hsitemap).notMem hsplit
  rw [parseSitemapIndexNS_document hregular, tokens_document, hdocument, List.drop_succ_cons, List.drop_zero,
    SitemapIndex.locations, filterMap_eq_map_iff (hlength.trans_le List.countP_le_length)]
  have hbare : (∀ e ∈ d.entries, e.bare) ↔ ∀ e ∈ d.entries, e.tag = ⟨"sitemap".toList, [], []⟩ :=
    forall₂_congr fun e he => Entry.bare_iff (hregular.entries e he)
  constructor
  · intro hfound
    have hall : ∀ e ∈ d.entries, e.bare := List.countP_eq_length.mp (hlength.symm.trans hfound.length_eq.symm)
    have hlocs := (forall₂_partLoc_iff hregular.entries (hparts hall).2).mp hfound
    exact fun e he => ⟨hbare.mp hall e he, (hlocs e he).1, (hlocs e he).2.1, (hlocs e he).2.2⟩
  · intro hplain
    have hall := hbare.mpr fun e he => (hplain e he).tag
    exact (forall₂_partLoc_iff hregular.entries (hparts hall).2).mpr fun e he =>
      ⟨(hplain e he).locTag, (hplain e he).locEnding, (hplain e he).content⟩

/-- A well-formed index in which only its own tags look like those that are searched for is parsed right by
both parsers if and only if these are written with their names alone, and every location as it is read. -/
theorem agree_iff_plain (d : SitemapIndex) (hwell : d.document.wellFormed) (hquiet : ∀ node ∈ d.others, Quiet node) :
    Agree d ↔ ∀ e ∈ d.entries, e.Plain :=
  (agree_iff d).trans (parseSitemapIndexNS_iff (regular_of_quiet hwell hquiet))

/-- The namespace of the index is what loses its locations. -/
theorem parseSitemapIndex_iff (d : SitemapIndex) (hwell : d.document.wellFormed)
    (hquiet : ∀ node ∈ d.others, Quiet node) : parseSitemapIndex d.document = .ok d.locations ↔
      (contains d.document.text "xmlns=" → ∀ e ∈ d.entries, e.Plain) := by
  rw [← parseSitemapIndexNS_iff (regular_of_quiet hwell hquiet), parseSitemapIndex, unmarshalIndex_document]
  split
  · next hnamespace => simp [hnamespace]
  · next hplain => exact iff_of_true rfl fun hnamespace => absurd hnamespace hplain

end Documents

namespace Sample

/-- An index with this location. -/
def indexOf (content : List Node) (h : ∀ node ∈ content, node.elementName = none) : SitemapIndex where
  tag :=
    { name := "sitemapindex".toList
      attributes :=
        [{ space := [' '], name := "xmlns".toList, value := "http://www.sitemaps.org/schemas/sitemap/0.9".toList }] }
  entries :=
    [{ tag := ⟨"sitemap".toList, [], []⟩
       locTag := ⟨"loc".toList, [], []⟩
       content := content
       isSitemap := by decide
       isLoc := by decide
       onlyLoc := fun _ h => absurd h List.not_mem_nil
       noElements := h
       noSitemaps := fun _ h => absurd h List.not_mem_nil }]
  isIndex := by decide
  noSitemaps := fun _ h => absurd h List.not_mem_nil

def plainIndex : SitemapIndex := indexOf ("http://a/s?x=1".toList.map .char) (by decide)

lemma verbatim_plain : Verbatim ("http://a/s?x=1".toList.map .char) where
  plain := by decide +kernel
  nonempty := by simp
  head c hc := by
    have hhead : (textOf ("http://a/s?x=1".toList.map .char)).head? = some 'h' := by decide +kernel
    rw [hhead] at hc
    cases hc
    decide
  last c hc := by
    have hlast : (textOf ("http://a/s?x=1".toList.map .char)).getLast? = some '1' := by decide +kernel
    rw [hlast] at hc
    cases hc
    decide

/-- The ampersand of the address has to be written as a reference. -/
def queryIndex : SitemapIndex :=
  indexOf ("http://a/s?x=1".toList.map .char ++ .reference .amp :: "y=2".toList.map .char) (by decide)

end Sample

theorem plainIndex_agrees : Agree Sample.plainIndex := by
  refine (agree_iff_plain Sample.plainIndex (by decide +kernel) (by unfold Quiet; decide +kernel)).mpr ?_
  intro e he
  rw [List.mem_singleton.mp he]
  exact ⟨rfl, rfl, rfl, Sample.verbatim_plain⟩

/-- The decoder reads the reference, and the search does not. -/
theorem queryIndex_disagrees : Sample.queryIndex.document.wellFormed ∧
    parseSitemapIndex Sample.queryIndex.document = .ok ["http://a/s?x=1&amp;y=2"] ∧
    unmarshalIndex Sample.queryIndex.document = .ok ["http://a/s?x=1&y=2"] ∧ ¬Agree Sample.queryIndex := by
  have hsearched : parseSitemapIndexNS Sample.queryIndex.document.text = ["http://a/s?x=1&amp;y=2"] := by decide +kernel
  have hdecoded : Sample.queryIndex.locations = ["http://a/s?x=1&y=2"] := by decide +kernel
  refine ⟨by decide +kernel, ?_, ?_, fun h => ?_⟩
  · have hnamespace : contains Sample.queryIndex.document.text "xmlns=" := by decide +kernel
    rw [parseSitemapIndex, if_pos hnamespace, hsearched]
  · rw [unmarshalIndex_document, hdecoded]
  · rw [agree_iff, hsearched, hdecoded] at h
    exact absurd h (by decide)

end ErgGo.Sitemaps
