import ErgGo.Lib.GoRuntime
import ErgGo.Lib.TextSearch

/-!
# XML documents

A document as a tree in which everything is kept as it is written, and what a decoder makes of it:
tags are matched by local names, and the character data of an element is the text in its own content.
-/

namespace Go.Xml

/-! ## Syntax -/

def isInCharacterRange (c : Char) : Bool :=
  c.val ∈ [0x09, 0x0A, 0x0D] || (0x20 ≤ c.val && c.val ∉ [0xFFFE, 0xFFFF])

def isBlank (c : Char) : Bool := c ∈ [' ', '\t', '\r', '\n']

/-- Of ASCII these, and all else. -/
def nameChar (c : Char) : Bool := c.isAlphanum || c ∈ ['_', ':', '.', '-'] || 0x80 ≤ c.val

def isName (name : List Char) : Bool :=
  name.head?.any (fun c => !c.isDigit && c ∉ ['.', '-']) && name.all nameChar && name.count ':' ≤ 1

/-- What follows the prefix. -/
def localName (name : List Char) : List Char :=
  match name.splitOn ':' with
  | [space, tagName] => if space = [] || tagName = [] then name else tagName
  | _ => name

inductive Reference where
  | lt
  | gt
  | amp
  | apos
  | quot
  | decimal (digits : List Char)
  | hexadecimal (digits : List Char)

def digitsValue (base : ℕ) (digits : List Char) : ℕ :=
  digits.foldl (fun n c => base * n + if c.isDigit then c.toNat - 0x30 else if c.isLower then c.toNat - 0x57
    else c.toNat - 0x37) 0

namespace Reference

def text : Reference → List Char
  | lt => "&lt;".toList
  | gt => "&gt;".toList
  | amp => "&amp;".toList
  | apos => "&apos;".toList
  | quot => "&quot;".toList
  | decimal digits => "&#".toList ++ digits ++ [';']
  | hexadecimal digits => "&#x".toList ++ digits ++ [';']

def value : Reference → Char
  | lt => '<'
  | gt => '>'
  | amp => '&'
  | apos => '\''
  | quot => '"'
  | decimal digits => Char.ofNat (digitsValue 10 digits)
  | hexadecimal digits => Char.ofNat (digitsValue 16 digits)

def wellFormed (r : Reference) : Bool :=
  isInCharacterRange r.value && match r with
    | decimal digits => digits ≠ [] && digits.all Char.isDigit
    | hexadecimal digits => digits ≠ [] && digits.all (fun c => c.isDigit || c ∈ "abcdefABCDEF".toList)
    | _ => true

end Reference

/-- An attribute with the white space before it. -/
structure Attribute where
  space : List Char
  name : List Char
  left : List Char := []
  right : List Char := []
  quote : Char := '"'
  value : List Char

namespace Attribute

def text (a : Attribute) : List Char :=
  a.space ++ a.name ++ a.left ++ '=' :: a.right ++ a.quote :: a.value ++ [a.quote]

def wellFormed (a : Attribute) : Bool :=
  a.space ≠ [] && a.space.all isBlank && isName a.name && a.left.all isBlank && a.right.all isBlank &&
    a.quote ∈ ['"', '\''] && a.value.all (fun c => c ≠ '<' && c ≠ a.quote)

end Attribute

/-- A start tag up to the sign that ends it. -/
structure StartTag where
  name : List Char
  attributes : List Attribute := []
  space : List Char := []

namespace StartTag

/-- What follows the name. -/
def rest (tag : StartTag) : List Char := tag.attributes.flatMap Attribute.text ++ tag.space

def text (tag : StartTag) : List Char := '<' :: tag.name ++ tag.rest ++ ['>']

def emptyText (tag : StartTag) : List Char := '<' :: tag.name ++ tag.rest ++ ['/', '>']

def wellFormed (tag : StartTag) : Bool :=
  isName tag.name && tag.attributes.all Attribute.wellFormed && tag.space.all isBlank

end StartTag

def endTag (name space : List Char) : List Char := '<' :: '/' :: name ++ space ++ ['>']

/-- What a decoder passes over; it does not look into a directive. -/
inductive Skipped where
  | comment
  | procInst
  | directive

namespace Skipped

def text (kind : Skipped) (s : List Char) : List Char :=
  match kind with
  | comment => "<!--".toList ++ s ++ "-->".toList
  | procInst => "<?".toList ++ s ++ "?>".toList
  | directive => "<!".toList ++ s ++ ">".toList

def wellFormed (kind : Skipped) (s : List Char) : Bool :=
  match kind with
  | comment => !("--".toList <:+: s ++ ['-'])
  | procInst => !("?>".toList <:+: s)
  | directive => true

end Skipped

inductive Node where
  | char (c : Char)
  | reference (r : Reference)
  | cdata (s : List Char)
  | skipped (kind : Skipped) (s : List Char)
  | element (tag : StartTag) (children : List Node) (ending : List Char)
  | emptyElement (tag : StartTag)

/-- The characters of a run must not look like the end of a section. -/
def closesSection : List Node → Bool
  | .char ']' :: .char ']' :: .char '>' :: _ => true
  | _ :: nodes => closesSection nodes
  | [] => false

mutual

def Node.wellFormed : Node → Bool
  | .char c => isInCharacterRange c && c ≠ '<' && c ≠ '&'
  | .reference r => r.wellFormed
  | .cdata s => s.all isInCharacterRange && !("]]>".toList <:+: s)
  | .skipped kind s => kind.wellFormed s
  | .element tag children ending =>
    tag.wellFormed && ending.all isBlank && !closesSection children && allWellFormed children
  | .emptyElement tag => tag.wellFormed

def allWellFormed : List Node → Bool
  | [] => true
  | node :: nodes => node.wellFormed && allWellFormed nodes

end

mutual

/-- A node as it is written. -/
def Node.tokens : Node → List (List Char)
  | .char c => [[c]]
  | .reference r => [r.text]
  | .cdata s => ["<![CDATA[".toList ++ s ++ "]]>".toList]
  | .skipped kind s => [kind.text s]
  | .element tag children ending => tag.text :: (tokens children ++ [endTag tag.name ending])
  | .emptyElement tag => [tag.emptyText]

def tokens : List Node → List (List Char)
  | [] => []
  | node :: nodes => node.tokens ++ tokens nodes

end

/-- What may stand before and after the root. -/
def Node.isMisc : Node → Bool
  | .char c => isBlank c
  | .skipped _ _ => true
  | _ => false

structure Document where
  prolog : List Node := []
  root : Node
  epilog : List Node := []

namespace Document

def tokens (d : Document) : List (List Char) := Xml.tokens d.prolog ++ d.root.tokens ++ Xml.tokens d.epilog

def text (d : Document) : String := String.ofList d.tokens.flatten

def wellFormed (d : Document) : Bool :=
  d.prolog.all Node.isMisc && d.epilog.all Node.isMisc &&
    allWellFormed d.prolog && d.root.wellFormed && allWellFormed d.epilog

end Document

/-! ## Decoding -/

namespace Node

def children : Node → List Node
  | element _ children _ => children
  | _ => []

/-- The local name of an element. -/
def elementName : Node → Option (List Char)
  | element tag _ _ => some (localName tag.name)
  | emptyElement tag => some (localName tag.name)
  | _ => none

def named (name : List Char) (node : Node) : Bool := node.elementName = some name

end Node

/-- A carriage return, and the line feed after it if there is one, are read as a line feed. -/
def lineEnds : Bool → List Char → List Char
  | _, [] => []
  | afterReturn, c :: s =>
    if c = '\r' then '\n' :: lineEnds true s
    else if afterReturn && c = '\n' then lineEnds false s
    else c :: lineEnds false s

namespace Node

/-- The character data in a node, where the character before it may have been a carriage return. -/
def charData (afterReturn : Bool) : Node → List Char
  | char c => if c = '\r' then ['\n'] else if afterReturn && c = '\n' then [] else [c]
  | reference r => [r.value]
  | cdata s => lineEnds false s
  | _ => []

def isReturn : Node → Bool
  | char c => c = '\r'
  | _ => false

end Node

def charDataFrom : Bool → List Node → List Char
  | _, [] => []
  | afterReturn, node :: nodes => node.charData afterReturn ++ charDataFrom node.isReturn nodes

/-- What the decoder takes for the character data of an element with these nodes. -/
def charData (nodes : List Node) : List Char := charDataFrom false nodes

/-! ## Tokens -/

section Tokens

@[simp] lemma tokens_append (nodes nodes' : List Node) : tokens (nodes ++ nodes') = tokens nodes ++ tokens nodes' := by
  induction nodes with
  | nil => rfl
  | cons node nodes ih => rw [List.cons_append, tokens, tokens, ih, List.append_assoc]

lemma tokens_flatMap {α : Type} (f : α → List Node) (l : List α) :
    tokens (l.flatMap f) = l.flatMap fun a => tokens (f a) := by
  induction l with
  | nil => rfl
  | cons a l ih => rw [List.flatMap_cons, List.flatMap_cons, tokens_append, ih]

lemma mem_tokens {nodes : List Node} {token : List Char} (h : token ∈ tokens nodes) :
    ∃ node ∈ nodes, token ∈ node.tokens := by
  induction nodes with
  | nil => cases h
  | cons node nodes ih =>
    obtain h | h := List.mem_append.mp h
    · exact ⟨node, List.mem_cons_self, h⟩
    · obtain ⟨other, hother, htoken⟩ := ih h
      exact ⟨other, List.mem_cons_of_mem _ hother, htoken⟩

lemma allWellFormed_iff {nodes : List Node} : allWellFormed nodes ↔ ∀ node ∈ nodes, node.wellFormed := by
  induction nodes with
  | nil => simp [allWellFormed]
  | cons node nodes ih => rw [allWellFormed, Bool.and_eq_true, ih, List.forall_mem_cons]

lemma closed_append {s ending : List Char} (h : ending.getLast? = some '>') : Closed '<' '>' (s ++ ending) := by
  intro _
  rw [List.getLast?_append, h]
  rfl

lemma notMem_of_all {s : List Char} {p : Char → Bool} {c : Char} (h : s.all p) (hc : p c = false) : c ∉ s := by
  intro hmem
  rw [List.all_eq_true.mp h c hmem] at hc
  cases hc

lemma notMem_of_ends {opening digits : List Char} (hopening : '<' ∉ opening) {p : Char → Bool} (hdigits : digits.all p)
    (hp : p '<' = false) : '<' ∉ opening ++ digits ++ [';'] := by
  rw [List.mem_append, List.mem_append, not_or, not_or]
  exact ⟨⟨hopening, notMem_of_all hdigits hp⟩, by decide⟩

lemma Reference.closed {r : Reference} (h : r.wellFormed) : Closed '<' '>' r.text := by
  intro hmem
  have hdigits := (Bool.and_eq_true_iff.mp h).2
  cases r with
  | decimal digits => exact absurd hmem (notMem_of_ends (by decide) (Bool.and_eq_true_iff.mp hdigits).2 rfl)
  | hexadecimal digits => exact absurd hmem (notMem_of_ends (by decide) (Bool.and_eq_true_iff.mp hdigits).2 rfl)
  | _ => exact absurd hmem (by decide)

mutual

/-- Every token of a well-formed node that has an opening bracket ends with a closing one. -/
lemma Node.closed (node : Node) (h : node.wellFormed) : ∀ token ∈ node.tokens, Closed '<' '>' token := by
  intro token htoken
  cases node with
  | char c =>
    intro hmem
    rw [List.mem_singleton.mp htoken, List.mem_singleton] at hmem
    simp [Node.wellFormed, ← hmem] at h
  | reference r =>
    rw [List.mem_singleton.mp htoken]
    exact Reference.closed h
  | cdata s =>
    rw [List.mem_singleton.mp htoken]
    exact closed_append rfl
  | skipped kind s =>
    rw [List.mem_singleton.mp htoken]
    cases kind <;> exact closed_append rfl
  | element tag children ending =>
    simp only [Node.wellFormed, Bool.and_eq_true] at h
    obtain rfl | htoken := List.mem_cons.mp htoken
    · exact closed_append rfl
    obtain htoken | htoken := List.mem_append.mp htoken
    · exact closed_tokens children h.2 token htoken
    · rw [List.mem_singleton.mp htoken]
      exact closed_append rfl
  | emptyElement tag =>
    rw [List.mem_singleton.mp htoken]
    exact closed_append rfl

lemma closed_tokens (nodes : List Node) (h : allWellFormed nodes) : ∀ token ∈ tokens nodes, Closed '<' '>' token := by
  intro token htoken
  cases nodes with
  | nil => cases htoken
  | cons node nodes =>
    rw [allWellFormed, Bool.and_eq_true] at h
    obtain htoken | htoken := List.mem_append.mp htoken
    · exact Node.closed node h.1 token htoken
    · exact closed_tokens nodes h.2 token htoken

end

/-! ## Marks -/

/-- A tag with a name and nothing else. -/
def mark (label : List Char) : List Char := '<' :: label ++ ['>']

def labelChar (c : Char) : Bool := c ≠ '<' && c ≠ '>' && !isBlank c

lemma labelChar_of_nameChar {c : Char} (h : nameChar c) : labelChar c := by
  have hfalse : ∀ d ∈ ['<', '>', ' ', '\t', '\r', '\n'], nameChar d = false := by decide
  by_contra hlabel
  have hmem : c ∈ ['<', '>', ' ', '\t', '\r', '\n'] := by
    simp only [labelChar, isBlank, Bool.and_eq_true, Bool.not_eq_true', decide_eq_true_eq,
      decide_eq_false_iff_not] at hlabel
    simp only [List.mem_cons, List.not_mem_nil, or_false] at hlabel ⊢
    tauto
  rw [hfalse c hmem] at h
  cases h

lemma labelChar_of_isName {name : List Char} (h : isName name) : name.all labelChar := by
  simp only [isName, Bool.and_eq_true] at h
  exact List.all_eq_true.mpr fun c hc => labelChar_of_nameChar (List.all_eq_true.mp h.1.2 c hc)

lemma bracketed_mark {label : List Char} (h : label.all labelChar) : Bracketed '<' '>' (mark label) :=
  ⟨label, rfl, notMem_of_all h rfl, notMem_of_all h rfl, by decide⟩

/-- What follows the name in a tag. -/
def Follows (rest : List Char) : Prop := '<' ∉ rest ∧ ∀ c ∈ rest.head?, isBlank c

/-- A mark that lies in a tag is the whole tag. -/
lemma mark_infix_tag {label name rest : List Char} (hlabel : label.all labelChar) (hname : name.all labelChar)
    (hrest : Follows rest) (h : mark label <:+: '<' :: name ++ rest ++ ['>']) : label = name ∧ rest = [] := by
  have hstop : ∀ (l : List Char) (c : Char) (s : List Char), l.all labelChar → labelChar c = false →
      (l ++ c :: s).takeWhile labelChar = l := by
    intro l c s hl hc
    rw [List.takeWhile_append_of_pos (List.all_eq_true.mp hl), List.takeWhile_cons_of_neg (by simp [hc]),
      List.append_nil]
  obtain ⟨before, after, heq⟩ := h
  have htail : '<' ∉ name ++ rest ++ ['>'] := by
    have hsign : '<' ∉ name := notMem_of_all hname rfl
    simp [hsign, hrest.1]
  cases before with
  | cons c before =>
    rw [List.cons_append, List.cons_append, List.cons_append, List.cons_append, List.cons.injEq] at heq
    refine absurd ?_ htail
    rw [← heq.2]
    simp [mark]
  | nil =>
    have heq : label ++ '>' :: after = name ++ (rest ++ ['>']) := by
      simpa [mark] using heq
    have hlabels : label = name := by
      rw [← hstop label '>' after hlabel rfl, heq]
      obtain - | ⟨c, rest⟩ := rest
      · exact hstop name '>' [] hname rfl
      · refine hstop name c (rest ++ ['>']) hname ?_
        simp [labelChar, hrest.2 c rfl]
    subst hlabels
    refine ⟨rfl, ?_⟩
    have heq := List.append_cancel_left heq
    obtain - | ⟨c, rest⟩ := rest
    · rfl
    · have hblank := hrest.2 c rfl
      rw [List.cons_append, List.cons.injEq] at heq
      rw [← heq.1] at hblank
      cases hblank

lemma follows_blanks {s : List Char} (h : s.all isBlank) : Follows s :=
  ⟨notMem_of_all h rfl, fun c hc => List.all_eq_true.mp h c (List.mem_of_mem_head? hc)⟩

lemma Attribute.follows {a : Attribute} (h : a.wellFormed) : a.text ≠ [] ∧ Follows a.text := by
  simp only [wellFormed, Bool.and_eq_true, decide_eq_true_eq] at h
  obtain ⟨⟨⟨⟨⟨⟨hne, hspace⟩, hname⟩, hleft⟩, hright⟩, hquote⟩, hvalue⟩ := h
  have hquote : '<' ≠ a.quote := by
    intro hsign
    rw [← hsign] at hquote
    exact absurd hquote (by decide)
  have hname : '<' ∉ a.name := notMem_of_all (labelChar_of_isName hname) rfl
  have hvalue : '<' ∉ a.value := notMem_of_all hvalue rfl
  obtain ⟨c, space, hcons⟩ := List.exists_cons_of_ne_nil hne
  refine ⟨by simp [text], ?_, ?_⟩
  · simp only [text, List.mem_append, List.mem_cons, List.not_mem_nil, or_false, not_or]
    exact ⟨⟨⟨⟨⟨(follows_blanks hspace).1, hname⟩, (follows_blanks hleft).1⟩, by decide, (follows_blanks hright).1⟩,
      hquote, hvalue⟩, hquote⟩
  · intro d hd
    simp only [text, hcons, List.cons_append, List.head?_cons, Option.mem_some_iff] at hd
    rw [← hd]
    exact (follows_blanks hspace).2 c (by simp [hcons])

lemma follows_append {s s' : List Char} (h : Follows s) (h' : Follows s') : Follows (s ++ s') := by
  refine ⟨by simp [h.1, h'.1], fun c hc => ?_⟩
  cases s with
  | nil => exact h'.2 c hc
  | cons d s => exact h.2 c hc

lemma StartTag.follows {tag : StartTag} (h : tag.wellFormed) : Follows tag.rest := by
  simp only [wellFormed, Bool.and_eq_true] at h
  obtain ⟨⟨-, hattributes⟩, hspace⟩ := h
  refine follows_append ?_ (follows_blanks hspace)
  have hattributes := List.all_eq_true.mp hattributes
  generalize tag.attributes = attributes at hattributes
  induction attributes with
  | nil => exact follows_blanks rfl
  | cons a attributes ih =>
    exact follows_append (Attribute.follows (hattributes a List.mem_cons_self)).2
      (ih fun a ha => hattributes a (List.mem_cons_of_mem _ ha))

lemma StartTag.eq_of_mark {tag : StartTag} {label : List Char} (h : tag.wellFormed) (hlabel : label.all labelChar)
    (hmark : mark label <:+: tag.text) : tag = ⟨label, [], []⟩ := by
  have hfollows := StartTag.follows h
  simp only [wellFormed, Bool.and_eq_true] at h
  obtain ⟨⟨hname, hattributes⟩, -⟩ := h
  obtain ⟨hlabel, hrest⟩ := mark_infix_tag hlabel (labelChar_of_isName hname) hfollows hmark
  obtain ⟨name, attributes, space⟩ := tag
  obtain ⟨hnone, hspace⟩ := List.append_eq_nil_iff.mp hrest
  cases attributes with
  | nil =>
    dsimp only at hlabel hspace
    rw [hlabel, hspace]
  | cons a attributes =>
    have ha := Attribute.follows (List.all_eq_true.mp hattributes a List.mem_cons_self)
    rw [List.flatMap_cons, List.append_eq_nil_iff] at hnone
    exact absurd hnone.1 ha.1

lemma endTag_of_mark {name space label : List Char} (hname : isName name) (hspace : space.all isBlank)
    (hlabel : label.all labelChar) (hmark : mark label <:+: endTag name space) : label = '/' :: name ∧ space = [] := by
  have hname : ('/' :: name).all labelChar := by
    rw [List.all_cons, labelChar_of_isName hname]
    rfl
  exact mark_infix_tag hlabel hname (follows_blanks hspace) hmark

end Tokens

/-! ## Plain character data -/

section Plain

/-- The nodes as they are written. -/
def textOf (nodes : List Node) : List Char := (tokens nodes).flatten

/-- A character that is read as it is written. -/
def Node.isPlain : Node → Bool
  | .char c => c ≠ '\r'
  | _ => false

lemma textOf_cons (node : Node) (nodes : List Node) : textOf (node :: nodes) = node.tokens.flatten ++ textOf nodes := by
  rw [textOf, tokens, List.flatten_append]
  rfl

lemma length_lineEnds_le (afterReturn : Bool) (s : List Char) : (lineEnds afterReturn s).length ≤ s.length := by
  induction s generalizing afterReturn with
  | nil => exact Nat.le_refl _
  | cons c s ih =>
    rw [lineEnds]
    split
    · exact Nat.succ_le_succ (ih true)
    · split
      · exact (ih false).trans (Nat.le_succ _)
      · exact Nat.succ_le_succ (ih false)

/-- Markup has no white space at its ends. -/
lemma Node.text_ends {node : Node} (h : ∀ c, node ≠ .char c) :
    (∃ c s, node.tokens.flatten = c :: s ∧ isSpace c = false) ∧
      ∃ s c, node.tokens.flatten = s ++ [c] ∧ isSpace c = false := by
  cases node with
  | char c => exact absurd rfl (h c)
  | reference r =>
    rw [Node.tokens, List.flatten_singleton]
    cases r with
    | decimal digits => exact ⟨⟨'&', _, rfl, rfl⟩, _, ';', rfl, rfl⟩
    | hexadecimal digits => exact ⟨⟨'&', _, rfl, rfl⟩, _, ';', rfl, rfl⟩
    | lt => exact ⟨⟨'&', _, rfl, rfl⟩, "&lt".toList, ';', rfl, rfl⟩
    | gt => exact ⟨⟨'&', _, rfl, rfl⟩, "&gt".toList, ';', rfl, rfl⟩
    | amp => exact ⟨⟨'&', _, rfl, rfl⟩, "&amp".toList, ';', rfl, rfl⟩
    | apos => exact ⟨⟨'&', _, rfl, rfl⟩, "&apos".toList, ';', rfl, rfl⟩
    | quot => exact ⟨⟨'&', _, rfl, rfl⟩, "&quot".toList, ';', rfl, rfl⟩
  | cdata s =>
    rw [Node.tokens, List.flatten_singleton]
    refine ⟨⟨'<', _, rfl, rfl⟩, "<![CDATA[".toList ++ s ++ "]]".toList, '>', ?_, rfl⟩
    rw [List.append_assoc _ _ ['>']]
    rfl
  | skipped kind s =>
    rw [Node.tokens, List.flatten_singleton]
    cases kind with
    | comment =>
      refine ⟨⟨'<', _, rfl, rfl⟩, "<!--".toList ++ s ++ "--".toList, '>', ?_, rfl⟩
      rw [List.append_assoc _ _ ['>']]
      rfl
    | procInst =>
      refine ⟨⟨'<', _, rfl, rfl⟩, "<?".toList ++ s ++ "?".toList, '>', ?_, rfl⟩
      rw [List.append_assoc _ _ ['>']]
      rfl
    | directive => exact ⟨⟨'<', _, rfl, rfl⟩, _, '>', rfl, rfl⟩
  | element tag children ending =>
    refine ⟨⟨'<', _, rfl, rfl⟩, tag.text ++ (Xml.tokens children).flatten ++ ('<' :: '/' :: tag.name ++ ending), '>',
      ?_, rfl⟩
    rw [Node.tokens, List.flatten_cons, List.flatten_append, List.flatten_singleton, endTag]
    simp only [List.append_assoc, List.cons_append]
  | emptyElement tag =>
    rw [Node.tokens, List.flatten_singleton]
    refine ⟨⟨'<', _, rfl, rfl⟩, '<' :: tag.name ++ tag.rest ++ ['/'], '>', ?_, rfl⟩
    rw [List.append_assoc _ ['/'] ['>']]
    rfl

lemma Node.text_ne_nil (node : Node) : node.tokens.flatten ≠ [] := by
  by_cases hchar : ∃ c, node = .char c
  · obtain ⟨c, rfl⟩ := hchar
    exact List.cons_ne_nil _ _
  · obtain ⟨⟨c, s, htext, -⟩, -⟩ := Node.text_ends fun c hc => hchar ⟨c, hc⟩
    rw [htext]
    exact List.cons_ne_nil _ _

lemma Reference.length_text (r : Reference) : 1 < r.text.length := by
  cases r with
  | decimal digits => exact Nat.succ_lt_succ (Nat.zero_lt_succ _)
  | hexadecimal digits => exact Nat.succ_lt_succ (Nat.zero_lt_succ _)
  | _ => decide

/-- Only characters are not longer than they are read. -/
lemma Node.length_charData_lt (afterReturn : Bool) (node : Node) (h : ∀ c, node ≠ .char c) :
    (node.charData afterReturn).length < node.tokens.flatten.length := by
  cases node with
  | char c => exact absurd rfl (h c)
  | reference r =>
    rw [Node.tokens, List.flatten_singleton]
    exact r.length_text
  | cdata s =>
    have hle := length_lineEnds_le false s
    have hopening : ("<![CDATA[".toList).length = 9 := rfl
    simp only [Node.charData, Node.tokens, List.flatten_singleton, List.length_append]
    omega
  | _ => exact List.length_pos_of_ne_nil (Node.text_ne_nil _)

lemma Node.length_charData_le (afterReturn : Bool) (node : Node) :
    (node.charData afterReturn).length ≤ node.tokens.flatten.length := by
  by_cases h : ∃ c, node = .char c
  · obtain ⟨c, rfl⟩ := h
    rw [Node.charData]
    split
    · exact Nat.le_refl _
    · split
      · exact Nat.zero_le _
      · exact Nat.le_refl _
  · exact (Node.length_charData_lt afterReturn node fun c hc => h ⟨c, hc⟩).le

lemma Node.isPlain_of_charData {afterReturn : Bool} {node : Node}
    (h : node.charData afterReturn = node.tokens.flatten) : node.isPlain := by
  by_cases hchar : ∃ c, node = .char c
  · obtain ⟨c, rfl⟩ := hchar
    rw [Node.isPlain, decide_eq_true_eq]
    rintro rfl
    cases afterReturn <;> exact absurd h (by decide)
  · have hlt := Node.length_charData_lt afterReturn node fun c hc => hchar ⟨c, hc⟩
    rw [h] at hlt
    exact absurd hlt (Nat.lt_irrefl _)

lemma length_charDataFrom_le (afterReturn : Bool) (nodes : List Node) :
    (charDataFrom afterReturn nodes).length ≤ (textOf nodes).length := by
  induction nodes generalizing afterReturn with
  | nil => exact Nat.le_refl _
  | cons node nodes ih =>
    rw [charDataFrom, textOf_cons, List.length_append, List.length_append]
    exact Nat.add_le_add (node.length_charData_le afterReturn) (ih node.isReturn)

/-- What is read as it is written is plain. -/
lemma isPlain_of_charDataFrom {afterReturn : Bool} {nodes : List Node}
    (h : charDataFrom afterReturn nodes = textOf nodes) : ∀ node ∈ nodes, node.isPlain := by
  induction nodes generalizing afterReturn with
  | nil => exact fun _ h => absurd h List.not_mem_nil
  | cons node nodes ih =>
    have hnode := node.length_charData_le afterReturn
    have hnodes := length_charDataFrom_le node.isReturn nodes
    rw [charDataFrom, textOf_cons] at h
    have hlength := congrArg List.length h
    rw [List.length_append, List.length_append] at hlength
    obtain ⟨hdata, hrest⟩ := List.append_inj h (by omega)
    exact List.forall_mem_cons.mpr ⟨Node.isPlain_of_charData hdata, ih hrest⟩

lemma charData_of_isPlain {nodes : List Node} (h : ∀ node ∈ nodes, node.isPlain) : charData nodes = textOf nodes := by
  unfold charData
  induction nodes with
  | nil => rfl
  | cons node nodes ih =>
    obtain ⟨hnode, hnodes⟩ := List.forall_mem_cons.mp h
    rw [charDataFrom, textOf_cons]
    cases node with
    | char c =>
      rw [Node.isPlain, decide_eq_true_eq] at hnode
      rw [Node.isReturn, decide_eq_false hnode, ih hnodes, Node.charData, if_neg hnode, Bool.false_and,
        if_neg Bool.false_ne_true]
      rfl
    | _ => cases hnode

lemma trimSpace_eq_self_iff {s : List Char} : trimSpace (String.ofList s) = String.ofList s ↔
    (∀ c ∈ s.head?, isSpace c = false) ∧ ∀ c ∈ s.getLast?, isSpace c = false := by
  have htrim : trimSpace (String.ofList s) = String.ofList ((s.dropWhile isSpace).rdropWhile isSpace) := by
    rw [trimSpace, String.toList_ofList]
    rfl
  have hhead : s.dropWhile isSpace = s ↔ ∀ c ∈ s.head?, isSpace c = false := by
    cases s with
    | nil => simp
    | cons c s => simp [List.dropWhile_eq_self_iff]
  have hlast : s.rdropWhile isSpace = s ↔ ∀ c ∈ s.getLast?, isSpace c = false := by
    rw [List.rdropWhile_eq_self_iff]
    refine ⟨fun h c hc => ?_, fun h hne => ?_⟩
    · obtain ⟨hne, rfl⟩ := List.mem_getLast?_eq_getLast hc
      exact Bool.eq_false_iff.mpr (h hne)
    · exact Bool.eq_false_iff.mp (h _ (List.getLast?_eq_some_getLast hne))
  rw [htrim, String.ofList_inj, ← hhead, ← hlast]
  refine ⟨fun h => ?_, fun ⟨hdrop, hrdrop⟩ => by rw [hdrop, hrdrop]⟩
  have hshort : (s.dropWhile isSpace).length ≥ s.length := by
    have hle := (List.rdropWhile_prefix isSpace (s.dropWhile isSpace)).length_le
    rwa [h] at hle
  have hdrop := (List.dropWhile_suffix isSpace).eq_of_length_le hshort
  exact ⟨hdrop, by rwa [hdrop] at h⟩

/-- White space at the beginning is read as white space. -/
lemma charData_head {nodes : List Node} {c : Char} (h : (textOf nodes).head? = some c) (hc : isSpace c) :
    ∃ d ∈ (charData nodes).head?, isSpace d := by
  cases nodes with
  | nil => cases h
  | cons node nodes =>
    rw [textOf_cons] at h
    by_cases hchar : ∃ d, node = .char d
    · obtain ⟨d, rfl⟩ := hchar
      obtain rfl : d = c := Option.some.inj h
      rw [charData, charDataFrom, Node.charData, Bool.false_and, if_neg Bool.false_ne_true]
      split
      · exact ⟨'\n', rfl, rfl⟩
      · exact ⟨d, rfl, hc⟩
    · obtain ⟨⟨d, s, htext, hd⟩, -⟩ := Node.text_ends fun d hd => hchar ⟨d, hd⟩
      rw [htext, List.cons_append, List.head?_cons, Option.some.injEq] at h
      rw [← h, hd] at hc
      cases hc

/-- White space at the end is read as white space. -/
lemma charDataFrom_last (afterReturn : Bool) {nodes : List Node} {c : Char} (h : (textOf nodes).getLast? = some c)
    (hc : isSpace c) : (∃ d ∈ (charDataFrom afterReturn nodes).getLast?, isSpace d) ∨
      afterReturn = true ∧ charDataFrom afterReturn nodes = [] := by
  induction nodes generalizing afterReturn with
  | nil => cases h
  | cons node nodes ih =>
    rw [textOf_cons] at h
    rw [charDataFrom]
    cases nodes with
    | nil =>
      rw [textOf, tokens, List.flatten_nil, List.append_nil] at h
      rw [charDataFrom, List.append_nil]
      by_cases hchar : ∃ d, node = .char d
      · obtain ⟨d, rfl⟩ := hchar
        obtain rfl : d = c := Option.some.inj h
        rw [Node.charData]
        split
        · exact .inl ⟨'\n', rfl, rfl⟩
        · split
          · next hskip => exact .inr ⟨(Bool.and_eq_true_iff.mp hskip).1, rfl⟩
          · exact .inl ⟨d, rfl, hc⟩
      · obtain ⟨-, s, d, htext, hd⟩ := Node.text_ends fun d hd => hchar ⟨d, hd⟩
        rw [htext, List.getLast?_concat, Option.some.injEq] at h
        rw [← h, hd] at hc
        cases hc
    | cons next nodes =>
      have hne : textOf (next :: nodes) ≠ [] := by
        rw [textOf_cons]
        exact List.append_ne_nil_of_left_ne_nil (Node.text_ne_nil next) _
      rw [List.getLast?_append_of_ne_nil _ hne] at h
      left
      obtain ⟨d, hd, hspace⟩ | ⟨hreturn, hnone⟩ := ih node.isReturn h
      · refine ⟨d, ?_, hspace⟩
        rw [List.getLast?_append, Option.mem_def.mp hd]
        rfl
      · rw [hnone, List.append_nil]
        cases node with
        | char d =>
          rw [Node.charData, if_pos (of_decide_eq_true hreturn)]
          exact ⟨'\n', rfl, rfl⟩
        | _ => cases hreturn

/-- Characters that are read as they are written, with white space at neither end. -/
structure Verbatim (nodes : List Node) : Prop where
  plain : ∀ node ∈ nodes, node.isPlain
  nonempty : nodes ≠ []
  head : ∀ c ∈ (textOf nodes).head?, isSpace c = false
  last : ∀ c ∈ (textOf nodes).getLast?, isSpace c = false

/-- The text, trimmed, is what the decoder reads, and not empty, just where it is verbatim. -/
theorem verbatim_iff {nodes : List Node} : Verbatim nodes ↔
    trimSpace (String.ofList (textOf nodes)) = String.ofList (charData nodes) ∧ charData nodes ≠ [] := by
  constructor
  · intro h
    rw [charData_of_isPlain h.plain]
    refine ⟨trimSpace_eq_self_iff.mpr ⟨h.head, h.last⟩, ?_⟩
    obtain ⟨node, nodes, rfl⟩ := List.exists_cons_of_ne_nil h.nonempty
    rw [textOf_cons]
    exact List.append_ne_nil_of_left_ne_nil node.text_ne_nil _
  · rintro ⟨htrim, hne⟩
    have hends := trimSpace_trimSpace (String.ofList (textOf nodes))
    rw [htrim, trimSpace_eq_self_iff] at hends
    have hhead : ∀ c ∈ (textOf nodes).head?, isSpace c = false := by
      intro c hc
      by_contra hspace
      obtain ⟨d, hd, hd'⟩ := charData_head (Option.mem_def.mp hc) (Bool.not_eq_false _ ▸ hspace)
      rw [hends.1 d hd] at hd'
      cases hd'
    have hlast : ∀ c ∈ (textOf nodes).getLast?, isSpace c = false := by
      intro c hc
      by_contra hspace
      obtain ⟨d, hd, hd'⟩ | ⟨hfalse, -⟩ :=
        charDataFrom_last false (Option.mem_def.mp hc) (Bool.not_eq_false _ ▸ hspace)
      · rw [hends.2 d hd] at hd'
        cases hd'
      · cases hfalse
    rw [trimSpace_eq_self_iff.mpr ⟨hhead, hlast⟩, String.ofList_inj] at htrim
    refine ⟨isPlain_of_charDataFrom htrim.symm, ?_, hhead, hlast⟩
    rintro rfl
    exact hne rfl

end Plain

end Go.Xml
