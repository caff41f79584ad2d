import ErgGo.Hoclieu.MaterialService
import ErgGo.Lib.Numerals

/-!
# Byte ranges

An asset that is not kept elsewhere is streamed whole or, if the `Range` header names one range of
bytes that it has, in part.
-/

namespace ErgGo.Hoclieu
open Go Decimal

structure ByteRange where
  start : ℤ
  last : ℤ
  deriving DecidableEq

/-- The range that a header names; `none` is `errUnsatisfiableRange`. -/
def parseSingleByteRange (header : Bytes) (size : ℤ) : Option ByteRange :=
  if size ≤ 0 then none
  else if !(bytes "bytes=").isPrefixOf header then none
  else
    let spec := Bytes.trimSpace (Bytes.trimPrefix (bytes "bytes=") header)
    if spec = [] || Bytes.contains spec (bytes ",") then none
    else match Bytes.cut 0x2D spec with
      | none => none
      | some ([], rest) =>
        match parseInt rest with
        | none => none
        | some suffix =>
          if suffix ≤ 0 then none
          else
            let suffix := if suffix > size then size else suffix
            some ⟨size - suffix, size - 1⟩
      | some (first, rest) =>
        match parseInt first with
        | none => none
        | some start =>
          if start < 0 || start ≥ size then none
          else match if rest = [] then some (size - 1) else parseInt rest with
            | none => none
            | some last =>
              if last < start then none
              else some ⟨start, if last ≥ size then size - 1 else last⟩

/-! ## The stream -/

structure AssetDTO where
  id : String
  selectedFileType : AssetFileType
  originalFileName : String := ""
  storageURL : String := ""
  canDownload : Bool

def isHTTPURL [Library] (value : String) : Bool :=
  hasPrefix (toLower (trimSpace value)) "http://" || hasPrefix (toLower (trimSpace value)) "https://"

def contentTypeFor : AssetFileType → String
  | .pdf => "application/pdf"
  | .pptx => "application/vnd.openxmlformats-officedocument.presentationml.presentation"
  | .video => "video/mp4"
  | .audio => "audio/mpeg"
  | .html5 => "text/html; charset=utf-8"
  | .docx => "application/vnd.openxmlformats-officedocument.wordprocessingml.document"
  | .xlsx => "application/vnd.openxmlformats-officedocument.spreadsheetml.sheet"
  | .zip => "application/zip"
  | .image => "image/png"
  | _ => "application/octet-stream"

def extensionFor : AssetFileType → String
  | .pdf => "pdf"
  | .pptx => "pptx"
  | .xlsx => "xlsx"
  | .zip => "zip"
  | .video => "mp4"
  | .audio => "mp3"
  | .link => "url"
  | _ => "bin"

def placeholderPDF : String :=
  "%PDF-1.4\n1 0 obj << /Type /Catalog /Pages 2 0 R >> endobj\n" ++
  "2 0 obj << /Type /Pages /Kids [3 0 R] /Count 1 >> endobj\n" ++
  "3 0 obj << /Type /Page /Parent 2 0 R /MediaBox [0 0 612 792] /Contents 4 0 R >> endobj\n" ++
  "4 0 obj << /Length 44 >> stream\nBT /F1 20 Tf 72 720 Td (ERG Hoclieu PDF) Tj ET\nendstream endobj\n" ++
  "xref\n0 5\n0000000000 65535 f \n0000000009 00000 n \n0000000058 00000 n \n0000000115 00000 n \n" ++
  "0000000211 00000 n \ntrailer << /Root 1 0 R /Size 5 >>\nstartxref\n304\n%%EOF\n"

def sampleBytesFor (fileType : AssetFileType) : Bytes :=
  match fileType with
  | .pdf => bytes placeholderPDF
  | .video => (List.replicate 16 (bytes "ERG hoclieu protected video placeholder\n")).flatten
  | .audio => (List.replicate 16 (bytes "ERG hoclieu protected audio placeholder\n")).flatten
  | .pptx => (List.replicate 16 (bytes "ERG hoclieu protected slide placeholder\n")).flatten
  | _ => (List.replicate 16 (bytes "ERG hoclieu protected asset placeholder\n")).flatten

def safeFilename (asset : AssetDTO) : String :=
  let name := trimSpace asset.originalFileName
  let name := if name = "" then asset.id ++ "." ++ extensionFor asset.selectedFileType else name
  String.ofList (name.toList.filter (· ∉ ['\\', '"', '\r', '\n']))

structure StreamResponse where
  status : ℕ
  headers : List (String × String)
  body : Bytes := []

def deliveryHeaders (asset : AssetDTO) (disposition : String) : List (String × String) :=
  [("Cache-Control", "no-store"), ("Pragma", "no-cache"), ("X-Content-Type-Options", "nosniff"),
    ("X-Hoclieu-Can-Download", if asset.canDownload then "true" else "false"),
    ("Content-Disposition", disposition ++ "; filename=\"" ++ safeFilename asset ++ "\"")]

/-- `payload[low:high]`; `none` is a panic. -/
def slice (payload : Bytes) (low high : ℤ) : Option Bytes :=
  if 0 ≤ low ∧ low ≤ high ∧ high ≤ payload.length then some ((payload.drop low.toNat).take (high - low).toNat) else none

/-- The response to a request with this `Range` header; `none` is a panic. -/
def writeAssetStream [Library] (asset : AssetDTO) (header : Bytes) : Option StreamResponse :=
  let delivery := deliveryHeaders asset "inline"
  if isHTTPURL asset.storageURL then
    some ⟨307, delivery ++ [("X-Hoclieu-Storage-Contract", "r2-url"), ("Location", asset.storageURL)], []⟩
  else
    let payload := sampleBytesFor asset.selectedFileType
    let size : ℤ := payload.length
    let contentType := contentTypeFor asset.selectedFileType
    let headers := delivery ++ [("Accept-Ranges", "bytes"), ("X-Hoclieu-Storage-Contract", "placeholder")]
    let rangeHeader := Bytes.trimSpace header
    if rangeHeader = [] then
      some ⟨200, headers ++ [("Content-Length", toString size), ("Content-Type", contentType)], payload⟩
    else match parseSingleByteRange rangeHeader size with
      | none => some ⟨416, headers ++ [("Content-Range", "bytes */" ++ toString size)], []⟩
      | some range =>
        (slice payload range.start (range.last + 1)).map fun part =>
          ⟨206, headers ++ [("Content-Range", "bytes " ++ toString range.start ++ "-" ++ toString range.last ++ "/" ++
            toString size), ("Content-Length", toString part.length), ("Content-Type", contentType)], part⟩

/-! ## The grammar -/

/-- A range of the grammar that an object of this size satisfies, and the bytes that it denotes. -/
inductive Denotes (size : ℤ) : Bytes → ByteRange → Prop
  | closed {first last : Bytes} {a b : ℕ} (hfirst : Reads first a) (hlast : Reads last b) (hab : a ≤ b)
    (ha : a < size) : Denotes size (first ++ 0x2D :: last) ⟨a, min b (size - 1)⟩
  | from {first : Bytes} {a : ℕ} (hfirst : Reads first a) (ha : a < size) :
    Denotes size (first ++ [0x2D]) ⟨a, size - 1⟩
  | suffix {last : Bytes} {n : ℕ} (hlast : Reads last n) (hn : 0 < n) (hsize : 0 < size) :
    Denotes size (0x2D :: last) ⟨max 0 (size - n), size - 1⟩

/-- No number has a sign, and a last position or a suffix length has 63 bits. -/
def Plain (spec : Bytes) : Prop := ∀ first last, spec = first ++ 0x2D :: last →
  ¬Signed first ∧ ¬Signed last ∧ ∀ n, Reads last n → n < 2 ^ 63

lemma not_isDigit_dash : ¬IsDigit 0x2D := by
  unfold IsDigit
  decide

lemma not_isDigit_comma : ¬IsDigit 0x2C := by
  unfold IsDigit
  decide

section Parse

variable {header spec : Bytes} {size : ℤ} {range : ByteRange}

lemma Denotes.chars (h : Denotes size spec range) : ∀ c ∈ spec, IsDigit c ∨ c = 0x2D := by
  intro c hc
  cases h with
  | closed hfirst hlast _ _ =>
    obtain hc | hc := List.mem_append.mp hc
    · exact .inl (hfirst.digits c hc)
    · exact (List.mem_cons.mp hc).elim .inr fun hc => .inl (hlast.digits c hc)
  | «from» hfirst _ =>
    obtain hc | hc := List.mem_append.mp hc
    · exact .inl (hfirst.digits c hc)
    · exact .inr (List.mem_singleton.mp hc)
  | suffix hlast _ _ => exact (List.mem_cons.mp hc).elim .inr fun hc => .inl (hlast.digits c hc)

/-- What is read of a text without commas. -/
inductive Parsed (size : ℤ) : Bytes → ByteRange → Prop
  | closed {first last : Bytes} {a b : ℤ} (hdash : 0x2D ∉ first) (hne : first ≠ []) (hfirst : parseInt first = some a)
    (hlast : last ≠ []) (hread : parseInt last = some b) (ha : 0 ≤ a ∧ a < size) (hab : a ≤ b) :
    Parsed size (first ++ 0x2D :: last) ⟨a, min b (size - 1)⟩
  | from {first : Bytes} {a : ℤ} (hdash : 0x2D ∉ first) (hne : first ≠ []) (hfirst : parseInt first = some a)
    (ha : 0 ≤ a ∧ a < size) : Parsed size (first ++ [0x2D]) ⟨a, size - 1⟩
  | suffix {last : Bytes} {n : ℤ} (hread : parseInt last = some n) (hn : 0 < n) :
    Parsed size (0x2D :: last) ⟨max 0 (size - n), size - 1⟩

lemma parsed_of_parse (h : parseSingleByteRange header size = some range) : 0 < size ∧
    ∃ padded, header = bytes "bytes=" ++ padded ∧ Parsed size (Bytes.trimSpace padded) range := by
  unfold parseSingleByteRange at h
  split at h
  · cases h
  rename_i hsize
  split at h
  · cases h
  rename_i hprefix
  rw [Bool.not_eq_true', Bool.not_eq_false, List.isPrefixOf_iff_prefix] at hprefix
  obtain ⟨padded, rfl⟩ := hprefix
  refine ⟨by omega, padded, rfl, ?_⟩
  rw [Bytes.trimPrefix_append] at h
  generalize Bytes.trimSpace padded = spec at h ⊢
  dsimp only at h
  split at h
  · cases h
  split at h
  · cases h
  · rename_i rest hcut
    obtain ⟨rfl, -⟩ := Bytes.cut_eq_some hcut
    split at h
    · cases h
    rename_i n hn
    split at h
    · cases h
    obtain rfl := Option.some.inj h
    have hstart : size - (if n > size then size else n) = max 0 (size - n) := by
      split <;> omega
    rw [hstart]
    exact .suffix hn (by omega)
  · rename_i first rest hne hcut
    obtain ⟨rfl, hdash⟩ := Bytes.cut_eq_some hcut
    split at h
    · cases h
    rename_i a ha
    split at h
    · cases h
    rename_i hbounds
    rw [Bool.or_eq_true, not_or, decide_eq_true_eq, decide_eq_true_eq] at hbounds
    split at h
    · cases h
    rename_i b hb
    split at h
    · cases h
    rename_i hab
    obtain rfl := Option.some.inj h
    have hlast : (if b ≥ size then size - 1 else b) = min b (size - 1) := by
      split <;> omega
    rw [hlast]
    split at hb
    · rename_i hrest
      obtain rfl := Option.some.inj hb
      rw [min_self, hrest]
      exact .from hdash hne ha (by omega)
    · rename_i hrest
      exact .closed hdash hne ha hrest hb (by omega) (by omega)

lemma parse_of_parsed {padded : Bytes} (hsize : 0 < size) (hcomma : 0x2C ∉ Bytes.trimSpace padded)
    (h : Parsed size (Bytes.trimSpace padded) range) :
    parseSingleByteRange (bytes "bytes=" ++ padded) size = some range := by
  have hprefix : (bytes "bytes=").isPrefixOf (bytes "bytes=" ++ padded) = true :=
    List.isPrefixOf_iff_prefix.mpr (List.prefix_append ..)
  unfold parseSingleByteRange
  rw [if_neg (by omega), hprefix, Bytes.trimPrefix_append]
  dsimp only
  generalize Bytes.trimSpace padded = spec at h hcomma ⊢
  have hnocomma : Bytes.contains spec (bytes ",") = false := by
    rw [← Bool.not_eq_true]
    exact fun hin => hcomma (Bytes.contains_singleton.mp hin)
  rw [hnocomma]
  cases h with
  | @closed first last a b hdash hne hfirst hlast hread ha hab =>
    obtain ⟨c, first, rfl⟩ := List.exists_cons_of_ne_nil hne
    simp only [List.cons_append, reduceCtorEq, decide_false, Bool.or_false, Bool.not_true, Bool.false_eq_true, if_false]
    rw [← List.cons_append, Bytes.cut_append hdash]
    dsimp only
    rw [hfirst]
    dsimp only
    rw [if_neg (by simp; omega), if_neg hlast, hread]
    dsimp only
    rw [if_neg (by omega)]
    congr 2
    split <;> omega
  | @«from» first a hdash hne hfirst ha =>
    obtain ⟨c, first, rfl⟩ := List.exists_cons_of_ne_nil hne
    simp only [List.cons_append, reduceCtorEq, decide_false, Bool.or_false, Bool.not_true, Bool.false_eq_true, if_false]
    rw [← List.cons_append, Bytes.cut_append hdash]
    dsimp only
    rw [hfirst]
    dsimp only
    rw [if_neg (by simp; omega), if_pos rfl]
    dsimp only
    rw [if_neg (by omega)]
    congr 2
    split <;> omega
  | @suffix last n hread hn =>
    simp only [reduceCtorEq, decide_false, Bool.or_false, Bool.not_true, Bool.false_eq_true, if_false]
    rw [← List.nil_append (0x2D :: last), Bytes.cut_append List.not_mem_nil]
    dsimp only
    rw [hread]
    dsimp only
    rw [if_neg (by omega)]
    congr 2
    split <;> omega

/-- A range that is returned lies within the object. -/
lemma parseSingleByteRange_bounds (h : parseSingleByteRange header size = some range) :
    0 ≤ range.start ∧ range.start ≤ range.last ∧ range.last < size := by
  obtain ⟨hsize, padded, -, hparsed⟩ := parsed_of_parse h
  generalize Bytes.trimSpace padded = spec at hparsed
  cases hparsed <;> dsimp only <;> omega

/-- On plain texts the numbers that are read are those that the digits denote. -/
lemma parsed_iff_denotes (hplain : Plain spec) (hsize : 0 < size) (hbits : size < 2 ^ 63) :
    Parsed size spec range ↔ Denotes size spec range := by
  constructor
  · intro h
    cases h with
    | closed hdash hne hfirst hlast hread ha hab =>
      obtain ⟨hsign, hsign', -⟩ := hplain _ _ rfl
      obtain ⟨a, hreads, -, rfl⟩ := (parseInt_eq_some_iff hsign).mp hfirst
      obtain ⟨b, hreads', -, rfl⟩ := (parseInt_eq_some_iff hsign').mp hread
      exact .closed hreads hreads' (by omega) ha.2
    | «from» hdash hne hfirst ha =>
      obtain ⟨a, hreads, -, rfl⟩ := (parseInt_eq_some_iff (hplain _ _ rfl).1).mp hfirst
      exact .from hreads ha.2
    | @suffix last n hread hn =>
      obtain ⟨n, hreads, -, rfl⟩ := (parseInt_eq_some_iff (hplain [] last rfl).2.1).mp hread
      exact .suffix hreads (by omega) hsize
  · intro h
    cases h with
    | closed hfirst hlast hab ha =>
      obtain ⟨hsign, hsign', hbound⟩ := hplain _ _ rfl
      exact .closed (hfirst.notMem not_isDigit_dash) hfirst.nonempty
        ((parseInt_eq_some_iff hsign).mpr ⟨_, hfirst, by omega, rfl⟩) hlast.nonempty
        ((parseInt_eq_some_iff hsign').mpr ⟨_, hlast, hbound _ hlast, rfl⟩) (by omega) (by omega)
    | «from» hfirst ha =>
      exact .from (hfirst.notMem not_isDigit_dash) hfirst.nonempty
        ((parseInt_eq_some_iff (hplain _ _ rfl).1).mpr ⟨_, hfirst, by omega, rfl⟩) (by omega)
    | @suffix last n hlast hn =>
      obtain ⟨-, hsign, hbound⟩ := hplain [] last rfl
      exact .suffix ((parseInt_eq_some_iff hsign).mpr ⟨_, hlast, hbound _ hlast, rfl⟩) (by omega)

lemma Denotes.size_pos (h : Denotes size spec range) : 0 < size := by
  cases h <;> omega

/-- On plain texts the ranges that are accepted are those of the grammar, with white space around them. -/
lemma parseSingleByteRange_iff (hbits : size < 2 ^ 63)
    (hplain : ∀ padded, header = bytes "bytes=" ++ padded → Plain (Bytes.trimSpace padded)) :
    parseSingleByteRange header size = some range ↔
      ∃ padded, header = bytes "bytes=" ++ padded ∧ Denotes size (Bytes.trimSpace padded) range := by
  constructor
  · intro h
    obtain ⟨hsize, padded, rfl, hparsed⟩ := parsed_of_parse h
    exact ⟨padded, rfl, (parsed_iff_denotes (hplain padded rfl) hsize hbits).mp hparsed⟩
  · rintro ⟨padded, rfl, hdenotes⟩
    have hcomma : 0x2C ∉ Bytes.trimSpace padded := fun hin =>
      (hdenotes.chars _ hin).elim not_isDigit_comma (by decide)
    exact parse_of_parsed hdenotes.size_pos hcomma
      ((parsed_iff_denotes (hplain padded rfl) hdenotes.size_pos hbits).mpr hdenotes)

/-- Digits on both sides of the dash are plain if the number after it is small. -/
lemma plain_of_digits {first last : Bytes} (hfirst : ∀ c ∈ first, IsDigit c) (hlast : ∀ c ∈ last, IsDigit c)
    (hbound : ∀ n, Reads last n → n < 2 ^ 63) : Plain (first ++ 0x2D :: last) := by
  have hunsigned {s : Bytes} (hs : ∀ c ∈ s, IsDigit c) : ¬Signed s := by
    rintro ⟨sign, hsign, digits, n, rfl, -⟩
    have hdigit : 0x30 ≤ sign ∧ sign ≤ 0x39 := hs sign List.mem_cons_self
    have hnone : ∀ sign ∈ [(0x2B : UInt8), 0x2D], ¬(0x30 ≤ sign ∧ sign ≤ 0x39) := by decide
    exact hnone sign hsign hdigit
  intro first' last' hsplit
  suffices h : first' = first ∧ last' = last by
    rw [h.1, h.2]
    exact ⟨hunsigned hfirst, hunsigned hlast, hbound⟩
  obtain ⟨gap, rfl, hgap⟩ | ⟨gap, rfl, hgap⟩ := List.append_eq_append_iff.mp hsplit
  · obtain - | ⟨c, gap⟩ := gap
    · exact ⟨List.append_nil first, (List.cons.inj hgap).2.symm⟩
    · obtain ⟨rfl, rfl⟩ := List.cons.inj hgap
      exact absurd (hlast 0x2D (List.mem_append_right _ List.mem_cons_self)) not_isDigit_dash
  · obtain - | ⟨c, gap⟩ := gap
    · exact ⟨(List.append_nil first').symm, (List.cons.inj hgap).2⟩
    · obtain ⟨rfl, -⟩ := List.cons.inj hgap
      exact absurd (hfirst 0x2D (List.mem_append_right _ List.mem_cons_self)) not_isDigit_dash

end Parse

/-- What is sent of an asset: a part is the part that the range names, of the length that is announced. -/
structure SendsRange (asset : AssetDTO) (header : Bytes) (response : StreamResponse) : Prop where
  range : ∃ range, parseSingleByteRange (Bytes.trimSpace header) (sampleBytesFor asset.selectedFileType).length = some range ∧
    response.body = ((sampleBytesFor asset.selectedFileType).drop range.start.toNat).take
      (range.last + 1 - range.start).toNat ∧
    (response.body.length : ℤ) = range.last + 1 - range.start
  announced : ("Content-Length", toString response.body.length) ∈ response.headers

/-- No slice is taken outside the payload. -/
lemma writeAssetStream_sends [Library] (asset : AssetDTO) (header : Bytes) : ∃ response,
    writeAssetStream asset header = some response ∧ (response.status = 206 → SendsRange asset header response) := by
  unfold writeAssetStream
  dsimp only
  split
  · exact ⟨_, rfl, fun h => absurd h (by decide : (307 : ℕ) ≠ 206)⟩
  split
  · exact ⟨_, rfl, fun h => absurd h (by decide : (200 : ℕ) ≠ 206)⟩
  split
  · exact ⟨_, rfl, fun h => absurd h (by decide : (416 : ℕ) ≠ 206)⟩
  · rename_i range hrange
    obtain ⟨hstart, hlast, hsize⟩ := parseSingleByteRange_bounds hrange
    have hslice : slice (sampleBytesFor asset.selectedFileType) range.start (range.last + 1) =
        some (((sampleBytesFor asset.selectedFileType).drop range.start.toNat).take
          (range.last + 1 - range.start).toNat) := if_pos ⟨hstart, by omega, by omega⟩
    rw [hslice, Option.map_some]
    refine ⟨_, rfl, fun _ => ⟨⟨range, hrange, rfl, ?_⟩, by simp⟩⟩
    rw [List.length_take, List.length_drop]
    omega

/-- The parser reads the grammar, with white space around a range, as long as the numbers are plain;
and whatever it reads, the part that is sent lies within the object. -/
theorem parseSingleByteRange_denotes [Library] :
    (∀ header size range, parseSingleByteRange header size = some range →
      0 ≤ range.start ∧ range.start ≤ range.last ∧ range.last < size) ∧
    (∀ header size, size < 2 ^ 63 → (∀ padded, header = bytes "bytes=" ++ padded → Plain (Bytes.trimSpace padded)) →
      ∀ range, parseSingleByteRange header size = some range ↔
        ∃ padded, header = bytes "bytes=" ++ padded ∧ Denotes size (Bytes.trimSpace padded) range) ∧
    ∀ asset header, ∃ response, writeAssetStream asset header = some response ∧
      (response.status = 206 → SendsRange asset header response) :=
  ⟨fun _ _ _ => parseSingleByteRange_bounds, fun _ _ hbits hplain _ => parseSingleByteRange_iff hbits hplain,
    writeAssetStream_sends⟩

/-- All bytes but the first two of ten. -/
theorem parseSingleByteRange_two : parseSingleByteRange (bytes "bytes=2-") 10 = some ⟨2, 9⟩ := by
  have hsplit : bytes "bytes=2-" = bytes "bytes=" ++ [0x32, 0x2D] := by decide
  have htrim : Bytes.trimSpace [0x32, 0x2D] = [0x32] ++ [0x2D] := by decide
  have hreads : Reads [0x32] 2 := ⟨by simp, by unfold IsDigit; decide, rfl⟩
  have hplain : Plain ([0x32] ++ 0x2D :: []) :=
    plain_of_digits hreads.digits (fun _ h => absurd h List.not_mem_nil) fun n hn => absurd rfl hn.nonempty
  refine ((@parseSingleByteRange_denotes asciiLibrary).2.1 _ 10 (by norm_num) (fun padded h => ?_) _).mpr
    ⟨[0x32, 0x2D], hsplit, htrim ▸ .from hreads (by norm_num)⟩
  obtain rfl := List.append_cancel_left (hsplit.symm.trans h)
  rw [htrim]
  exact hplain

/-- The parser reads a range behind a blank, which the grammar does not know. -/
theorem parseSingleByteRange_blank : parseSingleByteRange (bytes "bytes= 0-4") 10 = some ⟨0, 4⟩ ∧
    ¬∃ spec, bytes "bytes= 0-4" = bytes "bytes=" ++ spec ∧ Denotes 10 spec ⟨0, 4⟩ := by
  refine ⟨by decide, ?_⟩
  rintro ⟨spec, hspec, hdenotes⟩
  have hsplit : bytes "bytes= 0-4" = bytes "bytes=" ++ bytes " 0-4" := by decide
  obtain rfl := List.append_cancel_left (hsplit.symm.trans hspec)
  obtain hdigit | hdash := hdenotes.chars 0x20 (by decide)
  · unfold IsDigit at hdigit
    revert hdigit
    decide
  · revert hdash
    decide

end ErgGo.Hoclieu
