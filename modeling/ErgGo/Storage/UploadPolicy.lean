import ErgGo.Lib.Filepath

/-!
# Upload policy

The file names and folders that uploads are stored under. A name keeps letters, digits, dots,
underscores and dashes, and a long one is cut before its extension.
-/

namespace ErgGo.Storage
open Go Go.Bytes

/-- `[a-zA-Z0-9._-]`. -/
def safeChar (b : UInt8) : Bool :=
  (0x61 ≤ b && b ≤ 0x7A) || (0x41 ≤ b && b ≤ 0x5A) || (0x30 ≤ b && b ≤ 0x39) || b = dot || b = underscore || b = dash

def nameEnds : Bytes := bytes ".-_ "

/-- `SanitizeFilename`, up to the cutset. -/
def cleanedName (filename : Bytes) : Bytes :=
  let filename := trimSpace (base filename)
  let filename := replaceAll backslash slash filename
  let filename := base filename
  let filename := replaceRuns safeChar dash filename
  trim nameEnds filename

/-- `SanitizeFilename`, from the length on. -/
def shortenedName (filename : Bytes) : Bytes :=
  if filename.length > 120 then
    let ext := ext filename
    let base := trimSuffix ext filename
    let base := if base.length > 100 then base.take 100 else base
    base ++ ext
  else filename

def sanitizeFilename (filename : Bytes) : Bytes :=
  let filename := cleanedName filename
  if filename = bytes "." ∨ filename = bytes ".." then [] else shortenedName filename

def folderParts (folder : Bytes) : List Bytes := (replaceAll backslash slash (trimSpace folder)).splitOn slash

def safeParts (folder : Bytes) : List Bytes := ((folderParts folder).map sanitizeFilename).filter (· ≠ [])

def safeFolder (folder : Bytes) : Bytes :=
  if safeParts folder = [] then bytes "default" else [slash].intercalate (safeParts folder)

section Uploads

inductive UploadKind where
  | image
  | document
  deriving DecidableEq

inductive UploadError where
  | emptyFile
  | tooLarge (maxSize : ℤ)
  | unsupportedImage (sniffed : Bytes)
  | mismatchedImage (ext sniffed : Bytes)
  | mismatchedDocument (ext sniffed declared : Bytes)
  | emptyUserID
  deriving DecidableEq

/-- What `uuid.NewString` returns: hexadecimal digits and dashes. -/
structure ObjectID where
  text : Bytes
  length_eq : text.length = 36
  chars : ∀ b ∈ text, (0x30 ≤ b && b ≤ 0x39) || (0x61 ≤ b && b ≤ 0x66) || b = dash

structure ValidatedUpload where
  originalFilename : Bytes
  objectFilename : Bytes
  contentType : Bytes
  size : ℕ

class Sniffer where
  /-- `http.DetectContentType`. -/
  detectContentType : Bytes → Bytes

def maxImageSize : ℤ := 5 * 2 ^ 20

def maxDocSize : ℤ := 10 * 2 ^ 20

def imageExtByMIME : List (Bytes × Bytes) :=
  [(bytes "image/jpeg", bytes ".jpg"), (bytes "image/png", bytes ".png"), (bytes "image/gif", bytes ".gif"),
    (bytes "image/webp", bytes ".webp")]

def docxMIME : Bytes := bytes "application/vnd.openxmlformats-officedocument.wordprocessingml.document"

def docExtByMIME : List (Bytes × Bytes) :=
  [(bytes "application/pdf", bytes ".pdf"), (bytes "application/msword", bytes ".doc"), (docxMIME, bytes ".docx")]

variable [Library] [Sniffer]

/-- A content type without its parameters. -/
def mediaType (contentType : Bytes) : Bytes := lower (trimSpace (contentType.takeWhile (· ≠ 0x3B)))

def validateContentTypeAndExtension (buf declared ext : Bytes) (kind : UploadKind) :
    Except UploadError (Bytes × Bytes) :=
  let sniffed := mediaType (Sniffer.detectContentType buf)
  let declared := mediaType declared
  match kind with
  | .image =>
    match imageExtByMIME.lookup sniffed with
    | none => .error (.unsupportedImage sniffed)
    | some canonicalExt =>
      if ext ≠ [] ∧ ext ≠ canonicalExt ∧ ¬(sniffed = bytes "image/jpeg" ∧ ext = bytes ".jpeg") then
        .error (.mismatchedImage ext sniffed)
      else .ok (sniffed, canonicalExt)
  | .document =>
    if ext = bytes ".pdf" ∧ sniffed = bytes "application/pdf" then .ok (bytes "application/pdf", bytes ".pdf")
    else if ext = bytes ".docx" ∧ (sniffed = bytes "application/zip" ∨ declared = docxMIME) then
      .ok (docxMIME, bytes ".docx")
    else if ext = bytes ".doc" ∧ declared = bytes "application/msword" then
      .ok (bytes "application/msword", bytes ".doc")
    else
      match docExtByMIME.lookup declared with
      | none => .error (.mismatchedDocument ext sniffed declared)
      | some canonicalExt =>
        if ext = canonicalExt then .ok (declared, canonicalExt)
        else .error (.mismatchedDocument ext sniffed declared)

def uploadLimit (kind : UploadKind) (maxSize : ℤ) : ℤ :=
  if maxSize ≤ 0 then
    match kind with
    | .image => maxImageSize
    | .document => maxDocSize
  else maxSize

def validateUpload (id : ObjectID) (buf originalFilename declaredContentType : Bytes) (kind : UploadKind)
    (maxSize : ℤ) : Except UploadError ValidatedUpload :=
  if buf = [] then .error .emptyFile
  else
    let maxSize := uploadLimit kind maxSize
    if (buf.length : ℤ) > maxSize then .error (.tooLarge maxSize)
    else
      let original := sanitizeFilename originalFilename
      match validateContentTypeAndExtension buf declaredContentType (lower (ext original)) kind with
      | .error e => .error e
      | .ok (contentType, canonicalExt) =>
        .ok {
          originalFilename := if original = [] then bytes "upload" ++ canonicalExt else original
          objectFilename := id.text ++ canonicalExt
          contentType := contentType
          size := buf.length }

end Uploads

/-- A component that addresses nothing but itself. -/
structure SafePart (part : Bytes) : Prop where
  ne_nil : part ≠ []
  chars : ∀ b ∈ part, safeChar b
  ne_dot : part ≠ bytes "."
  ne_dots : part ≠ bytes ".."

/-- The names made from a byte string are safe, short and stable. -/
structure Policy (s : Bytes) : Prop where
  folder_ne_nil : safeFolder s ≠ []
  parts : ∀ part ∈ (safeFolder s).splitOn slash, SafePart part
  length_le : (sanitizeFilename s).length ≤ 120
  name_stable : sanitizeFilename (sanitizeFilename s) = sanitizeFilename s
  folder_stable : safeFolder (safeFolder s) = safeFolder s

/-- A long name with a long extension. -/
def Overlong (s : Bytes) : Prop := 120 < (cleanedName s).length ∧ 20 < (ext (cleanedName s)).length

/-- A long name without extension whose hundredth byte is a separator. -/
def Exposed (s : Bytes) : Prop :=
  120 < (cleanedName s).length ∧ dot ∉ cleanedName s ∧ ∃ b ∈ (cleanedName s)[99]?, b = dash ∨ b = underscore

/-- What cleaning leaves as it is. -/
structure Clean (name : Bytes) : Prop where
  chars : ∀ b ∈ name, safeChar b
  ends : Trimmed nameEnds name

lemma notMem_of_chars {name : Bytes} (h : ∀ b ∈ name, safeChar b) : slash ∉ name ∧ backslash ∉ name :=
  ⟨fun hb => absurd (h slash hb) (by decide), fun hb => absurd (h backslash hb) (by decide)⟩

lemma graphic_of_safeChar {b : UInt8} (h : safeChar b) : graphic b := by
  simp only [safeChar, graphic, dot, underscore, dash, Bool.or_eq_true, Bool.and_eq_true, decide_eq_true_eq,
    UInt8.le_iff_toNat_le, ← UInt8.toNat_inj, UInt8.reduceToNat] at h ⊢
  omega

lemma clean_cleanedName (s : Bytes) : Clean (cleanedName s) where
  chars b hb := mem_replaceRuns (by decide : safeChar dash) b ((trim_inside _ _).subset hb)
  ends := trimmed_trim _ _

lemma cleanedName_of_chars {name : Bytes} (hne : name ≠ []) (h : ∀ b ∈ name, safeChar b) :
    cleanedName name = trim nameEnds name := by
  have hnot := notMem_of_chars h
  have hspace : trimSpace name = name := trimSpace_of_graphic fun b hb => graphic_of_safeChar (h b hb)
  simp only [cleanedName, base_eq_self hne hnot.1, hspace, replaceAll_eq_self hnot.2, replaceRuns_eq_self h]

lemma cleanedName_of_clean {name : Bytes} (h : Clean name) : cleanedName name = name := by
  by_cases hne : name = []
  · subst hne
    decide
  · exact (cleanedName_of_chars hne h.chars).trans (trim_eq_self h.ends)

lemma Clean.ne_dots {name : Bytes} (h : Clean name) : name ≠ bytes "." ∧ name ≠ bytes ".." :=
  ⟨fun hdot => h.ends.head dot (by rw [hdot]; decide) (by decide),
    fun hdots => h.ends.head dot (by rw [hdots]; decide) (by decide)⟩

lemma sanitizeFilename_eq (s : Bytes) : sanitizeFilename s = shortenedName (cleanedName s) := by
  simp only [sanitizeFilename, if_neg (not_or.mpr (clean_cleanedName s).ne_dots)]

lemma shortenedName_of_le {name : Bytes} (h : name.length ≤ 120) : shortenedName name = name := if_neg (by omega)

lemma shortenedName_of_dot_notMem {name : Bytes} (hlength : 120 < name.length) (hdot : dot ∉ name) :
    shortenedName name = name.take 100 := by
  have htrim : trimSuffix [] name = name := by simpa only [List.append_nil] using trimSuffix_append name []
  simp only [shortenedName, gt_iff_lt, if_pos hlength, ext_eq_nil hdot, htrim, if_pos (show 100 < name.length by omega),
    List.append_nil]

lemma shortenedName_append {stem tail : Bytes} (hslash : slash ∉ stem ∧ slash ∉ tail) (hdot : dot ∉ tail)
    (hlength : 120 < (stem ++ dot :: tail).length) :
    shortenedName (stem ++ dot :: tail) = stem.take 100 ++ dot :: tail := by
  have htake : (if 100 < stem.length then stem.take 100 else stem) = stem.take 100 := by
    split
    · rfl
    · exact (List.take_of_length_le (by omega)).symm
  simp only [shortenedName, gt_iff_lt, if_pos hlength, ext_append hslash.1 hslash.2 hdot, trimSuffix_append, htake]

/-- A clean name is one without dots, or has an extension after its last dot. -/
lemma Clean.cases {name : Bytes} (h : Clean name) : dot ∉ name ∨
    ∃ stem tail, name = stem ++ dot :: tail ∧ dot ∉ tail ∧ stem ≠ [] ∧ slash ∉ stem ∧ slash ∉ tail := by
  by_cases hdot : dot ∈ name
  · obtain ⟨stem, tail, rfl, htail⟩ := exists_last_dot hdot
    have hslash := (notMem_of_chars h.chars).1
    refine .inr ⟨stem, tail, rfl, htail, ?_, fun hs => hslash (by simp [hs]), fun hs => hslash (by simp [hs])⟩
    rintro rfl
    exact h.ends.head dot rfl (by decide)
  · exact .inl hdot

lemma length_shortenedName_le_iff {name : Bytes} (h : Clean name) :
    (shortenedName name).length ≤ 120 ↔ ¬(120 < name.length ∧ 20 < (ext name).length) := by
  by_cases hlength : 120 < name.length
  · obtain hdot | ⟨stem, tail, rfl, htail, -, hslash⟩ := h.cases
    · simp [shortenedName_of_dot_notMem hlength hdot, ext_eq_nil hdot]
    · rw [shortenedName_append hslash htail hlength, ext_append hslash.1 hslash.2 htail]
      simp only [List.length_append, List.length_take, List.length_cons] at hlength ⊢
      omega
  · rw [shortenedName_of_le (by omega)]
    omega

lemma shortenedName_shortenedName {name : Bytes} (h : Clean name) :
    shortenedName (shortenedName name) = shortenedName name := by
  by_cases hlength : 120 < name.length
  · obtain hdot | ⟨stem, tail, rfl, htail, -, hslash⟩ := h.cases
    · rw [shortenedName_of_dot_notMem hlength hdot]
      exact shortenedName_of_le (by simp)
    · rw [shortenedName_append hslash htail hlength]
      have hslash' : slash ∉ stem.take 100 ∧ slash ∉ tail := ⟨mt List.mem_of_mem_take hslash.1, hslash.2⟩
      by_cases hagain : 120 < (stem.take 100 ++ dot :: tail).length
      · rw [shortenedName_append hslash' htail hagain, List.take_take, min_self]
      · exact shortenedName_of_le (by omega)
  · have hle : name.length ≤ 120 := by omega
    rw [shortenedName_of_le hle, shortenedName_of_le hle]

lemma chars_shortenedName {name : Bytes} (h : Clean name) : ∀ b ∈ shortenedName name, safeChar b := by
  intro b hb
  refine h.chars b ?_
  by_cases hlength : 120 < name.length
  · obtain hdot | ⟨stem, tail, rfl, htail, -, hslash⟩ := h.cases
    · rw [shortenedName_of_dot_notMem hlength hdot] at hb
      exact List.mem_of_mem_take hb
    · rw [shortenedName_append hslash htail hlength] at hb
      rcases List.mem_append.mp hb with hb | hb
      · exact List.mem_append_left _ (List.mem_of_mem_take hb)
      · exact List.mem_append_right _ hb
  · rwa [shortenedName_of_le (by omega)] at hb

lemma head?_shortenedName {name : Bytes} (h : Clean name) : (shortenedName name).head? = name.head? := by
  by_cases hlength : 120 < name.length
  · obtain hdot | ⟨stem, tail, rfl, htail, hstem, hslash⟩ := h.cases
    · rw [shortenedName_of_dot_notMem hlength hdot, List.head?_take]
      simp
    · obtain ⟨b, stem, rfl⟩ := List.exists_cons_of_ne_nil hstem
      rw [shortenedName_append hslash htail hlength]
      rfl
  · rw [shortenedName_of_le (by omega)]

lemma notMem_nameEnds_iff {b : UInt8} (h : safeChar b) : b ∉ nameEnds ↔ ¬(b = dot ∨ b = dash ∨ b = underscore) := by
  have hspace : b ≠ 0x20 := fun hb => absurd (hb ▸ h) (by decide)
  have hends : nameEnds = [dot, dash, underscore, 0x20] := rfl
  simp [hends, hspace]

/-- Only cutting a name without extension can leave a separator at its end. -/
lemma clean_shortenedName_iff {name : Bytes} (h : Clean name) :
    Clean (shortenedName name) ↔
      ¬(120 < name.length ∧ dot ∉ name ∧ ∃ b ∈ name[99]?, b = dash ∨ b = underscore) := by
  have hchars := chars_shortenedName h
  have hhead : ∀ b ∈ (shortenedName name).head?, b ∉ nameEnds := head?_shortenedName h ▸ h.ends.head
  have hiff : Clean (shortenedName name) ↔ ∀ b ∈ (shortenedName name).getLast?, b ∉ nameEnds :=
    ⟨fun hclean => hclean.ends.last, fun hlast => ⟨hchars, hhead, hlast⟩⟩
  rw [hiff]
  by_cases hlength : 120 < name.length
  · obtain hdot | ⟨stem, tail, rfl, htail, -, hslash⟩ := h.cases
    · have hlast : name[99]? = some name[99] := List.getElem?_eq_getElem (by omega)
      have hmem : name[99] ∈ name := List.getElem_mem _
      have hne : name[99] ≠ dot := fun hb => hdot (hb ▸ hmem)
      rw [shortenedName_of_dot_notMem hlength hdot, List.getLast?_take]
      simp [hlast, hlength, hdot, hne, notMem_nameEnds_iff (h.chars _ hmem)]
    · rw [shortenedName_append hslash htail hlength]
      have hlast : (stem.take 100 ++ dot :: tail).getLast? = (stem ++ dot :: tail).getLast? := by
        obtain ⟨b, hb⟩ := List.getLast?_isSome (l := dot :: tail) |>.mpr (by simp) |> Option.isSome_iff_exists.mp
        rw [List.getLast?_append, List.getLast?_append, hb]
        rfl
      rw [hlast]
      exact iff_of_true h.ends.last fun hexposed => hexposed.2.1 (by simp)
  · rw [shortenedName_of_le (by omega)]
    exact iff_of_true h.ends.last fun hexposed => hlength hexposed.1

lemma sanitizeFilename_of_clean {name : Bytes} (h : Clean name) : sanitizeFilename name = shortenedName name := by
  rw [sanitizeFilename_eq, cleanedName_of_clean h]

/-- A name of safe characters that is short enough is stable only if it is clean. -/
lemma clean_of_sanitizeFilename_eq_self {name : Bytes} (hchars : ∀ b ∈ name, safeChar b) (hlength : name.length ≤ 120)
    (hself : sanitizeFilename name = name) : Clean name := by
  by_cases hne : name = []
  · rw [hne, ← show cleanedName [] = [] by decide]
    exact clean_cleanedName []
  · have hle : (cleanedName name).length ≤ 120 := by
      rw [cleanedName_of_chars hne hchars]
      exact (trim_inside _ _).length_le.trans hlength
    rw [sanitizeFilename_eq, shortenedName_of_le hle] at hself
    exact hself ▸ clean_cleanedName name

theorem sanitizeFilename_stable_iff (s : Bytes) :
    sanitizeFilename (sanitizeFilename s) = sanitizeFilename s ↔ ¬Exposed s := by
  have hclean := clean_cleanedName s
  have hiff := clean_shortenedName_iff hclean
  constructor
  · rintro hstable ⟨hlength, hdot, hseparator⟩
    have htake := shortenedName_of_dot_notMem hlength hdot
    rw [sanitizeFilename_eq s] at hstable
    have hshort : (shortenedName (cleanedName s)).length ≤ 120 := by rw [htake]; simp
    have hagain := clean_of_sanitizeFilename_eq_self (chars_shortenedName hclean) hshort hstable
    exact hiff.mp hagain ⟨hlength, hdot, hseparator⟩
  · intro hexposed
    rw [sanitizeFilename_eq s, sanitizeFilename_of_clean (hiff.mpr hexposed), shortenedName_shortenedName hclean]

lemma safePart_sanitizeFilename {s : Bytes} (hne : sanitizeFilename s ≠ []) : SafePart (sanitizeFilename s) := by
  have hclean := clean_cleanedName s
  rw [sanitizeFilename_eq] at hne ⊢
  have hdot : (shortenedName (cleanedName s)).head? ≠ some dot := by
    rw [head?_shortenedName hclean]
    exact fun hhead => hclean.ends.head dot hhead (by decide)
  exact ⟨hne, chars_shortenedName hclean, fun h => hdot (by rw [h]; rfl), fun h => hdot (by rw [h]; rfl)⟩

lemma safePart_of_mem_safeParts {folder part : Bytes} (h : part ∈ safeParts folder) : SafePart part := by
  obtain ⟨hmem, hne⟩ := List.mem_filter.mp h
  obtain ⟨raw, -, rfl⟩ := List.mem_map.mp hmem
  exact safePart_sanitizeFilename (of_decide_eq_true hne)

lemma splitOn_safeFolder (folder : Bytes) :
    (safeFolder folder).splitOn slash = if safeParts folder = [] then [bytes "default"] else safeParts folder := by
  unfold safeFolder
  split
  · decide
  · next hne =>
    refine List.splitOn_intercalate slash (fun part hpart => ?_) hne
    exact (notMem_of_chars (safePart_of_mem_safeParts hpart).chars).1

/-- A folder is a path of safe components. -/
theorem safePart_of_mem_splitOn {folder part : Bytes} (h : part ∈ (safeFolder folder).splitOn slash) :
    SafePart part := by
  rw [splitOn_safeFolder] at h
  split at h
  · rw [List.mem_singleton.mp h]
    exact ⟨by decide, by decide, by decide, by decide⟩
  · exact safePart_of_mem_safeParts h

lemma safeChar_or_slash_of_mem_safeFolder {folder : Bytes} {b : UInt8} (h : b ∈ safeFolder folder) :
    safeChar b ∨ b = slash := by
  have hsplit : [slash].intercalate ((safeFolder folder).splitOn slash) = safeFolder folder :=
    List.intercalate_splitOn slash
  rw [← hsplit] at h
  rcases mem_intercalate h with hb | ⟨part, hpart, hb⟩
  · exact .inr hb
  · exact .inl ((safePart_of_mem_splitOn hpart).chars b hb)

lemma safeFolder_ne_nil (folder : Bytes) : safeFolder folder ≠ [] := by
  intro hnil
  have hpart : [] ∈ (safeFolder folder).splitOn slash := by
    rw [hnil]
    decide
  exact (safePart_of_mem_splitOn hpart).ne_nil rfl

lemma folderParts_safeFolder (folder : Bytes) :
    folderParts (safeFolder folder) = (safeFolder folder).splitOn slash := by
  have hgraphic : ∀ b ∈ safeFolder folder, graphic b ∧ b ≠ backslash := by
    intro b hb
    rcases safeChar_or_slash_of_mem_safeFolder hb with h | rfl
    · exact ⟨graphic_of_safeChar h, fun hb => absurd (hb ▸ h) (by decide)⟩
    · decide
  have hbackslash : backslash ∉ safeFolder folder := fun hb => (hgraphic _ hb).2 rfl
  rw [folderParts, trimSpace_of_graphic fun b hb => (hgraphic b hb).1, replaceAll_eq_self hbackslash]

/-- A folder is stable when the names of its components are. -/
theorem safeFolder_stable_iff (folder : Bytes) :
    safeFolder (safeFolder folder) = safeFolder folder ↔ ∀ part ∈ folderParts folder, ¬Exposed part := by
  have hexposed : (∀ part ∈ folderParts folder, ¬Exposed part) ↔
      ∀ part ∈ safeParts folder, sanitizeFilename part = part := by
    simp only [safeParts, List.mem_filter, List.mem_map, decide_eq_true_eq]
    constructor
    · rintro h _ ⟨⟨raw, hraw, rfl⟩, -⟩
      exact (sanitizeFilename_stable_iff raw).mpr (h raw hraw)
    · intro h raw hraw
      refine (sanitizeFilename_stable_iff raw).mp ?_
      by_cases hempty : sanitizeFilename raw = []
      · rw [hempty]
        decide
      · exact h _ ⟨⟨raw, hraw, rfl⟩, hempty⟩
  by_cases hnone : safeParts folder = []
  · have hdefault : safeFolder folder = bytes "default" := if_pos hnone
    have hstable : safeFolder (bytes "default") = bytes "default" := by decide
    rw [hexposed, hnone, hdefault]
    exact iff_of_true hstable (by simp)
  · have hparts : folderParts (safeFolder folder) = safeParts folder := by
      rw [folderParts_safeFolder, splitOn_safeFolder, if_neg hnone]
    have hsafe : safeParts (safeFolder folder) = ((safeParts folder).map sanitizeFilename).filter (· ≠ []) := by
      rw [safeParts, hparts]
    rw [hexposed]
    constructor
    · intro hstable part hpart
      have hsplit := splitOn_safeFolder (safeFolder folder)
      rw [hstable, splitOn_safeFolder, if_neg hnone, hsafe] at hsplit
      split at hsplit
      · rw [hsplit, List.mem_singleton] at hpart
        rw [hpart]
        decide
      · -- nothing can have been left out, so that the names are the same one by one
        have hlength := congrArg List.length hsplit
        have hall : ((safeParts folder).map sanitizeFilename).filter (· ≠ []) =
            (safeParts folder).map sanitizeFilename := by
          refine List.filter_sublist.eq_of_length ?_
          rw [← hlength, List.length_map]
        have hmap : (safeParts folder).map sanitizeFilename = (safeParts folder).map id := by
          rw [List.map_id, ← hall, ← hsplit]
        exact List.map_inj_left.mp hmap part hpart
    · intro h
      have hmap : (safeParts folder).map sanitizeFilename = safeParts folder :=
        (List.map_congr_left h).trans (List.map_id _)
      have hfilter : (safeParts folder).filter (· ≠ []) = safeParts folder :=
        List.filter_eq_self.mpr fun part hpart => decide_eq_true (safePart_of_mem_safeParts hpart).ne_nil
      rw [hmap, hfilter] at hsafe
      rw [safeFolder, hsafe]
      rfl

/-- What the policy promises holds exactly where no long name has a long extension or loses its
last part at a separator. -/
theorem policy_iff (s : Bytes) :
    Policy s ↔ ¬Overlong s ∧ ¬Exposed s ∧ ∀ part ∈ folderParts s, ¬Exposed part := by
  have hlength : (sanitizeFilename s).length ≤ 120 ↔ ¬Overlong s := by
    rw [sanitizeFilename_eq]
    exact length_shortenedName_le_iff (clean_cleanedName s)
  rw [← hlength, ← sanitizeFilename_stable_iff, ← safeFolder_stable_iff]
  exact ⟨fun h => ⟨h.length_le, h.name_stable, h.folder_stable⟩,
    fun ⟨hle, hname, hfolder⟩ => ⟨safeFolder_ne_nil s, fun _ => safePart_of_mem_splitOn, hle, hname, hfolder⟩⟩

/-- An extension is never cut; a cut name can end in a separator. -/
theorem long_names_break_policy : ¬Policy (bytes "a." ++ List.replicate 130 0x62) ∧
    ¬Policy (List.replicate 99 0x61 ++ bytes "_" ++ List.replicate 30 0x61) :=
  ⟨fun h => absurd h.length_le (by decide +kernel), fun h => absurd h.name_stable (by decide +kernel)⟩

section Uploads

lemma ObjectID.safe (id : ObjectID) : ∀ b ∈ id.text, safeChar b := by
  intro b hb
  have h := id.chars b hb
  simp only [safeChar, dot, underscore, dash, Bool.or_eq_true, Bool.and_eq_true, decide_eq_true_eq,
    UInt8.le_iff_toNat_le, ← UInt8.toNat_inj, UInt8.reduceToNat] at h ⊢
  omega

lemma safe_of_lookup {table : List (Bytes × Bytes)} (h : ∀ entry ∈ table, ∀ b ∈ entry.2, safeChar b)
    {mime ext : Bytes} (hlookup : table.lookup mime = some ext) : ∀ b ∈ ext, safeChar b := by
  obtain ⟨before, after, rfl, -⟩ := List.lookup_eq_some_iff.mp hlookup
  exact h (mime, ext) (by simp)

lemma safe_of_ok {contentType canonicalExt mime ext : Bytes}
    (h : (.ok (mime, ext) : Except UploadError (Bytes × Bytes)) = .ok (contentType, canonicalExt))
    (hext : ∀ b ∈ ext, safeChar b) : ∀ b ∈ canonicalExt, safeChar b := by
  obtain ⟨-, rfl⟩ := Prod.mk.inj (Except.ok.inj h)
  exact hext

variable [Library] [Sniffer]

lemma canonicalExt_safe {buf declared ext contentType canonicalExt : Bytes} {kind : UploadKind}
    (h : validateContentTypeAndExtension buf declared ext kind = .ok (contentType, canonicalExt)) :
    ∀ b ∈ canonicalExt, safeChar b := by
  unfold validateContentTypeAndExtension at h
  cases kind with
  | image =>
    simp only at h
    split at h
    · cases h
    · next hlookup =>
      split at h
      · cases h
      · exact safe_of_ok h (safe_of_lookup (by decide) hlookup)
  | document =>
    simp only at h
    split at h
    · exact safe_of_ok h (by decide)
    · split at h
      · exact safe_of_ok h (by decide)
      · split at h
        · exact safe_of_ok h (by decide)
        · split at h
          · cases h
          · next hlookup =>
            split at h
            · exact safe_of_ok h (safe_of_lookup (by decide) hlookup)
            · cases h

/-- The object name of a validated upload is safe, whatever the name it came with. -/
lemma objectFilename_safe {id : ObjectID} {buf filename declared : Bytes} {kind : UploadKind} {maxSize : ℤ}
    {validated : ValidatedUpload} (h : validateUpload id buf filename declared kind maxSize = .ok validated) :
    ∀ b ∈ validated.objectFilename, safeChar b := by
  unfold validateUpload at h
  split at h
  · cases h
  · simp only at h
    split at h
    · cases h
    · split at h
      · cases h
      · next hvalid =>
        obtain rfl := Except.ok.inj h
        intro b hb
        rcases List.mem_append.mp hb with hb | hb
        · exact id.safe b hb
        · exact canonicalExt_safe hvalid b hb

end Uploads

end ErgGo.Storage
