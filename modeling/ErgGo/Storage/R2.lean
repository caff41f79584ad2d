import ErgGo.Lib.Url
import ErgGo.Storage.UploadPolicy

/-!
# Objects and their URLs

An upload stores an object under a key and returns the public URL of the key. Files are read and
deleted by URL, from which the key is found again.
-/

namespace ErgGo.Storage
open Go Go.Bytes Go.Url

/-- What the URLs of a bucket depend on. -/
structure R2Client where
  publicDomain : Bytes

def newR2Client (publicDomain : Bytes) : R2Client := ⟨trimSuffix [slash] publicDomain⟩

inductive KeyError where
  | parseURL (fileURL : Bytes)
  | untrustedHost (host expected : Bytes)
  deriving DecidableEq

def R2Client.publicURL (r : R2Client) (key : Bytes) : Bytes :=
  if r.publicDomain = [] then slash :: key else r.publicDomain ++ slash :: key

def R2Client.keyFromURL [UrlLibrary] (r : R2Client) (fileURL : Bytes) : Except KeyError Bytes :=
  let fileURL := trimSpace fileURL
  if !fileURL.contains (bytes "://") then .ok (trimPrefix [slash] fileURL)
  else
    match Url.parse fileURL with
    | none => .error (.parseURL fileURL)
    | some u =>
      -- a public domain that is no URL trusts every host
      match if r.publicDomain = [] then none else Url.parse r.publicDomain with
      | none => .ok (trimPrefix [slash] u.path)
      | some pub =>
        if u.host ≠ pub.host then .error (.untrustedHost u.host pub.host) else .ok (trimPrefix [slash] u.path)

/-- The calls that upload something. The content of an image is checked elsewhere. -/
inductive Upload where
  | uploadImage (folder : Bytes)
  | processAndUpload (folder : Bytes)
  | uploadAvatar (userID : Bytes)
  | uploadRawFile (buf folder filename mime : Bytes)
  | uploadRaw (buf folder filename mime : Bytes)
  | uploadLearningAsset (buf folder filename : Bytes)

section Uploads

variable [Library] [Sniffer]

/-- The key that an upload stores its object under. -/
def objectKey (id : ObjectID) : Upload → Except UploadError Bytes
  | .uploadImage folder => .ok (bytes "images/" ++ safeFolder folder ++ slash :: (id.text ++ bytes ".webp"))
  | .processAndUpload folder => .ok (bytes "images/" ++ safeFolder folder ++ slash :: (id.text ++ bytes ".png"))
  | .uploadAvatar userID =>
    if trimSpace userID = [] then .error .emptyUserID
    else .ok (bytes "avatar/" ++ safeFolder userID ++ slash :: (id.text ++ bytes ".jpg"))
  | .uploadRawFile buf folder filename mime =>
    (validateUpload id buf filename mime .document maxDocSize).map fun validated =>
      bytes "raw/" ++ safeFolder folder ++ slash :: validated.objectFilename
  | .uploadRaw buf folder filename mime =>
    let kind := if bytes "image/" <+: lower (trimSpace mime) then UploadKind.image else .document
    let maxSize := if kind = .image then maxImageSize else maxDocSize
    (validateUpload id buf filename mime kind maxSize).map fun validated =>
      bytes "raw/" ++ safeFolder folder ++ slash :: validated.objectFilename
  | .uploadLearningAsset buf folder filename =>
    if buf = [] then .error .emptyFile
    else if buf.length > 250 * 2 ^ 20 then .error (.tooLarge (250 * 2 ^ 20))
    else
      let safeName := sanitizeFilename filename
      let safeName := if safeName = [] then bytes "learning-asset.bin" else safeName
      .ok (bytes "hoclieu/" ++ safeFolder folder ++ slash :: (id.text ++ bytes "-" ++ safeName))

end Uploads

/-- A host and perhaps a port. -/
structure HostName where
  text : Bytes
  ne_nil : text ≠ []
  slash_notMem : slash ∉ text
  trimmed : trimSpace text = text

/-- An absolute URL of a host, with or without a path. -/
structure WebURL [UrlLibrary] where
  scheme : Bytes
  authority : Bytes
  path : Bytes
  isScheme : IsScheme scheme
  authority_ne_nil : authority ≠ []
  authority_plain : ∀ b ∈ authority, plain b ∧ b ≠ slash
  names_host : (UrlLibrary.parseAuthority (lowerScheme scheme) authority).isSome
  path_plain : ∀ b ∈ path, plain b
  path_root : path = [] ∨ [slash] <+: path

/-- The public domains that are configured. -/
inductive PublicDomain [UrlLibrary] where
  | unset
  | host (name : HostName)
  | url (u : WebURL)

/-- What every key looks like. -/
structure IsKey (key : Bytes) : Prop where
  chars : ∀ b ∈ key, safeChar b ∨ b = slash
  head : ∃ b ∈ key.head?, safeChar b

lemma graphic_of_letter {b : UInt8} (h : letter b) : graphic b := by
  simp only [letter, graphic, Bool.or_eq_true, Bool.and_eq_true, decide_eq_true_eq, UInt8.le_iff_toNat_le,
    UInt8.reduceToNat] at h ⊢
  omega

lemma isKey_append {initial name : Bytes} (hinitial : ∀ b ∈ initial, safeChar b ∨ b = slash)
    (hhead : ∃ b ∈ initial.head?, safeChar b) (folder : Bytes) (hname : ∀ b ∈ name, safeChar b) :
    IsKey (initial ++ safeFolder folder ++ slash :: name) := by
  constructor
  · intro b hb
    simp only [List.mem_append, List.mem_cons] at hb
    rcases hb with (hb | hb) | rfl | hb
    · exact hinitial b hb
    · exact safeChar_or_slash_of_mem_safeFolder hb
    · exact .inr rfl
    · exact .inl (hname b hb)
  · obtain ⟨b, hb, hsafe⟩ := hhead
    refine ⟨b, ?_, hsafe⟩
    rw [Option.mem_def, List.append_assoc, List.head?_append, Option.mem_def.mp hb, Option.some_or]

lemma sanitizeFilename_chars {s : Bytes} {b : UInt8} (h : b ∈ sanitizeFilename s) : safeChar b := by
  rw [sanitizeFilename_eq] at h
  exact chars_shortenedName (clean_cleanedName s) b h

lemma plain_of_safeChar {b : UInt8} (h : safeChar b) : Url.plain b := by
  simp only [safeChar, dot, underscore, dash, Url.plain, Url.control, numberSign, questionMark, Bool.or_eq_true,
    Bool.and_eq_true, Bool.not_eq_true', Bool.or_eq_false_iff, decide_eq_true_eq, decide_eq_false_iff_not, ne_eq,
    UInt8.le_iff_toNat_le, UInt8.lt_iff_toNat_lt, ← UInt8.toNat_inj, UInt8.reduceToNat] at h ⊢
  omega

lemma isKey_raw [Library] [Sniffer] {id : ObjectID} {buf folder filename mime key : Bytes} {kind : UploadKind}
    {maxSize : ℤ} (h : (validateUpload id buf filename mime kind maxSize).map
      (fun validated => bytes "raw/" ++ safeFolder folder ++ slash :: validated.objectFilename) = .ok key) :
    IsKey key := by
  cases hvalid : validateUpload id buf filename mime kind maxSize with
  | error e =>
    rw [hvalid] at h
    cases h
  | ok validated =>
    rw [hvalid] at h
    cases h
    exact isKey_append (by decide) ⟨_, rfl, by decide⟩ folder (objectFilename_safe hvalid)

lemma isKey_of_objectKey [Library] [Sniffer] {id : ObjectID} {upload : Upload} {key : Bytes}
    (h : objectKey id upload = .ok key) : IsKey key := by
  have hid : ∀ rest : Bytes, (∀ b ∈ rest, safeChar b) → ∀ b ∈ id.text ++ rest, safeChar b := by
    intro rest hrest b hb
    exact (List.mem_append.mp hb).elim (id.safe b) (hrest b)
  cases upload with
  | uploadImage folder =>
    cases h
    exact isKey_append (by decide) ⟨_, rfl, by decide⟩ folder (hid _ (by decide))
  | processAndUpload folder =>
    cases h
    exact isKey_append (by decide) ⟨_, rfl, by decide⟩ folder (hid _ (by decide))
  | uploadAvatar userID =>
    simp only [objectKey] at h
    split at h
    · cases h
    · cases h
      exact isKey_append (by decide) ⟨_, rfl, by decide⟩ userID (hid _ (by decide))
  | uploadRawFile buf folder filename mime => exact isKey_raw h
  | uploadRaw buf folder filename mime => exact isKey_raw h
  | uploadLearningAsset buf folder filename =>
    simp only [objectKey] at h
    split at h
    · cases h
    · split at h
      · cases h
      · cases h
        refine isKey_append (by decide) ⟨_, rfl, by decide⟩ folder ?_
        rw [List.append_assoc]
        refine hid _ fun b hb => ?_
        rcases List.mem_append.mp hb with hb | hb
        · exact (by decide : ∀ b ∈ bytes "-", safeChar b) b hb
        · split at hb
          · exact (by decide : ∀ b ∈ bytes "learning-asset.bin", safeChar b) b hb
          · exact sanitizeFilename_chars hb

lemma IsKey.graphic {key : Bytes} (h : IsKey key) : ∀ b ∈ key, Go.graphic b := by
  intro b hb
  rcases h.chars b hb with hsafe | rfl
  · exact graphic_of_safeChar hsafe
  · decide

lemma IsKey.plain {key : Bytes} (h : IsKey key) : ∀ b ∈ key, Url.plain b := by
  intro b hb
  rcases h.chars b hb with hsafe | rfl
  · exact plain_of_safeChar hsafe
  · decide

lemma IsKey.notMem {key : Bytes} (h : IsKey key) : colon ∉ key ∧ percent ∉ key :=
  ⟨fun hb => absurd (h.chars colon hb) (by decide), fun hb => absurd (h.chars percent hb) (by decide)⟩

lemma IsKey.last {key : Bytes} (h : IsKey key) (s : Bytes) : ∀ b ∈ (s ++ slash :: key).getLast?, Go.graphic b := by
  intro b hb
  have hmem : b ∈ slash :: key := by
    obtain ⟨last, hlast⟩ := Option.isSome_iff_exists.mp (List.getLast?_isSome.mpr (List.cons_ne_nil slash key))
    rw [Option.mem_def, List.getLast?_append, hlast, Option.some_or] at hb
    exact Option.some.inj hb ▸ List.mem_of_getLast? hlast
  rcases List.mem_cons.mp hmem with rfl | hb
  · decide
  · exact h.graphic b hb

lemma IsKey.ne_slash_cons {key : Bytes} (h : IsKey key) (rest : Bytes) : key ≠ slash :: rest := by
  rintro rfl
  obtain ⟨b, hb, hsafe⟩ := h.head
  cases hb
  exact absurd hsafe (by decide)

/-- A colon of the text before the key's slash has no second slash after it. -/
lemma not_contains_of_slash_notMem {s key : Bytes} (hs : slash ∉ s) (hkey : IsKey key) :
    ¬bytes "://" <:+: s ++ slash :: key := by
  rintro ⟨before, after, h⟩
  have hsplit : (before ++ [colon]) ++ slash :: slash :: after = s ++ slash :: key := by
    rw [← h]
    simp [show bytes "://" = [colon, slash, slash] from rfl]
  obtain ⟨middle, hs', hrest⟩ | ⟨middle, hbefore, hrest⟩ := List.append_eq_append_iff.mp hsplit
  · cases middle with
    | nil => exact hkey.ne_slash_cons after (List.cons.inj hrest).2.symm
    | cons b middle =>
      have hb : slash = b := (List.cons.inj hrest).1
      exact hs (by rw [hs', hb]; simp)
  · obtain rfl | hne := eq_or_ne middle []
    · exact hkey.ne_slash_cons after (List.cons.inj hrest).2
    · have hlast : middle.getLast hne = colon := by
        have hlast := congrArg List.getLast? hbefore
        rw [List.getLast?_concat, List.getLast?_append, List.getLast?_eq_some_getLast hne, Option.some_or] at hlast
        exact (Option.some.inj hlast).symm
      have hmem : colon ∈ slash :: key := by
        rw [hrest, ← hlast]
        exact List.mem_append_left _ (List.getLast_mem hne)
      exact (List.mem_cons.mp hmem).elim (by decide) hkey.notMem.1

lemma trimPrefix_ne_key {key initial : Bytes} (hinitial : initial ≠ []) :
    trimPrefix [slash] (initial ++ slash :: key) ≠ key := by
  intro h
  have hle := length_le_trimPrefix [slash] (initial ++ slash :: key)
  have hpos := List.length_pos_iff.mpr hinitial
  rw [h] at hle
  simp only [List.length_append, List.length_cons, List.length_nil] at hle
  omega

section Domains

variable [UrlLibrary]

def PublicDomain.text : PublicDomain → Bytes
  | .unset => []
  | .host name => name.text
  | .url u => u.scheme ++ colon :: slash :: slash :: (u.authority ++ u.path)

/-- Objects stand directly under the domain. -/
def PublicDomain.Rooted : PublicDomain → Prop
  | .unset => True
  | .host _ => False
  | .url u => u.path = [] ∨ u.path = [slash]

/-- Without a scheme the whole text is the key, but for one slash. -/
lemma keyFromURL_of_not_contains {r : R2Client} {fileURL : Bytes} (htrim : trimSpace fileURL = fileURL)
    (h : ¬bytes "://" <:+: fileURL) : r.keyFromURL fileURL = .ok (trimPrefix [slash] fileURL) := by
  unfold R2Client.keyFromURL
  simp only [htrim]
  exact if_pos (by simp [Bytes.contains, h])

lemma keyFromURL_unset {key : Bytes} (hkey : IsKey key) :
    (newR2Client []).keyFromURL ((newR2Client []).publicURL key) = .ok key := by
  have htrim : trimSpace (slash :: key) = slash :: key := by
    refine trimSpace_of_graphic fun b hb => ?_
    rcases List.mem_cons.mp hb with rfl | hb
    · decide
    · exact hkey.graphic b hb
  have hnone : ¬bytes "://" <:+: slash :: key := by
    intro h
    have hmem : colon ∈ slash :: key := h.subset (by decide)
    exact (List.mem_cons.mp hmem).elim (by decide) hkey.notMem.1
  change (newR2Client []).keyFromURL (slash :: key) = _
  rw [keyFromURL_of_not_contains htrim hnone]
  exact congrArg _ (trimPrefix_append [slash] key)

/-- A bare host makes a relative URL, of which the host is the first element. -/
lemma keyFromURL_host {key : Bytes} (hkey : IsKey key) (name : HostName) :
    (newR2Client name.text).keyFromURL ((newR2Client name.text).publicURL key) ≠ .ok key := by
  have hdomain : trimSuffix [slash] name.text = name.text := by
    refine if_neg fun hends => name.slash_notMem (hends.subset List.mem_cons_self)
  have hpublic : (newR2Client name.text).publicURL key = name.text ++ slash :: key := by
    simp only [newR2Client, hdomain, R2Client.publicURL, if_neg name.ne_nil]
  have htrim : trimSpace (name.text ++ slash :: key) = name.text ++ slash :: key := by
    obtain ⟨hstart, -⟩ := trimSpace_eq_self_iff.mp name.trimmed
    refine trimSpace_eq_self_iff.mpr ⟨fun word hword hinitial => ?_, fun word hword => ?_⟩
    · have hslash : ∀ word ∈ spaces, slash ∉ word := by decide
      exact hstart word hword (prefix_of_prefix_append hinitial (hslash word hword))
    · exact not_suffix_of_graphic (hkey.last name.text) hword
  have hnone : ¬bytes "://" <:+: name.text ++ slash :: key :=
    not_contains_of_slash_notMem name.slash_notMem hkey
  rw [hpublic, keyFromURL_of_not_contains htrim hnone]
  exact fun h => trimPrefix_ne_key name.ne_nil (Except.ok.inj h)

section Absolute

variable (u : WebURL)

/-- The path of the domain, without its last slash. -/
def WebURL.stem : Bytes := trimSuffix [slash] u.path

lemma WebURL.stem_eq : u.stem = if u.path.getLast? = some slash then u.path.dropLast else u.path :=
  trimSuffix_singleton slash u.path

lemma WebURL.stem_plain : ∀ b ∈ u.stem, Url.plain b := by
  intro b hb
  rw [u.stem_eq] at hb
  split at hb
  · exact u.path_plain b (List.dropLast_subset _ hb)
  · exact u.path_plain b hb

lemma WebURL.stem_cases :
    u.stem = [] ∧ (u.path = [] ∨ u.path = [slash]) ∨
      (∃ rest, u.stem = slash :: rest) ∧ ¬(u.path = [] ∨ u.path = [slash]) := by
  rw [u.stem_eq]
  obtain hpath | ⟨rest, hpath⟩ := u.path_root
  · simp [hpath]
  · cases rest with
    | nil => simp [← hpath]
    | cons b rest =>
      right
      rw [← hpath]
      split <;> simp

lemma WebURL.newR2Client_text : newR2Client (PublicDomain.url u).text =
    ⟨u.scheme ++ colon :: slash :: slash :: (u.authority ++ u.stem)⟩ := by
  have hlast : (u.scheme ++ colon :: slash :: slash :: u.authority).getLast? ≠ some slash := by
    have hauthority := List.getLast?_eq_some_getLast u.authority_ne_nil
    have hne := (u.authority_plain _ (List.getLast_mem u.authority_ne_nil)).2
    simp [List.getLast?_append, List.getLast?_cons, hauthority, hne]
  have htrim := trimSuffix_append_right hlast u.path
  simpa [newR2Client, PublicDomain.text, stem] using htrim

/-- The URLs of the domain name one host. -/
lemma WebURL.parse_text : ∃ host, ∀ path : Bytes, (∀ b ∈ path, Url.plain b) → (path = [] ∨ [slash] <+: path) →
    Url.parse (u.scheme ++ colon :: slash :: slash :: (u.authority ++ path)) =
      (unescape path).map fun path => ⟨lowerScheme u.scheme, host, path⟩ := by
  obtain ⟨host, hhost⟩ := Option.isSome_iff_exists.mp u.names_host
  refine ⟨host, fun path hplain hroot => ?_⟩
  rw [parse_append u.isScheme u.authority_plain hplain hroot, hhost, Option.bind_some]

/-- From a URL of the domain its whole path is taken. -/
lemma WebURL.keyFromURL_text {path : Bytes} (hplain : ∀ b ∈ path, Url.plain b) (hroot : [slash] <+: path)
    (hlast : ∀ b ∈ path.getLast?, Go.graphic b) (key : Bytes) :
    (newR2Client (PublicDomain.url u).text).keyFromURL
        (u.scheme ++ colon :: slash :: slash :: (u.authority ++ path)) = .ok key ↔
      ∃ decoded ∈ unescape path, trimPrefix [slash] decoded = key := by
  obtain ⟨host, hparse⟩ := u.parse_text
  obtain ⟨first, hfirst, hletter⟩ := u.isScheme.head
  obtain ⟨last, hpath⟩ : ∃ last, path.getLast? = some last :=
    Option.isSome_iff_exists.mp (List.getLast?_isSome.mpr (by rintro rfl; simp at hroot))
  have hstem : u.stem = [] ∨ [slash] <+: u.stem := by
    obtain ⟨hstem, -⟩ | ⟨⟨rest, hstem⟩, -⟩ := u.stem_cases
    · exact .inl hstem
    · exact .inr ⟨rest, hstem.symm⟩
  have htrim : trimSpace (u.scheme ++ colon :: slash :: slash :: (u.authority ++ path)) =
      u.scheme ++ colon :: slash :: slash :: (u.authority ++ path) := by
    refine trimSpace_eq_self_iff.mpr ⟨fun word => not_prefix_of_graphic ?_, fun word => not_suffix_of_graphic ?_⟩
    · simpa [List.head?_append, Option.mem_def.mp hfirst] using graphic_of_letter hletter
    · simpa [List.getLast?_append, List.getLast?_cons, hpath] using hlast last hpath
  have hcontains : bytes "://" <:+: u.scheme ++ colon :: slash :: slash :: (u.authority ++ path) :=
    ⟨u.scheme, u.authority ++ path, by simp [show bytes "://" = [colon, slash, slash] from rfl]⟩
  unfold R2Client.keyFromURL
  simp only [htrim]
  rw [if_neg (by simp [Bytes.contains, hcontains]), u.newR2Client_text, hparse path hplain (.inr hroot),
    if_neg (by simp), hparse u.stem u.stem_plain hstem]
  cases unescape path with
  | none => simp
  | some decoded => cases unescape u.stem <;> simp

lemma keyFromURL_url {key : Bytes} (hkey : IsKey key) :
    (newR2Client (PublicDomain.url u).text).keyFromURL ((newR2Client (PublicDomain.url u).text).publicURL key) =
      .ok key ↔ u.path = [] ∨ u.path = [slash] := by
  have hpublic : (newR2Client (PublicDomain.url u).text).publicURL key =
      u.scheme ++ colon :: slash :: slash :: (u.authority ++ (u.stem ++ slash :: key)) := by
    rw [u.newR2Client_text, R2Client.publicURL, if_neg (by simp)]
    simp
  have hplain : ∀ b ∈ u.stem ++ slash :: key, Url.plain b := by
    intro b hb
    rcases List.mem_append.mp hb with hb | hb
    · exact u.stem_plain b hb
    · rcases List.mem_cons.mp hb with rfl | hb
      · decide
      · exact hkey.plain b hb
  have hdecoded : unescape (u.stem ++ slash :: key) = (unescape u.stem).map fun stem => stem ++ slash :: key := by
    rw [unescape_append_slash, unescape_eq_self hkey.notMem.2]
    cases unescape u.stem <;> rfl
  obtain ⟨hstem, hpath⟩ | ⟨⟨rest, hstem⟩, hpath⟩ := u.stem_cases
  · rw [hpublic, u.keyFromURL_text hplain (by simp [hstem]) (hkey.last u.stem), hdecoded, hstem]
    exact iff_of_true ⟨slash :: key, rfl, trimPrefix_append [slash] key⟩ hpath
  · rw [hpublic, u.keyFromURL_text hplain (by simp [hstem]) (hkey.last u.stem), hdecoded, hstem]
    refine iff_of_false ?_ hpath
    rintro ⟨decoded, hmem, hkey⟩
    rw [unescape_cons (by decide), Option.map_map, Option.mem_map] at hmem
    obtain ⟨rest, -, rfl⟩ := hmem
    exact trimPrefix_ne_key (List.cons_ne_nil slash rest) hkey

end Absolute

/-- A key is found again from its URL exactly where the objects stand directly under the domain. -/
theorem keyFromURL_publicURL_iff [Library] [Sniffer] (domain : PublicDomain) {id : ObjectID} {upload : Upload}
    {key : Bytes} (h : objectKey id upload = .ok key) :
    (newR2Client domain.text).keyFromURL ((newR2Client domain.text).publicURL key) = .ok key ↔ domain.Rooted := by
  have hkey := isKey_of_objectKey h
  cases domain with
  | unset => exact iff_of_true (keyFromURL_unset hkey) trivial
  | host name => exact iff_of_false (keyFromURL_host hkey name) False.elim
  | url u => exact keyFromURL_url u hkey

end Domains

section Sample

/-- An authority is a host. -/
@[reducible] def Sample.hosts : UrlLibrary := ⟨fun _ authority => some authority⟩

@[reducible] def Sample.sniffer : Sniffer := ⟨fun _ => bytes "application/octet-stream"⟩

attribute [local instance] asciiLibrary Sample.hosts Sample.sniffer

def Sample.id : ObjectID where
  text := bytes "0b7c1f4e-8d52-4a6f-9c3e-5a1d2e3f4a5b"
  length_eq := by decide
  chars := by decide

def Sample.key : Bytes := bytes "images/news/0b7c1f4e-8d52-4a6f-9c3e-5a1d2e3f4a5b.webp"

def Sample.domain : PublicDomain := .url {
  scheme := bytes "https"
  authority := bytes "media.erg.edu.vn"
  path := []
  isScheme := ⟨⟨_, rfl, by decide⟩, by decide⟩
  authority_ne_nil := by decide
  authority_plain := by decide
  names_host := rfl
  path_plain := by decide
  path_root := .inl rfl }

theorem keyFromURL_publicURL_rooted : objectKey Sample.id (.uploadImage (bytes "news")) = .ok Sample.key ∧
    ((newR2Client Sample.domain.text).keyFromURL ((newR2Client Sample.domain.text).publicURL Sample.key) =
      .ok Sample.key ↔ Sample.domain.Rooted) := by
  have hkey : objectKey Sample.id (.uploadImage (bytes "news")) = .ok Sample.key := by decide
  exact ⟨hkey, keyFromURL_publicURL_iff Sample.domain hkey⟩

/-- A bare host and the path of a domain become part of the key. -/
theorem domain_in_key : objectKey Sample.id (.uploadImage (bytes "news")) = .ok Sample.key ∧
    (newR2Client (bytes "media.erg.edu.vn")).keyFromURL
      ((newR2Client (bytes "media.erg.edu.vn")).publicURL Sample.key) ≠ .ok Sample.key ∧
    (newR2Client (bytes "https://media.erg.edu.vn/files")).keyFromURL
      ((newR2Client (bytes "https://media.erg.edu.vn/files")).publicURL Sample.key) ≠ .ok Sample.key := by
  decide +kernel

end Sample

end ErgGo.Storage
