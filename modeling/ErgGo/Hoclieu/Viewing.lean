import ErgGo.Hoclieu.MaterialService
import Mathlib.Data.Rat.Defs

/-!
# Launching an asset

Launching an asset, its pages and its metadata are read from the memory.
-/

namespace ErgGo.Hoclieu
open Go

structure Watermark where
  text : String
  opacity : ℚ
  position : String
  deriving DecidableEq

structure AuditMetadata where
  event : String
  assetID : String
  userID : String
  performedAt : Time
  deriving DecidableEq

structure LaunchResponse where
  assetID : String
  resourceID : String
  selectedFileType : AssetFileType
  launchMode : LaunchMode
  title : String
  embedURL : String := ""
  viewerTokenURL : String
  streamURL : String
  expiresAt : Time
  canDownload : Bool
  watermark : Watermark
  audit : AuditMetadata
  deriving DecidableEq

structure ViewerPagesResponse where
  assetID : String
  resourceID : String
  selectedFileType : AssetFileType
  pages : List ViewerPage

section Slides

variable [Library] [WebLibrary]

def slash (c : Char) : Bool := c = '/'

/-- `strings.Split(strings.Trim(path, "/"), "/")`. -/
def pathSegments (path : String) : List String :=
  let trimmed := ((path.toList.dropWhile slash).reverse.dropWhile slash).reverse
  (trimmed.splitOn '/').map String.ofList

/-- The segment after the first `d` that a segment follows. -/
def presentationID : List String → Option String
  | "d" :: id :: rest => if trimSpace id = "" then presentationID (id :: rest) else some id
  | _ :: rest => presentationID rest
  | [] => none

def googleSlidesEmbedURL (raw : String) : String :=
  if !isHTTPURLValue raw then ""
  else match WebLibrary.parseURL (trimSpace raw) with
    | none => ""
    | some (host, path) =>
      if !contains (toLower host) "docs.google.com" || !contains path "/presentation/" then ""
      else match presentationID (pathSegments path) with
        | some id => "https://docs.google.com/presentation/d/" ++ id ++ "/embed?start=false&loop=false&delayms=3000"
        | none => ""

def viewerToken (assetID userID : String) (expires : Time) : String :=
  WebLibrary.encodeBase64 (assetID ++ ":" ++ userID ++ ":" ++ toString (unixNano expires / 1000000000))

end Slides

namespace Service

variable [Library] [WebLibrary]

def launchResponse (env : ServiceEnv) (assetID userID : String) (record : AssetRecord) : LaunchResponse :=
  let expires := env.now + 15 * 60 * 1000000000
  let token := viewerToken assetID userID expires
  let link := record.selectedFileType = .link ∧ record.upstreamURL ≠ ""
  let embedURL := googleSlidesEmbedURL record.upstreamURL
  { assetID := record.id
    resourceID := record.resourceID
    selectedFileType := record.selectedFileType
    launchMode := if link then if embedURL ≠ "" then .googleSlide else .external else record.launchMode
    title := record.title
    embedURL := if link then if embedURL ≠ "" then embedURL else record.upstreamURL else ""
    viewerTokenURL := "/api/hoclieu/assets/" ++ record.id ++ "/pages?token=" ++ token
    streamURL := "/api/hoclieu/assets/" ++ record.id ++ "/stream?token=" ++ token
    expiresAt := expires
    canDownload := record.canDownload
    watermark := { text := "ERG", opacity := 8 / 100, position := "center" }
    audit := { event := "hoclieu.asset.launch", assetID := record.id, userID := userID, performedAt := env.later } }

def launch (env : ServiceEnv) (assetID userID : String) (m : Memory) : Except HoclieuError LaunchResponse :=
  match m.assets.lookup assetID with
  | some record => .ok (launchResponse env assetID userID record)
  | none => .error .notFound

def pages (assetID : String) (m : Memory) : Except HoclieuError ViewerPagesResponse :=
  match m.assets.lookup assetID with
  | some record =>
    let pages := (m.pages.lookup assetID).getD []
    .ok { assetID := record.id
          resourceID := record.resourceID
          selectedFileType := record.selectedFileType
          pages := if pages.isEmpty then [{ index := 1, title := record.title, width := 1280, height := 720 }] else pages }
  | none => .error .notFound

lemma launch_eq_ok {env : ServiceEnv} {assetID userID : String} {m : Memory} {response : LaunchResponse}
    (h : launch env assetID userID m = .ok response) :
    ∃ record, m.assets.lookup assetID = some record ∧ response.resourceID = record.resourceID := by
  unfold launch at h
  cases hlookup : m.assets.lookup assetID with
  | none =>
    rw [hlookup] at h
    cases h
  | some record =>
    rw [hlookup] at h
    cases h
    exact ⟨record, rfl, rfl⟩

end Service

end ErgGo.Hoclieu
