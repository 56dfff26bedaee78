import StackConnect.AppStore.JsonApi

set_option autoImplicit false

namespace StackConnect

open Interaction Serde Rust

structure ImageAsset where
  templateUrl : Option String
  width : Option Int
  height : Option Int

def ImageAsset.decode : Decoder ImageAsset := struct do
  let templateUrl ← optional "templateUrl" string
  let width ← optional "width" i32
  let height ← optional "height" i32
  pure ⟨templateUrl, width, height⟩

def ImageAsset.toImageUrl (asset : ImageAsset) : Option String :=
  asset.templateUrl.map fun template =>
    replace (replace (replace template "\x7bw\x7d" (toString (asset.width.getD 512)))
      "\x7bh\x7d" (toString (asset.height.getD 512))) "\x7bf\x7d" "png"

structure AppScreenshotAttributes where
  fileName : Option String
  fileSize : Option Int
  imageAsset : Option ImageAsset

def AppScreenshotAttributes.decode : Decoder AppScreenshotAttributes := struct do
  let fileName ← optional "fileName" string
  let fileSize ← optional "fileSize" i32
  let imageAsset ← optional "imageAsset" ImageAsset.decode
  pure ⟨fileName, fileSize, imageAsset⟩

abbrev AppScreenshotResource := Resource AppScreenshotAttributes

def AppScreenshotResource.decode : Decoder AppScreenshotResource :=
  Resource.decode AppScreenshotAttributes.decode ⟨none, none, none⟩

structure ScreenshotInfo where
  id : String
  imageUrl : Option String
  fileName : Option String
  fileSize : Option Int
  width : Option Int
  height : Option Int
deriving DecidableEq

def toScreenshotInfo (resource : AppScreenshotResource) : ScreenshotInfo where
  id := resource.id
  imageUrl := resource.attributes.imageAsset.bind ImageAsset.toImageUrl
  fileName := resource.attributes.fileName
  fileSize := resource.attributes.fileSize
  width := resource.attributes.imageAsset.bind ImageAsset.width
  height := resource.attributes.imageAsset.bind ImageAsset.height

structure AppScreenshotSetAttributes where
  screenshotDisplayType : Option String

def AppScreenshotSetAttributes.decode : Decoder AppScreenshotSetAttributes := struct do
  let screenshotDisplayType ← optional "screenshotDisplayType" string
  pure ⟨screenshotDisplayType⟩

structure AppScreenshotSetRelationships where
  appScreenshots : ToManyRelationship

def AppScreenshotSetRelationships.decode : Decoder AppScreenshotSetRelationships := struct do
  let appScreenshots ← toMany "appScreenshots"
  pure ⟨appScreenshots⟩

abbrev AppScreenshotSetResource := LinkedResource AppScreenshotSetAttributes AppScreenshotSetRelationships

def AppScreenshotSetResource.decode : Decoder AppScreenshotSetResource :=
  LinkedResource.decode AppScreenshotSetAttributes.decode ⟨none⟩ AppScreenshotSetRelationships.decode ⟨⟨[]⟩⟩

inductive AppScreenshotIncluded where
  | appScreenshots (resource : AppScreenshotResource)
  | other

def AppScreenshotIncluded.decode : Decoder AppScreenshotIncluded :=
  tagged "type" (fun
    | "appScreenshots" => some fun content => (AppScreenshotResource.decode content).map .appScreenshots
    | _ => none) (some .other)

structure ScreenshotSetInfo where
  id : String
  displayType : Option String
  screenshots : List ScreenshotInfo
deriving DecidableEq

def includedScreenshots (included : List AppScreenshotIncluded) : HashMap String AppScreenshotResource :=
  HashMap.collect (included.filterMap fun
    | .appScreenshots resource => some (resource.id, resource)
    | .other => none)

def screenshotSetFrom (included : List AppScreenshotIncluded) (set : AppScreenshotSetResource) : ScreenshotSetInfo where
  id := set.id
  displayType := set.attributes.screenshotDisplayType
  screenshots := (set.relationships.appScreenshots.data.filterMap fun related =>
    (includedScreenshots included).get related.id).map toScreenshotInfo

structure HttpHeader where
  name : String
  value : String

def HttpHeader.decode : Decoder HttpHeader := struct do
  let name ← required "name" string
  let value ← required "value" string
  pure ⟨name, value⟩

structure UploadOperation where
  method : String
  url : String
  length : Int
  offset : Int
  requestHeaders : List HttpHeader

def UploadOperation.decode : Decoder UploadOperation := struct do
  let method ← required "method" string
  let url ← required "url" string
  let length ← required "length" i64
  let offset ← required "offset" i64
  let requestHeaders ← defaulted "requestHeaders" (vec HttpHeader.decode) []
  pure ⟨method, url, length, offset, requestHeaders⟩

structure AppScreenshotReservationAttributes where
  uploadOperations : List UploadOperation

def AppScreenshotReservationAttributes.decode : Decoder AppScreenshotReservationAttributes := struct do
  let uploadOperations ← defaulted "uploadOperations" (vec UploadOperation.decode) []
  pure ⟨uploadOperations⟩

abbrev AppScreenshotReservation := Resource AppScreenshotReservationAttributes

def AppScreenshotReservation.decode : Decoder AppScreenshotReservation :=
  Resource.decode AppScreenshotReservationAttributes.decode ⟨[]⟩

-- What the arithmetic of the source depends on: the width of `usize` on the
-- target, and whether the profile checks additions for overflow.
structure Target where
  usizeBits : Nat
  overflowChecks : Bool

-- How a call that may panic ends when it is not by an error.
inductive Ended (α : Type) where
  | returned (value : α)
  | panicked

-- `i64 as usize`.
def Target.asUsize (target : Target) (value : Int) : Nat := (value % 2 ^ target.usizeBits).toNat

-- `op.offset + op.length` on i64: checked it may panic, unchecked it wraps, which
-- the cast to usize after it cannot see.
def Target.addI64 (target : Target) (left right : Int) : Option Int :=
  let sum := left + right
  if target.overflowChecks && !(decide (-9223372036854775808 ≤ sum ∧ sum ≤ 9223372036854775807)) then none else some sum

-- `&data[start..end]`; none is the panic of the addition or of the slice.
def UploadOperation.chunk (operation : UploadOperation) (target : Target) (data : List UInt8) : Option (List UInt8) := do
  let start := target.asUsize operation.offset
  let finish ← (target.addI64 operation.offset operation.length).map target.asUsize
  if start ≤ finish ∧ finish ≤ data.length then some ((data.take finish).drop start) else none

-- The pre-signed request of an operation: no bearer token.
def UploadOperation.request (operation : UploadOperation) (method : Method) (chunk : List UInt8) : Request :=
  { Request.plain method operation.url with
    headers := operation.requestHeaders.map fun header => (header.name, header.value)
    body := .bytes chunk }

namespace AppStoreClient

variable (client : AppStoreClient)

def sendUpload (operation : UploadOperation) (chunk : List UInt8) : Async Unit := do
  let method ← match client.crates.method operation.method with
    | .ok method => pure method
    | .error message => .fail (.network ("invalid upload method: " ++ message))
  let (status, body) ← sendAndRead (operation.request method chunk)
  if isSuccess status then pure () else .fail (.http status body)

def uploadChunks (target : Target) (data : List UInt8) : List UploadOperation → Async (Ended Unit)
  | [] => pure (.returned ())
  | operation :: rest =>
      match operation.chunk target data with
      | none => pure .panicked
      | some chunk => do
          client.sendUpload operation chunk
          uploadChunks target data rest

def screenshotsUrl : String := client.baseUrl ++ "/v1/appScreenshots"
def screenshotUrl (id : String) : String := client.baseUrl ++ "/v1/appScreenshots/" ++ id

def screenshotSetsListing (localizationId : String) : Listing ScreenshotSetInfo :=
  .including (client.baseUrl ++ "/v1/appStoreVersionLocalizations/" ++ localizationId ++
      "/appScreenshotSets?include=appScreenshots")
    "AppScreenshotSetsResponse" "app screenshot sets response" AppScreenshotSetResource.decode
    AppScreenshotIncluded.decode screenshotSetFrom

def fetchScreenshotSets (fuel : Nat) (localizationId : String) : Async (List ScreenshotSetInfo) :=
  client.collect fuel (client.screenshotSetsListing localizationId) []

def createScreenshotSet (localizationId displayType : String) : Async ScreenshotSetInfo := do
  let resource ← client.exchangeDocument
    (.post (client.baseUrl ++ "/v1/appScreenshotSets") (createBody "appScreenshotSets"
      [("screenshotDisplayType", .str displayType)]
      [("appStoreVersionLocalization", linkTo "appStoreVersionLocalizations" localizationId)]))
    "AppScreenshotSetDocument" "app screenshot set response" AppScreenshotSetResource.decode
  pure ⟨resource.id, resource.attributes.screenshotDisplayType, []⟩

def md5Hex (data : List UInt8) : String := String.ofList ((client.crates.md5 data).flatMap hexByte)

def reserveScreenshot (setId fileName : String) (data : List UInt8) : Async AppScreenshotReservation :=
  client.exchangeDocument
    (.post client.screenshotsUrl (createBody "appScreenshots"
      [("fileName", .str fileName), ("fileSize", .int data.length)] [("appScreenshotSet", linkTo "appScreenshotSets" setId)]))
    "AppScreenshotDocument" "app screenshot reserve response" AppScreenshotReservation.decode

def commitScreenshot (screenshotId : String) (data : List UInt8) : Async ScreenshotInfo := do
  let resource ← client.exchangeDocument
    (.patch (client.screenshotUrl screenshotId) (updateBody "appScreenshots" screenshotId
      [("uploaded", .bool true), ("sourceFileChecksum", .str (client.md5Hex data))]))
    "AppScreenshotDocumentResource" "app screenshot commit response" AppScreenshotResource.decode
  pure (toScreenshotInfo resource)

def uploadScreenshot (target : Target) (setId fileName : String) (data : List UInt8) : Async (Ended ScreenshotInfo) := do
  let reservation ← client.reserveScreenshot setId fileName data
  match ← client.uploadChunks target data reservation.attributes.uploadOperations with
  | .panicked => pure .panicked
  | .returned () => do
      let info ← client.commitScreenshot reservation.id data
      pure (.returned info)

def deleteScreenshot (id : String) : Async Unit := deleteNoContent (client.screenshotUrl id)

def deleteScreenshotSet (id : String) : Async Unit := deleteNoContent (client.baseUrl ++ "/v1/appScreenshotSets/" ++ id)

end AppStoreClient

end StackConnect
