import StackConnect.AppStore.JsonApi

set_option autoImplicit false

namespace StackConnect

open Interaction Serde Rust

structure AnalyticsReportRequestAttributes where
  accessType : Option String
  stoppedDueToInactivity : Option Bool

def AnalyticsReportRequestAttributes.decode : Decoder AnalyticsReportRequestAttributes := struct do
  let accessType ← optional "accessType" string
  let stoppedDueToInactivity ← optional "stoppedDueToInactivity" boolean
  pure ⟨accessType, stoppedDueToInactivity⟩

abbrev AnalyticsReportRequestResource := Resource AnalyticsReportRequestAttributes

def AnalyticsReportRequestResource.decode : Decoder AnalyticsReportRequestResource :=
  Resource.decode AnalyticsReportRequestAttributes.decode ⟨none, none⟩

structure AnalyticsReportRequest where
  id : String
  accessType : String
  stoppedDueToInactivity : Bool
deriving DecidableEq

def intoRequestInfo (resource : AnalyticsReportRequestResource) : AnalyticsReportRequest where
  id := resource.id
  accessType := resource.attributes.accessType.getD ""
  stoppedDueToInactivity := resource.attributes.stoppedDueToInactivity.getD false

structure AnalyticsReportAttributes where
  name : Option String
  category : Option String

def AnalyticsReportAttributes.decode : Decoder AnalyticsReportAttributes := struct do
  let name ← optional "name" string
  let category ← optional "category" string
  pure ⟨name, category⟩

abbrev AnalyticsReportResource := Resource AnalyticsReportAttributes

def AnalyticsReportResource.decode : Decoder AnalyticsReportResource :=
  Resource.decode AnalyticsReportAttributes.decode ⟨none, none⟩

structure AnalyticsReport where
  id : String
  name : String
  category : String
deriving DecidableEq

def intoReportInfo (resource : AnalyticsReportResource) : AnalyticsReport where
  id := resource.id
  name := resource.attributes.name.getD ""
  category := resource.attributes.category.getD ""

structure AnalyticsReportInstanceAttributes where
  granularity : Option String
  processingDate : Option String

def AnalyticsReportInstanceAttributes.decode : Decoder AnalyticsReportInstanceAttributes := struct do
  let granularity ← optional "granularity" string
  let processingDate ← optional "processingDate" string
  pure ⟨granularity, processingDate⟩

abbrev AnalyticsReportInstanceResource := Resource AnalyticsReportInstanceAttributes

def AnalyticsReportInstanceResource.decode : Decoder AnalyticsReportInstanceResource :=
  Resource.decode AnalyticsReportInstanceAttributes.decode ⟨none, none⟩

structure AnalyticsReportInstance where
  id : String
  granularity : String
  processingDate : Option String
deriving DecidableEq

def intoInstanceInfo (resource : AnalyticsReportInstanceResource) : AnalyticsReportInstance where
  id := resource.id
  granularity := resource.attributes.granularity.getD ""
  processingDate := resource.attributes.processingDate

structure AnalyticsReportSegmentAttributes where
  url : Option String
  checksum : Option String
  sizeInBytes : Option Int

def AnalyticsReportSegmentAttributes.decode : Decoder AnalyticsReportSegmentAttributes := struct do
  let url ← optional "url" string
  let checksum ← optional "checksum" string
  let sizeInBytes ← optional "sizeInBytes" i64
  pure ⟨url, checksum, sizeInBytes⟩

abbrev AnalyticsReportSegmentResource := Resource AnalyticsReportSegmentAttributes

def AnalyticsReportSegmentResource.decode : Decoder AnalyticsReportSegmentResource :=
  Resource.decode AnalyticsReportSegmentAttributes.decode ⟨none, none, none⟩

structure AnalyticsReportSegment where
  id : String
  url : String
  checksum : Option String
  sizeInBytes : Option Int
deriving DecidableEq

def intoSegmentInfo (resource : AnalyticsReportSegmentResource) : AnalyticsReportSegment where
  id := resource.id
  url := resource.attributes.url.getD ""
  checksum := resource.attributes.checksum
  sizeInBytes := resource.attributes.sizeInBytes

structure AnalyticsReportRequestsPage where
  requests : List AnalyticsReportRequest
  nextToken : Option String

structure AnalyticsReportsPage where
  reports : List AnalyticsReport
  nextToken : Option String

structure AnalyticsReportInstancesPage where
  instances : List AnalyticsReportInstance
  nextToken : Option String

structure AnalyticsReportSegmentsPage where
  segments : List AnalyticsReportSegment
  nextToken : Option String

structure AnalyticsReportData where
  headers : List String
  rows : List (List String)
  rowCount : Nat
deriving DecidableEq

-- The first line that is not empty is the header; `rows.len() as u32` counts the others.
def parseAnalyticsTsv (text : String) : AnalyticsReportData :=
  match (lines text).filter (· ≠ "") with
  | [] => ⟨[], [], 0⟩
  | header :: rest => ⟨splitOn '\t' header, rest.map (splitOn '\t'), rest.length % 4294967296⟩

def segmentTooLargeMessage : String := "analytics segment exceeds max_bytes; download via URL directly"

def Streamed.text (crates : Crates) (response : Streamed) : Except StackError String :=
  match response.broken with
  | some message => .error (.network message)
  | none => .ok (crates.bodyText response.chunks.flatten)

-- The loop over `response.chunk()`: the cap is checked before a chunk is kept.
def bufferChunks (maxBytes : Nat) (broken : Option String) (compressed : List UInt8) :
    List (List UInt8) → Except StackError (List UInt8)
  | [] =>
      match broken with
      | some message => .error (.network message)
      | none => .ok compressed
  | chunk :: rest =>
      if compressed.length + chunk.length > maxBytes then .error (.unsupported segmentTooLargeMessage)
      else bufferChunks maxBytes broken (compressed ++ chunk) rest

namespace AppStoreClient

variable (client : AppStoreClient)

def createAnalyticsReportRequest (appId accessType : String) : Async AnalyticsReportRequest := do
  let resource ← client.exchangeDocument
    (.post (client.baseUrl ++ "/v1/analyticsReportRequests") (createBody "analyticsReportRequests"
      [("accessType", .str accessType)] [("app", linkTo "apps" appId)]))
    "AnalyticsReportRequestDocument" "analytics report request response" AnalyticsReportRequestResource.decode
  pure (intoRequestInfo resource)

def pushFilter (url key : String) : Option String → String
  | some value => url ++ ("&filter[" ++ key ++ "]=" ++ value)
  | none => url

def analyticsReportRequestsListing (first : String) : Listing AnalyticsReportRequest :=
  .plain first "AnalyticsReportRequestsResponse" "analytics report requests response"
    AnalyticsReportRequestResource.decode intoRequestInfo

def analyticsReportRequestsUrl (appId : String) (filterAccessType : Option String) (limit : Nat) : String :=
  pushFilter (client.baseUrl ++ "/v1/apps/" ++ appId ++ "/analyticsReportRequests?limit=" ++ toString limit)
    "accessType" filterAccessType

def fetchAnalyticsReportRequestsPage (appId : String) (filterAccessType : Option String) (limit : Nat)
    (pageToken : Option String) : Async AnalyticsReportRequestsPage := do
  let url := pageToken.getD (client.analyticsReportRequestsUrl appId filterAccessType limit)
  let page ← client.fetchPage (analyticsReportRequestsListing url)
  pure ⟨page.1, page.2⟩

def analyticsReportsListing (first : String) : Listing AnalyticsReport :=
  .plain first "AnalyticsReportsResponse" "analytics reports response" AnalyticsReportResource.decode intoReportInfo

def analyticsReportsUrl (requestId : String) (filterCategory : Option String) (limit : Nat) : String :=
  pushFilter (client.baseUrl ++ "/v1/analyticsReportRequests/" ++ requestId ++ "/reports?limit=" ++ toString limit)
    "category" filterCategory

def fetchAnalyticsReportsPage (requestId : String) (filterCategory : Option String) (limit : Nat)
    (pageToken : Option String) : Async AnalyticsReportsPage := do
  let url := pageToken.getD (client.analyticsReportsUrl requestId filterCategory limit)
  let page ← client.fetchPage (analyticsReportsListing url)
  pure ⟨page.1, page.2⟩

def analyticsReportInstancesListing (first : String) : Listing AnalyticsReportInstance :=
  .plain first "AnalyticsReportInstancesResponse" "analytics report instances response"
    AnalyticsReportInstanceResource.decode intoInstanceInfo

def analyticsReportInstancesUrl (reportId : String) (filterGranularity : Option String) (limit : Nat) : String :=
  pushFilter (client.baseUrl ++ "/v1/analyticsReports/" ++ reportId ++ "/instances?limit=" ++ toString limit)
    "granularity" filterGranularity

def fetchAnalyticsReportInstancesPage (reportId : String) (filterGranularity : Option String) (limit : Nat)
    (pageToken : Option String) : Async AnalyticsReportInstancesPage := do
  let url := pageToken.getD (client.analyticsReportInstancesUrl reportId filterGranularity limit)
  let page ← client.fetchPage (analyticsReportInstancesListing url)
  pure ⟨page.1, page.2⟩

def analyticsReportSegmentsListing (first : String) : Listing AnalyticsReportSegment :=
  .plain first "AnalyticsReportSegmentsResponse" "analytics report segments response"
    AnalyticsReportSegmentResource.decode intoSegmentInfo

def analyticsReportSegmentsUrl (instanceId : String) (limit : Nat) : String :=
  client.baseUrl ++ "/v1/analyticsReportInstances/" ++ instanceId ++ "/segments?limit=" ++ toString limit

def fetchAnalyticsReportSegmentsPage (instanceId : String) (limit : Nat) (pageToken : Option String) :
    Async AnalyticsReportSegmentsPage := do
  let url := pageToken.getD (client.analyticsReportSegmentsUrl instanceId limit)
  let page ← client.fetchPage (analyticsReportSegmentsListing url)
  pure ⟨page.1, page.2⟩

-- What is made of a response, in the order of the source: the advertised size
-- is looked at before the status.
def readSegment (maxBytes : Nat) (response : Streamed) : Except StackError AnalyticsReportData :=
  if (response.contentLength.getD 0) > maxBytes then .error (.unsupported segmentTooLargeMessage)
  else if isSuccess response.status = false then do
    let body ← response.text client.crates
    .error (statusError response.status body)
  else do
    let compressed ← bufferChunks maxBytes response.broken [] response.chunks
    match client.crates.gunzip compressed with
    | .error reason => .error (.decode ("analytics segment gunzip: " ++ reason))
    | .ok text => .ok (parseAnalyticsTsv text)

-- A pre-signed URL: no bearer token.
def downloadAnalyticsSegment (url : String) (maxBytes : Nat) : Async AnalyticsReportData :=
  .ask (.stream (.get url)) fun
    | .error message => .done (.error (.network message))
    | .ok response => .done (client.readSegment maxBytes response)

end AppStoreClient

end StackConnect
