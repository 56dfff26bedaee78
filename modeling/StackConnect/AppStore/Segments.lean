import StackConnect.AppStore.AnalyticsTable
import StackConnect.Interaction.Results

set_option autoImplicit false

namespace StackConnect

open Interaction Rust

def Downloaded (client : AppStoreClient) (url : String) (maxBytes : Nat) (response : Streamed)
    (result : Except StackError AnalyticsReportData) : Prop :=
  Runs (client.downloadAnalyticsSegment url maxBytes) [⟨.stream (.get url), .ok response⟩] (some result)

def Streamed.payload (response : Streamed) : List UInt8 := response.chunks.flatten

def Advertised (maxBytes : Nat) (response : Streamed) : Prop :=
  ∃ length, response.contentLength = some length ∧ maxBytes < length

def Exceeds (maxBytes : Nat) (response : Streamed) : Prop :=
  Advertised maxBytes response ∨ maxBytes < response.payload.length

def AppStoreClient.inflated (client : AppStoreClient) (compressed : List UInt8) : Except StackError AnalyticsReportData :=
  match client.crates.gunzip compressed with
  | .error reason => .error (.decode ("analytics segment gunzip: " ++ reason))
  | .ok text => .ok (parseAnalyticsTsv text)

structure GzipMember where
  bytes : List UInt8
  text : String

def gzipFile (members : List GzipMember) : List UInt8 := members.flatMap GzipMember.bytes

def contents (members : List GzipMember) : String := String.join (members.map GzipMember.text)

-- flate2::read::GzDecoder on a file of valid members: it yields the content of
-- the first one and then reports the end of the stream.
def ReadsFirstMember (valid : GzipMember → Prop) (gunzip : List UInt8 → Except String String) : Prop :=
  ∀ first rest, (∀ member ∈ first :: rest, valid member) → gunzip (gzipFile (first :: rest)) = .ok first.text

def gunzipTable (members : List GzipMember) (compressed : List UInt8) : Except String String :=
  match members.find? fun member => member.bytes.isPrefixOf compressed with
  | some member => .ok member.text
  | none => .error "invalid gzip header"

def headerMember : GzipMember where
  bytes := [0x1F, 0x8B, 8, 0, 0, 0, 0, 0, 2, 3, 0x4B, 0xE4, 0x4C, 0xE2, 2, 0, 0xCE, 0x94, 0x11, 0x1A, 4, 0, 0, 0]
  text := "a\tb\n"

def rowMember : GzipMember where
  bytes := [0x1F, 0x8B, 8, 0, 0, 0, 0, 0, 2, 3, 0x33, 0xE4, 0x34, 0xE2, 2, 0, 0x38, 0xC6, 0xA7, 0x6B, 4, 0, 0, 0]
  text := "1\t2\n"

def blankMember : GzipMember where
  bytes := [0x1F, 0x8B, 8, 0, 0, 0, 0, 0, 2, 3, 0xE3, 2, 0, 0x93, 6, 0xD7, 0x32, 1, 0, 0, 0]
  text := "\n"

def segmentMembers : List GzipMember := [headerMember, rowMember, blankMember]

def segmentClient : AppStoreClient := .withBaseUrl defaultBaseUrl { Crates.reading [] with gunzip := gunzipTable segmentMembers }

def segmentUrl : String := "https://segments.example/1"

def answering (status : Nat) (chunks : List (List UInt8)) : Streamed := ⟨status, some chunks.flatten.length, chunks, none⟩

variable (client : AppStoreClient) (url : String) (maxBytes : Nat)

theorem downloaded_iff (response : Streamed) (result : Except StackError AnalyticsReportData) :
    Downloaded client url maxBytes response result ↔ result = client.readSegment maxBytes response := by
  constructor
  · intro run
    obtain ⟨answer, rest, same, last⟩ := (runs_ask _ _ _ _).mp run
    cases same
    obtain ⟨_, given⟩ := (runs_done _ _ _).mp last
    exact Option.some.inj given
  · rintro rfl
    exact .ask _ _ _ _ _ (.done _)

theorem advertised_iff (response : Streamed) :
    response.contentLength.getD 0 > maxBytes ↔ Advertised maxBytes response := by
  rw [Advertised]
  cases response.contentLength with
  | none => simp
  | some length => simp

instance (response : Streamed) : Decidable (Advertised maxBytes response) :=
  decidable_of_iff _ (advertised_iff maxBytes response)

instance (response : Streamed) : Decidable (Exceeds maxBytes response) :=
  inferInstanceAs (Decidable (Advertised maxBytes response ∨ maxBytes < response.payload.length))

inductive Buffering (maxBytes : Nat) (chunks : List (List UInt8)) : List UInt8 → List (List UInt8) → Prop
  | start : Buffering maxBytes chunks [] chunks
  | kept (compressed chunk : List UInt8) (rest : List (List UInt8))
      (before : Buffering maxBytes chunks compressed (chunk :: rest))
      (fits : ¬ compressed.length + chunk.length > maxBytes) :
      Buffering maxBytes chunks (compressed ++ chunk) rest

-- The points of the loop are those that the loop itself comes to.
theorem buffering_left (chunks rest : List (List UInt8)) (compressed : List UInt8)
    (point : Buffering maxBytes chunks compressed rest) (broken : Option String) :
    bufferChunks maxBytes broken [] chunks = bufferChunks maxBytes broken compressed rest := by
  induction point with
  | start => rfl
  | kept compressed chunk rest before fits ih => rw [ih, bufferChunks, if_neg fits]

theorem buffering_invariant (chunks rest : List (List UInt8)) (compressed : List UInt8)
    (point : Buffering maxBytes chunks compressed rest) :
    compressed.length ≤ maxBytes ∧ compressed ++ rest.flatten = chunks.flatten := by
  induction point with
  | start => exact ⟨Nat.zero_le _, rfl⟩
  | kept compressed chunk rest before fits ih =>
      refine ⟨?_, ?_⟩
      · rw [List.length_append]
        omega
      · rw [← ih.2, List.flatten_cons, List.append_assoc]

theorem buffer_chunks (chunks : List (List UInt8)) (compressed : List UInt8) (held : compressed.length ≤ maxBytes) :
    bufferChunks maxBytes none compressed chunks =
      if maxBytes < (compressed ++ chunks.flatten).length then .error (.unsupported segmentTooLargeMessage)
      else .ok (compressed ++ chunks.flatten) := by
  induction chunks generalizing compressed with
  | nil =>
      rw [List.flatten_nil, List.append_nil, if_neg (by omega)]
      rfl
  | cons chunk rest ih =>
      rw [bufferChunks]
      by_cases tooLong : compressed.length + chunk.length > maxBytes
      · rw [if_pos tooLong, if_pos]
        simp only [List.flatten_cons, List.length_append]
        omega
      · rw [if_neg tooLong, ih (compressed ++ chunk) (by rw [List.length_append]; omega), List.flatten_cons, List.append_assoc]

theorem read_segment_success (response : Streamed) (success : isSuccess response.status = true)
    (delivered : response.broken = none) :
    (Exceeds maxBytes response → client.readSegment maxBytes response = .error (.unsupported segmentTooLargeMessage)) ∧
      (¬ Exceeds maxBytes response → client.readSegment maxBytes response = client.inflated response.payload) := by
  have buffered := buffer_chunks maxBytes response.chunks [] (Nat.zero_le _)
  rw [List.nil_append] at buffered
  rw [AppStoreClient.readSegment, delivered, buffered, success]
  constructor
  · intro exceeds
    by_cases advertised : response.contentLength.getD 0 > maxBytes
    · rw [if_pos advertised]
    · have long : maxBytes < response.chunks.flatten.length :=
        exceeds.resolve_left (mt (advertised_iff maxBytes response).mpr advertised)
      rw [if_neg advertised, if_neg (by decide), if_pos long]
      rfl
  · intro within
    rw [Exceeds, not_or] at within
    rw [if_neg (mt (advertised_iff maxBytes response).mp within.1), if_neg (by decide), if_neg (by exact within.2)]
    rfl

theorem read_segment_failure (response : Streamed) (failed : isSuccess response.status = false)
    (delivered : response.broken = none) :
    (Advertised maxBytes response → client.readSegment maxBytes response = .error (.unsupported segmentTooLargeMessage)) ∧
      (¬ Advertised maxBytes response →
        client.readSegment maxBytes response = .error (statusError response.status (client.crates.bodyText response.payload))) := by
  rw [AppStoreClient.readSegment]
  constructor
  · intro advertised
    rw [if_pos ((advertised_iff maxBytes response).mpr advertised)]
  · intro within
    rw [if_neg (mt (advertised_iff maxBytes response).mp within), if_pos failed, Streamed.text, delivered]
    rfl

def documentedError (status : Nat) (body : String) : StackError :=
  if status = 403 ∧ (contains (toLowercase body) "agreement" = true ∨ contains (toLowercase body) "pending" = true) then
    .pendingAgreements pendingAgreementsMessage
  else .http status body

theorem status_error_documented (status : Nat) (body : String) : statusError status body = documentedError status body := by
  rw [statusError, documentedError]
  have when := pending_agreements_error_some status body (.pendingAgreements pendingAgreementsMessage)
  by_cases pending : status = 403 ∧ (contains (toLowercase body) "agreement" = true ∨ contains (toLowercase body) "pending" = true)
  · rw [if_pos pending, when.mpr ⟨pending, rfl⟩]
  · rw [if_neg pending]
    cases found : pendingAgreementsError status body with
    | none => rfl
    | some error => exact absurd ((pending_agreements_error_some status body error).mp found).1 pending

structure ClassifiedByStatus (response : Streamed) (result : Except StackError AnalyticsReportData) : Prop where
  failed : isSuccess response.status = false →
    result = .error (documentedError response.status (client.crates.bodyText response.payload))
  refused : ∀ message, result = .error (.unsupported message) → isSuccess response.status = true ∧ Exceeds maxBytes response

theorem status_error_not_unsupported (status : Nat) (body message : String) :
    statusError status body ≠ .unsupported message := by
  rcases status_error_cases status body with same | same <;> rw [same] <;> nofun

theorem inflated_not_unsupported (compressed : List UInt8) (message : String) :
    client.inflated compressed ≠ .error (.unsupported message) := by
  rw [AppStoreClient.inflated]
  cases client.crates.gunzip compressed <;> nofun

theorem segment_status_classified_iff (response : Streamed) (result : Except StackError AnalyticsReportData)
    (delivered : response.broken = none) (downloaded : Downloaded client url maxBytes response result) :
    ClassifiedByStatus client maxBytes response result ↔ isSuccess response.status = true ∨ ¬ Advertised maxBytes response := by
  rw [(downloaded_iff client url maxBytes response result).mp downloaded]
  by_cases success : isSuccess response.status = true
  · have reads := read_segment_success client maxBytes response success delivered
    refine ⟨fun _ => .inl success, fun _ => ⟨?_, ?_⟩⟩
    · intro failed
      rw [success] at failed
      cases failed
    · intro message refused
      refine ⟨success, ?_⟩
      by_contra within
      rw [reads.2 within] at refused
      exact inflated_not_unsupported client response.payload message refused
  · have failed : isSuccess response.status = false := by simpa using success
    have reads := read_segment_failure client maxBytes response failed delivered
    by_cases advertised : Advertised maxBytes response
    · constructor
      · intro classified
        exact absurd (classified.refused _ (reads.1 advertised)).1 success
      · intro ruled
        exact absurd advertised (ruled.resolve_left success)
    · refine ⟨fun _ => .inr advertised, fun _ => ⟨?_, ?_⟩⟩
      · intro _
        rw [reads.2 advertised, status_error_documented]
      · intro message refused
        rw [reads.2 advertised] at refused
        exact absurd (Except.error.inj refused) (status_error_not_unsupported _ _ message)

theorem missing_segment_classified :
    ClassifiedByStatus segmentClient 64 (answering 404 [asBytes "gone"]) (.error (.http 404 "gone")) :=
  (segment_status_classified_iff segmentClient segmentUrl 64 (answering 404 [asBytes "gone"]) _ rfl
    ((downloaded_iff _ _ _ _ _).mpr rfl)).mpr (.inr (by decide))

theorem expired_segment_unsupported :
    Downloaded segmentClient segmentUrl 3 (answering 403 [asBytes "Request has expired"])
        (.error (.unsupported segmentTooLargeMessage)) ∧
      documentedError 403 "Request has expired" = .http 403 "Request has expired" ∧ isSuccess 403 = false :=
  ⟨(downloaded_iff _ _ _ _ _).mpr rfl, by decide, rfl⟩

theorem segment_whole_file_read_iff (valid : GzipMember → Prop) (library : ReadsFirstMember valid client.crates.gunzip)
    (first : GzipMember) (rest : List GzipMember) (file : ∀ member ∈ first :: rest, valid member) (response : Streamed)
    (result : Except StackError AnalyticsReportData) (success : isSuccess response.status = true)
    (delivered : response.broken = none) (payload : response.payload = gzipFile (first :: rest))
    (within : ¬ Exceeds maxBytes response) (downloaded : Downloaded client url maxBytes response result) :
    result = .ok (parseAnalyticsTsv (contents (first :: rest))) ↔ AddsNothing first.text.toList (contents rest).toList := by
  have inflated : client.inflated response.payload = .ok (parseAnalyticsTsv first.text) := by
    rw [AppStoreClient.inflated, payload, library first rest file]
  have whole : (contents (first :: rest)).toList = first.text.toList ++ (contents rest).toList := by
    simp [contents, String.toList_join]
  rw [(downloaded_iff client url maxBytes response result).mp downloaded,
    (read_segment_success client maxBytes response success delivered).2 within, inflated, ← filled_append_iff, ← whole]
  constructor
  · intro same
    exact ((parse_inj first.text (contents (first :: rest))).mp (Except.ok.inj same)).symm
  · intro same
    rw [(parse_inj first.text (contents (first :: rest))).mpr same.symm]

theorem segment_library : ReadsFirstMember (· ∈ segmentMembers) segmentClient.crates.gunzip := by
  intro first rest file
  have known := file first List.mem_cons_self
  rw [segmentMembers, List.mem_cons, List.mem_cons, List.mem_singleton] at known
  rcases known with rfl | rfl | rfl <;> rfl

theorem blank_member_adds_nothing :
    Except.ok ⟨["a", "b"], [], 0⟩ = (.ok (parseAnalyticsTsv (contents [headerMember, blankMember])) :
      Except StackError AnalyticsReportData) :=
  (segment_whole_file_read_iff segmentClient segmentUrl 64 (· ∈ segmentMembers) segment_library headerMember [blankMember]
    (by simp [segmentMembers]) (answering 200 [headerMember.bytes, blankMember.bytes]) _ rfl rfl rfl (by decide)
    ((downloaded_iff _ _ _ _ _).mpr rfl)).mpr (.inl ⟨rfl, fun both => by cases both.1⟩)

theorem second_member_lost :
    ReadsFirstMember (· ∈ segmentMembers) segmentClient.crates.gunzip ∧
      ¬ Exceeds 48 (answering 200 [gzipFile [headerMember, rowMember]]) ∧
      Downloaded segmentClient segmentUrl 48 (answering 200 [gzipFile [headerMember, rowMember]]) (.ok ⟨["a", "b"], [], 0⟩) ∧
      parseAnalyticsTsv (contents [headerMember, rowMember]) = ⟨["a", "b"], [["1", "2"]], 1⟩ :=
  ⟨segment_library, by decide, (downloaded_iff _ _ _ _ _).mpr rfl, rfl⟩

end StackConnect
