import StackConnect.AppStore.Calls
import StackConnect.AppStore.Screenshots

set_option autoImplicit false

namespace StackConnect

open Interaction Serde

-- What the language promises about a slice of bytes: at most isize::MAX of them.
def Target.Holds (target : Target) (data : List UInt8) : Prop :=
  target.usizeBits ≤ 64 ∧ data.length < 2 ^ (target.usizeBits - 1)

namespace UploadOperation

def InRange (operation : UploadOperation) (data : List UInt8) : Prop :=
  0 ≤ operation.offset ∧ 0 ≤ operation.length ∧ operation.offset + operation.length ≤ data.length

def NoOverflow (operation : UploadOperation) : Prop :=
  -9223372036854775808 ≤ operation.offset + operation.length ∧
    operation.offset + operation.length ≤ 9223372036854775807

def Sliceable (operation : UploadOperation) (target : Target) (data : List UInt8) : Prop :=
  operation.NoOverflow ∧
    target.asUsize operation.offset ≤ target.asUsize (operation.offset + operation.length) ∧
    target.asUsize (operation.offset + operation.length) ≤ data.length

def slice (operation : UploadOperation) (data : List UInt8) : List UInt8 :=
  (data.drop operation.offset.toNat).take operation.length.toNat

end UploadOperation

theorem add_i64_fits (target : Target) (operation : UploadOperation) (fits : operation.NoOverflow) :
    target.addI64 operation.offset operation.length = some (operation.offset + operation.length) := by
  obtain ⟨low, high⟩ := fits
  simp [Target.addI64, low, high]

theorem as_usize_small (target : Target) (value : Int) (data : List UInt8) (holds : target.Holds data) (low : 0 ≤ value)
    (high : value ≤ data.length) : target.asUsize value = value.toNat := by
  have small : (data.length : Int) < 2 ^ target.usizeBits := by
    have wider : (2 : Nat) ^ (target.usizeBits - 1) ≤ 2 ^ target.usizeBits :=
      Nat.pow_le_pow_right (by omega) (by omega)
    have bounded : data.length < 2 ^ target.usizeBits := by
      have := holds.2
      omega
    exact_mod_cast bounded
  rw [Target.asUsize, Int.emod_eq_of_lt low (by omega)]

theorem in_range_no_overflow (target : Target) (operation : UploadOperation) (data : List UInt8) (holds : target.Holds data)
    (within : operation.InRange data) : operation.NoOverflow := by
  obtain ⟨narrow, short⟩ := holds
  obtain ⟨offset, length, finish⟩ := within
  have wide : (2 : Nat) ^ (target.usizeBits - 1) ≤ 2 ^ 63 := Nat.pow_le_pow_right (by omega) (by omega)
  have bounded : data.length < 9223372036854775808 := by
    have : (2 : Nat) ^ 63 = 9223372036854775808 := by decide
    omega
  rw [UploadOperation.NoOverflow]
  omega

theorem in_range_chunk (target : Target) (operation : UploadOperation) (data : List UInt8) (holds : target.Holds data)
    (within : operation.InRange data) : operation.chunk target data = some (operation.slice data) := by
  have fits := in_range_no_overflow target operation data holds within
  obtain ⟨offset, length, finish⟩ := within
  have start := as_usize_small target operation.offset data holds offset (by omega)
  have ending := as_usize_small target (operation.offset + operation.length) data holds (by omega) finish
  rw [UploadOperation.chunk, add_i64_fits target operation fits]
  simp only [Option.map_some, Option.bind_eq_bind, Option.bind_some, start, ending]
  rw [if_pos (by omega), UploadOperation.slice]
  congr 1
  rw [List.drop_take]
  congr 1
  omega

theorem sliceable_chunk (target : Target) (operation : UploadOperation) (data : List UInt8) (fits : operation.NoOverflow) :
    operation.Sliceable target data ↔ operation.chunk target data ≠ none := by
  rw [UploadOperation.Sliceable, UploadOperation.chunk, add_i64_fits target operation fits]
  simp only [Option.map_some, Option.bind_eq_bind, Option.bind_some]
  by_cases inside : target.asUsize operation.offset ≤ target.asUsize (operation.offset + operation.length) ∧
      target.asUsize (operation.offset + operation.length) ≤ data.length
  · simp [inside, fits]
  · simp [inside]

theorem sliceable_on_64_bits (checks : Bool) (operation : UploadOperation) (data : List UInt8)
    (holds : Target.Holds ⟨64, checks⟩ data)
    (isI64 : -9223372036854775808 ≤ operation.offset ∧ operation.offset ≤ 9223372036854775807) :
    operation.Sliceable ⟨64, checks⟩ data ↔ operation.InRange data := by
  have short : data.length < 9223372036854775808 := holds.2
  constructor
  · intro sliced
    obtain ⟨⟨low, high⟩, ordered, inside⟩ := sliced
    simp only [Target.asUsize] at ordered inside
    rw [UploadOperation.InRange]
    omega
  · intro within
    have fits := in_range_no_overflow ⟨64, checks⟩ operation data holds within
    apply (sliceable_chunk ⟨64, checks⟩ operation data fits).mpr
    rw [in_range_chunk ⟨64, checks⟩ operation data holds within]
    exact Option.some_ne_none _

def uploadAnswer : Except String (Nat × String) → Except StackError Unit
  | .ok response => if isSuccess response.1 then .ok () else .error (.http response.1 response.2)
  | .error message => .error (.network message)

variable (client : AppStoreClient)

theorem send_upload_named (operation : UploadOperation) (chunk : List UInt8) (method : Method)
    (named : client.crates.method operation.method = .ok method) :
    client.sendUpload operation chunk = .ask (.send (operation.request method chunk)) fun reply => .done (uploadAnswer reply) := by
  rw [AppStoreClient.sendUpload, named]
  change (sendAndRead (operation.request method chunk) >>= _) = _
  rw [sendAndRead, Prog.bind_ask]
  congr 1
  funext reply
  cases reply with
  | error message => rfl
  | ok response =>
      obtain ⟨status, body⟩ := response
      simp only [Prog.bind_ok, uploadAnswer]
      by_cases success : isSuccess status = true
      · rw [if_pos success, if_pos success]
        rfl
      · rw [if_neg success, if_neg success]
        rfl

theorem send_upload_unnamed (operation : UploadOperation) (chunk : List UInt8) (message : String)
    (unnamed : client.crates.method operation.method = .error message) :
    client.sendUpload operation chunk = .done (.error (.network ("invalid upload method: " ++ message))) := by
  rw [AppStoreClient.sendUpload, unnamed]
  rfl

-- What upload_screenshot does once the reservation is there.
def AppStoreClient.uploadAndCommit (target : Target) (id : String) (data : List UInt8) (operations : List UploadOperation) :
    Async (Ended ScreenshotInfo) := do
  match ← client.uploadChunks target data operations with
  | .panicked => pure .panicked
  | .returned () => do
      let info ← client.commitScreenshot id data
      pure (.returned info)

theorem upload_screenshot_reserved (target : Target) (setId fileName : String) (data : List UInt8) :
    client.uploadScreenshot target setId fileName data = client.reserveScreenshot setId fileName data >>= fun reservation =>
      client.uploadAndCommit target reservation.id data reservation.attributes.uploadOperations := rfl

theorem upload_nothing (target : Target) (id : String) (data : List UInt8) :
    client.uploadAndCommit target id data [] =
      client.commitScreenshot id data >>= fun info => .done (.ok (.returned info)) := rfl

theorem upload_panics (target : Target) (id : String) (data : List UInt8) (operation : UploadOperation)
    (rest : List UploadOperation) (panics : operation.chunk target data = none) :
    client.uploadAndCommit target id data (operation :: rest) = .done (.ok .panicked) := by
  rw [AppStoreClient.uploadAndCommit, AppStoreClient.uploadChunks, panics]
  rfl

theorem upload_unnamed (target : Target) (id : String) (data : List UInt8) (operation : UploadOperation)
    (rest : List UploadOperation) (chunk : List UInt8) (message : String)
    (cut : operation.chunk target data = some chunk) (unnamed : client.crates.method operation.method = .error message) :
    client.uploadAndCommit target id data (operation :: rest) =
      .done (.error (.network ("invalid upload method: " ++ message))) := by
  rw [AppStoreClient.uploadAndCommit, AppStoreClient.uploadChunks, cut]
  dsimp only
  rw [send_upload_unnamed client operation chunk message unnamed]
  rfl

theorem upload_named (target : Target) (id : String) (data : List UInt8) (operation : UploadOperation)
    (rest : List UploadOperation) (chunk : List UInt8) (method : Method)
    (cut : operation.chunk target data = some chunk) (named : client.crates.method operation.method = .ok method) :
    client.uploadAndCommit target id data (operation :: rest) =
      .ask (.send (operation.request method chunk)) fun reply =>
        .done (uploadAnswer reply) >>= fun _ => client.uploadAndCommit target id data rest := by
  rw [AppStoreClient.uploadAndCommit, AppStoreClient.uploadChunks, cut]
  dsimp only
  rw [send_upload_named client operation chunk method named, Prog.bind_ask, Prog.bind_ask]
  congr 1
  funext reply
  rw [Prog.bind_assoc]
  rfl

-- The requests of an upload as they are written to the wire, tokens apart.
namespace ScreenshotRequest

def reserving (baseUrl setId fileName : String) (size : Nat) : Request :=
  ⟨.post, baseUrl ++ "/v1/appScreenshots", none, [], .json (.obj [("data", .obj
    [("type", .str "appScreenshots"), ("attributes", .obj [("fileName", .str fileName), ("fileSize", .int size)]),
      ("relationships", .obj [("appScreenshotSet", .obj [("data", .obj
        [("type", .str "appScreenshotSets"), ("id", .str setId)])])])])])⟩

def uploading (operation : UploadOperation) (method : Method) (chunk : List UInt8) : Request :=
  ⟨method, operation.url, none, operation.requestHeaders.map fun header => (header.name, header.value), .bytes chunk⟩

def hexText (digest : List UInt8) : String :=
  String.ofList (digest.flatMap fun byte => [Nat.digitChar (byte.toNat / 16), Nat.digitChar (byte.toNat % 16)])

def committing (baseUrl id : String) (digest : List UInt8) : Request :=
  ⟨.patch, baseUrl ++ "/v1/appScreenshots/" ++ id, none, [], .json (.obj [("data", .obj
    [("type", .str "appScreenshots"), ("id", .str id),
      ("attributes", .obj [("uploaded", .bool true), ("sourceFileChecksum", .str (hexText digest))])])])⟩

end ScreenshotRequest

def Reserved (setId fileName : String) (data : List UInt8) (trace : Trace)
    (result : Except StackError AppScreenshotReservation) : Prop :=
  DocumentRead client (ScreenshotRequest.reserving client.baseUrl setId fileName data.length)
    "AppScreenshotDocument" "app screenshot reserve response" AppScreenshotReservation.decode trace result

theorem runs_reserve (setId fileName : String) (data : List UInt8) (trace : Trace)
    (outcome : Option (Except StackError AppScreenshotReservation)) :
    Runs (client.reserveScreenshot setId fileName data) trace outcome ↔
      ∃ result, Reserved client setId fileName data trace result ∧ outcome = some result :=
  runs_exchange_document client _ _ _ _ trace outcome

theorem runs_upload_reserved (target : Target) (setId fileName : String) (data : List UInt8)
    (reservation : AppScreenshotReservation) (first later : Trace)
    (reserved : Reserved client setId fileName data first (.ok reservation))
    (outcome : Option (Except StackError (Ended ScreenshotInfo))) :
    Runs (client.uploadScreenshot target setId fileName data) (first ++ later) outcome ↔
      Runs (client.uploadAndCommit target reservation.id data reservation.attributes.uploadOperations) later outcome := by
  rw [upload_screenshot_reserved]
  exact runs_bind_after _ _ first later reservation
    ((runs_reserve client setId fileName data first _).mpr ⟨_, reserved, rfl⟩) outcome

-- What may be asked of the operations that are processed: the sum of each fits
-- i64, and it sends exactly its own slice, or sends nothing and ends the call in
-- an error. The next one is processed only after a 2xx answer.
def ProcessedSafely (data : List UInt8) (outcome : Option (Except StackError (Ended ScreenshotInfo))) :
    List UploadOperation → Trace → Prop
  | [], _ => True
  | operation :: rest, trace =>
      operation.NoOverflow ∧
        ((operation.InRange data ∧ ∃ method reply later,
            trace = ⟨.send (ScreenshotRequest.uploading operation method (operation.slice data)), reply⟩ :: later ∧
              (uploadAnswer reply = .ok () → ProcessedSafely data outcome rest later)) ∨
          (trace = [] ∧ ∃ error, outcome = some (.error error)))

def UploadSafe (target : Target) (data : List UInt8) : List UploadOperation → Prop
  | [] => True
  | operation :: rest =>
      match client.crates.method operation.method with
      | .ok _ => operation.InRange data ∧ UploadSafe target data rest
      | .error _ => operation.Sliceable target data

theorem commit_never_panics (target : Target) (id : String) (data : List UInt8) :
    Ends (client.uploadAndCommit target id data []) fun _ result => result ≠ .ok .panicked := by
  rw [upload_nothing, AppStoreClient.commitScreenshot, Prog.bind_assoc]
  apply ends_bind (ends_exchange_document client _ _ _ _)
  · intro trace error failed impossible
    cases impossible
  · intro trace resource read
    rw [Prog.pure_eq, Prog.bind_ok]
    exact ends_done _ (by simp)

theorem ends_upload_safe (target : Target) (id : String) (data : List UInt8) (holds : target.Holds data)
    (operations : List UploadOperation) (safe : UploadSafe client target data operations) :
    Ends (client.uploadAndCommit target id data operations) fun trace result =>
      result ≠ .ok .panicked ∧ ProcessedSafely data (some result) operations trace := by
  induction operations with
  | nil =>
      apply ends_mono (commit_never_panics client target id data)
      intro trace result calm
      exact ⟨calm, trivial⟩
  | cons operation rest ih =>
      rw [UploadSafe] at safe
      cases named : client.crates.method operation.method with
      | error message =>
          rw [named] at safe
          obtain ⟨chunk, cut⟩ := Option.ne_none_iff_exists'.mp ((sliceable_chunk target operation data safe.1).mp safe)
          rw [upload_unnamed client target id data operation rest chunk message cut named]
          exact ends_done _ ⟨by simp, safe.1, .inr ⟨rfl, _, rfl⟩⟩
      | ok method =>
          rw [named] at safe
          have cut := in_range_chunk target operation data holds safe.1
          have fits := in_range_no_overflow target operation data holds safe.1
          rw [upload_named client target id data operation rest _ method cut named]
          apply ends_ask
          intro reply
          cases answered : uploadAnswer reply with
          | error failure =>
              have stops : uploadAnswer reply ≠ .ok () := by simp [answered]
              exact ends_done _ ⟨by simp, fits, .inl ⟨safe.1, method, reply, [], rfl, fun passed => absurd passed stops⟩⟩
          | ok value =>
              apply ends_mono (ih safe.2)
              intro later result processed
              exact ⟨processed.1, fits, .inl ⟨safe.1, method, reply, later, rfl, fun _ => processed.2⟩⟩

theorem upload_runs_safe (target : Target) (id : String) (data : List UInt8) (operations : List UploadOperation)
    (all : ∀ trace outcome, Runs (client.uploadAndCommit target id data operations) trace outcome →
      outcome ≠ some (.ok .panicked) ∧ ProcessedSafely data outcome operations trace) :
    UploadSafe client target data operations := by
  induction operations with
  | nil => trivial
  | cons operation rest ih =>
      rw [UploadSafe]
      rcases cut : operation.chunk target data with _ | chunk
      · have panics := upload_panics client target id data operation rest cut
        exact absurd rfl (all [] _ (panics ▸ Runs.done _)).1
      · rcases named : client.crates.method operation.method with message | method
        · have stops := upload_unnamed client target id data operation rest chunk message cut named
          obtain ⟨_, fits, _⟩ := all [] _ (stops ▸ Runs.done _)
          apply (sliceable_chunk target operation data fits).mpr
          rw [cut]
          exact Option.some_ne_none chunk
        · -- An operation that was answered 200 leaves the rest to be processed.
          have goesOn : ∀ trace outcome, Runs (client.uploadAndCommit target id data rest) trace outcome →
              Runs (client.uploadAndCommit target id data (operation :: rest))
                (⟨.send (operation.request method chunk), .ok (200, "")⟩ :: trace) outcome := by
            intro trace outcome run
            rw [upload_named client target id data operation rest chunk method cut named]
            exact .ask _ _ _ _ _ run
          have inside : operation.InRange data := by
            have run := exec_runs (replying []) (client.uploadAndCommit target id data rest) ()
            obtain ⟨_, _, ⟨within, _⟩ | ⟨impossible, _⟩⟩ := all _ _ (goesOn _ _ run)
            · exact within
            · cases impossible
          have others : ∀ trace outcome, Runs (client.uploadAndCommit target id data rest) trace outcome →
              outcome ≠ some (.ok .panicked) ∧ ProcessedSafely data outcome rest trace := by
            intro trace outcome run
            obtain ⟨calm, _, ⟨_, _, reply, later, same, processed⟩ | ⟨impossible, _⟩⟩ := all _ _ (goesOn trace outcome run)
            · cases same
              exact ⟨calm, processed rfl⟩
            · cases impossible
          exact ⟨inside, ih others⟩

theorem upload_never_panics_iff (target : Target) (setId fileName : String) (data : List UInt8)
    (reservation : AppScreenshotReservation) (first : Trace) (holds : target.Holds data)
    (reserved : Reserved client setId fileName data first (.ok reservation)) :
    (∀ later outcome, Runs (client.uploadScreenshot target setId fileName data) (first ++ later) outcome →
        outcome ≠ some (.ok .panicked) ∧ ProcessedSafely data outcome reservation.attributes.uploadOperations later) ↔
      UploadSafe client target data reservation.attributes.uploadOperations := by
  simp only [runs_upload_reserved client target setId fileName data reservation first _ reserved]
  constructor
  · exact upload_runs_safe client target reservation.id data reservation.attributes.uploadOperations
  · intro safe later outcome run
    have ends := ends_upload_safe client target reservation.id data holds reservation.attributes.uploadOperations safe
    obtain ⟨result, ⟨calm, processed⟩, rfl⟩ := ends.runs later outcome run
    exact ⟨fun panicked => calm (Option.some.inj panicked), processed⟩

def uploadOperationJson (method : String) (offset length : Int) : Json := .obj
  [("method", .str method), ("url", .str "https://upload"), ("length", .int length), ("offset", .int offset)]

def reservationJson (operations : List Json) : Json := .obj
  [("data", .obj [("id", .str "P1"), ("attributes", .obj [("uploadOperations", .arr operations)])])]

def wholeFile : Json := reservationJson [uploadOperationJson "PUT" 0 3]
def beforeTheFile : Json := reservationJson [uploadOperationJson "PUT" (-1) 1]

def uploadClient : AppStoreClient := ⟨"https://host", .reading [wholeFile, beforeTheFile]⟩

def reservedTrace (body : Json) : Trace :=
  [⟨.bearerToken, .ok "token"⟩,
    ⟨.send ((Request.post uploadClient.screenshotsUrl (createBody "appScreenshots"
      [("fileName", .str "shot.png"), ("fileSize", .int 3)]
      [("appScreenshotSet", linkTo "appScreenshotSets" "S1")])).bearerAuth "token"), .ok (201, body.compact)⟩]

theorem three_bytes_held : Target.Holds ⟨64, false⟩ [1, 2, 3] := by
  refine ⟨by decide, ?_⟩
  simp

set_option maxRecDepth 20000 in
theorem negative_offset_panics :
    ¬ ∀ (client : AppStoreClient) (target : Target) (setId fileName : String) (data : List UInt8)
      (reservation : AppScreenshotReservation) (first : Trace), target.Holds data →
      Reserved client setId fileName data first (.ok reservation) →
      ∀ later outcome, Runs (client.uploadScreenshot target setId fileName data) (first ++ later) outcome →
        outcome ≠ some (.ok .panicked) ∧ ProcessedSafely data outcome reservation.attributes.uploadOperations later := by
  intro never
  have reserved : Reserved uploadClient "S1" "shot.png" [1, 2, 3] (reservedTrace beforeTheFile)
      (.ok ⟨"P1", ⟨[⟨"PUT", "https://upload", 1, -1, []⟩]⟩⟩) := ⟨_, .answered "token" (201, beforeTheFile.compact), rfl⟩
  have panics : Runs (uploadClient.uploadScreenshot ⟨64, false⟩ "S1" "shot.png" [1, 2, 3])
      (reservedTrace beforeTheFile ++ []) (some (.ok .panicked)) := by
    apply (runs_upload_reserved uploadClient _ _ _ _ _ _ _ reserved _).mpr
    rw [upload_panics uploadClient _ _ _ _ _ (by decide)]
    exact .done _
  exact (never uploadClient ⟨64, false⟩ "S1" "shot.png" [1, 2, 3] _ _ three_bytes_held reserved [] _ panics).1 rfl

set_option maxRecDepth 20000 in
theorem whole_file_never_panics_iff :
    (∀ later outcome, Runs (uploadClient.uploadScreenshot ⟨64, false⟩ "S1" "shot.png" [1, 2, 3])
        (reservedTrace wholeFile ++ later) outcome →
        outcome ≠ some (.ok .panicked) ∧ ProcessedSafely [1, 2, 3] outcome [⟨"PUT", "https://upload", 3, 0, []⟩] later) ↔
      UploadSafe uploadClient ⟨64, false⟩ [1, 2, 3] [⟨"PUT", "https://upload", 3, 0, []⟩] :=
  upload_never_panics_iff uploadClient ⟨64, false⟩ "S1" "shot.png" [1, 2, 3]
    ⟨"P1", ⟨[⟨"PUT", "https://upload", 3, 0, []⟩]⟩⟩ (reservedTrace wholeFile) three_bytes_held
    ⟨_, .answered "token" (201, wholeFile.compact), rfl⟩

end StackConnect
