import StackConnect.AppStore.UploadSlices

set_option autoImplicit false

namespace StackConnect

open Interaction Serde

variable (client : AppStoreClient)

def Committed (id : String) (data : List UInt8) (trace : Trace) (result : Except StackError AppScreenshotResource) : Prop :=
  DocumentRead client (ScreenshotRequest.committing client.baseUrl id (client.crates.md5 data)) "AppScreenshotDocumentResource"
    "app screenshot commit response" AppScreenshotResource.decode trace result

-- The operations in list order, each with its own slice, up to the first that is not answered 2xx.
inductive OperationsSent (data : List UInt8) : List UploadOperation → Trace → Except StackError Unit → Prop
  | all : OperationsSent data [] [] (.ok ())
  | unnamed (operation : UploadOperation) (rest : List UploadOperation) (message : String)
      (invalid : client.crates.method operation.method = .error message) :
      OperationsSent data (operation :: rest) [] (.error (.network ("invalid upload method: " ++ message)))
  | refused (operation : UploadOperation) (rest : List UploadOperation) (method : Method)
      (reply : Except String (Nat × String)) (error : StackError) (named : client.crates.method operation.method = .ok method)
      (failed : uploadAnswer reply = .error error) :
      OperationsSent data (operation :: rest)
        [⟨.send (ScreenshotRequest.uploading operation method (operation.slice data)), reply⟩] (.error error)
  | next (operation : UploadOperation) (rest : List UploadOperation) (method : Method)
      (reply : Except String (Nat × String)) (later : Trace) (result : Except StackError Unit)
      (named : client.crates.method operation.method = .ok method) (passed : uploadAnswer reply = .ok ())
      (others : OperationsSent data rest later result) :
      OperationsSent data (operation :: rest)
        (⟨.send (ScreenshotRequest.uploading operation method (operation.slice data)), reply⟩ :: later) result

inductive Uploaded (setId fileName : String) (data : List UInt8) : Trace → Except StackError (Ended ScreenshotInfo) → Prop
  | unreserved (trace : Trace) (error : StackError) (failed : Reserved client setId fileName data trace (.error error)) :
      Uploaded setId fileName data trace (.error error)
  | interrupted (first sent : Trace) (reservation : AppScreenshotReservation) (error : StackError)
      (reserved : Reserved client setId fileName data first (.ok reservation))
      (stopped : OperationsSent client data reservation.attributes.uploadOperations sent (.error error)) :
      Uploaded setId fileName data (first ++ sent) (.error error)
  | committed (first sent last : Trace) (reservation : AppScreenshotReservation)
      (result : Except StackError AppScreenshotResource)
      (reserved : Reserved client setId fileName data first (.ok reservation))
      (uploaded : OperationsSent client data reservation.attributes.uploadOperations sent (.ok ()))
      (commit : Committed client reservation.id data last result) :
      Uploaded setId fileName data (first ++ (sent ++ last)) (result.map fun resource => .returned (toScreenshotInfo resource))

def Tiles (total : Nat) : Int → List UploadOperation → Prop
  | start, [] => start = total
  | start, operation :: rest =>
      operation.offset = start ∧ 0 ≤ operation.length ∧ Tiles total (start + operation.length) rest

-- The binary bodies that were answered 2xx, in the order they were sent.
def transmitted (trace : Trace) : List (List UInt8) :=
  (exchanges trace).filterMap fun sent =>
    match sent.1.body, uploadAnswer sent.2 with
    | .bytes chunk, .ok () => some chunk
    | _, _ => none

def CommitSent (id : String) (data : List UInt8) (trace : Trace) : Prop :=
  ∃ token reply, ((ScreenshotRequest.committing client.baseUrl id (client.crates.md5 data)).bearerAuth token, reply) ∈ exchanges trace

theorem ends_reserve (setId fileName : String) (data : List UInt8) :
    Ends (client.reserveScreenshot setId fileName data) (Reserved client setId fileName data) :=
  ends_exchange_document client _ _ _ _

theorem ends_commit (id : String) (data : List UInt8) :
    Ends (client.commitScreenshot id data) fun trace result =>
      ∃ read, Committed client id data trace read ∧ result = read.map toScreenshotInfo := by
  apply ends_judged (fun resource => .ok (toScreenshotInfo resource)) (ends_exchange_document client _ _ _ _)
  intro trace result commit
  cases result with
  | error failure => exact ⟨.error failure, commit, rfl⟩
  | ok resource => exact ⟨.ok resource, commit, rfl⟩

def UploadEnds (id : String) (data : List UInt8) (operations : List UploadOperation) (trace : Trace)
    (result : Except StackError (Ended ScreenshotInfo)) : Prop :=
  (∃ error, OperationsSent client data operations trace (.error error) ∧ result = .error error) ∨
    ∃ sent last read, trace = sent ++ last ∧ OperationsSent client data operations sent (.ok ()) ∧
      Committed client id data last read ∧ result = read.map fun resource => .returned (toScreenshotInfo resource)

theorem ends_upload_and_commit (target : Target) (id : String) (data : List UInt8) (holds : target.Holds data)
    (operations : List UploadOperation) (inside : ∀ operation ∈ operations, operation.InRange data) :
    Ends (client.uploadAndCommit target id data operations) (UploadEnds client id data operations) := by
  induction operations with
  | nil =>
      rw [upload_nothing]
      apply ends_judged (fun info => .ok (Ended.returned info)) (ends_commit client id data)
      intro trace result committed
      obtain ⟨read, commit, rfl⟩ := committed
      have same : (read.map toScreenshotInfo >>= fun info => .ok (Ended.returned info)) =
          read.map fun resource => Ended.returned (toScreenshotInfo resource) := by
        cases read <;> rfl
      exact .inr ⟨[], trace, read, rfl, .all, commit, same⟩
  | cons operation rest ih =>
      have cut := in_range_chunk target operation data holds (inside operation List.mem_cons_self)
      have later := ih fun other member => inside other (List.mem_cons_of_mem operation member)
      cases named : client.crates.method operation.method with
      | error message =>
          rw [upload_unnamed client target id data operation rest _ message cut named]
          exact ends_done _ (.inl ⟨_, .unnamed operation rest message named, rfl⟩)
      | ok method =>
          rw [upload_named client target id data operation rest _ method cut named]
          apply ends_ask
          intro reply
          cases answered : uploadAnswer reply with
          | error failure =>
              exact ends_done _ (.inl ⟨failure, .refused operation rest method reply failure named answered, rfl⟩)
          | ok value =>
              apply ends_mono later
              intro following result uploaded
              rcases uploaded with ⟨error, stopped, ended⟩ | ⟨sent, last, read, rfl, finished, commit, ended⟩
              · exact .inl ⟨error, .next operation rest method reply following _ named answered stopped, ended⟩
              · exact .inr ⟨_, last, read, rfl, .next operation rest method reply sent _ named answered finished, commit, ended⟩

theorem runs_after_reserve (target : Target) (setId fileName : String) (data : List UInt8) (holds : target.Holds data)
    (first later : Trace) (reservation : AppScreenshotReservation)
    (reserved : Reserved client setId fileName data first (.ok reservation))
    (inside : ∀ operation ∈ reservation.attributes.uploadOperations, operation.InRange data)
    (outcome : Option (Except StackError (Ended ScreenshotInfo)))
    (run : Runs (client.uploadScreenshot target setId fileName data) (first ++ later) outcome) :
    ∃ result, UploadEnds client reservation.id data reservation.attributes.uploadOperations later result ∧
      outcome = some result := by
  have after := (runs_upload_reserved client target setId fileName data reservation first later reserved outcome).mp run
  exact (ends_upload_and_commit client target reservation.id data holds _ inside).runs later outcome after

theorem runs_uploaded (target : Target) (setId fileName : String) (data : List UInt8) (holds : target.Holds data)
    (trace : Trace) (outcome : Option (Except StackError (Ended ScreenshotInfo)))
    (run : Runs (client.uploadScreenshot target setId fileName data) trace outcome)
    (inside : ∀ first later reservation, trace = first ++ later → Reserved client setId fileName data first (.ok reservation) →
      ∀ operation ∈ reservation.attributes.uploadOperations, operation.InRange data) :
    ∃ result, Uploaded client setId fileName data trace result ∧ outcome = some result := by
  have reserves := ends_reserve client setId fileName data
  rw [upload_screenshot_reserved] at run
  rcases runs_bind _ _ _ _ run with ⟨reservation, first, later, rfl, ran, after⟩ | ⟨error, failed, rfl⟩ | ⟨stuck, _⟩
  · have reserved := reserves.given first _ ran
    have uploads := ends_upload_and_commit client target reservation.id data holds reservation.attributes.uploadOperations
      (inside first later reservation rfl reserved)
    obtain ⟨result, uploaded, rfl⟩ := uploads.runs later outcome after
    rcases uploaded with ⟨error, stopped, rfl⟩ | ⟨sent, last, read, rfl, finished, commit, rfl⟩
    · exact ⟨_, .interrupted first later reservation error reserved stopped, rfl⟩
    · exact ⟨_, .committed first sent last reservation read reserved finished commit, rfl⟩
  · exact ⟨_, .unreserved trace error (reserves.given trace _ failed), rfl⟩
  · exact absurd stuck (reserves.uncut trace)

theorem slice_then_rest (operation : UploadOperation) (data : List UInt8) (offset : 0 ≤ operation.offset)
    (length : 0 ≤ operation.length) :
    operation.slice data ++ data.drop (operation.offset + operation.length).toNat = data.drop operation.offset.toNat := by
  rw [UploadOperation.slice, show (operation.offset + operation.length).toNat =
    operation.offset.toNat + operation.length.toNat by omega, ← List.drop_drop]
  exact List.take_append_drop _ _

theorem tiles_cover (data : List UInt8) (start : Int) (operations : List UploadOperation) (low : 0 ≤ start)
    (tiles : Tiles data.length start operations) :
    operations.flatMap (·.slice data) = data.drop start.toNat := by
  induction operations generalizing start with
  | nil =>
      rw [Tiles] at tiles
      rw [tiles, Int.toNat_natCast, List.drop_length]
      rfl
  | cons operation rest ih =>
      obtain ⟨here, length, later⟩ := tiles
      rw [List.flatMap_cons, ih (start + operation.length) (by omega) later, ← here]
      exact slice_then_rest operation data (by omega) length

theorem operations_transmitted (data : List UInt8) (operations : List UploadOperation) (sent : Trace)
    (uploaded : OperationsSent client data operations sent (.ok ())) :
    transmitted sent = operations.map (·.slice data) := by
  generalize ended : (Except.ok () : Except StackError Unit) = result at uploaded
  induction uploaded with
  | all => rfl
  | unnamed operation rest message invalid => cases ended
  | refused operation rest method reply error named failed => cases ended
  | next operation rest method reply later result named passed others ih =>
      have tail := ih ended
      rw [transmitted] at tail ⊢
      simp only [exchanges, List.filterMap_cons, ScreenshotRequest.uploading, passed, List.map_cons]
      exact congrArg _ tail

theorem reserved_prefix (setId fileName : String) (data : List UInt8) (first later other others : Trace)
    (reservation : AppScreenshotReservation) (result : Except StackError AppScreenshotReservation)
    (one : Reserved client setId fileName data first (.ok reservation))
    (two : Reserved client setId fileName data other result) (split : first ++ later = other ++ others) :
    result = .ok reservation := by
  obtain ⟨raw, call, read⟩ := one
  obtain ⟨otherRaw, otherCall, otherRead⟩ := two
  cases call with
  | unsigned message => cases read
  | broken token message => cases read
  | answered token response =>
      cases otherCall with
      | unsigned message => cases split
      | broken token message => cases split
      | answered token response =>
          cases split
          exact otherRead.trans read.symm

theorem operations_sent_prefix (data : List UInt8) (operations : List UploadOperation) (sent rest other others : Trace)
    (result same : Except StackError Unit) (one : OperationsSent client data operations sent result)
    (two : OperationsSent client data operations other same) (split : sent ++ rest = other ++ others) : result = same := by
  induction one generalizing other with
  | all =>
      cases two
      rfl
  | unnamed operation rest message invalid =>
      cases two with
      | unnamed _ _ _ again =>
          cases invalid.symm.trans again
          rfl
      | refused _ _ _ _ _ named failed => cases invalid.symm.trans named
      | next _ _ _ _ _ _ named passed more => cases invalid.symm.trans named
  | refused operation rest method reply error named failed =>
      cases two with
      | unnamed _ _ _ again => cases named.symm.trans again
      | refused _ _ _ _ _ again failedAgain =>
          cases split
          exact failed.symm.trans failedAgain
      | next _ _ _ _ _ _ again passed more =>
          cases split
          cases failed.symm.trans passed
  | next operation rest method reply later result named passed more ih =>
      cases two with
      | unnamed _ _ _ again => cases named.symm.trans again
      | refused _ _ _ _ _ again failed =>
          cases split
          cases passed.symm.trans failed
      | next _ _ _ _ _ _ again passedAgain others =>
          obtain ⟨_, tail⟩ := List.cons.inj split
          exact ih _ others tail

theorem operations_send_no_token (data : List UInt8) (operations : List UploadOperation) (sent : Trace)
    (result : Except StackError Unit) (uploaded : OperationsSent client data operations sent result) :
    ∀ exchanged ∈ exchanges sent, exchanged.1.bearer = none := by
  induction uploaded with
  | all => simp [exchanges]
  | unnamed operation rest message invalid => simp [exchanges]
  | refused operation rest method reply error named failed =>
      simp [exchanges, ScreenshotRequest.uploading]
  | next operation rest method reply later result named passed others ih =>
      intro exchanged inside
      rcases List.mem_cons.mp inside with rfl | later
      · rfl
      · exact ih exchanged later

theorem reserve_exchanges (setId fileName : String) (data : List UInt8) (trace : Trace)
    (result : Except StackError AppScreenshotReservation) (reserved : Reserved client setId fileName data trace result) :
    ∀ exchanged ∈ exchanges trace, exchanged.1.method = .post := by
  obtain ⟨raw, call, _⟩ := reserved
  cases call <;> simp [exchanges, Request.bearerAuth, ScreenshotRequest.reserving]

theorem commit_sent_append (id : String) (data : List UInt8) (first later : Trace) :
    CommitSent client id data (first ++ later) ↔ CommitSent client id data first ∨ CommitSent client id data later := by
  simp only [CommitSent, exchanges_append, List.mem_append]
  constructor
  · intro sent
    obtain ⟨token, reply, early | late⟩ := sent
    · exact .inl ⟨token, reply, early⟩
    · exact .inr ⟨token, reply, late⟩
  · rintro (⟨token, reply, early⟩ | ⟨token, reply, late⟩)
    · exact ⟨token, reply, .inl early⟩
    · exact ⟨token, reply, .inr late⟩

theorem reserve_sends_no_commit (setId fileName id : String) (data : List UInt8) (trace : Trace)
    (result : Except StackError AppScreenshotReservation) (reserved : Reserved client setId fileName data trace result) :
    ¬ CommitSent client id data trace := by
  intro sent
  obtain ⟨token, reply, inside⟩ := sent
  cases reserve_exchanges client setId fileName data trace result reserved _ inside

theorem operations_send_no_commit (id : String) (data : List UInt8) (operations : List UploadOperation) (sent : Trace)
    (result : Except StackError Unit) (uploaded : OperationsSent client data operations sent result) :
    ¬ CommitSent client id data sent := by
  intro commit
  obtain ⟨token, reply, inside⟩ := commit
  cases operations_send_no_token client data operations sent result uploaded _ inside

theorem committing_id (baseUrl id other : String) (digest : List UInt8)
    (same : (ScreenshotRequest.committing baseUrl id digest).body = (ScreenshotRequest.committing baseUrl other digest).body) :
    id = other := by
  simp [ScreenshotRequest.committing] at same
  exact same

theorem commit_sends_commit (id other : String) (data : List UInt8) (trace : Trace) (result : Except StackError AppScreenshotResource)
    (commit : Committed client id data trace result) :
    (CommitSent client other data trace → id = other) ∧ (AllSigned trace → CommitSent client id data trace) := by
  obtain ⟨raw, call, _⟩ := commit
  cases call with
  | unsigned message =>
      refine ⟨?_, fun signed => absurd List.mem_cons_self (signed message)⟩
      intro sent
      obtain ⟨token, reply, inside⟩ := sent
      cases inside
  | broken token message =>
      refine ⟨?_, fun _ => ⟨token, _, List.mem_cons_self⟩⟩
      intro sent
      obtain ⟨otherToken, reply, inside⟩ := sent
      have body := congrArg (fun sent => sent.1.body) (List.mem_singleton.mp inside)
      exact (committing_id client.baseUrl other id (client.crates.md5 data) body).symm
  | answered token response =>
      refine ⟨?_, fun _ => ⟨token, _, List.mem_cons_self⟩⟩
      intro sent
      obtain ⟨otherToken, reply, inside⟩ := sent
      have body := congrArg (fun sent => sent.1.body) (List.mem_singleton.mp inside)
      exact (committing_id client.baseUrl other id (client.crates.md5 data) body).symm

theorem commit_sent_after_upload (setId fileName id : String) (data : List UInt8) (trace : Trace)
    (result : Except StackError (Ended ScreenshotInfo)) (uploaded : Uploaded client setId fileName data trace result)
    (sent : CommitSent client id data trace) :
    ∃ first sent later reservation, trace = first ++ (sent ++ later) ∧ reservation.id = id ∧
      Reserved client setId fileName data first (.ok reservation) ∧
        OperationsSent client data reservation.attributes.uploadOperations sent (.ok ()) := by
  cases uploaded with
  | unreserved _ error failed => exact absurd sent (reserve_sends_no_commit client setId fileName id data trace _ failed)
  | interrupted first operations reservation error reserved stopped =>
      rcases (commit_sent_append client id data first operations).mp sent with early | late
      · exact absurd early (reserve_sends_no_commit client setId fileName id data first _ reserved)
      · exact absurd late (operations_send_no_commit client id data _ operations _ stopped)
  | committed first operations last reservation read reserved finished commit =>
      refine ⟨first, operations, last, reservation, rfl, ?_, reserved, finished⟩
      rcases (commit_sent_append client id data first _).mp sent with early | late
      · exact absurd early (reserve_sends_no_commit client setId fileName id data first _ reserved)
      · rcases (commit_sent_append client id data operations last).mp late with middle | late
        · exact absurd middle (operations_send_no_commit client id data _ operations _ finished)
        · exact (commit_sends_commit client reservation.id id data last _ commit).1 late

theorem transmitted_append (first later : Trace) : transmitted (first ++ later) = transmitted first ++ transmitted later := by
  rw [transmitted, exchanges_append, List.filterMap_append]
  rfl

theorem commit_transmits_nothing (id : String) (data : List UInt8) (trace : Trace)
    (result : Except StackError AppScreenshotResource) (commit : Committed client id data trace result) :
    transmitted trace = [] := by
  obtain ⟨raw, call, _⟩ := commit
  cases call <;> simp [transmitted, exchanges, Request.bearerAuth, ScreenshotRequest.committing]

theorem uploaded_commits (target : Target) (setId fileName : String) (data : List UInt8) (holds : target.Holds data)
    (first sent later : Trace) (reservation : AppScreenshotReservation)
    (outcome : Option (Except StackError (Ended ScreenshotInfo)))
    (run : Runs (client.uploadScreenshot target setId fileName data) (first ++ (sent ++ later)) outcome)
    (reserved : Reserved client setId fileName data first (.ok reservation))
    (inside : ∀ operation ∈ reservation.attributes.uploadOperations, operation.InRange data)
    (finished : OperationsSent client data reservation.attributes.uploadOperations sent (.ok ()))
    (signed : AllSigned (first ++ (sent ++ later))) :
    CommitSent client reservation.id data (first ++ (sent ++ later)) := by
  obtain ⟨result, uploaded, _⟩ := runs_after_reserve client target setId fileName data holds first (sent ++ later)
    reservation reserved inside outcome run
  rcases uploaded with ⟨error, stopped, _⟩ | ⟨other, last, _, same, _, commit, _⟩
  · have alike := operations_sent_prefix client data _ sent later (sent ++ later) [] _ _ finished stopped (List.append_nil _).symm
    cases alike
  · have lastSigned : AllSigned last := by
      intro message member
      have within : ⟨.bearerToken, .error message⟩ ∈ sent ++ later := same ▸ List.mem_append_right other member
      exact signed message (List.mem_append_right first within)
    have commitSent := (commit_sends_commit client reservation.id reservation.id data last _ commit).2 lastSigned
    rw [same, commit_sent_append, commit_sent_append]
    exact .inr (.inr commitSent)

theorem tiling_upload_covers (target : Target) (setId fileName id : String) (data : List UInt8) (holds : target.Holds data)
    (first later : Trace) (reservation : AppScreenshotReservation)
    (outcome : Option (Except StackError (Ended ScreenshotInfo)))
    (run : Runs (client.uploadScreenshot target setId fileName data) (first ++ later) outcome)
    (reserved : Reserved client setId fileName data first (.ok reservation))
    (inside : ∀ operation ∈ reservation.attributes.uploadOperations, operation.InRange data)
    (sent : CommitSent client id data (first ++ later))
    (tiles : Tiles data.length 0 reservation.attributes.uploadOperations) : (transmitted later).flatten = data := by
  obtain ⟨result, uploaded, _⟩ := runs_after_reserve client target setId fileName data holds first later reservation
    reserved inside outcome run
  rcases uploaded with ⟨error, stopped, _⟩ | ⟨other, last, read, rfl, finished, commit, _⟩
  · rcases (commit_sent_append client id data first later).mp sent with early | late
    · exact absurd early (reserve_sends_no_commit client setId fileName id data first _ reserved)
    · exact absurd late (operations_send_no_commit client id data _ later _ stopped)
  · rw [transmitted_append, operations_transmitted client data _ other finished, commit_transmits_nothing client _ data last _ commit,
      List.append_nil, ← List.flatMap_def]
    exact tiles_cover data 0 _ (Int.le_refl 0) tiles

def UploadRun (setId fileName : String) (data : List UInt8) (trace : Trace)
    (outcome : Option (Except StackError (Ended ScreenshotInfo))) : Prop :=
  (∃ result, Uploaded client setId fileName data trace result ∧ outcome = some result) ∧
    (AllSigned trace → ∀ id, CommitSent client id data trace ↔ ∃ first sent later reservation,
      trace = first ++ (sent ++ later) ∧ reservation.id = id ∧ Reserved client setId fileName data first (.ok reservation) ∧
        OperationsSent client data reservation.attributes.uploadOperations sent (.ok ())) ∧
    ∀ id first later reservation, CommitSent client id data trace → trace = first ++ later →
      Reserved client setId fileName data first (.ok reservation) →
      Tiles data.length 0 reservation.attributes.uploadOperations → (transmitted later).flatten = data

def committedJson : Json := .obj [("data", .obj [("id", .str "P1")])]

def shotClient : AppStoreClient := ⟨"https://host", .reading [wholeFile, committedJson]⟩

def shotServer : Handler Answer Unit := replying
  [((.post, shotClient.screenshotsUrl), (201, wholeFile.compact)),
    ((.other "PUT", "https://upload"), (200, "")),
    ((.patch, shotClient.screenshotUrl "P1"), (200, committedJson.compact))]

end StackConnect
