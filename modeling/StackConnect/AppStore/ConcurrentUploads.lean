import StackConnect.AppStore.ScreenshotServer

set_option autoImplicit false

namespace StackConnect

open Interaction Serde

structure Upload where
  setId : String
  fileName : String
  data : List UInt8

section Sent

variable {α : Type}

def judged : Reply → Except StackError String
  | .ok response => accepted response
  | .error message => .error (.network message)

-- The rest of an authorized request, once there is a token.
def afterToken (request : Request) (next : String → Async α) (token : String) : Async α :=
  .ask (.send (request.bearerAuth token)) fun reply => .done (judged reply) >>= next

def onToken (next : String → Async α) : Except String String → Async α
  | .ok token => next token
  | .error message => .done (.error (.auth message))

theorem exchange_asks (request : Request) (next : String → Async α) :
    exchange request >>= next = .ask .bearerToken (onToken (afterToken request next)) := by
  rw [exchange, authorized, bearerToken, Prog.bind_ask, Prog.bind_ask, Prog.bind_ask]
  congr 1
  funext token
  cases token with
  | error message => rfl
  | ok token =>
      change sendAndRead (request.bearerAuth token) >>= (fun response => Prog.ofExcept (accepted response)) >>= next =
        afterToken request next token
      rw [afterToken, sendAndRead, Prog.bind_ask, Prog.bind_ask]
      congr 1
      funext reply
      cases reply <;> rfl

end Sent

namespace Upload

variable {client : AppStoreClient} (server : ScreenshotServer client) (upload : Upload)

def run (client : AppStoreClient) (target : Target) : Async (Ended ScreenshotInfo) :=
  client.uploadScreenshot target upload.setId upload.fileName upload.data

def operations (id : String) : List UploadOperation := server.operations id upload.data.length

def chunks (id : String) : List (List UInt8) := (upload.operations server id).map (·.slice upload.data)

def count : Nat := (server.plan upload.data.length).length

def arrived (id : String) (received : Nat) : Shot :=
  ⟨id, upload.setId, upload.fileName, upload.data.length,
    ((upload.chunks server id).take received).map some ++ List.replicate (upload.count server - received) none, none⟩

def sealedShot (id : String) : Shot := (upload.arrived server id (upload.count server)).sealed (client.md5Hex upload.data)

theorem chunks_length (id : String) : (upload.chunks server id).length = upload.count server := by
  rw [chunks, List.length_map]
  exact server.operations_length id 0 0 (server.plan upload.data.length)

theorem chunks_flatten (id : String) : (upload.chunks server id).flatten = upload.data := by
  have sum : 0 + (server.plan upload.data.length).sum = upload.data.length := by
    rw [Nat.zero_add]
    exact server.planned _
  exact tiles_cover upload.data 0 (upload.operations server id) (Int.le_refl 0) (server.operations_tile id 0 0 _ _ sum)

theorem operation_found (id : String) (received : Nat) (more : received < upload.count server) :
    ∃ operation, (upload.operations server id).drop received = operation :: (upload.operations server id).drop (received + 1) ∧
      (upload.chunks server id)[received]? = some (operation.slice upload.data) ∧ operation.method = "PUT" ∧
      operation.url = server.partUrl id received ∧ operation.InRange upload.data := by
  have inside : received < (upload.operations server id).length := by
    have length := upload.chunks_length server id
    rw [chunks, List.length_map] at length
    omega
  have found : (upload.operations server id)[received]? = some (upload.operations server id)[received] :=
    List.getElem?_eq_getElem inside
  obtain ⟨start, length, same, bound⟩ := server.operation_planned id 0 0 _ received _ found
  rw [Nat.zero_add, server.planned] at bound
  refine ⟨(upload.operations server id)[received], List.drop_eq_getElem_cons inside, ?_, ?_, ?_, ?_⟩
  · rw [chunks, List.getElem?_map, found]
    rfl
  · rw [same]
  · rw [same, Nat.zero_add]
  · rw [same, UploadOperation.InRange]
    dsimp only
    omega

theorem nothing_left (id : String) : (upload.operations server id).drop (upload.count server) = [] := by
  rw [← upload.chunks_length server id, chunks, List.length_map, List.drop_length]

theorem arrived_unsealed (id : String) (received : Nat) (shot : Shot) (same : some (upload.arrived server id received) = some shot) :
    shot.checksum = none := by
  cases same
  rfl

theorem arrived_next (id : String) (received : Nat) (chunk : List UInt8) (found : (upload.chunks server id)[received]? = some chunk) :
    (upload.arrived server id received).filled received chunk = upload.arrived server id (received + 1) := by
  obtain ⟨inside, same⟩ := List.getElem?_eq_some_iff.mp found
  have more : received < upload.count server := by
    rwa [← upload.chunks_length server id]
  have before : (((upload.chunks server id).take received).map some).length = received := by
    rw [List.length_map, List.length_take, Nat.min_eq_left (Nat.le_of_lt inside)]
  have missing : upload.count server - received = (upload.count server - (received + 1)) + 1 := by omega
  rw [arrived, arrived, Shot.filled]
  congr 1
  rw [List.set_append_right _ _ (Nat.le_of_eq before), before, Nat.sub_self, missing, List.replicate_succ, List.set_cons_zero,
    List.take_succ_eq_append_getElem inside, same, List.map_append, List.map_singleton, List.append_assoc]
  rfl

theorem arrived_whole (id : String) : (upload.arrived server id (upload.count server)).assembled = some upload.data := by
  have parts : (upload.arrived server id (upload.count server)).parts = (upload.chunks server id).map some := by
    rw [arrived, Nat.sub_self, List.replicate_zero, List.append_nil, ← upload.chunks_length server id, List.take_length]
  have full : ((upload.chunks server id).map some).all Option.isSome = true := by
    rw [List.all_map]
    exact List.all_eq_true.mpr fun _ _ => rfl
  have received : ((upload.chunks server id).map some).filterMap (fun part => part) = upload.chunks server id := by
    rw [List.filterMap_map]
    exact List.filterMap_some
  rw [Shot.assembled, parts, if_pos full, received, upload.chunks_flatten]

section Phases

variable (target : Target)

def onReserved (client : AppStoreClient) (body : String) : Async (Ended ScreenshotInfo) :=
  .done (client.parse "AppScreenshotDocument" "app screenshot reserve response"
      (Document.decode AppScreenshotReservation.decode) body) >>=
    fun document => client.uploadAndCommit target document.data.id upload.data document.data.attributes.uploadOperations

def onCommitted (client : AppStoreClient) (body : String) : Async (Ended ScreenshotInfo) :=
  .done (client.parse "AppScreenshotDocumentResource" "app screenshot commit response" (Document.decode AppScreenshotResource.decode)
    body) >>= fun document => .done (.ok (.returned (toScreenshotInfo document.data)))

def reserveRequest (client : AppStoreClient) : Request :=
  ScreenshotServer.reserveRequest client upload.setId upload.fileName upload.data.length

def commitRequest (client : AppStoreClient) (id : String) : Request :=
  ScreenshotServer.commitRequest client id (client.md5Hex upload.data)

theorem run_reserves : upload.run client target = exchange (upload.reserveRequest client) >>= upload.onReserved target client := by
  rw [run, upload_screenshot_reserved, AppStoreClient.reserveScreenshot, AppStoreClient.exchangeDocument, Prog.bind_assoc]
  congr 1
  funext body
  rw [Prog.bind_assoc]
  rfl

theorem nothing_left_commits (id : String) :
    client.uploadAndCommit target id upload.data [] = exchange (upload.commitRequest client id) >>= onCommitted client := by
  rw [upload_nothing, AppStoreClient.commitScreenshot, AppStoreClient.exchangeDocument, Prog.bind_assoc, Prog.bind_assoc]
  congr 1
  funext body
  rw [Prog.bind_assoc]
  rfl

def Granted (id : String) : Prop := ∃ table, server.grant table upload.setId = some id

-- What an upload has still to do after so many answers, and what there is of its
-- screenshot by then.
inductive Phase : Nat → Async (Ended ScreenshotInfo) → Option Shot → Prop
  | waiting : Phase 0 (upload.run client target) none
  | reserving (token : String) : Phase 1 (afterToken (upload.reserveRequest client) (upload.onReserved target client) token) none
  | refused : Phase 2 (.done (.error (.http 409 ""))) none
  | sending (id : String) (received : Nat) (granted : upload.Granted server id) (few : received ≤ upload.count server) :
      Phase (received + 2) (client.uploadAndCommit target id upload.data ((upload.operations server id).drop received))
        (some (upload.arrived server id received))
  | committing (id token : String) (granted : upload.Granted server id) :
      Phase (upload.count server + 3) (afterToken (upload.commitRequest client id) (onCommitted client) token)
        (some (upload.arrived server id (upload.count server)))
  | finished (id : String) (granted : upload.Granted server id) :
      Phase (upload.count server + 4) (.done (.ok (.returned (upload.sealedShot server id).info))) (some (upload.sealedShot server id))
  | unsigned (met : Nat) (message : String) (own : Option Shot) (unsealed : ∀ shot, own = some shot → shot.checksum = none) :
      Phase met (.done (.error (.auth message))) own

-- What the upload can be promised: its data fits the machine and the i32 in which
-- the server tells its size, PUT is a method, and serde_json reads back what the server says of it.
structure Readable : Prop where
  put : client.crates.method "PUT" = .ok (.other "PUT")
  holds : target.Holds upload.data
  small : upload.data.length < 2147483648
  reservation : ∀ id, upload.Granted server id → PrintsBack client.crates.serdeJson (server.reservedJson id upload.data.length)
  commit : ∀ id, upload.Granted server id → PrintsBack client.crates.serdeJson (upload.sealedShot server id).committedJson

variable {server upload target} (readable : upload.Readable server target)
include readable

theorem reserved_continues (id : String) (granted : upload.Granted server id) :
    (.done (judged (.ok (201, client.crates.serdeJson.print (server.reservedJson id upload.data.length)))) >>=
      upload.onReserved target client : Async (Ended ScreenshotInfo)) =
        client.uploadAndCommit target id upload.data ((upload.operations server id).drop 0) := by
  have read := parse_prints_back "AppScreenshotDocument" "app screenshot reserve response" _ _ _ (readable.reservation id granted)
    (server.reservation_shown id upload.data.length readable.small)
  change upload.onReserved target client _ = _
  rw [onReserved, read]
  rfl

theorem committed_ends (id : String) (granted : upload.Granted server id) :
    (.done (judged (.ok (200, client.crates.serdeJson.print (upload.sealedShot server id).committedJson))) >>=
      onCommitted client : Async (Ended ScreenshotInfo)) = .done (.ok (.returned (upload.sealedShot server id).info)) := by
  have read := parse_prints_back "AppScreenshotDocumentResource" "app screenshot commit response" _ _ _ (readable.commit id granted)
    (committed_shown (upload.sealedShot server id) readable.small)
  change onCommitted client _ = _
  rw [onCommitted, read]
  rfl

theorem sending_asks (id : String) (received : Nat) (more : received < upload.count server) :
    ∃ operation : UploadOperation, client.uploadAndCommit target id upload.data ((upload.operations server id).drop received) =
        .ask (.send (operation.request (.other "PUT") (operation.slice upload.data))) (fun reply =>
          .done (uploadAnswer reply) >>= fun _ =>
            client.uploadAndCommit target id upload.data ((upload.operations server id).drop (received + 1))) ∧
      (upload.chunks server id)[received]? = some (operation.slice upload.data) ∧ operation.url = server.partUrl id received := by
  obtain ⟨operation, rest, chunk, method, url, within⟩ := upload.operation_found server id received more
  have cut := in_range_chunk target operation upload.data readable.holds within
  have named : client.crates.method operation.method = .ok (.other "PUT") := by
    rw [method, readable.put]
  refine ⟨operation, ?_, chunk, url⟩
  rw [rest, upload_named client target id upload.data operation _ _ _ cut named]

theorem phase_cases (met : Nat) (program : Async (Ended ScreenshotInfo)) (own : Option Shot)
    (now : upload.Phase server target met program own) :
    (met < upload.count server + 4 ∧ program.Asking ∧ ∀ shot, own = some shot → shot.checksum = none) ∨
      (∃ error, program = .done (.error error) ∧ ((∃ message, error = .auth message) ∨ error = .http 409 "") ∧
        ∀ shot, own = some shot → shot.checksum = none) ∨
      ∃ id, program = .done (.ok (.returned (upload.sealedShot server id).info)) ∧ own = some (upload.sealedShot server id) := by
  cases now with
  | waiting =>
      left
      rw [run_reserves, exchange_asks]
      exact ⟨Nat.succ_pos _, ⟨_, _, rfl⟩, by nofun⟩
  | reserving token => exact .inl ⟨by omega, ⟨_, _, rfl⟩, by nofun⟩
  | refused => exact .inr (.inl ⟨_, rfl, .inr rfl, by nofun⟩)
  | sending id received granted few =>
      left
      refine ⟨by omega, ?_, ?_⟩
      · rcases Nat.lt_or_eq_of_le few with more | rfl
        · obtain ⟨operation, asks, _⟩ := sending_asks readable id received more
          rw [asks]
          exact ⟨_, _, rfl⟩
        · rw [upload.nothing_left, nothing_left_commits, exchange_asks]
          exact ⟨_, _, rfl⟩
      · exact arrived_unsealed server upload id received
  | committing id token granted => exact .inl ⟨by omega, ⟨_, _, rfl⟩, arrived_unsealed server upload id _⟩
  | finished id granted => exact .inr (.inr ⟨id, rfl, rfl⟩)
  | unsigned met message own unsealed => exact .inr (.inl ⟨_, rfl, .inl ⟨message, rfl⟩, unsealed⟩)

variable {P : Type} (sign : P → Except String String × P) (table : List Shot) (held : P)

omit readable in
theorem facing_send (request : Request) : (server.toShared.facing sign).answer (.send request) (held, table) =
    (.ok (server.respond table request).1, held, (server.respond table request).2) := rfl

theorem phase_step (met : Nat) (query : Query) (next : Answer query → Async (Ended ScreenshotInfo)) (own : Option Shot)
    (distinct : (table.map Shot.id).Nodup) (inside : ∀ shot, own = some shot → shot ∈ table)
    (now : upload.Phase server target met (.ask query next) own) :
    ∃ new, Moved Shot.id table own new ((server.toShared.facing sign).answer query (held, table)).2.2 ∧
      upload.Phase server target (met + 1) (next ((server.toShared.facing sign).answer query (held, table)).1) new := by
  generalize shape : Prog.ask query next = program at now
  cases now with
  | waiting =>
      rw [run_reserves, exchange_asks] at shape
      cases shape
      refine ⟨none, .looked none, ?_⟩
      change upload.Phase server target 1 (onToken _ (sign held).1) none
      cases (sign held).1 with
      | ok token => exact .reserving token
      | error message => exact .unsigned 1 message none (by nofun)
  | reserving token =>
      rw [afterToken] at shape
      cases shape
      have answered : server.respond table ((upload.reserveRequest client).bearerAuth token) = _ :=
        server.respond_reserve table token upload.setId upload.fileName upload.data.length
      cases granting : server.grant table upload.setId with
      | none =>
          rw [granting] at answered
          refine ⟨none, ?_, ?_⟩
          · rw [facing_send, answered]
            exact .looked none
          · rw [facing_send, answered]
            exact .refused
      | some id =>
          rw [granting] at answered
          refine ⟨some (upload.arrived server id 0), ?_, ?_⟩
          · rw [facing_send, answered]
            exact .taken _ (server.unused table upload.setId id granting)
          · rw [facing_send, answered, Option.elim_some]
            dsimp only
            rw [reserved_continues readable id ⟨table, granting⟩]
            exact .sending id 0 ⟨table, granting⟩ (Nat.zero_le _)
  | refused => cases shape
  | sending id received granted few =>
      have mine := inside (upload.arrived server id received) rfl
      rcases Nat.lt_or_eq_of_le few with more | rfl
      · obtain ⟨operation, asks, chunk, url⟩ := sending_asks readable id received more
        rw [asks] at shape
        cases shape
        have answered := server.respond_part table distinct _ mine rfl operation received url (operation.slice upload.data)
        rw [upload.arrived_next server id received _ chunk] at answered
        refine ⟨some (upload.arrived server id (received + 1)), ?_, ?_⟩
        · rw [facing_send, answered]
          exact .changed _ _ rfl
        · rw [facing_send, answered]
          exact .sending id (received + 1) granted more
      · rw [upload.nothing_left, nothing_left_commits, exchange_asks] at shape
        cases shape
        refine ⟨some (upload.arrived server id (upload.count server)), .looked _, ?_⟩
        change upload.Phase server target (upload.count server + 3) (onToken _ (sign held).1) _
        cases (sign held).1 with
        | ok token => exact .committing id token granted
        | error message => exact .unsigned _ message _ (arrived_unsealed server upload id _)
  | committing id token granted =>
      rw [afterToken] at shape
      cases shape
      have answered : server.respond table ((upload.commitRequest client id).bearerAuth token) =
          ((200, client.crates.serdeJson.print (upload.sealedShot server id).committedJson),
            replaceCell Shot.id table (upload.sealedShot server id)) :=
        server.respond_commit table distinct _ (inside _ rfl) rfl upload.data (upload.arrived_whole server id) token
      refine ⟨some (upload.sealedShot server id), ?_, ?_⟩
      · rw [facing_send, answered]
        exact .changed _ _ rfl
      · rw [facing_send, answered]
        dsimp only
        rw [committed_ends readable id granted]
        exact .finished id granted
  | finished id granted => cases shape
  | unsigned met message own unsealed => cases shape

end Phases

structure Carried (client : AppStoreClient) (shot : Shot) : Prop where
  set : shot.setId = upload.setId
  name : shot.fileName = upload.fileName
  size : shot.size = upload.data.length
  whole : shot.assembled = some upload.data
  checksum : shot.checksum = some (client.md5Hex upload.data)

theorem sealed_carried (id : String) : upload.Carried client (upload.sealedShot server id) where
  set := rfl
  name := rfl
  size := rfl
  whole := upload.arrived_whole server id
  checksum := rfl

end Upload

section Concurrent

variable {ι P : Type} [DecidableEq ι]

abbrev UploadWorld (ι P : Type) := World ι Query Answer StackError (Ended ScreenshotInfo) P (List Shot)

def uploadsBegin (client : AppStoreClient) (targets : ι → Target) (uploads : ι → Upload) (tokens : ι → P) (initial : List Shot) :
    UploadWorld ι P :=
  .begin (fun thread => (uploads thread).run client (targets thread)) tokens initial

-- What uploads that run side by side come to. Each one that has ended well has a
-- screenshot of its own with all of its data; no other screenshot has been sealed,
-- and none of those from before has changed.
structure UploadsApart (client : AppStoreClient) (uploads : ι → Upload) (initial : List Shot) (final : UploadWorld ι P) : Prop where
  distinct : (final.state.map Shot.id).Nodup
  kept : ∀ shot ∈ initial, shot ∈ final.state
  uploaded : ∀ thread info, final.programs thread = .done (.ok (.returned info)) →
    ∃ shot ∈ final.state, shot ∉ initial ∧ shot.info = info ∧ (uploads thread).Carried client shot
  own : ∀ thread other info found, final.programs thread = .done (.ok (.returned info)) →
    final.programs other = .done (.ok (.returned found)) → info.id = found.id → thread = other
  closed : ∀ shot ∈ final.state, shot.checksum ≠ none → shot ∈ initial ∨
    ∃ thread, final.programs thread = .done (.ok (.returned shot.info)) ∧ (uploads thread).Carried client shot
  ended : ∀ thread result, final.programs thread = .done result →
    (∃ info, result = .ok (.returned info)) ∨ (∃ message, result = .error (.auth message)) ∨ result = .error (.http 409 "")

variable {client : AppStoreClient} {server : ScreenshotServer client} {targets : ι → Target} {uploads : ι → Upload}
  {initial : List Shot} {final : UploadWorld ι P} (readable : ∀ thread, (uploads thread).Readable server (targets thread))
  (lodging : Lodging Shot.id (fun thread => (uploads thread).Phase server (targets thread)) initial final)
include readable lodging

theorem lodging_apart : UploadsApart client uploads initial final := by
  obtain ⟨home, housed, phases⟩ := lodging
  have phase := fun thread => Upload.phase_cases (readable thread) _ _ _ (phases thread)
  have returned : ∀ thread info, final.programs thread = .done (.ok (.returned info)) →
      ∃ id, home thread = some ((uploads thread).sealedShot server id) ∧ info = ((uploads thread).sealedShot server id).info := by
    intro thread info ended
    rcases phase thread with ⟨_, ⟨query, next, asks⟩, _⟩ | ⟨error, failed, _⟩ | ⟨id, same, lodges⟩
    · rw [ended] at asks
      cases asks
    · rw [ended] at failed
      cases failed
    · rw [ended] at same
      cases same
      exact ⟨id, lodges, rfl⟩
  refine ⟨housed.distinct, fun shot before => (housed.kept shot before).1, ?_, ?_, ?_, ?_⟩
  · intro thread info ended
    obtain ⟨id, lodges, rfl⟩ := returned thread info ended
    refine ⟨_, housed.inside thread _ lodges, ?_, rfl, (uploads thread).sealed_carried server id⟩
    intro before
    exact (housed.kept _ before).2 thread lodges
  · intro thread other info found first second same
    obtain ⟨id, lodges, rfl⟩ := returned thread info first
    obtain ⟨again, lodged, rfl⟩ := returned other found second
    have shots := eq_of_key Shot.id final.state housed.distinct _ _ (housed.inside thread _ lodges) (housed.inside other _ lodged) same
    rw [← shots] at lodged
    exact housed.own thread other _ lodges lodged
  · intro shot inside closed
    rcases housed.lodged shot inside with before | ⟨thread, lodges⟩
    · exact .inl before
    · right
      rcases phase thread with ⟨_, _, unsealed⟩ | ⟨_, _, _, unsealed⟩ | ⟨id, same, sealed⟩
      · exact absurd (unsealed shot lodges) closed
      · exact absurd (unsealed shot lodges) closed
      · rw [lodges] at sealed
        cases sealed
        exact ⟨thread, same, (uploads thread).sealed_carried server id⟩
  · intro thread result ended
    rcases phase thread with ⟨_, ⟨query, next, asks⟩, _⟩ | ⟨error, failed, ⟨message, rfl⟩ | rfl, _⟩ | ⟨id, same, _⟩
    · rw [ended] at asks
      cases asks
    · rw [ended] at failed
      cases failed
      exact .inr (.inl ⟨message, rfl⟩)
    · rw [ended] at failed
      cases failed
      exact .inr (.inr rfl)
    · rw [ended] at same
      cases same
      exact .inl ⟨_, rfl⟩

theorem lodging_ends (thread : ι)
    (late : ¬ (final.programs thread).Asking ∨ (uploads thread).count server + 4 ≤ (final.seen thread).length) :
    ∃ result, final.programs thread = .done result := by
  obtain ⟨home, housed, phases⟩ := lodging
  rcases Upload.phase_cases (readable thread) _ _ _ (phases thread) with ⟨early, asks, _⟩ | ⟨error, failed, _⟩ | ⟨id, same, _⟩
  · rcases late with stopped | late
    · exact absurd asks stopped
    · omega
  · exact ⟨_, failed⟩
  · exact ⟨_, same⟩

end Concurrent

theorem concurrent_uploads {ι P : Type} [DecidableEq ι] (client : AppStoreClient) (server : ScreenshotServer client)
    (targets : ι → Target) (sign : ι → P → Except String String × P) (uploads : ι → Upload) (tokens : ι → P) (initial : List Shot)
    (distinct : (initial.map Shot.id).Nodup) (readable : ∀ thread, (uploads thread).Readable server (targets thread))
    (schedule : List ι) :
    let final := play (servedBy server.toShared sign) schedule (uploadsBegin client targets uploads tokens initial)
    UploadsApart client uploads initial final ∧
      ∀ thread, (uploads thread).count server + 4 ≤ schedule.count thread → ∃ result, final.programs thread = .done result := by
  intro final
  have begun : Lodging Shot.id (fun thread => (uploads thread).Phase server (targets thread)) initial
      (uploadsBegin client targets uploads tokens initial) :=
    ⟨fun _ => none, housed_begin initial distinct, fun _ => .waiting⟩
  have lodging : Lodging Shot.id (fun thread => (uploads thread).Phase server (targets thread)) initial final := by
    apply play_lodging (servedBy server.toShared sign) _ initial _ _ begun schedule
    intro thread met query next held table own apart inside now
    exact Upload.phase_step (readable thread) (sign thread) table held met query next own apart inside now
  refine ⟨lodging_apart readable lodging, ?_⟩
  intro thread turns
  apply lodging_ends readable lodging thread
  rcases play_counts (servedBy server.toShared sign) (uploadsBegin client targets uploads tokens initial) thread schedule with
    stopped | counted
  · exact .inl stopped
  · right
    rw [counted]
    exact le_trans turns (Nat.le_add_left _ _)

-- A server with room for two more screenshots, which takes them byte by byte.
def partAddress (id : String) (index : Nat) : String :=
  String.ofList (List.replicate index '+' ++ '/' :: id.toList)

def partAddressed (url : String) : Option (String × Nat) :=
  some (String.ofList ((url.toList.dropWhile (· == '+')).drop 1), (url.toList.takeWhile (· == '+')).length)

theorem part_addressed (id : String) (index : Nat) : partAddressed (partAddress id index) = some (id, index) := by
  have plus : ∀ char ∈ List.replicate index '+', (char == '+') = true := by
    intro char inside
    rw [List.eq_of_mem_replicate inside]
    rfl
  rw [partAddressed, partAddress, String.toList_ofList, List.dropWhile_append_of_pos plus, List.takeWhile_append_of_pos plus]
  simp

def twoMore (client : AppStoreClient) (digest : List UInt8 → String) (agrees : ∀ data, client.md5Hex data = digest data) :
    ScreenshotServer client where
  grant table _ := ["P", "Q"].find? fun id => !(table.map Shot.id).contains id
  unused table _ id granted := by simpa using List.find?_some granted
  plan size := List.replicate size 1
  planned size := by rw [List.sum_replicate, Nat.nsmul_eq_mul, Nat.mul_one]
  partUrl := partAddress
  partOf := partAddressed
  located := part_addressed
  digest := digest
  agrees := agrees

def twoUploads : Bool → Upload
  | true => ⟨"S", "first.png", [97, 98, 99]⟩
  | false => ⟨"S", "second.png", [100]⟩

def plainServer : ScreenshotServer plainClient := twoMore plainClient plainClient.md5Hex fun _ => rfl

def crossedClient : AppStoreClient where
  baseUrl := "https://host"
  crates := { Crates.reading (["P", "Q"].flatMap fun id => [plainServer.reservedJson id 3, plainServer.reservedJson id 1,
      Shot.committedJson ⟨id, "S", "first.png", 3, [], none⟩, Shot.committedJson ⟨id, "S", "second.png", 1, [], none⟩]) with
    md5 := fun data =>
      if data = [100] then [130, 119, 224, 145, 13, 117, 1, 149, 180, 72, 121, 118, 22, 224, 145, 173]
      else [144, 1, 80, 152, 60, 210, 79, 176, 214, 150, 63, 125, 40, 225, 127, 114] }

def crossedDigest (data : List UInt8) : String :=
  if data = [100] then "8277e0910d750195b448797616e091ad" else "900150983cd24fb0d6963f7d28e17f72"

theorem crossed_digest (data : List UInt8) : crossedClient.md5Hex data = crossedDigest data := by
  have bytes : crossedClient.crates.md5 data =
      if data = [100] then [130, 119, 224, 145, 13, 117, 1, 149, 180, 72, 121, 118, 22, 224, 145, 173]
      else [144, 1, 80, 152, 60, 210, 79, 176, 214, 150, 63, 125, 40, 225, 127, 114] := rfl
  rw [AppStoreClient.md5Hex, bytes, crossedDigest]
  by_cases single : data = [100]
  · rw [if_pos single, if_pos single]
    rfl
  · rw [if_neg single, if_neg single]
    rfl

def crossedServer : ScreenshotServer crossedClient := twoMore crossedClient crossedDigest crossed_digest

set_option maxRecDepth 20000 in
theorem two_readable (thread : Bool) : (twoUploads thread).Readable crossedServer ⟨64, true⟩ := by
  have ids : ∀ id, (twoUploads thread).Granted crossedServer id → id = "P" ∨ id = "Q" := by
    intro id granted
    obtain ⟨table, found⟩ := granted
    simpa using List.mem_of_find?_eq_some found
  refine ⟨rfl, ?_, ?_, ?_, ?_⟩
  · cases thread <;> exact ⟨by decide, by decide⟩
  · cases thread <;> decide
  · intro id granted
    rcases ids id granted with rfl | rfl <;> cases thread <;> rfl
  · intro id granted
    rcases ids id granted with rfl | rfl <;> cases thread <;> rfl

def crossedOrder : List Bool := [true, false, true, true, false, true, false, false, true, false, true, true]

def crossedUploads : UploadWorld Bool Unit :=
  play (servedBy crossedServer.toShared fun _ => plainSign) crossedOrder
    (uploadsBegin crossedClient (fun _ => ⟨64, true⟩) twoUploads (fun _ => ()) [])

set_option maxRecDepth 20000 in
theorem uploads_crossed : UploadsApart crossedClient twoUploads [] crossedUploads ∧
    crossedUploads.programs true = .done (.ok (.returned ⟨"P", none, some "first.png", some 3, none, none⟩)) ∧
      ∃ result, crossedUploads.programs false = .done result := by
  have apart := concurrent_uploads crossedClient crossedServer (fun _ => ⟨64, true⟩) (fun _ => plainSign) twoUploads
    (fun _ => ()) [] List.nodup_nil two_readable crossedOrder
  have turns : (twoUploads false).count crossedServer + 4 ≤ crossedOrder.count false := by decide
  exact ⟨apart.1, rfl, apart.2 false turns⟩

end StackConnect
