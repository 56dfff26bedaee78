import Mathlib
import StackConnect.AppStore.BetaGroupStore
import StackConnect.AppStore.ScreenshotUpload
import StackConnect.AppStore.SharedServer
import StackConnect.Interaction.Tenancy

set_option autoImplicit false

namespace StackConnect

open Interaction Serde

-- A screenshot as the server keeps it: the parts it waits for, filled one by one,
-- and the checksum it was committed with.
structure Shot where
  id : String
  setId : String
  fileName : String
  size : Nat
  parts : List (Option (List UInt8))
  checksum : Option String

namespace Shot

def filled (shot : Shot) (index : Nat) (chunk : List UInt8) : Shot := { shot with parts := shot.parts.set index (some chunk) }

def sealed (shot : Shot) (checksum : String) : Shot := { shot with checksum := some checksum }

def assembled (shot : Shot) : Option (List UInt8) :=
  if shot.parts.all Option.isSome then some (shot.parts.filterMap fun part => part).flatten else none

def info (shot : Shot) : ScreenshotInfo := ⟨shot.id, none, some shot.fileName, some shot.size, none, none⟩

def committedJson (shot : Shot) : Json :=
  .obj [("data", .obj [("type", .str "appScreenshots"), ("id", .str shot.id),
    ("attributes", .obj [("fileName", .str shot.fileName), ("fileSize", .int shot.size)])])]

end Shot

-- A server that takes screenshots. It may refuse a reservation; what it grants has
-- an unused id, and a plan that cuts the file into parts with addresses of their own.
-- It takes the checksum of what it received itself, the way the md5 crate does.
structure ScreenshotServer (client : AppStoreClient) where
  grant : List Shot → String → Option String
  unused : ∀ table setId id, grant table setId = some id → id ∉ table.map Shot.id
  plan : Nat → List Nat
  planned : ∀ size, (plan size).sum = size
  partUrl : String → Nat → String
  partOf : String → Option (String × Nat)
  located : ∀ id index, partOf (partUrl id index) = some (id, index)
  digest : List UInt8 → String
  agrees : ∀ data, client.md5Hex data = digest data

variable {client : AppStoreClient}

namespace ScreenshotServer

variable (server : ScreenshotServer client)

def operationsFrom (id : String) : Nat → Nat → List Nat → List UploadOperation
  | _, _, [] => []
  | index, offset, length :: rest =>
      ⟨"PUT", server.partUrl id index, length, offset, []⟩ :: operationsFrom id (index + 1) (offset + length) rest

def operations (id : String) (size : Nat) : List UploadOperation := server.operationsFrom id 0 0 (server.plan size)

def operationJson (operation : UploadOperation) : Json :=
  .obj [("method", .str operation.method), ("url", .str operation.url), ("length", .int operation.length),
    ("offset", .int operation.offset), ("requestHeaders", .arr [])]

def reservedJson (id : String) (size : Nat) : Json :=
  .obj [("data", .obj [("type", .str "appScreenshots"), ("id", .str id),
    ("attributes", .obj [("uploadOperations", .arr ((server.operations id size).map operationJson))])])]

def reserved (id setId fileName : String) (size : Nat) : Shot :=
  ⟨id, setId, fileName, size, List.replicate (server.plan size).length none, none⟩

def respond (table : List Shot) (request : Request) : (Nat × String) × List Shot :=
  match request.method, request.body with
  | .post, .json body =>
      if request.url = client.baseUrl ++ "/v1/appScreenshots" then
        match body.at ["data", "attributes", "fileName"], body.at ["data", "attributes", "fileSize"],
            body.at ["data", "relationships", "appScreenshotSet", "data", "id"] with
        | some (.str fileName), some (.int size), some (.str setId) =>
            match server.grant table setId with
            | some id =>
                ((201, client.crates.serdeJson.print (server.reservedJson id size.toNat)),
                  table ++ [server.reserved id setId fileName size.toNat])
            | none => ((409, ""), table)
        | _, _, _ => ((422, ""), table)
      else ((404, ""), table)
  | .other "PUT", .bytes chunk =>
      match server.partOf request.url with
      | some (id, index) =>
          match table.find? fun shot => shot.id == id with
          | some shot =>
              if shot.checksum = none then ((200, ""), replaceCell Shot.id table (shot.filled index chunk)) else ((409, ""), table)
          | none => ((404, ""), table)
      | none => ((404, ""), table)
  | .patch, .json body =>
      match table.find? fun shot => client.baseUrl ++ "/v1/appScreenshots/" ++ shot.id == request.url with
      | some shot =>
          match body.at ["data", "attributes", "uploaded"], body.at ["data", "attributes", "sourceFileChecksum"] with
          | some (.bool true), some (.str checksum) =>
              if shot.checksum = none ∧ shot.assembled.map server.digest = some checksum then
                ((200, client.crates.serdeJson.print (shot.sealed checksum).committedJson),
                  replaceCell Shot.id table (shot.sealed checksum))
              else ((409, ""), table)
          | _, _ => ((422, ""), table)
      | none => ((404, ""), table)
  | _, _ => ((404, ""), table)

def toShared : SharedServer (List Shot) where
  serve request table := (.ok (server.respond table request).1, (server.respond table request).2)
  stream _ _ := .error "not streamed"
  looks request table get := by
    simp only [respond, get]

section Answers

variable (table : List Shot)

def reserveRequest (client : AppStoreClient) (setId fileName : String) (size : Nat) : Request :=
  .post client.screenshotsUrl (createBody "appScreenshots" [("fileName", .str fileName), ("fileSize", .int size)]
    [("appScreenshotSet", linkTo "appScreenshotSets" setId)])

def commitRequest (client : AppStoreClient) (id checksum : String) : Request :=
  .patch (client.screenshotUrl id) (updateBody "appScreenshots" id [("uploaded", .bool true), ("sourceFileChecksum", .str checksum)])

theorem respond_reserve (token setId fileName : String) (size : Nat) :
    server.respond table ((reserveRequest client setId fileName size).bearerAuth token) =
      (server.grant table setId).elim ((409, ""), table) fun id =>
        ((201, client.crates.serdeJson.print (server.reservedJson id size)), table ++ [server.reserved id setId fileName size]) := by
  have set : (createBody "appScreenshots" [("fileName", .str fileName), ("fileSize", .int size)]
      [("appScreenshotSet", linkTo "appScreenshotSets" setId)]).at ["data", "relationships", "appScreenshotSet", "data", "id"] =
        some (.str setId) := rfl
  have name : (createBody "appScreenshots" [("fileName", .str fileName), ("fileSize", .int size)]
      [("appScreenshotSet", linkTo "appScreenshotSets" setId)]).at ["data", "attributes", "fileName"] = some (.str fileName) := rfl
  have length : (createBody "appScreenshots" [("fileName", .str fileName), ("fileSize", .int size)]
      [("appScreenshotSet", linkTo "appScreenshotSets" setId)]).at ["data", "attributes", "fileSize"] = some (.int size) := rfl
  simp only [respond, reserveRequest, Request.post, Request.plain, Request.withJson, Request.bearerAuth,
    AppStoreClient.screenshotsUrl, if_true, set, name, length]
  cases server.grant table setId <;> rfl

theorem find_shot (distinct : (table.map Shot.id).Nodup) (shot : Shot) (inside : shot ∈ table) (asked : Shot → Bool)
    (only : ∀ other, asked other = true ↔ other.id = shot.id) : table.find? asked = some shot := by
  have some : (table.find? asked).isSome := List.find?_isSome.mpr ⟨shot, inside, (only shot).mpr rfl⟩
  obtain ⟨found, same⟩ := Option.isSome_iff_exists.mp some
  have id : found.id = shot.id := (only found).mp (List.find?_some same)
  rw [same, eq_of_key Shot.id table distinct found shot (List.mem_of_find?_eq_some same) inside id]

theorem screenshot_url_inj (id other : String)
    (same : client.baseUrl ++ "/v1/appScreenshots/" ++ id = client.baseUrl ++ "/v1/appScreenshots/" ++ other) : id = other := by
  apply String.toList_injective
  have chars := congrArg String.toList same
  have before : ∀ id, (client.baseUrl ++ "/v1/appScreenshots/" ++ id).toList =
      (client.baseUrl ++ "/v1/appScreenshots/").toList ++ id.toList := fun _ => String.toList_append
  rw [before, before] at chars
  exact List.append_cancel_left chars

theorem respond_part (distinct : (table.map Shot.id).Nodup) (shot : Shot) (inside : shot ∈ table) (unsealed : shot.checksum = none)
    (operation : UploadOperation) (index : Nat) (here : operation.url = server.partUrl shot.id index) (chunk : List UInt8) :
    server.respond table (operation.request (.other "PUT") chunk) =
      ((200, ""), replaceCell Shot.id table (shot.filled index chunk)) := by
  have found := find_shot table distinct shot inside (fun other => other.id == shot.id) fun _ => beq_iff_eq
  simp only [respond, UploadOperation.request, Request.plain, here, server.located, found, unsealed, if_true]

theorem respond_commit (distinct : (table.map Shot.id).Nodup) (shot : Shot) (inside : shot ∈ table) (unsealed : shot.checksum = none)
    (data : List UInt8) (whole : shot.assembled = some data) (token : String) :
    server.respond table ((commitRequest client shot.id (client.md5Hex data)).bearerAuth token) =
      ((200, client.crates.serdeJson.print (shot.sealed (client.md5Hex data)).committedJson),
        replaceCell Shot.id table (shot.sealed (client.md5Hex data))) := by
  have found := find_shot table distinct shot inside
    (fun other => client.baseUrl ++ "/v1/appScreenshots/" ++ other.id == client.screenshotUrl shot.id)
    fun other => beq_iff_eq.trans ⟨screenshot_url_inj _ _, congrArg client.screenshotUrl⟩
  have uploaded : (updateBody "appScreenshots" shot.id
      [("uploaded", .bool true), ("sourceFileChecksum", .str (client.md5Hex data))]).at ["data", "attributes", "uploaded"] =
        some (.bool true) := rfl
  have checksum : (updateBody "appScreenshots" shot.id
      [("uploaded", .bool true), ("sourceFileChecksum", .str (client.md5Hex data))]).at ["data", "attributes", "sourceFileChecksum"] =
        some (.str (client.md5Hex data)) := rfl
  have fits : shot.checksum = none ∧ shot.assembled.map server.digest = some (client.md5Hex data) := by
    rw [whole, server.agrees]
    exact ⟨unsealed, rfl⟩
  simp only [respond, commitRequest, Request.patch, Request.plain, Request.withJson, Request.bearerAuth, found, uploaded, checksum,
    if_pos fits]

end Answers

theorem operation_shown (operation : UploadOperation) (plain : operation.requestHeaders = [])
    (length : 0 ≤ operation.length ∧ operation.length < 2147483648) (offset : 0 ≤ operation.offset ∧ operation.offset < 2147483648) :
    UploadOperation.decode (operationJson operation) = some operation := by
  have read : ∀ value : Int, 0 ≤ value ∧ value < 2147483648 → i64 (.int value) = some value := by
    intro value small
    exact if_pos (by omega)
  rw [UploadOperation.decode, operationJson, struct_obj]
  simp only [required_bind_members, defaulted_bind_members, pure_fields]
  rw [member_of_single "method" string _ (.str operation.method) rfl, member_of_single "url" string _ (.str operation.url) rfl,
    member_of_single "length" i64 _ (.int operation.length) rfl, member_of_single "offset" i64 _ (.int operation.offset) rfl,
    read _ length, read _ offset]
  change some (⟨operation.method, operation.url, operation.length, operation.offset, []⟩ : UploadOperation) = _
  rw [← plain]

theorem operations_length (id : String) (index offset : Nat) (lengths : List Nat) :
    (server.operationsFrom id index offset lengths).length = lengths.length := by
  induction lengths generalizing index offset with
  | nil => rfl
  | cons length rest ih => exact congrArg (· + 1) (ih (index + 1) (offset + length))

theorem operations_tile (id : String) (index offset total : Nat) (lengths : List Nat) (sum : offset + lengths.sum = total) :
    Tiles total offset (server.operationsFrom id index offset lengths) := by
  induction lengths generalizing index offset with
  | nil => exact congrArg Nat.cast sum
  | cons length rest ih =>
      rw [List.sum_cons] at sum
      refine ⟨rfl, Int.natCast_nonneg length, ?_⟩
      have later := ih (index + 1) (offset + length) (by omega)
      rwa [Int.natCast_add] at later

theorem operation_planned (id : String) (index offset : Nat) (lengths : List Nat) (position : Nat) (operation : UploadOperation)
    (found : (server.operationsFrom id index offset lengths)[position]? = some operation) :
    ∃ start length : Nat, operation = ⟨"PUT", server.partUrl id (index + position), length, start, []⟩ ∧
      start + length ≤ offset + lengths.sum := by
  induction lengths generalizing index offset position with
  | nil => cases found
  | cons length rest ih =>
      cases position with
      | zero =>
          cases found
          refine ⟨offset, length, rfl, ?_⟩
          rw [List.sum_cons]
          omega
      | succ position =>
          obtain ⟨start, size, same, bound⟩ := ih (index + 1) (offset + length) position found
          refine ⟨start, size, ?_, ?_⟩
          · rw [same, Nat.add_right_comm, Nat.add_assoc index]
          · rw [List.sum_cons]
            omega

theorem reservation_shown (id : String) (size : Nat) (small : size < 2147483648) :
    Document.decode AppScreenshotReservation.decode (server.reservedJson id size) = some ⟨⟨id, ⟨server.operations id size⟩⟩⟩ := by
  have each : ((server.operations id size).map operationJson).map UploadOperation.decode = (server.operations id size).map some := by
    rw [List.map_map]
    apply List.map_congr_left
    intro operation inside
    obtain ⟨position, found⟩ := List.mem_iff_getElem?.mp inside
    obtain ⟨start, length, rfl, bound⟩ := server.operation_planned id 0 0 (server.plan size) position operation found
    rw [server.planned] at bound
    apply operation_shown
    · rfl
    · dsimp only
      omega
    · dsimp only
      omega
  have operations := vec_arr UploadOperation.decode _ _ each
  have attributes : memberOr "attributes" AppScreenshotReservationAttributes.decode ⟨[]⟩
      [("type", .str "appScreenshots"), ("id", .str id),
        ("attributes", .obj [("uploadOperations", .arr ((server.operations id size).map operationJson))])] =
      some ⟨server.operations id size⟩ := by
    change AppScreenshotReservationAttributes.decode
      (.obj [("uploadOperations", .arr ((server.operations id size).map operationJson))]) = _
    rw [AppScreenshotReservationAttributes.decode, struct_obj]
    simp only [defaulted_bind_members, pure_fields]
    change ((vec UploadOperation.decode (.arr ((server.operations id size).map operationJson))).bind _).map _ = _
    rw [operations]
    rfl
  have resource : AppScreenshotReservation.decode (.obj [("type", .str "appScreenshots"), ("id", .str id),
      ("attributes", .obj [("uploadOperations", .arr ((server.operations id size).map operationJson))])]) =
      some ⟨id, ⟨server.operations id size⟩⟩ := by
    rw [AppScreenshotReservation.decode, Resource.decode, struct_obj]
    simp only [required_bind_members, defaulted_bind_members, pure_fields]
    rw [member_of_single "id" string _ (.str id) rfl, string_str, attributes]
    rfl
  rw [Document.decode, reservedJson, struct_obj, required_bind_members, member_of_single "data" _ _ _ rfl, resource]
  rfl

end ScreenshotServer

theorem committed_shown (shot : Shot) (small : shot.size < 2147483648) :
    Document.decode AppScreenshotResource.decode shot.committedJson = some ⟨⟨shot.id, ⟨some shot.fileName, some shot.size, none⟩⟩⟩ := by
  have size : option i32 (.int shot.size) = some (some (shot.size : Int)) :=
    congrArg (Option.map some) (if_pos (by omega) : i32 (.int shot.size) = some (shot.size : Int))
  have attributes : AppScreenshotAttributes.decode (.obj [("fileName", .str shot.fileName), ("fileSize", .int shot.size)]) =
      some ⟨some shot.fileName, some shot.size, none⟩ := by
    rw [AppScreenshotAttributes.decode, struct_obj]
    unfold Serde.optional
    simp only [defaulted_bind_members, pure_fields]
    change (((option i32 (.int shot.size)).bind _).map _ : Option AppScreenshotAttributes) = _
    rw [size]
    rfl
  have shown : memberOr "attributes" AppScreenshotAttributes.decode ⟨none, none, none⟩
      [("type", .str "appScreenshots"), ("id", .str shot.id),
        ("attributes", .obj [("fileName", .str shot.fileName), ("fileSize", .int shot.size)])] =
      some ⟨some shot.fileName, some shot.size, none⟩ := attributes
  have resource : AppScreenshotResource.decode (.obj [("type", .str "appScreenshots"), ("id", .str shot.id),
      ("attributes", .obj [("fileName", .str shot.fileName), ("fileSize", .int shot.size)])]) =
      some ⟨shot.id, ⟨some shot.fileName, some shot.size, none⟩⟩ := by
    rw [AppScreenshotResource.decode, Resource.decode, struct_obj]
    simp only [required_bind_members, defaulted_bind_members, pure_fields]
    rw [member_of_single "id" string _ (.str shot.id) rfl, string_str, shown]
    rfl
  rw [Document.decode, Shot.committedJson, struct_obj, required_bind_members, member_of_single "data" _ _ _ rfl, resource]
  rfl

end StackConnect
