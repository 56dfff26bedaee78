import StackConnect.AppStore.BetaGroupStore
import StackConnect.AppStore.FieldUpdates

set_option autoImplicit false

namespace StackConnect

open Interaction Serde

variable {Owner Attributes Info : Type}

-- What one type of resource differs from the others in: its name, how its
-- attributes are read, where it is listed, how a creation names its owner and how that is read.
structure ResourceKind (Owner Attributes Info : Type) where
  type : String
  attributes : Decoder Attributes
  empty : Attributes
  info : Resource Attributes → Info
  document : String
  documentLabel : String
  page : String
  pageLabel : String
  listUrl : AppStoreClient → Owner → String
  body : Owner → List (String × Json) → Json
  carried : ∀ owner members, (body owner members).at ["data", "attributes"] = some (.obj members)
  ownerOf : Json → Option Owner
  named : ∀ owner members, ownerOf (body owner members) = some owner

-- The attributes a creation sends, as a reader sees them.
structure Draft (kind : ResourceKind Owner Attributes Info) where
  members : List (String × Json)
  value : Attributes
  shown : kind.attributes (.obj members) = some value

-- The attributes an update sends, and what they make of those a reader saw.
structure Revision (kind : ResourceKind Owner Attributes Info) where
  members : List (String × Json)
  change : Attributes → Attributes
  shown : ∀ stored old, kind.attributes (.obj stored) = some old →
    kind.attributes (.obj (overwrite stored members)) = some (change old)

-- An update either reads the answer or looks at its status only.
inductive Command (kind : ResourceKind Owner Attributes Info) where
  | create (owner : Owner) (draft : Draft kind)
  | update (id : String) (revision : Revision kind)
  | revise (id : String) (revision : Revision kind)
  | delete (id : String)
  | list (owner : Owner)

inductive Returned (Info : Type) where
  | info (info : Info)
  | done
  | infos (infos : List Info)

namespace ResourceKind

variable (kind : ResourceKind Owner Attributes Info) (client : AppStoreClient)

def resource : Decoder (Resource Attributes) := Resource.decode kind.attributes kind.empty

def collectionUrl : String := client.baseUrl ++ ("/v1/" ++ kind.type)

def answered (request : Request) : Async Info := do
  let resource ← client.exchangeDocument request kind.document kind.documentLabel kind.resource
  pure (kind.info resource)

def listing (owner : Owner) : Listing Info :=
  .plain (kind.listUrl client owner) kind.page kind.pageLabel kind.resource kind.info

end ResourceKind

def Command.run {kind : ResourceKind Owner Attributes Info} (client : AppStoreClient) (fuel : Nat) :
    Command kind → Async (Returned Info)
  | create owner draft => do
      let info ← kind.answered client (.post (kind.collectionUrl client) (kind.body owner draft.members))
      pure (.info info)
  | update id revision => do
      let info ← kind.answered client
        (.patch (client.resourceUrl kind.type id) (updateBody kind.type id revision.members))
      pure (.info info)
  | revise id revision => do
      exchangeNoContent (.patch (client.resourceUrl kind.type id) (updateBody kind.type id revision.members))
      pure .done
  | delete id => do
      exchangeNoContent (.delete (client.resourceUrl kind.type id))
      pure .done
  | list owner => do
      let infos ← client.collect fuel (kind.listing client owner) []
      pure (.infos infos)

structure Row (Owner Attributes : Type) where
  id : String
  owner : Owner
  attributes : Attributes

def Row.info (kind : ResourceKind Owner Attributes Info) (row : Row Owner Attributes) : Info :=
  kind.info ⟨row.id, row.attributes⟩

def changeRow (id : String) (change : Attributes → Attributes) (row : Row Owner Attributes) : Row Owner Attributes :=
  if row.id = id then { row with attributes := change row.attributes } else row

-- The collection as its users think of it: rows that are added, changed, removed
-- and listed. An id that no row has is reported as missing.
def Command.perform [DecidableEq Owner] {kind : ResourceKind Owner Attributes Info} (fresh : String)
    (rows : List (Row Owner Attributes)) : Command kind → Except StackError (Returned Info) × List (Row Owner Attributes)
  | create owner draft => (.ok (.info (Row.info kind ⟨fresh, owner, draft.value⟩)), rows ++ [⟨fresh, owner, draft.value⟩])
  | update id revision =>
      (match rows.find? fun row => row.id = id with
        | some row => .ok (.info (Row.info kind (changeRow id revision.change row)))
        | none => .error (.http 404 ""),
        rows.map (changeRow id revision.change))
  | revise id revision =>
      (match rows.find? fun row => row.id = id with
        | some _ => .ok .done
        | none => .error (.http 404 ""),
        rows.map (changeRow id revision.change))
  | delete id =>
      (match rows.find? fun row => row.id = id with
        | some _ => .ok .done
        | none => .error (.http 404 ""),
        rows.filter fun row => row.id ≠ id)
  | list owner => (.ok (.infos ((rows.filter fun row => row.owner = owner).map (Row.info kind))), rows)

structure StoredResource (Owner : Type) where
  id : String
  owner : Owner
  members : List (String × Json)

def StoredResource.overwritten (stored : StoredResource Owner) (members : List (String × Json)) : StoredResource Owner :=
  { stored with members := overwrite stored.members members }

def StoredResource.json (kind : ResourceKind Owner Attributes Info) (stored : StoredResource Owner) : Json :=
  .obj [("type", .str kind.type), ("id", .str stored.id), ("attributes", .obj stored.members)]

def StoredResource.documentJson (kind : ResourceKind Owner Attributes Info) (stored : StoredResource Owner) : Json :=
  .obj [("data", stored.json kind)]

def StoredResource.row (kind : ResourceKind Owner Attributes Info) (stored : StoredResource Owner) : Row Owner Attributes :=
  ⟨stored.id, stored.owner, (kind.attributes (.obj stored.members)).getD kind.empty⟩

abbrev Holdings (Owner : Type) := List (StoredResource Owner)

-- A server that hosts one collection: it hands out unused ids, reads the owner
-- from the body of a creation and lists the resources of an owner in pages.
structure ResourceServer (client : AppStoreClient) (kind : ResourceKind Owner Attributes Info) where
  fresh : Holdings Owner → String
  unused : ∀ held, fresh held ∉ held.map StoredResource.id
  size : Nat
  positive : 0 < size
  cursor : Owner → Nat → String
  start : ∀ owner, cursor owner 0 = kind.listUrl client owner
  visible : ∀ owner offset, cursor owner offset ≠ ""
  route : String → Option (Owner × Nat)
  routed : ∀ owner offset, route (cursor owner offset) = some (owner, offset)

variable {client : AppStoreClient} {kind : ResourceKind Owner Attributes Info} [DecidableEq Owner]

namespace ResourceServer

variable (server : ResourceServer client kind)

def owned (held : Holdings Owner) (owner : Owner) : Holdings Owner := held.filter fun stored => stored.owner = owner

def pageJson (held : Holdings Owner) (owner : Owner) (offset : Nat) : Json :=
  .obj [("data", .arr ((((owned held owner).drop offset).take server.size).map (StoredResource.json kind))),
    ("links", .obj [("next", if offset + server.size < (owned held owner).length then .str (server.cursor owner (offset + server.size))
      else .null)])]

def created (held : Holdings Owner) (owner : Owner) (members : List (String × Json)) : StoredResource Owner :=
  ⟨server.fresh held, owner, members⟩

def found (client : AppStoreClient) (kind : ResourceKind Owner Attributes Info) (held : Holdings Owner) (url : String) :
    Option (StoredResource Owner) :=
  held.find? fun stored => client.resourceUrl kind.type stored.id = url

def replaced (held : Holdings Owner) (id : String) (members : List (String × Json)) : Holdings Owner :=
  held.map fun stored => if stored.id = id then stored.overwritten members else stored

def respond (held : Holdings Owner) (request : Request) : (Nat × String) × Holdings Owner :=
  match request.method, request.body with
  | .get, _ =>
      match server.route request.url with
      | some (owner, offset) => ((200, client.crates.serdeJson.print (server.pageJson held owner offset)), held)
      | none => ((404, ""), held)
  | .post, .json body =>
      if request.url = kind.collectionUrl client then
        match kind.ownerOf body, body.at ["data", "attributes"] with
        | some owner, some (.obj members) =>
            ((201, client.crates.serdeJson.print ((server.created held owner members).documentJson kind)),
              held ++ [server.created held owner members])
        | _, _ => ((422, ""), held)
      else ((404, ""), held)
  | .patch, .json body =>
      match found client kind held request.url, body.at ["data", "attributes"] with
      | some stored, some (.obj members) =>
          ((200, client.crates.serdeJson.print ((stored.overwritten members).documentJson kind)),
            replaced held stored.id members)
      | some _, _ => ((422, ""), held)
      | none, _ => ((404, ""), held)
  | .delete, _ =>
      match found client kind held request.url with
      | some stored => ((204, ""), held.filter fun other => other.id ≠ stored.id)
      | none => ((404, ""), held)
  | _, _ => ((404, ""), held)

def handler : Handler Answer (Holdings Owner) where
  answer
    | .bearerToken, held => (.ok "token", held)
    | .send request, held => (.ok (server.respond held request).1, (server.respond held request).2)
    | .stream _, held => (.error "not streamed", held)

structure Sound (kind : ResourceKind Owner Attributes Info) (held : Holdings Owner) : Prop where
  distinct : (held.map StoredResource.id).Nodup
  readable : ∀ stored ∈ held, (kind.attributes (.obj stored.members)).isSome

def after (held : Holdings Owner) : Command kind → Holdings Owner
  | .create owner draft => held ++ [server.created held owner draft.members]
  | .update id revision | .revise id revision => replaced held id revision.members
  | .delete id => held.filter fun stored => stored.id ≠ id
  | .list _ => held

def Speaks (held : Holdings Owner) : Command kind → Prop
  | .create owner draft => PrintsBack client.crates.serdeJson ((server.created held owner draft.members).documentJson kind)
  | .update id revision => ∀ stored ∈ held, stored.id = id →
      PrintsBack client.crates.serdeJson ((stored.overwritten revision.members).documentJson kind)
  | .revise _ _ | .delete _ => True
  | .list owner => ∀ offset ≤ (owned held owner).length, PrintsBack client.crates.serdeJson (server.pageJson held owner offset)

omit [DecidableEq Owner] in
theorem row_shown (stored : StoredResource Owner) (value : Attributes) (shown : kind.attributes (.obj stored.members) = some value) :
    stored.row kind = ⟨stored.id, stored.owner, value⟩ := by
  rw [StoredResource.row, shown]
  rfl

omit [DecidableEq Owner] in
theorem resource_shown (stored : StoredResource Owner) (value : Attributes)
    (shown : kind.attributes (.obj stored.members) = some value) :
    kind.resource (stored.json kind) = some ⟨stored.id, value⟩ := by
  rw [ResourceKind.resource, Resource.decode, StoredResource.json, struct_obj]
  simp only [required_bind_members, defaulted_bind_members, pure_fields]
  rw [member_of_single "id" string _ (.str stored.id) rfl, string_str]
  have read : memberOr "attributes" kind.attributes kind.empty
      [("type", Json.str kind.type), ("id", .str stored.id), ("attributes", .obj stored.members)] = some value := shown
  rw [read]
  rfl

omit [DecidableEq Owner] in
theorem document_shown (stored : StoredResource Owner) (value : Attributes)
    (shown : kind.attributes (.obj stored.members) = some value) :
    Document.decode kind.resource (stored.documentJson kind) = some ⟨⟨stored.id, value⟩⟩ := by
  rw [Document.decode, StoredResource.documentJson, struct_obj, required_bind_members,
    member_of_single "data" _ _ (stored.json kind) rfl, resource_shown stored value shown]
  rfl

theorem resource_url_inj (type id other : String) (same : client.resourceUrl type id = client.resourceUrl type other) : id = other := by
  apply String.toList_injective
  have chars := congrArg String.toList same
  have before : ∀ id, (client.resourceUrl type id).toList = (client.baseUrl ++ ("/v1/" ++ type ++ "/")).toList ++ id.toList :=
    fun _ => String.toList_append
  rw [before, before] at chars
  exact List.append_cancel_left chars

omit [DecidableEq Owner] in
theorem found_id (held : Holdings Owner) (id : String) :
    found client kind held (client.resourceUrl kind.type id) = held.find? fun stored => stored.id = id := by
  rw [found]
  congr 1
  funext stored
  apply decide_eq_decide.mpr
  constructor
  · exact resource_url_inj _ _ _
  · rintro rfl
    rfl

omit [DecidableEq Owner] in
theorem find_row (held : Holdings Owner) (id : String) :
    ((held.map (StoredResource.row kind)).find? fun row => row.id = id) =
      (held.find? fun stored => stored.id = id).map (StoredResource.row kind) := by
  rw [List.find?_map]
  rfl

omit [DecidableEq Owner] in
theorem found_mem (held : Holdings Owner) (id : String) (stored : StoredResource Owner)
    (found : (held.find? fun stored => stored.id = id) = some stored) : stored ∈ held ∧ stored.id = id :=
  ⟨List.mem_of_find?_eq_some found, by simpa using List.find?_some found⟩

theorem exec_exchange (request : Request) (held : Holdings Owner) :
    exec server.handler (exchange request) held =
      ⟨some (accepted (server.respond held (request.bearerAuth "token")).1), (server.respond held (request.bearerAuth "token")).2,
        [⟨.bearerToken, .ok "token"⟩,
          ⟨.send (request.bearerAuth "token"), .ok (server.respond held (request.bearerAuth "token")).1⟩]⟩ := rfl

theorem exec_answered (request : Request) (held left : Holdings Owner) (status : Nat) (stored : StoredResource Owner)
    (value : Attributes) (shown : kind.attributes (.obj stored.members) = some value)
    (reads : PrintsBack client.crates.serdeJson (stored.documentJson kind)) (success : isSuccess status = true)
    (replied : server.respond held (request.bearerAuth "token") =
      ((status, client.crates.serdeJson.print (stored.documentJson kind)), left)) :
    ∃ trace, exec server.handler (kind.answered client request) held =
      ⟨some (.ok (kind.info ⟨stored.id, value⟩)), left, trace⟩ := by
  refine ⟨(exec server.handler (kind.answered client request) held).trace, ?_⟩
  rw [ResourceKind.answered, AppStoreClient.exchangeDocument, Prog.bind_assoc, exec_bind, exec_exchange, replied, accepted,
    if_pos success, Run.and_then_ok, parse_prints_back _ _ _ _ _ reads (document_shown stored value shown)]
  rfl

theorem exec_refused (request : Request) (held : Holdings Owner)
    (replied : server.respond held (request.bearerAuth "token") = ((404, ""), held)) :
    ∃ trace, exec server.handler (exchange request) held = ⟨some (.error (.http 404 "")), held, trace⟩ := by
  refine ⟨(exec server.handler (exchange request) held).trace, ?_⟩
  rw [exec_exchange, replied]
  rfl

structure Performed (held : Holdings Owner) (command : Command kind) (fuel : Nat) : Prop where
  ran : ∃ trace, exec server.handler (command.run client fuel) held =
    ⟨some (command.perform (server.fresh held) (held.map (StoredResource.row kind))).1, server.after held command, trace⟩
  rows : (server.after held command).map (StoredResource.row kind) =
    (command.perform (server.fresh held) (held.map (StoredResource.row kind))).2
  sound : Sound kind (server.after held command)

theorem created_performed (held : Holdings Owner) (sound : Sound kind held) (owner : Owner) (draft : Draft kind) (fuel : Nat)
    (speaks : server.Speaks held (.create owner draft)) : server.Performed held (.create owner draft) fuel where
  ran := by
    have replied : server.respond held ((Request.post (kind.collectionUrl client) (kind.body owner draft.members)).bearerAuth "token") =
        ((201, client.crates.serdeJson.print ((server.created held owner draft.members).documentJson kind)),
          held ++ [server.created held owner draft.members]) := by
      simp only [respond, Request.post, Request.plain, Request.withJson, Request.bearerAuth, if_true, kind.named, kind.carried]
    obtain ⟨trace, ran⟩ := server.exec_answered _ held _ 201 _ draft.value draft.shown speaks rfl replied
    refine ⟨trace ++ [], ?_⟩
    rw [Command.run, exec_bind, ran]
    rfl
  rows := by
    rw [after, List.map_append, List.map_singleton, row_shown _ draft.value draft.shown]
    rfl
  sound := by
    refine ⟨?_, ?_⟩
    · rw [after, List.map_append]
      exact sound.distinct.append (List.nodup_singleton _) (by simpa [created] using server.unused held)
    · intro stored inside
      rcases List.mem_append.mp inside with old | new
      · exact sound.readable stored old
      · rw [List.mem_singleton.mp new]
        exact Option.isSome_iff_exists.mpr ⟨draft.value, draft.shown⟩

omit [DecidableEq Owner] in
theorem overwritten_row (stored : StoredResource Owner) (revision : Revision kind)
    (readable : (kind.attributes (.obj stored.members)).isSome) :
    (kind.attributes (.obj (stored.overwritten revision.members).members)).isSome ∧
      (stored.overwritten revision.members).row kind =
        { stored.row kind with attributes := revision.change (stored.row kind).attributes } := by
  obtain ⟨value, shown⟩ := Option.isSome_iff_exists.mp readable
  have changed := revision.shown stored.members value shown
  rw [row_shown stored value shown, row_shown (stored.overwritten revision.members) _ changed]
  exact ⟨Option.isSome_iff_exists.mpr ⟨_, changed⟩, rfl⟩

omit [DecidableEq Owner] in
theorem replaced_sound (held : Holdings Owner) (sound : Sound kind held) (id : String) (revision : Revision kind) :
    Sound kind (replaced held id revision.members) where
  distinct := by
    have same : (replaced held id revision.members).map StoredResource.id = held.map StoredResource.id := by
      rw [replaced, List.map_map]
      apply List.map_congr_left
      intro stored _
      by_cases here : stored.id = id <;> simp [here, StoredResource.overwritten]
    rw [same]
    exact sound.distinct
  readable := by
    intro stored inside
    obtain ⟨before, kept, rfl⟩ := List.mem_map.mp inside
    split
    · exact (overwritten_row before revision (sound.readable before kept)).1
    · exact sound.readable before kept

omit [DecidableEq Owner] in
theorem replaced_rows (held : Holdings Owner) (sound : Sound kind held) (id : String) (revision : Revision kind) :
    (replaced held id revision.members).map (StoredResource.row kind) =
      (held.map (StoredResource.row kind)).map (changeRow id revision.change) := by
  rw [replaced, List.map_map, List.map_map]
  apply List.map_congr_left
  intro stored inside
  by_cases here : stored.id = id
  · have row := (overwritten_row stored revision (sound.readable stored inside)).2
    simp only [Function.comp_apply, if_pos here, row]
    exact (if_pos here).symm
  · simp only [Function.comp_apply, if_neg here]
    exact (if_neg here).symm

omit [DecidableEq Owner] in
theorem replaced_missing (held : Holdings Owner) (id : String) (members : List (String × Json))
    (missing : (held.find? fun stored => stored.id = id) = none) : replaced held id members = held := by
  rw [replaced]
  conv_rhs => rw [← List.map_id held]
  apply List.map_congr_left
  intro stored inside
  have other : stored.id ≠ id := by simpa using List.find?_eq_none.mp missing stored inside
  exact if_neg other

theorem respond_patch (held : Holdings Owner) (id : String) (members : List (String × Json)) :
    server.respond held ((Request.patch (client.resourceUrl kind.type id) (updateBody kind.type id members)).bearerAuth "token") =
      match held.find? fun stored => stored.id = id with
      | some stored => ((200, client.crates.serdeJson.print ((stored.overwritten members).documentJson kind)),
          replaced held stored.id members)
      | none => ((404, ""), held) := by
  have body : (updateBody kind.type id members).at ["data", "attributes"] = some (.obj members) := rfl
  simp only [respond, Request.patch, Request.plain, Request.withJson, Request.bearerAuth, found_id, body]
  cases held.find? fun stored => stored.id = id <;> rfl

theorem respond_delete (held : Holdings Owner) (id : String) :
    server.respond held ((Request.delete (client.resourceUrl kind.type id)).bearerAuth "token") =
      match held.find? fun stored => stored.id = id with
      | some stored => ((204, ""), held.filter fun other => other.id ≠ stored.id)
      | none => ((404, ""), held) := by
  simp only [respond, Request.delete, Request.plain, Request.bearerAuth, found_id]

theorem updated_performed (held : Holdings Owner) (sound : Sound kind held) (id : String) (revision : Revision kind) (fuel : Nat)
    (speaks : server.Speaks held (.update id revision)) : server.Performed held (.update id revision) fuel where
  ran := by
    have replied := server.respond_patch held id revision.members
    rw [Command.perform, find_row]
    cases found : held.find? fun stored => stored.id = id with
    | none =>
        rw [found] at replied
        obtain ⟨trace, ran⟩ := server.exec_refused _ held replied
        refine ⟨trace, ?_⟩
        rw [Command.run, ResourceKind.answered, AppStoreClient.exchangeDocument, Prog.bind_assoc, Prog.bind_assoc, exec_bind,
          ran, after, replaced_missing held id _ found]
        rfl
    | some stored =>
        obtain ⟨inside, rfl⟩ := found_mem held id stored found
        obtain ⟨value, shown⟩ := Option.isSome_iff_exists.mp (sound.readable stored inside)
        rw [found] at replied
        obtain ⟨trace, ran⟩ := server.exec_answered _ held _ 200 _ _ (revision.shown stored.members value shown)
          (speaks stored inside rfl) rfl replied
        refine ⟨trace ++ [], ?_⟩
        rw [Command.run, exec_bind, ran, Option.map_some, row_shown stored value shown]
        simp [Run.prepend, changeRow, Row.info, after, StoredResource.overwritten]
  rows := replaced_rows held sound id revision
  sound := replaced_sound held sound id revision

theorem revised_performed (held : Holdings Owner) (sound : Sound kind held) (id : String) (revision : Revision kind) (fuel : Nat) :
    server.Performed held (.revise id revision) fuel where
  ran := by
    have replied := server.respond_patch held id revision.members
    refine ⟨(exec server.handler ((Command.revise id revision).run client fuel) held).trace, ?_⟩
    rw [Command.perform, find_row, Command.run, exchangeNoContent, Prog.bind_assoc, exec_bind, exec_exchange, replied]
    cases found : held.find? fun stored => stored.id = id with
    | none =>
        rw [after, replaced_missing held id _ found]
        rfl
    | some stored =>
        obtain ⟨_, rfl⟩ := found_mem held id stored found
        rfl
  rows := replaced_rows held sound id revision
  sound := replaced_sound held sound id revision

theorem deleted_performed (held : Holdings Owner) (sound : Sound kind held) (id : String) (fuel : Nat) :
    server.Performed held (.delete id) fuel where
  ran := by
    have replied := server.respond_delete held id
    refine ⟨(exec server.handler ((Command.delete id : Command kind).run client fuel) held).trace, ?_⟩
    rw [Command.perform, find_row, Command.run, exchangeNoContent, Prog.bind_assoc, exec_bind, exec_exchange, replied]
    cases found : held.find? fun stored => stored.id = id with
    | none =>
        have kept : (held.filter fun stored => stored.id ≠ id) = held := by
          rw [List.filter_eq_self]
          intro stored inside
          simpa using List.find?_eq_none.mp found stored inside
        rw [after, kept]
        rfl
    | some stored =>
        obtain ⟨_, rfl⟩ := found_mem held id stored found
        rfl
  rows := by
    rw [after, Command.perform, List.filter_map]
    rfl
  sound := by
    refine ⟨?_, ?_⟩
    · exact sound.distinct.sublist (List.filter_sublist.map _)
    · intro stored inside
      exact sound.readable stored (List.mem_filter.mp inside).1

def window (held : Holdings Owner) (owner : Owner) (offset : Nat) : Holdings Owner := ((owned held owner).drop offset).take server.size

def following (held : Holdings Owner) (owner : Owner) (offset : Nat) : Option String :=
  if offset + server.size < (owned held owner).length then some (server.cursor owner (offset + server.size)) else none

theorem owned_readable (held : Holdings Owner) (sound : Sound kind held) (owner : Owner) (offset : Nat) :
    ∀ stored ∈ server.window held owner offset, (kind.attributes (.obj stored.members)).isSome := by
  intro stored inside
  apply sound.readable stored
  exact (List.mem_filter.mp (List.mem_of_mem_drop (List.mem_of_mem_take inside))).1

theorem page_shown (held : Holdings Owner) (sound : Sound kind held) (owner : Owner) (offset : Nat) :
    Page.decode kind.resource (server.pageJson held owner offset) =
      some ⟨(server.window held owner offset).map fun stored => ⟨stored.id, (stored.row kind).attributes⟩,
        ⟨server.following held owner offset⟩⟩ := by
  rw [Page.decode, pageJson, struct_obj]
  simp only [defaulted_bind_members, pure_fields]
  have rows : memberOr "data" (vec kind.resource) []
      [("data", Json.arr ((((owned held owner).drop offset).take server.size).map (StoredResource.json kind))),
        ("links", .obj [("next", if offset + server.size < (owned held owner).length
          then .str (server.cursor owner (offset + server.size)) else .null)])] =
      some ((server.window held owner offset).map fun stored => ⟨stored.id, (stored.row kind).attributes⟩) := by
    apply vec_arr
    rw [List.map_map, List.map_map]
    apply List.map_congr_left
    intro stored inside
    obtain ⟨value, shown⟩ := Option.isSome_iff_exists.mp (server.owned_readable held sound owner offset stored inside)
    rw [Function.comp_apply, resource_shown stored value shown, Function.comp_apply, row_shown stored value shown]
  rw [rows, following]
  split <;> rfl

theorem respond_list (held : Holdings Owner) (owner : Owner) (offset : Nat) :
    server.respond held ((Request.get (server.cursor owner offset)).bearerAuth "token") =
      ((200, client.crates.serdeJson.print (server.pageJson held owner offset)), held) := by
  simp only [respond, Request.get, Request.plain, Request.bearerAuth, server.routed]

theorem following_next (held : Holdings Owner) (owner : Owner) (offset : Nat) :
    (⟨server.following held owner offset⟩ : Links).nextUrl = server.following held owner offset := by
  rw [Links.nextUrl, following]
  split
  · rw [Option.filter_some, if_pos (by simpa using server.visible owner _)]
  · rfl

theorem window_infos (held : Holdings Owner) (owner : Owner) (offset : Nat) :
    ((server.window held owner offset).map fun stored =>
        (⟨stored.id, (stored.row kind).attributes⟩ : Resource Attributes)).map kind.info =
      (server.window held owner offset).map fun stored => Row.info kind (stored.row kind) := by
  rw [List.map_map]
  rfl

theorem exec_page (held : Holdings Owner) (sound : Sound kind held) (owner : Owner) (offset : Nat)
    (reads : PrintsBack client.crates.serdeJson (server.pageJson held owner offset)) (collected : List Info) :
    ∃ trace, exec server.handler (getPage (server.cursor owner offset) >>= fun body =>
        Prog.ofExcept (client.parse kind.page kind.pageLabel (Page.decode kind.resource) body) >>= fun page =>
          pure (collected ++ (kind.listing client owner).rows page, page.links.nextUrl)) held =
      ⟨some (.ok (collected ++ (server.window held owner offset).map (fun stored => Row.info kind (stored.row kind)),
        server.following held owner offset)), held, trace⟩ := by
  have page := parse_prints_back kind.page kind.pageLabel _ _ _ reads (server.page_shown held sound owner offset)
  have asked : ∃ trace, exec server.handler (getPage (server.cursor owner offset)) held =
      ⟨some (.ok (client.crates.serdeJson.print (server.pageJson held owner offset))), held, trace⟩ := by
    refine ⟨(exec server.handler (getPage (server.cursor owner offset)) held).trace, ?_⟩
    rw [getPage, exec_exchange, respond_list]
    rfl
  obtain ⟨trace, ran⟩ := asked
  refine ⟨trace ++ [], ?_⟩
  rw [exec_bind, ran, Run.and_then_ok, page, ← window_infos]
  simp only [Prog.of_except, Prog.bind_ok, Prog.pure_eq, exec_done, following_next]
  rfl

theorem exec_pages (held : Holdings Owner) (sound : Sound kind held) (owner : Owner)
    (speaks : server.Speaks held (.list owner)) (collected : List Info) (fuel offset : Nat)
    (inside : offset ≤ (owned held owner).length) (enough : (owned held owner).length < offset + fuel) :
    ∃ trace, exec server.handler (client.listPages fuel kind.page kind.pageLabel (Page.decode kind.resource)
        (kind.listing client owner).rows Page.links collected (server.cursor owner offset)) held =
      ⟨some (.ok (collected ++ ((owned held owner).drop offset).map fun stored => Row.info kind (stored.row kind))), held, trace⟩ := by
  induction fuel generalizing collected offset with
  | zero => omega
  | succ fuel ih =>
      obtain ⟨trace, ran⟩ := server.exec_page held sound owner offset (speaks offset inside) collected
      unfold AppStoreClient.listPages at ih ⊢
      rw [exec_while_some_ok _ _ _ _ _ _ _ _ ran]
      dsimp only
      have split : (owned held owner).drop offset =
          server.window held owner offset ++ (owned held owner).drop (offset + server.size) := by
        rw [window, ← List.drop_drop, List.take_append_drop]
      by_cases more : offset + server.size < (owned held owner).length
      · have positive := server.positive
        obtain ⟨later, rest⟩ := ih (collected ++ (server.window held owner offset).map fun stored => Row.info kind (stored.row kind))
          (offset + server.size) (by omega) (by omega)
        refine ⟨trace ++ later, ?_⟩
        rw [following, if_pos more]
        rw [rest, split, List.map_append, List.append_assoc]
        rfl
      · refine ⟨trace, ?_⟩
        rw [following, if_neg more, while_some_none, split, List.drop_eq_nil_of_le (by omega), List.append_nil]
        simp [Run.prepend]

theorem listed_performed (held : Holdings Owner) (sound : Sound kind held) (owner : Owner) (fuel : Nat)
    (enough : held.length < fuel) (speaks : server.Speaks held (.list owner)) : server.Performed held (.list owner) fuel where
  ran := by
    have fewer : (owned held owner).length ≤ held.length := List.length_filter_le _ _
    obtain ⟨trace, ran⟩ := server.exec_pages held sound owner speaks [] fuel 0 (Nat.zero_le _) (by omega)
    refine ⟨trace ++ [], ?_⟩
    have listed : client.collect fuel (kind.listing client owner) [] = client.listPages fuel kind.page kind.pageLabel
        (Page.decode kind.resource) (kind.listing client owner).rows Page.links [] (server.cursor owner 0) := by
      rw [server.start]
      rfl
    rw [Command.run, exec_bind, listed, ran, Run.and_then_ok, Command.perform, List.filter_map, List.map_map]
    rfl
  rows := rfl
  sound := sound

theorem command_performed (held : Holdings Owner) (sound : Sound kind held) (command : Command kind) (fuel : Nat)
    (enough : held.length < fuel) (speaks : server.Speaks held command) : server.Performed held command fuel := by
  cases command with
  | create owner draft => exact server.created_performed held sound owner draft fuel speaks
  | update id revision => exact server.updated_performed held sound id revision fuel speaks
  | revise id revision => exact server.revised_performed held sound id revision fuel
  | delete id => exact server.deleted_performed held sound id fuel
  | list owner => exact server.listed_performed held sound owner fuel enough speaks

end ResourceServer

end StackConnect
