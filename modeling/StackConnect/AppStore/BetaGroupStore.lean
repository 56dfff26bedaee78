import StackConnect.AppStore.BetaGroups
import StackConnect.AppStore.Calls
import StackConnect.Serde.Updates

set_option autoImplicit false

namespace StackConnect

open Interaction Serde

structure StoredGroup where
  id : String
  attributes : List (String × Json)

structure Groups where
  groups : List StoredGroup
  distinct : (groups.map StoredGroup.id).Nodup

def StoredGroup.overwrite (patch : List (String × Json)) (group : StoredGroup) : StoredGroup :=
  { group with attributes := Serde.overwrite group.attributes patch }

def Groups.overwrite (held : Groups) (id : String) (patch : List (String × Json)) : Groups where
  groups := held.groups.map fun group => if group.id = id then group.overwrite patch else group
  distinct := by
    have same : (held.groups.map fun group => if group.id = id then group.overwrite patch else group).map StoredGroup.id =
        held.groups.map StoredGroup.id := by
      rw [List.map_map]
      apply List.map_congr_left
      intro group _
      by_cases here : group.id = id <;> simp [here, StoredGroup.overwrite]
    rw [same]
    exact held.distinct

def Groups.add (held : Groups) (group : StoredGroup) (unused : group.id ∉ held.groups.map StoredGroup.id) : Groups where
  groups := held.groups ++ [group]
  distinct := by
    rw [List.map_append]
    exact held.distinct.append (List.nodup_singleton _) (by simpa using unused)

def StoredGroup.shown (group : StoredGroup) : Option BetaGroupAttributes := BetaGroupAttributes.decode (.obj group.attributes)

def groupJson (group : StoredGroup) : Json :=
  .obj [("type", .str "betaGroups"), ("id", .str group.id), ("attributes", .obj group.attributes)]

def groupDocument (group : StoredGroup) : Json := .obj [("data", groupJson group)]
def groupsPage (held : Groups) : Json := .obj [("data", .arr (held.groups.map groupJson))]

structure BetaGroupServer (client : AppStoreClient) where
  fresh : Groups → String
  unused : ∀ held, fresh held ∉ held.groups.map StoredGroup.id

variable {client : AppStoreClient}

namespace BetaGroupServer

variable (server : BetaGroupServer client)

def created (held : Groups) (attributes : List (String × Json)) : StoredGroup := ⟨server.fresh held, attributes⟩

-- A creation stores the attributes of its body, an update overwrites the keys of
-- its body and keeps the others; both answer with the stored resource.
def respond (held : Groups) (request : Request) : (Nat × String) × Groups :=
  match request.method, request.body with
  | .get, _ => ((200, client.crates.serdeJson.print (groupsPage held)), held)
  | .post, .json body =>
      match body.at ["data", "attributes"] with
      | some (.obj attributes) =>
          ((201, client.crates.serdeJson.print (groupDocument (server.created held attributes))),
            held.add (server.created held attributes) (server.unused held))
      | _ => ((422, ""), held)
  | .patch, .json body =>
      match body.at ["data", "id"] >>= string, body.at ["data", "attributes"] with
      | some id, some (.obj patch) =>
          match held.groups.find? fun group => group.id = id with
          | some group => ((200, client.crates.serdeJson.print (groupDocument (group.overwrite patch))), held.overwrite id patch)
          | none => ((404, ""), held)
      | _, _ => ((422, ""), held)
  | _, _ => ((404, ""), held)

def handler : Handler Answer Groups where
  answer
    | .bearerToken, held => (.ok "token", held)
    | .send request, held => (.ok (server.respond held request).1, (server.respond held request).2)
    | .stream _, held => (.error "not streamed", held)

theorem exec_exchange_ok (request : Request) (held : Groups)
    (success : isSuccess (server.respond held (request.bearerAuth "token")).1.1 = true) :
    ∃ trace, exec server.handler (exchange request) held =
      ⟨some (.ok (server.respond held (request.bearerAuth "token")).1.2), (server.respond held (request.bearerAuth "token")).2,
        trace⟩ := by
  refine ⟨(exec server.handler (exchange request) held).trace, ?_⟩
  simp [exchange, authorized, bearerToken, sendAndRead, exec_ask, handler, Run.prepend, accepted, success]

end BetaGroupServer

def PrintsBack (serde : SerdeJson) (value : Json) : Prop := serde.parse (serde.print value) = some value

theorem parse_prints_back {α : Type} (type label : String) (decoder : Decoder α) (json : Json) (value : α)
    (reads : PrintsBack client.crates.serdeJson json) (decoded : decoder json = some value) :
    client.parse type label decoder (client.crates.serdeJson.print json) = .ok value := by
  rw [AppStoreClient.parse]
  rw [((client.crates.serdeJson.from_str_ok type decoder _ value).mpr (by rw [reads]; exact decoded))]

theorem beta_group_resource_decoded (group : StoredGroup) (attributes : BetaGroupAttributes)
    (shown : group.shown = some attributes) :
    BetaGroupResource.decode (groupJson group) = some ⟨group.id, attributes, ⟨⟨none⟩⟩⟩ := by
  rw [BetaGroupResource.decode, LinkedResource.decode, groupJson]
  rw [struct_obj]
  simp only [required_bind_members, defaulted_bind_members, pure_fields]
  rw [member_of_single "id" string _ (.str group.id) rfl, string_str]
  have attributesRead : memberOr "attributes" BetaGroupAttributes.decode .default
      [("type", Json.str "betaGroups"), ("id", .str group.id), ("attributes", .obj group.attributes)] = some attributes := shown
  rw [attributesRead]
  rfl

section update

variable (name : Option String) (publicLinkEnabled : Option Bool) (publicLinkLimit : Option Int) (feedbackEnabled : Option Bool)

-- The two booleans are written under keys that are not among those that are read.
theorem overwritten_shown (group : StoredGroup) (old : BetaGroupAttributes) (shown : group.shown = some old) :
    (group.overwrite (AppStoreClient.updateBetaGroupAttributes name publicLinkEnabled publicLinkLimit feedbackEnabled)).shown =
      some { old with name := name.or old.name } := by
  refine struct_updates _ group.attributes _ (fun old : BetaGroupAttributes => { old with name := name.or old.name })
    ?_ old shown
  apply updates_text name
  intro oldName
  apply updates_kept
  intro createdDate
  apply updates_kept
  intro isInternalGroup
  apply updates_kept
  intro hasAccessToAllBuilds
  apply updates_kept
  intro publicLinkShown
  apply updates_kept
  intro publicLink
  apply updates_kept
  intro feedbackShown
  · exact updates_pure _ _ rfl
  all_goals simp [AppStoreClient.updateBetaGroupAttributes, occurrences_append]

theorem stored_once (held : Groups) (group : StoredGroup) (stored : group ∈ held.groups) (other : StoredGroup)
    (inside : other ∈ held.groups) (same : other.id = group.id) : other = group :=
  List.inj_on_of_nodup_map held.distinct inside stored same

theorem readable_overwritten (held : Groups) (group : StoredGroup) (stored : group ∈ held.groups)
    (readable : ∀ other ∈ held.groups, other.shown.isSome) :
    ∀ other ∈ (held.overwrite group.id
      (AppStoreClient.updateBetaGroupAttributes name publicLinkEnabled publicLinkLimit feedbackEnabled)).groups,
      other.shown.isSome := by
  intro other inside
  obtain ⟨old, shown⟩ := Option.isSome_iff_exists.mp (readable group stored)
  obtain ⟨before, kept, rfl⟩ := List.mem_map.mp inside
  by_cases here : before.id = group.id
  · rw [if_pos here, stored_once held group stored before kept here,
      overwritten_shown name publicLinkEnabled publicLinkLimit feedbackEnabled group old shown]
    rfl
  · rw [if_neg here]
    exact readable before kept

end update

theorem beta_group_document_decoded (group : StoredGroup) (attributes : BetaGroupAttributes)
    (shown : group.shown = some attributes) :
    Document.decode BetaGroupResource.decode (groupDocument group) = some ⟨⟨group.id, attributes, ⟨⟨none⟩⟩⟩⟩ := by
  rw [Document.decode, groupDocument]
  rw [struct_obj, required_bind_members, member_of_single "data" _ _ (groupJson group) rfl,
    beta_group_resource_decoded group attributes shown]
  rfl

def StoredGroup.resource (group : StoredGroup) : BetaGroupResource := ⟨group.id, group.shown.getD .default, ⟨⟨none⟩⟩⟩

theorem beta_groups_page_decoded (held : Groups) (readable : ∀ group ∈ held.groups, group.shown.isSome) :
    Page.decode BetaGroupResource.decode (groupsPage held) = some ⟨held.groups.map StoredGroup.resource, ⟨none⟩⟩ := by
  rw [Page.decode, groupsPage]
  rw [struct_obj]
  simp only [defaulted_bind_members, pure_fields]
  have rows : memberOr "data" (vec BetaGroupResource.decode) [] [("data", Json.arr (held.groups.map groupJson))] =
      some (held.groups.map StoredGroup.resource) := by
    apply vec_arr
    rw [List.map_map, List.map_map]
    apply List.map_congr_left
    intro group inside
    obtain ⟨attributes, shown⟩ := Option.isSome_iff_exists.mp (readable group inside)
    simp [StoredGroup.resource, beta_group_resource_decoded group attributes shown, shown]
  rw [rows]
  rfl

theorem find_group (held : Groups) (group : StoredGroup) (stored : group ∈ held.groups) :
    (held.groups.find? fun other => other.id = group.id) = some group := by
  rcases found : held.groups.find? fun other => other.id = group.id with _ | other
  · exact absurd (List.find?_eq_none.mp found group stored) (by simp)
  · have same : other.id = group.id := by simpa using List.find?_some found
    rw [found, List.inj_on_of_nodup_map held.distinct (List.mem_of_find?_eq_some found) stored same]

namespace BetaGroupServer

variable (server : BetaGroupServer client)

theorem exec_update (held : Groups) (group : StoredGroup) (stored : group ∈ held.groups) (old : BetaGroupAttributes)
    (shown : group.shown = some old) (name : Option String) (publicLinkEnabled : Option Bool) (publicLinkLimit : Option Int)
    (feedbackEnabled : Option Bool)
    (reads : PrintsBack client.crates.serdeJson (groupDocument (group.overwrite
      (AppStoreClient.updateBetaGroupAttributes name publicLinkEnabled publicLinkLimit feedbackEnabled)))) :
    ∃ trace, exec server.handler (client.updateBetaGroup group.id name publicLinkEnabled publicLinkLimit feedbackEnabled) held =
      ⟨some (.ok (intoBetaGroupInfo "" ⟨group.id, { old with name := name.or old.name }, ⟨⟨none⟩⟩⟩)),
        held.overwrite group.id (AppStoreClient.updateBetaGroupAttributes name publicLinkEnabled publicLinkLimit feedbackEnabled),
        trace⟩ := by
  rw [AppStoreClient.updateBetaGroup]
  generalize body : (Json.obj [("data", .obj [("type", .str "betaGroups"), ("id", .str group.id), ("attributes",
    .obj (AppStoreClient.updateBetaGroupAttributes name publicLinkEnabled publicLinkLimit feedbackEnabled))])]) = sent
  have answered : server.respond held ((Request.patch (client.betaGroupUrl group.id) sent).bearerAuth "token") =
      ((200, client.crates.serdeJson.print (groupDocument (group.overwrite
        (AppStoreClient.updateBetaGroupAttributes name publicLinkEnabled publicLinkLimit feedbackEnabled)))),
        held.overwrite group.id (AppStoreClient.updateBetaGroupAttributes name publicLinkEnabled publicLinkLimit feedbackEnabled)) := by
    have id : sent.at ["data", "id"] >>= string = some group.id := by rw [← body]; rfl
    have patch : sent.at ["data", "attributes"] = some (.obj
      (AppStoreClient.updateBetaGroupAttributes name publicLinkEnabled publicLinkLimit feedbackEnabled)) := by rw [← body]; rfl
    simp only [respond, Request.patch, Request.plain, Request.withJson, Request.bearerAuth, id, patch, find_group held group stored]
  obtain ⟨trace, ran⟩ := server.exec_exchange_ok (Request.patch (client.betaGroupUrl group.id) sent) held (by rw [answered]; rfl)
  rw [answered] at ran
  refine ⟨trace, ?_⟩
  rw [exec_bind, ran, Run.and_then_ok]
  rw [AppStoreClient.parseBetaGroup]
  rw [parse_prints_back _ _ _ _ _ reads (beta_group_document_decoded _ _
    (overwritten_shown name publicLinkEnabled publicLinkLimit feedbackEnabled group old shown))]
  simp [Run.prepend, intoBetaGroupInfoInferringApp, StoredGroup.overwrite]

theorem exec_fetch (held : Groups) (readable : ∀ group ∈ held.groups, group.shown.isSome) (fuel : Nat) (appId : String)
    (limit : Nat) (reads : PrintsBack client.crates.serdeJson (groupsPage held)) :
    ∃ trace, exec server.handler (client.fetchBetaGroups (fuel + 1) appId limit) held =
      ⟨some (.ok (held.groups.map fun group => intoBetaGroupInfo appId group.resource)), held, trace⟩ := by
  unfold AppStoreClient.fetchBetaGroups AppStoreClient.listPages getPage
  have answered : server.respond held ((Request.get (client.betaGroupsPageUrl appId limit)).bearerAuth "token") =
    ((200, client.crates.serdeJson.print (groupsPage held)), held) := rfl
  obtain ⟨trace, ran⟩ := server.exec_exchange_ok (.get (client.betaGroupsPageUrl appId limit)) held (by rw [answered]; rfl)
  rw [answered] at ran
  refine ⟨trace, ?_⟩
  rw [while_some_succ, Prog.bind_assoc, exec_bind, ran, Run.and_then_ok,
    parse_prints_back _ _ _ _ _ reads (beta_groups_page_decoded held readable)]
  simp [Run.prepend, Links.nextUrl, Function.comp_def]

theorem exec_create (held : Groups) (appId name : String) (isInternal publicLinkEnabled hasAccessToAllBuilds : Bool)
    (reads : PrintsBack client.crates.serdeJson (groupDocument (server.created held
      (AppStoreClient.createBetaGroupAttributes name isInternal publicLinkEnabled hasAccessToAllBuilds)))) :
    ∃ state trace, exec server.handler (client.createBetaGroup appId name isInternal publicLinkEnabled hasAccessToAllBuilds) held =
      ⟨some (.ok (intoBetaGroupInfo appId ⟨server.fresh held,
        ⟨some name, none, some isInternal, some hasAccessToAllBuilds, none, none, none⟩, ⟨⟨none⟩⟩⟩)), state, trace⟩ := by
  rw [AppStoreClient.createBetaGroup]
  generalize body : (Json.obj [("data", .obj [("type", .str "betaGroups"), ("attributes",
    .obj (AppStoreClient.createBetaGroupAttributes name isInternal publicLinkEnabled hasAccessToAllBuilds)),
    ("relationships", .obj [("app", linkTo "apps" appId)])])]) = sent
  have attributes : sent.at ["data", "attributes"] = some (.obj
    (AppStoreClient.createBetaGroupAttributes name isInternal publicLinkEnabled hasAccessToAllBuilds)) := by rw [← body]; rfl
  have answered : (server.respond held ((Request.post client.betaGroupsUrl sent).bearerAuth "token")).1 =
      (201, client.crates.serdeJson.print (groupDocument (server.created held
        (AppStoreClient.createBetaGroupAttributes name isInternal publicLinkEnabled hasAccessToAllBuilds)))) := by
    simp only [respond, Request.post, Request.plain, Request.withJson, Request.bearerAuth, attributes]
  obtain ⟨trace, ran⟩ := server.exec_exchange_ok (Request.post client.betaGroupsUrl sent) held (by rw [answered]; rfl)
  rw [answered] at ran
  refine ⟨(server.respond held ((Request.post client.betaGroupsUrl sent).bearerAuth "token")).2, trace, ?_⟩
  rw [exec_bind, ran, Run.and_then_ok]
  rw [AppStoreClient.parseBetaGroup]
  rw [parse_prints_back _ _ _ _ ⟨⟨server.fresh held,
    ⟨some name, none, some isInternal, some hasAccessToAllBuilds, none, none, none⟩, ⟨⟨none⟩⟩⟩⟩ reads
    (beta_group_document_decoded _ _ rfl)]
  simp [Run.prepend]

end BetaGroupServer

def BetaGroupInfo.attributes (info : BetaGroupInfo) : BetaGroupAttributes :=
  ⟨info.name, info.createdDate, info.isInternalGroup, info.hasAccessToAllBuilds, info.publicLinkEnabled, info.publicLink,
    info.feedbackEnabled⟩

def BetaGroupAttributes.changed (name : Option String) (publicLinkEnabled feedbackEnabled : Option Bool)
    (old : BetaGroupAttributes) : BetaGroupAttributes :=
  { old with
    name := name.or old.name
    publicLinkEnabled := publicLinkEnabled.or old.publicLinkEnabled
    feedbackEnabled := feedbackEnabled.or old.feedbackEnabled }

def UpdateReadsBack (server : BetaGroupServer client) (held : Groups) (group : StoredGroup) (name : Option String)
    (publicLinkEnabled : Option Bool) (publicLinkLimit : Option Int) (feedbackEnabled : Option Bool) (fuel : Nat)
    (appId : String) (limit : Nat) : Prop :=
  let updated := exec server.handler
    (client.updateBetaGroup group.id name publicLinkEnabled publicLinkLimit feedbackEnabled) held
  let listed := exec server.handler (client.fetchBetaGroups fuel appId limit) updated.state
  ∃ info infos, updated.outcome = some (.ok info) ∧ listed.outcome = some (.ok infos) ∧
    info.id = group.id ∧ some info.attributes = group.shown.map (.changed name publicLinkEnabled feedbackEnabled) ∧
    infos.map (fun listed => (listed.id, some listed.attributes)) = held.groups.map fun other =>
      (other.id, if other.id = group.id then other.shown.map (.changed name publicLinkEnabled feedbackEnabled) else other.shown)

def CreateReadsBack (server : BetaGroupServer client) (held : Groups) (appId name : String)
    (isInternal publicLinkEnabled hasAccessToAllBuilds : Bool) : Prop :=
  ∃ info, (exec server.handler (client.createBetaGroup appId name isInternal publicLinkEnabled hasAccessToAllBuilds) held).outcome =
      some (.ok info) ∧ info.name = some name ∧ info.isInternalGroup = some isInternal ∧
    info.hasAccessToAllBuilds = some hasAccessToAllBuilds ∧ info.publicLinkEnabled = some publicLinkEnabled ∧
    info.feedbackEnabled = some true

def AlreadyShown (group : StoredGroup) (publicLinkEnabled feedbackEnabled : Option Bool) : Prop :=
  ∀ old, group.shown = some old → (∀ value, publicLinkEnabled = some value → old.publicLinkEnabled = some value) ∧
    ∀ value, feedbackEnabled = some value → old.feedbackEnabled = some value

theorem changed_name_only (name : Option String) (publicLinkEnabled feedbackEnabled : Option Bool) (old : BetaGroupAttributes) :
    { old with name := name.or old.name } = old.changed name publicLinkEnabled feedbackEnabled ↔
      (∀ value, publicLinkEnabled = some value → old.publicLinkEnabled = some value) ∧
        ∀ value, feedbackEnabled = some value → old.feedbackEnabled = some value := by
  rw [BetaGroupAttributes.changed]
  cases publicLinkEnabled <;> cases feedbackEnabled <;> simp

theorem update_reads_back_iff (server : BetaGroupServer client) (held : Groups) (group : StoredGroup)
    (stored : group ∈ held.groups) (readable : ∀ other ∈ held.groups, other.shown.isSome) (name : Option String)
    (publicLinkEnabled : Option Bool) (publicLinkLimit : Option Int) (feedbackEnabled : Option Bool) (fuel : Nat)
    (appId : String) (limit : Nat)
    (readsGroup : PrintsBack client.crates.serdeJson (groupDocument (group.overwrite
      (AppStoreClient.updateBetaGroupAttributes name publicLinkEnabled publicLinkLimit feedbackEnabled))))
    (readsPage : PrintsBack client.crates.serdeJson (groupsPage (held.overwrite group.id
      (AppStoreClient.updateBetaGroupAttributes name publicLinkEnabled publicLinkLimit feedbackEnabled)))) :
    UpdateReadsBack server held group name publicLinkEnabled publicLinkLimit feedbackEnabled (fuel + 1) appId limit ↔
      AlreadyShown group publicLinkEnabled feedbackEnabled := by
  obtain ⟨old, shown⟩ := Option.isSome_iff_exists.mp (readable group stored)
  obtain ⟨first, updated⟩ := server.exec_update held group stored old shown name publicLinkEnabled publicLinkLimit
    feedbackEnabled readsGroup
  have after := readable_overwritten name publicLinkEnabled publicLinkLimit feedbackEnabled held group stored readable
  obtain ⟨second, listed⟩ := server.exec_fetch _ after fuel appId limit readsPage
  rw [UpdateReadsBack, AlreadyShown]
  rw [updated]
  dsimp only
  rw [listed]
  simp only [shown, Option.some.injEq, forall_eq']
  rw [← changed_name_only name publicLinkEnabled feedbackEnabled old]
  constructor
  · intro updated
    obtain ⟨info, infos, same, _, _, changed, _⟩ := updated
    cases Except.ok.inj same
    exact Option.some.inj changed
  · intro changed
    refine ⟨_, _, rfl, rfl, rfl, congrArg some changed, ?_⟩
    rw [List.map_map]
    rw [Groups.overwrite]
    rw [List.map_map]
    apply List.map_congr_left
    intro other inside
    by_cases here : other.id = group.id
    · have same := stored_once held group stored other inside here
      subst same
      simp only [Function.comp_apply, if_true, shown]
      have seen := overwritten_shown name publicLinkEnabled publicLinkLimit feedbackEnabled other old shown
      simp only [StoredGroup.resource, seen, Option.getD_some]
      exact Prod.ext rfl (congrArg some changed)
    · obtain ⟨attributes, seen⟩ := Option.isSome_iff_exists.mp (readable other inside)
      simp only [Function.comp_apply, if_neg here, StoredGroup.resource, seen, Option.getD_some]
      rfl

-- The reader looks at keys that neither write sends: an update reads back exactly
-- when its booleans are already shown, and a creation never does.
theorem beta_group_writes_read_back_iff (server : BetaGroupServer client) (held : Groups)
    (readable : ∀ other ∈ held.groups, other.shown.isSome) :
    (∀ group ∈ held.groups, ∀ (name : Option String) (publicLinkEnabled : Option Bool) (publicLinkLimit : Option Int)
        (feedbackEnabled : Option Bool) (fuel : Nat) (appId : String) (limit : Nat),
      PrintsBack client.crates.serdeJson (groupDocument (group.overwrite
        (AppStoreClient.updateBetaGroupAttributes name publicLinkEnabled publicLinkLimit feedbackEnabled))) →
      PrintsBack client.crates.serdeJson (groupsPage (held.overwrite group.id
        (AppStoreClient.updateBetaGroupAttributes name publicLinkEnabled publicLinkLimit feedbackEnabled))) →
      (UpdateReadsBack server held group name publicLinkEnabled publicLinkLimit feedbackEnabled (fuel + 1) appId limit ↔
        AlreadyShown group publicLinkEnabled feedbackEnabled)) ∧
      ∀ (appId name : String) (isInternal publicLinkEnabled hasAccessToAllBuilds : Bool),
        PrintsBack client.crates.serdeJson (groupDocument (server.created held
          (AppStoreClient.createBetaGroupAttributes name isInternal publicLinkEnabled hasAccessToAllBuilds))) →
        ¬ CreateReadsBack server held appId name isInternal publicLinkEnabled hasAccessToAllBuilds := by
  refine ⟨?_, ?_⟩
  · intro group stored name publicLinkEnabled publicLinkLimit feedbackEnabled fuel appId limit readsGroup readsPage
    exact update_reads_back_iff server held group stored readable name publicLinkEnabled publicLinkLimit feedbackEnabled
      fuel appId limit readsGroup readsPage
  · intro appId name isInternal publicLinkEnabled hasAccessToAllBuilds reads created
    obtain ⟨info, answered, _, _, _, linked, _⟩ := created
    obtain ⟨state, trace, ran⟩ := server.exec_create held appId name isInternal publicLinkEnabled hasAccessToAllBuilds reads
    rw [ran] at answered
    cases Except.ok.inj (Option.some.inj answered)
    cases linked

def qaGroup : StoredGroup := ⟨"G1", [("name", .str "QA"), ("publicLinkEnabled", .bool false)]⟩

def qaGroups : Groups := ⟨[qaGroup], by decide⟩

def linkPatch : List (String × Json) := AppStoreClient.updateBetaGroupAttributes none (some true) none none

def createdGroup : StoredGroup := ⟨"G1G1", AppStoreClient.createBetaGroupAttributes "Beta" false true false⟩

def qaClient : AppStoreClient :=
  ⟨"https://host", .reading [groupDocument (qaGroup.overwrite linkPatch), groupsPage (qaGroups.overwrite "G1" linkPatch),
    groupDocument createdGroup]⟩

def qaServer : BetaGroupServer qaClient where
  fresh held := String.join (held.groups.map StoredGroup.id) ++ "G1"
  unused := by
    intro held inside
    have longer : ∀ (ids : List String) (id : String), id ∈ ids → id.length ≤ (String.join ids).length := by
      intro ids id member
      induction ids with
      | nil => cases member
      | cons first rest ih =>
          rw [String.join_cons, String.length_append]
          rcases List.mem_cons.mp member with rfl | later
          · omega
          · have := ih later
            omega
    have bound := longer _ _ inside
    rw [String.length_append] at bound
    have : "G1".length = 2 := rfl
    omega

set_option maxRecDepth 20000 in
theorem public_link_not_read_back :
    ¬ UpdateReadsBack qaServer qaGroups qaGroup none (some true) none none 1 "A" 10 ∧
      ¬ CreateReadsBack qaServer qaGroups "A" "Beta" false true false := by
  refine ⟨?_, ?_⟩
  · intro updated
    obtain ⟨info, infos, answered, _, _, changed, _⟩ := updated
    have same : (exec qaServer.handler (qaClient.updateBetaGroup "G1" none (some true) none none) qaGroups).outcome =
      some (.ok ⟨"G1", "", some "QA", none, none, none, some false, none, none⟩) := rfl
    cases Except.ok.inj (Option.some.inj (same.symm.trans answered))
    exact absurd changed (by decide)
  · intro created
    obtain ⟨info, answered, _, _, _, linked, _⟩ := created
    have same : (exec qaServer.handler (qaClient.createBetaGroup "A" "Beta" false true false) qaGroups).outcome =
      some (.ok ⟨"G1G1", "A", some "Beta", none, some false, some false, none, none, none⟩) := rfl
    cases Except.ok.inj (Option.some.inj (same.symm.trans answered))
    cases linked

set_option maxRecDepth 20000 in
theorem qa_group_read_back_iff :
    (UpdateReadsBack qaServer qaGroups qaGroup none (some true) none none 1 "A" 10 ↔ AlreadyShown qaGroup (some true) none) ∧
      ¬ CreateReadsBack qaServer qaGroups "A" "Beta" false true false := by
  have both := beta_group_writes_read_back_iff qaServer qaGroups (by decide)
  exact ⟨both.1 qaGroup (by simp [qaGroups]) none (some true) none none 0 "A" 10 rfl rfl, both.2 "A" "Beta" false true false rfl⟩

end StackConnect
