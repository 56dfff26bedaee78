import StackConnect.AppStore.ResourceSessions

set_option autoImplicit false

namespace StackConnect

open Interaction Serde

namespace ResourceServer

section Addresses

variable {Owner Attributes Info : Type} [DecidableEq Owner] {client : AppStoreClient} {kind : ResourceKind Owner Attributes Info}

variable (server : ResourceServer client kind)

def Addressed (url : String) : Prop :=
  url = kind.collectionUrl client ∨ (∃ id, url = client.resourceUrl kind.type id) ∨ ∃ owner offset, url = server.cursor owner offset

def Modest (trace : Trace) : Prop :=
  ∀ event ∈ trace, event.1 = .bearerToken ∨ ∃ request, event.1 = .send request ∧ server.Addressed request.url

omit [DecidableEq Owner] in
theorem modest_nil : server.Modest [] := List.forall_mem_nil _

omit [DecidableEq Owner] in
theorem modest_append (first later : Trace) (before : server.Modest first) (after : server.Modest later) :
    server.Modest (first ++ later) := by
  intro event inside
  rcases List.mem_append.mp inside with early | late
  · exact before event early
  · exact after event late

omit [DecidableEq Owner] in
theorem modest_called (request : Request) (trace : Trace) (raw : Except StackError (Nat × String)) (called : Called request trace raw)
    (addressed : server.Addressed request.url) : server.Modest trace := by
  intro event inside
  cases called with
  | unsigned message => exact .inl (congrArg Sigma.fst (List.mem_singleton.mp inside))
  | broken token message =>
      rcases List.mem_cons.mp inside with rfl | last
      · exact .inl rfl
      · exact .inr ⟨request.bearerAuth token, congrArg Sigma.fst (List.mem_singleton.mp last), addressed⟩
  | answered token response =>
      rcases List.mem_cons.mp inside with rfl | last
      · exact .inl rfl
      · exact .inr ⟨request.bearerAuth token, congrArg Sigma.fst (List.mem_singleton.mp last), addressed⟩

omit [DecidableEq Owner] in
theorem modest_judged {α : Type} (request : Request) (addressed : server.Addressed request.url) (next : String → Async α)
    (judges : ∀ body, ∃ result, next body = .done result) (trace : Trace) (outcome : Option (Except StackError α))
    (run : Runs (exchange request >>= next) trace outcome) : server.Modest trace := by
  rcases runs_bind _ _ _ _ run with ⟨body, first, second, rfl, ran, judged⟩ | ⟨failure, ran, rfl⟩ | ⟨ran, rfl⟩
  · obtain ⟨raw, called, _⟩ := (runs_exchange _ _ _).mp ran
    obtain ⟨result, same⟩ := judges body
    rw [same] at judged
    obtain ⟨rfl, _⟩ := (runs_done _ _ _).mp judged
    rw [List.append_nil]
    exact server.modest_called request first raw called addressed
  · obtain ⟨raw, called, _⟩ := (runs_exchange _ _ _).mp ran
    exact server.modest_called request trace raw called addressed
  · obtain ⟨raw, called, _⟩ := (runs_exchange _ _ _).mp ran
    exact server.modest_called request trace raw called addressed

theorem answered_modest {α : Type} (request : Request) (addressed : server.Addressed request.url) (view : Info → α)
    (held : Holdings Owner) :
    server.Modest (exec server.handler (kind.answered client request >>= fun info => pure (view info)) held).trace := by
  rw [exec_map_trace, ResourceKind.answered, exec_map_trace, exchange_document_judged]
  exact server.modest_judged request addressed _ (fun _ => ⟨_, rfl⟩) _ _ (exec_runs server.handler _ held)

theorem sent_modest {α : Type} (request : Request) (addressed : server.Addressed request.url) (value : α) (held : Holdings Owner) :
    server.Modest (exec server.handler (exchangeNoContent request >>= fun _ => pure value) held).trace := by
  rw [exec_map_trace, exchangeNoContent]
  exact server.modest_judged request addressed _ (fun _ => ⟨.ok (), rfl⟩) _ _ (exec_runs server.handler _ held)

theorem page_modest (held left : Holdings Owner) (owner : Owner) (offset : Nat) (collected : List Info) (trace : Trace)
    (outcome : Option (Except StackError (List Info × Option String)))
    (ran : exec server.handler (getPage (server.cursor owner offset) >>= fun body =>
        Prog.ofExcept (client.parse kind.page kind.pageLabel (Page.decode kind.resource) body) >>= fun page =>
          pure (collected ++ (kind.listing client owner).rows page, page.links.nextUrl)) held = ⟨outcome, left, trace⟩) :
    server.Modest trace := by
  have run := exec_runs server.handler (getPage (server.cursor owner offset) >>= fun body =>
    Prog.ofExcept (client.parse kind.page kind.pageLabel (Page.decode kind.resource) body) >>= fun page =>
      pure (collected ++ (kind.listing client owner).rows page, page.links.nextUrl)) held
  rw [ran] at run
  apply server.modest_judged (.get (server.cursor owner offset)) (.inr (.inr ⟨owner, offset, rfl⟩)) _ _ _ _ run
  intro body
  exact ⟨_, Prog.done_bind_done _ _⟩

theorem pages_modest (held : Holdings Owner) (sound : Sound kind held) (owner : Owner)
    (speaks : server.Speaks held (.list owner)) (collected : List Info) (fuel offset : Nat)
    (inside : offset ≤ (owned held owner).length) :
    server.Modest (exec server.handler (client.listPages fuel kind.page kind.pageLabel (Page.decode kind.resource)
      (kind.listing client owner).rows Page.links collected (server.cursor owner offset)) held).trace := by
  induction fuel generalizing collected offset with
  | zero => exact server.modest_nil
  | succ fuel ih =>
      obtain ⟨trace, ran⟩ := server.exec_page held sound owner offset (speaks offset inside) collected
      have here := server.page_modest held held owner offset collected trace _ ran
      unfold AppStoreClient.listPages at ih ⊢
      rw [exec_while_some_ok _ _ _ _ _ _ _ _ ran]
      dsimp only
      apply server.modest_append _ _ here
      by_cases more : offset + server.size < (owned held owner).length
      · rw [following, if_pos more]
        exact ih _ _ (Nat.le_of_lt more)
      · rw [following, if_neg more, while_some_none]
        exact server.modest_nil

theorem command_modest (held : Holdings Owner) (sound : Sound kind held) (command : Command kind) (fuel : Nat)
    (speaks : server.Speaks held command) : server.Modest (exec server.handler (command.run client fuel) held).trace := by
  cases command with
  | create owner draft => exact server.answered_modest _ (.inl rfl) _ held
  | update id revision => exact server.answered_modest _ (.inr (.inl ⟨id, rfl⟩)) _ held
  | revise id revision => exact server.sent_modest _ (.inr (.inl ⟨id, rfl⟩)) _ held
  | delete id => exact server.sent_modest _ (.inr (.inl ⟨id, rfl⟩)) _ held
  | list owner =>
      have pages := server.pages_modest held sound owner speaks [] fuel 0 (Nat.zero_le _)
      rw [server.start] at pages
      rw [Command.run, exec_map_trace]
      exact pages

end Addresses

end ResourceServer

-- A server that hosts several collections, each at addresses of its own.
structure CollectionSite (client : AppStoreClient) (ι : Type) where
  collection : ι → Collection
  server : (i : ι) → ResourceServer client (collection i).kind
  route : String → Option ι
  routed : ∀ i url, (server i).Addressed url → route url = some i

namespace CollectionSite

variable {client : AppStoreClient} {ι : Type} [DecidableEq ι] (site : CollectionSite client ι)

abbrev Held := (i : ι) → Holdings (site.collection i).Owner

def front : Front Answer fun i => Holdings (site.collection i).Owner where
  member i := (site.server i).handler
  route
    | .send request => site.route request.url
    | _ => none
  common
    | .bearerToken => .ok "token"
    | .send _ => .ok (404, "")
    | .stream _ => .error "not streamed"

omit [DecidableEq ι] in
theorem modest_owned (i : ι) (trace : Trace) (modest : (site.server i).Modest trace) (event : Event Answer) (inside : event ∈ trace) :
    site.front.Owns i event.1 := by
  rcases modest event inside with token | ⟨request, sent, addressed⟩
  · rw [token]
    exact .inr ⟨rfl, fun _ => rfl⟩
  · rw [sent]
    exact .inl (site.routed i request.url addressed)

def commands (session : List (Σ i, Collection.Operation (site.collection i))) (i : ι) : List (Command (site.collection i).kind) :=
  (part i session).map Collection.Operation.command

def programs (fuel : Nat) (session : List (Σ i, Collection.Operation (site.collection i))) :
    List (Σ i, Async (Returned (site.collection i).Info)) :=
  onEach (fun _ operation => operation.run client fuel) session

theorem session_keeps_apart (session : List (Σ i, Collection.Operation (site.collection i))) (held : site.Held)
    (sound : ∀ i, ResourceServer.Sound (site.collection i).kind (held i)) (fuel : Nat)
    (enough : ∀ i, (held i).length + session.length ≤ fuel)
    (speaks : ∀ i, (site.server i).SpeaksAll (site.commands session i) (held i)) :
    site.front.Apart (site.programs fuel session) held := by
  induction session generalizing held with
  | nil => trivial
  | cons first rest ih =>
      obtain ⟨i, operation⟩ := first
      have spoken := speaks i
      rw [commands, part_own, List.map_cons] at spoken
      have room := enough i
      rw [List.length_cons] at room
      have performed := (site.server i).command_performed (held i) (sound i) operation.command fuel (by omega) spoken.1
      have modest := (site.server i).command_modest (held i) (sound i) operation.command fuel spoken.1
      obtain ⟨trace, ran⟩ := performed.ran
      have after : (exec (site.front.member i) (operation.run client fuel) (held i)).state =
          (site.server i).after (held i) operation.command := by
        rw [Collection.Operation.run_command]
        exact congrArg Run.state ran
      refine ⟨?_, ?_⟩
      · rw [← Collection.Operation.run_command] at modest
        exact site.modest_owned i _ modest
      · change site.front.Apart (site.programs fuel rest)
          (Function.update held i (exec (site.front.member i) (operation.run client fuel) (held i)).state)
        rw [after]
        apply ih
        · intro j
          by_cases same : j = i
          · subst same
            rw [Function.update_self]
            exact performed.sound
          · rw [Function.update_of_ne same]
            exact sound j
        · intro j
          by_cases same : j = i
          · subst same
            rw [Function.update_self]
            have grown := (site.server j).after_length (held j) operation.command
            omega
          · rw [Function.update_of_ne same]
            have roomy := enough j
            rw [List.length_cons] at roomy
            omega
        · intro j
          by_cases same : j = i
          · subst same
            rw [Function.update_self]
            exact spoken.2
          · rw [Function.update_of_ne same]
            have others := speaks j
            rwa [commands, part_other j i (Ne.symm same)] at others

end CollectionSite

-- A session on several collections of one server: each of them answers its own
-- operations, and is left, as a list of rows to which only these were done.
theorem collections_side_by_side {client : AppStoreClient} {ι : Type} [DecidableEq ι] (site : CollectionSite client ι)
    (session : List (Σ i, Collection.Operation (site.collection i))) (held : site.Held)
    (sound : ∀ i, ResourceServer.Sound (site.collection i).kind (held i)) (fuel : Nat)
    (enough : ∀ i, (held i).length + session.length ≤ fuel)
    (speaks : ∀ i, (site.server i).SpeaksAll (site.commands session i) (held i)) (i : ι) :
    ∃ results, part i (runEach site.front.handler (site.programs fuel session) held).1 = results.map some ∧
      Performs (site.commands session i) ((held i).map (StoredResource.row (site.collection i).kind)) results
        (((runEach site.front.handler (site.programs fuel session) held).2 i).map (StoredResource.row (site.collection i).kind)) ∧
      ResourceServer.Sound (site.collection i).kind ((runEach site.front.handler (site.programs fuel session) held).2 i) := by
  have apart := site.session_keeps_apart session held sound fuel enough speaks
  obtain ⟨results, left⟩ := Front.session_apart (site.programs fuel session) held apart i
  have fewer := part_length i session
  have room := enough i
  obtain ⟨returned, final, ran, performs, still⟩ := (site.server i).session_performs (site.commands session i) (held i) (sound i) fuel
    (by rw [CollectionSite.commands, List.length_map]; omega) (speaks i)
  have alone : (part i (site.programs fuel session)) = (site.commands session i).map fun command => command.run client fuel := by
    rw [CollectionSite.programs, part_on_each, CollectionSite.commands, List.map_map]
    apply List.map_congr_left
    intro operation _
    exact Collection.Operation.run_command client fuel operation
  rw [alone] at results left
  change _ = (runAll (site.server i).handler _ _).1 at results
  change _ = (runAll (site.server i).handler _ _).2 at left
  rw [ran] at results left
  refine ⟨returned, results, ?_, ?_⟩
  · rw [left]
    exact performs
  · rw [left]
    exact still

def ownBundle : StoredResource Unit := ⟨"B", (), (Collection.bundleIdDraft "com.app" "App" "IOS").members⟩
def ownDevice : StoredResource Unit := ⟨"B", (), (Collection.deviceDraft "Phone" "IOS" "U").members⟩

def toolClient : AppStoreClient :=
  ⟨"https://host", .reading [ownBundle.documentJson Collection.bundleIds.kind, lastPage Collection.bundleIds.kind [ownBundle],
    ownDevice.documentJson Collection.devices.kind, lastPage Collection.devices.kind [ownDevice],
    lastPage Collection.devices.kind []]⟩

def toolCollection : Bool → Collection
  | true => .bundleIds
  | false => .devices

def toolServer : (tool : Bool) → ResourceServer toolClient (toolCollection tool).kind
  | true => .marking toolClient Collection.bundleIds.kind unowned (fun _ => rfl) '0' zero_is_no_mark fun owner => by cases owner; decide
  | false => .marking toolClient Collection.devices.kind unowned (fun _ => rfl) '0' zero_is_no_mark fun owner => by cases owner; decide

def bundlePath : String := "https://host/v1/bundleIds"

theorem bundle_routed (rest : String) : bundlePath.toList.isPrefixOf (bundlePath ++ rest).toList = true := by
  rw [List.isPrefixOf_iff_prefix, String.toList_append]
  exact List.prefix_append _ _

theorem device_routed (rest : String) : bundlePath.toList.isPrefixOf ("https://host/v1/devices" ++ rest).toList = false := by
  rw [String.toList_append]
  rfl

theorem tool_routed (tool : Bool) (url : String) (addressed : (toolServer tool).Addressed url) :
    bundlePath.toList.isPrefixOf url.toList = tool := by
  cases tool with
  | true =>
      rcases addressed with rfl | ⟨id, rfl⟩ | ⟨owner, offset, rfl⟩
      · exact bundle_routed ""
      · exact bundle_routed ("/" ++ id)
      · exact bundle_routed ("?sort=name&limit=200" ++ String.ofList (List.replicate offset '+'))
  | false =>
      rcases addressed with rfl | ⟨id, rfl⟩ | ⟨owner, offset, rfl⟩
      · exact device_routed ""
      · exact device_routed ("/" ++ id)
      · exact device_routed ("?sort=name&limit=200" ++ String.ofList (List.replicate offset '+'))

def toolSite : CollectionSite toolClient Bool where
  collection := toolCollection
  server := toolServer
  route url := some (bundlePath.toList.isPrefixOf url.toList)
  routed tool url addressed := congrArg some (tool_routed tool url addressed)

def toolSession : List (Σ tool, Collection.Operation (toolSite.collection tool)) :=
  [⟨true, .createBundleId "com.app" "App" "IOS"⟩, ⟨false, .createDevice "Phone" "IOS" "U"⟩, ⟨false, .fetchDevices⟩,
    ⟨true, .fetchBundleIds⟩]

def emptySite : toolSite.Held
  | true => []
  | false => []

set_option maxRecDepth 20000 in
theorem tool_session_speaks (tool : Bool) :
    (toolSite.server tool).SpeaksAll (toolSite.commands toolSession tool) (emptySite tool) := by
  cases tool with
  | true =>
      refine ⟨rfl, ?_, trivial⟩
      exact up_to_one rfl rfl
  | false =>
      refine ⟨rfl, ?_, trivial⟩
      exact up_to_one rfl rfl

theorem empty_site_sound (tool : Bool) : ResourceServer.Sound (toolSite.collection tool).kind (emptySite tool) := by
  cases tool with
  | true => exact ⟨List.nodup_nil, nofun⟩
  | false => exact ⟨List.nodup_nil, nofun⟩

set_option maxRecDepth 20000 in
theorem device_among_bundles :
    part false (runEach toolSite.front.handler (toolSite.programs 4 toolSession) emptySite).1 =
        [some (.ok (.info ⟨"B", "Phone", some "U", some "IOS", none, none, "ENABLED", none⟩)),
          some (.ok (.infos [⟨"B", "Phone", some "U", some "IOS", none, none, "ENABLED", none⟩]))] ∧
      ∃ results, part false (runEach toolSite.front.handler (toolSite.programs 4 toolSession) emptySite).1 = results.map some ∧
        Performs (toolSite.commands toolSession false) [] results
          (((runEach toolSite.front.handler (toolSite.programs 4 toolSession) emptySite).2 false).map
            (StoredResource.row Collection.devices.kind)) ∧
        ResourceServer.Sound Collection.devices.kind
          ((runEach toolSite.front.handler (toolSite.programs 4 toolSession) emptySite).2 false) :=
  ⟨rfl, collections_side_by_side toolSite toolSession emptySite empty_site_sound 4 (by decide) tool_session_speaks false⟩

end StackConnect
