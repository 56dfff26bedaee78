import StackConnect.AppStore.ResourceStore
import StackConnect.Interaction.Front

set_option autoImplicit false

namespace StackConnect

open Interaction Serde

section Sessions

variable {Owner Attributes Info : Type} [DecidableEq Owner] {client : AppStoreClient} {kind : ResourceKind Owner Attributes Info}

-- The collection as the abstract thing it is: commands performed one after the
-- other, a creation with any id that no row has.
inductive Performs : List (Command kind) → List (Row Owner Attributes) → List (Except StackError (Returned Info)) →
    List (Row Owner Attributes) → Prop
  | over (rows : List (Row Owner Attributes)) : Performs [] rows [] rows
  | next (command : Command kind) (rest : List (Command kind)) (rows final : List (Row Owner Attributes)) (fresh : String)
      (unused : fresh ∉ rows.map Row.id) (results : List (Except StackError (Returned Info)))
      (later : Performs rest (command.perform fresh rows).2 results final) :
      Performs (command :: rest) rows ((command.perform fresh rows).1 :: results) final

namespace ResourceServer

variable (server : ResourceServer client kind)

def SpeaksAll : List (Command kind) → Holdings Owner → Prop
  | [], _ => True
  | command :: rest, held => server.Speaks held command ∧ SpeaksAll rest (server.after held command)

omit [DecidableEq Owner] in
theorem after_length (held : Holdings Owner) (command : Command kind) : (server.after held command).length ≤ held.length + 1 := by
  cases command with
  | create owner draft => simp [after]
  | update id revision => simp [after, replaced]
  | revise id revision => simp [after, replaced]
  | delete id => exact Nat.le_succ_of_le (List.length_filter_le _ _)
  | list owner => exact Nat.le_succ _

theorem session_performs (commands : List (Command kind)) (held : Holdings Owner) (sound : Sound kind held) (fuel : Nat)
    (enough : held.length + commands.length ≤ fuel) (speaks : server.SpeaksAll commands held) :
    ∃ results final, runAll server.handler (commands.map fun command => command.run client fuel) held =
        (results.map some, final) ∧
      Performs commands (held.map (StoredResource.row kind)) results (final.map (StoredResource.row kind)) ∧ Sound kind final := by
  induction commands generalizing held with
  | nil => exact ⟨[], held, rfl, .over _, sound⟩
  | cons command rest ih =>
      rw [List.length_cons] at enough
      have performed := server.command_performed held sound command fuel (by omega) speaks.1
      have grown := server.after_length held command
      obtain ⟨results, final, ran, performs, still⟩ := ih (server.after held command) performed.sound (by omega) speaks.2
      obtain ⟨trace, first⟩ := performed.ran
      refine ⟨(command.perform (server.fresh held) (held.map (StoredResource.row kind))).1 :: results, final, ?_, ?_, still⟩
      · rw [List.map_cons, runAll, first]
        dsimp only
        rw [ran]
        rfl
      · apply Performs.next command rest _ _ (server.fresh held)
        · rw [List.map_map]
          exact server.unused held
        · rw [← performed.rows]
          exact performs

end ResourceServer

end Sessions

inductive Collection where
  | appInfoLocalizations
  | betaAppLocalizations (limit : Nat)
  | betaBuildLocalizations (limit : Nat)
  | accessibilityDeclarations (limit : Int)
  | bundleIds
  | devices

namespace Collection

abbrev Owner : Collection → Type
  | bundleIds | devices => Unit
  | _ => String

abbrev Attributes : Collection → Type
  | appInfoLocalizations => AppInfoLocalizationAttributes
  | betaAppLocalizations _ => BetaAppLocalizationAttributes
  | betaBuildLocalizations _ => BetaBuildLocalizationAttributes
  | accessibilityDeclarations _ => AccessibilityDeclarationAttributes
  | bundleIds => BundleIdAttributes
  | devices => DeviceAttributes

abbrev Info : Collection → Type
  | appInfoLocalizations => AppInfoLocalizationInfo
  | betaAppLocalizations _ => BetaAppLocalizationInfo
  | betaBuildLocalizations _ => BetaBuildLocalizationInfo
  | accessibilityDeclarations _ => AccessibilityDeclarationInfo
  | bundleIds => BundleIdInfo
  | devices => DeviceInfo

instance (collection : Collection) : DecidableEq collection.Owner :=
  match collection with
  | bundleIds | devices => inferInstanceAs (DecidableEq Unit)
  | appInfoLocalizations | betaAppLocalizations _ | betaBuildLocalizations _ | accessibilityDeclarations _ =>
      inferInstanceAs (DecidableEq String)

def kind : (collection : Collection) → ResourceKind collection.Owner collection.Attributes collection.Info
  | appInfoLocalizations =>
      { type := "appInfoLocalizations", attributes := AppInfoLocalizationAttributes.decode
        empty := ⟨none, none, none, none, none, none⟩, info := intoAppInfoLocalizationInfo
        document := "AppInfoLocalizationDocument", documentLabel := "app info localization response"
        page := "AppInfoLocalizationsResponse", pageLabel := "app info localizations response"
        listUrl := fun client appInfoId => client.baseUrl ++ "/v1/appInfos/" ++ appInfoId ++ "/appInfoLocalizations"
        body := fun appInfoId members => createBody "appInfoLocalizations" members [("appInfo", linkTo "appInfos" appInfoId)]
        carried := fun _ _ => rfl
        ownerOf := relatedId "appInfo"
        named := fun _ _ => rfl }
  | betaAppLocalizations limit =>
      { type := "betaAppLocalizations", attributes := BetaAppLocalizationAttributes.decode
        empty := ⟨none, none, none⟩, info := intoBetaAppLocalizationInfo
        document := "BetaAppLocalizationDocument", documentLabel := "beta app localization response"
        page := "BetaAppLocalizationsResponse", pageLabel := "beta app localizations response"
        listUrl := fun client appId =>
          client.baseUrl ++ "/v1/apps/" ++ appId ++ "/betaAppLocalizations?limit=" ++ toString limit
        body := fun appId members => createBody "betaAppLocalizations" members [("app", linkTo "apps" appId)]
        carried := fun _ _ => rfl
        ownerOf := relatedId "app"
        named := fun _ _ => rfl }
  | betaBuildLocalizations limit =>
      { type := "betaBuildLocalizations", attributes := BetaBuildLocalizationAttributes.decode
        empty := ⟨none, none⟩, info := intoBetaBuildLocalizationInfo
        document := "BetaBuildLocalizationDocument", documentLabel := "beta build localization response"
        page := "BetaBuildLocalizationsResponse", pageLabel := "beta build localizations response"
        listUrl := fun client buildId =>
          client.baseUrl ++ "/v1/betaBuildLocalizations?filter[build]=" ++ buildId ++ "&limit=" ++ toString limit
        body := fun buildId members => createBody "betaBuildLocalizations" members [("build", linkTo "builds" buildId)]
        carried := fun _ _ => rfl
        ownerOf := relatedId "build"
        named := fun _ _ => rfl }
  | accessibilityDeclarations limit =>
      { type := "accessibilityDeclarations", attributes := AccessibilityDeclarationAttributes.decode
        empty := ⟨none, none, none, none, none, none, none, none, none, none, none⟩, info := intoAccessibilityDeclarationInfo
        document := "AccessibilityDeclarationDocument", documentLabel := "accessibility declaration response"
        page := "AccessibilityDeclarationsResponse", pageLabel := "accessibility declarations response"
        listUrl := fun client appId =>
          client.baseUrl ++ "/v1/apps/" ++ appId ++ "/accessibilityDeclarations?limit=" ++ toString limit
        body := fun appId members => createBody "accessibilityDeclarations" members [("app", linkTo "apps" appId)]
        carried := fun _ _ => rfl
        ownerOf := relatedId "app"
        named := fun _ _ => rfl }
  | bundleIds =>
      { type := "bundleIds", attributes := BundleIdAttributes.decode
        empty := ⟨none, none, none, none⟩, info := intoBundleIdInfo
        document := "BundleIdDocument", documentLabel := "bundleId response"
        page := "BundleIdsResponse", pageLabel := "bundleIds response"
        listUrl := fun client _ => client.baseUrl ++ "/v1/bundleIds?sort=name&limit=200"
        body := fun _ members => bareBody "bundleIds" members
        carried := fun _ _ => rfl
        ownerOf := fun _ => some ()
        named := fun _ _ => rfl }
  | devices =>
      { type := "devices", attributes := DeviceAttributes.decode
        empty := ⟨none, none, none, none, none, none, none⟩, info := intoDeviceInfo
        document := "DeviceDocument", documentLabel := "device response"
        page := "DevicesResponse", pageLabel := "devices response"
        listUrl := fun client _ => client.baseUrl ++ "/v1/devices?sort=name&limit=200"
        body := fun _ members => bareBody "devices" members
        carried := fun _ _ => rfl
        ownerOf := fun _ => some ()
        named := fun _ _ => rfl }

inductive Operation : Collection → Type
  | createAppInfoLocalization (appInfoId locale name : String) (subtitle : Option String) : Operation .appInfoLocalizations
  | updateAppInfoLocalization (id name : String) (subtitle : Option String) : Operation .appInfoLocalizations
  | updateAppInfoLocalizationPrivacy (id : String) (privacyPolicyUrl privacyChoicesUrl privacyPolicyText : Option String) :
      Operation .appInfoLocalizations
  | deleteAppInfoLocalization (id : String) : Operation .appInfoLocalizations
  | fetchAppInfoLocalizations (appInfoId : String) : Operation .appInfoLocalizations
  | createBetaAppLocalization {limit : Nat} (appId locale : String) (feedbackEmail description : Option String) :
      Operation (.betaAppLocalizations limit)
  | updateBetaAppLocalization {limit : Nat} (id : String) (feedbackEmail description : Option String) :
      Operation (.betaAppLocalizations limit)
  | fetchBetaAppLocalizations {limit : Nat} (appId : String) : Operation (.betaAppLocalizations limit)
  | createBetaBuildLocalization {limit : Nat} (buildId locale whatsNew : String) : Operation (.betaBuildLocalizations limit)
  | updateBetaBuildLocalization {limit : Nat} (id whatsNew : String) : Operation (.betaBuildLocalizations limit)
  | fetchBetaBuildLocalizations {limit : Nat} (buildId : String) : Operation (.betaBuildLocalizations limit)
  | createAccessibilityDeclaration {limit : Int} (appId deviceFamily : String) : Operation (.accessibilityDeclarations limit)
  | updateAccessibilityDeclaration {limit : Int} (id : String) (answers : AccessibilityAnswers) :
      Operation (.accessibilityDeclarations limit)
  | deleteAccessibilityDeclaration {limit : Int} (id : String) : Operation (.accessibilityDeclarations limit)
  | fetchAccessibilityDeclarations {limit : Int} (appId : String) : Operation (.accessibilityDeclarations limit)
  | createBundleId (bundleIdentifier name platform : String) : Operation .bundleIds
  | updateBundleId (id name : String) : Operation .bundleIds
  | deleteBundleId (id : String) : Operation .bundleIds
  | fetchBundleIds : Operation .bundleIds
  | createDevice (name platform udid : String) : Operation .devices
  | updateDevice (id : String) (name status : Option String) : Operation .devices
  | fetchDevices : Operation .devices

def returning {α ι : Type} (view : α → Returned ι) (program : Async α) : Async (Returned ι) :=
  program >>= fun value => pure (view value)

namespace Operation

variable (client : AppStoreClient) (fuel : Nat)

def run : {collection : Collection} → Operation collection → Async (Returned collection.Info)
  | _, createAppInfoLocalization appInfoId locale name subtitle =>
      returning .info (client.createAppInfoLocalization appInfoId locale name subtitle)
  | _, updateAppInfoLocalization id name subtitle => returning .info (client.updateAppInfoLocalization id name subtitle)
  | _, updateAppInfoLocalizationPrivacy id privacyPolicyUrl privacyChoicesUrl privacyPolicyText =>
      returning .info (client.updateAppInfoLocalizationPrivacy id privacyPolicyUrl privacyChoicesUrl privacyPolicyText)
  | _, deleteAppInfoLocalization id => returning (fun _ => .done) (client.deleteAppInfoLocalization id)
  | _, fetchAppInfoLocalizations appInfoId => returning .infos (client.fetchAppInfoLocalizations fuel appInfoId)
  | _, createBetaAppLocalization appId locale feedbackEmail description =>
      returning .info (client.createBetaAppLocalization appId locale feedbackEmail description)
  | _, updateBetaAppLocalization id feedbackEmail description =>
      returning .info (client.updateBetaAppLocalization id feedbackEmail description)
  | .betaAppLocalizations limit, fetchBetaAppLocalizations appId =>
      returning .infos (client.fetchBetaAppLocalizations fuel appId limit)
  | _, createBetaBuildLocalization buildId locale whatsNew =>
      returning .info (client.createBetaBuildLocalization buildId locale whatsNew)
  | _, updateBetaBuildLocalization id whatsNew => returning .info (client.updateBetaBuildLocalization id whatsNew)
  | .betaBuildLocalizations limit, fetchBetaBuildLocalizations buildId =>
      returning .infos (client.fetchBetaBuildLocalizations fuel buildId limit)
  | _, createAccessibilityDeclaration appId deviceFamily =>
      returning .info (client.createAccessibilityDeclaration appId deviceFamily)
  | _, updateAccessibilityDeclaration id answers => returning .info (client.updateAccessibilityDeclaration id answers)
  | _, deleteAccessibilityDeclaration id => returning (fun _ => .done) (client.deleteAccessibilityDeclaration id)
  | .accessibilityDeclarations limit, fetchAccessibilityDeclarations appId =>
      returning .infos (client.fetchAccessibilityDeclarations fuel appId limit)
  | _, createBundleId bundleIdentifier name platform => returning .info (client.createBundleId bundleIdentifier name platform)
  | _, updateBundleId id name => returning (fun _ => .done) (client.updateBundleId id name)
  | _, deleteBundleId id => returning (fun _ => .done) (client.deleteBundleId id)
  | _, fetchBundleIds => returning .infos (client.fetchBundleIds fuel)
  | _, createDevice name platform udid => returning .info (client.createDevice name platform udid)
  | _, updateDevice id name status => returning (fun _ => .done) (client.updateDevice id name status)
  | _, fetchDevices => returning .infos (client.fetchDevices fuel)

end Operation

def appInfoLocalizationDraft (locale name : String) (subtitle : Option String) : Draft appInfoLocalizations.kind where
  members := ("locale", .str locale) :: ("name", .str name) :: insertSome "subtitle" .str subtitle
  value := ⟨some locale, some name, subtitle, none, none, none⟩
  shown := by cases subtitle <;> rfl

def betaAppLocalizationDraft (limit : Nat) (locale : String) (feedbackEmail description : Option String) :
    Draft (betaAppLocalizations limit).kind where
  members := ("locale", .str locale) :: insertSome "feedbackEmail" .str feedbackEmail ++ insertSome "description" .str description
  value := ⟨some locale, feedbackEmail, description⟩
  shown := by cases feedbackEmail <;> cases description <;> rfl

def betaBuildLocalizationDraft (limit : Nat) (locale whatsNew : String) : Draft (betaBuildLocalizations limit).kind where
  members := [("whatsNew", .str whatsNew), ("locale", .str locale)]
  value := ⟨some locale, some whatsNew⟩
  shown := rfl

def accessibilityDeclarationDraft (limit : Int) (deviceFamily : String) : Draft (accessibilityDeclarations limit).kind where
  members := [("deviceFamily", .str deviceFamily)]
  value := ⟨some deviceFamily, none, none, none, none, none, none, none, none, none, none⟩
  shown := rfl

def bundleIdDraft (bundleIdentifier name platform : String) : Draft bundleIds.kind where
  members := [("name", .str name), ("platform", .str platform), ("identifier", .str bundleIdentifier)]
  value := ⟨some bundleIdentifier, some name, some platform, none⟩
  shown := rfl

def deviceDraft (name platform udid : String) : Draft devices.kind where
  members := [("name", .str name), ("platform", .str platform), ("udid", .str udid)]
  value := ⟨some name, some udid, some platform, none, none, none, none⟩
  shown := rfl

def appInfoLocalizationRevision (id name : String) (subtitle : Option String) : Revision appInfoLocalizations.kind where
  members := ("name", .str name) :: insertSome "subtitle" .str subtitle
  change old := { old with name := some name, subtitle := subtitle.or old.subtitle }
  shown := PartialUpdate.replaces (.updateAppInfoLocalization id name subtitle)

def appInfoLocalizationPrivacyRevision (id : String) (privacyPolicyUrl privacyChoicesUrl privacyPolicyText : Option String) :
    Revision appInfoLocalizations.kind where
  members := insertSome "privacyPolicyUrl" .str privacyPolicyUrl ++ insertSome "privacyChoicesUrl" .str privacyChoicesUrl ++
    insertSome "privacyPolicyText" .str privacyPolicyText
  change old :=
    { old with
      privacyPolicyUrl := privacyPolicyUrl.or old.privacyPolicyUrl
      privacyChoicesUrl := privacyChoicesUrl.or old.privacyChoicesUrl
      privacyPolicyText := privacyPolicyText.or old.privacyPolicyText }
  shown := PartialUpdate.replaces (.updateAppInfoLocalizationPrivacy id privacyPolicyUrl privacyChoicesUrl privacyPolicyText)

def accessibilityDeclarationRevision (limit : Int) (id : String) (answers : AccessibilityAnswers) :
    Revision (accessibilityDeclarations limit).kind where
  members := answers.attributes
  change := (PartialUpdate.updateAccessibilityDeclaration id answers).replaced
  shown := PartialUpdate.replaces (.updateAccessibilityDeclaration id answers)

def deviceRevision (id : String) (name status : Option String) : Revision devices.kind where
  members := insertSome "name" .str name ++ insertSome "status" .str status
  change old := { old with name := name.or old.name, status := status.or old.status }
  shown := PartialUpdate.replaces (.updateDevice id name status)

def betaAppLocalizationRevision (limit : Nat) (feedbackEmail description : Option String) :
    Revision (betaAppLocalizations limit).kind where
  members := insertSome "feedbackEmail" .str feedbackEmail ++ insertSome "description" .str description
  change old := { old with feedbackEmail := feedbackEmail.or old.feedbackEmail, description := description.or old.description }
  shown := by
    intro stored old shown
    apply struct_updates _ stored _ _ _ old shown
    apply updates_kept
    intro locale
    apply updates_text feedbackEmail
    intro oldFeedbackEmail
    apply updates_text description
    intro oldDescription
    · exact updates_pure _ _ rfl
    all_goals simp [occurrences_append]

def betaBuildLocalizationRevision (limit : Nat) (whatsNew : String) : Revision (betaBuildLocalizations limit).kind where
  members := [("whatsNew", .str whatsNew)]
  change old := { old with whatsNew := some whatsNew }
  shown := by
    intro stored old shown
    apply struct_updates _ stored _ _ _ old shown
    apply updates_kept
    intro locale
    apply updates_text (some whatsNew)
    intro oldWhatsNew
    · exact updates_pure _ _ rfl
    all_goals simp

def bundleIdRevision (name : String) : Revision bundleIds.kind where
  members := [("name", .str name)]
  change old := { old with name := some name }
  shown := by
    intro stored old shown
    apply struct_updates _ stored _ _ _ old shown
    apply updates_kept
    intro identifier
    apply updates_text (some name)
    intro oldName
    apply updates_kept
    intro platform
    apply updates_kept
    intro seedId
    · exact updates_pure _ _ rfl
    all_goals simp

namespace Operation

variable (client : AppStoreClient) (fuel : Nat)

def command : {collection : Collection} → Operation collection → Command collection.kind
  | _, createAppInfoLocalization appInfoId locale name subtitle =>
      .create appInfoId (appInfoLocalizationDraft locale name subtitle)
  | _, updateAppInfoLocalization id name subtitle => .update id (appInfoLocalizationRevision id name subtitle)
  | _, updateAppInfoLocalizationPrivacy id privacyPolicyUrl privacyChoicesUrl privacyPolicyText =>
      .update id (appInfoLocalizationPrivacyRevision id privacyPolicyUrl privacyChoicesUrl privacyPolicyText)
  | _, deleteAppInfoLocalization id => .delete id
  | _, fetchAppInfoLocalizations appInfoId => .list appInfoId
  | _, createBetaAppLocalization appId locale feedbackEmail description =>
      .create appId (betaAppLocalizationDraft _ locale feedbackEmail description)
  | _, updateBetaAppLocalization id feedbackEmail description =>
      .update id (betaAppLocalizationRevision _ feedbackEmail description)
  | _, fetchBetaAppLocalizations appId => .list appId
  | _, createBetaBuildLocalization buildId locale whatsNew => .create buildId (betaBuildLocalizationDraft _ locale whatsNew)
  | _, updateBetaBuildLocalization id whatsNew => .update id (betaBuildLocalizationRevision _ whatsNew)
  | _, fetchBetaBuildLocalizations buildId => .list buildId
  | _, createAccessibilityDeclaration appId deviceFamily => .create appId (accessibilityDeclarationDraft _ deviceFamily)
  | _, updateAccessibilityDeclaration id answers => .update id (accessibilityDeclarationRevision _ id answers)
  | _, deleteAccessibilityDeclaration id => .delete id
  | _, fetchAccessibilityDeclarations appId => .list appId
  | _, createBundleId bundleIdentifier name platform => .create () (bundleIdDraft bundleIdentifier name platform)
  | _, updateBundleId id name => .revise id (bundleIdRevision name)
  | _, deleteBundleId id => .delete id
  | _, fetchBundleIds => .list ()
  | _, createDevice name platform udid => .create () (deviceDraft name platform udid)
  | _, updateDevice id name status => .revise id (deviceRevision id name status)
  | _, fetchDevices => .list ()

theorem returning_patch {ι : Type} (url : String) (body : Json) :
    returning (fun _ => (Returned.done : Returned ι)) (bearerToken >>= fun token => patchNoContent url token body) =
      exchangeNoContent (.patch url body) >>= fun _ => pure .done := by
  rw [token_then_patch]
  rfl

theorem run_command {collection : Collection} (operation : Operation collection) :
    operation.run client fuel = operation.command.run client fuel := by
  cases operation with
  | updateBundleId id name => exact returning_patch _ _
  | updateDevice id name status => exact returning_patch _ _
  | _ => rfl

end Operation

end Collection

-- A session on a collection: every operation answers, and leaves the collection,
-- as if it were a list of rows.
theorem sessions_keep_rows (client : AppStoreClient) (collection : Collection) (server : ResourceServer client collection.kind)
    (operations : List (Collection.Operation collection)) (held : Holdings collection.Owner)
    (sound : ResourceServer.Sound collection.kind held) (fuel : Nat) (enough : held.length + operations.length ≤ fuel)
    (speaks : server.SpeaksAll (operations.map Collection.Operation.command) held) :
    ∃ results final,
      runAll server.handler (operations.map fun operation => operation.run client fuel) held = (results.map some, final) ∧
        Performs (operations.map Collection.Operation.command) (held.map (StoredResource.row collection.kind)) results
          (final.map (StoredResource.row collection.kind)) ∧
        ResourceServer.Sound collection.kind final := by
  have performed := server.session_performs (operations.map Collection.Operation.command) held sound fuel
    (by rwa [List.length_map]) speaks
  rw [List.map_map] at performed
  simpa only [Function.comp_def, ← Collection.Operation.run_command] using performed

theorem length_le_join (ids : List String) (id : String) (listed : id ∈ ids) : id.length ≤ (String.join ids).length := by
  induction ids with
  | nil => cases listed
  | cons first rest ih =>
      rw [String.join_cons, String.length_append]
      rcases List.mem_cons.mp listed with rfl | later
      · omega
      · have := ih later
        omega

-- A listing's address carries a mark for each row on the pages before it.
def marked (listed : String) (offset : Nat) : String := listed ++ String.ofList (List.replicate offset '+')

def isMark (char : Char) : Bool := char = '+'

def marks (url : String) : Nat := (url.toList.reverse.takeWhile isMark).length

def unmarked (url : String) : String := String.ofList (url.toList.reverse.dropWhile isMark).reverse

theorem marked_reversed (listed : String) (offset : Nat) :
    (marked listed offset).toList.reverse = List.replicate offset '+' ++ listed.toList.reverse := by
  rw [marked, String.toList_append, String.toList_ofList, List.reverse_append, List.reverse_replicate]

theorem marked_read (listed : String) (offset : Nat) (last : Char) (ended : listed.toList.getLast? = some last)
    (plain : last ≠ '+') : marks (marked listed offset) = offset ∧ unmarked (marked listed offset) = listed := by
  obtain ⟨front, split⟩ := List.getLast?_eq_some_iff.mp ended
  have all : ∀ char ∈ List.replicate offset '+', isMark char = true := fun char inside =>
    decide_eq_true (List.eq_of_mem_replicate inside)
  have reversed : listed.toList.reverse = last :: front.reverse := by rw [split, List.reverse_concat]
  have stops : ¬isMark last = true := by rwa [isMark, decide_eq_true_iff]
  constructor
  · rw [marks, marked_reversed, List.takeWhile_append_of_pos all, reversed, List.takeWhile_cons_of_neg stops, List.append_nil,
      List.length_replicate]
  · rw [unmarked, marked_reversed, List.dropWhile_append_of_pos all, reversed, List.dropWhile_cons_of_neg stops, ← reversed,
      List.reverse_reverse, String.ofList_toList]

-- A collection in pages of one row each, whose listings name their owner.
def ResourceServer.marking {Owner Attributes Info : Type} (client : AppStoreClient) (kind : ResourceKind Owner Attributes Info)
    (ownerAt : String → Option Owner) (read : ∀ owner, ownerAt (kind.listUrl client owner) = some owner) (last : Char)
    (plain : last ≠ '+') (ended : ∀ owner, (kind.listUrl client owner).toList.getLast? = some last) : ResourceServer client kind where
  fresh held := String.join (held.map StoredResource.id) ++ "B"
  unused := by
    intro held inside
    have bound := length_le_join _ _ inside
    rw [String.length_append] at bound
    have : "B".length = 1 := rfl
    omega
  size := 1
  positive := by decide
  cursor owner offset := marked (kind.listUrl client owner) offset
  start _ := String.append_empty
  visible owner offset := by
    intro empty
    have marks := (marked_read _ offset last (ended owner) plain).2
    rw [empty] at marks
    have ends := ended owner
    rw [← marks] at ends
    cases ends
  route url := (ownerAt (unmarked url)).map fun owner => (owner, marks url)
  routed owner offset := by
    obtain ⟨counted, listed⟩ := marked_read _ offset last (ended owner) plain
    rw [listed, read, Option.map_some, counted]

def unowned : String → Option Unit := fun _ => some ()

theorem zero_is_no_mark : '0' ≠ '+' := by decide

def ownerBetween (before after : String) (url : String) : Option String :=
  some (String.ofList ((url.toList.drop before.length).take (url.length - before.length - after.length)))

theorem owner_between (before owner after : String) : ownerBetween before after (before ++ owner ++ after) = some owner := by
  have length : (before ++ owner ++ after).length - before.length - after.length = owner.toList.length := by
    rw [String.length_append, String.length_append, String.length_toList]
    omega
  rw [ownerBetween, length, String.toList_append, String.toList_append, List.append_assoc, List.drop_left' String.length_toList,
    List.take_left' rfl, String.ofList_toList]

def registered (name : String) : StoredResource Unit :=
  ⟨"B", (), overwrite (Collection.bundleIdDraft "com.app" "App" "IOS").members [("name", .str name)]⟩

def lastPage {Owner Attributes Info : Type} (kind : ResourceKind Owner Attributes Info) (rows : List (StoredResource Owner)) : Json :=
  .obj [("data", .arr (rows.map (StoredResource.json kind))), ("links", .obj [("next", .null)])]

def bundleClient : AppStoreClient :=
  ⟨"https://host", .reading [StoredResource.documentJson Collection.bundleIds.kind
      ⟨"B", (), (Collection.bundleIdDraft "com.app" "App" "IOS").members⟩,
    lastPage Collection.bundleIds.kind [registered "Renamed"], lastPage Collection.bundleIds.kind []]⟩

def bundleServer : ResourceServer bundleClient Collection.bundleIds.kind :=
  .marking bundleClient _ unowned (fun _ => rfl) '0' zero_is_no_mark fun owner => by cases owner; decide

theorem up_to_one {P : Nat → Prop} (first : P 0) (second : P 1) (offset : Nat) (small : offset ≤ 1) : P offset := by
  have window : offset = 0 ∨ offset = 1 := by omega
  rcases window with rfl | rfl
  · exact first
  · exact second

def bundleSession : List (Collection.Operation .bundleIds) :=
  [.createBundleId "com.app" "App" "IOS", .updateBundleId "B" "Renamed", .fetchBundleIds, .deleteBundleId "B",
    .deleteBundleId "B", .fetchBundleIds]

set_option maxRecDepth 20000 in
theorem bundle_session_speaks : bundleServer.SpeaksAll (bundleSession.map Collection.Operation.command) [] := by
  refine ⟨rfl, trivial, ?_, trivial, trivial, ?_, trivial⟩
  · exact up_to_one rfl rfl
  · intro offset small
    cases Nat.le_zero.mp small
    rfl

def introduction (id appId : String) (members : List (String × Json)) : StoredResource String :=
  ⟨id, appId, overwrite (Collection.betaAppLocalizationDraft 50 "en-US" none none).members members⟩

def introductionClient : AppStoreClient :=
  ⟨"https://host", .reading ([introduction "B" "A1" [], introduction "BB" "A2" [],
      introduction "B" "A1" [("description", .str "Try it")]].map
        (StoredResource.documentJson (Collection.betaAppLocalizations 50).kind) ++
    [lastPage (Collection.betaAppLocalizations 50).kind [introduction "B" "A1" [("description", .str "Try it")]],
      lastPage (Collection.betaAppLocalizations 50).kind [introduction "BB" "A2" []],
      lastPage (Collection.betaAppLocalizations 50).kind []])⟩

theorem introductions_at (appId : String) : (Collection.betaAppLocalizations 50).kind.listUrl introductionClient appId =
    "https://host/v1/apps/" ++ appId ++ "/betaAppLocalizations?limit=50" := by
  have path : "https://host" ++ "/v1/apps/" = "https://host/v1/apps/" := rfl
  have query : "/betaAppLocalizations?limit=" ++ toString 50 = "/betaAppLocalizations?limit=50" := rfl
  rw [← path, ← query, ← String.append_assoc]
  rfl

def introductionServer : ResourceServer introductionClient (Collection.betaAppLocalizations 50).kind :=
  .marking introductionClient _ (ownerBetween "https://host/v1/apps/" "/betaAppLocalizations?limit=50")
    (fun appId => by rw [introductions_at, owner_between]) '0' zero_is_no_mark
    fun appId => by
      rw [introductions_at, String.toList_append, List.getLast?_append]
      rfl

def introductionSession : List (Collection.Operation (.betaAppLocalizations 50)) :=
  [.createBetaAppLocalization "A1" "en-US" none none, .createBetaAppLocalization "A2" "en-US" none none,
    .updateBetaAppLocalization "B" none (some "Try it"), .fetchBetaAppLocalizations "A1", .fetchBetaAppLocalizations "A2"]

set_option maxRecDepth 20000 in
theorem introduction_session_speaks :
    introductionServer.SpeaksAll (introductionSession.map Collection.Operation.command) [] := by
  refine ⟨rfl, rfl, ?_, ?_, ?_, trivial⟩
  · intro stored inside same
    change stored ∈ [introduction "B" "A1" [], introduction "BB" "A2" []] at inside
    rcases List.mem_cons.mp inside with rfl | later
    · rfl
    · rw [List.mem_singleton.mp later] at same
      exact absurd same (by decide)
  · exact up_to_one rfl rfl
  · exact up_to_one rfl rfl

set_option maxRecDepth 20000 in
theorem renamed_then_deleted :
    ((runAll bundleServer.handler (bundleSession.map fun operation => operation.run bundleClient 6) []).1 =
        [some (.ok (.info ⟨"B", "com.app", "App", "IOS", none⟩)), some (.ok .done),
          some (.ok (.infos [⟨"B", "com.app", "Renamed", "IOS", none⟩])), some (.ok .done), some (.error (.http 404 "")),
          some (.ok (.infos []))] ∧
      ∃ results final,
        runAll bundleServer.handler (bundleSession.map fun operation => operation.run bundleClient 6) [] =
            (results.map some, final) ∧
          Performs (bundleSession.map Collection.Operation.command) [] results
            (final.map (StoredResource.row Collection.bundleIds.kind)) ∧
          ResourceServer.Sound Collection.bundleIds.kind final) ∧
    (runAll introductionServer.handler (introductionSession.map fun operation => operation.run introductionClient 5) []).1 =
        [some (.ok (.info ⟨"B", "en-US", none, none⟩)), some (.ok (.info ⟨"BB", "en-US", none, none⟩)),
          some (.ok (.info ⟨"B", "en-US", none, some "Try it"⟩)),
          some (.ok (.infos [⟨"B", "en-US", none, some "Try it"⟩])), some (.ok (.infos [⟨"BB", "en-US", none, none⟩]))] ∧
      ∃ results final,
        runAll introductionServer.handler (introductionSession.map fun operation => operation.run introductionClient 5) [] =
            (results.map some, final) ∧
          Performs (introductionSession.map Collection.Operation.command) [] results
            (final.map (StoredResource.row (Collection.betaAppLocalizations 50).kind)) ∧
          ResourceServer.Sound (Collection.betaAppLocalizations 50).kind final :=
  ⟨⟨rfl, sessions_keep_rows bundleClient .bundleIds bundleServer bundleSession [] ⟨List.nodup_nil, nofun⟩ 6 (by decide)
      bundle_session_speaks⟩,
    rfl, sessions_keep_rows introductionClient (.betaAppLocalizations 50) introductionServer introductionSession []
      ⟨List.nodup_nil, nofun⟩ 5 (by decide) introduction_session_speaks⟩

end StackConnect
