import StackConnect.AppStore.Builds
import StackConnect.AppStore.Calls

set_option autoImplicit false

namespace StackConnect

open Interaction Serde Rust

variable {ν : Type}

-- The JSON:API type and id of an included resource; an unknown type has neither.
def BuildIncluded.key : BuildIncluded → Option (String × String)
  | .preReleaseVersions resource => some ("preReleaseVersions", resource.id)
  | .buildBetaDetails resource => some ("buildBetaDetails", resource.id)
  | .betaAppReviewSubmissions resource => some ("betaAppReviewSubmissions", resource.id)
  | .betaGroups resource => some ("betaGroups", resource.id)
  | .betaBuildLocalizations resource => some ("betaBuildLocalizations", resource.id)
  | .other => none

def DistinctKeys (included : List BuildIncluded) : Prop := (included.filterMap BuildIncluded.key).Nodup

-- One of the types that are indexed: what an included resource of it adds to
-- its map, and that nothing else does.
structure IncludedKind (ν : Type) where
  type : String
  entry : BuildIncluded → Option (String × ν)
  index : IncludedIndex → HashMap String ν
  keyed : ∀ item pair, entry item = some pair → item.key = some (type, pair.1)
  empty : index .default = ∅
  added : ∀ state item, index (state.add item) =
    (entry item).elim (index state) fun pair => Finmap.insert pair.1 pair.2 (index state)

namespace IncludedKind

def preReleaseVersions : IncludedKind PreReleaseVersionAttributes where
  type := "preReleaseVersions"
  entry
    | .preReleaseVersions resource => some (resource.id, resource.attributes)
    | _ => none
  index := IncludedIndex.preReleaseVersions
  keyed item pair given := by cases item <;> cases given; rfl
  empty := rfl
  added state item := by cases item <;> rfl

def buildBetaDetails : IncludedKind BuildBetaDetailAttributes where
  type := "buildBetaDetails"
  entry
    | .buildBetaDetails resource => some (resource.id, resource.attributes)
    | _ => none
  index := IncludedIndex.buildBetaDetails
  keyed item pair given := by cases item <;> cases given; rfl
  empty := rfl
  added state item := by cases item <;> rfl

def betaAppReviewSubmissions : IncludedKind BetaAppReviewSubmissionAttributes where
  type := "betaAppReviewSubmissions"
  entry
    | .betaAppReviewSubmissions resource => some (resource.id, resource.attributes)
    | _ => none
  index := IncludedIndex.betaAppReviewSubmissions
  keyed item pair given := by cases item <;> cases given; rfl
  empty := rfl
  added state item := by cases item <;> rfl

def betaGroups : IncludedKind BetaGroupResource where
  type := "betaGroups"
  entry
    | .betaGroups resource => some (resource.id, resource)
    | _ => none
  index := IncludedIndex.betaGroups
  keyed item pair given := by cases item <;> cases given; rfl
  empty := rfl
  added state item := by cases item <;> rfl

def betaBuildLocalizations : IncludedKind BetaBuildLocalizationResource where
  type := "betaBuildLocalizations"
  entry
    | .betaBuildLocalizations resource => some (resource.id, resource)
    | _ => none
  index := IncludedIndex.betaBuildLocalizations
  keyed item pair given := by cases item <;> cases given; rfl
  empty := rfl
  added state item := by cases item <;> rfl

variable (kind : IncludedKind ν) (included : List BuildIncluded)

theorem index_collect : kind.index (.fromIncluded included) = HashMap.collect (included.filterMap kind.entry) := by
  rw [IncludedIndex.fromIncluded, fold_project kind.index IncludedIndex.add kind.entry kind.added, kind.empty]
  rfl

theorem mem_keys (id : String) (listed : id ∈ (included.filterMap kind.entry).map Prod.fst) :
    (kind.type, id) ∈ included.filterMap BuildIncluded.key := by
  obtain ⟨pair, given, rfl⟩ := List.mem_map.mp listed
  obtain ⟨item, inside, found⟩ := List.mem_filterMap.mp given
  exact List.mem_filterMap.mpr ⟨item, inside, kind.keyed item pair found⟩

theorem entries_distinct (distinct : DistinctKeys included) : ((included.filterMap kind.entry).map Prod.fst).Nodup := by
  unfold DistinctKeys at distinct
  induction included with
  | nil => exact List.nodup_nil
  | cons item rest ih =>
      cases found : kind.entry item with
      | none =>
          rw [List.filterMap_cons_none found]
          apply ih
          cases given : item.key with
          | none => rwa [List.filterMap_cons_none given] at distinct
          | some key =>
              rw [List.filterMap_cons_some given, List.nodup_cons] at distinct
              exact distinct.2
      | some pair =>
          rw [List.filterMap_cons_some (kind.keyed item pair found), List.nodup_cons] at distinct
          rw [List.filterMap_cons_some found, List.map_cons, List.nodup_cons]
          exact ⟨fun again => distinct.1 (kind.mem_keys rest pair.1 again), ih distinct.2⟩

def Carries (id : String) (value : ν) : Prop := ∃ item ∈ included, kind.entry item = some (id, value)

theorem index_get (distinct : DistinctKeys included) (id : String) (value : ν) :
    (kind.index (.fromIncluded included)).get id = some value ↔ kind.Carries included id value := by
  rw [index_collect, collect_get _ (kind.entries_distinct included distinct)]
  exact List.mem_filterMap

theorem index_perm (distinct : DistinctKeys included) (permuted : List BuildIncluded) (same : included.Perm permuted) :
    kind.index (.fromIncluded included) = kind.index (.fromIncluded permuted) := by
  rw [index_collect, index_collect]
  exact collect_perm _ _ (kind.entries_distinct included distinct) (same.filterMap kind.entry)

def Resolves (relationship : ToOneRelationship) (found : Option ν) : Prop :=
  ∀ value, found = some value ↔ ∃ related, relationship.data = some related ∧ kind.Carries included related.id value

inductive Lists : List ResourceIdentifier → List ν → Prop
  | nil : Lists [] []
  | found (related : ResourceIdentifier) (value : ν) (rest : List ResourceIdentifier) (values : List ν)
      (held : kind.Carries included related.id value) (later : Lists rest values) :
      Lists (related :: rest) (value :: values)
  | missing (related : ResourceIdentifier) (rest : List ResourceIdentifier) (values : List ν)
      (absent : ∀ value, ¬ kind.Carries included related.id value) (later : Lists rest values) :
      Lists (related :: rest) values

theorem resolves_index (distinct : DistinctKeys included) (relationship : ToOneRelationship) :
    kind.Resolves included relationship
      (relationship.data.bind fun related => (kind.index (.fromIncluded included)).get related.id) := by
  intro value
  rw [Option.bind_eq_some_iff]
  constructor
  · rintro ⟨related, linked, held⟩
    exact ⟨related, linked, (kind.index_get included distinct related.id value).mp held⟩
  · rintro ⟨related, linked, held⟩
    exact ⟨related, linked, (kind.index_get included distinct related.id value).mpr held⟩

theorem lists_index (distinct : DistinctKeys included) (entries : List ResourceIdentifier) :
    kind.Lists included entries (entries.filterMap fun related => (kind.index (.fromIncluded included)).get related.id) := by
  induction entries with
  | nil => exact .nil
  | cons related rest ih =>
      cases held : (kind.index (.fromIncluded included)).get related.id with
      | none =>
          rw [List.filterMap_cons, held]
          apply Lists.missing related rest _ _ ih
          intro value carried
          rw [(kind.index_get included distinct related.id value).mpr carried] at held
          cases held
      | some value =>
          rw [List.filterMap_cons, held]
          exact .found related value rest _ ((kind.index_get included distinct related.id value).mp held) ih

end IncludedKind

theorem from_included_perm (included permuted : List BuildIncluded) (distinct : DistinctKeys included)
    (same : included.Perm permuted) : IncludedIndex.fromIncluded included = .fromIncluded permuted := by
  have versions := IncludedKind.preReleaseVersions.index_perm included distinct permuted same
  have details := IncludedKind.buildBetaDetails.index_perm included distinct permuted same
  have submissions := IncludedKind.betaAppReviewSubmissions.index_perm included distinct permuted same
  have groups := IncludedKind.betaGroups.index_perm included distinct permuted same
  have localizations := IncludedKind.betaBuildLocalizations.index_perm included distinct permuted same
  have parts : ∀ index : IncludedIndex, index = ⟨index.preReleaseVersions, index.buildBetaDetails,
      index.betaAppReviewSubmissions, index.betaGroups, index.betaBuildLocalizations⟩ := fun _ => rfl
  rw [parts (.fromIncluded included), parts (.fromIncluded permuted)]
  congr 1

structure Enriched (included : List BuildIncluded) (relationships : BuildRelationships) (info : BuildInfo) : Prop where
  version : ∃ found, IncludedKind.preReleaseVersions.Resolves included relationships.preReleaseVersion found ∧
    info.marketingVersion = found.bind PreReleaseVersionAttributes.version ∧
    info.platform = found.bind PreReleaseVersionAttributes.platform
  betaDetail : ∃ found, IncludedKind.buildBetaDetails.Resolves included relationships.buildBetaDetail found ∧
    info.externalBuildState = found.bind BuildBetaDetailAttributes.externalBuildState ∧
    info.internalBuildState = found.bind BuildBetaDetailAttributes.internalBuildState ∧
    info.autoNotifyEnabled = found.bind BuildBetaDetailAttributes.autoNotifyEnabled
  submission : ∃ found, IncludedKind.betaAppReviewSubmissions.Resolves included relationships.betaAppReviewSubmission found ∧
    info.betaReviewState = found.bind BetaAppReviewSubmissionAttributes.betaReviewState ∧
    info.submittedDate = found.bind BetaAppReviewSubmissionAttributes.submittedDate

structure Detailed (included : List BuildIncluded) (relationships : BuildRelationships) (detail : BuildDetailInfo) : Prop where
  build : Enriched included relationships detail.build
  groups : ∃ found, IncludedKind.betaGroups.Lists included relationships.betaGroups.data found ∧
    detail.betaGroups = found.map (intoBetaGroupInfo "")
  localizations : ∃ found, IncludedKind.betaBuildLocalizations.Lists included relationships.betaBuildLocalizations.data found ∧
    detail.localizations = found.map intoBetaBuildLocalizationInfo

theorem build_info_enriched (appId : String) (included : List BuildIncluded) (resource : BuildResource)
    (distinct : DistinctKeys included) :
    Enriched included resource.relationships (buildInfoFrom appId (.fromIncluded included) resource) where
  version := ⟨_, IncludedKind.preReleaseVersions.resolves_index included distinct _, rfl, rfl⟩
  betaDetail := ⟨_, IncludedKind.buildBetaDetails.resolves_index included distinct _, rfl, rfl, rfl⟩
  submission := ⟨_, IncludedKind.betaAppReviewSubmissions.resolves_index included distinct _, rfl, rfl⟩

theorem build_detail_detailed (included : List BuildIncluded) (resource : BuildResource) (distinct : DistinctKeys included) :
    Detailed included resource.relationships (buildDetailFrom (.fromIncluded included) resource) where
  build := build_info_enriched "" included resource distinct
  groups := ⟨_, IncludedKind.betaGroups.lists_index included distinct _, rfl⟩
  localizations := ⟨_, IncludedKind.betaBuildLocalizations.lists_index included distinct _, rfl⟩

def BuildDocument.detail (document : BuildDocument) : Except StackError BuildDetailInfo :=
  match document.data with
  | none => .error (.decode "build detail response: missing data")
  | some resource => .ok (buildDetailFrom (.fromIncluded document.included) resource)

def AppStoreClient.buildDetailRequest (client : AppStoreClient) (buildId : String) : Request :=
  .get (client.buildUrl buildId ++ "?include=preReleaseVersion,buildBetaDetail," ++
    "betaAppReviewSubmission,betaGroups,betaBuildLocalizations" ++ "&limit[betaBuildLocalizations]=50&limit[betaGroups]=50")

theorem ends_fetch_build_detail (client : AppStoreClient) (buildId : String) :
    Ends (client.fetchBuildDetail buildId) fun trace result => ∃ raw, Called (client.buildDetailRequest buildId) trace raw ∧
      result = raw >>= accepted >>= fun body =>
        client.parse "BuildDocument" "build detail response" BuildDocument.decode body >>= BuildDocument.detail := by
  have judged : client.fetchBuildDetail buildId = exchange (client.buildDetailRequest buildId) >>= fun body =>
      .done (client.parse "BuildDocument" "build detail response" BuildDocument.decode body >>= BuildDocument.detail) := by
    rw [AppStoreClient.fetchBuildDetail, getPage]
    congr 1
    funext body
    rw [← Prog.done_bind_done]
    congr 1
    funext document
    rw [BuildDocument.detail]
    cases document.data <;> rfl
  rw [judged]
  exact ends_exchange_judged _ _

theorem exchanges_called {request sent : Request} {trace : Trace} {raw : Except StackError (Nat × String)}
    {response : Nat × String} (called : Called request trace raw) (answered : (sent, .ok response) ∈ exchanges trace) :
    raw = .ok response := by
  cases called with
  | unsigned message => simp [exchanges] at answered
  | broken token message => simp [exchanges] at answered
  | answered token reply =>
      simp only [exchanges, List.filterMap_cons, List.filterMap_nil, List.mem_singleton, Prod.mk.injEq, Except.ok.injEq] at answered
      rw [answered.2]

instance (included : List BuildIncluded) : Decidable (DistinctKeys included) :=
  inferInstanceAs (Decidable (List.Nodup _))

def sharedIdIncluded : List BuildIncluded :=
  [.betaGroups ⟨"7", { BetaGroupAttributes.default with name := some "QA" }, ⟨⟨none⟩⟩⟩, .other,
    .preReleaseVersions ⟨"7", some "1.2", some "IOS"⟩, .buildBetaDetails ⟨"7", none, none, some true⟩]

def sharedIdBuild : BuildResource :=
  ⟨"B1", .default, ⟨⟨some ⟨"7"⟩⟩, ⟨some ⟨"8"⟩⟩, ⟨none⟩, ⟨[⟨"7"⟩, ⟨"9"⟩]⟩, ⟨[]⟩⟩⟩

def sharedIdDocument : Json :=
  .obj [("data", .obj [("id", .str "B1"), ("relationships", .obj
      [("preReleaseVersion", linkTo "preReleaseVersions" "7"), ("buildBetaDetail", linkTo "buildBetaDetails" "8"),
        ("betaGroups", linkToMany "betaGroups" ["7", "9"])])]),
    ("included", .arr [
      .obj [("type", .str "betaGroups"), ("id", .str "7"), ("attributes", .obj [("name", .str "QA")])],
      .obj [("type", .str "apps"), ("id", .str "7")],
      .obj [("type", .str "preReleaseVersions"), ("id", .str "7"),
        ("attributes", .obj [("version", .str "1.2"), ("platform", .str "IOS")])],
      .obj [("type", .str "buildBetaDetails"), ("id", .str "7"), ("attributes", .obj [("autoNotifyEnabled", .bool true)])]])]

def sharedIdClient : AppStoreClient := .withBaseUrl defaultBaseUrl (.reading [sharedIdDocument])

def sharedIdReply : List ((Method × String) × (Nat × String)) :=
  [((.get, (sharedIdClient.buildDetailRequest "B1").url), (200, sharedIdDocument.compact))]

end StackConnect
