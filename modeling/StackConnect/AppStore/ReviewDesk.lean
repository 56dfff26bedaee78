import StackConnect.AppStore.Discard
import StackConnect.AppStore.Operations
import StackConnect.AppStore.ResourceStore
import StackConnect.AppStore.SubmissionStore
import StackConnect.Rust.UrlTarget

set_option autoImplicit false

namespace StackConnect

open Interaction Serde Rust

-- A review submission as App Store Connect keeps it, with the app it belongs to.
-- Each item has an id of its own and names the version that is to be reviewed.
structure Filing where
  id : String
  app : String
  platform : Option String
  state : String
  items : List (String × String)
deriving DecidableEq

abbrev Desk := List Filing

def draftState : String := "READY_FOR_REVIEW"
def canceledState : String := "CANCELING"
def sentStates : List String := [submittedState, "IN_REVIEW", "UNRESOLVED_ISSUES"]

namespace Filing

def isDraft (filing : Filing) : Bool := filing.state = draftState

def isSent (filing : Filing) : Bool := filing.state ∈ sentStates

def isOpen (filing : Filing) : Bool := filing.isDraft || filing.isSent

-- Only a draft with an item can be sent to review.
def isFilled (filing : Filing) : Bool := filing.isDraft && !filing.items.isEmpty

def belongs (appId : String) (filing : Filing) : Bool := filing.app = appId

def openFor (appId : String) (filing : Filing) : Bool := filing.belongs appId && filing.isOpen

def draftFor (appId : String) (platform : Option String) (filing : Filing) : Bool :=
  filing.belongs appId && filing.isDraft && platform.all fun name => filing.platform = some name

def reviewedFor (appId : String) (filing : Filing) : Bool := filing.belongs appId && filing.state ∈ [submittedState, "IN_REVIEW"]

-- What is left of a submission that is withdrawn: one that was sent is canceled,
-- a draft loses its items and becomes what drafts without items become, and an
-- empty draft cannot be removed.
def withdrawn (emptied : Option String) (filing : Filing) : Option Filing :=
  if filing.isSent then some { filing with state := canceledState }
  else if filing.isFilled then emptied.map fun state => { filing with state := state, items := [] }
  else some filing

def lingers (emptied : Option String) (filing : Filing) : Bool := filing.isDraft && (filing.withdrawn emptied).any isDraft

def submitted (filing : Filing) : Filing := { filing with state := submittedState }

def attached (itemId versionId : String) (filing : Filing) : Filing :=
  { filing with items := filing.items ++ [(itemId, versionId)] }

end Filing

namespace Desk

def changed (id : String) (change : Filing → Option Filing) (desk : Desk) : Desk :=
  desk.filterMap fun filing => if filing.id = id then change filing else some filing

def withdrawing (emptied : Option String) (listed : List Filing) (desk : Desk) : Desk :=
  desk.filterMap fun filing => if filing ∈ listed then filing.withdrawn emptied else some filing

def at? (desk : Desk) (id : String) : Option Filing := desk.find? fun filing => filing.id = id

def itemIds (desk : Desk) : List String := desk.flatMap fun filing => filing.items.map Prod.fst

-- A desk whose ids mean nothing else in a URL, and whose submissions have items
-- that fit a page of this size.
structure Sound (size : Nat) (desk : Desk) : Prop where
  distinct : (desk.map Filing.id).Nodup
  plain : ∀ filing ∈ desk, PlainText filing.id
  apart : desk.itemIds.Nodup
  plainItems : ∀ id ∈ desk.itemIds, PlainText id
  fits : ∀ filing ∈ desk, filing.items.length ≤ size

end Desk

inductive ReviewCommand where
  | submitForReview (versionId : String) (platform : Option String)
  | cancelSubmission
  | discardReviewSubmission (id : String)
  | submitReviewSubmission (id : String)
  | cancelReview
  | fetchReviewSubmissions

-- The ids App Store Connect gives out, how many submissions of an app it lets be
-- open, what it makes of a draft that loses its last item (a state in which it is
-- not sent to review, or nothing), the size of its pages and the cursors to them.
structure ReviewRules where
  fresh : Desk → String
  unused : ∀ desk, fresh desk ∉ desk.map Filing.id
  plain : ∀ desk, PlainText (fresh desk)
  freshItem : Desk → String
  unusedItem : ∀ desk, freshItem desk ∉ Desk.itemIds desk
  plainItem : ∀ desk, PlainText (freshItem desk)
  limit : Nat
  emptied : Option String
  unsent : ∀ state, emptied = some state → state ∉ sentStates
  size : Nat
  positive : 0 < size
  cursor : Nat → String
  offset : String → Option Nat
  found : ∀ offset', offset (cursor offset') = some offset'
  plainCursor : ∀ offset', PlainText (cursor offset')

namespace ReviewRules

variable (rules : ReviewRules)

def opened (desk : Desk) (appId : String) (platform : Option String) : Filing := ⟨rules.fresh desk, appId, platform, draftState, []⟩

def submittedWith (desk : Desk) (versionId : String) (filing : Filing) : Filing :=
  (filing.attached (rules.freshItem desk) versionId).submitted

def firstPage (wants : Filing → Bool) (desk : Desk) : List Filing := (desk.filter wants).take rules.size

def reusable (appId : String) (platform : Option String) (desk : Desk) : Option Filing :=
  (rules.firstPage (Filing.draftFor appId platform) desk).find? fun draft => draft.items.isEmpty

def missing : StackError := .http 404 ""
def conflict : StackError := .http 409 ""

end ReviewRules

def Filing.info (appId : String) (filing : Filing) : ReviewSubmission :=
  ⟨filing.id, appId, filing.platform, none, some filing.state, none, none, none, none⟩

def ReviewCommand.perform (rules : ReviewRules) (appId : String) (desk : Desk) :
    ReviewCommand → Except StackError (Returned ReviewSubmission) × Desk
  | submitForReview versionId platform =>
      match rules.reusable appId platform desk with
      | some draft => (.ok .done, desk.changed draft.id fun filing => some (rules.submittedWith desk versionId filing))
      | none =>
          let filing := rules.opened desk appId platform
          if (desk.filter (Filing.openFor appId)).length < rules.limit then
            (.ok .done, desk ++ [rules.submittedWith (desk ++ [filing]) versionId filing])
          else (.error ReviewRules.conflict, desk)
  | cancelSubmission =>
      let listed := rules.firstPage (Filing.openFor appId) desk
      (if listed.any (Filing.lingers rules.emptied) then .error notRemovableError else .ok .done, desk.withdrawing rules.emptied listed)
  | discardReviewSubmission id =>
      (if (desk.at? id).any (Filing.lingers rules.emptied) then .error notRemovableError else .ok .done,
        desk.changed id (Filing.withdrawn rules.emptied))
  | submitReviewSubmission id =>
      match desk.at? id with
      | some filing =>
          if filing.isFilled then (.ok .done, desk.changed id fun filing => some filing.submitted)
          else (.error ReviewRules.conflict, desk)
      | none => (.error ReviewRules.missing, desk)
  | cancelReview =>
      match desk.find? (Filing.reviewedFor appId) with
      | some filing => (.ok .done, desk.changed filing.id (Filing.withdrawn rules.emptied))
      | none => (.ok .done, desk)
  | fetchReviewSubmissions => (.ok (.infos ((desk.filter (Filing.belongs appId)).map (Filing.info appId))), desk)

def Filing.json (filing : Filing) : Json :=
  .obj [("type", .str "reviewSubmissions"), ("id", .str filing.id),
    ("attributes", .obj [("platform", filing.platform.elim .null .str), ("state", .str filing.state)])]

def Filing.documentJson (filing : Filing) : Json := .obj [("data", filing.json)]

def Filing.itemRows (filing : Filing) : List Json := filing.items.map fun item => identifier "reviewSubmissionItems" item.1

def Filing.resource (filing : Filing) : ReviewSubmissionResource :=
  ⟨filing.id, ⟨filing.platform, none, some filing.state⟩, ⟨⟨none⟩, ⟨none⟩⟩⟩

theorem filing_shown (filing : Filing) : ReviewSubmissionResource.decode filing.json = some filing.resource := by
  obtain ⟨id, app, platform, state, items⟩ := filing
  cases platform <;> rfl

theorem filing_document_shown (filing : Filing) : ReviewSubmissionDocument.decode filing.documentJson = some ⟨filing.resource⟩ := by
  rw [ReviewSubmissionDocument.decode, Document.decode, Filing.documentJson, struct_obj, required_bind_members,
    member_of_single "data" _ _ filing.json rfl, filing_shown]
  rfl

theorem filing_created_shown (filing : Filing) : ReviewSubmissionCreateDocument.decode filing.documentJson = some ⟨⟨filing.id⟩⟩ := rfl

-- What a value of the query admits: each of the texts between its commas.
def asksFor (target : UrlTarget) (name : String) (value : Option String) : Bool :=
  (target.get name).all fun asked => value.any fun value => value ∈ splitOn ',' asked

def Filing.admitted (target : UrlTarget) (filing : Filing) : Bool :=
  asksFor target "filter[app]" (some filing.app) && asksFor target "filter[state]" (some filing.state) &&
    asksFor target "filter[platform]" filing.platform

inductive Route where
  | submissions
  | submission (id : String)
  | items (id : String)
  | allItems
  | item (id : String)

def Route.of (target : UrlTarget) : Option Route :=
  match target.path with
  | ["v1", "reviewSubmissions"] => some .submissions
  | ["v1", "reviewSubmissions", id] => some (.submission id)
  | ["v1", "reviewSubmissions", id, "items"] => some (.items id)
  | ["v1", "reviewSubmissionItems"] => some .allItems
  | ["v1", "reviewSubmissionItems", id] => some (.item id)
  | _ => none

theorem route_item (id : String) (query : List (String × String)) :
    Route.of ⟨["v1", "reviewSubmissionItems", id], query⟩ = some (.item id) := rfl

def flagged (id flag : String) (body : Json) : Bool :=
  (body.at ["data", "type"] >>= string) = some "reviewSubmissions" && (body.at ["data", "id"] >>= string) = some id &&
    (body.at ["data", "attributes", flag] >>= boolean) = some true

def platformNamed (body : Json) : Option String := body.at ["data", "attributes", "platform"] >>= string

def appNamed (body : Json) : Option String := relatedId "app" body

namespace ReviewRules

variable (rules : ReviewRules) (client : AppStoreClient)

def following (target : UrlTarget) (offset : Nat) : String :=
  client.baseUrl ++ (target.put "cursor" (rules.cursor (offset + rules.size))).text

def pageFrom (target : UrlTarget) (rows : List Json) (offset : Nat) : Json :=
  .obj [("data", .arr ((rows.drop offset).take rules.size)),
    ("links", .obj [("next", if offset + rules.size < rows.length then .str (rules.following client target offset) else .null)])]

def offsetAsked (target : UrlTarget) : Nat := ((target.get "cursor").bind rules.offset).getD 0

def page (target : UrlTarget) (rows : List Json) : String :=
  client.crates.serdeJson.print (rules.pageFrom client target rows (rules.offsetAsked target))

def showAt (desk : Desk) (target : UrlTarget) : Nat × String :=
  match Route.of target with
  | some .submissions => (200, rules.page client target ((desk.filter (Filing.admitted target)).map Filing.json))
  | some (.submission id) => (desk.at? id).elim (404, "") fun filing => (200, client.crates.serdeJson.print filing.documentJson)
  | some (.items id) => (desk.at? id).elim (404, "") fun filing => (200, rules.page client target filing.itemRows)
  | _ => (404, "")

def create (desk : Desk) (body : Json) : (Nat × String) × Desk :=
  match appNamed body with
  | some appId =>
      if (desk.filter (Filing.openFor appId)).length < rules.limit then
        ((201, client.crates.serdeJson.print (rules.opened desk appId (platformNamed body)).documentJson),
          desk ++ [rules.opened desk appId (platformNamed body)])
      else ((409, ""), desk)
  | none => ((422, ""), desk)

def attach (desk : Desk) (body : Json) : (Nat × String) × Desk :=
  match attachment body with
  | some (id, versionId) =>
      match desk.at? id with
      | some filing =>
          if filing.isDraft then
            ((201, ""), desk.changed id fun filing => some (filing.attached (rules.freshItem desk) versionId))
          else ((409, ""), desk)
      | none => ((404, ""), desk)
  | none => ((422, ""), desk)

-- Only what was sent can be canceled.
def patch (desk : Desk) (filing : Filing) (body : Json) : (Nat × String) × Desk :=
  if flagged filing.id "submitted" body then
    if filing.isFilled then ((200, ""), desk.changed filing.id fun filing => some filing.submitted)
    else ((409, ""), desk)
  else if flagged filing.id "canceled" body then
    if filing.isSent then ((200, ""), desk.changed filing.id fun filing => some { filing with state := canceledState })
    else ((409, ""), desk)
  else ((422, ""), desk)

def withoutItem (itemId : String) (filing : Filing) : Option Filing :=
  match filing.items.filter fun item => item.1 ≠ itemId with
  | [] => rules.emptied.map fun state => { filing with state := state, items := [] }
  | left => some { filing with items := left }

-- An item can be taken out of a draft only.
def remove (desk : Desk) (itemId : String) : (Nat × String) × Desk :=
  match desk.find? fun filing => itemId ∈ filing.items.map Prod.fst with
  | some filing =>
      if filing.isDraft then ((204, ""), desk.changed filing.id (rules.withoutItem itemId))
      else ((409, ""), desk)
  | none => ((404, ""), desk)

def answer (desk : Desk) (method : Method) (target : UrlTarget) (body : Body) : (Nat × String) × Desk :=
  match method, Route.of target, body with
  | .get, _, _ => (rules.showAt client desk target, desk)
  | .post, some .submissions, .json body => rules.create client desk body
  | .post, some .allItems, .json body => rules.attach desk body
  | .patch, some (.submission id), .json body => (desk.at? id).elim ((404, ""), desk) fun filing => patch desk filing body
  | .delete, some (.item id), _ => rules.remove desk id
  | _, _, _ => ((404, ""), desk)

def respond (desk : Desk) (request : Request) : (Nat × String) × Desk :=
  (UrlTarget.behind client.baseUrl request.url).elim ((404, ""), desk) fun target =>
    rules.answer client desk request.method target request.body

def handler : Handler Answer Desk where
  answer
    | .bearerToken, desk => (.ok "token", desk)
    | .send request, desk => (.ok (rules.respond client desk request).1, (rules.respond client desk request).2)
    | .stream _, desk => (.error "not streamed", desk)

end ReviewRules

section Targets

variable (client : AppStoreClient) (appId : String)

def submissionsTarget (query : List (String × String)) : UrlTarget := ⟨["v1", "reviewSubmissions"], query⟩

def draftsTarget (platform : Option String) : UrlTarget :=
  submissionsTarget ([("filter[app]", appId), ("filter[state]", "READY_FOR_REVIEW")] ++
    platform.toList.map fun name => ("filter[platform]", name))

def activeTarget : UrlTarget :=
  submissionsTarget [("filter[app]", appId), ("filter[state]", "READY_FOR_REVIEW,WAITING_FOR_REVIEW,IN_REVIEW,UNRESOLVED_ISSUES")]

def reviewingTarget : UrlTarget := submissionsTarget [("filter[state]", "WAITING_FOR_REVIEW,IN_REVIEW"), ("filter[app]", appId)]

def everyTarget : UrlTarget :=
  submissionsTarget [("filter[app]", appId), ("include", "appStoreVersionForReview,submittedByActor"), ("limit", "50")]

def itemsTarget (id : String) (query : List (String × String)) : UrlTarget := ⟨["v1", "reviewSubmissions", id, "items"], query⟩

theorem behind_target (target : UrlTarget) (spelled : target.Spelled) (url : String) (same : url = client.baseUrl ++ target.text) :
    UrlTarget.behind client.baseUrl url = some target := by
  rw [same, UrlTarget.behind_text _ _ spelled]

theorem submissions_behind : UrlTarget.behind client.baseUrl client.reviewSubmissionsUrl = some (submissionsTarget []) := by
  apply behind_target client _ ⟨by simp [submissionsTarget], by simp [submissionsTarget]⟩
  simp [AppStoreClient.reviewSubmissionsUrl, submissionsTarget, UrlTarget.text, pathText, queryText]

theorem all_items_behind :
    UrlTarget.behind client.baseUrl client.reviewSubmissionItemsUrl = some ⟨["v1", "reviewSubmissionItems"], []⟩ := by
  apply behind_target client _ ⟨by simp, by simp⟩
  simp [AppStoreClient.reviewSubmissionItemsUrl, UrlTarget.text, pathText, queryText]

theorem submission_behind (id : String) (plain : PlainText id) :
    UrlTarget.behind client.baseUrl (client.reviewSubmissionUrl id) = some ⟨["v1", "reviewSubmissions", id], []⟩ := by
  apply behind_target client _ ⟨by simp [plain_marks id plain], by simp⟩
  simp [AppStoreClient.reviewSubmissionUrl, UrlTarget.text, pathText, queryText, ← String.toList_inj]

theorem item_behind (id : String) (plain : PlainText id) :
    UrlTarget.behind client.baseUrl (client.reviewSubmissionItemUrl id) = some ⟨["v1", "reviewSubmissionItems", id], []⟩ := by
  apply behind_target client _ ⟨by simp [plain_marks id plain], by simp⟩
  simp [AppStoreClient.reviewSubmissionItemUrl, UrlTarget.text, pathText, queryText, ← String.toList_inj]

theorem items_behind (id : String) (plain : PlainText id) :
    UrlTarget.behind client.baseUrl (client.submissionItemsUrl id) = some (itemsTarget id []) := by
  apply behind_target client _ ⟨by simp [itemsTarget, plain_marks id plain], by simp [itemsTarget]⟩
  simp [AppStoreClient.submissionItemsUrl, itemsTarget, UrlTarget.text, pathText, queryText, ← String.toList_inj]

theorem included_items_behind (id : String) (plain : PlainText id) :
    UrlTarget.behind client.baseUrl (client.submissionItemsUrl id ++ "?include=appStoreVersion") =
      some (itemsTarget id [("include", "appStoreVersion")]) := by
  apply behind_target client _ ⟨by simp [itemsTarget, plain_marks id plain], by simp [itemsTarget]⟩
  simp [AppStoreClient.submissionItemsUrl, itemsTarget, UrlTarget.text, pathText, queryText, pairText, ← String.toList_inj]

section Listings

variable {appId} (plain : PlainText appId)

include plain

theorem drafts_spelled (platform : Option String) (named : ∀ name ∈ platform, PlainText name) :
    (draftsTarget appId platform).Spelled := by
  refine ⟨by simp [draftsTarget, submissionsTarget], ?_⟩
  cases platform with
  | none => simp [draftsTarget, submissionsTarget, plain_value appId plain]
  | some name => simp [draftsTarget, submissionsTarget, plain_value appId plain, plain_value name (named name rfl)]

theorem active_spelled : (activeTarget appId).Spelled :=
  ⟨by simp [activeTarget, submissionsTarget], by simp [activeTarget, submissionsTarget, plain_value appId plain]⟩

theorem reviewing_spelled : (reviewingTarget appId).Spelled :=
  ⟨by simp [reviewingTarget, submissionsTarget], by simp [reviewingTarget, submissionsTarget, plain_value appId plain]⟩

theorem every_spelled : (everyTarget appId).Spelled :=
  ⟨by simp [everyTarget, submissionsTarget], by simp [everyTarget, submissionsTarget, plain_value appId plain]⟩

theorem drafts_behind (platform : Option String) (named : ∀ name ∈ platform, PlainText name) :
    UrlTarget.behind client.baseUrl (client.readyDraftsUrl appId platform) = some (draftsTarget appId platform) := by
  apply behind_target client _ (drafts_spelled plain platform named)
  cases platform <;> simp [AppStoreClient.readyDraftsUrl, draftsTarget, submissionsTarget, UrlTarget.text, pathText, queryText,
    pairText, ← String.toList_inj]

theorem active_behind : UrlTarget.behind client.baseUrl (client.activeSubmissionsUrl appId) = some (activeTarget appId) := by
  apply behind_target client _ (active_spelled plain)
  simp [AppStoreClient.activeSubmissionsUrl, activeTarget, submissionsTarget, UrlTarget.text, pathText, queryText, pairText,
    ← String.toList_inj]

def reviewingUrl (appId : String) : String :=
  client.baseUrl ++ "/v1/reviewSubmissions?filter[state]=WAITING_FOR_REVIEW,IN_REVIEW&filter[app]=" ++ appId

theorem reviewing_behind : UrlTarget.behind client.baseUrl (reviewingUrl client appId) = some (reviewingTarget appId) := by
  apply behind_target client _ (reviewing_spelled plain)
  simp [reviewingUrl, reviewingTarget, submissionsTarget, UrlTarget.text, pathText, queryText, pairText, ← String.toList_inj]

theorem every_behind :
    UrlTarget.behind client.baseUrl (client.reviewSubmissionsListing appId).first = some (everyTarget appId) := by
  apply behind_target client _ (every_spelled plain)
  simp [AppStoreClient.reviewSubmissionsListing, Listing.including, everyTarget, submissionsTarget, UrlTarget.text, pathText,
    queryText, pairText, ← String.toList_inj]

theorem admitted_of (target : UrlTarget) (states platform : Option String) (app : target.get "filter[app]" = some appId)
    (state : target.get "filter[state]" = states) (asked : target.get "filter[platform]" = platform)
    (named : ∀ name ∈ platform, PlainText name) (filing : Filing) : filing.admitted target =
      (filing.belongs appId && (states.all fun texts => filing.state ∈ splitOn ',' texts) &&
        platform.all fun name => filing.platform = some name) := by
  have same : platform.all (fun name => filing.platform.any fun value => value ∈ splitOn ',' name) =
      platform.all fun name => filing.platform = some name := by
    cases platform with
    | none => rfl
    | some name =>
        cases given : filing.platform <;> simp [plain_split name (named name rfl)]
  rw [Filing.admitted, asksFor, asksFor, asksFor, app, state, asked, same]
  simp [Filing.belongs, plain_split appId plain]

theorem drafts_admitted (platform : Option String) (named : ∀ name ∈ platform, PlainText name) :
    Filing.admitted (draftsTarget appId platform) = Filing.draftFor appId platform := by
  funext filing
  have drafts : splitOn ',' "READY_FOR_REVIEW" = [draftState] := rfl
  rw [admitted_of plain _ (some "READY_FOR_REVIEW") platform _ _ _ named]
  · simp [drafts, Filing.draftFor, Filing.isDraft]
  · simp [draftsTarget, submissionsTarget, UrlTarget.get]
  · simp [draftsTarget, submissionsTarget, UrlTarget.get, List.lookup_cons]
  · cases platform <;> simp [draftsTarget, submissionsTarget, UrlTarget.get, List.lookup_cons]

theorem active_admitted : Filing.admitted (activeTarget appId) = Filing.openFor appId := by
  funext filing
  have states : splitOn ',' "READY_FOR_REVIEW,WAITING_FOR_REVIEW,IN_REVIEW,UNRESOLVED_ISSUES" = draftState :: sentStates := rfl
  rw [admitted_of plain _ (some "READY_FOR_REVIEW,WAITING_FOR_REVIEW,IN_REVIEW,UNRESOLVED_ISSUES") none _ _ _ nofun]
  · simp [states, Filing.openFor, Filing.isOpen, Filing.isDraft, Filing.isSent]
  · simp [activeTarget, submissionsTarget, UrlTarget.get]
  · simp [activeTarget, submissionsTarget, UrlTarget.get, List.lookup_cons]
  · simp [activeTarget, submissionsTarget, UrlTarget.get, List.lookup_cons]

theorem reviewing_admitted : Filing.admitted (reviewingTarget appId) = Filing.reviewedFor appId := by
  funext filing
  have states : splitOn ',' "WAITING_FOR_REVIEW,IN_REVIEW" = [submittedState, "IN_REVIEW"] := rfl
  rw [admitted_of plain _ (some "WAITING_FOR_REVIEW,IN_REVIEW") none _ _ _ nofun]
  · simp [states, Filing.reviewedFor]
  · simp [reviewingTarget, submissionsTarget, UrlTarget.get, List.lookup_cons]
  · simp [reviewingTarget, submissionsTarget, UrlTarget.get]
  · simp [reviewingTarget, submissionsTarget, UrlTarget.get, List.lookup_cons]

theorem every_admitted : Filing.admitted (everyTarget appId) = Filing.belongs appId := by
  funext filing
  rw [admitted_of plain _ none none _ _ _ nofun]
  · simp
  · simp [everyTarget, submissionsTarget, UrlTarget.get]
  · simp [everyTarget, submissionsTarget, UrlTarget.get, List.lookup_cons]
  · simp [everyTarget, submissionsTarget, UrlTarget.get, List.lookup_cons]

end Listings

end Targets

end StackConnect
