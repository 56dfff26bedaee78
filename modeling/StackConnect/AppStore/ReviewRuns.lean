import StackConnect.AppStore.CancelSubmission
import StackConnect.AppStore.ReviewAnswers

set_option autoImplicit false

namespace StackConnect

open Interaction Serde Rust

namespace ReviewRules

section Requests

variable (rules : ReviewRules) (client : AppStoreClient) {desk left : Desk}

theorem leads_authorized (request : Request) (reply : Nat × String)
    (replied : rules.respond client desk (request.bearerAuth "token") = (reply, left)) :
    Leads (rules.handler client) (authorized request) desk (.ok reply) left := by
  have signed : Leads (rules.handler client) bearerToken desk (.ok "token") desk := ⟨_, rfl⟩
  have sent : Leads (rules.handler client) (sendAndRead (request.bearerAuth "token")) desk
      (.ok (rules.respond client desk (request.bearerAuth "token")).1)
      (rules.respond client desk (request.bearerAuth "token")).2 := ⟨_, rfl⟩
  rw [replied] at sent
  exact leads_bind "token" _ signed sent

theorem leads_exchange (request : Request) (reply : Nat × String)
    (replied : rules.respond client desk (request.bearerAuth "token") = (reply, left)) :
    Leads (rules.handler client) (exchange request) desk (accepted reply) left :=
  leads_judged (.ok reply) accepted (rules.leads_authorized client request reply replied)

theorem leads_no_content (request : Request) (status : Nat) (body : String) (success : isSuccess status = true)
    (replied : rules.respond client desk (request.bearerAuth "token") = ((status, body), left)) :
    Leads (rules.handler client) (exchange request >>= fun _ => .done (.ok ())) desk (.ok ()) left := by
  have answered := rules.leads_exchange client request (status, body) replied
  rw [accepted, if_pos success] at answered
  exact leads_bind body _ answered (leads_done _)

theorem leads_page {α : Type} (url type label : String) (decoder : Decoder α) (value : α) (target : UrlTarget) (json : Json)
    (behind : UrlTarget.behind client.baseUrl url = some target)
    (shown : rules.showAt client desk target = (200, client.crates.serdeJson.print json))
    (reads : PrintsBack client.crates.serdeJson json) (decoded : decoder json = some value) :
    Leads (rules.handler client) (getPage url >>= fun body => Prog.ofExcept (client.parse type label decoder body))
      desk (.ok value) desk := by
  have replied := rules.respond_get client desk url target behind
  rw [shown] at replied
  have parsed := parse_prints_back type label decoder json value reads decoded
  have answered := rules.leads_exchange client (.get url) _ replied
  exact leads_bind _ _ answered (by rw [parsed]; exact leads_done _)

end Requests

section Operations

variable (rules : ReviewRules) (client : AppStoreClient) {desk before after : Desk} {filing : Filing}

theorem leads_attach_and_submit (held : desk.Holds filing before after) (plain : PlainText filing.id) (draft : filing.isDraft = true)
    (versionId : String) :
    Leads (rules.handler client) (client.attachAndSubmit filing.id versionId) desk (.ok ())
      (desk.changed filing.id fun filing => some (rules.submittedWith desk versionId filing)) := by
  rw [AppStoreClient.attachAndSubmit, postJson2xx]
  rw [token_then_patch]
  have posted := rules.leads_exchange client _ _
    (rules.respond_attach client desk filing versionId (Desk.at_held held) draft)
  have attached := Desk.holds_changed held (fun filing => some (filing.attached (rules.freshItem desk) versionId)) _ rfl rfl
  have replied := rules.respond_patch client
    (desk.changed filing.id fun filing => some (filing.attached (rules.freshItem desk) versionId)) filing.id plain
    (AppStoreClient.submissionFlagBody filing.id "submitted")
  have found := Desk.at_held attached
  change Desk.at? _ filing.id = _ at found
  rw [found, Option.elim_some, patch_submitted _ (filing.attached (rules.freshItem desk) versionId) _
    (flagged_body filing.id "submitted"), if_pos (attached_filled filing draft _ _)] at replied
  have twice := Desk.changed_changed held (fun filing => some (filing.attached (rules.freshItem desk) versionId))
    (fun filing => some filing.submitted) (by rintro _ ⟨rfl⟩; rfl)
  rw [show (filing.attached (rules.freshItem desk) versionId).id = filing.id from rfl, twice] at replied
  exact leads_bind "" _ posted (rules.leads_no_content client _ 200 "" rfl replied)

-- The items of a submission are all on the first page.
theorem leads_items (sound : desk.Sound rules.size) (inside : filing ∈ desk) (url : String) (query : List (String × String))
    (behind : UrlTarget.behind client.baseUrl url = some (itemsTarget filing.id query)) (uncursored : query.lookup "cursor" = none)
    (reads : PrintsBack client.crates.serdeJson (rules.pageFrom client (itemsTarget filing.id query) filing.itemRows 0)) :
    Leads (rules.handler client) (client.fetchSubmissionItemsPage url) desk
      (.ok ⟨filing.items.map fun item => ⟨item.1⟩, ⟨none⟩⟩) desk := by
  have first : rules.offsetAsked (itemsTarget filing.id query) = 0 := by
    rw [offsetAsked, UrlTarget.get, itemsTarget, uncursored]
    rfl
  have fits := sound.fits filing inside
  have shown := rules.show_items client desk filing.id query filing (desk.at_mem sound filing inside)
  have decoded := rules.items_page_shown client (itemsTarget filing.id query) filing 0
  rw [nextLink, if_neg (by omega), List.drop_zero, List.take_of_length_le (by rwa [List.length_map])] at decoded
  rw [← first] at reads decoded
  exact rules.leads_page client _ _ _ _ _ _ _ behind shown reads decoded

def emptinessPage (client : AppStoreClient) (filing : Filing) : Json :=
  rules.pageFrom client (itemsTarget filing.id []) filing.itemRows 0

theorem leads_first_empty_draft (sound : desk.Sound rules.size) (drafts : List Filing) (listed : ∀ draft ∈ drafts, draft ∈ desk)
    (reads : ∀ draft ∈ drafts, PrintsBack client.crates.serdeJson (rules.emptinessPage client draft)) :
    Leads (rules.handler client) (client.firstEmptyDraft (drafts.map Filing.resource)) desk
      (.ok ((drafts.find? fun draft => draft.items.isEmpty).map Filing.id)) desk := by
  induction drafts with
  | nil => exact leads_done _
  | cons draft rest ih =>
      have inside := listed draft List.mem_cons_self
      have page := rules.leads_items client sound inside _ _ (items_behind client draft.id (sound.plain draft inside)) rfl
        (reads draft List.mem_cons_self)
      have emptiness : Leads (rules.handler client) (client.submissionIsEmpty draft.id) desk (.ok draft.items.isEmpty) desk := by
        rw [← List.isEmpty_map (f := fun item => (⟨item.1⟩ : ResourceIdentifier))]
        exact leads_bind _ _ page (leads_done _)
      apply leads_bind _ _ emptiness
      by_cases empty : draft.items.isEmpty = true
      · have first : ((draft :: rest).find? fun draft => draft.items.isEmpty) = some draft := List.find?_cons_of_pos empty
        rw [if_pos empty, first]
        exact leads_done _
      · have skipped : ((draft :: rest).find? fun draft => draft.items.isEmpty) = rest.find? fun draft => draft.items.isEmpty :=
          List.find?_cons_of_neg empty
        rw [if_neg empty, skipped]
        exact ih (fun other inside => listed other (List.mem_cons_of_mem _ inside))
          (fun other inside => reads other (List.mem_cons_of_mem _ inside))

theorem leads_create_and_submit (appId versionId : String) (platform : Option String)
    (reads : PrintsBack client.crates.serdeJson (rules.opened desk appId platform).documentJson) :
    Leads (rules.handler client) (client.createAndSubmit appId versionId platform) desk
      (if (desk.filter (Filing.openFor appId)).length < rules.limit then .ok () else .error conflict)
      (if (desk.filter (Filing.openFor appId)).length < rules.limit then
          desk ++ [rules.submittedWith (desk ++ [rules.opened desk appId platform]) versionId (rules.opened desk appId platform)]
        else desk) := by
  rw [AppStoreClient.createAndSubmit, postJson2xx]
  have replied := rules.respond_create client desk appId platform
  by_cases room : (desk.filter (Filing.openFor appId)).length < rules.limit
  · rw [if_pos room] at replied
    rw [if_pos room, if_pos room]
    have posted := rules.leads_exchange client _ _ replied
    have parsed : client.parseCreatedSubmission (client.crates.serdeJson.print (rules.opened desk appId platform).documentJson) =
        .ok ⟨⟨(rules.opened desk appId platform).id⟩⟩ := parse_prints_back _ _ _ _ _ reads (filing_created_shown _)
    have held := Desk.holds_opened desk rules appId platform
    have submits := rules.leads_attach_and_submit client held (rules.plain desk) rfl versionId
    rw [Desk.changed_held held, Option.toList_some, List.append_nil] at submits
    apply leads_bind _ _ posted
    rw [parsed]
    exact leads_bind _ _ (leads_done _) submits
  · rw [if_neg room] at replied
    rw [if_neg room, if_neg room]
    exact leads_stop _ (rules.leads_exchange client _ _ replied)

theorem other_items (item : String × String) (rest : List (String × String)) (distinct : ((item :: rest).map Prod.fst).Nodup) :
    ((item :: rest).filter fun other => other.1 ≠ item.1) = rest := by
  rw [List.filter_cons_of_neg (by simp), List.filter_eq_self]
  intro other inside
  rw [decide_eq_true_iff]
  intro same
  rw [List.map_cons, List.nodup_cons] at distinct
  exact distinct.1 (List.mem_map.mpr ⟨other, inside, same⟩)

-- The items of a draft are deleted one after the other, and with the last one the
-- draft becomes what drafts without items become.
theorem leads_delete_items (sound : desk.Sound rules.size) (held : desk.Holds filing before after) (draft : filing.isDraft = true)
    (items : List (String × String)) (left : filing.items = items) :
    Leads (rules.handler client)
      ((items.map fun item => (⟨item.1⟩ : ResourceIdentifier)).forM fun item => client.deleteReviewSubmissionItem item.id) desk
      (.ok ()) (desk.changed filing.id (Filing.withdrawn rules.emptied)) := by
  induction items generalizing desk filing with
  | nil =>
      have kept : filing.withdrawn rules.emptied = some filing := by rw [withdrawn_draft filing draft, left]; rfl
      rw [Desk.changed_held held, kept, Option.toList_some, List.append_assoc, List.singleton_append, ← held.shape]
      exact leads_done _
  | cons item rest ih =>
      have inside : item.1 ∈ filing.items.map Prod.fst := by
        rw [left]
        exact List.mem_cons_self
      have replied := rules.respond_delete_item client desk before after filing sound held draft item.1 inside
      have deleted := rules.leads_no_content client _ 204 "" rfl replied
      have others : (filing.items.filter fun other => other.1 ≠ item.1) = rest := by
        have distinct := Desk.items_distinct sound held
        rw [left] at distinct ⊢
        exact other_items item rest distinct
      cases rest with
      | nil =>
          have last : rules.withoutItem item.1 filing = filing.withdrawn rules.emptied := by
            rw [withoutItem, others, withdrawn_draft filing draft, left]
            rfl
          rw [Desk.changed_same held _ _ last] at deleted
          exact leads_bind () _ deleted (leads_done _)
      | cons next more =>
          have fewer : rules.withoutItem item.1 filing =
              some { filing with items := next :: more } := by
            rw [withoutItem, others]
          have shrunk := Desk.sound_changed desk sound filing.id _ (rules.without_item_shrinks item.1)
          have later := ih shrunk (Desk.holds_changed held _ _ fewer rfl) draft rfl
          have twice := Desk.changed_changed held (rules.withoutItem item.1)
            (Filing.withdrawn rules.emptied) (by rw [fewer]; rintro _ ⟨rfl⟩; rfl)
          have same : (rules.withoutItem item.1 filing >>= Filing.withdrawn rules.emptied) =
              filing.withdrawn rules.emptied := by
            rw [fewer, Option.bind_eq_bind, Option.bind_some, withdrawn_draft filing draft, left]
            exact withdrawn_draft { filing with items := next :: more } draft _
          rw [twice, Desk.changed_same held (fun filing => rules.withoutItem item.1 filing >>=
            Filing.withdrawn rules.emptied) _ same] at later
          exact leads_bind () _ deleted later

def deletionPage (client : AppStoreClient) (filing : Filing) : Json :=
  rules.pageFrom client (itemsTarget filing.id [("include", "appStoreVersion")]) filing.itemRows 0

theorem leads_delete_submission_items (sound : desk.Sound rules.size) (held : desk.Holds filing before after)
    (draft : filing.isDraft = true) (reads : PrintsBack client.crates.serdeJson (rules.deletionPage client filing)) (fuel : Nat)
    (enough : 0 < fuel) :
    Leads (rules.handler client) (client.deleteSubmissionItems fuel filing.id) desk (.ok ())
      (desk.changed filing.id (Filing.withdrawn rules.emptied)) := by
  obtain ⟨rounds, rfl⟩ := Nat.exists_eq_succ_of_ne_zero enough.ne'
  rw [AppStoreClient.deleteSubmissionItems, while_some_succ]
  have inside : filing ∈ desk := by rw [held.shape]; exact List.mem_append_right _ List.mem_cons_self
  have page := rules.leads_items client sound inside _ _ (included_items_behind client filing.id (sound.plain filing inside)) rfl reads
  have emptied := rules.leads_delete_items client sound held draft filing.items rfl
  have round : Leads (rules.handler client)
      (client.deleteItemsPage () (client.submissionItemsUrl filing.id ++ "?include=appStoreVersion")) desk (.ok ((), none))
      (desk.changed filing.id (Filing.withdrawn rules.emptied)) :=
    leads_bind _ _ page (leads_bind () _ emptied (leads_done _))
  apply leads_bind _ _ round
  rw [while_some_none]
  exact leads_done _

theorem leads_get_state (id : String) (plain : PlainText id)
    (reads : ∀ filing, desk.at? id = some filing → PrintsBack client.crates.serdeJson filing.documentJson) :
    Leads (rules.handler client) (client.getReviewSubmissionState id) desk
      (.ok ((desk.at? id).map fun filing => some filing.state)) desk := by
  have replied := rules.respond_get client desk _ _ (submission_behind client id plain)
  rw [rules.show_submission client desk id] at replied
  rw [state_read_judged]
  apply leads_bind _ _ (rules.leads_authorized client _ _ replied)
  cases found : desk.at? id with
  | none => exact leads_done _
  | some filing =>
      have parsed : client.parseReviewSubmission (client.crates.serdeJson.print filing.documentJson) = .ok ⟨filing.resource⟩ :=
        parse_prints_back _ _ _ _ _ (reads filing found) (filing_document_shown filing)
      have judged : reportedState client (200, client.crates.serdeJson.print filing.documentJson) = .ok (some (some filing.state)) := by
        change (client.parseReviewSubmission _ >>= fun document => .ok (some document.data.attributes.state)) = _
        rw [parsed]
        rfl
      rw [Option.elim_some, judged]
      exact leads_done _

theorem leads_discard_ready (sound : desk.Sound rules.size) (held : desk.Holds filing before after) (draft : filing.isDraft = true)
    (items : PrintsBack client.crates.serdeJson (rules.deletionPage client filing))
    (document : ∀ left, filing.withdrawn rules.emptied = some left → PrintsBack client.crates.serdeJson left.documentJson)
    (fuel : Nat) (enough : 0 < fuel) :
    Leads (rules.handler client) (client.discardReadyForReviewSubmission fuel filing.id) desk
      (if filing.lingers rules.emptied then .error notRemovableError else .ok ())
      (desk.changed filing.id (Filing.withdrawn rules.emptied)) := by
  have plain := sound.plain filing (by rw [held.shape]; exact List.mem_append_right _ List.mem_cons_self)
  have left := Desk.at_changed held (Filing.withdrawn rules.emptied) fun left becomes => (withdrawn_shrinks filing left _ becomes).1
  have emptied := rules.leads_delete_submission_items client sound held draft items fuel enough
  have state : Leads (rules.handler client) (client.getReviewSubmissionState filing.id)
      (desk.changed filing.id (Filing.withdrawn rules.emptied))
      (.ok ((filing.withdrawn rules.emptied).map fun filing => some filing.state))
      (desk.changed filing.id (Filing.withdrawn rules.emptied)) := by
    rw [← left]
    exact rules.leads_get_state client filing.id plain (by rw [left]; exact document)
  apply leads_bind () _ emptied
  apply leads_bind _ _ state
  rw [Filing.lingers, draft, Bool.true_and]
  cases filing.withdrawn rules.emptied with
  | none => exact leads_done _
  | some kept =>
      rw [Option.map_some, Option.any_some]
      by_cases lingering : kept.state = draftState
      · rw [show kept.isDraft = true from decide_eq_true lingering, if_pos rfl, lingering]
        exact leads_done _
      · rw [show kept.isDraft = false from decide_eq_false lingering, if_neg Bool.false_ne_true]
        split
        · rename_i impossible
          cases impossible
        · rename_i same
          exact absurd (Option.some.inj (Option.some.inj same)) lingering
        · exact leads_done _

theorem leads_cancel_patch (held : desk.Holds filing before after) (plain : PlainText filing.id) (sent : filing.isSent = true) :
    Leads (rules.handler client) (client.cancelPatch filing.id) desk (.ok ())
      (desk.changed filing.id (Filing.withdrawn rules.emptied)) := by
  rw [AppStoreClient.cancelPatch, token_then_patch]
  have replied := rules.respond_patch client desk filing.id plain (AppStoreClient.submissionFlagBody filing.id "canceled")
  have canceled := withdrawn_sent filing sent rules.emptied
  rw [Desk.at_held held, Option.elim_some, patch_canceled desk filing sent, ← Desk.changed_same held _ _ canceled] at replied
  exact rules.leads_no_content client _ 200 "" rfl replied

structure Reads (client : AppStoreClient) (filing : Filing) : Prop where
  items : PrintsBack client.crates.serdeJson (rules.deletionPage client filing)
  document : PrintsBack client.crates.serdeJson filing.documentJson
  left : ∀ left, filing.withdrawn rules.emptied = some left → PrintsBack client.crates.serdeJson left.documentJson

theorem leads_cancel_round (sound : desk.Sound rules.size) (inside : filing ∈ desk) (reads : rules.Reads client filing)
    (notRemovable : Option StackError) (fuel : Nat) (enough : 0 < fuel) :
    Leads (rules.handler client) (client.cancelRound fuel notRemovable filing.resource) desk
      (.ok (notRemovable.or (if filing.lingers rules.emptied then some notRemovableError else none)))
      (desk.changed filing.id (Filing.withdrawn rules.emptied)) := by
  obtain ⟨before, after, held⟩ := Desk.holds_of_mem desk sound filing inside
  by_cases sent : filing.isSent = true
  · rw [cancel_round_sent client fuel notRemovable filing.resource ((sent_to_review filing).mpr sent),
      lingers_draft filing _ (sent_is_no_draft filing sent), if_neg Bool.false_ne_true, Option.or_none]
    exact leads_bind () _ (rules.leads_cancel_patch client held (sound.plain filing inside) sent) (leads_done _)
  · by_cases draft : filing.isDraft = true
    · rw [cancel_round_ready client fuel notRemovable filing.resource ((ready_for_review filing).mpr draft)]
      have discards := leads_attempt _ (rules.leads_discard_ready client sound held draft reads.items reads.left fuel enough)
      apply leads_bind _ _ discards
      cases filing.lingers rules.emptied with
      | true => exact leads_done _
      | false =>
          rw [if_neg Bool.false_ne_true, if_neg Bool.false_ne_true, Option.or_none]
          exact leads_done _
    · have unsent := mt (sent_to_review filing).mp sent
      have unready := mt (ready_for_review filing).mp draft
      have closed : filing.isOpen = false := by
        rw [Filing.isOpen, Bool.eq_false_iff.mpr draft, Bool.eq_false_iff.mpr sent]
        rfl
      have kept : desk.changed filing.id (Filing.withdrawn rules.emptied) = desk := by
        rw [Desk.changed_same held _ some (withdrawn_closed filing closed _)]
        exact Desk.changed_kept desk filing.id
      rw [cancel_round_other client fuel notRemovable filing.resource unsent unready, kept,
        lingers_draft filing _ (Bool.eq_false_iff.mpr draft), if_neg Bool.false_ne_true, Option.or_none]
      exact leads_done _

theorem leads_cancel_rounds (listed : List Filing) (sound : desk.Sound rules.size) (known : ∀ filing ∈ listed, filing ∈ desk)
    (distinct : (listed.map Filing.id).Nodup) (reads : ∀ filing ∈ listed, rules.Reads client filing)
    (notRemovable : Option StackError) (fuel : Nat) (enough : 0 < fuel) :
    Leads (rules.handler client) ((listed.map Filing.resource).foldlM (client.cancelRound fuel) notRemovable) desk
      (.ok (notRemovable.or (if listed.any (Filing.lingers rules.emptied) then some notRemovableError else none)))
      (listed.foldl (fun desk filing => desk.changed filing.id (Filing.withdrawn rules.emptied)) desk) := by
  induction listed generalizing desk notRemovable with
  | nil =>
      rw [List.any_nil, if_neg Bool.false_ne_true, Option.or_none]
      exact leads_done _
  | cons first rest ih =>
      rw [List.map_cons, List.nodup_cons] at distinct
      have here := known first List.mem_cons_self
      have round := rules.leads_cancel_round client sound here (reads first List.mem_cons_self) notRemovable fuel enough
      obtain ⟨before, after, held⟩ := Desk.holds_of_mem desk sound first here
      have still := Desk.sound_changed desk sound first.id _ fun filing left => withdrawn_shrinks filing left rules.emptied
      have unchanged : ∀ filing ∈ rest, filing ∈ desk.changed first.id (Filing.withdrawn rules.emptied) := by
        intro filing inside
        apply Desk.mem_changed _ _ _ _ (known filing (List.mem_cons_of_mem _ inside))
        intro same
        exact distinct.1 (same ▸ List.mem_map_of_mem inside)
      have rounds := ih still unchanged distinct.2 (fun filing inside => reads filing (List.mem_cons_of_mem _ inside))
        (notRemovable.or (if first.lingers rules.emptied then some notRemovableError else none))
      rw [List.map_cons, List.foldlM_cons, List.foldl_cons]
      have remembered : (notRemovable.or (if first.lingers rules.emptied then some notRemovableError else none)).or
          (if rest.any (Filing.lingers rules.emptied) then some notRemovableError else none) =
          notRemovable.or (if (first :: rest).any (Filing.lingers rules.emptied) then some notRemovableError else none) := by
        rw [Option.or_assoc, List.any_cons]
        cases first.lingers rules.emptied <;> rfl
      rw [← remembered]
      exact leads_bind _ _ round rounds

theorem leads_cancel_listed (listed : List Filing) (sound : desk.Sound rules.size) (known : ∀ filing ∈ listed, filing ∈ desk)
    (distinct : (listed.map Filing.id).Nodup) (reads : ∀ filing ∈ listed, rules.Reads client filing)
    (fuel : Nat) (enough : 0 < fuel) :
    Leads (rules.handler client) (client.cancelListed fuel (listed.map Filing.resource)) desk
      (if listed.any (Filing.lingers rules.emptied) then .error notRemovableError else .ok ())
      (listed.foldl (fun desk filing => desk.changed filing.id (Filing.withdrawn rules.emptied)) desk) := by
  have rounds := rules.leads_cancel_rounds client listed sound known distinct reads none fuel enough
  apply leads_bind _ _ rounds
  cases listed.any (Filing.lingers rules.emptied) <;> exact leads_done _

theorem leads_discard_reported (sound : desk.Sound rules.size) (inside : filing ∈ desk) (reads : rules.Reads client filing)
    (fuel : Nat) (enough : 0 < fuel) :
    Leads (rules.handler client) (client.discardReported fuel filing.id (some filing.state)) desk
      (if filing.lingers rules.emptied then .error notRemovableError else .ok ())
      (desk.changed filing.id (Filing.withdrawn rules.emptied)) := by
  have single := rules.leads_cancel_listed client [filing] sound (by simpa using inside) (List.nodup_singleton _)
    (by simpa using reads) fuel enough
  rw [List.any_cons, List.any_nil, Bool.or_false] at single
  rwa [List.map_singleton, cancel_listed_single client fuel filing.resource] at single

theorem leads_listing {α : Type} {left : Desk} (url : String) (query : List (String × String)) (wants : Filing → Bool)
    (behind : UrlTarget.behind client.baseUrl url = some (submissionsTarget query)) (uncursored : query.lookup "cursor" = none)
    (admits : Filing.admitted (submissionsTarget query) = wants)
    (reads : PrintsBack client.crates.serdeJson
      (rules.pageFrom client (submissionsTarget query) ((desk.filter wants).map Filing.json) 0))
    (next : List ReviewSubmissionResource → Async α) (result : Except StackError α)
    (rest : Leads (rules.handler client) (next ((rules.firstPage wants desk).map Filing.resource)) desk result left) :
    Leads (rules.handler client) (getPage url >>= fun body => Prog.ofExcept (client.parseReviewSubmissions body) >>= fun page =>
      next page.data) desk result left := by
  have first : rules.offsetAsked (submissionsTarget query) = 0 := by
    rw [offsetAsked, UrlTarget.get, submissionsTarget, uncursored]
    rfl
  have decoded := rules.listing_shown client (submissionsTarget query) (desk.filter wants) 0
  rw [List.drop_zero] at decoded
  rw [← first] at reads decoded
  rw [← Prog.bind_assoc]
  exact leads_bind _ _ (rules.leads_page client url "ReviewSubmissionsResponse" "review submissions response" _ _ _ _ behind
    (rules.show_listing client desk query wants admits) reads decoded) rest

def draftsPage (client : AppStoreClient) (appId : String) (platform : Option String) (desk : Desk) : Json :=
  rules.pageFrom client (draftsTarget appId platform) ((desk.filter (Filing.draftFor appId platform)).map Filing.json) 0

def activePage (client : AppStoreClient) (appId : String) (desk : Desk) : Json :=
  rules.pageFrom client (activeTarget appId) ((desk.filter (Filing.openFor appId)).map Filing.json) 0

def reviewingPage (client : AppStoreClient) (appId : String) (desk : Desk) : Json :=
  rules.pageFrom client (reviewingTarget appId) ((desk.filter (Filing.reviewedFor appId)).map Filing.json) 0

def everyPage (client : AppStoreClient) (appId : String) (desk : Desk) (offset : Nat) : Json :=
  rules.pageFrom client (everyTarget appId) ((desk.filter (Filing.belongs appId)).map Filing.json) offset

theorem first_page_known (wants : Filing → Bool) (known : filing ∈ rules.firstPage wants desk) : filing ∈ desk ∧ wants filing = true :=
  List.mem_filter.mp (List.mem_of_mem_take known)

theorem first_page_distinct (sound : desk.Sound rules.size) (wants : Filing → Bool) :
    ((rules.firstPage wants desk).map Filing.id).Nodup :=
  sound.distinct.sublist (((List.take_sublist _ _).trans List.filter_sublist).map _)

theorem following_visible (appId : String) (count offset : Nat) :
    (⟨rules.nextLink client (everyTarget appId) count offset⟩ : Links).nextUrl =
    rules.nextLink client (everyTarget appId) count offset := by
  rw [Links.nextUrl, nextLink]
  split
  · rw [Option.filter_some, if_pos]
    simp [following, UrlTarget.text, UrlTarget.put, everyTarget, submissionsTarget, pathText]
  · rfl

section Apps

variable (appId : String) (plain : PlainText appId)

include plain

theorem leads_find_draft (sound : desk.Sound rules.size) (platform : Option String) (named : ∀ name ∈ platform, PlainText name)
    (listing : PrintsBack client.crates.serdeJson (rules.draftsPage client appId platform desk))
    (items : ∀ filing ∈ rules.firstPage (Filing.draftFor appId platform) desk,
      PrintsBack client.crates.serdeJson (rules.emptinessPage client filing)) :
    Leads (rules.handler client) (client.findReusableEmptyDraft appId platform) desk
      (.ok ((rules.reusable appId platform desk).map Filing.id)) desk := by
  have first := rules.leads_first_empty_draft client sound (rules.firstPage (Filing.draftFor appId platform) desk)
    (fun draft inside => (rules.first_page_known _ inside).1) items
  have uncursored : (draftsTarget appId platform).query.lookup "cursor" = none := by
    cases platform <;> simp [draftsTarget, submissionsTarget, List.lookup_cons]
  exact rules.leads_listing client _ _ _ (drafts_behind client plain platform named) uncursored (drafts_admitted plain platform named)
    listing client.firstEmptyDraft _ first

theorem leads_submit_reusing (sound : desk.Sound rules.size) (versionId : String) (platform : Option String)
    (named : ∀ name ∈ platform, PlainText name)
    (listing : PrintsBack client.crates.serdeJson (rules.draftsPage client appId platform desk))
    (items : ∀ filing ∈ rules.firstPage (Filing.draftFor appId platform) desk,
      PrintsBack client.crates.serdeJson (rules.emptinessPage client filing))
    (found : rules.reusable appId platform desk = some filing) :
    Leads (rules.handler client) (client.submitForReview appId versionId platform) desk (.ok ())
      (desk.changed filing.id fun filing => some (rules.submittedWith desk versionId filing)) := by
  have search := rules.leads_find_draft client appId plain sound platform named listing items
  rw [found] at search
  obtain ⟨inside, wanted⟩ := rules.first_page_known _ (List.mem_of_find?_eq_some found)
  rw [Filing.draftFor, Bool.and_eq_true, Bool.and_eq_true] at wanted
  obtain ⟨before, after, held⟩ := Desk.holds_of_mem desk sound filing inside
  have attaches := leads_attempt _ (rules.leads_attach_and_submit client held (sound.plain filing inside) wanted.1.2 versionId)
  exact leads_bind _ _ search (leads_bind _ _ attaches (leads_done _))

theorem leads_submit_creating (sound : desk.Sound rules.size) (versionId : String) (platform : Option String)
    (named : ∀ name ∈ platform, PlainText name)
    (listing : PrintsBack client.crates.serdeJson (rules.draftsPage client appId platform desk))
    (items : ∀ filing ∈ rules.firstPage (Filing.draftFor appId platform) desk,
      PrintsBack client.crates.serdeJson (rules.emptinessPage client filing))
    (created : PrintsBack client.crates.serdeJson (rules.opened desk appId platform).documentJson)
    (found : rules.reusable appId platform desk = none) :
    Leads (rules.handler client) (client.submitForReview appId versionId platform) desk
      (if (desk.filter (Filing.openFor appId)).length < rules.limit then .ok () else .error conflict)
      (if (desk.filter (Filing.openFor appId)).length < rules.limit then
          desk ++ [rules.submittedWith (desk ++ [rules.opened desk appId platform]) versionId (rules.opened desk appId platform)]
        else desk) := by
  have search := rules.leads_find_draft client appId plain sound platform named listing items
  rw [found] at search
  exact leads_bind _ _ search (rules.leads_create_and_submit client appId versionId platform created)

theorem leads_cancel_submission (sound : desk.Sound rules.size)
    (listing : PrintsBack client.crates.serdeJson (rules.activePage client appId desk))
    (reads : ∀ filing ∈ rules.firstPage (Filing.openFor appId) desk, rules.Reads client filing) (fuel : Nat) (enough : 0 < fuel) :
    Leads (rules.handler client) (client.cancelSubmission fuel appId) desk
      (if (rules.firstPage (Filing.openFor appId) desk).any (Filing.lingers rules.emptied) then .error notRemovableError else .ok ())
      (desk.withdrawing rules.emptied (rules.firstPage (Filing.openFor appId) desk)) := by
  have distinct := rules.first_page_distinct sound (Filing.openFor appId)
  have known : ∀ filing ∈ rules.firstPage (Filing.openFor appId) desk, filing ∈ desk :=
    fun filing inside => (rules.first_page_known _ inside).1
  have cancels := rules.leads_cancel_listed client (rules.firstPage (Filing.openFor appId) desk) sound known distinct
    reads fuel enough
  rw [withdrawn_each desk sound _ known distinct] at cancels
  have uncursored : (activeTarget appId).query.lookup "cursor" = none := by
    simp [activeTarget, submissionsTarget, List.lookup_cons]
  exact rules.leads_listing client _ _ _ (active_behind client plain) uncursored (active_admitted plain) listing
    (client.cancelListed fuel) _ cancels

omit plain in
theorem cancel_review_listed : client.cancelReview appId =
    getPage (client.baseUrl ++ "/v1/reviewSubmissions?filter[state]=WAITING_FOR_REVIEW,IN_REVIEW&filter[app]=" ++ appId) >>= fun body =>
      Prog.ofExcept (client.parseReviewSubmissions body) >>= fun page =>
        page.data.head?.elim (pure ()) fun submission => client.cancelPatch submission.id := by
  rw [AppStoreClient.cancelReview, AppStoreClient.cancelFirstSubmission]
  congr 1
  funext body
  congr 1
  funext page
  cases page.data <;> rfl

theorem leads_cancel_review (sound : desk.Sound rules.size)
    (listing : PrintsBack client.crates.serdeJson (rules.reviewingPage client appId desk)) :
    Leads (rules.handler client) (client.cancelReview appId) desk (.ok ())
      ((desk.find? (Filing.reviewedFor appId)).elim desk fun filing => desk.changed filing.id (Filing.withdrawn rules.emptied)) := by
  have uncursored : (reviewingTarget appId).query.lookup "cursor" = none := by
    simp [reviewingTarget, submissionsTarget, List.lookup_cons]
  rw [cancel_review_listed]
  apply rules.leads_listing client _ _ _ (reviewing_behind client plain) uncursored (reviewing_admitted plain) listing
    fun listed => listed.head?.elim (pure ()) fun submission => client.cancelPatch submission.id
  have first : desk.find? (Filing.reviewedFor appId) = (rules.firstPage (Filing.reviewedFor appId) desk).head? := by
    rw [firstPage, List.head?_take, if_neg rules.positive.ne', List.head?_filter]
  rw [first]
  cases listed : rules.firstPage (Filing.reviewedFor appId) desk with
  | nil => exact leads_done _
  | cons filing rest =>
      obtain ⟨inside, wanted⟩ := rules.first_page_known (Filing.reviewedFor appId) (listed ▸ List.mem_cons_self)
      obtain ⟨before, after, held⟩ := Desk.holds_of_mem desk sound filing inside
      exact rules.leads_cancel_patch client held (sound.plain filing inside) (reviewed_sent appId filing wanted)

theorem cursor_shown (offset : Nat) : rules.showAt client desk ((everyTarget appId).put "cursor" (rules.cursor offset)) =
    (200, client.crates.serdeJson.print (rules.everyPage client appId desk offset)) := by
  have asked : rules.offsetAsked ((everyTarget appId).put "cursor" (rules.cursor offset)) = offset := by
    rw [offsetAsked, UrlTarget.get_put, Option.bind_some, rules.found, Option.getD_some]
  have admits : Filing.admitted ((everyTarget appId).put "cursor" (rules.cursor offset)) = Filing.belongs appId := by
    rw [← every_admitted plain]
    funext filing
    simp only [Filing.admitted, asksFor, UrlTarget.get_put_other _ "cursor" _ _ (show "filter[app]" ≠ "cursor" by decide),
      UrlTarget.get_put_other _ "cursor" _ _ (show "filter[state]" ≠ "cursor" by decide),
      UrlTarget.get_put_other _ "cursor" _ _ (show "filter[platform]" ≠ "cursor" by decide)]
  have same : ∀ rows, rules.pageFrom client ((everyTarget appId).put "cursor" (rules.cursor offset)) rows offset =
      rules.pageFrom client (everyTarget appId) rows offset := by
    intro rows
    rw [pageFrom, pageFrom, following, following, UrlTarget.put_put]
  have shown := rules.show_listing client desk ((everyTarget appId).put "cursor" (rules.cursor offset)).query _ admits
  refine shown.trans ?_
  rw [page, show submissionsTarget ((everyTarget appId).put "cursor" (rules.cursor offset)).query =
    (everyTarget appId).put "cursor" (rules.cursor offset) from rfl, asked, same]
  rfl

theorem leads_pages (listing : ∀ offset ≤ (desk.filter (Filing.belongs appId)).length,
      PrintsBack client.crates.serdeJson (rules.everyPage client appId desk offset))
    (collected : List ReviewSubmission) (fuel offset : Nat) (url : String) (target : UrlTarget)
    (behind : UrlTarget.behind client.baseUrl url = some target)
    (shown : rules.showAt client desk target = (200, client.crates.serdeJson.print (rules.everyPage client appId desk offset)))
    (inside : offset ≤ (desk.filter (Filing.belongs appId)).length)
    (enough : (desk.filter (Filing.belongs appId)).length < offset + fuel) :
    Leads (rules.handler client) (client.listPages fuel "ReviewSubmissionsResponse" "review submissions response"
        ReviewSubmissionsResponse.decode (client.reviewSubmissionsListing appId).rows IncludedPage.links collected url) desk
      (.ok (collected ++ ((desk.filter (Filing.belongs appId)).drop offset).map (Filing.info appId))) desk := by
  induction fuel generalizing collected offset url target with
  | zero => omega
  | succ fuel ih =>
      unfold AppStoreClient.listPages at ih ⊢
      rw [while_some_succ]
      have decoded := rules.listing_shown client (everyTarget appId) (desk.filter (Filing.belongs appId)) offset
      have page := rules.leads_page client url "ReviewSubmissionsResponse" "review submissions response" _ _ target _ behind shown
        (listing offset inside) decoded
      generalize window : ((desk.filter (Filing.belongs appId)).drop offset).take rules.size = listed at page
      have rows : (client.reviewSubmissionsListing appId).rows ⟨listed.map Filing.resource, [],
          ⟨rules.nextLink client (everyTarget appId) (desk.filter (Filing.belongs appId)).length offset⟩⟩ =
          listed.map (Filing.info appId) := List.map_map
      have split : ((desk.filter (Filing.belongs appId)).drop offset).map (Filing.info appId) =
          listed.map (Filing.info appId) ++
            ((desk.filter (Filing.belongs appId)).drop (offset + rules.size)).map (Filing.info appId) := by
        rw [← window, ← List.map_append, ← List.drop_drop, List.take_append_drop]
      have round : Leads (rules.handler client) (getPage url >>= fun body =>
          Prog.ofExcept (client.parse "ReviewSubmissionsResponse" "review submissions response" ReviewSubmissionsResponse.decode body)
            >>= fun page => .done (.ok (collected ++ (client.reviewSubmissionsListing appId).rows page, page.links.nextUrl))) desk
          (.ok (collected ++ listed.map (Filing.info appId),
            rules.nextLink client (everyTarget appId) (desk.filter (Filing.belongs appId)).length offset)) desk := by
        rw [← Prog.bind_assoc, ← rows, ← rules.following_visible client appId]
        exact leads_bind _ _ page (leads_done _)
      apply leads_bind _ _ round
      have positive := rules.positive
      by_cases more : offset + rules.size < (desk.filter (Filing.belongs appId)).length
      · rw [nextLink, if_pos more, split, ← List.append_assoc]
        have spelled := UrlTarget.spelled_put (everyTarget appId) (every_spelled plain) "cursor" (rules.cursor (offset + rules.size))
          (by decide) (rules.plainCursor _)
        exact ih _ _ _ _ (UrlTarget.behind_text client.baseUrl _ spelled)
          (rules.cursor_shown client appId plain (offset + rules.size)) (by omega) (by omega)
      · rw [nextLink, if_neg more, while_some_none, split, List.drop_eq_nil_of_le (by omega), List.map_nil, List.append_nil]
        exact leads_done _

theorem leads_fetch_submissions (listing : ∀ offset ≤ (desk.filter (Filing.belongs appId)).length,
      PrintsBack client.crates.serdeJson (rules.everyPage client appId desk offset)) (fuel : Nat) (enough : desk.length < fuel) :
    Leads (rules.handler client) (client.fetchReviewSubmissions fuel appId) desk
      (.ok ((desk.filter (Filing.belongs appId)).map (Filing.info appId))) desk := by
  have fewer : (desk.filter (Filing.belongs appId)).length ≤ desk.length := List.length_filter_le _ _
  have first : rules.showAt client desk (everyTarget appId) =
      (200, client.crates.serdeJson.print (rules.everyPage client appId desk 0)) := by
    have shown := rules.show_listing client desk (everyTarget appId).query _ (every_admitted plain)
    have asked : rules.offsetAsked (everyTarget appId) = 0 := by
      rw [offsetAsked, UrlTarget.get, show (everyTarget appId).query.lookup "cursor" = none by
        simp [everyTarget, submissionsTarget, List.lookup_cons]]
      rfl
    refine shown.trans ?_
    rw [page, show submissionsTarget (everyTarget appId).query = everyTarget appId from rfl, asked]
    rfl
  exact rules.leads_pages client appId plain listing [] fuel 0 _ _ (every_behind client plain) first (Nat.zero_le _) (by omega)

end Apps

theorem leads_discard_submission (sound : desk.Sound rules.size) (id : String) (plain : PlainText id)
    (reads : ∀ filing ∈ desk, filing.id = id → rules.Reads client filing) (fuel : Nat) (enough : 0 < fuel) :
    Leads (rules.handler client) (client.discardReviewSubmission fuel id) desk
      (if (desk.at? id).any (Filing.lingers rules.emptied) then .error notRemovableError else .ok ())
      (desk.changed id (Filing.withdrawn rules.emptied)) := by
  have replied := rules.respond_get client desk _ _ (submission_behind client id plain)
  rw [rules.show_submission client desk id] at replied
  apply leads_bind _ _ (rules.leads_authorized client _ _ replied)
  cases found : desk.at? id with
  | none =>
      rw [Desk.changed_apart desk id _ ((desk.at_none id).mp found)]
      exact leads_done _
  | some filing =>
      obtain ⟨inside, rfl⟩ := desk.at_some id filing found
      have discards := rules.leads_discard_reported client sound inside (reads filing inside rfl) fuel enough
      have parsed : client.parseReviewSubmission (client.crates.serdeJson.print filing.documentJson) = .ok ⟨filing.resource⟩ :=
        parse_prints_back _ _ _ _ _ (reads filing inside rfl).document (filing_document_shown filing)
      change Leads _ (Prog.ofExcept (client.parseReviewSubmission (client.crates.serdeJson.print filing.documentJson)) >>= _) _ _ _
      rw [parsed]
      exact leads_bind _ _ (leads_done _) discards

theorem leads_submit_submission (id : String) (plain : PlainText id) :
    Leads (rules.handler client) (client.submitReviewSubmission id) desk
      ((desk.at? id).elim (.error missing) fun filing => if filing.isFilled then .ok () else .error conflict)
      (if (desk.at? id).any Filing.isFilled then desk.changed id fun filing => some filing.submitted else desk) := by
  rw [AppStoreClient.submitReviewSubmission, token_then_patch]
  have replied := rules.respond_patch client desk id plain (AppStoreClient.submissionFlagBody id "submitted")
  cases found : desk.at? id with
  | none =>
      rw [found] at replied
      exact leads_stop _ (rules.leads_exchange client _ _ replied)
  | some filing =>
      obtain ⟨inside, rfl⟩ := desk.at_some id filing found
      rw [found, Option.elim_some, patch_submitted _ _ _ (flagged_body filing.id "submitted")] at replied
      rw [Option.elim_some, Option.any_some]
      by_cases filled : filing.isFilled = true
      · rw [if_pos filled] at replied
        rw [if_pos filled, if_pos filled]
        exact rules.leads_no_content client _ 200 "" rfl replied
      · rw [if_neg filled] at replied
        rw [if_neg filled, if_neg filled]
        exact leads_stop _ (rules.leads_exchange client _ _ replied)

end Operations

end ReviewRules

end StackConnect
