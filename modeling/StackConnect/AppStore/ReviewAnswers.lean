import StackConnect.AppStore.ReviewDesk

set_option autoImplicit false

namespace StackConnect

open Interaction Serde Rust

namespace Desk

variable {size : Nat}

structure Holds (desk : Desk) (filing : Filing) (before after : Desk) : Prop where
  shape : desk = before ++ filing :: after
  onlyBefore : ∀ other ∈ before, other.id ≠ filing.id
  onlyAfter : ∀ other ∈ after, other.id ≠ filing.id

theorem changed_apart (desk : Desk) (id : String) (change : Filing → Option Filing) (apart : ∀ filing ∈ desk, filing.id ≠ id) :
    desk.changed id change = desk := by
  rw [changed]
  conv_rhs => rw [← List.filterMap_some (l := desk)]
  apply List.filterMap_congr
  intro filing inside
  exact if_neg (apart filing inside)

theorem changed_kept (desk : Desk) (id : String) : desk.changed id some = desk := by
  rw [changed]
  conv_rhs => rw [← List.filterMap_some (l := desk)]
  apply List.filterMap_congr
  intro filing _
  exact ite_self _

theorem changed_append (first second : Desk) (id : String) (change : Filing → Option Filing) :
    Desk.changed id change (first ++ second) = first.changed id change ++ second.changed id change := List.filterMap_append

theorem changed_single (filing : Filing) (change : Filing → Option Filing) :
    Desk.changed filing.id change [filing] = (change filing).toList := by
  rw [changed, List.filterMap_cons, if_pos rfl]
  cases change filing <;> rfl

theorem at_none (desk : Desk) (id : String) : desk.at? id = none ↔ ∀ filing ∈ desk, filing.id ≠ id := by
  rw [at?, List.find?_eq_none]
  simp

theorem at_some (desk : Desk) (id : String) (filing : Filing) (found : desk.at? id = some filing) :
    filing ∈ desk ∧ filing.id = id :=
  ⟨List.mem_of_find?_eq_some found, by simpa using List.find?_some found⟩

section Holding

variable {desk before after : Desk} {filing : Filing}

theorem changed_held (held : desk.Holds filing before after) (change : Filing → Option Filing) :
    desk.changed filing.id change = before ++ (change filing).toList ++ after := by
  rw [held.shape, changed_append, changed_apart before _ _ held.onlyBefore, ← List.singleton_append, changed_append,
    changed_apart after _ _ held.onlyAfter, changed_single, List.append_assoc]

theorem at_held (held : desk.Holds filing before after) : desk.at? filing.id = some filing := by
  have skipped : before.find? (fun other => other.id = filing.id) = none := (at_none before filing.id).mpr held.onlyBefore
  rw [at?, held.shape, List.find?_append, skipped, Option.none_or, List.find?_cons_of_pos (by simp)]

theorem at_changed (held : desk.Holds filing before after) (change : Filing → Option Filing)
    (keeps : ∀ left, change filing = some left → left.id = filing.id) :
    (desk.changed filing.id change).at? filing.id = change filing := by
  have skippedBefore : before.find? (fun other => other.id = filing.id) = none := (at_none before filing.id).mpr held.onlyBefore
  have skippedAfter : after.find? (fun other => other.id = filing.id) = none := (at_none after filing.id).mpr held.onlyAfter
  rw [changed_held held, at?, List.find?_append, List.find?_append, skippedBefore, skippedAfter, Option.none_or, Option.or_none]
  cases becomes : change filing with
  | none => rfl
  | some left => exact List.find?_cons_of_pos (by simp [keeps left becomes])

theorem holds_changed (held : desk.Holds filing before after) (change : Filing → Option Filing) (left : Filing)
    (becomes : change filing = some left) (keeps : left.id = filing.id) :
    (desk.changed filing.id change).Holds left before after := by
  refine ⟨?_, ?_, ?_⟩
  · rw [changed_held held, becomes, Option.toList_some, List.append_assoc, List.singleton_append]
  · rw [keeps]
    exact held.onlyBefore
  · rw [keeps]
    exact held.onlyAfter

theorem changed_changed (held : desk.Holds filing before after) (change other : Filing → Option Filing)
    (keeps : ∀ left, change filing = some left → left.id = filing.id) :
    (desk.changed filing.id change).changed filing.id other = desk.changed filing.id fun filing => change filing >>= other := by
  rw [changed_held held, changed_held held, changed_append, changed_append, changed_apart before _ _ held.onlyBefore,
    changed_apart after _ _ held.onlyAfter]
  congr 2
  cases becomes : change filing with
  | none => rfl
  | some left =>
      rw [Option.toList_some, ← keeps left becomes, changed_single]
      rfl

theorem changed_same (held : desk.Holds filing before after) (change other : Filing → Option Filing)
    (same : change filing = other filing) : desk.changed filing.id change = desk.changed filing.id other := by
  rw [changed_held held, changed_held held, same]

end Holding

theorem holds_of_mem (desk : Desk) (sound : desk.Sound size) (filing : Filing) (inside : filing ∈ desk) :
    ∃ before after, desk.Holds filing before after := by
  obtain ⟨before, after, shape⟩ := List.append_of_mem inside
  have distinct := sound.distinct
  rw [shape, List.map_append, List.map_cons, List.nodup_middle] at distinct
  have apart := (List.nodup_cons.mp distinct).1
  refine ⟨before, after, shape, ?_, ?_⟩
  · intro other early same
    exact apart (List.mem_append_left _ (List.mem_map.mpr ⟨other, early, same⟩))
  · intro other late same
    exact apart (List.mem_append_right _ (List.mem_map.mpr ⟨other, late, same⟩))

theorem at_mem (desk : Desk) (sound : desk.Sound size) (filing : Filing) (inside : filing ∈ desk) :
    desk.at? filing.id = some filing := by
  obtain ⟨before, after, held⟩ := holds_of_mem desk sound filing inside
  exact at_held held

theorem mem_changed (desk : Desk) (id : String) (change : Filing → Option Filing) (filing : Filing) (inside : filing ∈ desk)
    (apart : filing.id ≠ id) : filing ∈ desk.changed id change :=
  List.mem_filterMap.mpr ⟨filing, inside, if_neg apart⟩

theorem changed_each (listed : List Filing) (desk : Desk) (change : Filing → Option Filing)
    (keeps : ∀ filing left, change filing = some left → left.id = filing.id) (distinct : (listed.map Filing.id).Nodup) :
    listed.foldl (fun desk filing => desk.changed filing.id change) desk =
      desk.filterMap fun filing => if filing.id ∈ listed.map Filing.id then change filing else some filing := by
  induction listed generalizing desk with
  | nil => exact List.filterMap_some.symm
  | cons first rest ih =>
      rw [List.map_cons, List.nodup_cons] at distinct
      rw [List.foldl_cons, ih _ distinct.2, changed, List.filterMap_filterMap]
      apply List.filterMap_congr
      intro filing _
      by_cases same : filing.id = first.id
      · rw [if_pos same, if_pos (by rw [same]; exact List.mem_cons_self)]
        cases becomes : change filing with
        | none => rfl
        | some left =>
            rw [Option.bind_some, if_neg]
            rw [keeps filing left becomes, same]
            exact distinct.1
      · rw [if_neg same, Option.bind_some]
        congr 1
        rw [List.map_cons, List.mem_cons, or_iff_right same]

theorem eq_of_id (desk : Desk) (sound : desk.Sound size) (filing other : Filing) (inside : filing ∈ desk) (known : other ∈ desk)
    (same : filing.id = other.id) : filing = other := by
  have found := at_mem desk sound filing inside
  rw [same, at_mem desk sound other known] at found
  exact (Option.some.inj found).symm

theorem item_ids_append (first second : Desk) : itemIds (first ++ second) = itemIds first ++ itemIds second := List.flatMap_append

theorem items_distinct {desk before after : Desk} {filing : Filing} (sound : desk.Sound size) (held : desk.Holds filing before after) :
    (filing.items.map Prod.fst).Nodup := by
  apply (List.nodup_flatMap.mp sound.apart).1
  rw [held.shape]
  exact List.mem_append_right _ List.mem_cons_self

theorem item_ids_shrunk (desk : Desk) (change : Filing → Option Filing)
    (shrinks : ∀ filing left, change filing = some left → left.id = filing.id ∧ left.items.Sublist filing.items) :
    (itemIds (desk.filterMap change)).Sublist desk.itemIds := by
  induction desk with
  | nil => exact List.Sublist.refl _
  | cons filing rest ih =>
      rw [itemIds, itemIds, List.flatMap_cons]
      cases becomes : change filing with
      | none =>
          rw [List.filterMap_cons_none becomes]
          exact ih.trans (List.sublist_append_right _ _)
      | some left =>
          rw [List.filterMap_cons_some becomes, List.flatMap_cons]
          exact ((shrinks filing left becomes).2.map Prod.fst).append ih

theorem ids_shrunk (desk : Desk) (change : Filing → Option Filing)
    (shrinks : ∀ filing left, change filing = some left → left.id = filing.id ∧ left.items.Sublist filing.items) :
    ((desk.filterMap change).map Filing.id).Sublist (desk.map Filing.id) := by
  induction desk with
  | nil => exact List.Sublist.refl _
  | cons filing rest ih =>
      cases becomes : change filing with
      | none =>
          rw [List.filterMap_cons_none becomes]
          exact ih.cons _
      | some left =>
          rw [List.filterMap_cons_some becomes, List.map_cons, List.map_cons, (shrinks filing left becomes).1]
          exact ih.cons_cons _

theorem sound_shrunk (desk : Desk) (sound : desk.Sound size) (change : Filing → Option Filing)
    (shrinks : ∀ filing left, change filing = some left → left.id = filing.id ∧ left.items.Sublist filing.items) :
    Desk.Sound size (desk.filterMap change) where
  distinct := sound.distinct.sublist (ids_shrunk desk change shrinks)
  plain := by
    intro left inside
    obtain ⟨filing, known, becomes⟩ := List.mem_filterMap.mp inside
    rw [(shrinks filing left becomes).1]
    exact sound.plain filing known
  apart := sound.apart.sublist (item_ids_shrunk desk change shrinks)
  plainItems id inside := sound.plainItems id ((item_ids_shrunk desk change shrinks).subset inside)
  fits := by
    intro left inside
    obtain ⟨filing, known, becomes⟩ := List.mem_filterMap.mp inside
    exact (shrinks filing left becomes).2.length_le.trans (sound.fits filing known)

theorem sound_changed (desk : Desk) (sound : desk.Sound size) (id : String) (change : Filing → Option Filing)
    (shrinks : ∀ filing left, change filing = some left → left.id = filing.id ∧ left.items.Sublist filing.items) :
    (desk.changed id change).Sound size := by
  apply sound_shrunk desk sound
  intro filing left becomes
  by_cases same : filing.id = id
  · rw [if_pos same] at becomes
    exact shrinks filing left becomes
  · rw [if_neg same] at becomes
    cases becomes
    exact ⟨rfl, List.Sublist.refl _⟩

theorem sound_attached {desk before after : Desk} {filing : Filing} (sound : desk.Sound size) (held : desk.Holds filing before after)
    (itemId versionId : String) (unused : itemId ∉ desk.itemIds) (plain : PlainText itemId) (room : filing.items.length < size) :
    (desk.changed filing.id fun filing => some (filing.attached itemId versionId)).Sound size := by
  have shape := held.shape
  have distinct := sound.distinct
  have apart := sound.apart
  have others : ∀ other ∈ before ++ [filing.attached itemId versionId] ++ after,
      other = filing.attached itemId versionId ∨ other ∈ desk := by
    intro other inside
    rw [shape]
    simp only [List.mem_append, List.mem_cons] at inside ⊢
    tauto
  have inside : filing ∈ desk := by
    rw [shape]
    exact List.mem_append_right _ List.mem_cons_self
  have ids : itemIds (before ++ [filing.attached itemId versionId] ++ after) =
      (before.itemIds ++ filing.items.map Prod.fst) ++ itemId :: after.itemIds := by
    simp [itemIds, Filing.attached]
  have old : desk.itemIds = (before.itemIds ++ filing.items.map Prod.fst) ++ after.itemIds := by
    simp [shape, itemIds]
  rw [changed_held held, Option.toList_some]
  refine ⟨?_, ?_, ?_, ?_, ?_⟩
  · rw [shape] at distinct
    simpa [Filing.attached] using distinct
  · intro other member
    rcases others other member with rfl | known
    · exact sound.plain filing inside
    · exact sound.plain other known
  · rw [old] at apart unused
    rw [ids, List.nodup_middle]
    exact List.nodup_cons.mpr ⟨unused, apart⟩
  · intro id member
    rw [ids, List.mem_append, List.mem_cons] at member
    rcases member with early | rfl | late
    · exact sound.plainItems id (by rw [old]; exact List.mem_append_left _ early)
    · exact plain
    · exact sound.plainItems id (by rw [old]; exact List.mem_append_right _ late)
  · intro other member
    rcases others other member with rfl | known
    · rw [Filing.attached, List.length_append, List.length_singleton]
      exact room
    · exact sound.fits other known

theorem sound_submitted {desk before after : Desk} {filing : Filing} (rules : ReviewRules) (sound : desk.Sound rules.size)
    (held : desk.Holds filing before after) (empty : filing.items.isEmpty = true) (versionId : String) :
    (desk.changed filing.id fun filing => some (rules.submittedWith desk versionId filing)).Sound rules.size := by
  have room : filing.items.length < rules.size := by
    rw [List.isEmpty_iff.mp empty]
    exact rules.positive
  have attached := sound_attached sound held (rules.freshItem desk) versionId (rules.unusedItem desk) (rules.plainItem desk) room
  have twice := changed_changed held (fun filing => some (filing.attached (rules.freshItem desk) versionId))
    (fun filing => some filing.submitted) (by rintro _ ⟨rfl⟩; rfl)
  have sent := sound_changed _ attached filing.id (fun filing => some filing.submitted) (by
    rintro other _ ⟨rfl⟩
    exact ⟨rfl, List.Sublist.refl _⟩)
  rwa [twice] at sent

theorem sound_opened (desk : Desk) (rules : ReviewRules) (sound : desk.Sound rules.size) (appId : String) (platform : Option String) :
    Desk.Sound rules.size (desk ++ [rules.opened desk appId platform]) := by
  have ids : itemIds (desk ++ [rules.opened desk appId platform]) = desk.itemIds := by simp [itemIds, ReviewRules.opened]
  refine ⟨?_, ?_, ?_, ?_, ?_⟩
  · rw [List.map_append]
    exact sound.distinct.append (List.nodup_singleton _) (by simpa [ReviewRules.opened] using rules.unused desk)
  · intro filing inside
    rcases List.mem_append.mp inside with old | new
    · exact sound.plain filing old
    · rw [List.mem_singleton.mp new]
      exact rules.plain desk
  · rw [ids]
    exact sound.apart
  · rw [ids]
    exact sound.plainItems
  · intro filing inside
    rcases List.mem_append.mp inside with old | new
    · exact sound.fits filing old
    · rw [List.mem_singleton.mp new]
      exact Nat.zero_le _

theorem holds_opened (desk : Desk) (rules : ReviewRules) (appId : String) (platform : Option String) :
    Desk.Holds (desk ++ [rules.opened desk appId platform]) (rules.opened desk appId platform) desk [] := by
  refine ⟨rfl, ?_, nofun⟩
  intro other inside same
  exact rules.unused desk (List.mem_map.mpr ⟨other, inside, same⟩)

theorem holding_item (desk before after : Desk) (filing : Filing) (sound : desk.Sound size) (held : desk.Holds filing before after)
    (itemId : String) (inside : itemId ∈ filing.items.map Prod.fst) :
    (desk.find? fun filing => itemId ∈ filing.items.map Prod.fst) = some filing := by
  have apart := sound.apart
  rw [held.shape, item_ids_append, List.nodup_append] at apart
  have skipped : before.find? (fun filing => itemId ∈ filing.items.map Prod.fst) = none := by
    rw [List.find?_eq_none]
    intro other early holds
    have elsewhere : itemId ∈ itemIds before := List.mem_flatMap.mpr ⟨other, early, of_decide_eq_true holds⟩
    exact apart.2.2 itemId elsewhere itemId (List.mem_flatMap.mpr ⟨filing, List.mem_cons_self, inside⟩) rfl
  rw [held.shape, List.find?_append, skipped, Option.none_or]
  exact List.find?_cons_of_pos (decide_eq_true inside)

end Desk

theorem sent_to_review (filing : Filing) : SentToReview (some filing.state) ↔ filing.isSent = true := by
  simp [SentToReview, Filing.isSent, sentStates, submittedState]

theorem ready_for_review (filing : Filing) : ReadyForReview (some filing.state) ↔ filing.isDraft = true := by
  rw [ReadyForReview, Filing.isDraft, draftState, decide_eq_true_iff, Option.some_inj]

theorem sent_is_no_draft (filing : Filing) (sent : filing.isSent = true) : filing.isDraft = false := by
  rw [Filing.isDraft, decide_eq_false_iff_not]
  intro draft
  rw [Filing.isSent, draft] at sent
  exact absurd sent (by decide)

theorem reviewed_sent (appId : String) (filing : Filing) (reviewed : filing.reviewedFor appId = true) : filing.isSent = true := by
  rw [Filing.reviewedFor, Bool.and_eq_true, decide_eq_true_iff] at reviewed
  rw [Filing.isSent, decide_eq_true_iff]
  exact List.mem_append_left ["UNRESOLVED_ISSUES"] reviewed.2

theorem lingers_draft (filing : Filing) (emptied : Option String) (settled : filing.isDraft = false) :
    filing.lingers emptied = false := by
  rw [Filing.lingers, settled, Bool.false_and]

theorem attached_filled (filing : Filing) (draft : filing.isDraft = true) (itemId versionId : String) :
    (filing.attached itemId versionId).isFilled = true := by
  rw [Filing.isFilled, Bool.and_eq_true]
  exact ⟨draft, by simp [Filing.attached]⟩

theorem withdrawn_draft (filing : Filing) (draft : filing.isDraft = true) (emptied : Option String) :
    filing.withdrawn emptied = if filing.items.isEmpty then some filing
      else emptied.map fun state => { filing with state := state, items := [] } := by
  have unsent : filing.isSent = false := by
    rw [Bool.eq_false_iff]
    intro sent
    rw [sent_is_no_draft filing sent] at draft
    cases draft
  rw [Filing.withdrawn, unsent, if_neg Bool.false_ne_true, Filing.isFilled, draft, Bool.true_and]
  cases filing.items.isEmpty <;> rfl

theorem withdrawn_sent (filing : Filing) (sent : filing.isSent = true) (emptied : Option String) :
    filing.withdrawn emptied = some { filing with state := canceledState } := if_pos sent

theorem withdrawn_closed (filing : Filing) (closed : filing.isOpen = false) (emptied : Option String) :
    filing.withdrawn emptied = some filing := by
  rw [Filing.isOpen, Bool.or_eq_false_iff] at closed
  rw [Filing.withdrawn, closed.2, if_neg Bool.false_ne_true, Filing.isFilled, closed.1, Bool.false_and, if_neg Bool.false_ne_true]

theorem withdrawn_shrinks (filing left : Filing) (emptied : Option String) (becomes : filing.withdrawn emptied = some left) :
    left.id = filing.id ∧ left.items.Sublist filing.items := by
  rw [Filing.withdrawn] at becomes
  split at becomes
  · cases becomes
    exact ⟨rfl, List.Sublist.refl _⟩
  · split at becomes
    · obtain ⟨state, _, rfl⟩ := Option.map_eq_some_iff.mp becomes
      exact ⟨rfl, List.nil_sublist _⟩
    · cases becomes
      exact ⟨rfl, List.Sublist.refl _⟩

theorem withdrawn_settles (rules : ReviewRules) (filing left : Filing) (settled : filing.lingers rules.emptied = false)
    (becomes : filing.withdrawn rules.emptied = some left) : left.isOpen = false := by
  by_cases isOpen : filing.isOpen = true
  · rcases Bool.or_eq_true _ _ |>.mp isOpen with draft | sent
    · rw [Filing.lingers, draft, becomes, Bool.true_and, Option.any_some] at settled
      rw [withdrawn_draft filing draft] at becomes
      by_cases empty : filing.items.isEmpty = true
      · rw [if_pos empty] at becomes
        cases becomes
        rw [draft] at settled
        cases settled
      · rw [if_neg empty] at becomes
        obtain ⟨state, given, rfl⟩ := Option.map_eq_some_iff.mp becomes
        rw [Filing.isOpen, settled, Bool.false_or, Filing.isSent, decide_eq_false_iff_not]
        exact rules.unsent state given
    · rw [withdrawn_sent filing sent] at becomes
      cases becomes
      rfl
  · rw [withdrawn_closed filing (Bool.eq_false_iff.mpr isOpen)] at becomes
    cases becomes
    exact Bool.eq_false_iff.mpr isOpen

theorem withdrawn_each {size : Nat} (desk : Desk) (sound : desk.Sound size) (listed : List Filing)
    (known : ∀ filing ∈ listed, filing ∈ desk) (distinct : (listed.map Filing.id).Nodup) (emptied : Option String) :
    listed.foldl (fun desk filing => desk.changed filing.id (Filing.withdrawn emptied)) desk = desk.withdrawing emptied listed := by
  rw [Desk.changed_each _ _ _ (fun filing left becomes => (withdrawn_shrinks filing left emptied becomes).1) distinct]
  apply List.filterMap_congr
  intro filing inside
  have same : filing.id ∈ listed.map Filing.id ↔ filing ∈ listed := by
    constructor
    · intro found
      obtain ⟨other, member, equal⟩ := List.mem_map.mp found
      rwa [Desk.eq_of_id desk sound filing other inside (known other member) equal.symm]
    · exact List.mem_map_of_mem
  simp only [same]

theorem withdrawing_shrinks (emptied : Option String) (listed : List Filing) (filing left : Filing)
    (becomes : (if filing ∈ listed then filing.withdrawn emptied else some filing) = some left) :
    left.id = filing.id ∧ left.items.Sublist filing.items := by
  by_cases inside : filing ∈ listed
  · rw [if_pos inside] at becomes
    exact withdrawn_shrinks filing left emptied becomes
  · rw [if_neg inside] at becomes
    cases becomes
    exact ⟨rfl, List.Sublist.refl _⟩

namespace ReviewRules

variable (rules : ReviewRules) (client : AppStoreClient) (desk : Desk)

theorem respond_at (request : Request) (target : UrlTarget) (behind : UrlTarget.behind client.baseUrl request.url = some target) :
    rules.respond client desk request = rules.answer client desk request.method target request.body := by
  rw [respond, behind, Option.elim_some]

theorem respond_get (url : String) (target : UrlTarget) (behind : UrlTarget.behind client.baseUrl url = some target) :
    rules.respond client desk ((Request.get url).bearerAuth "token") = (rules.showAt client desk target, desk) :=
  rules.respond_at client desk ((Request.get url).bearerAuth "token") target behind

theorem show_listing (query : List (String × String)) (wants : Filing → Bool)
    (admits : Filing.admitted (submissionsTarget query) = wants) : rules.showAt client desk (submissionsTarget query) =
      (200, rules.page client (submissionsTarget query) ((desk.filter wants).map Filing.json)) := by
  rw [← admits]
  rfl

theorem show_items (id : String) (query : List (String × String)) (filing : Filing) (found : desk.at? id = some filing) :
    rules.showAt client desk (itemsTarget id query) = (200, rules.page client (itemsTarget id query) filing.itemRows) := by
  change (desk.at? id).elim _ _ = _
  rw [found]
  rfl

theorem show_submission (id : String) : rules.showAt client desk ⟨["v1", "reviewSubmissions", id], []⟩ =
    (desk.at? id).elim (404, "") fun filing => (200, client.crates.serdeJson.print filing.documentJson) := rfl

theorem respond_create (appId : String) (platform : Option String) :
    rules.respond client desk ((Request.post client.reviewSubmissionsUrl
      (AppStoreClient.createSubmissionBody appId platform)).bearerAuth "token") =
      if (desk.filter (Filing.openFor appId)).length < rules.limit then
        ((201, client.crates.serdeJson.print (rules.opened desk appId platform).documentJson),
          desk ++ [rules.opened desk appId platform])
      else ((409, ""), desk) := by
  have app : appNamed (AppStoreClient.createSubmissionBody appId platform) = some appId := by cases platform <;> rfl
  have named : platformNamed (AppStoreClient.createSubmissionBody appId platform) = platform := by cases platform <;> rfl
  rw [rules.respond_at client desk _ _ (submissions_behind client)]
  change rules.create client desk (AppStoreClient.createSubmissionBody appId platform) = _
  rw [create, app, named]

theorem respond_attach (filing : Filing) (versionId : String) (found : desk.at? filing.id = some filing)
    (draft : filing.isDraft = true) :
    rules.respond client desk ((Request.post client.reviewSubmissionItemsUrl
      (AppStoreClient.submissionItemBody filing.id versionId)).bearerAuth "token") =
      ((201, ""), desk.changed filing.id fun filing => some (filing.attached (rules.freshItem desk) versionId)) := by
  have reads : attachment (AppStoreClient.submissionItemBody filing.id versionId) = some (filing.id, versionId) := rfl
  rw [rules.respond_at client desk _ _ (all_items_behind client)]
  change rules.attach desk (AppStoreClient.submissionItemBody filing.id versionId) = _
  simp only [attach, reads, found, if_pos draft]

theorem respond_patch (id : String) (plain : PlainText id) (body : Json) :
    rules.respond client desk ((Request.patch (client.reviewSubmissionUrl id) body).bearerAuth "token") =
      (desk.at? id).elim ((404, ""), desk) fun filing => patch desk filing body :=
  rules.respond_at client desk ((Request.patch (client.reviewSubmissionUrl id) body).bearerAuth "token") _
    (submission_behind client id plain)

theorem flagged_body (id flag : String) : flagged id flag (AppStoreClient.submissionFlagBody id flag) = true := by
  have value : ((AppStoreClient.submissionFlagBody id flag).at ["data", "attributes", flag] >>= boolean) = some true := by
    have named : Json.field flag (.obj [(flag, .bool true)]) = some (.bool true) := by simp [Json.field]
    change ((Json.field flag (.obj [(flag, .bool true)])).bind fun found => some found).bind boolean = some true
    rw [named]
    rfl
  rw [flagged, value, Bool.and_eq_true, Bool.and_eq_true]
  exact ⟨⟨decide_eq_true rfl, decide_eq_true rfl⟩, decide_eq_true rfl⟩

theorem patch_submitted (filing : Filing) (body : Json) (asks : flagged filing.id "submitted" body = true) : patch desk filing body =
    if filing.isFilled then ((200, ""), desk.changed filing.id fun filing => some filing.submitted)
    else ((409, ""), desk) := if_pos asks

theorem patch_canceled (filing : Filing) (sent : filing.isSent = true) :
    patch desk filing (AppStoreClient.submissionFlagBody filing.id "canceled") =
      ((200, ""), desk.changed filing.id fun filing => some { filing with state := canceledState }) := by
  have other : flagged filing.id "submitted" (AppStoreClient.submissionFlagBody filing.id "canceled") = false := by
    rw [flagged, Bool.and_eq_false_iff]
    exact .inr rfl
  rw [patch, other, if_neg Bool.false_ne_true, if_pos (flagged_body filing.id "canceled"), if_pos sent]

theorem without_item_shrinks (itemId : String) (filing left : Filing) (becomes : rules.withoutItem itemId filing = some left) :
    left.id = filing.id ∧ left.items.Sublist filing.items := by
  rw [withoutItem] at becomes
  generalize others : filing.items.filter (fun item => item.1 ≠ itemId) = kept at becomes
  cases kept with
  | nil =>
      obtain ⟨state, _, rfl⟩ := Option.map_eq_some_iff.mp becomes
      exact ⟨rfl, List.nil_sublist _⟩
  | cons next more =>
      cases becomes
      exact ⟨rfl, others ▸ List.filter_sublist⟩

theorem answer_remove (itemId : String) :
    rules.answer client desk .delete ⟨["v1", "reviewSubmissionItems", itemId], []⟩ .empty = rules.remove desk itemId := rfl

theorem respond_delete_item (before after : Desk) (filing : Filing) (sound : desk.Sound rules.size)
    (held : desk.Holds filing before after) (draft : filing.isDraft = true) (itemId : String)
    (inside : itemId ∈ filing.items.map Prod.fst) :
    rules.respond client desk ((Request.delete (client.reviewSubmissionItemUrl itemId)).bearerAuth "token") =
      ((204, ""), desk.changed filing.id (rules.withoutItem itemId)) := by
  have found := Desk.holding_item desk before after filing sound held itemId inside
  have known : itemId ∈ desk.itemIds := by
    rw [held.shape]
    exact List.mem_flatMap.mpr ⟨filing, List.mem_append_right _ List.mem_cons_self, inside⟩
  have removed := rules.respond_at client desk ((Request.delete (client.reviewSubmissionItemUrl itemId)).bearerAuth "token") _
    (item_behind client itemId (sound.plainItems itemId known))
  refine removed.trans ((rules.answer_remove client desk itemId).trans ?_)
  rw [remove, found]
  exact if_pos draft

def nextLink (target : UrlTarget) (count offset : Nat) : Option String :=
  if offset + rules.size < count then some (rules.following client target offset) else none

theorem window_decoded {α : Type} (decode : Decoder α) (rows : List Json) (values : List α) (each : rows.map decode = values.map some)
    (offset : Nat) : ((rows.drop offset).take rules.size).map decode = ((values.drop offset).take rules.size).map some := by
  rw [List.map_take, List.map_drop, each, ← List.map_drop, ← List.map_take]

theorem items_page_shown (target : UrlTarget) (filing : Filing) (offset : Nat) :
    ReviewSubmissionItemsResponse.decode (rules.pageFrom client target filing.itemRows offset) =
      some ⟨((filing.items.map fun item => (⟨item.1⟩ : ResourceIdentifier)).drop offset).take rules.size,
        ⟨rules.nextLink client target filing.items.length offset⟩⟩ := by
  have each : filing.itemRows.map ResourceIdentifier.decode =
      (filing.items.map fun item => (⟨item.1⟩ : ResourceIdentifier)).map some := by
    rw [Filing.itemRows, List.map_map, List.map_map]
    rfl
  have count : filing.itemRows.length = filing.items.length := List.length_map _
  rw [ReviewSubmissionItemsResponse.decode, Page.decode, pageFrom, struct_obj]
  simp only [defaulted_bind_members, pure_fields]
  have rows : memberOr "data" (vec ResourceIdentifier.decode) []
      [("data", .arr ((filing.itemRows.drop offset).take rules.size)), ("links", .obj [("next",
        if offset + rules.size < filing.itemRows.length then .str (rules.following client target offset) else .null)])] = _ :=
    vec_arr _ _ _ (rules.window_decoded _ _ _ each offset)
  rw [rows, nextLink, count]
  split <;> rfl

theorem listing_shown (target : UrlTarget) (listed : List Filing) (offset : Nat) :
    ReviewSubmissionsResponse.decode (rules.pageFrom client target (listed.map Filing.json) offset) =
      some ⟨((listed.drop offset).take rules.size).map Filing.resource, [], ⟨rules.nextLink client target listed.length offset⟩⟩ := by
  have each : (listed.map Filing.json).map ReviewSubmissionResource.decode = (listed.map Filing.resource).map some := by
    rw [List.map_map, List.map_map]
    exact List.map_congr_left fun filing _ => filing_shown filing
  have count : (listed.map Filing.json).length = listed.length := List.length_map _
  rw [ReviewSubmissionsResponse.decode, IncludedPage.decode, pageFrom, struct_obj]
  simp only [defaulted_bind_members, pure_fields]
  have rows : memberOr "data" (vec ReviewSubmissionResource.decode) []
      [("data", .arr (((listed.map Filing.json).drop offset).take rules.size)), ("links", .obj [("next",
        if offset + rules.size < (listed.map Filing.json).length then .str (rules.following client target offset) else .null)])] = _ :=
    vec_arr _ _ _ (rules.window_decoded _ _ _ each offset)
  rw [rows, nextLink, count, List.map_take, List.map_drop]
  split <;> rfl

end ReviewRules

end StackConnect
