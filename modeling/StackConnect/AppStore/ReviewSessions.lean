import StackConnect.AppStore.ResourceSessions
import StackConnect.AppStore.ReviewRuns

set_option autoImplicit false

namespace StackConnect

open Interaction Serde Rust

namespace ReviewCommand

def run (client : AppStoreClient) (fuel : Nat) (appId : String) : ReviewCommand → Async (Returned ReviewSubmission)
  | submitForReview versionId platform =>
      Collection.returning (fun _ => .done) (client.submitForReview appId versionId platform)
  | cancelSubmission => Collection.returning (fun _ => .done) (client.cancelSubmission fuel appId)
  | discardReviewSubmission id => Collection.returning (fun _ => .done) (client.discardReviewSubmission fuel id)
  | submitReviewSubmission id => Collection.returning (fun _ => .done) (client.submitReviewSubmission id)
  | cancelReview => Collection.returning (fun _ => .done) (client.cancelReview appId)
  | fetchReviewSubmissions => Collection.returning .infos (client.fetchReviewSubmissions fuel appId)

-- What a command writes into addresses stands there as it is.
def Plain : ReviewCommand → Prop
  | submitForReview _ platform => ∀ name ∈ platform, PlainText name
  | discardReviewSubmission id | submitReviewSubmission id => PlainText id
  | _ => True

def Speaks (client : AppStoreClient) (rules : ReviewRules) (appId : String) (desk : Desk) : ReviewCommand → Prop
  | submitForReview _ platform =>
      PrintsBack client.crates.serdeJson (rules.draftsPage client appId platform desk) ∧
        PrintsBack client.crates.serdeJson (rules.opened desk appId platform).documentJson ∧
        ∀ filing ∈ rules.firstPage (Filing.draftFor appId platform) desk,
          PrintsBack client.crates.serdeJson (rules.emptinessPage client filing)
  | cancelSubmission => PrintsBack client.crates.serdeJson (rules.activePage client appId desk) ∧
      ∀ filing ∈ rules.firstPage (Filing.openFor appId) desk, rules.Reads client filing
  | discardReviewSubmission id => ∀ filing ∈ desk, filing.id = id → rules.Reads client filing
  | submitReviewSubmission _ => True
  | cancelReview => PrintsBack client.crates.serdeJson (rules.reviewingPage client appId desk)
  | fetchReviewSubmissions => ∀ offset ≤ (desk.filter (Filing.belongs appId)).length,
      PrintsBack client.crates.serdeJson (rules.everyPage client appId desk offset)

def reported : Except StackError Unit → Except StackError (Returned ReviewSubmission) := Except.map fun _ => .done

section Performing

variable (client : AppStoreClient) (rules : ReviewRules) (appId : String) {desk : Desk}

theorem leads_reported (program : Async Unit) (result : Except StackError Unit) (left : Desk)
    (ran : Leads (rules.handler client) program desk result left) :
    Leads (rules.handler client) (Collection.returning (fun _ => Returned.done) program) desk (reported result) left :=
  leads_map _ result ran

theorem reported_unless (refused : Bool) (failure : StackError) :
    reported (if refused then .error failure else .ok ()) = if refused then .error failure else .ok .done := by
  cases refused <;> rfl

theorem leads_command (app : PlainText appId) (command : ReviewCommand) (sound : desk.Sound rules.size) (plain : command.Plain)
    (speaks : command.Speaks client rules appId desk) (fuel : Nat) (enough : desk.length < fuel) :
    Leads (rules.handler client) (command.run client fuel appId) desk (command.perform rules appId desk).1
      (command.perform rules appId desk).2 := by
  cases command with
  | submitForReview versionId platform =>
      obtain ⟨listing, created, items⟩ := speaks
      cases found : rules.reusable appId platform desk with
      | some filing =>
          have submits := rules.leads_submit_reusing client appId app sound versionId platform plain listing items found
          simp only [perform, found]
          exact leads_judged _ _ submits
      | none =>
          have submits := rules.leads_submit_creating client appId app sound versionId platform plain listing items created found
          simp only [perform, found]
          by_cases room : (desk.filter (Filing.openFor appId)).length < rules.limit
          · rw [if_pos room, if_pos room] at submits
            rw [if_pos room]
            exact leads_judged _ _ submits
          · rw [if_neg room, if_neg room] at submits
            rw [if_neg room]
            exact leads_judged _ _ submits
  | cancelSubmission =>
      have cancels := leads_reported client rules _ _ _ (rules.leads_cancel_submission client appId app sound speaks.1 speaks.2
        fuel (by omega))
      rwa [reported_unless] at cancels
  | discardReviewSubmission id =>
      have discards := leads_reported client rules _ _ _ (rules.leads_discard_submission client sound id plain speaks
        fuel (by omega))
      rwa [reported_unless] at discards
  | submitReviewSubmission id =>
      have submits := leads_reported client rules _ _ _ (rules.leads_submit_submission client id plain : Leads _ _ desk _ _)
      cases found : desk.at? id with
      | none =>
          rw [found] at submits
          simp only [perform, found]
          exact submits
      | some filing =>
          rw [found, Option.elim_some, Option.any_some] at submits
          simp only [perform, found]
          by_cases filled : filing.isFilled = true
          · rw [if_pos filled, if_pos filled] at submits
            rw [if_pos filled]
            exact submits
          · rw [if_neg filled, if_neg filled] at submits
            rw [if_neg filled]
            exact submits
  | cancelReview =>
      have cancels := leads_reported client rules _ _ _ (rules.leads_cancel_review client appId app sound speaks)
      cases found : desk.find? (Filing.reviewedFor appId) with
      | none =>
          rw [found] at cancels
          simp only [perform, found]
          exact cancels
      | some filing =>
          rw [found] at cancels
          simp only [perform, found]
          exact cancels
  | fetchReviewSubmissions =>
      exact leads_map _ _ (rules.leads_fetch_submissions client appId app speaks fuel enough)

theorem perform_sound (command : ReviewCommand) (sound : desk.Sound rules.size) :
    (command.perform rules appId desk).2.Sound rules.size := by
  have withdraws := fun (filing left : Filing) => withdrawn_shrinks filing left rules.emptied
  cases command with
  | submitForReview versionId platform =>
      cases found : rules.reusable appId platform desk with
      | some filing =>
          have inside := (rules.first_page_known _ (List.mem_of_find?_eq_some found)).1
          obtain ⟨before, after, held⟩ := Desk.holds_of_mem desk sound filing inside
          simp only [perform, found]
          have empty : filing.items.isEmpty = true := List.find?_some (p := fun draft : Filing => draft.items.isEmpty) found
          exact Desk.sound_submitted rules sound held empty versionId
      | none =>
          simp only [perform, found]
          by_cases room : (desk.filter (Filing.openFor appId)).length < rules.limit
          · rw [if_pos room]
            have held := Desk.holds_opened desk rules appId platform
            have submitted := Desk.sound_submitted rules (Desk.sound_opened desk rules sound appId platform) held rfl versionId
            rwa [Desk.changed_held held, Option.toList_some, List.append_nil] at submitted
          · rw [if_neg room]
            exact sound
  | cancelSubmission => exact Desk.sound_shrunk desk sound _ (withdrawing_shrinks rules.emptied _)
  | discardReviewSubmission id => exact Desk.sound_changed desk sound id _ withdraws
  | submitReviewSubmission id =>
      cases found : desk.at? id with
      | none =>
          simp only [perform, found]
          exact sound
      | some filing =>
          simp only [perform, found]
          by_cases filled : filing.isFilled = true
          · rw [if_pos filled]
            apply Desk.sound_changed desk sound
            rintro other _ ⟨rfl⟩
            exact ⟨rfl, List.Sublist.refl _⟩
          · rw [if_neg filled]
            exact sound
  | cancelReview =>
      cases found : desk.find? (Filing.reviewedFor appId) with
      | none =>
          simp only [perform, found]
          exact sound
      | some filing =>
          simp only [perform, found]
          exact Desk.sound_changed desk sound filing.id _ withdraws
  | fetchReviewSubmissions => exact sound

theorem perform_length (command : ReviewCommand) : (command.perform rules appId desk).2.length ≤ desk.length + 1 := by
  have fewer : ∀ change : Filing → Option Filing, (desk.filterMap change).length ≤ desk.length + 1 :=
    fun change => (List.length_filterMap_le change desk).trans (Nat.le_succ _)
  cases command with
  | submitForReview versionId platform =>
      cases found : rules.reusable appId platform desk with
      | some filing =>
          simp only [perform, found]
          exact fewer _
      | none =>
          simp only [perform, found]
          by_cases room : (desk.filter (Filing.openFor appId)).length < rules.limit
          · rw [if_pos room, List.length_append, List.length_singleton]
          · rw [if_neg room]
            exact Nat.le_succ _
  | cancelSubmission => exact fewer _
  | discardReviewSubmission id => exact fewer _
  | submitReviewSubmission id =>
      cases found : desk.at? id with
      | none =>
          simp only [perform, found]
          exact Nat.le_succ _
      | some filing =>
          simp only [perform, found]
          by_cases filled : filing.isFilled = true
          · rw [if_pos filled]
            exact fewer _
          · rw [if_neg filled]
            exact Nat.le_succ _
  | cancelReview =>
      cases found : desk.find? (Filing.reviewedFor appId) with
      | none =>
          simp only [perform, found]
          exact Nat.le_succ _
      | some filing =>
          simp only [perform, found]
          exact fewer _
  | fetchReviewSubmissions => exact Nat.le_succ _

def performAll (rules : ReviewRules) (appId : String) : List ReviewCommand → Desk →
    List (Except StackError (Returned ReviewSubmission)) × Desk
  | [], desk => ([], desk)
  | command :: rest, desk =>
      let done := command.perform rules appId desk
      let later := performAll rules appId rest done.2
      (done.1 :: later.1, later.2)

def SpeaksAll (client : AppStoreClient) (rules : ReviewRules) (appId : String) : List ReviewCommand → Desk → Prop
  | [], _ => True
  | command :: rest, desk =>
      command.Speaks client rules appId desk ∧ SpeaksAll client rules appId rest (command.perform rules appId desk).2

theorem session_performs (app : PlainText appId) (commands : List ReviewCommand) (sound : desk.Sound rules.size)
    (plain : ∀ command ∈ commands, command.Plain) (speaks : SpeaksAll client rules appId commands desk) (fuel : Nat)
    (enough : desk.length + commands.length ≤ fuel) :
    runAll (rules.handler client) (commands.map fun command => command.run client fuel appId) desk =
        ((performAll rules appId commands desk).1.map some, (performAll rules appId commands desk).2) ∧
      (performAll rules appId commands desk).2.Sound rules.size := by
  induction commands generalizing desk with
  | nil => exact ⟨rfl, sound⟩
  | cons command rest ih =>
      rw [List.length_cons] at enough
      have grown : (command.perform rules appId desk).2.length ≤ desk.length + 1 := perform_length rules appId command
      obtain ⟨trace, ran⟩ := leads_command client rules appId app command sound (plain command List.mem_cons_self) speaks.1 fuel
        (by omega)
      obtain ⟨later, still⟩ := ih (perform_sound rules appId command sound)
        (fun other inside => plain other (List.mem_cons_of_mem _ inside)) speaks.2 (by omega)
      refine ⟨?_, still⟩
      rw [List.map_cons, runAll, ran]
      dsimp only
      rw [later]
      rfl

end Performing

end ReviewCommand

-- A session on the review submissions of an app: every operation answers, and
-- leaves the submissions, as the desk it stands for.
theorem sessions_keep_desk (client : AppStoreClient) (rules : ReviewRules) (appId : String) (app : PlainText appId)
    (commands : List ReviewCommand) (desk : Desk) (sound : desk.Sound rules.size) (plain : ∀ command ∈ commands, command.Plain)
    (speaks : ReviewCommand.SpeaksAll client rules appId commands desk) (fuel : Nat)
    (enough : desk.length + commands.length ≤ fuel) :
    runAll (rules.handler client) (commands.map fun command => command.run client fuel appId) desk =
        ((ReviewCommand.performAll rules appId commands desk).1.map some, (ReviewCommand.performAll rules appId commands desk).2) ∧
      (ReviewCommand.performAll rules appId commands desk).2.Sound rules.size :=
  ReviewCommand.session_performs client rules appId app commands sound plain speaks fuel enough

theorem withdrawn_app (filing left : Filing) (emptied : Option String) (becomes : filing.withdrawn emptied = some left) :
    left.app = filing.app := by
  rw [Filing.withdrawn] at becomes
  split at becomes
  · cases becomes
    rfl
  · split at becomes
    · obtain ⟨state, _, rfl⟩ := Option.map_eq_some_iff.mp becomes
      rfl
    · cases becomes
      rfl

theorem withdrawn_all (rules : ReviewRules) (appId : String) (desk : Desk)
    (fits : (desk.filter (Filing.openFor appId)).length ≤ rules.size)
    (settled : (rules.firstPage (Filing.openFor appId) desk).any (Filing.lingers rules.emptied) = false) :
    ∀ left ∈ desk.withdrawing rules.emptied (rules.firstPage (Filing.openFor appId) desk), left.openFor appId = false := by
  intro left inside
  obtain ⟨filing, known, becomes⟩ := List.mem_filterMap.mp inside
  have whole : rules.firstPage (Filing.openFor appId) desk = desk.filter (Filing.openFor appId) := List.take_of_length_le fits
  rw [whole] at settled becomes
  by_cases opened : filing.openFor appId = true
  · have listed : filing ∈ desk.filter (Filing.openFor appId) := List.mem_filter.mpr ⟨known, opened⟩
    rw [if_pos listed] at becomes
    have removable : filing.lingers rules.emptied = false := by
      rw [List.any_eq_false] at settled
      exact Bool.eq_false_iff.mpr (settled filing listed)
    rw [Filing.openFor, withdrawn_settles rules filing left removable becomes, Bool.and_false]
  · have other : filing ∉ desk.filter (Filing.openFor appId) := fun listed => opened (List.mem_filter.mp listed).2
    rw [if_neg other] at becomes
    cases becomes
    exact Bool.eq_false_iff.mpr opened

theorem withdrawing_elsewhere (emptied : Option String) (appId : String) (listed : List Filing)
    (own : ∀ filing ∈ listed, filing.belongs appId = true) (desk : Desk) :
    (desk.withdrawing emptied listed).filter (fun filing => !filing.belongs appId) =
      desk.filter fun filing => !filing.belongs appId := by
  induction desk with
  | nil => rfl
  | cons filing rest ih =>
      rw [Desk.withdrawing] at ih ⊢
      by_cases inside : filing ∈ listed
      · have belongs := own filing inside
        rw [List.filter_cons_of_neg (by simp [belongs]), ← ih]
        cases becomes : filing.withdrawn emptied with
        | none => rw [List.filterMap_cons_none (by rw [if_pos inside, becomes])]
        | some left =>
            have same : left.belongs appId = true := by
              rw [Filing.belongs, withdrawn_app filing left emptied becomes]
              exact belongs
            rw [List.filterMap_cons_some (by rw [if_pos inside, becomes]), List.filter_cons_of_neg (by simp [same])]
      · rw [List.filterMap_cons_some (by rw [if_neg inside]), List.filter_cons, List.filter_cons, ih]

-- With nothing open, a version goes to review in a submission of its own.
theorem perform_alone (rules : ReviewRules) (appId versionId : String) (platform : Option String) (desk : Desk)
    (closed : ∀ filing ∈ desk, filing.openFor appId = false) (room : 0 < rules.limit) :
    (ReviewCommand.submitForReview versionId platform).perform rules appId desk =
      (.ok .done, desk ++ [rules.submittedWith (desk ++ [rules.opened desk appId platform]) versionId
        (rules.opened desk appId platform)]) := by
  have noDraft : rules.reusable appId platform desk = none := by
    rw [ReviewRules.reusable, List.find?_eq_none]
    intro filing inside _
    obtain ⟨known, wanted⟩ := rules.first_page_known _ inside
    rw [Filing.draftFor, Bool.and_eq_true, Bool.and_eq_true] at wanted
    have opened : filing.openFor appId = true := by rw [Filing.openFor, wanted.1.1, Filing.isOpen, wanted.1.2]; rfl
    rw [closed filing known] at opened
    cases opened
  have nothing : desk.filter (Filing.openFor appId) = [] := by
    rw [List.filter_eq_nil_iff]
    intro filing inside
    exact Bool.eq_false_iff.mp (closed filing inside)
  simp only [ReviewCommand.perform, noDraft, nothing, List.length_nil, if_pos room]

theorem cancel_settles (client : AppStoreClient) (rules : ReviewRules) (appId : String) (app : PlainText appId) (desk : Desk)
    (sound : desk.Sound rules.size) (speaks : ReviewCommand.cancelSubmission.Speaks client rules appId desk) (fuel : Nat)
    (positive : 0 < fuel)
    (canceled : (exec (rules.handler client) (client.cancelSubmission fuel appId) desk).outcome = some (.ok ())) :
    (rules.firstPage (Filing.openFor appId) desk).any (Filing.lingers rules.emptied) = false := by
  obtain ⟨trace, ran⟩ := rules.leads_cancel_submission client appId app sound speaks.1 speaks.2 fuel positive
  rw [ran] at canceled
  cases lingering : (rules.firstPage (Filing.openFor appId) desk).any (Filing.lingers rules.emptied) with
  | false => rfl
  | true =>
      rw [lingering, if_pos rfl] at canceled
      cases canceled

theorem first_page_own (rules : ReviewRules) (appId : String) (desk : Desk) :
    ∀ filing ∈ rules.firstPage (Filing.openFor appId) desk, filing.belongs appId = true := by
  intro filing inside
  have opened := (rules.first_page_known _ inside).2
  rw [Filing.openFor, Bool.and_eq_true] at opened
  exact opened.1

theorem submitted_open (rules : ReviewRules) (held desk : Desk) (appId versionId : String) (platform : Option String) :
    (rules.submittedWith held versionId (rules.opened desk appId platform)).belongs appId = true ∧
      (rules.submittedWith held versionId (rules.opened desk appId platform)).openFor appId = true := by
  have ours : (rules.submittedWith held versionId (rules.opened desk appId platform)).belongs appId = true := decide_eq_true rfl
  refine ⟨ours, ?_⟩
  rw [Filing.openFor, ours]
  rfl

-- Once a cancellation is reported done, the next submission is the only open one
-- of the app, and the submissions of other apps are as they were.
theorem resubmission_stands_alone (client : AppStoreClient) (rules : ReviewRules) (appId versionId : String)
    (platform : Option String) (app : PlainText appId) (named : ∀ name ∈ platform, PlainText name) (desk : Desk)
    (sound : desk.Sound rules.size) (fits : (desk.filter (Filing.openFor appId)).length ≤ rules.size) (room : 0 < rules.limit)
    (fuel : Nat) (enough : desk.length + 3 ≤ fuel)
    (speaks : ReviewCommand.SpeaksAll client rules appId
      [.cancelSubmission, .submitForReview versionId platform, .fetchReviewSubmissions] desk)
    (canceled : (exec (rules.handler client) (client.cancelSubmission fuel appId) desk).outcome = some (.ok ())) :
    ∃ left filing, runAll (rules.handler client)
        ([.cancelSubmission, .submitForReview versionId platform, .fetchReviewSubmissions].map fun command =>
          ReviewCommand.run client fuel appId command) desk =
        ([some (.ok .done), some (.ok .done),
          some (.ok (.infos ((left.filter (Filing.belongs appId)).map (Filing.info appId))))], left) ∧
      left.filter (Filing.openFor appId) = [filing] ∧ filing.state = submittedState ∧ filing.platform = platform ∧
      filing.items.map Prod.snd = [versionId] ∧
      (left.filter fun filing => !filing.belongs appId) = desk.filter fun filing => !filing.belongs appId := by
  have plain : ∀ command ∈ [.cancelSubmission, .submitForReview versionId platform, .fetchReviewSubmissions],
      ReviewCommand.Plain command := by
    intro command inside
    rcases List.mem_cons.mp inside with rfl | inside
    · trivial
    · rcases List.mem_pair.mp inside with rfl | rfl
      · exact named
      · trivial
  have performs := (ReviewCommand.session_performs client rules appId app
    [.cancelSubmission, .submitForReview versionId platform, .fetchReviewSubmissions] sound plain speaks fuel enough).1
  have settled := cancel_settles client rules appId app desk sound speaks.1 fuel (by omega) canceled
  have closed := withdrawn_all rules appId desk fits settled
  have elsewhere := withdrawing_elsewhere rules.emptied appId _ (first_page_own rules appId desk) desk
  have first : ReviewCommand.cancelSubmission.perform rules appId desk =
      (.ok .done, desk.withdrawing rules.emptied (rules.firstPage (Filing.openFor appId) desk)) := by
    rw [ReviewCommand.perform, settled]
    rfl
  generalize desk.withdrawing rules.emptied (rules.firstPage (Filing.openFor appId) desk) = rest at closed first elsewhere
  simp only [ReviewCommand.performAll, first, perform_alone rules appId versionId platform rest closed room] at performs
  obtain ⟨ours, opened⟩ := submitted_open rules (rest ++ [rules.opened rest appId platform]) rest appId versionId platform
  refine ⟨_, rules.submittedWith (rest ++ [rules.opened rest appId platform]) versionId (rules.opened rest appId platform),
    performs, ?_, rfl, rfl, rfl, ?_⟩
  · have others : rest.filter (Filing.openFor appId) = [] := by
      rw [List.filter_eq_nil_iff]
      intro filing inside
      exact Bool.eq_false_iff.mp (closed filing inside)
    rw [List.filter_append, others, List.nil_append, List.filter_cons_of_pos opened, List.filter_nil]
  · rw [List.filter_append, elsewhere, List.filter_cons_of_neg (by simp [ours]), List.filter_nil, List.append_nil]

def longer (letter : Char) (ids : List String) : String := String.ofList (List.replicate ((String.join ids).length + 1) letter)

theorem longer_unused (letter : Char) (ids : List String) : longer letter ids ∉ ids := by
  intro inside
  have bound := length_le_join ids _ inside
  rw [longer, String.length_ofList, List.length_replicate] at bound
  omega

theorem repeated_plain (letter : Char) (plain : isPlain letter = true) (count : Nat) :
    PlainText (String.ofList (List.replicate count letter)) := by
  intro char inside
  rw [String.toList_ofList] at inside
  rwa [List.eq_of_mem_replicate inside]

-- Room for one open submission, a draft without items is gone, and pages of two.
def strictRules : ReviewRules where
  fresh desk := longer 'S' (desk.map Filing.id)
  unused desk := longer_unused 'S' _
  plain desk := repeated_plain 'S' rfl _
  freshItem desk := longer 'I' desk.itemIds
  unusedItem desk := longer_unused 'I' _
  plainItem desk := repeated_plain 'I' rfl _
  limit := 1
  emptied := none
  unsent := nofun
  size := 2
  positive := by decide
  cursor offset := String.ofList (List.replicate offset 'c')
  offset text := some text.length
  found offset := by rw [String.length_ofList, List.length_replicate]
  plainCursor offset := repeated_plain 'c' rfl _

def busyDesk : Desk :=
  [⟨"C", "A", none, "COMPLETE", []⟩, ⟨"D", "A", none, draftState, [("J", "V0")]⟩, ⟨"E", "B", none, draftState, []⟩,
    ⟨"S", "A", none, submittedState, []⟩]

def closedFiling : Filing := ⟨"C", "A", none, "COMPLETE", []⟩
def clearedFiling : Filing := ⟨"S", "A", none, canceledState, []⟩
def otherFiling : Filing := ⟨"E", "B", none, draftState, []⟩
def freshFiling : Filing := ⟨"SSSS", "A", none, draftState, []⟩
def sentFiling : Filing := ⟨"SSSS", "A", none, submittedState, [("I", "V")]⟩

def clearedDesk : Desk := [closedFiling, otherFiling, clearedFiling]
def sentDesk : Desk := clearedDesk ++ [sentFiling]

def silentClient : AppStoreClient := ⟨"https://host", .reading []⟩

def deskClient : AppStoreClient :=
  ⟨"https://host", .reading ([strictRules.activePage silentClient "A" busyDesk,
    strictRules.draftsPage silentClient "A" none clearedDesk, freshFiling.documentJson, clearedFiling.documentJson] ++
    (List.range 4).map (strictRules.everyPage silentClient "A" sentDesk) ++
    (busyDesk.map (strictRules.deletionPage silentClient) ++ busyDesk.map Filing.documentJson))⟩

def deskSession : List ReviewCommand :=
  [.cancelSubmission, .submitForReview "V" none, .submitReviewSubmission "D", .fetchReviewSubmissions]

theorem busy_desk_sound : busyDesk.Sound 2 := by
  refine ⟨by decide, ?_, by decide, ?_, by decide⟩
  · intro filing inside
    exact of_decide_eq_true (List.all_eq_true.mp (rfl : busyDesk.all fun filing => decide (PlainText filing.id)) filing inside)
  · intro id inside
    rw [List.mem_singleton.mp (show id ∈ ["J"] from inside)]
    decide

set_option maxRecDepth 20000 in
theorem desk_session_speaks : ReviewCommand.SpeaksAll deskClient strictRules "A" deskSession busyDesk := by
  have reads : ∀ filing ∈ [⟨"D", "A", none, draftState, [("J", "V0")]⟩, ⟨"S", "A", none, submittedState, []⟩],
      ReviewRules.Reads strictRules deskClient filing := by
    rw [List.forall_mem_cons, List.forall_mem_singleton]
    refine ⟨⟨rfl, rfl, nofun⟩, rfl, rfl, ?_⟩
    rintro _ ⟨rfl⟩
    rfl
  refine ⟨⟨rfl, reads⟩, ⟨rfl, rfl, nofun⟩, trivial, ?_, trivial⟩
  intro offset inside
  match offset, inside with
  | 0, _ | 1, _ | 2, _ | 3, _ => rfl

set_option maxRecDepth 20000 in
theorem busy_desk_resubmitted :
    ∃ left filing, runAll (strictRules.handler deskClient)
        ([.cancelSubmission, .submitForReview "V" none, .fetchReviewSubmissions].map fun command =>
          ReviewCommand.run deskClient 7 "A" command) busyDesk =
        ([some (.ok .done), some (.ok .done), some (.ok (.infos ((left.filter (Filing.belongs "A")).map (Filing.info "A"))))], left) ∧
      left.filter (Filing.openFor "A") = [filing] ∧ filing.state = submittedState ∧ filing.platform = none ∧
      filing.items.map Prod.snd = ["V"] ∧
      (left.filter fun filing => !filing.belongs "A") = busyDesk.filter fun filing => !filing.belongs "A" := by
  have canceled : (exec (strictRules.handler deskClient) (deskClient.cancelSubmission 7 "A") busyDesk).outcome = some (.ok ()) := by
    obtain ⟨trace, ran⟩ := strictRules.leads_cancel_submission deskClient "A" (by decide) busy_desk_sound desk_session_speaks.1.1
      desk_session_speaks.1.2 7 (by decide)
    rw [ran]
    rfl
  exact resubmission_stands_alone deskClient strictRules "A" "V" none (by decide) nofun busyDesk busy_desk_sound (by decide) (by decide)
    7 (by decide) ⟨desk_session_speaks.1, desk_session_speaks.2.1, desk_session_speaks.2.2.2.1, trivial⟩ canceled

set_option maxRecDepth 20000 in
theorem busy_desk_kept :
    ReviewCommand.performAll strictRules "A" deskSession busyDesk = ([.ok .done, .ok .done, .error (.http 404 ""),
        .ok (.infos ([closedFiling, clearedFiling, sentFiling].map (Filing.info "A")))], sentDesk) ∧
      runAll (strictRules.handler deskClient) (deskSession.map fun command => command.run deskClient 8 "A") busyDesk =
          ((ReviewCommand.performAll strictRules "A" deskSession busyDesk).1.map some,
            (ReviewCommand.performAll strictRules "A" deskSession busyDesk).2) ∧
        (ReviewCommand.performAll strictRules "A" deskSession busyDesk).2.Sound 2 := by
  have plain : ∀ command ∈ deskSession, command.Plain := by
    rw [deskSession, List.forall_mem_cons, List.forall_mem_cons, List.forall_mem_cons, List.forall_mem_singleton]
    exact ⟨trivial, nofun, (by decide : PlainText "D"), trivial⟩
  exact ⟨rfl, sessions_keep_desk deskClient strictRules "A" (by decide) deskSession busyDesk busy_desk_sound plain
    desk_session_speaks 8 (by decide)⟩

end StackConnect
