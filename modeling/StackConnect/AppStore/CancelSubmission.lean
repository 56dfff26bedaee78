import StackConnect.AppStore.Discard

set_option autoImplicit false

namespace StackConnect

open Interaction Serde

variable {S : Type} {α β : Type} (client : AppStoreClient)

-- A failure that is not the honest report about an empty draft.
def Hard (result : Except StackError α) : Prop := ∀ error, result = .error error → error.isNotRemovable = false

theorem hard_ok (value : α) : Hard (.ok value : Except StackError α) := by
  intro error failed
  cases failed

theorem hard_bind (result : Except StackError α) (next : α → Except StackError β) (first : Hard result)
    (second : ∀ value, Hard (next value)) : Hard (result >>= next) := by
  cases result with
  | error failure =>
      intro error failed
      exact first error (by cases failed; rfl)
  | ok value => exact second value

theorem hard_called (request : Request) (trace : Trace) (raw : Except StackError (Nat × String))
    (call : Called request trace raw) : Hard raw := by
  intro error failed
  cases call <;> cases failed <;> rfl

theorem hard_accepted (response : Nat × String) : Hard (accepted response) := by
  intro error failed
  rw [accepted] at failed
  split at failed
  · cases failed
  · cases failed
    exact status_error_removable _ _

theorem hard_parse (type label : String) (decoder : Decoder α) (body : String) :
    Hard (client.parse type label decoder body) := by
  intro error failed
  rw [AppStoreClient.parse] at failed
  split at failed
  · cases failed
  · cases failed
    rfl

def PageRead (url : String) (trace : Trace) (result : Except StackError ReviewSubmissionItemsResponse) : Prop :=
  ∃ raw, Called (.get url) trace raw ∧ result = raw >>= accepted >>= client.parseSubmissionItems

def ItemDeleted (id : String) (trace : Trace) (result : Except StackError Unit) : Prop :=
  ∃ raw, Called (ReviewRequest.removing client.baseUrl id) trace raw ∧
    result = raw >>= accepted >>= fun _ => .ok ()

inductive ItemsDeleted : List String → Trace → Except StackError Unit → Prop
  | all : ItemsDeleted [] [] (.ok ())
  | refused (id : String) (rest : List String) (trace : Trace) (error : StackError)
      (failed : ItemDeleted client id trace (.error error)) : ItemsDeleted (id :: rest) trace (.error error)
  | next (id : String) (rest : List String) (first later : Trace) (result : Except StackError Unit)
      (deleted : ItemDeleted client id first (.ok ())) (others : ItemsDeleted rest later result) :
      ItemsDeleted (id :: rest) (first ++ later) result

-- The pages of a draft one after the other: each is read, every item it lists
-- is deleted, and its link leads to the next. A failure ends the walk.
inductive ItemsWalk : String → Trace → Except StackError Unit → Prop
  | unread (url : String) (trace : Trace) (error : StackError)
      (failed : PageRead client url trace (.error error)) : ItemsWalk url trace (.error error)
  | refused (url : String) (page : ReviewSubmissionItemsResponse) (read deleted : Trace) (error : StackError)
      (listed : PageRead client url read (.ok page))
      (failed : ItemsDeleted client (page.data.map ResourceIdentifier.id) deleted (.error error)) :
      ItemsWalk url (read ++ deleted) (.error error)
  | last (url : String) (page : ReviewSubmissionItemsResponse) (read deleted : Trace)
      (listed : PageRead client url read (.ok page))
      (emptied : ItemsDeleted client (page.data.map ResourceIdentifier.id) deleted (.ok ()))
      (ends : page.links.next = none) : ItemsWalk url (read ++ deleted) (.ok ())
  | more (url next : String) (page : ReviewSubmissionItemsResponse) (read deleted rest : Trace)
      (result : Except StackError Unit) (listed : PageRead client url read (.ok page))
      (emptied : ItemsDeleted client (page.data.map ResourceIdentifier.id) deleted (.ok ()))
      (goes : page.links.next = some next) (walk : ItemsWalk next rest result) :
      ItemsWalk url (read ++ (deleted ++ rest)) result

def reportedState (response : Nat × String) : Except StackError (Option (Option String)) :=
  if response.1 = 404 then .ok none
  else accepted response >>= client.parseReviewSubmission >>= fun document =>
    .ok (some document.data.attributes.state)

def StateRead (id : String) (trace : Trace) (result : Except StackError (Option (Option String))) : Prop :=
  ∃ raw, Called (ReviewRequest.reading client.baseUrl id) trace raw ∧ result = raw >>= reportedState client

inductive Ending where
  | cleared
  | lingering
  | broken (error : StackError)
deriving DecidableEq

def Ending.result : Ending → Except StackError Unit
  | .cleared => .ok ()
  | .lingering => .error notRemovableError
  | .broken error => .error error

inductive Handled (submission : ReviewSubmissionResource) : Trace → Ending → Prop
  | canceled (trace : Trace) (response : Nat × String) (sent : SentToReview submission.attributes.state)
      (call : Called (ReviewRequest.canceling client.baseUrl submission.id) trace (.ok response))
      (success : isSuccess response.1 = true) : Handled submission trace .cleared
  | cancelRefused (trace : Trace) (raw : Except StackError (Nat × String)) (error : StackError)
      (sent : SentToReview submission.attributes.state)
      (call : Called (ReviewRequest.canceling client.baseUrl submission.id) trace raw)
      (failed : raw >>= accepted = .error error) : Handled submission trace (.broken error)
  | unemptied (trace : Trace) (error : StackError) (ready : ReadyForReview submission.attributes.state)
      (walk : ItemsWalk client (ReviewRequest.itemsUrl client.baseUrl submission.id ++ "?include=appStoreVersion") trace
        (.error error)) :
      Handled submission trace (.broken error)
  | unverified (emptied read : Trace) (error : StackError) (ready : ReadyForReview submission.attributes.state)
      (walk : ItemsWalk client (ReviewRequest.itemsUrl client.baseUrl submission.id ++ "?include=appStoreVersion") emptied (.ok ()))
      (failed : StateRead client submission.id read (.error error)) : Handled submission (emptied ++ read) (.broken error)
  | verified (emptied read : Trace) (reported : Option (Option String)) (ready : ReadyForReview submission.attributes.state)
      (walk : ItemsWalk client (ReviewRequest.itemsUrl client.baseUrl submission.id ++ "?include=appStoreVersion") emptied (.ok ()))
      (verified : StateRead client submission.id read (.ok reported)) (left : reported ≠ some (some "READY_FOR_REVIEW")) :
      Handled submission (emptied ++ read) .cleared
  | lingering (emptied read : Trace) (ready : ReadyForReview submission.attributes.state)
      (walk : ItemsWalk client (ReviewRequest.itemsUrl client.baseUrl submission.id ++ "?include=appStoreVersion") emptied (.ok ()))
      (verified : StateRead client submission.id read (.ok (some (some "READY_FOR_REVIEW")))) :
      Handled submission (emptied ++ read) .lingering
  | skipped (notSent : ¬ SentToReview submission.attributes.state)
      (notReady : ¬ ReadyForReview submission.attributes.state) : Handled submission [] .cleared

structure Handling where
  submission : ReviewSubmissionResource
  events : Trace
  ending : Ending
  handled : Handled client submission events ending

def Handling.isBroken (handling : Handling client) : Prop := ∃ error, handling.ending = .broken error

theorem hard_page_read (url : String) (trace : Trace) (result : Except StackError ReviewSubmissionItemsResponse)
    (read : PageRead client url trace result) : Hard result := by
  obtain ⟨raw, call, rfl⟩ := read
  exact hard_bind _ _ (hard_bind _ _ (hard_called _ _ _ call) hard_accepted) fun _ => hard_parse client _ _ _ _

theorem hard_item_deleted (id : String) (trace : Trace) (result : Except StackError Unit)
    (deleted : ItemDeleted client id trace result) : Hard result := by
  obtain ⟨raw, call, rfl⟩ := deleted
  exact hard_bind _ _ (hard_bind _ _ (hard_called _ _ _ call) hard_accepted) fun _ => hard_ok ()

theorem hard_items_deleted (ids : List String) (trace : Trace) (result : Except StackError Unit)
    (deleted : ItemsDeleted client ids trace result) : Hard result := by
  induction deleted with
  | all => exact hard_ok ()
  | refused id rest trace error failed => exact hard_item_deleted client id trace _ failed
  | next id rest first later result deleted others ih => exact ih

theorem hard_items_walk (url : String) (trace : Trace) (result : Except StackError Unit)
    (walk : ItemsWalk client url trace result) : Hard result := by
  induction walk with
  | unread url trace error failed =>
      intro other same
      cases same
      exact hard_page_read client url trace _ failed error rfl
  | refused url page read deleted error listed failed =>
      exact hard_items_deleted client _ deleted _ failed
  | last url page read deleted listed emptied ends => exact hard_ok ()
  | more url next page read deleted rest result listed emptied goes walk ih => exact ih

theorem hard_state_read (id : String) (trace : Trace) (result : Except StackError (Option (Option String)))
    (read : StateRead client id trace result) : Hard result := by
  obtain ⟨raw, call, rfl⟩ := read
  apply hard_bind _ _ (hard_called _ _ _ call)
  intro response
  rw [reportedState]
  split
  · exact hard_ok none
  · exact hard_bind _ _ (hard_bind _ _ (hard_accepted response) fun _ => hard_parse client _ _ _ _) fun _ => hard_ok _

theorem ends_fetch_items (url : String) : Ends (client.fetchSubmissionItemsPage url) (PageRead client url) :=
  ends_exchange_judged (.get url) client.parseSubmissionItems

theorem ends_delete_item (id : String) : Ends (client.deleteReviewSubmissionItem id) (ItemDeleted client id) :=
  ends_exchange_judged (.delete (client.reviewSubmissionItemUrl id)) fun _ => .ok ()

theorem ends_delete_items (items : List ResourceIdentifier) :
    Ends (items.forM fun item => client.deleteReviewSubmissionItem item.id)
      (ItemsDeleted client (items.map ResourceIdentifier.id)) := by
  induction items with
  | nil => exact ends_done _ .all
  | cons item rest ih =>
      apply ends_bind (ends_delete_item client item.id)
      · intro trace error failed
        exact .refused item.id _ trace error failed
      · intro first value deleted
        apply ends_mono ih
        intro later result others
        exact .next item.id _ first later result deleted others

inductive PageEmptied (url : String) : Trace → Except StackError (Unit × Option String) → Prop
  | broken (trace : Trace) (error : StackError) (walk : ItemsWalk client url trace (.error error)) :
      PageEmptied url trace (.error error)
  | emptied (page : ReviewSubmissionItemsResponse) (read deleted : Trace) (listed : PageRead client url read (.ok page))
      (gone : ItemsDeleted client (page.data.map ResourceIdentifier.id) deleted (.ok ())) :
      PageEmptied url (read ++ deleted) (.ok ((), page.links.next))

theorem ends_delete_items_page (url : String) : Ends (client.deleteItemsPage () url) (PageEmptied client url) := by
  apply ends_bind (ends_fetch_items client url)
  · intro trace error failed
    exact .broken trace error (.unread url trace error failed)
  · intro read page listed
    apply ends_judged (fun _ => .ok ((), page.links.next)) (ends_delete_items client page.data)
    intro deleted result emptied
    cases result with
    | error failure => exact .broken _ failure (.refused url page read deleted failure listed emptied)
    | ok value => exact .emptied page read deleted listed emptied

theorem yields_items_walk (fuel : Nat) (url : String) :
    Yields (whileSome client.deleteItemsPage fuel () (some url)) (ItemsWalk client url) := by
  induction fuel generalizing url with
  | zero => exact yields_cut
  | succ fuel ih =>
      rw [while_some_succ]
      apply yields_bind (ends_delete_items_page client url).toYields
      · intro trace error broken
        cases broken with
        | broken _ _ walk => exact walk
      · intro before step emptied
        cases emptied with
        | emptied page read deleted listed gone =>
            dsimp only
            cases link : page.links.next with
            | none =>
                rw [while_some_none]
                apply yields_done
                rw [List.append_nil]
                exact .last url page read deleted listed gone link
            | some next =>
                apply yields_mono (ih next)
                intro rest result walk
                rw [List.append_assoc]
                exact .more url next page read deleted rest result listed gone link walk

theorem state_read_judged (id : String) : client.getReviewSubmissionState id =
    (authorized (.get (client.reviewSubmissionUrl id)) >>= fun response => .done (reportedState client response)) := by
  unfold AppStoreClient.getReviewSubmissionState reportedState
  congr 1
  funext response
  obtain ⟨status, body⟩ := response
  by_cases missing : status = 404
  · simp only [if_pos missing, Prog.pure_eq]
  · simp only [if_neg missing, Prog.of_except, Prog.pure_eq]
    rw [← Prog.bind_assoc, Prog.done_bind_done]
    exact Prog.done_bind_done _ fun document : ReviewSubmissionDocument => .ok (some document.data.attributes.state)

theorem ends_state_read (id : String) : Ends (client.getReviewSubmissionState id) (StateRead client id) := by
  rw [state_read_judged]
  apply ends_judged (reportedState client) (ends_authorized _)
  intro trace raw call
  exact ⟨raw, call, rfl⟩

def EndsHandled (submission : ReviewSubmissionResource) (trace : Trace) (result : Except StackError Unit) : Prop :=
  ∃ ending, Handled client submission trace ending ∧ result = ending.result

theorem yields_discard_ready (fuel : Nat) (submission : ReviewSubmissionResource)
    (ready : ReadyForReview submission.attributes.state) :
    Yields (client.discardReadyForReviewSubmission fuel submission.id) (EndsHandled client submission) := by
  apply yields_bind (yields_items_walk client fuel _)
  · intro trace error walk
    exact ⟨.broken error, .unemptied trace error ready walk, rfl⟩
  · intro emptied value walk
    apply Ends.toYields
    apply ends_bind (ends_state_read client submission.id)
    · intro read error failed
      exact ⟨.broken error, .unverified emptied read error ready walk failed, rfl⟩
    · intro read reported stateRead
      by_cases draft : reported = some (some "READY_FOR_REVIEW")
      · subst draft
        apply ends_done
        rw [List.append_nil]
        exact ⟨.lingering, .lingering emptied read ready walk stateRead, rfl⟩
      · have left : EndsHandled client submission (emptied ++ (read ++ [])) (.ok ()) := by
          rw [List.append_nil]
          exact ⟨.cleared, .verified emptied read reported ready walk stateRead draft, rfl⟩
        cases reported with
        | none => exact ends_done _ left
        | some state =>
            split
            · rename_i impossible
              cases impossible
            · rename_i same
              exact absurd same draft
            · exact ends_done _ left

theorem ends_cancel_patch (submission : ReviewSubmissionResource) (sent : SentToReview submission.attributes.state) :
    Ends (client.cancelPatch submission.id) fun trace result =>
      ∃ ending, Handled client submission trace ending ∧ result = ending.result ∧ ending ≠ .lingering := by
  rw [AppStoreClient.cancelPatch, token_then_patch]
  apply ends_mono (ends_exchange_judged _ fun _ => .ok ())
  intro trace result answered
  obtain ⟨raw, call, rfl⟩ := answered
  cases judged : raw >>= accepted with
  | error failure => exact ⟨.broken failure, .cancelRefused trace raw failure sent call judged, rfl, nofun⟩
  | ok body =>
      obtain ⟨response, rfl, success⟩ := except_bind_ok raw accepted body judged
      exact ⟨.cleared, .canceled trace response sent call ((accepted_ok _ _).mp success).1, rfl, nofun⟩

def remembered (notRemovable : Option StackError) : Ending → Option StackError
  | .lingering => notRemovable.or (some notRemovableError)
  | _ => notRemovable

theorem hard_handled (submission : ReviewSubmissionResource) (trace : Trace) (error : StackError)
    (handled : Handled client submission trace (.broken error)) : error.isNotRemovable = false := by
  cases handled with
  | cancelRefused _ raw _ _ call failed => exact hard_bind raw accepted (hard_called _ _ _ call) hard_accepted error failed
  | unemptied _ _ _ walk => exact hard_items_walk client _ _ _ walk error rfl
  | unverified emptied read _ _ walk failed => exact hard_state_read client _ _ _ failed error rfl

def RoundEnds (notRemovable : Option StackError) (submission : ReviewSubmissionResource) (trace : Trace)
    (result : Except StackError (Option StackError)) : Prop :=
  ∃ ending, Handled client submission trace ending ∧
    ((∃ error, ending = .broken error ∧ result = .error error) ∨
      ((∀ error, ending ≠ .broken error) ∧ result = .ok (remembered notRemovable ending)))

theorem yields_cancel_round (fuel : Nat) (notRemovable : Option StackError) (submission : ReviewSubmissionResource) :
    Yields (client.cancelRound fuel notRemovable submission) (RoundEnds client notRemovable submission) := by
  by_cases sent : SentToReview submission.attributes.state
  · rw [cancel_round_sent client fuel notRemovable submission sent]
    apply Ends.toYields
    apply ends_judged (fun _ => .ok notRemovable) (ends_cancel_patch client submission sent)
    intro trace result patched
    obtain ⟨ending, handled, rfl, notLingering⟩ := patched
    cases ending with
    | cleared => exact ⟨.cleared, handled, .inr ⟨nofun, rfl⟩⟩
    | lingering => exact absurd rfl notLingering
    | broken error => exact ⟨.broken error, handled, .inl ⟨error, rfl, rfl⟩⟩
  · by_cases ready : ReadyForReview submission.attributes.state
    · rw [cancel_round_ready client fuel notRemovable submission ready]
      apply yields_bind (yields_attempt (yields_discard_ready client fuel submission ready))
      · intro trace error caught
        obtain ⟨result, _, impossible⟩ := caught
        cases impossible
      · intro trace attempted discarded
        obtain ⟨result, ⟨ending, handled, rfl⟩, same⟩ := discarded
        cases same
        apply Ends.toYields
        cases ending with
        | cleared =>
            apply ends_done
            rw [List.append_nil]
            exact ⟨.cleared, handled, .inr ⟨nofun, rfl⟩⟩
        | lingering =>
            apply ends_done
            rw [List.append_nil]
            exact ⟨.lingering, handled, .inr ⟨nofun, rfl⟩⟩
        | broken error =>
            have hard := hard_handled client submission trace error handled
            have passed : RoundEnds client notRemovable submission (trace ++ []) (.error error) := by
              rw [List.append_nil]
              exact ⟨.broken error, handled, .inl ⟨error, rfl, rfl⟩⟩
            cases error with
            | submissionNotRemovable message => cases hard
            | _ => exact ends_done _ passed
    · rw [cancel_round_other client fuel notRemovable submission sent ready]
      apply yields_done
      exact ⟨.cleared, .skipped sent ready, .inr ⟨nofun, rfl⟩⟩

theorem remembered_fold (handled : List (Handling client)) (notRemovable : Option StackError) :
    handled.foldl (fun kept handling => remembered kept handling.ending) notRemovable =
      if ∃ handling ∈ handled, handling.ending = .lingering then notRemovable.or (some notRemovableError)
      else notRemovable := by
  induction handled generalizing notRemovable with
  | nil => simp
  | cons first rest ih =>
      rw [List.foldl_cons, ih]
      by_cases here : first.ending = .lingering
      · by_cases later : ∃ handling ∈ rest, handling.ending = .lingering
        · rw [if_pos later, if_pos ⟨first, List.mem_cons_self, here⟩, here]
          cases notRemovable <;> rfl
        · rw [if_neg later, if_pos ⟨first, List.mem_cons_self, here⟩, here]
          rfl
      · have same : remembered notRemovable first.ending = notRemovable := by
          cases ended : first.ending with
          | lingering => exact absurd ended here
          | cleared => rfl
          | broken error => rfl
        simp only [same, List.exists_mem_cons_iff, here, false_or]

def RoundsEnd (submissions : List ReviewSubmissionResource) (notRemovable : Option StackError) (trace : Trace)
    (result : Except StackError (Option StackError)) : Prop :=
  ∃ handled : List (Handling client), trace = handled.flatMap Handling.events ∧
    (((∀ handling ∈ handled, ¬ handling.isBroken) ∧ handled.map Handling.submission = submissions ∧
        result = .ok (handled.foldl (fun kept handling => remembered kept handling.ending) notRemovable)) ∨
      ∃ before last error, handled = before ++ [last] ∧ last.ending = .broken error ∧
        (∀ handling ∈ before, ¬ handling.isBroken) ∧ handled.map Handling.submission <+: submissions ∧
        result = .error error)

theorem rounds_end_cons (handling : Handling client) (unbroken : ¬ handling.isBroken)
    (rest : List ReviewSubmissionResource) (notRemovable : Option StackError) (later : Trace)
    (result : Except StackError (Option StackError))
    (ended : RoundsEnd client rest (remembered notRemovable handling.ending) later result) :
    RoundsEnd client (handling.submission :: rest) notRemovable (handling.events ++ later) result := by
  obtain ⟨others, rfl, cases⟩ := ended
  have whole : ∀ several : List (Handling client), (∀ other ∈ several, ¬ other.isBroken) →
      ∀ other ∈ handling :: several, ¬ other.isBroken := by
    intro several fine other inside
    rcases List.mem_cons.mp inside with rfl | later
    · exact unbroken
    · exact fine other later
  rcases cases with ⟨fine, covered, rfl⟩ | ⟨before, last, error, rfl, broken, fine, covered, rfl⟩
  · have all : (handling :: others).map Handling.submission = handling.submission :: rest := by
      rw [List.map_cons, covered]
    exact ⟨handling :: others, rfl, .inl ⟨whole others fine, all, rfl⟩⟩
  · have part : (handling :: (before ++ [last])).map Handling.submission <+: handling.submission :: rest := by
      rw [List.map_cons]
      exact List.cons_prefix_cons.mpr ⟨rfl, covered⟩
    exact ⟨handling :: (before ++ [last]), rfl,
      .inr ⟨handling :: before, last, error, rfl, broken, whole before fine, part, rfl⟩⟩

theorem yields_cancel_rounds (fuel : Nat) (submissions : List ReviewSubmissionResource) (notRemovable : Option StackError) :
    Yields (submissions.foldlM (client.cancelRound fuel) notRemovable) (RoundsEnd client submissions notRemovable) := by
  induction submissions generalizing notRemovable with
  | nil =>
      apply yields_done
      exact ⟨[], rfl, .inl ⟨by simp, rfl, rfl⟩⟩
  | cons submission rest ih =>
      rw [List.foldlM_cons]
      apply yields_bind (yields_cancel_round client fuel notRemovable submission)
      · intro trace error round
        obtain ⟨ending, handled, ended⟩ := round
        rcases ended with ⟨other, broken, same⟩ | ⟨_, impossible⟩
        · have events : trace = [(⟨submission, trace, ending, handled⟩ : Handling client)].flatMap Handling.events := by simp
          exact ⟨[⟨submission, trace, ending, handled⟩], events,
            .inr ⟨[], _, other, rfl, broken, by simp, ⟨rest, rfl⟩, same⟩⟩
        · cases impossible
      · intro first kept round
        obtain ⟨ending, handled, ended⟩ := round
        rcases ended with ⟨error, _, impossible⟩ | ⟨unbroken, same⟩
        · cases impossible
        · cases same
          apply yields_mono (ih (remembered notRemovable ending))
          intro later result others
          have fine : ¬ (⟨submission, first, ending, handled⟩ : Handling client).isBroken := not_exists.mpr unbroken
          exact rounds_end_cons client ⟨submission, first, ending, handled⟩ fine rest notRemovable later result others

def FiniteItems (handler : Handler Answer S) (id : String) : Prop :=
  ∀ state, Settles handler client.deleteItemsPage () (some (client.submissionItemsUrl id ++ "?include=appStoreVersion")) state

theorem discard_ready_converges (handler : Handler Answer S) (id : String) (finite : FiniteItems client handler id)
    (state : S) : Converges handler (fun fuel => client.discardReadyForReviewSubmission fuel id) state := by
  have uncut : ∀ kept url trace, ¬ Runs (client.deleteItemsPage kept url) trace none :=
    fun _ url => (ends_delete_items_page client url).uncut
  apply converges_bind handler _ _ state (converges_while_some handler client.deleteItemsPage uncut () _ state (finite state))
  intro _ reached
  apply converges_const handler _ reached
  apply uncut_bind (ends_state_read client id)
  intro before reported read
  split <;> exact uncut_done _

theorem cancel_round_converges (handler : Handler Answer S) (submission : ReviewSubmissionResource)
    (finite : ReadyForReview submission.attributes.state → FiniteItems client handler submission.id)
    (notRemovable : Option StackError) (state : S) :
    Converges handler (fun fuel => client.cancelRound fuel notRemovable submission) state := by
  by_cases sent : SentToReview submission.attributes.state
  · simp only [cancel_round_sent client _ notRemovable submission sent]
    apply converges_const handler _ state
    exact uncut_bind (ends_cancel_patch client submission sent) fun _ _ _ => uncut_done _
  · by_cases ready : ReadyForReview submission.attributes.state
    · simp only [cancel_round_ready client _ notRemovable submission ready]
      apply converges_bind handler _ _ state
        (converges_attempt handler _ state (discard_ready_converges client handler submission.id (finite ready) state))
      intro result reached
      apply converges_const handler _ reached
      split <;> exact uncut_done _
    · simp only [cancel_round_other client _ notRemovable submission sent ready]
      exact converges_const handler _ state (uncut_done _)

theorem cancel_submission_listed (handler : Handler Answer S) (fuel : Nat) (appId : String) (state : S) (body : String)
    (page : ReviewSubmissionsResponse)
    (listed : (exec handler (getPage (client.activeSubmissionsUrl appId)) state).outcome = some (.ok body))
    (decoded : client.parseReviewSubmissions body = .ok page) :
    exec handler (client.cancelSubmission fuel appId) state =
      (exec handler (client.cancelListed fuel page.data)
        (exec handler (getPage (client.activeSubmissionsUrl appId)) state).state).prepend
        (exec handler (getPage (client.activeSubmissionsUrl appId)) state).trace := by
  rw [AppStoreClient.cancelSubmission]
  rw [exec_bind, Run.andThen, listed]
  simp only [decoded, Prog.of_except, Prog.bind_ok]

-- After the listing, the requests are those of the submissions handled, in page
-- order. Without a hard error that is the whole page, and only a draft that
-- lingers makes the call fail; a hard error ends the call with the submission it broke.
def PageCleared (submissions : List ReviewSubmissionResource) (listing : Trace) (run : Run Answer StackError Unit S) : Prop :=
  ∃ handled : List (Handling client), run.trace = listing ++ handled.flatMap Handling.events ∧
    ((∀ handling ∈ handled, ¬ handling.isBroken) → handled.map Handling.submission = submissions ∧
      run.outcome = some (if ∃ handling ∈ handled, handling.ending = .lingering then .error notRemovableError else .ok ())) ∧
    ∀ error, (∃ handling ∈ handled, handling.ending = .broken error) →
      run.outcome = some (.error error) ∧ ∃ before last, handled = before ++ [last] ∧ last.ending = .broken error ∧
        (∀ handling ∈ before, ¬ handling.isBroken) ∧ handled.map Handling.submission <+: submissions

def submissionJson (id state : String) : Json :=
  .obj [("type", .str "reviewSubmissions"), ("id", .str id), ("attributes", .obj [("state", .str state)])]

def staleListing : Json := .obj [("data", .arr [submissionJson "S1" "READY_FOR_REVIEW", submissionJson "S2" "IN_REVIEW"])]
def noItems : Json := .obj [("data", .arr [])]
def lingeringDraft : Json := .obj [("data", submissionJson "S1" "READY_FOR_REVIEW")]

def staleClient : AppStoreClient := ⟨"https://host", .reading [staleListing, noItems, lingeringDraft]⟩

def staleServer : Handler Answer Unit := replying
  [((.get, staleClient.activeSubmissionsUrl "A"), (200, staleListing.compact)),
    ((.get, staleClient.submissionItemsUrl "S1" ++ "?include=appStoreVersion"), (200, noItems.compact)),
    ((.get, staleClient.reviewSubmissionUrl "S1"), (200, lingeringDraft.compact)),
    ((.patch, staleClient.reviewSubmissionUrl "S2"), (200, ""))]

def stalePage : ReviewSubmissionsResponse :=
  ⟨[⟨"S1", ⟨none, none, some "READY_FOR_REVIEW"⟩, ⟨⟨none⟩, ⟨none⟩⟩⟩, ⟨"S2", ⟨none, none, some "IN_REVIEW"⟩, ⟨⟨none⟩, ⟨none⟩⟩⟩],
    [], ⟨none⟩⟩

end StackConnect
