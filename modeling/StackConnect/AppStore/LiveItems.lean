import StackConnect.AppStore.ItemDeletion

set_option autoImplicit false

namespace StackConnect

open Interaction Serde

variable {S : Type} (client : AppStoreClient) (handler : Handler Answer S)

-- A server whose listing is served as windows of the list as it is at that moment.
structure LiveItems (id : String) (size : Nat) where
  items : S → List String
  cursor : Nat → String
  first : cursor 0 = ReviewRequest.itemsUrl client.baseUrl id ++ "?include=appStoreVersion"
  window : ∀ offset state, ∃ body page after, served handler (.get (cursor offset)) state = (some body, after) ∧
    client.parseSubmissionItems body = .ok page ∧
    page.data.map ResourceIdentifier.id = ((items state).drop offset).take size ∧
    page.links.next = (if offset + size < (items state).length then some (cursor (offset + size)) else none) ∧
    items after = items state
  delete : ∀ item state, item ∈ items state → ∃ body after,
    served handler (ReviewRequest.removing client.baseUrl item) state = (some body, after) ∧
      items after = (items state).erase item

section Live

variable (id : String) (size : Nat) (live : LiveItems client handler id size)

theorem live_window_removed (kept window rest : List String) (state : S)
    (listed : live.items state = kept ++ (window ++ rest)) (distinct : (live.items state).Nodup) :
    ∃ left, ItemsRemoved client handler state window left ∧ live.items left = kept ++ rest := by
  induction window generalizing state with
  | nil => exact ⟨state, .done state, listed⟩
  | cons item others ih =>
      have apart : item ∉ kept := by
        rw [listed] at distinct
        intro inside
        exact (List.nodup_append.mp distinct).2.2 item inside item List.mem_cons_self rfl
      obtain ⟨body, after, gone, erased⟩ := live.delete item state (by rw [listed]; simp)
      have remaining : live.items after = kept ++ (others ++ rest) := by
        rw [erased, listed, List.erase_append_right _ apart, List.cons_append, List.erase_cons_head]
      obtain ⟨left, removed, same⟩ := ih after remaining (erased ▸ distinct.erase item)
      exact ⟨left, .next state after left item others body gone removed, same⟩

theorem exec_live_page (offset : Nat) (state : S) (distinct : (live.items state).Nodup) :
    ∃ left trace, exec handler (client.deleteItemsPage () (live.cursor offset)) state =
        ⟨some (.ok ((), if offset + size < (live.items state).length then some (live.cursor (offset + size)) else none)),
          left, trace⟩ ∧
      live.items left = (live.items state).take offset ++ (live.items state).drop (offset + size) := by
  obtain ⟨body, page, after, replied, decoded, shown, linked, same⟩ := live.window offset state
  have split : live.items after = (live.items state).take offset ++
      (((live.items state).drop offset).take size ++ (live.items state).drop (offset + size)) := by
    rw [same, ← List.drop_drop, List.take_append_drop, List.take_append_drop]
  obtain ⟨left, removed, remaining⟩ := live_window_removed client handler id size live _ _ _ after split (same ▸ distinct)
  rw [← shown] at removed
  obtain ⟨trace, ran, _⟩ := exec_delete_page client handler _ body state after left page replied decoded removed
  rw [linked] at ran
  exact ⟨left, trace, ran, remaining⟩

-- Whatever lies before the offset of a page is never deleted any more.
theorem exec_live_items (positive : 0 < size) (fuel offset : Nat) (state : S) (distinct : (live.items state).Nodup)
    (enough : (live.items state).length < fuel) :
    ∃ left trace, exec handler (whileSome client.deleteItemsPage fuel () (some (live.cursor offset))) state =
        ⟨some (.ok ()), left, trace⟩ ∧
      (live.items left).take offset = (live.items state).take offset ∧
      ((live.items state).length ≤ offset + size → live.items left = (live.items state).take offset) := by
  induction fuel generalizing offset state with
  | zero => omega
  | succ fuel ih =>
      obtain ⟨after, trace, round, remaining⟩ := exec_live_page client handler id size live offset state distinct
      rw [exec_while_some_ok _ _ _ _ _ _ _ _ round]
      dsimp only
      by_cases more : offset + size < (live.items state).length
      · rw [if_pos more]
        have parts : ((live.items state).take offset).length = offset := by
          rw [List.length_take]
          omega
        have shorter : (live.items after).length < fuel := by
          rw [remaining, List.length_append, parts, List.length_drop]
          omega
        have fewer : ((live.items state).take offset ++ (live.items state).drop (offset + size)).Sublist (live.items state) := by
          have kept := List.Sublist.append_left (List.drop_sublist_drop_left (live.items state) (Nat.le_add_right offset size))
            ((live.items state).take offset)
          rwa [List.take_append_drop] at kept
        have still : (live.items after).Nodup := remaining ▸ distinct.sublist fewer
        obtain ⟨left, later, ran, kept, _⟩ := ih (offset + size) after still shorter
        refine ⟨left, trace ++ later, by rw [ran]; rfl, ?_, fun short => absurd more (by omega)⟩
        have before := congrArg (List.take offset) kept
        rw [List.take_take, List.take_take, Nat.min_eq_left (by omega), remaining] at before
        rw [before, List.take_append_of_le_length (by omega), List.take_take, Nat.min_self]
      · rw [if_neg more]
        have all : live.items after = (live.items state).take offset := by
          rw [remaining, List.drop_eq_nil_of_le (by omega), List.append_nil]
        refine ⟨after, trace, by rw [while_some_none]; simp [Run.prepend], ?_, fun _ => all⟩
        rw [all, List.take_take, Nat.min_self]

theorem live_items_emptied_iff (positive : 0 < size) (state : S) (distinct : (live.items state).Nodup) (fuel : Nat)
    (enough : (live.items state).length < fuel) :
    (exec handler (client.deleteSubmissionItems fuel id) state).outcome = some (.ok ()) ∧
      (live.items (exec handler (client.deleteSubmissionItems fuel id) state).state = [] ↔ (live.items state).length ≤ size) := by
  obtain ⟨less, rfl⟩ : ∃ less, fuel = less + 1 := ⟨fuel - 1, by omega⟩
  obtain ⟨after, trace, round, remaining⟩ := exec_live_page client handler id size live 0 state distinct
  rw [live.first] at round
  have first : exec handler (client.deleteSubmissionItems (less + 1) id) state = _ := exec_while_some_ok _ _ _ _ _ _ _ _ round less
  rw [first]
  rw [List.take_zero, List.nil_append, Nat.zero_add] at remaining
  rw [Nat.zero_add]
  dsimp only
  by_cases more : size < (live.items state).length
  · rw [if_pos more]
    have left : (live.items after).length = (live.items state).length - size := by
      rw [remaining, List.length_drop]
    obtain ⟨final, later, ran, kept, _⟩ := exec_live_items client handler id size live positive less size after
      (remaining ▸ distinct.sublist (List.drop_sublist _ _)) (by omega)
    rw [ran]
    refine ⟨rfl, ?_⟩
    constructor
    · intro empty
      change live.items final = [] at empty
      have lengths := congrArg List.length kept
      rw [empty, List.take_nil, List.length_take, List.length_nil] at lengths
      omega
    · intro short
      omega
  · rw [if_neg more, while_some_none]
    refine ⟨rfl, ?_⟩
    change live.items after = [] ↔ _
    rw [remaining, List.drop_eq_nil_iff]

end Live

def twoItems (present : Bool × Bool) : List String :=
  (if present.1 then ["I1"] else []) ++ (if present.2 then ["I2"] else [])

def liveFirst : String := "https://host/v1/reviewSubmissions/S1/items?include=appStoreVersion"
def liveCursor (offset : Nat) : String := liveFirst ++ String.ofList (List.replicate offset '+')

def windowJson (items : List String) (offset : Nat) : Json :=
  itemsJson ((items.drop offset).take 1) (if offset + 1 < items.length then .str (liveCursor (offset + 1)) else .null)

def liveClient : AppStoreClient :=
  ⟨"https://host", .reading [windowJson ["I1", "I2"] 0, windowJson ["I1"] 0, windowJson ["I2"] 0, windowJson [] 0]⟩

def liveServer : Handler Answer (Bool × Bool) where
  answer
    | .bearerToken, present => (.ok "token", present)
    | .send request, present =>
        if request.method = .delete then
          (.ok (204, ""), if request.url = liveClient.reviewSubmissionItemUrl "I1" then (false, present.2)
            else if request.url = liveClient.reviewSubmissionItemUrl "I2" then (present.1, false) else present)
        else (.ok (200, (windowJson (twoItems present) (request.url.length - liveFirst.length)).compact), present)
    | .stream _, present => (.error "not streamed", present)

theorem window_past_end (items : List String) (offset : Nat) (past : items.length ≤ offset) :
    windowJson items offset = windowJson [] 0 := by
  rw [windowJson, windowJson, List.drop_eq_nil_of_le past, if_neg (by omega)]
  rfl

theorem live_cursor_length (offset : Nat) : (liveCursor offset).length - liveFirst.length = offset := by
  rw [liveCursor, String.length_append, String.length_ofList, List.length_replicate]
  omega

theorem served_live_window (offset : Nat) (present : Bool × Bool) :
    served liveServer (.get (liveCursor offset)) present = (some (windowJson (twoItems present) offset).compact, present) := by
  have reply : liveServer.answer (.send ((Request.get (liveCursor offset)).bearerAuth "token")) present =
      (.ok (200, (windowJson (twoItems present) ((liveCursor offset).length - liveFirst.length)).compact), present) := rfl
  rw [live_cursor_length] at reply
  change (match (liveServer.answer (.send ((Request.get (liveCursor offset)).bearerAuth "token")) present).1 with
    | .error _ => (none, (liveServer.answer (.send ((Request.get (liveCursor offset)).bearerAuth "token")) present).2)
    | .ok response => (if isSuccess response.1 then some response.2 else none,
        (liveServer.answer (.send ((Request.get (liveCursor offset)).bearerAuth "token")) present).2)) = _
  rw [reply]
  rfl

set_option maxRecDepth 20000 in
def liveTwoItems : LiveItems liveClient liveServer "S1" 1 where
  items := twoItems
  cursor := liveCursor
  first := rfl
  window := by
    intro offset present
    have few : (twoItems present).length ≤ 2 := by
      rw [twoItems]
      split <;> split <;> simp
    by_cases past : (twoItems present).length ≤ offset
    · refine ⟨_, ⟨[], ⟨none⟩⟩, present, served_live_window offset present, ?_, ?_, ?_, rfl⟩
      · rw [window_past_end _ _ past]
        rfl
      · rw [List.drop_eq_nil_of_le past]
        rfl
      · rw [if_neg (by omega)]
    · have small : offset = 0 ∨ offset = 1 := by omega
      rcases small with rfl | rfl
      · rcases present with ⟨_ | _, _ | _⟩
        · exact absurd (Nat.zero_le 0) past
        · exact ⟨_, ⟨[⟨"I2"⟩], ⟨none⟩⟩, (false, true), served_live_window 0 (false, true), rfl, rfl, rfl, rfl⟩
        · exact ⟨_, ⟨[⟨"I1"⟩], ⟨none⟩⟩, (true, false), served_live_window 0 (true, false), rfl, rfl, rfl, rfl⟩
        · exact ⟨_, ⟨[⟨"I1"⟩], ⟨some (liveCursor 1)⟩⟩, (true, true), served_live_window 0 (true, true), rfl, rfl, rfl, rfl⟩
      · rcases present with ⟨_ | _, _ | _⟩
        · exact absurd (Nat.zero_le 1) past
        · exact absurd (Nat.le_refl 1) past
        · exact absurd (Nat.le_refl 1) past
        · exact ⟨_, ⟨[⟨"I2"⟩], ⟨none⟩⟩, (true, true), served_live_window 1 (true, true), rfl, rfl, rfl, rfl⟩
  delete := by
    intro item present listed
    rcases present with ⟨_ | _, _ | _⟩
    · cases listed
    · cases List.mem_singleton.mp listed
      exact ⟨"", (false, false), rfl, rfl⟩
    · cases List.mem_singleton.mp listed
      exact ⟨"", (false, false), rfl, rfl⟩
    · rcases List.mem_cons.mp listed with rfl | other
      · exact ⟨"", (false, true), rfl, rfl⟩
      · cases List.mem_singleton.mp other
        exact ⟨"", (true, false), rfl, rfl⟩

set_option maxRecDepth 20000 in
theorem second_item_survives :
    (liveTwoItems.items (true, true)).Nodup ∧
      (exec liveServer (liveClient.deleteSubmissionItems 3 "S1") (true, true)).outcome = some (.ok ()) ∧
      liveTwoItems.items (exec liveServer (liveClient.deleteSubmissionItems 3 "S1") (true, true)).state ≠ [] :=
  ⟨by decide, rfl, by decide +kernel⟩

theorem two_live_items_emptied_iff :
    (exec liveServer (liveClient.deleteSubmissionItems 3 "S1") (true, true)).outcome = some (.ok ()) ∧
      (liveTwoItems.items (exec liveServer (liveClient.deleteSubmissionItems 3 "S1") (true, true)).state = [] ↔
        (liveTwoItems.items (true, true)).length ≤ 1) :=
  live_items_emptied_iff liveClient liveServer "S1" 1 liveTwoItems (by decide) (true, true) (by decide) 3 (by decide)

end StackConnect
