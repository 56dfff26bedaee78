import Mathlib.Data.Fintype.Card
import StackConnect.AppStore.ResourceSessions
import StackConnect.AppStore.SharedServer
import StackConnect.Interaction.Linearize

set_option autoImplicit false

namespace StackConnect

open Interaction Serde

-- Tokens are signed by the caller itself; the rest is the server's.
def Query.reaches : Query → Bool
  | .bearerToken => false
  | _ => true

theorem facing_private {P S : Type} (server : SharedServer S) (sign : P → Except String String × P) :
    Private Query.reaches (server.facing sign) := by
  intro query own held first second
  cases query with
  | bearerToken => exact ⟨rfl, rfl, rfl⟩
  | send request => cases own
  | stream request => cases own

def Exchanges {α : Type} (program : Async α) : Prop := ∃ request next, program = exchange request >>= next

theorem exchanges_bind {α β : Type} {program : Async α} {next : α → Async β} (begins : Exchanges program) :
    Exchanges (program >>= next) := by
  obtain ⟨request, rest, rfl⟩ := begins
  exact ⟨request, _, Prog.bind_assoc _ _ _⟩

theorem exchange_exchanges (request : Request) : Exchanges (exchange request) := ⟨request, _, (Prog.bind_pure_right _).symm⟩

theorem exchange_document_exchanges {ρ : Type} (client : AppStoreClient) (request : Request) (type label : String)
    (resource : Decoder ρ) : Exchanges (client.exchangeDocument request type label resource) := ⟨request, _, rfl⟩

theorem unsent_events (message : String) (seen rest : Trace) (whole : seen ++ rest = [⟨.bearerToken, .error message⟩]) :
    sharedEvents Query.reaches seen ≤ 0 := by
  have all : sharedEvents Query.reaches (seen ++ rest) = 0 := by
    rw [whole]
    rfl
  rw [sharedEvents, List.countP_append] at all
  exact le_trans (Nat.le_add_right _ _) (Nat.le_of_eq all)

theorem sent_events (token : String) (request : Request) (reply : Reply) (seen rest : Trace)
    (whole : seen ++ rest = [⟨.bearerToken, .ok token⟩, ⟨.send request, reply⟩])
    (arrived : 0 < sharedEvents Query.reaches seen) : rest = [] := by
  rcases seen with _ | ⟨first, _ | ⟨second, more⟩⟩
  · cases arrived
  · obtain ⟨rfl, _⟩ := List.cons.inj whole
    cases arrived
  · have length := congrArg List.length whole
    rw [List.length_append, List.length_cons, List.length_cons] at length
    apply List.eq_nil_of_length_eq_zero
    simp only [List.length_cons, List.length_nil] at length
    omega

section Rows

variable {Owner Attributes Info : Type} [DecidableEq Owner] {kind : ResourceKind Owner Attributes Info}

theorem performs_one_more (commands : List (Command kind)) (rows reached : List (Row Owner Attributes))
    (results : List (Except StackError (Returned Info))) (command : Command kind) (fresh : String)
    (performs : Performs commands rows results reached) (unused : fresh ∉ reached.map Row.id) :
    Performs (commands ++ [command]) rows (results ++ [(command.perform fresh reached).1]) (command.perform fresh reached).2 := by
  induction performs with
  | next first rest rows final other missing results later ih => exact .next first _ rows _ other missing _ (ih unused)
  | _ => exact .next command [] _ _ fresh unused [] (.over _)

end Rows

namespace ResourceServer

section Shared

variable {Owner Attributes Info P : Type} [DecidableEq Owner] {client : AppStoreClient} {kind : ResourceKind Owner Attributes Info}

variable (server : ResourceServer client kind)

def toShared : SharedServer (Holdings Owner) where
  serve request held := (.ok (server.respond held request).1, (server.respond held request).2)
  stream _ _ := .error "not streamed"
  looks request held get := by
    simp only [respond, get]
    cases server.route request.url <;> rfl

-- A listing is one request only as long as one page holds it.
def OnePage (held : Holdings Owner) : Command kind → Prop
  | .list owner => (owned held owner).length ≤ server.size
  | _ => True

omit [DecidableEq Owner] in
theorem command_exchanges (client : AppStoreClient) (command : Command kind) (fuel : Nat) :
    Exchanges (command.run client (fuel + 1)) := by
  cases command with
  | create owner draft => exact exchanges_bind (exchanges_bind (exchange_document_exchanges client _ _ _ _))
  | update id revision => exact exchanges_bind (exchanges_bind (exchange_document_exchanges client _ _ _ _))
  | revise id revision => exact exchanges_bind (exchanges_bind (exchange_exchanges _))
  | delete id => exact exchanges_bind (exchanges_bind (exchange_exchanges _))
  | list owner =>
      apply exchanges_bind
      change Exchanges (client.listPages (fuel + 1) kind.page kind.pageLabel (Page.decode kind.resource)
        (kind.listing client owner).rows Page.links [] (kind.listUrl client owner))
      unfold AppStoreClient.listPages
      rw [while_some_succ]
      exact exchanges_bind (exchanges_bind (exchange_exchanges _))

theorem judged_once {α : Type} (request : Request) (next : String → Async α) (judges : ∀ body, ∃ result, next body = .done result)
    (held : Holdings Owner) : (exec server.handler (exchange request >>= next) held).trace.length = 2 := by
  rw [exec_bind, exec_exchange]
  cases accepted (server.respond held (request.bearerAuth "token")).1 with
  | error failure => rfl
  | ok body =>
      obtain ⟨result, same⟩ := judges body
      rw [Run.and_then_ok, same]
      rfl

theorem answered_once {α : Type} (request : Request) (view : Info → α) (held : Holdings Owner) :
    (exec server.handler (kind.answered client request >>= fun info => pure (view info)) held).trace.length = 2 := by
  rw [exec_map_trace, ResourceKind.answered, exec_map_trace, exchange_document_judged]
  exact server.judged_once request _ (fun _ => ⟨_, rfl⟩) held

theorem sent_once {α : Type} (request : Request) (value : α) (held : Holdings Owner) :
    (exec server.handler (exchangeNoContent request >>= fun _ => pure value) held).trace.length = 2 := by
  rw [exec_map_trace, exchangeNoContent]
  exact server.judged_once request _ (fun _ => ⟨.ok (), rfl⟩) held

theorem listed_once (held : Holdings Owner) (sound : Sound kind held) (owner : Owner) (fuel : Nat)
    (speaks : server.Speaks held (.list owner)) (fits : server.OnePage held (.list owner)) :
    (exec server.handler (Command.run client (fuel + 1) (.list owner : Command kind)) held).trace.length = 2 := by
  obtain ⟨trace, ran⟩ := server.exec_page held sound owner 0 (speaks 0 (Nat.zero_le _)) []
  have once := server.judged_once (.get (server.cursor owner 0)) (fun body =>
    Prog.ofExcept (client.parse kind.page kind.pageLabel (Page.decode kind.resource) body) >>= fun page =>
      pure ([] ++ (kind.listing client owner).rows page, page.links.nextUrl)) (fun _ => ⟨_, Prog.done_bind_done _ _⟩) held
  have listed : client.collect (fuel + 1) (kind.listing client owner) [] = client.listPages (fuel + 1) kind.page kind.pageLabel
      (Page.decode kind.resource) (kind.listing client owner).rows Page.links [] (server.cursor owner 0) := by
    rw [server.start]
    rfl
  have last : ¬ 0 + server.size < (owned held owner).length := by
    rw [Nat.zero_add]
    exact Nat.not_lt.mpr fits
  rw [Command.run, exec_map_trace, listed]
  unfold AppStoreClient.listPages
  rw [exec_while_some_ok _ _ _ _ _ _ _ _ ran]
  dsimp only
  rw [following, if_neg last, while_some_none, Run.prepend_trace, exec_done, List.append_nil]
  change (exec server.handler (getPage (server.cursor owner 0) >>= _) held).trace.length = 2 at once
  rwa [ran] at once

theorem command_once (held : Holdings Owner) (sound : Sound kind held) (command : Command kind) (fuel : Nat)
    (speaks : server.Speaks held command) (fits : server.OnePage held command) :
    (exec server.handler (command.run client (fuel + 1)) held).trace.length = 2 := by
  cases command with
  | create owner draft => exact server.answered_once _ _ held
  | update id revision => exact server.answered_once _ _ held
  | revise id revision => exact server.sent_once _ _ held
  | delete id => exact server.sent_once _ _ held
  | list owner => exact server.listed_once held sound owner fuel speaks fits

variable (sign : P → Except String String × P)

abbrev facing : Handler Answer (P × Holdings Owner) := server.toShared.facing sign

theorem facing_unsigned {α : Type} (request : Request) (next : String → Async α) (own : P) (held : Holdings Owner) (message : String)
    (failed : (sign own).1 = .error message) :
    exec (server.facing sign) (exchange request >>= next) (own, held) =
      ⟨some (.error (.auth message)), ((sign own).2, held), [⟨.bearerToken, .error message⟩]⟩ := by
  have asked : exec (server.facing sign) (exchange request) (own, held) =
      ⟨some (.error (.auth message)), ((sign own).2, held), [⟨.bearerToken, .error message⟩]⟩ := by
    have answered : (server.facing sign).answer .bearerToken (own, held) = (.error message, (sign own).2, held) := by
      rw [← failed]
      rfl
    change exec _ (.ask Query.bearerToken _) _ = _
    rw [exec_ask, answered]
    rfl
  rw [exec_bind, asked]
  rfl

theorem facing_signed {α : Type} (request : Request) (next : String → Async α) (own : P) (held : Holdings Owner) (token : String)
    (signed : (sign own).1 = .ok token) (once : (exec server.handler (exchange request >>= next) held).trace.length = 2) :
    ∃ reply, exec (server.facing sign) (exchange request >>= next) (own, held) =
      ⟨(exec server.handler (exchange request >>= next) held).outcome,
        ((sign own).2, (exec server.handler (exchange request >>= next) held).state),
        [⟨.bearerToken, .ok token⟩, ⟨.send (request.bearerAuth token), reply⟩]⟩ := by
  have asked : exec (server.facing sign) (exchange request) (own, held) =
      ⟨some (accepted (server.respond held (request.bearerAuth "token")).1),
        ((sign own).2, (server.respond held (request.bearerAuth "token")).2),
        [⟨.bearerToken, .ok token⟩,
          ⟨.send (request.bearerAuth token), .ok (server.respond held (request.bearerAuth "token")).1⟩]⟩ := by
    have answered : (server.facing sign).answer .bearerToken (own, held) = (.ok token, (sign own).2, held) := by
      rw [← signed]
      rfl
    change exec _ (.ask Query.bearerToken _) _ = _
    rw [exec_ask, answered]
    rfl
  refine ⟨.ok (server.respond held (request.bearerAuth "token")).1, ?_⟩
  rw [exec_bind server.handler, exec_exchange] at once ⊢
  rw [exec_bind, asked]
  cases judged : accepted (server.respond held (request.bearerAuth "token")).1 with
  | error failure => rfl
  | ok body =>
      rw [judged, Run.and_then_ok] at once
      rw [Run.and_then_ok, Run.and_then_ok]
      cases rest : next body with
      | done result => rfl
      | cut => rfl
      | ask query later =>
          rw [rest, exec_ask, Run.prepend_trace, Run.prepend_trace, List.length_append, List.length_append] at once
          simp at once

end Shared

section Concurrent

variable {ι Owner Attributes Info P : Type} [Fintype ι] [DecidableEq Owner] {client : AppStoreClient}
  {kind : ResourceKind Owner Attributes Info}

variable (server : ResourceServer client kind) (sign : ι → P → Except String String × P) (commands : ι → Command kind) (fuel : Nat)
  (tokens : ι → P) (held : Holdings Owner)

def signs (thread : ι) : Bool := (sign thread (tokens thread)).1.toBool

def leaving (order : List ι) : Holdings Owner := order.foldl (fun left thread => server.after left (commands thread)) held

-- Whichever of the others came before it, in whatever order, a command is answered
-- with what can be read back, and a listing is one page.
structure Foreseen : Prop where
  sound : Sound kind held
  enough : held.length + Fintype.card ι ≤ fuel
  speaks : ∀ thread order, (thread :: order).Nodup → server.Speaks (server.leaving commands held order) (commands thread)
  fits : ∀ thread order, (thread :: order).Nodup → server.OnePage (server.leaving commands held order) (commands thread)

abbrev calls (client : AppStoreClient) (thread : ι) : Async (Returned Info) := (commands thread).run client fuel

abbrev faced (thread : ι) : Handler Answer (P × Holdings Owner) := server.facing (sign thread)

omit [Fintype ι] [DecidableEq Owner] in
theorem leaving_snoc (order : List ι) (thread : ι) :
    server.leaving commands held (order ++ [thread]) = server.after (server.leaving commands held order) (commands thread) := by
  rw [leaving, List.foldl_append]
  rfl

omit [Fintype ι] [DecidableEq Owner] in
theorem leaving_length (order : List ι) : (server.leaving commands held order).length ≤ held.length + order.length := by
  induction order using List.reverseRecOn with
  | nil => exact Nat.le_refl _
  | append_singleton before thread ih =>
      have grown := server.after_length (server.leaving commands held before) (commands thread)
      rw [leaving_snoc, List.length_append, List.length_singleton]
      omega

variable {server sign commands fuel tokens held} (foreseen : server.Foreseen commands fuel held)
include foreseen

theorem thread_performed (thread : ι) (order : List ι) (distinct : (thread :: order).Nodup)
    (still : Sound kind (server.leaving commands held order)) :
    server.Performed (server.leaving commands held order) (commands thread) fuel := by
  have few := distinct.length_le_card
  have size := server.leaving_length commands held order
  have enough := foreseen.enough
  rw [List.length_cons] at few
  exact server.command_performed _ still _ fuel (by omega) (foreseen.speaks thread order distinct)

theorem leaving_sound (order : List ι) (distinct : order.Nodup) : Sound kind (server.leaving commands held order) := by
  induction order using List.reverseRecOn with
  | nil => exact foreseen.sound
  | append_singleton before thread ih =>
      have split : (thread :: before).Nodup := (List.perm_append_singleton thread before).nodup_iff.mp distinct
      rw [leaving_snoc]
      exact (thread_performed foreseen thread before split (ih split.of_cons)).sound

theorem enough_succ (thread : ι) : ∃ less, fuel = less + 1 := by
  have one : 0 < Fintype.card ι := Fintype.card_pos_iff.mpr ⟨thread⟩
  have enough := foreseen.enough
  exact ⟨fuel - 1, by omega⟩

theorem unsigned_run (thread : ι) (left : Holdings Owner) (unsigned : signs sign tokens thread = false) :
    ∃ message own, solo (server.faced sign) (calls commands fuel client) tokens thread left =
      ⟨some (.error (.auth message)), (own, left), [⟨.bearerToken, .error message⟩]⟩ := by
  obtain ⟨less, rfl⟩ := enough_succ foreseen thread
  obtain ⟨request, next, shape⟩ := command_exchanges client (commands thread) less
  rw [signs] at unsigned
  cases token : (sign thread (tokens thread)).1 with
  | ok token => simp [token, Except.toBool] at unsigned
  | error message =>
      refine ⟨message, (sign thread (tokens thread)).2, ?_⟩
      rw [solo, calls, shape]
      exact server.facing_unsigned (sign thread) request next (tokens thread) left message token

theorem signed_run (thread : ι) (order : List ι) (distinct : (thread :: order).Nodup) (signed : signs sign tokens thread = true) :
    ∃ token own request reply,
      solo (server.faced sign) (calls commands fuel client) tokens thread (server.leaving commands held order) =
      ⟨some ((commands thread).perform (server.fresh (server.leaving commands held order))
          ((server.leaving commands held order).map (StoredResource.row kind))).1,
        (own, server.leaving commands held (order ++ [thread])), [⟨.bearerToken, .ok token⟩, ⟨.send request, reply⟩]⟩ := by
  obtain ⟨less, rfl⟩ := enough_succ foreseen thread
  obtain ⟨request, next, shape⟩ := command_exchanges client (commands thread) less
  have still := leaving_sound foreseen order distinct.of_cons
  obtain ⟨trace, ran⟩ := (thread_performed foreseen thread order distinct still).ran
  have once := server.command_once _ still (commands thread) less (foreseen.speaks thread order distinct)
    (foreseen.fits thread order distinct)
  rw [signs] at signed
  cases own : (sign thread (tokens thread)).1 with
  | error message => simp [own, Except.toBool] at signed
  | ok token =>
      rw [shape] at once
      obtain ⟨reply, faced⟩ := server.facing_signed (sign thread) request next (tokens thread) _ token own once
      rw [← shape, ran] at faced
      refine ⟨token, (sign thread (tokens thread)).2, request.bearerAuth token, reply, ?_⟩
      rw [leaving_snoc]
      exact faced

theorem reach_leaving (order : List ι) (distinct : order.Nodup) :
    reach (server.faced sign) (calls commands fuel client) tokens held order =
      server.leaving commands held (order.filter (signs sign tokens)) := by
  induction order using List.reverseRecOn with
  | nil => rfl
  | append_singleton before thread ih =>
      have split : (thread :: before).Nodup := (List.perm_append_singleton thread before).nodup_iff.mp distinct
      rw [reach_snoc, ih split.of_cons, List.filter_append]
      cases signed : signs sign tokens thread with
      | false =>
          obtain ⟨message, own, ran⟩ :=
            unsigned_run foreseen thread (server.leaving commands held (before.filter (signs sign tokens))) signed
          rw [ran, List.filter_cons_of_neg (by simp [signed]), List.filter_nil, List.append_nil]
      | true =>
          have kept : (thread :: before.filter (signs sign tokens)).Nodup :=
            split.sublist (List.filter_sublist.cons_cons thread)
          obtain ⟨token, own, request, reply, ran⟩ := signed_run foreseen thread _ kept signed
          rw [ran, List.filter_cons_of_pos signed, List.filter_nil]

theorem solo_run (thread : ι) (order : List ι) (distinct : (thread :: order).Nodup) :
    (∃ message own left, solo (server.faced sign) (calls commands fuel client) tokens thread
        (reach (server.faced sign) (calls commands fuel client) tokens held order) =
          ⟨some (.error (.auth message)), (own, left), [⟨.bearerToken, .error message⟩]⟩) ∨
      signs sign tokens thread = true ∧ ∃ result token own left request reply,
        solo (server.faced sign) (calls commands fuel client) tokens thread
          (reach (server.faced sign) (calls commands fuel client) tokens held order) =
            ⟨some result, (own, left), [⟨.bearerToken, .ok token⟩, ⟨.send request, reply⟩]⟩ := by
  rw [reach_leaving foreseen order distinct.of_cons]
  cases signed : signs sign tokens thread with
  | false =>
      obtain ⟨message, own, ran⟩ :=
        unsigned_run foreseen thread (server.leaving commands held (order.filter (signs sign tokens))) signed
      exact .inl ⟨message, own, _, ran⟩
  | true =>
      have kept : (thread :: order.filter (signs sign tokens)).Nodup := distinct.sublist (List.filter_sublist.cons_cons thread)
      obtain ⟨token, own, request, reply, ran⟩ := signed_run foreseen thread _ kept signed
      exact .inr ⟨rfl, _, token, own, _, request, reply, ran⟩

theorem calls_at_once : AtOnce Query.reaches (server.faced sign) (calls commands fuel client) tokens held := by
  intro thread order distinct
  rcases solo_run foreseen thread order distinct with
    ⟨message, own, left, ran⟩ | ⟨_, result, token, own, left, request, reply, ran⟩
  · rw [ran]
    exact Nat.zero_le 1
  · rw [ran]
    exact Nat.le_refl 1

theorem in_turn_performs (sign : ι → P → Except String String × P) (tokens : ι → P) (order : List ι) (distinct : order.Nodup)
    (signed : ∀ thread ∈ order, signs sign tokens thread = true) :
    ∃ results, Performs (order.map commands) (held.map (StoredResource.row kind)) results
        ((server.leaving commands held order).map (StoredResource.row kind)) ∧
      (inTurn (server.faced sign) (calls commands fuel client) tokens held order).map (fun entry => entry.2.outcome) =
        results.map some := by
  induction order using List.reverseRecOn with
  | nil => exact ⟨[], .over _, rfl⟩
  | append_singleton before thread ih =>
      have split : (thread :: before).Nodup := (List.perm_append_singleton thread before).nodup_iff.mp distinct
      obtain ⟨results, performs, outcomes⟩ := ih split.of_cons fun other inside => signed other (List.mem_append_left _ inside)
      have all : before.filter (signs sign tokens) = before :=
        List.filter_eq_self.mpr fun other inside => signed other (List.mem_append_left _ inside)
      obtain ⟨token, own, request, reply, ran⟩ := signed_run foreseen thread before split
        (signed thread (List.mem_append_right _ (List.mem_singleton_self thread)))
      have performed := thread_performed foreseen thread before split (leaving_sound foreseen before split.of_cons)
      refine ⟨results ++ [((commands thread).perform (server.fresh (server.leaving commands held before))
        ((server.leaving commands held before).map (StoredResource.row kind))).1], ?_, ?_⟩
      · rw [List.map_append, List.map_singleton, leaving_snoc, performed.rows]
        apply performs_one_more _ _ _ _ _ _ performs
        rw [List.map_map]
        exact server.unused _
      · rw [in_turn_snoc, List.map_append, outcomes, List.map_singleton, reach_leaving foreseen before split.of_cons, all, ran,
          List.map_append]
        rfl

variable [DecidableEq ι] {final : World ι Query Answer StackError (Returned Info) P (Holdings Owner)}
  (linear : Linear Query.reaches (server.faced sign) (calls commands fuel client) tokens held final)
include linear

theorem served_run (entry : ι × Run Answer StackError (Returned Info) (P × Holdings Owner))
    (inside : entry ∈ inTurn (server.faced sign) (calls commands fuel client) tokens held (arrivals Query.reaches final.history)) :
    signs sign tokens entry.1 = true ∧ ¬ (final.programs entry.1).Asking := by
  obtain ⟨before, distinct, same⟩ := in_turn_distinct _ _ _ _ _ linear.once entry inside
  have arrived : 0 < sharedEvents Query.reaches (final.seen entry.1) := by
    rw [← mem_arrivals, ← in_turn_threads (server.faced sign) (calls commands fuel client) tokens held
      (arrivals Query.reaches final.history)]
    exact List.mem_map_of_mem inside
  have met := (linear.settled entry inside final.state).1.trace
  rw [World.alone, Run.prepend_trace, same] at met
  rcases solo_run foreseen entry.1 before distinct with
    ⟨message, own, left, ran⟩ | ⟨signed, result, token, own, left, request, reply, ran⟩
  · rw [ran] at met
    exact absurd arrived (Nat.not_lt.mpr (unsent_events message _ _ met))
  · refine ⟨signed, ?_⟩
    intro asking
    rw [ran] at met
    exact asking_met (server.faced sign entry.1) _ (final.held entry.1, final.state) asking
      (sent_events token request reply _ _ met arrived)

theorem served_performed : ∃ results,
    Performs ((arrivals Query.reaches final.history).map commands) (held.map (StoredResource.row kind)) results
        (final.state.map (StoredResource.row kind)) ∧
      (arrivals Query.reaches final.history).map final.programs = results.map .done ∧ Sound kind final.state := by
  have threads := in_turn_threads (server.faced sign) (calls commands fuel client) tokens held (arrivals Query.reaches final.history)
  have signed : ∀ thread ∈ arrivals Query.reaches final.history, signs sign tokens thread = true := by
    intro thread arrived
    obtain ⟨entry, inside, rfl⟩ := mem_in_turn (server.faced sign) (calls commands fuel client) tokens held _ thread arrived
    exact (served_run foreseen linear entry inside).1
  have left : final.state = server.leaving commands held (arrivals Query.reaches final.history) := by
    rw [linear.reached, reach_leaving foreseen _ linear.once, List.filter_eq_self.mpr signed]
  obtain ⟨results, performs, outcomes⟩ := in_turn_performs foreseen sign tokens _ linear.once signed
  rw [← left] at performs
  refine ⟨results, performs, ?_, ?_⟩
  · have ended : (arrivals Query.reaches final.history).map final.programs =
        (inTurn (server.faced sign) (calls commands fuel client) tokens held (arrivals Query.reaches final.history)).map
          fun entry => .stop entry.2.outcome := by
      conv_lhs => rw [← threads]
      rw [List.map_map]
      apply List.map_congr_left
      intro entry inside
      exact served_stopped final linear entry inside (served_run foreseen linear entry inside).2
    have same := congrArg (List.map (Prog.stop (Q := Query) (A := Answer))) outcomes
    rw [List.map_map, List.map_map] at same
    exact ended.trans same
  · rw [left]
    exact leaving_sound foreseen _ linear.once

theorem unserved_stopped (thread : ι) (absent : thread ∉ arrivals Query.reaches final.history) :
    (final.programs thread).Asking ∨ ∃ message, final.programs thread = .done (.error (.auth message)) := by
  by_cases asking : (final.programs thread).Asking
  · exact .inl asking
  · right
    obtain ⟨ended, met⟩ := waiting_stopped final linear thread absent asking
    rw [linear.reached] at ended met
    rcases solo_run foreseen thread _ (List.nodup_cons.mpr ⟨absent, linear.once⟩) with
      ⟨message, own, left, ran⟩ | ⟨_, result, token, own, left, request, reply, ran⟩
    · rw [ran] at ended
      exact ⟨message, ended⟩
    · apply absurd _ absent
      rw [mem_arrivals, met, ran]
      exact Nat.one_pos

theorem run_length (thread : ι) : ((final.alone (server.faced sign) thread final.state).trace).length ≤ 2 := by
  have bound : ∀ order, (thread :: order).Nodup → (solo (server.faced sign) (calls commands fuel client) tokens thread
      (reach (server.faced sign) (calls commands fuel client) tokens held order)).trace.length ≤ 2 := by
    intro order distinct
    rcases solo_run foreseen thread order distinct with
      ⟨message, own, left, ran⟩ | ⟨_, result, token, own, left, request, reply, ran⟩
    · rw [ran]
      exact Nat.le_succ 1
    · rw [ran]
      exact Nat.le_refl 2
  by_cases arrived : thread ∈ arrivals Query.reaches final.history
  · obtain ⟨entry, inside, rfl⟩ := mem_in_turn (server.faced sign) (calls commands fuel client) tokens held _ thread arrived
    obtain ⟨before, distinct, same⟩ := in_turn_distinct _ _ _ _ _ linear.once entry inside
    rw [(linear.settled entry inside final.state).1.trace, same]
    exact bound before distinct
  · rw [linear.waiting thread arrived, linear.reached]
    exact bound _ (List.nodup_cons.mpr ⟨arrived, linear.once⟩)

end Concurrent

end ResourceServer

-- What operations that run side by side on a collection come to. Those that have
-- sent their request have ended as if each had been performed at that moment; the
-- others have done nothing yet, or had no token.
structure PerformedInTurn {ι P : Type} [DecidableEq ι] (collection : Collection)
    (operations : ι → Collection.Operation collection) (held : Holdings collection.Owner)
    (final : World ι Query Answer StackError (Returned collection.Info) P (Holdings collection.Owner)) : Prop where
  once : (arrivals Query.reaches final.history).Nodup
  performed : ∃ results,
    Performs ((arrivals Query.reaches final.history).map fun thread => (operations thread).command)
        (held.map (StoredResource.row collection.kind)) results (final.state.map (StoredResource.row collection.kind)) ∧
      (arrivals Query.reaches final.history).map final.programs = results.map .done
  sound : ResourceServer.Sound collection.kind final.state
  unsent : ∀ thread, thread ∉ arrivals Query.reaches final.history →
    (final.programs thread).Asking ∨ ∃ message, final.programs thread = .done (.error (.auth message))

def operationsBegin {ι P : Type} {collection : Collection} (client : AppStoreClient) (fuel : Nat)
    (operations : ι → Collection.Operation collection) (tokens : ι → P) (held : Holdings collection.Owner) :
    World ι Query Answer StackError (Returned collection.Info) P (Holdings collection.Owner) :=
  .begin (fun thread => (operations thread).run client fuel) tokens held

theorem operations_in_turn {ι P : Type} [DecidableEq ι] [Fintype ι] (client : AppStoreClient) (collection : Collection)
    (server : ResourceServer client collection.kind) (sign : ι → P → Except String String × P)
    (operations : ι → Collection.Operation collection) (fuel : Nat) (tokens : ι → P) (held : Holdings collection.Owner)
    (foreseen : server.Foreseen (fun thread => (operations thread).command) fuel held) (first second : List ι) :
    let reached := play (server.faced sign) first (operationsBegin client fuel operations tokens held)
    let final := play (server.faced sign) (first ++ second) (operationsBegin client fuel operations tokens held)
    PerformedInTurn collection operations held final ∧
      (∀ thread, 2 ≤ (first ++ second).count thread → ¬ (final.programs thread).Asking) ∧
      arrivals Query.reaches reached.history <+: arrivals Query.reaches final.history := by
  intro reached final
  have same : operationsBegin client fuel operations tokens held =
      World.begin (ResourceServer.calls (fun thread => (operations thread).command) fuel client) tokens held := by
    rw [operationsBegin]
    congr 1
    funext thread
    exact Collection.Operation.run_command client fuel (operations thread)
  have linear := play_linear Query.reaches (server.faced sign)
    (ResourceServer.calls (fun thread => (operations thread).command) fuel client) tokens held
    (fun thread => facing_private server.toShared (sign thread)) (ResourceServer.calls_at_once foreseen) (first ++ second)
  rw [← same] at linear
  obtain ⟨results, performs, ended, sound⟩ := ResourceServer.served_performed foreseen linear
  refine ⟨⟨linear.once, ⟨results, performs, ended⟩, sound, ResourceServer.unserved_stopped foreseen linear⟩, ?_, ?_⟩
  · intro thread turns
    apply play_finishes (server.faced sign) _ thread _ final.state
    exact le_trans (ResourceServer.run_length foreseen linear thread) (le_trans turns (Nat.le_add_left _ _))
  · rw [show final = play (server.faced sign) second reached from List.foldl_append]
    exact arrivals_kept Query.reaches (server.faced sign) second reached

def overtakenCalls : Bool → Collection.Operation .bundleIds
  | true => .deleteBundleId "B"
  | false => .fetchBundleIds

def oneBundle : Holdings Unit := [registered "Renamed"]

theorem short_orders (thread : Bool) (order : List Bool) (distinct : (thread :: order).Nodup) : order = [] ∨ order = [!thread] := by
  rcases order with _ | ⟨other, _ | ⟨third, more⟩⟩
  · exact .inl rfl
  · right
    have apart : thread ≠ other := by simpa using distinct
    cases thread <;> cases other <;> trivial
  · have few := distinct.length_le_card
    rw [Fintype.card_bool, List.length_cons, List.length_cons, List.length_cons] at few
    omega

set_option maxRecDepth 20000 in
theorem overtaken_foreseen : bundleServer.Foreseen (fun thread => (overtakenCalls thread).command) 3 oneBundle where
  sound := ⟨List.nodup_singleton _, by intro stored inside; rw [List.mem_singleton.mp inside]; rfl⟩
  enough := Nat.le_refl 3
  speaks thread order distinct := by
    cases thread with
    | true => trivial
    | false =>
        rcases short_orders false order distinct with rfl | rfl
        · exact up_to_one rfl rfl
        · intro offset small
          cases Nat.le_zero.mp small
          rfl
  fits thread order distinct := by
    cases thread with
    | true => trivial
    | false =>
        rcases short_orders false order distinct with rfl | rfl
        · exact Nat.le_refl 1
        · exact Nat.zero_le 1

def overtakenFinal : World Bool Query Answer StackError (Returned BundleIdInfo) Unit (Holdings Unit) :=
  play (bundleServer.faced fun _ => plainSign) ([false, true, true] ++ [false])
    (operationsBegin bundleClient 3 overtakenCalls (fun _ => ()) oneBundle)

set_option maxRecDepth 20000 in
theorem listing_overtaken : overtakenFinal.programs false = .done (.ok (.infos [])) ∧
    PerformedInTurn .bundleIds overtakenCalls oneBundle overtakenFinal :=
  have performed := operations_in_turn bundleClient .bundleIds bundleServer (fun _ => plainSign) overtakenCalls 3 (fun _ => ())
    oneBundle overtaken_foreseen [false, true, true] [false]
  ⟨rfl, performed.1⟩

end StackConnect
