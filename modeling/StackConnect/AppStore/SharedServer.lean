import StackConnect.AppStore.FailFast
import StackConnect.Interaction.Parallel

set_option autoImplicit false

namespace StackConnect

open Interaction Serde

abbrev Reply := Except String (Nat × String)

-- A server that several calls talk to. A GET leaves its state as it is.
structure SharedServer (S : Type) where
  serve : Request → S → Reply × S
  stream : Request → S → Except String Streamed
  looks : ∀ request state, request.method = .get → (serve request state).2 = state

variable {ι P S : Type}

def SharedServer.facing (server : SharedServer S) (sign : P → Except String String × P) : Handler Answer (P × S) where
  answer
    | .bearerToken, state => ((sign state.1).1, (sign state.1).2, state.2)
    | .send request, state => ((server.serve request state.2).1, state.1, (server.serve request state.2).2)
    | .stream request, state => (server.stream request state.2, state)

abbrev CallWorld (ι P S : Type) := World ι Query Answer StackError CallResult P S

def callsBegin (clients : ι → AppStoreClient) (fuel : ι → Nat) (operations : ι → Operation) (held : ι → P) (state : S) :
    CallWorld ι P S :=
  .begin (fun thread => (operations thread).call (clients thread) (fuel thread)) held state

abbrev servedBy (server : SharedServer S) (sign : ι → P → Except String String × P) (thread : ι) : Handler Answer (P × S) :=
  server.facing (sign thread)

def countingServer : SharedServer Nat where
  serve request count := if request.method = .delete then (.ok (204, ""), count + 1) else (.ok (200, "\x7b\x7d"), count)
  stream _ _ := .error "not streamed"
  looks request count get := by simp [get]

def plainClient : AppStoreClient := ⟨"https://host", .reading []⟩

def plainSign : Unit → Except String String × Unit := fun held => (.ok "token", held)

def Query.Looks : Query → Prop
  | .bearerToken => True
  | .send request | .stream request => request.method = .get

instance (query : Query) : Decidable query.Looks :=
  match query with
  | .bearerToken => .isTrue trivial
  | .send request | .stream request => inferInstanceAs (Decidable (request.method = .get))

theorem readers_look (client : AppStoreClient) (fuel : Nat) (operation : Operation) (reads : operation.reads = true) :
    OnlyAsks Query.Looks (operation.run client fuel) := by
  apply within_mono _ _ _ (operation_prompt client fuel operation)
  intro past query asked
  cases asked with
  | sign => trivial
  | signed request token fresh wanted => exact wanted reads
  | bare request bare wanted => exact wanted reads
  | download request bare wanted => exact wanted reads

theorem reading_calls_look (client : AppStoreClient) (fuel : Nat) (operation : Operation) (reads : operation.reads = true) :
    OnlyAsks Query.Looks (operation.call client fuel) :=
  within_bind _ _ _ (readers_look client fuel operation reads) fun _ => within_done _ _

section Concurrent

variable [DecidableEq ι] (clients : ι → AppStoreClient) (fuel : ι → Nat) (operations : ι → Operation)
  (server : SharedServer S) (sign : ι → P → Except String String × P)

omit [DecidableEq ι] in
theorem served_quiet (thread : ι) : Quiet Query.Looks (servedBy server sign thread) := by
  intro query looks held shared
  cases query with
  | bearerToken => rfl
  | send request => exact server.looks request shared looks
  | stream request => rfl

def callAlone (held : ι → P) (state : S) (thread : ι) : Run Answer StackError CallResult (P × S) :=
  exec (servedBy server sign thread) ((operations thread).call (clients thread) (fuel thread)) (held thread, state)

-- One operation beside any number that read: given its turns it meets what it
-- meets alone, ends as it ends alone, and leaves the server as it leaves it alone.
theorem readers_leave_no_mark (writer : ι) (reads : ∀ thread, thread ≠ writer → (operations thread).reads = true)
    (held : ι → P) (state : S) (schedule : List ι)
    (enough : (callAlone clients fuel operations server sign held state writer).trace.length ≤ schedule.count writer) :
    let final := play (servedBy server sign) schedule (callsBegin clients fuel operations held state)
    final.programs writer = .stop (callAlone clients fuel operations server sign held state writer).outcome ∧
      final.seen writer = (callAlone clients fuel operations server sign held state writer).trace ∧
      (final.held writer, final.state) = (callAlone clients fuel operations server sign held state writer).state := by
  intro final
  have others : OthersOnlyAsk Query.Looks writer (callsBegin clients fuel operations held state) := fun thread apart =>
    reading_calls_look (clients thread) (fuel thread) (operations thread) (reads thread apart)
  have same : final.alone (servedBy server sign) writer final.state =
      callAlone clients fuel operations server sign held state writer :=
    undisturbed _ Query.Looks writer (fun thread _ => served_quiet server sign thread) _ others schedule
  have stopped := play_finishes (servedBy server sign) (callsBegin clients fuel operations held state) writer schedule
    final.state (by
      rw [same]
      exact enough.trans (Nat.le_add_left _ _))
  obtain ⟨ended, whole⟩ := stopped_alone (servedBy server sign) final writer final.state stopped
  rw [same] at ended whole
  refine ⟨ended, ?_, ?_⟩
  · rw [whole]
  · rw [whole]

end Concurrent

def besideReads : Fin 3 → Operation
  | 1 => .localization (.deleteAppInfoLocalization "l1")
  | _ => .app .validate

def readWorld : CallWorld (Fin 3) Unit Nat :=
  play (servedBy countingServer fun _ => plainSign) [0, 1, 2, 0, 1, 2]
    (callsBegin (fun _ => plainClient) (fun _ => 0) besideReads (fun _ => ()) 0)

theorem deletion_beside_reads : readWorld.state = 1 ∧ readWorld.programs 1 =
    .stop (callAlone (fun _ => plainClient) (fun _ => 0) besideReads countingServer (fun _ => plainSign) (fun _ => ()) 0 1).outcome :=
  have undisturbed := readers_leave_no_mark (fun _ => plainClient) (fun _ => 0) besideReads countingServer
    (fun _ => plainSign) 1 (by decide) (fun _ => ()) 0 [0, 1, 2, 0, 1, 2] (by decide)
  ⟨congrArg Prod.snd undisturbed.2.2, undisturbed.1⟩

end StackConnect
