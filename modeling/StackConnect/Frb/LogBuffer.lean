import Mathlib.Algebra.BigOperators.Group.Finset.Piecewise
import Mathlib.Algebra.Order.BigOperators.Group.Finset

set_option autoImplicit false

namespace StackConnect.LogBuffer

-- A debug line, numbered in the order in which the lines were logged. The number
-- is history: the code never looks at it.
structure Line where
  number : Nat
  text : String
deriving DecidableEq

-- One provider call: the lines it has still to log, and then its flush with the
-- lines it took and has not delivered yet. The turn says which take it was.
inductive Call where
  | logging (script : List String)
  | flushing (turn : Nat) (lines : List Line)

def Call.inFlight : Call → List Line
  | .logging _ => []
  | .flushing _ lines => lines

structure System (n : Nat) where
  pending : List Line
  calls : Fin n → Call
  delivered : List Line
  logged : List Line
  takes : Nat

variable {n : Nat}

-- `log` pushes under the lock. `flush` takes the whole buffer under the lock, and
-- then awaits the sink once for each line, without it.
inductive Act (n : Nat) where
  | log (call : Fin n)
  | take (call : Fin n)
  | deliver (call : Fin n)

def step (system : System n) : Act n → System n
  | .log call =>
      match system.calls call with
      | .logging (message :: rest) =>
          let line : Line := ⟨system.logged.length, message⟩
          { system with
            pending := system.pending ++ [line]
            calls := Function.update system.calls call (.logging rest)
            logged := system.logged ++ [line] }
      | _ => system
  | .take call =>
      match system.calls call with
      | .logging [] =>
          { system with
            pending := []
            calls := Function.update system.calls call (.flushing system.takes system.pending)
            takes := system.takes + 1 }
      | _ => system
  | .deliver call =>
      match system.calls call with
      | .flushing turn (line :: rest) =>
          { system with
            calls := Function.update system.calls call (.flushing turn rest)
            delivered := system.delivered ++ [line] }
      | _ => system

def run (system : System n) (acts : List (Act n)) : System n := acts.foldl step system

def start (scripts : Fin n → List String) : System n := ⟨[], fun call => .logging (scripts call), [], [], 0⟩

def Flushed (system : System n) : Prop := ∀ call, ∃ turn, system.calls call = .flushing turn []

inductive Stepped (system : System n) : Act n → System n → Prop
  | logged (call : Fin n) (message : String) (rest : List String)
      (logs : system.calls call = .logging (message :: rest)) :
      Stepped system (.log call) { system with
        pending := system.pending ++ [⟨system.logged.length, message⟩]
        calls := Function.update system.calls call (.logging rest)
        logged := system.logged ++ [⟨system.logged.length, message⟩] }
  | taken (call : Fin n) (ready : system.calls call = .logging []) :
      Stepped system (.take call) { system with
        pending := []
        calls := Function.update system.calls call (.flushing system.takes system.pending)
        takes := system.takes + 1 }
  | delivered (call : Fin n) (turn : Nat) (line : Line) (rest : List Line)
      (holds : system.calls call = .flushing turn (line :: rest)) :
      Stepped system (.deliver call) { system with
        calls := Function.update system.calls call (.flushing turn rest)
        delivered := system.delivered ++ [line] }
  | idle (act : Act n) : Stepped system act system

theorem step_stepped (system : System n) (act : Act n) : Stepped system act (step system act) := by
  cases act with
  | log call =>
      rw [step]
      split
      · exact .logged call _ _ ‹_›
      · exact .idle _
  | take call =>
      rw [step]
      split
      · exact .taken call ‹_›
      · exact .idle _
  | deliver call =>
      rw [step]
      split
      · exact .delivered call _ _ _ ‹_›
      · exact .idle _

def flightCount (calls : Fin n → Call) (line : Line) : Nat := ∑ call, (calls call).inFlight.count line

theorem flight_count_update (calls : Fin n → Call) (call : Fin n) (moved : Call) (line : Line) :
    flightCount (Function.update calls call moved) line + (calls call).inFlight.count line =
      flightCount calls line + moved.inFlight.count line := by
  have composed : (fun other => (Function.update calls call moved other).inFlight.count line) =
      Function.update (fun other => (calls other).inFlight.count line) call (moved.inFlight.count line) := by
    funext other
    by_cases same : other = call
    · rw [same, Function.update_self, Function.update_self]
    · rw [Function.update_of_ne same, Function.update_of_ne same]
  rw [flightCount, flightCount, composed, Finset.sum_update_of_mem (Finset.mem_univ call),
    Finset.sum_eq_add_sum_sdiff_singleton_of_mem (Finset.mem_univ call) (fun other => (calls other).inFlight.count line)]
  omega

theorem flight_count_pos (calls : Fin n → Call) (call : Fin n) (line : Line) (inside : line ∈ (calls call).inFlight) :
    0 < flightCount calls line := by
  have here := List.count_pos_iff.mpr inside
  have part := Finset.single_le_sum (fun other _ => Nat.zero_le ((calls other).inFlight.count line)) (Finset.mem_univ call)
  rw [flightCount]
  omega

structure Invariant (system : System n) : Prop where
  numbered : system.logged.map Line.number = List.range system.logged.length
  once : ∀ line, system.delivered.count line + flightCount system.calls line + system.pending.count line =
    system.logged.count line
  queued : system.pending.Pairwise fun first second => first.number < second.number
  -- What a flush holds was logged before everything that is still in the buffer,
  -- and before what the flushes hold that took the buffer after it.
  taken : ∀ call turn lines, system.calls call = .flushing turn lines → turn < system.takes ∧
    (lines.Pairwise fun first second => first.number < second.number) ∧
    ∀ line ∈ lines, ∀ later ∈ system.pending, line.number < later.number
  turns : ∀ one other turn next lines others, system.calls one = .flushing turn lines →
    system.calls other = .flushing next others → turn < next →
    ∀ line ∈ lines, ∀ later ∈ others, line.number < later.number
  alone : ∀ one other turn lines others, system.calls one = .flushing turn lines →
    system.calls other = .flushing turn others → one = other
  owned : system.pending ≠ [] → ∃ call script, system.calls call = .logging script

theorem logged_nodup (system : System n) (inv : Invariant system) : system.logged.Nodup := by
  have numbers : (system.logged.map Line.number).Nodup := inv.numbered ▸ List.nodup_range
  exact numbers.of_map

theorem logged_ascending (system : System n) (inv : Invariant system) :
    system.logged.Pairwise fun first second => first.number < second.number := by
  have numbers : (system.logged.map Line.number).Pairwise (· < ·) := inv.numbered ▸ List.pairwise_lt_range
  exact List.pairwise_map.mp numbers

theorem logged_below (system : System n) (inv : Invariant system) (line : Line)
    (somewhere : 0 < system.delivered.count line + flightCount system.calls line + system.pending.count line) :
    line ∈ system.logged ∧ line.number < system.logged.length := by
  rw [inv.once line] at somewhere
  have inside := List.count_pos_iff.mp somewhere
  have number : line.number ∈ system.logged.map Line.number := List.mem_map_of_mem inside
  rw [inv.numbered] at number
  exact ⟨inside, List.mem_range.mp number⟩

theorem pending_below (system : System n) (inv : Invariant system) (line : Line) (inside : line ∈ system.pending) :
    line.number < system.logged.length := by
  have here := List.count_pos_iff.mpr inside
  exact (logged_below system inv line (by omega)).2

theorem flight_below (system : System n) (inv : Invariant system) (call : Fin n) (turn : Nat) (lines : List Line)
    (holds : system.calls call = .flushing turn lines) (line : Line) (inside : line ∈ lines) :
    line.number < system.logged.length := by
  have flying : line ∈ (system.calls call).inFlight := by
    rw [holds]
    exact inside
  have here := flight_count_pos system.calls call line flying
  exact (logged_below system inv line (by omega)).2

theorem start_invariant (scripts : Fin n → List String) : Invariant (start scripts) where
  numbered := rfl
  once := by
    intro line
    simp [start, flightCount, Call.inFlight]
  queued := .nil
  taken := by
    intro call turn lines impossible
    cases impossible
  turns := by
    intro one other turn next lines others impossible
    cases impossible
  alone := by
    intro one other turn lines others impossible
    cases impossible
  owned := fun nonempty => absurd rfl nonempty

theorem moved_or_same (calls : Fin n → Call) (call other : Fin n) (moved found : Call)
    (now : Function.update calls call moved other = found) : (other = call ∧ moved = found) ∨ (other ≠ call ∧ calls other = found) := by
  by_cases same : other = call
  · subst same
    rw [Function.update_self] at now
    exact .inl ⟨rfl, now⟩
  · rw [Function.update_of_ne same] at now
    exact .inr ⟨same, now⟩

-- A flush is no call that still logs, so it held its lines before the log too.
theorem still_flushing (calls : Fin n → Call) (call other : Fin n) (script : List String) (turn : Nat) (lines : List Line)
    (now : Function.update calls call (.logging script) other = .flushing turn lines) : calls other = .flushing turn lines := by
  rcases moved_or_same calls call other _ _ now with ⟨_, impossible⟩ | ⟨_, same⟩
  · cases impossible
  · exact same

theorem logged_invariant (system : System n) (inv : Invariant system) (call : Fin n) (message : String)
    (rest : List String) (logs : system.calls call = .logging (message :: rest)) :
    Invariant { system with
      pending := system.pending ++ [⟨system.logged.length, message⟩]
      calls := Function.update system.calls call (.logging rest)
      logged := system.logged ++ [⟨system.logged.length, message⟩] } where
  numbered := by
    rw [List.map_append, inv.numbered, List.length_append, List.length_singleton, List.range_succ]
    rfl
  once := by
    intro line
    dsimp only
    have counts := inv.once line
    have moved := flight_count_update system.calls call (.logging rest) line
    rw [logs] at moved
    simp only [Call.inFlight, List.count_nil, Nat.add_zero] at moved
    rw [List.count_append, List.count_append, moved]
    omega
  queued := by
    have last : ∀ line ∈ system.pending, ∀ pushed ∈ [(⟨system.logged.length, message⟩ : Line)], line.number < pushed.number := by
      intro line inside pushed only
      cases List.mem_singleton.mp only
      exact pending_below system inv line inside
    exact List.pairwise_append.mpr ⟨inv.queued, List.pairwise_singleton _ _, last⟩
  taken := by
    intro other turn lines now
    have before := still_flushing system.calls call other rest turn lines now
    obtain ⟨numbered, ascending, early⟩ := inv.taken other turn lines before
    have earlier : ∀ line ∈ lines, ∀ later ∈ system.pending ++ [⟨system.logged.length, message⟩],
        line.number < later.number := by
      intro line inside later found
      rcases List.mem_append.mp found with old | new
      · exact early line inside later old
      · cases List.mem_singleton.mp new
        exact flight_below system inv other turn lines before line inside
    exact ⟨numbered, ascending, earlier⟩
  turns := by
    intro one other turn next lines others first second
    have oneBefore := still_flushing system.calls call one rest turn lines first
    have otherBefore := still_flushing system.calls call other rest next others second
    exact inv.turns one other turn next lines others oneBefore otherBefore
  alone := by
    intro one other turn lines others first second
    have oneBefore := still_flushing system.calls call one rest turn lines first
    have otherBefore := still_flushing system.calls call other rest turn others second
    exact inv.alone one other turn lines others oneBefore otherBefore
  owned := fun _ => ⟨call, rest, Function.update_self call (.logging rest) system.calls⟩

theorem taken_invariant (system : System n) (inv : Invariant system) (call : Fin n) (ready : system.calls call = .logging []) :
    Invariant { system with
      pending := []
      calls := Function.update system.calls call (.flushing system.takes system.pending)
      takes := system.takes + 1 } where
  numbered := inv.numbered
  once := by
    intro line
    dsimp only
    have counts := inv.once line
    have moved := flight_count_update system.calls call (.flushing system.takes system.pending) line
    rw [ready] at moved
    simp only [Call.inFlight, List.count_nil, Nat.add_zero] at moved
    rw [moved, List.count_nil]
    omega
  queued := .nil
  taken := by
    intro other turn lines now
    rcases moved_or_same system.calls call other _ _ now with ⟨_, same⟩ | ⟨_, same⟩
    · cases same
      exact ⟨Nat.lt_succ_self _, inv.queued, fun _ _ later inside => absurd inside List.not_mem_nil⟩
    · obtain ⟨numbered, ascending, _⟩ := inv.taken other turn lines same
      exact ⟨Nat.lt_succ_of_lt numbered, ascending, fun _ _ later inside => absurd inside List.not_mem_nil⟩
  turns := by
    intro one other turn next lines others first second order
    rcases moved_or_same system.calls call one _ _ first with ⟨_, same⟩ | ⟨_, same⟩
    · cases same
      rcases moved_or_same system.calls call other _ _ second with ⟨_, again⟩ | ⟨_, again⟩
      · cases again
        omega
      · have earlier := (inv.taken other next others again).1
        omega
    · rcases moved_or_same system.calls call other _ _ second with ⟨_, again⟩ | ⟨_, again⟩
      · cases again
        exact (inv.taken one turn lines same).2.2
      · exact inv.turns one other turn next lines others same again order
  alone := by
    intro one other turn lines others first second
    rcases moved_or_same system.calls call one _ _ first with ⟨rfl, same⟩ | ⟨_, same⟩
    · rcases moved_or_same system.calls one other _ _ second with ⟨rfl, again⟩ | ⟨_, again⟩
      · rfl
      · cases same
        have earlier := (inv.taken other _ others again).1
        omega
    · rcases moved_or_same system.calls call other _ _ second with ⟨_, again⟩ | ⟨_, again⟩
      · cases again
        have earlier := (inv.taken one _ lines same).1
        omega
      · exact inv.alone one other turn lines others same again
  owned := fun nonempty => absurd rfl nonempty

theorem part_before (calls : Fin n → Call) (call other : Fin n) (turn next : Nat) (line : Line) (rest lines : List Line)
    (holds : calls call = .flushing turn (line :: rest))
    (now : Function.update calls call (.flushing turn rest) other = .flushing next lines) :
    ∃ whole, calls other = .flushing next whole ∧ lines.Sublist whole := by
  rcases moved_or_same calls call other _ _ now with ⟨rfl, same⟩ | ⟨_, same⟩
  · cases same
    exact ⟨line :: rest, holds, List.sublist_cons_self line rest⟩
  · exact ⟨lines, same, List.Sublist.refl lines⟩

theorem delivered_invariant (system : System n) (inv : Invariant system) (call : Fin n) (turn : Nat) (line : Line)
    (rest : List Line) (holds : system.calls call = .flushing turn (line :: rest)) :
    Invariant { system with
      calls := Function.update system.calls call (.flushing turn rest)
      delivered := system.delivered ++ [line] } where
  numbered := inv.numbered
  once := by
    intro other
    dsimp only
    have counts := inv.once other
    have moved := flight_count_update system.calls call (.flushing turn rest) other
    rw [holds] at moved
    simp only [Call.inFlight, List.count_cons] at moved
    rw [List.count_append, List.count_singleton]
    omega
  queued := inv.queued
  taken := by
    intro other next lines now
    obtain ⟨whole, before, part⟩ := part_before system.calls call other turn next line rest lines holds now
    obtain ⟨numbered, ascending, early⟩ := inv.taken other next whole before
    exact ⟨numbered, ascending.sublist part, fun one inside => early one (part.subset inside)⟩
  turns := by
    intro one other early next lines others first second order held inside later found
    obtain ⟨whole, oneBefore, part⟩ := part_before system.calls call one turn early line rest lines holds first
    obtain ⟨wholes, otherBefore, parts⟩ := part_before system.calls call other turn next line rest others holds second
    exact inv.turns one other early next whole wholes oneBefore otherBefore order held (part.subset inside) later
      (parts.subset found)
  alone := by
    intro one other next lines others first second
    obtain ⟨whole, oneBefore, _⟩ := part_before system.calls call one turn next line rest lines holds first
    obtain ⟨wholes, otherBefore, _⟩ := part_before system.calls call other turn next line rest others holds second
    exact inv.alone one other next whole wholes oneBefore otherBefore
  owned := by
    intro nonempty
    obtain ⟨owner, script, logs⟩ := inv.owned nonempty
    have apart : owner ≠ call := by
      intro same
      rw [same, holds] at logs
      cases logs
    exact ⟨owner, script, (Function.update_of_ne apart _ _).trans logs⟩

theorem step_invariant (system : System n) (act : Act n) (inv : Invariant system) : Invariant (step system act) := by
  have stepped := step_stepped system act
  generalize step system act = later at stepped
  cases stepped with
  | logged call message rest logs => exact logged_invariant system inv call message rest logs
  | taken call ready => exact taken_invariant system inv call ready
  | delivered call turn line rest holds => exact delivered_invariant system inv call turn line rest holds
  | idle => exact inv

theorem run_invariant (acts : List (Act n)) (system : System n) (inv : Invariant system) : Invariant (run system acts) := by
  induction acts generalizing system with
  | nil => exact inv
  | cons act rest ih => exact ih (step system act) (step_invariant system act inv)

theorem flushed_in_flight (system : System n) (flushed : Flushed system) (line : Line) : flightCount system.calls line = 0 := by
  apply Finset.sum_eq_zero
  intro call _
  obtain ⟨turn, holds⟩ := flushed call
  rw [holds]
  rfl

theorem flushed_pending (system : System n) (inv : Invariant system) (flushed : Flushed system) : system.pending = [] := by
  by_contra nonempty
  obtain ⟨call, script, logs⟩ := inv.owned nonempty
  obtain ⟨turn, holds⟩ := flushed call
  cases logs.symm.trans holds

theorem flushed_once (system : System n) (inv : Invariant system) (flushed : Flushed system) :
    system.delivered.Perm system.logged := by
  apply List.perm_iff_count.mpr
  intro line
  have counts := inv.once line
  rw [flushed_in_flight system flushed line, flushed_pending system inv flushed, List.count_nil] at counts
  exact counts

-- A line is delivered while no flush that took the buffer earlier still holds lines.
def InTurn (system : System n) : Act n → Prop
  | .deliver call => ∀ turn line rest, system.calls call = .flushing turn (line :: rest) →
      ∀ other next held lines, system.calls other = .flushing next (held :: lines) → turn ≤ next
  | _ => True

def InTurns : System n → List (Act n) → Prop
  | _, [] => True
  | system, act :: rest => InTurn system act ∧ InTurns (step system act) rest

structure Ordered (system : System n) : Prop where
  ascending : system.delivered.Pairwise fun first second => first.number < second.number
  flight : ∀ line ∈ system.delivered, ∀ call turn lines, system.calls call = .flushing turn lines →
    ∀ later ∈ lines, line.number < later.number
  queue : ∀ line ∈ system.delivered, ∀ later ∈ system.pending, line.number < later.number

theorem delivered_below (system : System n) (inv : Invariant system) (line : Line) (inside : line ∈ system.delivered) :
    line.number < system.logged.length := by
  have here := List.count_pos_iff.mpr inside
  exact (logged_below system inv line (by omega)).2

theorem logged_ordered (system : System n) (inv : Invariant system) (ordered : Ordered system) (call : Fin n)
    (message : String) (rest : List String) :
    Ordered { system with
      pending := system.pending ++ [⟨system.logged.length, message⟩]
      calls := Function.update system.calls call (.logging rest)
      logged := system.logged ++ [⟨system.logged.length, message⟩] } where
  ascending := ordered.ascending
  flight := by
    intro line inside other turn lines now
    exact ordered.flight line inside other turn lines (still_flushing system.calls call other rest turn lines now)
  queue := by
    intro line inside later found
    rcases List.mem_append.mp found with old | new
    · exact ordered.queue line inside later old
    · cases List.mem_singleton.mp new
      exact delivered_below system inv line inside

theorem taken_ordered (system : System n) (ordered : Ordered system) (call : Fin n) :
    Ordered { system with
      pending := []
      calls := Function.update system.calls call (.flushing system.takes system.pending)
      takes := system.takes + 1 } where
  ascending := ordered.ascending
  flight := by
    intro line inside other turn lines now
    rcases moved_or_same system.calls call other _ _ now with ⟨_, same⟩ | ⟨_, same⟩
    · cases same
      exact ordered.queue line inside
    · exact ordered.flight line inside other turn lines same
  queue := fun _ _ later inside => absurd inside List.not_mem_nil

theorem delivered_ordered (system : System n) (inv : Invariant system) (ordered : Ordered system) (call : Fin n)
    (mine : Nat) (line : Line) (rest : List Line) (turn : InTurn system (.deliver call))
    (holds : system.calls call = .flushing mine (line :: rest)) :
    Ordered { system with
      calls := Function.update system.calls call (.flushing mine rest)
      delivered := system.delivered ++ [line] } where
  ascending := by
    have last : ∀ old ∈ system.delivered, ∀ now ∈ [line], old.number < now.number := by
      intro old inside now only
      cases List.mem_singleton.mp only
      exact ordered.flight old inside call mine (line :: rest) holds line List.mem_cons_self
    exact List.pairwise_append.mpr ⟨ordered.ascending, List.pairwise_singleton _ _, last⟩
  flight := by
    intro old inside other next lines now later found
    obtain ⟨whole, before, part⟩ := part_before system.calls call other mine next line rest lines holds now
    rcases List.mem_append.mp inside with earlier | last
    · exact ordered.flight old earlier other next whole before later (part.subset found)
    · cases List.mem_singleton.mp last
      rcases moved_or_same system.calls call other _ _ now with ⟨_, same⟩ | ⟨apart, same⟩
      · cases same
        have ascending := (inv.taken call mine (line :: rest) holds).2.1
        exact (List.pairwise_cons.mp ascending).1 later found
      · cases lines with
        | nil => cases found
        | cons held others =>
            have notLater := turn mine line rest holds other next held others same
            have distinct : mine ≠ next := by
              intro one
              subst one
              exact apart (inv.alone other call mine _ _ same holds)
            exact inv.turns call other mine next (line :: rest) (held :: others) holds same (by omega)
              line List.mem_cons_self later found
  queue := by
    intro old inside later found
    rcases List.mem_append.mp inside with before | last
    · exact ordered.queue old before later found
    · cases List.mem_singleton.mp last
      exact (inv.taken call mine (line :: rest) holds).2.2 line List.mem_cons_self later found

theorem step_ordered (system : System n) (act : Act n) (inv : Invariant system) (turn : InTurn system act)
    (ordered : Ordered system) : Ordered (step system act) := by
  have stepped := step_stepped system act
  generalize step system act = later at stepped
  cases stepped with
  | logged call message rest logs => exact logged_ordered system inv ordered call message rest
  | taken call ready => exact taken_ordered system ordered call
  | delivered call mine line rest holds => exact delivered_ordered system inv ordered call mine line rest turn holds
  | idle => exact ordered

theorem run_ordered (acts : List (Act n)) (system : System n) (inv : Invariant system) (turns : InTurns system acts)
    (ordered : Ordered system) : Ordered (run system acts) := by
  induction acts generalizing system with
  | nil => exact ordered
  | cons act rest ih =>
      exact ih (step system act) (step_invariant system act inv) turns.2 (step_ordered system act inv turns.1 ordered)

theorem step_grows (system : System n) (act : Act n) :
    system.delivered <+: (step system act).delivered ∧ system.logged <+: (step system act).logged := by
  have stepped := step_stepped system act
  generalize step system act = later at stepped
  cases stepped with
  | logged call message rest logs => exact ⟨List.prefix_refl _, List.prefix_append _ _⟩
  | taken call ready => exact ⟨List.prefix_refl _, List.prefix_refl _⟩
  | delivered call turn line rest holds => exact ⟨List.prefix_append _ _, List.prefix_refl _⟩
  | idle => exact ⟨List.prefix_refl _, List.prefix_refl _⟩

theorem run_grows (acts : List (Act n)) (system : System n) :
    system.delivered <+: (run system acts).delivered ∧ system.logged <+: (run system acts).logged := by
  induction acts generalizing system with
  | nil => exact ⟨List.prefix_refl _, List.prefix_refl _⟩
  | cons act rest ih =>
      obtain ⟨delivers, logs⟩ := ih (step system act)
      obtain ⟨delivered, logged⟩ := step_grows system act
      exact ⟨delivered.trans delivers, logged.trans logs⟩

theorem out_of_turn (system : System n) (inv : Invariant system) (act : Act n) (rest : List (Act n))
    (flushed : Flushed (run (step system act) rest))
    (inOrder : (run (step system act) rest).delivered = (run (step system act) rest).logged) : InTurn system act := by
  cases act with
  | log call => trivial
  | take call => trivial
  | deliver call =>
      intro turn line others holds other next held lines same
      by_contra late
      have before := inv.turns other call next turn (held :: lines) (line :: others) same holds (by omega) held
        List.mem_cons_self line List.mem_cons_self
      have moved : step system (.deliver call) = { system with
          calls := Function.update system.calls call (.flushing turn others)
          delivered := system.delivered ++ [line] } := by
        rw [step, holds]
      have inv' := step_invariant system (.deliver call) inv
      have final := run_invariant rest _ inv'
      obtain ⟨⟨tail, extended⟩, recorded⟩ := run_grows rest (step system (.deliver call))
      have apart : other ≠ call := by
        intro one
        rw [one, holds] at same
        cases same
        omega
      -- The earlier line is still in flight after the step, so it is not among those delivered.
      have flying : 0 < flightCount (step system (.deliver call)).calls held := by
        apply flight_count_pos _ other held
        rw [moved]
        dsimp only
        rw [Function.update_of_ne apart, same]
        exact List.mem_cons_self
      have counts := inv'.once held
      have known := logged_below _ inv' held (by omega)
      have single := List.nodup_iff_count_le_one.mp (logged_nodup _ inv') held
      have undelivered : held ∉ (step system (.deliver call)).delivered := by
        intro inside
        have := List.count_pos_iff.mpr inside
        omega
      have kept : held ∈ (run (step system (.deliver call)) rest).delivered := by
        apply (flushed_once _ final flushed).mem_iff.mpr
        exact recorded.subset known.1
      rw [← extended] at kept
      have inTail := (List.mem_append.mp kept).resolve_left undelivered
      have sorted := logged_ascending _ final
      rw [← inOrder, ← extended] at sorted
      have wrong := (List.pairwise_append.mp sorted).2.2 line (by rw [moved]; simp) held inTail
      omega

theorem in_turns_of_order (acts : List (Act n)) (system : System n) (inv : Invariant system)
    (flushed : Flushed (run system acts)) (inOrder : (run system acts).delivered = (run system acts).logged) :
    InTurns system acts := by
  induction acts generalizing system with
  | nil => trivial
  | cons act rest ih =>
      exact ⟨out_of_turn system inv act rest flushed inOrder, ih (step system act) (step_invariant system act inv) flushed inOrder⟩

theorem lines_delivered_in_order_iff (scripts : Fin n → List String) (acts : List (Act n))
    (flushed : Flushed (run (start scripts) acts)) :
    (run (start scripts) acts).delivered.Nodup ∧
      (run (start scripts) acts).delivered.Perm (run (start scripts) acts).logged ∧
      ((run (start scripts) acts).delivered = (run (start scripts) acts).logged ↔ InTurns (start scripts) acts) := by
  have inv := run_invariant acts (start scripts) (start_invariant scripts)
  have once := flushed_once _ inv flushed
  refine ⟨once.nodup_iff.mpr (logged_nodup _ inv), once, ?_⟩
  constructor
  · exact in_turns_of_order acts (start scripts) (start_invariant scripts) flushed
  · intro turns
    have ordered := run_ordered acts (start scripts) (start_invariant scripts) turns
      ⟨.nil, fun _ inside => absurd inside List.not_mem_nil, fun _ inside => absurd inside List.not_mem_nil⟩
    have antisymmetric : ∀ first second : Line, first ∈ (run (start scripts) acts).delivered →
        second ∈ (run (start scripts) acts).logged → first.number < second.number → second.number < first.number →
        first = second := by
      intro first second _ _ less more
      omega
    exact List.Perm.eq_of_pairwise antisymmetric ordered.ascending (logged_ascending _ inv) once

def twoScripts : Fin 2 → List String
  | 0 => ["a1", "a2"]
  | 1 => ["b1"]

-- Call 1 logs, takes and delivers between the two deliveries of call 0.
def overtaking : List (Act 2) :=
  [.log 0, .log 0, .take 0, .deliver 0, .log 1, .take 1, .deliver 1, .deliver 0]

def waiting : List (Act 2) :=
  [.log 0, .log 0, .take 0, .deliver 0, .log 1, .take 1, .deliver 0, .deliver 1]

theorem overtaken_line :
    Flushed (run (start twoScripts) overtaking) ∧
      (run (start twoScripts) overtaking).delivered.map Line.text = ["a1", "b1", "a2"] ∧
      (run (start twoScripts) overtaking).logged.map Line.text = ["a1", "a2", "b1"] ∧
      (run (start twoScripts) overtaking).delivered ≠ (run (start twoScripts) overtaking).logged := by
  refine ⟨?_, by decide, by decide, by decide⟩
  intro call
  match call with
  | 0 => exact ⟨0, rfl⟩
  | 1 => exact ⟨1, rfl⟩

theorem waiting_in_order_iff :
    (run (start twoScripts) waiting).delivered.Nodup ∧
      (run (start twoScripts) waiting).delivered.Perm (run (start twoScripts) waiting).logged ∧
      ((run (start twoScripts) waiting).delivered = (run (start twoScripts) waiting).logged ↔
        InTurns (start twoScripts) waiting) := by
  apply lines_delivered_in_order_iff twoScripts waiting
  intro call
  match call with
  | 0 => exact ⟨0, rfl⟩
  | 1 => exact ⟨1, rfl⟩

end StackConnect.LogBuffer
