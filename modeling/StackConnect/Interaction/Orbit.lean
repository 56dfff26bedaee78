import StackConnect.Interaction.Loop
import Mathlib.Data.Fintype.Pigeonhole
import Mathlib.Data.Set.Finite.List

set_option autoImplicit false

namespace Interaction

section Walk

variable {ι : Type} (follows : ι → Option ι)

def orbit (first : ι) : Nat → Option ι
  | 0 => some first
  | count + 1 => (orbit first count).bind follows

def ComesBack (first : ι) : Prop :=
  ∃ earlier later item, earlier < later ∧ orbit follows first earlier = some item ∧ orbit follows first later = some item

theorem orbit_add (first : ι) (count more : Nat) :
    orbit follows first (count + more) = (orbit follows first count).bind fun item => orbit follows item more := by
  induction more with
  | zero => cases orbit follows first count <;> rfl
  | succ more ih =>
      rw [← Nat.add_assoc, orbit, ih]
      cases orbit follows first count <;> rfl

theorem orbit_from_next (first next : ι) (named : follows first = some next) (count : Nat) :
    orbit follows first (count + 1) = orbit follows next count := by
  have one : orbit follows first 1 = some next := named
  rw [Nat.add_comm, orbit_add, one]
  rfl

theorem orbit_stays_ended (first : ι) (count later : Nat) (ended : orbit follows first count = none)
    (after : count ≤ later) : orbit follows first later = none := by
  obtain ⟨more, rfl⟩ := Nat.exists_eq_add_of_le after
  rw [orbit_add, ended]
  rfl

theorem comes_back_never_ends (first : ι) (back : ComesBack follows first) (count : Nat) :
    orbit follows first count ≠ none := by
  obtain ⟨earlier, later, item, before, reached, again⟩ := back
  obtain ⟨period, rfl⟩ := Nat.exists_eq_add_of_lt before
  have turn : orbit follows item (period + 1) = some item := by
    rw [Nat.add_assoc, orbit_add, reached] at again
    exact again
  have always : ∀ turns, orbit follows first (earlier + turns * (period + 1)) = some item := by
    intro turns
    induction turns with
    | zero => rwa [Nat.zero_mul]
    | succ turns ih =>
        rw [Nat.succ_mul, ← Nat.add_assoc, orbit_add, ih]
        exact turn
  intro ended
  have far : count ≤ earlier + count * (period + 1) := by
    have wide : count * 1 ≤ count * (period + 1) := Nat.mul_le_mul_left count (by omega)
    omega
  have gone := orbit_stays_ended follows first count _ ended far
  rw [always count] at gone
  cases gone

theorem ends_or_comes_back (first : ι) (known : List ι) (finite : ∀ item, follows item ≠ none → item ∈ known) :
    (∃ count, orbit follows first count = none) ∨ ComesBack follows first := by
  by_cases ends : ∃ count, orbit follows first count = none
  · exact .inl ends
  · right
    have endless : ∀ count, ∃ item, orbit follows first count = some item := fun count =>
      Option.ne_none_iff_exists'.mp fun ended => ends ⟨count, ended⟩
    choose item visited using endless
    have inside : ∀ count, item count ∈ known := by
      intro count
      apply finite
      intro stops
      have after := visited (count + 1)
      rw [orbit, visited count, Option.bind_some, stops] at after
      cases after
    have bounded : Finite {item // item ∈ known} := (List.finite_toSet known).to_subtype
    obtain ⟨one, other, different, same⟩ := Finite.exists_ne_map_eq_of_infinite
      fun count => (⟨item count, inside count⟩ : {item // item ∈ known})
    have equal : item one = item other := congrArg Subtype.val same
    rcases Nat.lt_or_gt_of_ne different with before | before
    · exact ⟨one, other, item one, before, visited one, equal ▸ visited other⟩
    · exact ⟨other, one, item one, before, equal ▸ visited other, visited one⟩

end Walk

section Steered

variable {Q : Type} {A : Q → Type} {ε σ ι S : Type}

def onward (round : ι → Except ε (Option ι)) (item : ι) : Option ι :=
  match round item with
  | .ok next => next
  | .error _ => none

-- The rounds of a loop hang on the current item alone, whatever is kept and in
-- whatever state, and each of them adds to what is counted.
def Steered (handler : Handler A S) (body : σ → ι → Prog Q A ε (σ × Option ι)) (round : ι → Except ε (Option ι))
    (size : List (Event A) → Nat) : Prop :=
  ∀ kept item state, ∃ result reached trace, exec handler (body kept item) state = ⟨some result, reached, trace⟩ ∧
    result.map Prod.snd = round item ∧ 1 ≤ size trace

variable (handler : Handler A S) (body : σ → ι → Prog Q A ε (σ × Option ι)) (round : ι → Except ε (Option ι))
  (size : List (Event A) → Nat)

theorem steered_onward (steered : Steered handler body round size) (kept : σ) (item next : ι) (state : S)
    (named : onward round item = some next) :
    ∃ later reached trace, exec handler (body kept item) state = ⟨some (.ok (later, some next)), reached, trace⟩ ∧
      1 ≤ size trace := by
  obtain ⟨result, reached, trace, ran, steps, counted⟩ := steered kept item state
  rw [onward, ← steps] at named
  cases result with
  | error failure => cases named
  | ok step =>
      obtain ⟨later, following⟩ := step
      cases named
      exact ⟨later, reached, trace, ran, counted⟩

theorem exec_steered_cut (steered : Steered handler body round size)
    (additive : ∀ first second, size (first ++ second) = size first + size second)
    (fuel : Nat) (kept : σ) (first : ι) (state : S) (walking : orbit (onward round) first fuel ≠ none) :
    (exec handler (whileSome body fuel kept (some first)) state).outcome = none ∧
      fuel ≤ size (exec handler (whileSome body fuel kept (some first)) state).trace := by
  induction fuel generalizing kept first state with
  | zero => exact ⟨rfl, Nat.zero_le _⟩
  | succ fuel ih =>
      cases named : onward round first with
      | none =>
          have ended : orbit (onward round) first 1 = none := named
          exact absurd (orbit_stays_ended _ first 1 (fuel + 1) ended (by omega)) walking
      | some next =>
          obtain ⟨later, reached, trace, ran, counted⟩ := steered_onward handler body round size steered kept first next
            state named
          rw [orbit_from_next _ first next named] at walking
          obtain ⟨outcome, enough⟩ := ih later next reached walking
          rw [exec_while_some_ok _ _ _ _ _ _ _ _ ran]
          refine ⟨outcome, ?_⟩
          rw [Run.prepend_trace, additive]
          dsimp only
          omega

theorem converges_steered (steered : Steered handler body round size) (count : Nat) (kept : σ) (first : ι)
    (state : S) (ended : orbit (onward round) first count = none) :
    Converges handler (fun fuel => whileSome body fuel kept (some first)) state := by
  induction count generalizing kept first state with
  | zero => cases ended
  | succ count ih =>
      obtain ⟨result, reached, trace, ran, steps, _⟩ := steered kept first state
      cases result with
      | error failure =>
          refine ⟨1, ⟨some (.error failure), reached, trace⟩, Option.some_ne_none _, ?_⟩
          intro fuel enough
          obtain ⟨less, rfl⟩ : ∃ less, fuel = less + 1 := ⟨fuel - 1, by omega⟩
          exact exec_while_some_error handler body kept first failure state reached trace ran less
      | ok step =>
          obtain ⟨later, following⟩ := step
          have rest : Converges handler (fun fuel => whileSome body fuel later following) reached := by
            cases following with
            | none =>
                refine ⟨0, ⟨some (.ok later), reached, []⟩, Option.some_ne_none _, ?_⟩
                intro fuel _
                simp only [while_some_none, exec_done]
            | some next =>
                have named : onward round first = some next := by
                  rw [onward, ← steps]
                  rfl
                rw [orbit_from_next _ first next named] at ended
                exact ih later next reached ended
          obtain ⟨enough, run, finished, same⟩ := rest
          refine ⟨enough + 1, run.prepend trace, finished, ?_⟩
          intro fuel large
          obtain ⟨less, rfl⟩ : ∃ less, fuel = less + 1 := ⟨fuel - 1, by omega⟩
          rw [exec_while_some_ok handler body kept first (later, following) state reached trace ran less]
          dsimp only
          rw [same less (by omega)]

end Steered

end Interaction
