import StackConnect.Interaction.Precondition

set_option autoImplicit false

namespace Interaction

variable {Q R : Type} {A : Q → Type} {B : R → Type} {ε α : Type}

-- The program on a lower layer: what each query is answered is what a program
-- of smaller steps finds out.
def Prog.lowered (steps : (query : Q) → Prog R B ε (A query)) : Prog Q A ε α → Prog R B ε α
  | .done result => .done result
  | .cut => .cut
  | .ask query next => steps query >>= fun answer => lowered steps (next answer)

variable (steps : (query : Q) → Prog R B ε (A query))

inductive CarriedOut : List (Event A) → List (Event B) → Prop
  | nil : CarriedOut [] []
  | cons (query : Q) (answer : A query) (above : List (Event A)) (piece below : List (Event B))
      (ran : Runs (steps query) piece (some (.ok answer))) (rest : CarriedOut above below) :
      CarriedOut (⟨query, answer⟩ :: above) (piece ++ below)

-- No step of the lower layer is lost: every query gets its answer.
def Answers : Prop := ∀ query piece outcome, Runs (steps query) piece outcome → ∃ answer, outcome = some (.ok answer)

theorem runs_lowered (answers : Answers steps) (program : Prog Q A ε α) (below : List (Event B)) (outcome : Option (Except ε α))
    (run : Runs (program.lowered steps) below outcome) :
    ∃ above, CarriedOut steps above below ∧ Runs program above outcome := by
  induction program generalizing below with
  | done result =>
      obtain ⟨rfl, rfl⟩ := (runs_done _ _ _).mp run
      exact ⟨[], .nil, .done result⟩
  | cut =>
      obtain ⟨rfl, rfl⟩ := (runs_cut _ _).mp run
      exact ⟨[], .nil, .cut⟩
  | ask query next ih =>
      rcases runs_bind _ _ _ _ run with ⟨answer, piece, later, rfl, ran, after⟩ | ⟨failure, ran, _⟩ | ⟨ran, _⟩
      · obtain ⟨above, carried, upper⟩ := ih answer later after
        exact ⟨⟨query, answer⟩ :: above, .cons query answer above piece later ran carried, .ask query next answer above _ upper⟩
      · obtain ⟨answer, impossible⟩ := answers query below _ ran
        cases impossible
      · obtain ⟨answer, impossible⟩ := answers query below _ ran
        cases impossible

theorem carried_out_at (above : List (Event A)) (before after : List (Event B)) (event : Event B)
    (carried : CarriedOut steps above (before ++ event :: after)) :
    ∃ earlier query answer later done piece left, above = earlier ++ ⟨query, answer⟩ :: later ∧ before = done ++ piece ∧
      CarriedOut steps earlier done ∧ Runs (steps query) (piece ++ event :: left) (some (.ok answer)) := by
  generalize whole : before ++ event :: after = below at carried
  induction carried generalizing before with
  | nil => simp at whole
  | cons query answer above piece below ran rest ih =>
      rcases List.append_eq_append_iff.mp whole with ⟨middle, same, split⟩ | ⟨middle, same, split⟩
      · cases middle with
        | nil =>
            rw [List.append_nil] at same
            obtain ⟨earlier, found, reply, later, done, inner, left, rfl, nothing, first, inside⟩ := ih [] split
            obtain ⟨rfl, rfl⟩ := List.nil_eq_append_iff.mp nothing
            subst same
            refine ⟨⟨query, answer⟩ :: earlier, found, reply, later, piece, [], left, rfl, (List.append_nil _).symm, ?_, inside⟩
            have carried := CarriedOut.cons query answer earlier piece [] ran first
            rwa [List.append_nil] at carried
        | cons head middle =>
            obtain ⟨rfl, rfl⟩ := List.cons.inj split
            subst same
            exact ⟨[], query, answer, above, [], before, middle, rfl, rfl, .nil, ran⟩
      · obtain ⟨earlier, found, reply, later, done, inner, left, rfl, rfl, first, inside⟩ := ih middle split.symm
        subst same
        exact ⟨⟨query, answer⟩ :: earlier, found, reply, later, piece ++ done, inner, left, rfl, (List.append_assoc _ _ _).symm,
          .cons query answer earlier piece done ran first, inside⟩

theorem carried_out_last (above : List (Event A)) (event : Event A) (below : List (Event B))
    (carried : CarriedOut steps above below) (last : above.getLast? = some event) :
    ∃ done piece, below = done ++ piece ∧ Runs (steps event.1) piece (some (.ok event.2)) := by
  induction carried with
  | nil => cases last
  | cons query answer above piece below ran rest ih =>
      cases above with
      | nil =>
          cases last
          cases rest
          exact ⟨[], piece, List.append_nil piece, ran⟩
      | cons head above =>
          obtain ⟨done, inner, rfl, inside⟩ := ih last
          exact ⟨piece ++ done, inner, (List.append_assoc _ _ _).symm, inside⟩

end Interaction
