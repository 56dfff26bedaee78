import StackConnect.Interaction.Ports

set_option autoImplicit false

namespace Interaction

variable {Q R : Type} {A : Q → Type} {ε α β S T : Type}

abbrev Told (_ : R) : Type := Unit

abbrev Heard (A : Q → Type) (R : Type) : Q ⊕ R → Type := Sum.elim A Told

-- A program that talks to an environment and tells a sink things on the way.
abbrev Aloud (A : Q → Type) (R ε α : Type) := Prog (Q ⊕ R) (Heard A R) ε α

def tell (message : R) : Aloud A R ε Unit := .ask (.inr message) fun _ => .done (.ok ())

def pose (query : Q) : Aloud A R ε (A query) := .ask (.inl query) fun answer => .done (.ok answer)

def sinking (absorb : T → R → T) : Handler (Told : R → Type) T where
  answer message held := ((), absorb held message)

def told (trace : List (Event (Heard A R))) : List R :=
  trace.filterMap fun
    | ⟨.inl _, _⟩ => none
    | ⟨.inr message, _⟩ => some message

def around (before : Q → List R) (after : (query : Q) → A query → List R) (query : Q) : Aloud A R ε (A query) := do
  (before query).forM tell
  let answer ← pose query
  (after query answer).forM tell
  pure answer

namespace Prog

def muted : Aloud A R ε α → Prog Q A ε α
  | .done result => .done result
  | .cut => .cut
  | .ask (.inl query) next => .ask query fun answer => muted (next answer)
  | .ask (.inr _) next => muted (next ())

def through (asked : (query : Q) → Aloud A R ε (A query)) :
    Prog Q A ε α → Aloud A R ε α
  | .done result => .done result
  | .cut => .cut
  | .ask query next => asked query >>= fun answer => through asked (next answer)

@[simp] theorem muted_done (result : Except ε α) :
    (.done result : Aloud A R ε α).muted = .done result := rfl

@[simp] theorem muted_tell (message : R) : (tell message : Aloud A R ε Unit).muted = .done (.ok ()) := rfl

@[simp] theorem muted_pose (query : Q) : (pose query : Aloud A R ε (A query)).muted = Prog.query query := rfl

@[simp] theorem muted_bind (program : Aloud A R ε α)
    (next : α → Aloud A R ε β) :
    (program >>= next).muted = program.muted >>= fun value => (next value).muted := by
  induction program with
  | done result => cases result <;> rfl
  | cut => rfl
  | ask query answered ih =>
      cases query with
      | inl query => exact congrArg (Prog.ask query) (funext ih)
      | inr message => exact ih ()

@[simp] theorem muted_attempt (program : Aloud A R ε α) :
    (attempt program).muted = attempt program.muted := by
  induction program with
  | done result => rfl
  | cut => rfl
  | ask query answered ih =>
      cases query with
      | inl query => exact congrArg (Prog.ask query) (funext ih)
      | inr message => exact ih ()

@[simp] theorem muted_tells (lines : List R) : (lines.forM tell : Aloud A R ε Unit).muted = .done (.ok ()) := by
  induction lines with
  | nil => rfl
  | cons line rest ih => exact ih

theorem muted_around (before : Q → List R) (after : (query : Q) → A query → List R) (query : Q) :
    (around before after query : Aloud A R ε (A query)).muted = Prog.query query := by
  simp only [around, muted_bind, muted_tells, muted_pose, bind_ok, bind_query]
  rfl

theorem muted_through (asked : (query : Q) → Aloud A R ε (A query))
    (plain : ∀ query, (asked query).muted = Prog.query query) (program : Prog Q A ε α) :
    (program.through asked).muted = program := by
  induction program with
  | done result => rfl
  | cut => rfl
  | ask query next ih =>
      rw [through, muted_bind, plain, bind_query]
      exact congrArg (Prog.ask query) (funext ih)

end Prog

section Runs

variable (outer : Handler A S)

def spoken (program : Aloud A R ε α) (state : S) : Run (Heard A R) ε α (S × Unit) :=
  exec (outer.beside (sinking fun (_ : Unit) (_ : R) => ())) program (state, ())

theorem spoken_muted (program : Aloud A R ε α) (state : S) :
    (spoken outer program state).outcome = (exec outer program.muted state).outcome ∧
      (spoken outer program state).state.1 = (exec outer program.muted state).state ∧
      lefts (spoken outer program state).trace = (exec outer program.muted state).trace := by
  induction program generalizing state with
  | done result => exact ⟨rfl, rfl, rfl⟩
  | cut => exact ⟨rfl, rfl, rfl⟩
  | ask query next ih =>
      cases query with
      | inl query =>
          obtain ⟨outcome, left, trace⟩ := ih (outer.answer query state).1 (outer.answer query state).2
          exact ⟨outcome, left, congrArg (List.cons (⟨query, (outer.answer query state).1⟩ : Event A)) trace⟩
      | inr message => exact ih () state

theorem exec_sinking (absorb : T → R → T) (program : Aloud A R ε α) (state : S) (held : T) :
    exec (outer.beside (sinking absorb)) program (state, held) =
      ⟨(spoken outer program state).outcome,
        ((spoken outer program state).state.1, (told (spoken outer program state).trace).foldl absorb held),
        (spoken outer program state).trace⟩ := by
  induction program generalizing state held with
  | done result => rfl
  | cut => rfl
  | ask query next ih =>
      cases query with
      | inl query =>
          have rest := ih (outer.answer query state).1 (outer.answer query state).2 held
          exact congrArg (Run.prepend [⟨.inl query, (outer.answer query state).1⟩]) rest
      | inr message =>
          have rest := ih () state (absorb held message)
          exact congrArg (Run.prepend [⟨.inr message, ()⟩]) rest

end Runs

theorem told_append (first second : List (Event (Heard A R))) : told (first ++ second) = told first ++ told second :=
  List.filterMap_append

theorem lefts_append (first second : List (Event (Heard A R))) : lefts (first ++ second) = lefts first ++ lefts second :=
  List.filterMap_append

theorem fold_push (lines held : List R) : lines.foldl (fun held line => held ++ [line]) held = held ++ lines := by
  induction lines generalizing held with
  | nil => exact (List.append_nil held).symm
  | cons line rest ih => rw [List.foldl_cons, ih, List.append_assoc, List.singleton_append]

-- Apart from its notes, what the program tells is what its queries and their answers are rendered as.
def Reports (render : Event A → List R) (note : R → Bool) (program : Aloud A R ε α) : Prop :=
  ∀ trace outcome, Runs program trace outcome → ((told trace).filter fun line => !note line) = (lefts trace).flatMap render

section Reports

variable (render : Event A → List R) (note : R → Bool)

theorem reports_done (result : Except ε α) :
    Reports render note (.done result : Aloud A R ε α) := by
  intro trace outcome run
  obtain ⟨rfl, _⟩ := (runs_done _ _ _).mp run
  rfl

theorem reports_note (message : R) (noted : note message = true) :
    Reports render note (tell message : Aloud A R ε Unit) := by
  intro trace outcome run
  obtain ⟨_, rest, rfl, ended⟩ := (runs_ask _ _ _ _).mp run
  obtain ⟨rfl, _⟩ := (runs_done _ _ _).mp ended
  simp [told, lefts, noted]

theorem reports_bind (program : Aloud A R ε α) (next : α → Aloud A R ε β)
    (first : Reports render note program) (second : ∀ value, Reports render note (next value)) :
    Reports render note (program >>= next) := by
  intro trace outcome run
  rcases runs_bind _ _ _ _ run with ⟨value, early, late, rfl, ran, after⟩ | ⟨failure, ran, _⟩ | ⟨ran, _⟩
  · rw [told_append, lefts_append, List.filter_append, List.flatMap_append, first early _ ran, second value late _ after]
  · exact first trace _ ran
  · exact first trace _ ran

theorem runs_tells (lines : List R) (trace : List (Event (Heard A R))) (outcome : Option (Except ε Unit))
    (run : Runs (lines.forM tell : Aloud A R ε Unit) trace outcome) :
    told trace = lines ∧ lefts trace = [] ∧ outcome = some (.ok ()) := by
  induction lines generalizing trace with
  | nil =>
      obtain ⟨rfl, same⟩ := (runs_done _ _ _).mp run
      exact ⟨rfl, rfl, same⟩
  | cons line rest ih =>
      obtain ⟨_, later, rfl, others⟩ := (runs_ask _ _ _ _).mp run
      obtain ⟨said, quiet, ended⟩ := ih later others
      exact ⟨congrArg (List.cons line) said, quiet, ended⟩

theorem reports_around (before : Q → List R) (after : (query : Q) → A query → List R)
    (renders : ∀ query answer, render ⟨query, answer⟩ = before query ++ after query answer)
    (plain : ∀ event, ∀ line ∈ render event, note line = false) (query : Q) :
    Reports render note (around before after query : Aloud A R ε (A query)) := by
  intro trace outcome run
  rcases runs_bind _ _ _ _ run with ⟨_, first, second, rfl, ran, asked⟩ | ⟨_, ran, _⟩ | ⟨ran, _⟩
  · obtain ⟨said, quiet, _⟩ := runs_tells _ _ _ ran
    obtain ⟨answer, later, rfl, answered⟩ := (runs_ask (Sum.inl query) (fun answer : A query =>
      ((after query answer).forM tell : Aloud A R ε Unit) >>= fun _ => .done (.ok answer)) second outcome).mp asked
    rcases runs_bind _ _ _ _ answered with ⟨_, third, last, rfl, closing, ended⟩ | ⟨_, closing, _⟩ | ⟨closing, _⟩
    · obtain ⟨afterwards, still, _⟩ := runs_tells _ _ _ closing
      obtain ⟨rfl, _⟩ := (runs_done _ _ _).mp ended
      have heard : lefts (first ++ ⟨.inl query, answer⟩ :: (third ++ [])) = [⟨query, answer⟩] := by
        rw [lefts_append, quiet, List.append_nil, List.nil_append]
        exact congrArg (List.cons (⟨query, answer⟩ : Event A)) still
      have line : told (first ++ ⟨.inl query, answer⟩ :: (third ++ [])) = render ⟨query, answer⟩ := by
        rw [told_append, said, List.append_nil]
        exact (congrArg (before query ++ ·) afterwards).trans (renders query answer).symm
      rw [heard, line, List.flatMap_singleton]
      exact List.filter_eq_self.mpr fun line inside => by rw [plain _ line inside]; rfl
    · cases (runs_tells _ _ _ closing).2.2
    · cases (runs_tells _ _ _ closing).2.2
  · cases (runs_tells _ _ _ ran).2.2
  · cases (runs_tells _ _ _ ran).2.2

theorem reports_attempt (program : Aloud A R ε α) (reports : Reports render note program) :
    Reports render note (Prog.attempt program) := by
  intro trace outcome run
  obtain ⟨inner, ran, _⟩ := runs_attempt program trace outcome run
  exact reports trace inner ran

theorem reports_through (asked : (query : Q) → Aloud A R ε (A query))
    (each : ∀ query, Reports render note (asked query)) (program : Prog Q A ε α) :
    Reports render note (program.through asked) := by
  induction program with
  | done result => exact reports_done render note result
  | cut =>
      intro trace outcome run
      obtain ⟨rfl, _⟩ := (runs_cut _ _).mp run
      rfl
  | ask query next ih => exact reports_bind render note _ _ (each query) ih

structure Shadows (loud : Aloud A R ε α) (plain : Prog Q A ε α) : Prop where
  muted : loud.muted = plain
  reports : Reports render note loud

theorem shadows_done (result : Except ε α) :
    Shadows render note (.done result : Aloud A R ε α) (.done result : Prog Q A ε α) :=
  ⟨rfl, reports_done render note result⟩

theorem shadows_bind (loud : Aloud A R ε α) (plain : Prog Q A ε α) (next : α → Aloud A R ε β) (later : α → Prog Q A ε β)
    (first : Shadows render note loud plain) (second : ∀ value, Shadows render note (next value) (later value)) :
    Shadows render note (loud >>= next) (plain >>= later) := by
  refine ⟨?_, reports_bind render note loud next first.reports fun value => (second value).reports⟩
  rw [Prog.muted_bind, first.muted]
  exact congrArg (plain >>= ·) (funext fun value => (second value).muted)

theorem shadows_noted (message : R) (noted : note message = true) (loud : Aloud A R ε α) (plain : Prog Q A ε α)
    (rest : Shadows render note loud plain) : Shadows render note (tell message >>= fun _ => loud) plain :=
  ⟨rest.muted, reports_bind render note _ _ (reports_note render note message noted) fun _ => rest.reports⟩

theorem shadows_attempt (loud : Aloud A R ε α) (plain : Prog Q A ε α) (shadows : Shadows render note loud plain) :
    Shadows render note (Prog.attempt loud) (Prog.attempt plain) := by
  refine ⟨?_, reports_attempt render note loud shadows.reports⟩
  rw [Prog.muted_attempt, shadows.muted]

theorem shadows_fold {ι : Type} (loud : β → ι → Aloud A R ε β) (plain : β → ι → Prog Q A ε β)
    (each : ∀ value item, Shadows render note (loud value item) (plain value item)) (items : List ι) (value : β) :
    Shadows render note (items.foldlM loud value) (items.foldlM plain value) := by
  induction items generalizing value with
  | nil => exact shadows_done render note (.ok value)
  | cons item rest ih =>
      rw [List.foldlM_cons, List.foldlM_cons]
      exact shadows_bind render note _ _ _ _ (each value item) ih

theorem shadows_through (before : Q → List R) (after : (query : Q) → A query → List R)
    (renders : ∀ query answer, render ⟨query, answer⟩ = before query ++ after query answer)
    (plain : ∀ event, ∀ line ∈ render event, note line = false) (program : Prog Q A ε α) :
    Shadows render note (program.through (around before after)) program :=
  ⟨Prog.muted_through _ (Prog.muted_around before after) program,
    reports_through render note _ (reports_around render note before after renders plain) program⟩

end Reports

def callEach : List (Prog Q A ε α) → Prog Q A ε (List (Except ε α))
  | [] => pure []
  | program :: rest => do
      let result ← Prog.attempt program
      let results ← callEach rest
      pure (result :: results)

-- What the program tells is kept until it is over and then handed on.
def Prog.buffered (program : Aloud A R ε α) (pending : List R) : Aloud A R ε (Except ε α × List R) := do
  let (result, lines) ← (program.handled (sinking fun held line => held ++ [line]) pending).left
  lines.forM tell
  pure (result, [])

def bufferEach : List R → List (Aloud A R ε α) → Aloud A R ε (List (Except ε α))
  | _, [] => pure []
  | pending, program :: rest => do
      let (result, pending) ← program.buffered pending
      let results ← bufferEach pending rest
      pure (result :: results)

theorem muted_call_each (programs : List (Aloud A R ε α)) : (callEach programs).muted = callEach (programs.map Prog.muted) := by
  induction programs with
  | nil => rfl
  | cons program rest ih => simp [callEach, ih]

theorem reports_call_each (render : Event A → List R) (note : R → Bool) (programs : List (Aloud A R ε α))
    (each : ∀ program ∈ programs, Reports render note program) : Reports render note (callEach programs) := by
  induction programs with
  | nil => exact reports_done render note _
  | cons program rest ih =>
      apply reports_bind
      · exact reports_attempt render note program (each program List.mem_cons_self)
      · intro result
        apply reports_bind
        · exact ih fun other inside => each other (List.mem_cons_of_mem program inside)
        · exact fun results => reports_done render note _

-- Two runs that differ at most in when they tell things. Nothing is handed on
-- by a run that is cut.
structure Alike (first second : Run (Heard A R) ε α (S × Unit)) : Prop where
  outcome : first.outcome = second.outcome
  state : first.state.1 = second.state.1
  heard : lefts first.trace = lefts second.trace
  said : second.outcome ≠ none → told first.trace = told second.trace

section Buffers

variable (outer : Handler A S)

theorem alike_bind (program other : Aloud A R ε α) (next later : α → Aloud A R ε β) (state : S)
    (first : Alike (spoken outer program state) (spoken outer other state))
    (second : ∀ value, (spoken outer other state).outcome = some (.ok value) → ∀ reached,
      Alike (spoken outer (next value) reached) (spoken outer (later value) reached)) :
    Alike (spoken outer (program >>= next) state) (spoken outer (other >>= later) state) := by
  rw [spoken, spoken, exec_bind, exec_bind]
  change Alike ((spoken outer program state).andThen _) ((spoken outer other state).andThen _)
  rcases one : spoken outer program state with ⟨ended, reached, trace⟩
  rcases two : spoken outer other state with ⟨finished, arrived, events⟩
  rw [one, two] at first
  rw [two] at second
  obtain ⟨outcome, left, heard, said⟩ := first
  dsimp only at outcome left heard said
  subst outcome
  have same : reached = arrived := Prod.ext left rfl
  subst same
  rcases ended with _ | failure | value
  · exact ⟨rfl, rfl, heard, fun returned => absurd rfl returned⟩
  · exact ⟨rfl, rfl, heard, fun _ => said nofun⟩
  · have rest := second value rfl reached.1
    refine ⟨rest.outcome, rest.state, ?_, ?_⟩
    · change lefts (trace ++ _) = lefts (events ++ _)
      rw [lefts_append, lefts_append, heard]
      exact congrArg _ rest.heard
    · intro returned
      change told (trace ++ _) = told (events ++ _)
      rw [told_append, told_append, said nofun]
      exact congrArg _ (rest.said returned)

theorem lefts_on_left (trace : List (Event A)) : lefts (trace.map onLeft : List (Event (Heard A R))) = trace := by
  rw [lefts, List.filterMap_map]
  exact List.filterMap_some

theorem told_on_left (trace : List (Event A)) : told (trace.map onLeft : List (Event (Heard A R))) = [] := by
  rw [told, List.filterMap_map]
  exact List.filterMap_eq_nil_iff.mpr fun _ _ => rfl

theorem lefts_tells (lines : List R) : lefts (lines.map fun line => (⟨.inr line, ()⟩ : Event (Heard A R))) = [] := by
  rw [lefts, List.filterMap_map]
  exact List.filterMap_eq_nil_iff.mpr fun _ _ => rfl

theorem told_tells (lines : List R) : told (lines.map fun line => (⟨.inr line, ()⟩ : Event (Heard A R))) = lines := by
  rw [told, List.filterMap_map]
  exact List.filterMap_some

theorem spoken_tells (lines : List R) (state : S) :
    spoken outer (lines.forM tell : Aloud A R ε Unit) state =
      ⟨some (.ok ()), (state, ()), lines.map fun line => ⟨.inr line, ()⟩⟩ := by
  induction lines with
  | nil => rfl
  | cons line rest ih => exact congrArg (Run.prepend [⟨.inr line, ()⟩]) ih

theorem alike_buffered (program : Aloud A R ε α) (state : S) :
    Alike (spoken outer (program.buffered []) state)
      (spoken outer (Prog.attempt program >>= fun result => .done (.ok (result, []))) state) := by
  have kept := exec_sinking outer (fun held line => held ++ [line]) program state []
  have ran := exec_left outer (sinking fun (_ : Unit) (_ : R) => ()) (program.handled (sinking fun held line => held ++ [line]) [])
    state ()
  rw [exec_handled] at ran
  rw [kept, fold_push, List.nil_append] at ran
  dsimp only at ran
  rw [spoken, spoken, Prog.buffered, exec_bind, exec_bind, ran, exec_attempt]
  change Alike _ ((⟨(spoken outer program state).outcome.map .ok, (spoken outer program state).state,
    (spoken outer program state).trace⟩ : Run (Heard A R) ε (Except ε α) (S × Unit)).andThen _)
  rcases spoken outer program state with ⟨ended, reached, trace⟩
  cases ended with
  | none =>
      refine ⟨rfl, rfl, ?_, fun returned => absurd rfl returned⟩
      exact lefts_on_left (lefts trace)
  | some result =>
      rw [Option.map_some, Option.map_some, Run.and_then_ok, Run.and_then_ok]
      dsimp only
      rw [exec_bind]
      change Alike (Run.prepend _ ((spoken outer ((told trace).forM tell : Aloud A R ε Unit) reached.1).andThen _)) _
      rw [spoken_tells, Run.and_then_ok]
      refine ⟨rfl, rfl, ?_, fun _ => ?_⟩
      · change lefts (List.map onLeft (lefts trace) ++ (_ ++ [])) = lefts (trace ++ [])
        rw [List.append_nil, List.append_nil, lefts_append, lefts_on_left, lefts_tells, List.append_nil]
      · change told (List.map onLeft (lefts trace) ++ (_ ++ [])) = told (trace ++ [])
        rw [List.append_nil, List.append_nil, told_append, told_on_left, told_tells, List.nil_append]

theorem alike_buffer_each (programs : List (Aloud A R ε α)) (state : S) :
    Alike (spoken outer (bufferEach [] programs) state) (spoken outer (callEach programs) state) := by
  induction programs generalizing state with
  | nil => exact ⟨rfl, rfl, rfl, fun _ => rfl⟩
  | cons program rest ih =>
      let ended : Except ε α → Aloud A R ε (Except ε α × List R) := fun result => .done (.ok (result, []))
      let others : Except ε α × List R → Aloud A R ε (List (Except ε α)) := fun ended =>
        callEach rest >>= fun results => .done (.ok (ended.1 :: results))
      have regrouped : callEach (program :: rest) = (Prog.attempt program >>= ended) >>= others := by
        rw [Prog.bind_assoc]
        rfl
      rw [regrouped]
      apply alike_bind outer _ _ _ _ state (alike_buffered outer program state)
      intro value returned reached
      have emptied : value.2 = [] := by
        rw [spoken, exec_bind, exec_attempt] at returned
        rcases ran : exec (outer.beside (sinking fun (_ : Unit) (_ : R) => ())) program (state, ()) with ⟨outcome, left, trace⟩
        rw [ran] at returned
        rcases outcome with _ | result
        · cases returned
        · cases returned
          rfl
      rcases value with ⟨result, pending⟩
      change pending = [] at emptied
      subst emptied
      apply alike_bind outer _ _ _ _ reached (ih reached)
      exact fun results _ left => ⟨rfl, rfl, rfl, fun _ => rfl⟩

end Buffers

end Interaction
