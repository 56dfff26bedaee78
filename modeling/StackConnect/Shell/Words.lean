import Mathlib.Data.List.Infix

set_option autoImplicit false

namespace Shell

-- Where a reader of shell text stands. `inWord` says whether a word is open.
inductive Mode where
  | bare (inWord : Bool)
  | single
  | double
  | escaped (inWord : Bool)
  | doubleEscaped
deriving DecidableEq

inductive Symbol where
  | char (char : Char)
  | stop
deriving DecidableEq

def isBlank (char : Char) : Bool := char == ' ' || char == '\t'

def expands (char : Char) : Bool := char == '$' || char == '\x60'

-- Characters that end a command, redirect it or are expanded when they are not
-- quoted, and those that do so at the start of a word only.
def special (char : Char) : Bool :=
  expands char || ['\n', '|', '&', ';', '<', '>', '(', ')', '*', '?', '['].contains char

def leading (char : Char) : Bool := char == '#' || char == '~'

def bareStep (inWord : Bool) (char : Char) : Option (Mode × List Symbol) :=
  if isBlank char then some (.bare false, if inWord then [.stop] else [])
  else if char = '\'' then some (.single, [])
  else if char = '"' then some (.double, [])
  else if char = '\\' then some (.escaped inWord, [])
  else if special char || (!inWord && leading char) then none
  else some (.bare true, [.char char])

-- One character of a simple command after POSIX quoting: the symbols it adds to
-- the words, or none where the shell would do more than split and unquote.
def step : Mode → Char → Option (Mode × List Symbol)
  | .bare inWord, char => bareStep inWord char
  | .single, char => if char = '\'' then some (.bare true, []) else some (.single, [.char char])
  | .double, char =>
      if char = '"' then some (.bare true, [])
      else if char = '\\' then some (.doubleEscaped, [])
      else if expands char then none
      else some (.double, [.char char])
  | .escaped inWord, char => if char = '\n' then some (.bare inWord, []) else some (.bare true, [.char char])
  | .doubleEscaped, char =>
      if char = '\n' then some (.double, [])
      else if expands char || char == '"' || char == '\\' then some (.double, [.char char])
      else some (.double, [.char '\\', .char char])

def finish : Mode → Option (List Symbol)
  | .bare inWord => some (if inWord then [.stop] else [])
  | _ => none

def scan : Mode → List Char → Option (Mode × List Symbol)
  | mode, [] => some (mode, [])
  | mode, char :: rest =>
      (step mode char).bind fun next => (scan next.1 rest).map fun last => (last.1, next.2 ++ last.2)

def symbols (mode : Mode) (text : List Char) : Option (List Symbol) :=
  (scan mode text).bind fun last => (finish last.1).map fun closing => last.2 ++ closing

def group : List Char → List Symbol → List (List Char)
  | _, [] => []
  | word, .char char :: rest => group (char :: word) rest
  | word, .stop :: rest => word.reverse :: group [] rest

def shellWords (text : String) : Option (List String) :=
  (symbols (.bare false) text.toList).map fun read => (group [] read).map String.ofList

def spelled (word : List Char) : List Symbol := word.map .char

def written (words : List (List Char)) : List Symbol := words.flatMap fun word => spelled word ++ [.stop]

example : shellWords "a 'b c'\\''d' \"e f\"" = some ["a", "b c'd", "e f"] := by decide

example : shellWords "echo 'it's'" = none := by decide

theorem scan_cons (mode last : Mode) (char : Char) (rest : List Char) (read : List Symbol) :
    scan mode (char :: rest) = some (last, read) ↔
      ∃ next added later, step mode char = some (next, added) ∧ scan next rest = some (last, later) ∧
        read = added ++ later := by
  simp only [scan, Option.bind_eq_some_iff, Option.map_eq_some_iff, Prod.mk.injEq]
  constructor
  · rintro ⟨next, steps, later, scans, rfl, rfl⟩
    exact ⟨next.1, next.2, later.2, steps, scans, rfl⟩
  · rintro ⟨next, added, later, steps, scans, rfl⟩
    exact ⟨(next, added), steps, (last, later), scans, rfl, rfl⟩

theorem scan_append (mode : Mode) (first rest : List Char) :
    scan mode (first ++ rest) =
      (scan mode first).bind fun middle => (scan middle.1 rest).map fun last => (last.1, middle.2 ++ last.2) := by
  induction first generalizing mode with
  | nil => simp [scan]
  | cons char first ih =>
      rw [List.cons_append, scan, scan]
      cases step mode char with
      | none => rfl
      | some next =>
          rw [Option.bind_some, Option.bind_some, ih]
          cases scan next.1 first with
          | none => rfl
          | some middle =>
              rw [Option.bind_some, Option.map_some, Option.bind_some]
              cases scan middle.1 rest with
              | none => rfl
              | some last => simp

theorem scan_trans (mode middle last : Mode) (first rest : List Char) (before after : List Symbol)
    (opened : scan mode first = some (middle, before)) (closed : scan middle rest = some (last, after)) :
    scan mode (first ++ rest) = some (last, before ++ after) := by
  rw [scan_append, opened, Option.bind_some, closed]
  rfl

theorem symbols_append (mode : Mode) (first rest : List Char) (read : List Symbol) :
    symbols mode (first ++ rest) = some read ↔
      ∃ middle before after, scan mode first = some (middle, before) ∧ symbols middle rest = some after ∧
        read = before ++ after := by
  simp only [symbols, scan_append, Option.bind_eq_some_iff, Option.map_eq_some_iff]
  constructor
  · rintro ⟨last, ⟨middle, opened, later, closed, rfl⟩, closing, ended, rfl⟩
    exact ⟨middle.1, middle.2, later.2 ++ closing, opened, ⟨later, closed, closing, ended, rfl⟩,
      List.append_assoc ..⟩
  · rintro ⟨middle, before, _, opened, ⟨later, closed, closing, ended, rfl⟩, rfl⟩
    exact ⟨(later.1, before ++ later.2), ⟨(middle, before), opened, later, closed, rfl⟩, closing, ended,
      List.append_assoc ..⟩

@[simp] theorem spelled_nil : spelled [] = [] := rfl

@[simp] theorem spelled_cons (char : Char) (word : List Char) : spelled (char :: word) = .char char :: spelled word := rfl

theorem spelled_append (first rest : List Char) : spelled (first ++ rest) = spelled first ++ spelled rest := List.map_append

theorem spelled_injective (first second : List Char) (same : spelled first = spelled second) : first = second :=
  List.map_injective_iff.mpr (fun _ _ same => Symbol.char.inj same) same

theorem group_spelled (begun word : List Char) (rest : List Symbol) :
    group begun (spelled word ++ .stop :: rest) = (begun.reverse ++ word) :: group [] rest := by
  induction word generalizing begun with
  | nil =>
      rw [List.append_nil]
      rfl
  | cons char word ih =>
      change group (char :: begun) (spelled word ++ .stop :: rest) = _
      rw [ih, List.reverse_cons, List.append_assoc]
      rfl

theorem written_cons (word : List Char) (words : List (List Char)) :
    written (word :: words) = spelled word ++ .stop :: written words := by
  rw [written, List.flatMap_cons, List.append_assoc]
  rfl

theorem group_written (words : List (List Char)) : group [] (written words) = words := by
  induction words with
  | nil => rfl
  | cons word words ih =>
      rw [written_cons, group_spelled, ih]
      rfl

def between : Mode → Bool
  | .bare inWord => !inWord
  | .escaped inWord => !inWord
  | _ => false

theorem written_group (begun : List Char) (read : List Symbol) (ends : read.getLast? = some .stop) :
    written (group begun read) = spelled begun.reverse ++ read := by
  induction read generalizing begun with
  | nil => cases ends
  | cons first read ih =>
      have whole : ∀ begun : List Char, written (group begun read) = spelled begun.reverse ++ read ∨ (read = []) := by
        intro begun
        cases read with
        | nil => exact .inr rfl
        | cons second read =>
            rw [List.getLast?_cons_cons] at ends
            exact .inl (ih begun ends)
      cases first with
      | char char =>
          rw [group]
          cases whole (char :: begun) with
          | inl later =>
              rw [later, List.reverse_cons, spelled_append, List.append_assoc]
              rfl
          | inr empty =>
              rw [empty] at ends
              cases ends
      | stop =>
          rw [group, written_cons]
          cases whole [] with
          | inl later =>
              rw [later]
              rfl
          | inr empty =>
              rw [empty]
              rfl

theorem symbols_after (mode next : Mode) (first rest : List Char) (added read : List Symbol)
    (scans : scan mode first = some (next, added)) :
    symbols mode (first ++ rest) = some read ↔ ∃ later, symbols next rest = some later ∧ read = added ++ later := by
  rw [symbols_append, scans]
  constructor
  · rintro ⟨middle, before, after, same, later, rfl⟩
    obtain ⟨rfl, rfl⟩ := Prod.mk.inj (Option.some.inj same)
    exact ⟨after, later, rfl⟩
  · rintro ⟨later, found, rfl⟩
    exact ⟨_, _, later, rfl, found, rfl⟩

theorem symbols_nil (mode : Mode) : symbols mode [] = finish mode := by
  cases ended : finish mode <;> simp [symbols, scan, ended]

theorem symbols_cons (mode : Mode) (char : Char) (rest : List Char) (read : List Symbol) :
    symbols mode (char :: rest) = some read ↔
      ∃ next added later, step mode char = some (next, added) ∧ symbols next rest = some later ∧
        read = added ++ later := by
  rw [← List.singleton_append, symbols_append]
  have one : scan mode [char] = step mode char := by
    rw [scan]
    cases step mode char <;> simp [scan]
  rw [one]

def pending : Mode → Nat
  | .escaped _ => 1
  | .doubleEscaped => 1
  | _ => 0

theorem step_cases (mode next : Mode) (char : Char) (added : List Symbol) (steps : step mode char = some (next, added)) :
    (added = [] ∧ (between next = true → between mode = true) ∧
        (pending next = 0 ∨ (pending next = 1 ∧ char = '\\'))) ∨
      (added = [.stop] ∧ pending next = 0) ∨
      (added = [.char char] ∧ between next = false ∧ pending next = 0) ∨
      (added = [.char '\\', .char char] ∧ between next = false ∧ pending next = 0 ∧ pending mode = 1) := by
  cases mode with
  | bare inWord =>
      rw [step, bareStep] at steps
      split_ifs at steps with blank opened apostrophe quote backslash other
      all_goals
        obtain ⟨rfl, rfl⟩ := Prod.mk.inj (Option.some.inj steps)
        simp_all [between, pending]
  | single =>
      rw [step] at steps
      split_ifs at steps with apostrophe
      all_goals
        obtain ⟨rfl, rfl⟩ := Prod.mk.inj (Option.some.inj steps)
        simp [between, pending]
  | double =>
      rw [step] at steps
      split_ifs at steps with quote backslash expanded
      all_goals
        obtain ⟨rfl, rfl⟩ := Prod.mk.inj (Option.some.inj steps)
        simp_all [between, pending]
  | escaped inWord =>
      rw [step] at steps
      split_ifs at steps with feed
      all_goals
        obtain ⟨rfl, rfl⟩ := Prod.mk.inj (Option.some.inj steps)
        simp [between, pending]
  | doubleEscaped =>
      rw [step] at steps
      split_ifs at steps with feed removed
      all_goals
        obtain ⟨rfl, rfl⟩ := Prod.mk.inj (Option.some.inj steps)
        simp [between, pending]

theorem step_between (mode next : Mode) (char : Char) (added : List Symbol) (steps : step mode char = some (next, added))
    (apart : between next = true) : (added = [] ∧ between mode = true) ∨ added = [.stop] := by
  rcases step_cases mode next char added steps with
    ⟨silent, before, _⟩ | ⟨stops, _⟩ | ⟨_, inside, _⟩ | ⟨_, inside, _⟩
  · exact .inl ⟨silent, before apart⟩
  · exact .inr stops
  · exact absurd apart (by simp [inside])
  · exact absurd apart (by simp [inside])

theorem symbols_closed (text : List Char) (mode : Mode) (read : List Symbol) (whole : symbols mode text = some read) :
    (read = [] ∧ between mode = true) ∨ read.getLast? = some .stop := by
  induction text generalizing mode read with
  | nil =>
      rw [symbols_nil] at whole
      cases mode with
      | bare inWord =>
          cases inWord with
          | false => exact .inl ⟨(Option.some.inj whole).symm, rfl⟩
          | true =>
              rw [← Option.some.inj whole]
              exact .inr rfl
      | single => cases whole
      | double => cases whole
      | escaped inWord => cases whole
      | doubleEscaped => cases whole
  | cons char text ih =>
      obtain ⟨next, added, later, steps, rest, rfl⟩ := (symbols_cons mode char text read).mp whole
      cases ih next later rest with
      | inl none =>
          obtain ⟨rfl, apart⟩ := none
          rw [List.append_nil]
          cases step_between mode next char added steps apart with
          | inl silent => exact .inl silent
          | inr stops =>
              rw [stops]
              exact .inr rfl
      | inr ends =>
          right
          rw [List.getLast?_append, ends]
          rfl

theorem shell_words_iff (text : String) (words : List String) :
    shellWords text = some words ↔ symbols (.bare false) text.toList = some (written (words.map String.toList)) := by
  rw [shellWords, Option.map_eq_some_iff]
  constructor
  · rintro ⟨read, whole, rfl⟩
    rw [List.map_map, whole]
    have same : (group [] read).map (String.toList ∘ String.ofList) = group [] read := by simp [Function.comp_def]
    rw [same]
    cases symbols_closed text.toList (.bare false) read whole with
    | inl none =>
        rw [none.1]
        rfl
    | inr ends =>
        rw [written_group [] read ends]
        rfl
  · intro whole
    refine ⟨_, whole, ?_⟩
    rw [group_written, List.map_map]
    simp [Function.comp_def]

end Shell
