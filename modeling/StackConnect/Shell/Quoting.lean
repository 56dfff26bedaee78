import StackConnect.Shell.Words

set_option autoImplicit false

namespace Shell

-- The characters that are counted below, the same in a text and in what is read of it.
variable (inked : Char → Bool)

def counts : Symbol → Bool
  | .char char => inked char
  | .stop => false

structure Inked : Prop where
  apostrophe : inked '\'' = true
  backslash : inked '\\' = true
  dash : inked '-' = true

theorem count_spelled (word : List Char) : (spelled word).countP (counts inked) = word.countP inked := List.countP_map

theorem step_count (solid : Inked inked) (mode next : Mode) (char : Char) (added : List Symbol)
    (steps : step mode char = some (next, added)) :
    added.countP (counts inked) + pending next ≤ pending mode + [char].countP inked := by
  have one : ∀ char, [Symbol.char char].countP (counts inked) = [char].countP inked :=
    fun char => count_spelled inked [char]
  have backslash : ['\\'].countP inked = 1 := by rw [List.countP_singleton, if_pos solid.backslash]
  rcases step_cases mode next char added steps with
    ⟨rfl, _, settled | ⟨owes, rfl⟩⟩ | ⟨rfl, settled⟩ | ⟨rfl, _, settled⟩ | ⟨rfl, _, settled, owed⟩
  · rw [settled]
    exact Nat.zero_le _
  · rw [owes, backslash]
    exact Nat.le_add_left 1 _
  · rw [settled]
    exact Nat.zero_le _
  · rw [settled, one]
    exact Nat.le_add_left _ _
  · rw [settled, owed, List.countP_cons, if_pos (show counts inked (.char '\\') = true from solid.backslash), one]
    omega

theorem scan_count (solid : Inked inked) (text : List Char) (mode last : Mode) (read : List Symbol)
    (scans : scan mode text = some (last, read)) :
    read.countP (counts inked) + pending last ≤ pending mode + text.countP inked := by
  induction text generalizing mode read with
  | nil =>
      obtain ⟨rfl, rfl⟩ := Prod.mk.inj (Option.some.inj scans)
      simp
  | cons char text ih =>
      obtain ⟨next, added, later, steps, rest, rfl⟩ := (scan_cons mode last char text read).mp scans
      have one := step_count inked solid mode next char added steps
      have more := ih next later rest
      rw [List.countP_append, ← List.singleton_append, List.countP_append]
      omega

structure Piece where
  flag : Char
  shown : List Char
  word : List Char

def plain (char : Char) : Bool :=
  !isBlank char && char != '\'' && char != '"' && char != '\\' && !special char

structure Piece.Fits (piece : Piece) : Prop where
  flag : plain piece.flag = true
  shown : piece.shown.countP inked ≤ piece.word.countP inked

-- From the end of one quoted word to the start of the next, on a line of its own.
def nextLine : List Char := ['\'', ' ', '\\', '\n', ' ', ' ', '-']

def gap (flag : Char) : List Char := nextLine ++ ([flag] ++ [' ', '\''])

def gapRead (flag : Char) : List Symbol := [.stop, .char '-', .char flag, .stop]

def closingText : List Piece → List Char
  | [] => ['\'']
  | piece :: rest => gap piece.flag ++ (piece.shown ++ closingText rest)

def closingRead : List Piece → List Symbol
  | [] => [.stop]
  | piece :: rest => gapRead piece.flag ++ (spelled piece.word ++ closingRead rest)

def Piece.quoted (piece : Piece) : List Char :=
  [' ', '\\', '\n', ' ', ' ', '-', piece.flag, ' ', '\''] ++ (piece.shown ++ ['\''])

def Piece.words (piece : Piece) : List (List Char) := [['-', piece.flag], piece.word]

theorem closing_text (pieces : List Piece) : closingText pieces = '\'' :: pieces.flatMap Piece.quoted := by
  induction pieces with
  | nil => rfl
  | cons piece rest ih =>
      rw [closingText, ih, List.flatMap_cons, Piece.quoted]
      simp [gap, nextLine]

theorem closing_read (pieces : List Piece) :
    closingRead pieces = .stop :: written (pieces.flatMap Piece.words) := by
  induction pieces with
  | nil => rfl
  | cons piece rest ih =>
      rw [closingRead, ih, List.flatMap_cons, Piece.words, List.cons_append, List.cons_append, List.nil_append, written_cons,
        written_cons]
      rfl

theorem scan_plain (char : Char) (charPlain : plain char = true) :
    scan (.bare true) [char] = some (.bare true, [.char char]) ∧ scan .single [char] = some (.single, [.char char]) ∧
      scan .double [char] = some (.double, [.char char]) := by
  simp only [plain, Bool.and_eq_true, Bool.not_eq_true', bne_iff_ne, ne_eq] at charPlain
  obtain ⟨⟨⟨⟨blank, apostrophe⟩, quote⟩, backslash⟩, ordinary⟩ := charPlain
  have kept : expands char = false := by
    rw [special, Bool.or_eq_false_iff] at ordinary
    exact ordinary.1
  refine ⟨?_, ?_, ?_⟩
  · simp [scan, step, bareStep, blank, apostrophe, quote, backslash, ordinary]
  · simp [scan, step, apostrophe]
  · simp [scan, step, quote, backslash, kept]

-- Between two words a reader that is not lost ends the one and starts the other;
-- any other takes the gap for a part of its word.
theorem gap_scan (flag : Char) (flagPlain : plain flag = true) (mode : Mode) :
    ∃ next read, scan mode (gap flag) = some (next, read) ∧ pending next = 0 ∧
      ((∃ opens, read = opens ++ gapRead flag ∧ opens.countP (counts inked) ≤ pending mode) ∨ .stop ∉ read) := by
  obtain ⟨bareFlag, singleFlag, doubleFlag⟩ := scan_plain flag flagPlain
  cases mode with
  | bare inWord =>
      have opened : scan (.bare inWord) nextLine = some (.single, spelled [' ', '\\', '\n', ' ', ' ', '-']) := by
        cases inWord <;> rfl
      refine ⟨_, _, scan_trans _ _ _ _ _ _ _ opened (scan_trans _ _ _ _ _ _ _ singleFlag rfl), rfl, .inr ?_⟩
      simp [spelled]
  | single =>
      have opened : scan .single nextLine = some (.bare true, [.stop, .char '-']) := rfl
      refine ⟨_, _, scan_trans _ _ _ _ _ _ _ opened (scan_trans _ _ _ _ _ _ _ bareFlag rfl), rfl, .inl ⟨[], rfl, ?_⟩⟩
      exact Nat.le_refl _
  | double =>
      have opened : scan .double nextLine = some (.double, spelled ['\'', ' ', ' ', ' ', '-']) := rfl
      refine ⟨_, _, scan_trans _ _ _ _ _ _ _ opened (scan_trans _ _ _ _ _ _ _ doubleFlag rfl), rfl, .inr ?_⟩
      simp [spelled]
  | escaped inWord =>
      have opened : scan (.escaped inWord) nextLine = some (.bare true, [.char '\'', .stop, .char '-']) := rfl
      refine ⟨_, _, scan_trans _ _ _ _ _ _ _ opened (scan_trans _ _ _ _ _ _ _ bareFlag rfl), rfl, ?_⟩
      refine .inl ⟨[.char '\''], rfl, ?_⟩
      rw [List.countP_singleton, pending]
      split <;> omega
  | doubleEscaped =>
      have opened : scan .doubleEscaped nextLine = some (.double, spelled ['\\', '\'', ' ', ' ', ' ', '-']) := rfl
      refine ⟨_, _, scan_trans _ _ _ _ _ _ _ opened (scan_trans _ _ _ _ _ _ _ doubleFlag rfl), rfl, .inr ?_⟩
      simp [spelled]

theorem read_within (read later missing rest : List Symbol) (same : missing ++ rest = read ++ later)
    (light : read.countP (counts inked) < missing.countP (counts inked)) :
    ∃ left, missing = read ++ left ∧ later = left ++ rest := by
  cases List.append_eq_append_iff.mp same with
  | inl longer =>
      obtain ⟨beyond, parts, _⟩ := longer
      rw [parts, List.countP_append] at light
      omega
  | inr shorter => exact shorter

theorem read_within_word (read later missing rest : List Symbol) (same : missing ++ .stop :: rest = read ++ later)
    (continues : .stop ∉ read) : ∃ left, missing = read ++ left ∧ later = left ++ .stop :: rest := by
  cases List.append_eq_append_iff.mp same with
  | inl longer =>
      obtain ⟨beyond, parts, more⟩ := longer
      cases beyond with
      | nil => exact ⟨[], by rw [parts, List.append_nil, List.append_nil], more.symm⟩
      | cons symbol beyond =>
          rw [(List.cons.inj more).1, parts] at continues
          exact absurd (List.mem_append_right _ List.mem_cons_self) continues
  | inr shorter => exact shorter

theorem owed_after_gap (solid : Inked inked) (flag : Char) (flagPlain : plain flag = true) (mode middle : Mode)
    (missing rest before after : List Symbol) (behind : pending mode < missing.countP (counts inked))
    (scans : scan mode (gap flag) = some (middle, before)) (same : missing ++ (gapRead flag ++ rest) = before ++ after) :
    pending middle = 0 ∧ ∃ owed, after = owed ++ rest ∧ 0 < owed.countP (counts inked) := by
  obtain ⟨_, _, found, settled, kind⟩ := gap_scan inked flag flagPlain mode
  rw [scans] at found
  obtain ⟨rfl, rfl⟩ := Prod.mk.inj (Option.some.inj found)
  refine ⟨settled, ?_⟩
  rcases kind with ⟨opens, rfl, small⟩ | continues
  · have light : (opens ++ gapRead flag).countP (counts inked) < (missing ++ gapRead flag).countP (counts inked) := by
      rw [List.countP_append, List.countP_append]
      omega
    rw [← List.append_assoc] at same
    obtain ⟨owed, parts, later⟩ := read_within inked _ _ _ _ same light
    have counted := congrArg (List.countP (counts inked)) parts
    simp only [List.countP_append] at counted
    exact ⟨owed, later, by omega⟩
  · obtain ⟨owed, _, later⟩ := read_within_word _ _ _ _ same continues
    refine ⟨owed ++ gapRead flag, by rw [later, List.append_assoc]; rfl, ?_⟩
    have dash : (gapRead flag).countP (counts inked) ≠ 0 := by
      rw [Ne, List.countP_eq_zero]
      intro none
      exact none (.char '-') (by simp [gapRead]) solid.dash
    rw [List.countP_append]
    omega

theorem closing_lost (mode : Mode) (missing : List Symbol)
    (behind : pending mode < missing.countP (counts inked)) : symbols mode ['\''] ≠ some (missing ++ [.stop]) := by
  intro whole
  have owed : ∀ read, symbols mode ['\''] = some (read ++ [.stop]) → missing = read := by
    intro read found
    rw [found] at whole
    exact (List.append_inj_left' (Option.some.inj whole) rfl).symm
  cases mode with
  | bare inWord => cases inWord <;> cases whole
  | single =>
      rw [owed [] rfl] at behind
      cases behind
  | double => cases whole
  | escaped inWord =>
      rw [owed [.char '\''] rfl, List.countP_singleton, pending] at behind
      split at behind <;> omega
  | doubleEscaped => cases whole

-- A reader that has read less than it should, with pieces still to come that
-- show no more than they mean, never gets even.
theorem never_catches_up (solid : Inked inked) (pieces : List Piece)
    (fits : ∀ piece ∈ pieces, piece.Fits inked) (mode : Mode) (missing : List Symbol)
    (behind : pending mode < missing.countP (counts inked)) :
    symbols mode (closingText pieces) ≠ some (missing ++ closingRead pieces) := by
  intro whole
  induction pieces generalizing mode missing with
  | nil => exact closing_lost inked mode missing behind whole
  | cons piece rest ih =>
      obtain ⟨flagPlain, shows⟩ := fits piece List.mem_cons_self
      rw [closingText, closingRead] at whole
      obtain ⟨middle, before, after, scans, later, same⟩ := (symbols_append ..).mp whole
      obtain ⟨settled, owed, rfl, positive⟩ :=
        owed_after_gap inked solid piece.flag flagPlain mode middle missing _ before after behind scans same
      obtain ⟨last, read, left, shown, ended, parts⟩ := (symbols_append ..).mp later
      have counted := scan_count inked solid piece.shown middle last read shown
      have light : read.countP (counts inked) < (owed ++ spelled piece.word).countP (counts inked) := by
        rw [List.countP_append, count_spelled]
        omega
      rw [← List.append_assoc] at parts
      obtain ⟨missing, split, rfl⟩ := read_within inked _ _ _ _ parts light
      have balance := congrArg (List.countP (counts inked)) split
      rw [List.countP_append, List.countP_append, count_spelled] at balance
      exact ih (fun other member => fits other (List.mem_cons_of_mem _ member)) last missing (by omega) ended

theorem scan_single (text : List Char) (free : '\'' ∉ text) : scan .single text = some (.single, spelled text) := by
  induction text with
  | nil => rfl
  | cons char text ih =>
      rw [List.mem_cons, not_or] at free
      have one : step .single char = some (.single, [.char char]) := by rw [step, if_neg (Ne.symm free.1)]
      exact (scan_cons ..).mpr ⟨_, _, _, one, ih free.2, rfl⟩

theorem scan_apostrophe (solid : Inked inked) (text : List Char) (inside : '\'' ∈ text) (last : Mode) (read : List Symbol)
    (scans : scan .single text = some (last, read)) :
    read.countP (counts inked) + pending last + 1 ≤ text.countP inked := by
  induction text generalizing read with
  | nil => cases inside
  | cons char text ih =>
      obtain ⟨next, added, later, steps, rest, rfl⟩ := (scan_cons ..).mp scans
      rw [step] at steps
      by_cases apostrophe : char = '\''
      · rw [if_pos apostrophe] at steps
        obtain ⟨rfl, rfl⟩ := Prod.mk.inj (Option.some.inj steps)
        have counted := scan_count inked solid text _ last later rest
        rw [List.nil_append, List.countP_cons, apostrophe, if_pos solid.apostrophe]
        have settled : pending (.bare true) = 0 := rfl
        omega
      · rw [if_neg apostrophe] at steps
        obtain ⟨rfl, rfl⟩ := Prod.mk.inj (Option.some.inj steps)
        have counted := ih ((List.mem_cons.mp inside).resolve_left (Ne.symm apostrophe)) later rest
        rw [List.singleton_append, List.countP_cons, List.countP_cons, counts]
        omega

theorem spelled_stop_inj (first second : List Char) (rest later : List Symbol) :
    spelled first ++ .stop :: rest = spelled second ++ .stop :: later ↔ first = second ∧ rest = later := by
  induction first generalizing second with
  | nil => cases second <;> simp [spelled]
  | cons char first ih =>
      cases second with
      | nil => simp [spelled]
      | cons other second =>
          have rest := ih second
          simp only [spelled] at rest ⊢
          simp [rest, and_assoc]

theorem symbols_gap (flag : Char) (flagPlain : plain flag = true) (text : List Char) (read : List Symbol) :
    symbols .single (gap flag ++ text) = some read ↔
      ∃ later, symbols .single text = some later ∧ read = gapRead flag ++ later := by
  obtain ⟨bareFlag, _, _⟩ := scan_plain flag flagPlain
  have opened : scan .single nextLine = some (.bare true, [.stop, .char '-']) := rfl
  have whole : scan .single (gap flag) = some (.single, gapRead flag) :=
    scan_trans _ _ _ _ _ _ _ opened (scan_trans _ _ _ _ _ _ _ bareFlag rfl)
  exact symbols_after _ _ _ _ _ _ whole

theorem apostrophe_lost (solid : Inked inked) (pieces : List Piece)
    (fits : ∀ piece ∈ pieces, piece.Fits inked)
    (shown word : List Char) (fit : shown.countP inked ≤ word.countP inked) (inside : '\'' ∈ shown) :
    symbols .single (shown ++ closingText pieces) ≠ some (spelled word ++ closingRead pieces) := by
  intro whole
  obtain ⟨last, read, later, scans, ended, same⟩ := (symbols_append ..).mp whole
  have lost := scan_apostrophe inked solid shown inside last read scans
  have light : read.countP (counts inked) < (spelled word).countP (counts inked) := by
    rw [count_spelled]
    omega
  obtain ⟨missing, parts, rfl⟩ := read_within inked _ _ _ _ same light
  have balance := congrArg (List.countP (counts inked)) parts
  rw [List.countP_append, count_spelled] at balance
  exact never_catches_up inked solid pieces fits last missing (by omega) ended

theorem quoted_exact_iff (solid : Inked inked) (pieces : List Piece)
    (fits : ∀ piece ∈ pieces, piece.Fits inked)
    (shown word : List Char) (fit : shown.countP inked ≤ word.countP inked) :
    symbols .single (shown ++ closingText pieces) = some (spelled word ++ closingRead pieces) ↔
      (shown = word ∧ '\'' ∉ shown) ∧ ∀ piece ∈ pieces, piece.shown = piece.word ∧ '\'' ∉ piece.shown := by
  induction pieces generalizing shown word with
  | nil =>
      by_cases inside : '\'' ∈ shown
      · have lost := apostrophe_lost inked solid [] fits shown word fit inside
        simp [lost, inside]
      · have ended : symbols .single (closingText []) = some (closingRead []) := rfl
        rw [symbols_after _ _ _ _ _ _ (scan_single shown inside), ended]
        constructor
        · rintro ⟨_, found, same⟩
          rw [← Option.some.inj found] at same
          have equal := (spelled_injective _ _ (List.append_cancel_right same)).symm
          exact ⟨⟨equal, inside⟩, fun _ none => absurd none List.not_mem_nil⟩
        · rintro ⟨⟨rfl, _⟩, _⟩
          exact ⟨_, rfl, rfl⟩
  | cons piece rest ih =>
      by_cases inside : '\'' ∈ shown
      · have lost := apostrophe_lost inked solid (piece :: rest) fits shown word fit inside
        simp [lost, inside]
      · obtain ⟨flagPlain, shows⟩ := fits piece List.mem_cons_self
        have later := ih (fun other member => fits other (List.mem_cons_of_mem _ member)) piece.shown piece.word shows
        rw [symbols_after _ _ _ _ _ _ (scan_single shown inside), List.forall_mem_cons, ← later, closingText, closingRead]
        constructor
        · rintro ⟨_, found, same⟩
          obtain ⟨more, ended, rfl⟩ := (symbols_gap piece.flag flagPlain _ _).mp found
          obtain ⟨rfl, tail⟩ := (spelled_stop_inj word shown _ _).mp same
          obtain ⟨_, behindDash⟩ := List.cons.inj tail
          obtain ⟨_, behindFlag⟩ := List.cons.inj behindDash
          obtain ⟨_, rfl⟩ := List.cons.inj behindFlag
          exact ⟨⟨rfl, inside⟩, ended⟩
        · rintro ⟨⟨rfl, _⟩, ended⟩
          exact ⟨_, (symbols_gap piece.flag flagPlain _ _).mpr ⟨_, ended, rfl⟩, rfl⟩

-- What an unquoted word may not hold here in any case.
def unquotes (char : Char) : Bool := isBlank char || char == '"' || char == '\\'

theorem quote_lost (word : List Char) (token : ∀ char ∈ word, unquotes char = false) (mode : Mode)
    (unquoted : mode = .single ∨ mode = .bare true) (rest : List Char) (later : List Symbol) :
    symbols mode (word ++ ' ' :: rest) ≠ some (.char '\'' :: later) := by
  intro whole
  induction word generalizing mode with
  | nil =>
      obtain ⟨next, added, more, steps, _, same⟩ := (symbols_cons ..).mp whole
      rcases unquoted with rfl | rfl
      · obtain ⟨rfl, rfl⟩ := Prod.mk.inj (Option.some.inj steps)
        cases (Symbol.char.inj (List.cons.inj same).1)
      · obtain ⟨rfl, rfl⟩ := Prod.mk.inj (Option.some.inj steps)
        cases (List.cons.inj same).1
  | cons char word ih =>
      obtain ⟨next, added, more, steps, ended, same⟩ := (symbols_cons ..).mp whole
      have other := token char List.mem_cons_self
      have tokens : ∀ char ∈ word, unquotes char = false :=
        fun other member => token other (List.mem_cons_of_mem _ member)
      simp only [unquotes, Bool.or_eq_false_iff, beq_eq_false_iff_ne, ne_eq] at other
      obtain ⟨⟨blank, quote⟩, backslash⟩ := other
      rcases unquoted with rfl | rfl
      · rw [step] at steps
        split_ifs at steps with apostrophe
        · obtain ⟨rfl, rfl⟩ := Prod.mk.inj (Option.some.inj steps)
          rw [List.nil_append] at same
          rw [← same] at ended
          exact ih tokens _ (.inr rfl) ended
        · obtain ⟨rfl, rfl⟩ := Prod.mk.inj (Option.some.inj steps)
          exact apostrophe (Symbol.char.inj (List.cons.inj same).1).symm
      · rw [step, bareStep, if_neg (by simp [blank])] at steps
        split_ifs at steps with apostrophe ends
        · obtain ⟨rfl, rfl⟩ := Prod.mk.inj (Option.some.inj steps)
          rw [List.nil_append] at same
          rw [← same] at ended
          exact ih tokens _ (.inl rfl) ended
        · obtain ⟨rfl, rfl⟩ := Prod.mk.inj (Option.some.inj steps)
          exact apostrophe (Symbol.char.inj (List.cons.inj same).1).symm

theorem plain_iff (char : Char) (token : unquotes char = false) :
    plain char = true ↔ char ≠ '\'' ∧ special char = false := by
  simp only [unquotes, Bool.or_eq_false_iff, beq_eq_false_iff_ne, ne_eq] at token
  obtain ⟨⟨blank, quote⟩, backslash⟩ := token
  simp [plain, blank, quote, backslash]

theorem bare_char_iff (inWord : Bool) (char : Char) (word : List Char)
    (token : ∀ other ∈ char :: word, unquotes other = false) (rest : List Char) (read : List Symbol) :
    symbols (.bare inWord) (char :: (word ++ ' ' :: rest)) = some (.char char :: read) ↔
      (plain char = true ∧ (inWord = true ∨ leading char = false)) ∧
        symbols (.bare true) (word ++ ' ' :: rest) = some read := by
  have other := token char List.mem_cons_self
  rw [plain_iff char other, symbols_cons]
  simp only [unquotes, Bool.or_eq_false_iff, beq_eq_false_iff_ne, ne_eq] at other
  obtain ⟨⟨blank, quote⟩, backslash⟩ := other
  have steps : step (.bare inWord) char =
      if char = '\'' then some (.single, [])
      else if special char || (!inWord && leading char) then none else some (.bare true, [.char char]) := by
    rw [step, bareStep, if_neg (by simp [blank]), if_neg quote, if_neg backslash]
  by_cases apostrophe : char = '\''
  · rw [steps, if_pos apostrophe]
    constructor
    · rintro ⟨next, added, later, opened, ended, same⟩
      obtain ⟨rfl, rfl⟩ := Prod.mk.inj (Option.some.inj opened)
      rw [List.nil_append] at same
      rw [← same, apostrophe] at ended
      have tokens : ∀ other ∈ word, unquotes other = false :=
        fun other member => token other (List.mem_cons_of_mem _ member)
      exact absurd ended (quote_lost word tokens _ (.inl rfl) rest read)
    · rintro ⟨⟨⟨other, _⟩, _⟩, _⟩
      exact absurd apostrophe other
  · rw [steps, if_neg apostrophe]
    by_cases stops : (special char || (!inWord && leading char)) = true
    · rw [if_pos stops]
      constructor
      · rintro ⟨next, added, later, opened, _⟩
        cases opened
      · rintro ⟨⟨⟨_, ordinary⟩, starts⟩, _⟩
        cases inWord <;> simp_all
    · rw [if_neg stops]
      constructor
      · rintro ⟨next, added, later, opened, ended, same⟩
        obtain ⟨rfl, rfl⟩ := Prod.mk.inj (Option.some.inj opened)
        obtain ⟨_, rfl⟩ := List.cons.inj same
        refine ⟨⟨⟨apostrophe, ?_⟩, ?_⟩, ended⟩
        · simp_all
        · cases inWord <;> simp_all
      · rintro ⟨_, ended⟩
        exact ⟨_, _, read, rfl, ended, rfl⟩

theorem bare_rest_iff (word : List Char) (token : ∀ char ∈ word, unquotes char = false) (rest : List Char)
    (later : List Symbol) :
    symbols (.bare true) (word ++ ' ' :: rest) = some (spelled word ++ .stop :: later) ↔
      (∀ char ∈ word, plain char = true) ∧ symbols (.bare false) rest = some later := by
  induction word with
  | nil =>
      have ended : scan (.bare true) [' '] = some (.bare false, [.stop]) := rfl
      have split := symbols_after _ _ [' '] rest _ (.stop :: later) ended
      rw [List.singleton_append] at split
      rw [List.nil_append, spelled_nil, List.nil_append, split]
      simp
  | cons char word ih =>
      have more := ih fun other member => token other (List.mem_cons_of_mem _ member)
      have first := bare_char_iff true char word token rest (spelled word ++ .stop :: later)
      rw [List.forall_mem_cons, and_assoc, ← more]
      simpa using first

theorem bare_word_iff (char : Char) (word : List Char) (token : ∀ other ∈ char :: word, unquotes other = false)
    (rest : List Char) (later : List Symbol) :
    symbols (.bare false) (char :: (word ++ ' ' :: rest)) = some (spelled (char :: word) ++ .stop :: later) ↔
      ((∀ other ∈ char :: word, plain other = true) ∧ leading char = false) ∧
        symbols (.bare false) rest = some later := by
  have first := bare_char_iff false char word token rest (spelled word ++ .stop :: later)
  have more := bare_rest_iff word (fun other member => token other (List.mem_cons_of_mem _ member)) rest later
  rw [more] at first
  rw [List.forall_mem_cons]
  constructor
  · intro whole
    obtain ⟨⟨here, starts⟩, others, ended⟩ := first.mp whole
    exact ⟨⟨⟨here, others⟩, starts.resolve_left (by decide)⟩, ended⟩
  · rintro ⟨⟨⟨here, others⟩, starts⟩, ended⟩
    exact first.mpr ⟨⟨here, .inr starts⟩, others, ended⟩

theorem words_exact_iff (solid : Inked inked) (char : Char) (word : List Char)
    (token : ∀ other ∈ char :: word, unquotes other = false) (pieces : List Piece)
    (fits : ∀ piece ∈ pieces, piece.Fits inked) (first : List Char) :
    symbols (.bare false) (char :: (word ++ ' ' :: '\'' :: (first ++ closingText pieces))) =
        some (spelled (char :: word) ++ .stop :: (spelled first ++ closingRead pieces)) ↔
      ((∀ other ∈ char :: word, plain other = true) ∧ leading char = false) ∧ '\'' ∉ first ∧
        ∀ piece ∈ pieces, piece.shown = piece.word ∧ '\'' ∉ piece.shown := by
  have opens : scan (.bare false) ['\''] = some (.single, []) := rfl
  have quoted :
      symbols (.bare false) ('\'' :: (first ++ closingText pieces)) = some (spelled first ++ closingRead pieces) ↔
      symbols .single (first ++ closingText pieces) = some (spelled first ++ closingRead pieces) := by
    rw [← List.singleton_append, symbols_after _ _ _ _ _ _ opens]
    simp
  rw [bare_word_iff char word token, quoted, quoted_exact_iff inked solid pieces fits first first (Nat.le_refl _)]
  simp

end Shell
