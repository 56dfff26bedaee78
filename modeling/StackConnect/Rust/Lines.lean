import StackConnect.Rust.Text

set_option autoImplicit false

namespace Rust

def stripCr (line : List Char) : List Char := if line.getLast? = some '\r' then line.dropLast else line

theorem strip_cr_free (line : List Char) (free : '\r' ∉ line) : stripCr line = line := by
  rw [stripCr]
  rw [if_neg]
  intro last
  exact free (List.mem_of_getLast? last)

theorem strip_cr_append (line : List Char) : stripCr (line ++ ['\r']) = line := by
  rw [stripCr]
  rw [if_pos List.getLast?_concat, List.dropLast_concat]

theorem strip_cr_mem (line : List Char) (char : Char) (inside : char ∈ stripCr line) : char ∈ line := by
  rw [stripCr] at inside
  split at inside
  · exact List.mem_of_mem_dropLast inside
  · exact inside

theorem strip_cr_cons (char : Char) (line : List Char) (more : line ≠ []) : stripCr (char :: line) = char :: stripCr line := by
  unfold stripCr
  rw [List.getLast?_cons_of_ne_nil more, List.dropLast_cons_of_ne_nil more]
  by_cases last : line.getLast? = some '\r'
  · rw [if_pos last, if_pos last]
  · rw [if_neg last, if_neg last]

-- A text is a last line without a line feed, or a line, its line feed and a text.
theorem feed_induction {P : List Char → Prop} (last : ∀ line, '\n' ∉ line → P line)
    (feed : ∀ line rest, '\n' ∉ line → P rest → P (line ++ '\n' :: rest)) (text : List Char) : P text := by
  have whole : ∀ text line : List Char, '\n' ∉ line → P (line ++ text) := by
    intro text
    induction text with
    | nil =>
        intro line free
        rw [List.append_nil]
        exact last line free
    | cons char rest ih =>
        intro line free
        by_cases ends : char = '\n'
        · subst ends
          exact feed line rest free (ih [] (List.not_mem_nil))
        · have longer := ih (line ++ [char]) (by simp [free, Ne.symm ends])
          rwa [List.append_assoc] at longer
  exact whole text [] List.not_mem_nil

theorem line_chars_other (current rest : List Char) (char : Char) (other : char ≠ '\n') :
    lineChars current (char :: rest) = lineChars (char :: current) rest := by
  rw [lineChars]
  exact other

theorem line_chars_end (current rest : List Char) :
    lineChars current ('\n' :: rest) = stripCr current.reverse :: lineChars [] rest := by
  cases current with
  | nil => rfl
  | cons char before =>
      rw [List.reverse_cons]
      by_cases ends : char = '\r'
      · subst ends
        rw [strip_cr_append]
        rfl
      · rw [stripCr, List.getLast?_concat, if_neg (by simpa using ends), lineChars]
        · rw [List.reverse_cons]
        · intro other same
          exact ends (List.cons.inj same).1

theorem line_chars_feed (current line rest : List Char) (free : '\n' ∉ line) :
    lineChars current (line ++ '\n' :: rest) = stripCr (current.reverse ++ line) :: lineChars [] rest := by
  induction line generalizing current with
  | nil =>
      rw [List.append_nil]
      exact line_chars_end current rest
  | cons char line ih =>
      rw [List.mem_cons, not_or] at free
      rw [List.cons_append, line_chars_other _ _ _ (Ne.symm free.1), ih (char :: current) free.2]
      simp

theorem line_chars_last (current line : List Char) (free : '\n' ∉ line) :
    lineChars current line = if current.reverse ++ line = [] then [] else [current.reverse ++ line] := by
  induction line generalizing current with
  | nil => simp [lineChars]
  | cons char line ih =>
      rw [List.mem_cons, not_or] at free
      rw [line_chars_other _ _ _ (Ne.symm free.1), ih (char :: current) free.2]
      simp

theorem line_chars_fed (lines : List (List Char)) (plain : ∀ line ∈ lines, '\n' ∉ line ∧ '\r' ∉ line) :
    lineChars [] (lines.flatMap (· ++ ['\n'])) = lines := by
  induction lines with
  | nil => rfl
  | cons line lines ih =>
      have first := plain line List.mem_cons_self
      have later := ih fun other member => plain other (List.mem_cons_of_mem _ member)
      rw [List.flatMap_cons, List.append_assoc, List.singleton_append, line_chars_feed [] line _ first.1, later,
        List.reverse_nil, List.nil_append, strip_cr_free line first.2]

def filledLines (text : List Char) : List (List Char) := (lineChars [] text).filter (· ≠ [])

def filled (line : List Char) : List (List Char) := if line = [] then [] else [line]

theorem filled_feed (line rest : List Char) (free : '\n' ∉ line) :
    filledLines (line ++ '\n' :: rest) = filled (stripCr line) ++ filledLines rest := by
  rw [filledLines, filledLines, filled]
  rw [line_chars_feed [] line rest free, List.reverse_nil, List.nil_append, List.filter_cons]
  by_cases blank : stripCr line = [] <;> simp [blank]

theorem filled_last (line : List Char) (free : '\n' ∉ line) : filledLines line = filled line := by
  rw [filledLines, filled]
  rw [line_chars_last [] line free, List.reverse_nil, List.nil_append]
  by_cases blank : line = [] <;> simp [blank]

theorem filled_lines (text : String) : (lines text).filter (· ≠ "") = (filledLines text.toList).map String.ofList := by
  rw [lines, filledLines, List.filter_map]
  congr 1
  apply List.filter_congr
  intro line _
  simp

theorem filled_eq_nil (line : List Char) : filled line = [] ↔ line = [] := by
  rw [filled]
  by_cases blank : line = [] <;> simp [blank]

theorem strip_cr_eq_nil (line : List Char) : stripCr line = [] ↔ line = [] ∨ line = ['\r'] := by
  rw [stripCr]
  constructor
  · intro empty
    by_cases last : line.getLast? = some '\r'
    · rw [if_pos last] at empty
      have whole := List.dropLast_append_getLast? '\r' last
      rw [empty] at whole
      exact .inr whole.symm
    · rw [if_neg last] at empty
      exact .inl empty
  · rintro (rfl | rfl) <;> rfl

-- A text put after another one leaves its filled lines as they are: it holds
-- line ends only and does not turn a carriage return at the end of the first
-- into a line end. One odd text escapes this: a lone carriage return that is
-- turned into a line end and comes back as the only line that follows.
def AddsNothing (first rest : List Char) : Prop :=
  (filledLines rest = [] ∧ ¬ (first.getLast? = some '\r' ∧ rest.head? = some '\n')) ∨
    ∃ before after, first = before ++ ['\r'] ∧ (before = [] ∨ before.getLast? = some '\n') ∧ rest = '\n' :: after ∧
      filledLines after = [['\r']]

theorem adds_nothing_feed (line first rest : List Char) :
    AddsNothing (line ++ '\n' :: first) rest ↔ AddsNothing first rest := by
  have ends : (line ++ '\n' :: first).getLast? = some '\r' ↔ first.getLast? = some '\r' := by
    rw [List.getLast?_append_cons, List.getLast?_cons]
    cases first.getLast? <;> simp
  have lone : (∃ before after, line ++ '\n' :: first = before ++ ['\r'] ∧ (before = [] ∨ before.getLast? = some '\n') ∧
      rest = '\n' :: after ∧ filledLines after = [['\r']]) ↔
      ∃ before after, first = before ++ ['\r'] ∧ (before = [] ∨ before.getLast? = some '\n') ∧ rest = '\n' :: after ∧
        filledLines after = [['\r']] := by
    constructor
    · rintro ⟨before, after, same, opens, later⟩
      rcases List.eq_nil_or_concat first with rfl | ⟨init, last, rfl⟩
      · obtain ⟨_, impossible⟩ := List.append_inj' same rfl
        cases impossible
      · have split : (line ++ '\n' :: init) ++ [last] = before ++ ['\r'] := by simpa using same
        obtain ⟨rfl, end_⟩ := List.append_inj' split rfl
        refine ⟨init, after, by rw [List.concat_eq_append, end_], ?_, later⟩
        rcases List.eq_nil_or_concat init with rfl | ⟨_, char, rfl⟩
        · exact .inl rfl
        · rw [List.getLast?_append_cons, List.getLast?_cons, List.concat_eq_append, List.getLast?_concat] at opens
          rw [List.concat_eq_append, List.getLast?_concat]
          exact .inr (opens.resolve_left (by simp))
    · rintro ⟨before, after, rfl, opens, later⟩
      refine ⟨line ++ '\n' :: before, after, by simp, .inr ?_, later⟩
      rw [List.getLast?_append_cons, List.getLast?_cons]
      rcases opens with rfl | feed
      · rfl
      · rw [feed]
        rfl
  unfold AddsNothing
  rw [ends, lone]

theorem strip_cr_append_solid (line start : List Char) (solid : start ≠ []) : stripCr (line ++ start) = line ++ stripCr start := by
  unfold stripCr
  rw [List.getLast?_append_of_ne_nil line solid, List.dropLast_append_of_ne_nil solid]
  by_cases ends : start.getLast? = some '\r'
  · rw [if_pos ends, if_pos ends]
  · rw [if_neg ends, if_neg ends]

-- The line feed comes first: it ends the line, a carriage return included.
theorem filled_append_bare (line later : List Char) (free : '\n' ∉ line) (solid : line ≠ []) :
    filled (stripCr line) ++ filledLines later = [line] ↔ AddsNothing line ('\n' :: later) := by
  have opened : filledLines ('\n' :: later) = filledLines later := filled_feed [] later List.not_mem_nil
  rw [AddsNothing, opened]
  by_cases ends : line.getLast? = some '\r'
  · obtain ⟨init, rfl⟩ := List.getLast?_eq_some_iff.mp ends
    have fresh : '\n' ∉ init := fun inside => free (List.mem_append_left _ inside)
    rw [strip_cr_append, filled]
    by_cases lone : init = []
    · subst lone
      constructor
      · intro same
        exact .inr ⟨[], later, rfl, .inl rfl, rfl, same⟩
      · rintro (⟨_, apart⟩ | ⟨before, after, _, _, same, back⟩)
        · exact absurd ⟨ends, rfl⟩ apart
        · obtain ⟨_, rfl⟩ := List.cons.inj same
          exact back
    · rw [if_neg lone]
      constructor
      · intro same
        have shorter := congrArg List.length (List.cons.inj same).1
        simp at shorter
      · rintro (⟨_, apart⟩ | ⟨before, after, same, opens, _⟩)
        · exact absurd ⟨ends, rfl⟩ apart
        · obtain ⟨rfl, _⟩ := List.append_inj' same rfl
          exact absurd (List.mem_of_getLast? (opens.resolve_left lone)) fresh
  · rw [stripCr, if_neg ends, filled, if_neg solid]
    constructor
    · intro same
      exact .inl ⟨(List.cons.inj same).2, fun both => ends both.1⟩
    · rintro (⟨empty, _⟩ | ⟨before, after, rfl, _⟩)
      · rw [empty]
        rfl
      · exact absurd List.getLast?_concat ends

theorem filled_append_last (line rest : List Char) (free : '\n' ∉ line) (solid : line ≠ []) :
    filledLines (line ++ rest) = [line] ↔ AddsNothing line rest := by
  by_cases feeds : '\n' ∈ rest
  · obtain ⟨start, later, rfl, opens⟩ := List.eq_append_cons_of_mem feeds
    have completed : '\n' ∉ line ++ start := by simp [free, opens]
    rw [← List.append_assoc, filled_feed (line ++ start) later completed]
    by_cases bare : start = []
    · subst bare
      rw [List.append_nil]
      exact filled_append_bare line later free solid
    · rw [strip_cr_append_solid line start bare, AddsNothing, filled_feed start later opens, List.append_eq_nil_iff, filled_eq_nil,
        strip_cr_eq_nil, filled, if_neg (by simp [solid])]
      constructor
      · intro same
        obtain ⟨here, after⟩ := List.cons.inj same
        have stripped : stripCr start = [] := by simpa using here
        have alone := ((strip_cr_eq_nil start).mp stripped).resolve_left bare
        refine .inl ⟨⟨.inr alone, after⟩, ?_⟩
        rintro ⟨_, first⟩
        rw [alone] at first
        cases first
      · rintro (⟨⟨ends, after⟩, _⟩ | ⟨_, after, _, _, same, _⟩)
        · rw [(strip_cr_eq_nil start).mpr ends, after, List.append_nil, List.append_nil]
        · cases start with
          | nil => exact absurd rfl bare
          | cons char more =>
              obtain ⟨rfl, _⟩ := List.cons.inj same
              exact absurd List.mem_cons_self opens
  · have completed : '\n' ∉ line ++ rest := by simp [free, feeds]
    have plain : AddsNothing line rest ↔ rest = [] := by
      rw [AddsNothing, filled_last rest feeds, filled_eq_nil]
      constructor
      · rintro (⟨empty, _⟩ | ⟨_, _, _, _, rfl, _⟩)
        · exact empty
        · exact absurd List.mem_cons_self feeds
      · rintro rfl
        exact .inl ⟨rfl, fun both => by cases both.2⟩
    rw [filled_last _ completed, filled, if_neg (by simp [solid]), plain]
    simp

theorem filled_append_iff (first rest : List Char) :
    filledLines (first ++ rest) = filledLines first ↔ AddsNothing first rest := by
  induction first using feed_induction with
  | last line free =>
      by_cases solid : line = []
      · subst solid
        rw [List.nil_append, AddsNothing]
        constructor
        · intro same
          exact .inl ⟨same, fun both => by cases both.1⟩
        · rintro (⟨empty, _⟩ | ⟨before, _, impossible, _⟩)
          · exact empty
          · simp at impossible
      · rw [filled_last line free, filled, if_neg solid]
        exact filled_append_last line rest free solid
  | feed line first free ih =>
      rw [List.append_assoc, List.cons_append, filled_feed line _ free, filled_feed line _ free, List.append_cancel_left_eq,
        adds_nothing_feed]
      exact ih

def crlfToLf (text : List Char) : List Char := replaceChars ['\r', '\n'] ['\n'] 0 text

theorem crlf_to_lf_feed (line rest : List Char) (free : '\n' ∉ line) :
    crlfToLf (line ++ '\n' :: rest) = stripCr line ++ '\n' :: crlfToLf rest := by
  induction line with
  | nil => simp [crlfToLf, replaceChars, stripCr]
  | cons char line ih =>
      rw [List.mem_cons, not_or] at free
      cases line with
      | nil =>
          by_cases ends : char = '\r'
          · subst ends
            simp [crlfToLf, replaceChars, stripCr]
          · simp [crlfToLf, replaceChars, stripCr, ends, Ne.symm ends]
      | cons next line =>
          have other : next ≠ '\n' := fun same => free.2 (by simp [same])
          have kept : crlfToLf (char :: (next :: line ++ '\n' :: rest)) = char :: crlfToLf (next :: line ++ '\n' :: rest) := by
            simp [crlfToLf, replaceChars, Ne.symm other]
          rw [strip_cr_cons _ _ (List.cons_ne_nil _ _), List.cons_append, kept, ih free.2]
          rfl

theorem crlf_to_lf_last (line : List Char) (free : '\n' ∉ line) : crlfToLf line = line := by
  induction line with
  | nil => rfl
  | cons char line ih =>
      rw [List.mem_cons, not_or] at free
      have later := ih free.2
      rw [crlfToLf] at later ⊢
      rw [replaceChars, later, if_neg]
      intro starts
      cases line with
      | nil => simp at starts
      | cons next line =>
          have same : '\n' = next := by
            simp only [List.isPrefixOf, Bool.and_eq_true, beq_iff_eq] at starts
            exact starts.2.1
          exact free.2 (same ▸ List.mem_cons_self)

theorem filled_lines_split (text : List Char) : filledLines text = ((crlfToLf text).splitOn '\n').filter (· ≠ []) := by
  induction text using feed_induction with
  | last line free =>
      rw [filled_last line free, crlf_to_lf_last line free, List.splitOn_eq_singleton free, filled]
      by_cases blank : line = [] <;> simp [blank]
  | feed line rest free ih =>
      have stripped : '\n' ∉ stripCr line := fun inside => free (strip_cr_mem line '\n' inside)
      rw [filled_feed line rest free, crlf_to_lf_feed line rest free, List.splitOn_append_cons_self_of_not_mem stripped, ih, filled]
      by_cases blank : stripCr line = [] <;> simp [blank]

end Rust
