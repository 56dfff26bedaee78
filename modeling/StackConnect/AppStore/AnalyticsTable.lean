import StackConnect.AppStore.Analytics
import StackConnect.Rust.Lines

set_option autoImplicit false

namespace StackConnect

open Rust

inductive LineEnd where
  | lf
  | crlf

def LineEnd.text : LineEnd → String
  | .lf => "\n"
  | .crlf => "\r\n"

structure PrintedLine where
  cells : Option (List String)
  ending : LineEnd

def joined (cells : List String) : String := "\t".intercalate cells

def PrintedLine.text (line : PrintedLine) : String := (line.cells.map joined).getD ""

-- The line end of the last line may be left out.
def rendered : List PrintedLine → Bool → String
  | [], _ => ""
  | [last], false => last.text
  | line :: rest, ended => line.text ++ line.ending.text ++ rendered rest ended

-- Cells that a line of their own can hold: they do not read as a blank line.
def Tabular (cells : List String) : Prop :=
  cells ≠ [] ∧ cells ≠ [""] ∧ ∀ cell ∈ cells, ∀ char ∈ cell.toList, char ≠ '\t' ∧ char ≠ '\n' ∧ char ≠ '\r'

instance (cells : List String) : Decidable (Tabular cells) :=
  decidable_of_iff (cells ≠ [] ∧ cells ≠ [""] ∧
    (cells.all fun cell => cell.toList.all fun char => char != '\t' && char != '\n' && char != '\r') = true)
    (by simp [Tabular, and_assoc])

-- A text with its CRLF line ends turned into LF, without its blank lines.
def normalLines (text : String) : List String := (splitOn '\n' (replace text "\r\n" "\n")).filter (· ≠ "")

def cellsOf (line : List Char) : List String := (line.splitOn '\t').map String.ofList

theorem split_cells (line : List Char) : splitOn '\t' (String.ofList line) = cellsOf line := by
  rw [splitOn, String.toList_ofList, cellsOf]

theorem cells_joined (line : List Char) : joined (cellsOf line) = String.ofList line := by
  have kept : String.toList ∘ String.ofList = id := funext fun _ => String.toList_ofList
  apply String.toList_inj.mp
  rw [joined, cellsOf, String.toList_intercalate, List.map_map, kept, List.map_id]
  exact (List.intercalate_splitOn '\t').trans String.toList_ofList.symm

theorem joined_cells (cells : List String) (some_ : cells ≠ []) (free : ∀ cell ∈ cells, '\t' ∉ cell.toList) :
    cellsOf (joined cells).toList = cells := by
  rw [joined, cellsOf, String.toList_intercalate]
  have split : (List.intercalate ['\t'] (cells.map String.toList)).splitOn '\t' = cells.map String.toList := by
    apply List.splitOn_intercalate
    · intro part listed
      obtain ⟨cell, inside, rfl⟩ := List.mem_map.mp listed
      exact free cell inside
    · exact fun empty => some_ (List.map_eq_nil_iff.mp empty)
  change List.map String.ofList ((List.intercalate ['\t'] (cells.map String.toList)).splitOn '\t') = cells
  have kept : String.ofList ∘ String.toList = id := funext fun _ => String.ofList_toList
  rw [split, List.map_map, kept, List.map_id]

theorem parse_blank (text : String) (blank : filledLines text.toList = []) : parseAnalyticsTsv text = ⟨[], [], 0⟩ := by
  rw [parseAnalyticsTsv, filled_lines, blank]
  rfl

theorem parse_filled (text : String) (header : List Char) (rest : List (List Char))
    (lines : filledLines text.toList = header :: rest) :
    parseAnalyticsTsv text = ⟨cellsOf header, rest.map cellsOf, rest.length % 4294967296⟩ := by
  rw [parseAnalyticsTsv, filled_lines, lines]
  simp only [List.map_cons, split_cells, List.map_map, List.length_map]
  congr 1
  apply List.map_congr_left
  intro line _
  exact split_cells line

theorem parse_inj (first second : String) :
    parseAnalyticsTsv first = parseAnalyticsTsv second ↔ filledLines first.toList = filledLines second.toList := by
  have injective : Function.Injective cellsOf := by
    intro here there same
    have lines := congrArg joined same
    rw [cells_joined, cells_joined] at lines
    exact String.ofList_injective lines
  have solid : ∀ line, cellsOf line ≠ [] := fun line empty => List.splitOn_ne_nil '\t' line (List.map_eq_nil_iff.mp empty)
  constructor
  · intro same
    cases here : filledLines first.toList with
    | nil =>
        cases there : filledLines second.toList with
        | nil => rfl
        | cons header rest =>
            rw [parse_blank first here, parse_filled second header rest there] at same
            exact absurd (congrArg AnalyticsReportData.headers same).symm (solid header)
    | cons header rest =>
        rw [parse_filled first header rest here] at same
        cases there : filledLines second.toList with
        | nil =>
            rw [parse_blank second there] at same
            exact absurd (congrArg AnalyticsReportData.headers same) (solid header)
        | cons other others =>
            rw [parse_filled second other others there] at same
            have headers := injective (congrArg AnalyticsReportData.headers same)
            have rows := injective.list_map (congrArg AnalyticsReportData.rows same)
            rw [headers, rows]
  · intro same
    rw [parseAnalyticsTsv, parseAnalyticsTsv, filled_lines, filled_lines, same]

theorem normal_lines (text : String) : normalLines text = (filledLines text.toList).map String.ofList := by
  have turned : (replace text "\r\n" "\n").toList = crlfToLf text.toList := String.toList_ofList
  rw [normalLines, splitOn, turned, filled_lines_split, List.filter_map]
  congr 1
  apply List.filter_congr
  intro line _
  simp

theorem parsed_joined (text : String) :
    "\n".intercalate (joined (parseAnalyticsTsv text).headers :: (parseAnalyticsTsv text).rows.map joined) =
      "\n".intercalate (normalLines text) := by
  rw [normal_lines]
  cases lines : filledLines text.toList with
  | nil =>
      rw [parse_blank text lines]
      rfl
  | cons header rest =>
      rw [parse_filled text header rest lines]
      congr 1
      rw [List.map_cons, List.map_map, cells_joined]
      congr 1
      apply List.map_congr_left
      intro line _
      exact cells_joined line

theorem mem_intercalate (separator char : Char) (parts : List (List Char))
    (inside : char ∈ [separator].intercalate parts) : char = separator ∨ ∃ part ∈ parts, char ∈ part := by
  induction parts with
  | nil => cases inside
  | cons part rest ih =>
      by_cases more : rest = []
      · rw [more, List.intercalate_singleton] at inside
        exact .inr ⟨part, List.mem_cons_self, inside⟩
      · rw [List.intercalate_cons_of_ne_nil more, List.append_assoc, List.mem_append, List.singleton_append, List.mem_cons] at inside
        rcases inside with here | same | later
        · exact .inr ⟨part, List.mem_cons_self, here⟩
        · exact .inl same
        · rcases ih later with same | ⟨other, listed, held⟩
          · exact .inl same
          · exact .inr ⟨other, List.mem_cons_of_mem _ listed, held⟩

theorem tabular_line (cells : List String) (tabular : Tabular cells) :
    cellsOf (joined cells).toList = cells ∧ (joined cells).toList ≠ [] ∧
      '\n' ∉ (joined cells).toList ∧ '\r' ∉ (joined cells).toList := by
  obtain ⟨some_, filled, free⟩ := tabular
  have back := joined_cells cells some_ fun cell listed inside => (free cell listed _ inside).1 rfl
  have other : ∀ char, char ∈ (joined cells).toList → char = '\t' ∨ char ≠ '\n' ∧ char ≠ '\r' := by
    intro char inside
    rw [joined, String.toList_intercalate] at inside
    rcases mem_intercalate '\t' char _ inside with same | ⟨part, listed, held⟩
    · exact .inl same
    · obtain ⟨cell, cellListed, rfl⟩ := List.mem_map.mp listed
      exact .inr (free cell cellListed char held).2
  refine ⟨back, ?_, ?_, ?_⟩
  · intro empty
    rw [empty] at back
    exact filled back.symm
  · intro feed
    rcases other _ feed with impossible | ⟨impossible, _⟩
    · cases impossible
    · exact impossible rfl
  · intro feed
    rcases other _ feed with impossible | ⟨_, impossible⟩
    · cases impossible
    · exact impossible rfl

def tableLine (cells : List String) : List Char := (joined cells).toList

theorem printed_text (line : PrintedLine) (tabular : ∀ cells, line.cells = some cells → Tabular cells) :
    '\n' ∉ line.text.toList ∧ '\r' ∉ line.text.toList ∧
      filled line.text.toList = (line.cells.map tableLine).toList := by
  rw [PrintedLine.text]
  cases held : line.cells with
  | none => exact ⟨List.not_mem_nil, List.not_mem_nil, rfl⟩
  | some cells =>
      obtain ⟨_, solid, feed, ret⟩ := tabular_line cells (tabular cells held)
      refine ⟨feed, ret, ?_⟩
      exact if_neg solid

theorem ended_line (line : PrintedLine) (tabular : ∀ cells, line.cells = some cells → Tabular cells) (rest : List Char) :
    filledLines ((line.text ++ line.ending.text).toList ++ rest) = (line.cells.map tableLine).toList ++ filledLines rest := by
  obtain ⟨feed, ret, shown⟩ := printed_text line tabular
  rw [← shown, String.toList_append, List.append_assoc]
  cases line.ending with
  | lf =>
      change filledLines (line.text.toList ++ '\n' :: rest) = _
      rw [filled_feed _ rest feed, strip_cr_free _ ret]
  | crlf =>
      have longer : '\n' ∉ line.text.toList ++ ['\r'] := by simp [feed]
      have split : line.text.toList ++ (LineEnd.crlf.text.toList ++ rest) = (line.text.toList ++ ['\r']) ++ '\n' :: rest := by
        rw [List.append_assoc]
        rfl
      rw [split, filled_feed _ rest longer, strip_cr_append]

theorem rendered_filled (printed : List PrintedLine) (ended : Bool)
    (tabular : ∀ line ∈ printed, ∀ cells, line.cells = some cells → Tabular cells) :
    filledLines (rendered printed ended).toList = (printed.filterMap PrintedLine.cells).map tableLine := by
  induction printed with
  | nil => rfl
  | cons line rest ih =>
      have here := tabular line List.mem_cons_self
      have later := ih fun other listed => tabular other (List.mem_cons_of_mem _ listed)
      have shown : (List.filterMap PrintedLine.cells (line :: rest)).map tableLine =
          (line.cells.map tableLine).toList ++ (rest.filterMap PrintedLine.cells).map tableLine := by
        cases held : line.cells with
        | none => rw [List.filterMap_cons_none held]; rfl
        | some cells => rw [List.filterMap_cons_some held]; rfl
      rw [shown]
      by_cases last : rest = [] ∧ ended = false
      · obtain ⟨rfl, rfl⟩ := last
        obtain ⟨feed, _, filledHere⟩ := printed_text line here
        change filledLines line.text.toList = _
        rw [filled_last _ feed, filledHere, List.filterMap_nil, List.map_nil, List.append_nil]
      · have split : rendered (line :: rest) ended = line.text ++ line.ending.text ++ rendered rest ended := by
          cases rest with
          | nil =>
              cases ended with
              | true => rfl
              | false => exact absurd ⟨rfl, rfl⟩ last
          | cons next others => rfl
        rw [split, String.toList_append, ended_line line here, later]

theorem analytics_tsv_inverts_rendering :
    (∀ (headers : List String) (rows : List (List String)) (printed : List PrintedLine) (ended : Bool),
      (∀ cells ∈ headers :: rows, Tabular cells) → rows.length < 4294967296 →
      printed.filterMap PrintedLine.cells = headers :: rows →
      parseAnalyticsTsv (rendered printed ended) = ⟨headers, rows, rows.length⟩) ∧
    ∀ text : String,
      "\n".intercalate (joined (parseAnalyticsTsv text).headers :: (parseAnalyticsTsv text).rows.map joined) =
        "\n".intercalate (normalLines text) := by
  refine ⟨?_, parsed_joined⟩
  intro headers rows printed ended tabular few table
  have each : ∀ line ∈ printed, ∀ cells, line.cells = some cells → Tabular cells := by
    intro line listed cells held
    apply tabular
    rw [← table]
    exact List.mem_filterMap.mpr ⟨line, listed, held⟩
  have back : ∀ cells ∈ headers :: rows, cellsOf (tableLine cells) = cells := fun cells listed =>
    (tabular_line cells (tabular cells listed)).1
  have lines := rendered_filled printed ended each
  rw [table, List.map_cons] at lines
  rw [parse_filled _ _ _ lines, back headers List.mem_cons_self, List.map_map, List.length_map, Nat.mod_eq_of_lt few]
  congr 1
  have kept : rows.map (cellsOf ∘ tableLine) = rows.map id :=
    List.map_congr_left fun cells listed => back cells (List.mem_cons_of_mem _ listed)
  rw [kept, List.map_id]

def unitsPrinted : List PrintedLine :=
  [⟨none, .crlf⟩, ⟨some ["Date", "Units"], .crlf⟩, ⟨some ["2024-02-29", ""], .lf⟩, ⟨none, .lf⟩, ⟨some ["total"], .crlf⟩]

theorem units_table_read :
    parseAnalyticsTsv (rendered unitsPrinted false) = ⟨["Date", "Units"], [["2024-02-29", ""], ["total"]], 2⟩ :=
  analytics_tsv_inverts_rendering.1 ["Date", "Units"] [["2024-02-29", ""], ["total"]] unitsPrinted false (by decide)
    (by decide) rfl

end StackConnect
