import StackConnect.Rust.Text
import StackConnect.Rust.UrlPath

set_option autoImplicit false

namespace Rust

-- What a server takes from the text of a URL behind its own address: the segments
-- of the path and the pairs of the query, as they are written.
structure UrlTarget where
  path : List String
  query : List (String × String)
deriving DecidableEq

def pairText (pair : String × String) : String := pair.1 ++ "=" ++ pair.2

def queryText : List (String × String) → String
  | [] => ""
  | first :: rest => "?" ++ pairText first ++ String.join (rest.map fun pair => "&" ++ pairText pair)

-- `str::split_once`, with nothing after a mark that is not there.
def splitOnce (mark : Char) (text : List Char) : List Char × List Char :=
  (text.takeWhile (· ≠ mark), (text.dropWhile (· ≠ mark)).drop 1)

def readPair (text : List Char) : String × String := (String.ofList (splitOnce '=' text).1, String.ofList (splitOnce '=' text).2)

def readQuery (text : List Char) : List (String × String) := if text = [] then [] else (text.splitOn '&').map readPair

namespace UrlTarget

def text (target : UrlTarget) : String := pathText target.path ++ queryText target.query

def read (text : List Char) : UrlTarget :=
  ⟨(((splitOnce '?' text).1.splitOn '/').drop 1).map String.ofList, readQuery (splitOnce '?' text).2⟩

def behind (base url : String) : Option UrlTarget := (url.toList.dropPrefix? base.toList).map read

def get (target : UrlTarget) (name : String) : Option String := target.query.lookup name

def put (target : UrlTarget) (name value : String) : UrlTarget :=
  { target with query := target.query.filter (fun pair => pair.1 ≠ name) ++ [(name, value)] }

structure Spelled (target : UrlTarget) : Prop where
  segments : ∀ segment ∈ target.path, '/' ∉ segment.toList ∧ '?' ∉ segment.toList
  pairs : ∀ pair ∈ target.query, '=' ∉ pair.1.toList ∧ '&' ∉ pair.1.toList ∧ '&' ∉ pair.2.toList

end UrlTarget

theorem plain_marks (text : String) (plain : PlainText text) : '/' ∉ text.toList ∧ '?' ∉ text.toList :=
  ⟨plain_free text plain '/' rfl, plain_free text plain '?' rfl⟩

theorem plain_value (text : String) (plain : PlainText text) : '&' ∉ text.toList := plain_free text plain '&' rfl

theorem plain_split (text : String) (plain : PlainText text) : splitOn ',' text = [text] := by
  have whole := plain_free text plain ',' rfl
  rw [splitOn, List.splitOn_eq_singleton whole, List.map_singleton, String.ofList_toList]

theorem split_once_apart (mark : Char) (before after : List Char) (absent : mark ∉ before) :
    splitOnce mark (before ++ mark :: after) = (before, after) := by
  have passes : ∀ char ∈ before, decide (char ≠ mark) = true := by
    intro char inside
    rw [decide_eq_true_iff]
    rintro rfl
    exact absent inside
  rw [splitOnce, List.takeWhile_append_of_pos passes, List.dropWhile_append_of_pos passes, List.takeWhile_cons_of_neg (by simp),
    List.dropWhile_cons_of_neg (by simp), List.append_nil, List.drop_succ_cons, List.drop_zero]

theorem split_once_absent (mark : Char) (text : List Char) (absent : mark ∉ text) : splitOnce mark text = (text, []) := by
  have passes : ∀ char ∈ text, decide (char ≠ mark) = true := by
    intro char inside
    rw [decide_eq_true_iff]
    rintro rfl
    exact absent inside
  have none : text.dropWhile (fun char => decide (char ≠ mark)) = [] := List.dropWhile_eq_nil_iff.mpr passes
  rw [splitOnce, List.takeWhile_eq_self_iff.mpr passes, none, List.drop_nil]

theorem read_pair_text (pair : String × String) (named : '=' ∉ pair.1.toList) : readPair (pairText pair).toList = pair := by
  have chars : (pairText pair).toList = pair.1.toList ++ '=' :: pair.2.toList := by
    rw [pairText, String.toList_append, String.toList_append, List.append_assoc]
    rfl
  rw [readPair, chars, split_once_apart '=' _ _ named, String.ofList_toList, String.ofList_toList]

theorem read_query_text (pairs : List (String × String)) (pair : String × String)
    (spelled : ∀ each ∈ pair :: pairs, '=' ∉ each.1.toList ∧ '&' ∉ each.1.toList ∧ '&' ∉ each.2.toList) :
    readQuery (pairText pair ++ String.join (pairs.map fun pair => "&" ++ pairText pair)).toList = pair :: pairs := by
  have chars : (pairText pair ++ String.join (pairs.map fun pair => "&" ++ pairText pair)).toList =
      ['&'].intercalate ((pair :: pairs).map fun pair => (pairText pair).toList) := by
    rw [String.toList_append, String.toList_join, List.map_cons, intercalate_cons, List.flatMap_map, List.flatMap_map]
    congr 2
    funext other
    rw [String.toList_append]
    rfl
  have apart : ∀ part ∈ (pair :: pairs).map fun pair => (pairText pair).toList, '&' ∉ part := by
    intro part inside
    obtain ⟨each, member, rfl⟩ := List.mem_map.mp inside
    obtain ⟨_, name, value⟩ := spelled each member
    simp [pairText, name, value]
  have some : (pairText pair ++ String.join (pairs.map fun pair => "&" ++ pairText pair)).toList ≠ [] := by
    simp [pairText]
  rw [readQuery, if_neg some, chars, List.splitOn_intercalate '&' apart (by simp), List.map_map]
  conv_rhs => rw [← List.map_id (pair :: pairs)]
  exact List.map_congr_left fun each member => read_pair_text each (spelled each member).1

namespace UrlTarget

theorem read_text (target : UrlTarget) (spelled : target.Spelled) : read target.text.toList = target := by
  obtain ⟨path, query⟩ := target
  have apart : ∀ part ∈ [] :: path.map String.toList, '/' ∉ part := by
    intro part inside
    rcases List.mem_cons.mp inside with rfl | inside
    · exact List.not_mem_nil
    · obtain ⟨segment, member, rfl⟩ := List.mem_map.mp inside
      exact (spelled.segments segment member).1
  have segments : (((pathText path).toList.splitOn '/').drop 1).map String.ofList = path := by
    rw [path_text_chars, List.splitOn_intercalate '/' apart nofun, List.drop_succ_cons, List.drop_zero, List.map_map]
    simp
  have unasked : '?' ∉ (pathText path).toList := by
    rw [pathText, String.toList_join, List.mem_flatMap]
    rintro ⟨part, inside, mark⟩
    obtain ⟨segment, member, rfl⟩ := List.mem_map.mp inside
    rw [String.toList_append, List.mem_append] at mark
    rcases mark with slash | deeper
    · exact absurd slash (by decide)
    · exact (spelled.segments segment member).2 deeper
  cases query with
  | nil =>
      rw [read, text, queryText, String.append_empty, split_once_absent '?' _ unasked, segments]
      rfl
  | cons pair rest =>
      have chars : (pathText path ++ queryText (pair :: rest)).toList = (pathText path).toList ++
          '?' :: (pairText pair ++ String.join (rest.map fun pair => "&" ++ pairText pair)).toList := by
        rw [queryText, String.append_assoc, String.toList_append, String.toList_append]
        rfl
      rw [read, text, chars, split_once_apart '?' _ _ unasked, segments, read_query_text rest pair spelled.pairs]

theorem behind_text (base : String) (target : UrlTarget) (spelled : target.Spelled) :
    behind base (base ++ target.text) = some target := by
  rw [behind, String.toList_append, List.dropPrefix?_append_of_beq _ (beq_self_eq_true _), Option.map_some, read_text target spelled]

theorem put_put (target : UrlTarget) (name value other : String) : (target.put name value).put name other = target.put name other := by
  simp [put]

theorem get_put (target : UrlTarget) (name value : String) : (target.put name value).get name = some value := by
  have absent : (target.query.filter fun pair => pair.1 ≠ name).lookup name = none := by
    rw [List.lookup_eq_none_iff]
    intro pair inside
    have kept := of_decide_eq_true (List.mem_filter.mp inside).2
    exact bne_iff_ne.mpr kept.symm
  rw [get, put, List.lookup_append, absent, Option.none_or]
  exact List.lookup_cons_self

theorem get_put_other (target : UrlTarget) (name value other : String) (apart : other ≠ name) :
    (target.put name value).get other = target.get other := by
  have last : [(name, value)].lookup other = none := by
    rw [List.lookup_eq_none_iff]
    simpa using apart
  have kept : (target.query.filter fun pair => pair.1 ≠ name).lookup other = target.query.lookup other := by
    induction target.query with
    | nil => rfl
    | cons pair rest ih =>
        by_cases same : pair.1 = name
        · rw [List.filter_cons_of_neg (by simpa using same), ih, List.lookup_cons]
          rw [show (other == pair.1) = false from beq_eq_false_iff_ne.mpr (same ▸ apart)]
        · rw [List.filter_cons_of_pos (by simpa using same), List.lookup_cons, List.lookup_cons, ih]
  rw [get, put, List.lookup_append, last, Option.or_none, kept, get]

theorem spelled_put (target : UrlTarget) (spelled : target.Spelled) (name value : String)
    (named : '=' ∉ name.toList ∧ '&' ∉ name.toList) (plain : PlainText value) : (target.put name value).Spelled where
  segments := spelled.segments
  pairs := by
    intro pair inside
    rcases List.mem_append.mp inside with old | new
    · exact spelled.pairs pair (List.mem_of_mem_filter old)
    · rw [List.mem_singleton.mp new]
      exact ⟨named.1, named.2, plain_value value plain⟩

end UrlTarget

end Rust
