import StackConnect.Rust.Text

set_option autoImplicit false

namespace Rust

def cut {α : Type} (width : Nat) : List α → List (List α)
  | [] => []
  | item :: rest => (item :: rest.take (width - 1)) :: cut width (rest.drop (width - 1))
termination_by items => items.length
decreasing_by
  rw [List.length_drop, List.length_cons]
  omega

variable {α : Type}

theorem cut_short (width : Nat) (items : List α) (some : items ≠ []) (short : items.length ≤ width) :
    cut width items = [items] := by
  cases items with
  | nil => exact absurd rfl some
  | cons item rest =>
      rw [List.length_cons] at short
      rw [cut, List.take_of_length_le (by omega), List.drop_eq_nil_of_le (by omega), cut]

theorem cut_append (width : Nat) (piece items : List α) (some : piece ≠ []) (whole : piece.length = width) :
    cut width (piece ++ items) = piece :: cut width items := by
  cases piece with
  | nil => exact absurd rfl some
  | cons item rest =>
      have counted : rest.length = width - 1 := by
        rw [← whole, List.length_cons, Nat.add_sub_cancel]
      rw [List.cons_append, cut, List.take_left' counted, List.drop_left' counted]

theorem cut_flatten (width : Nat) (items : List α) : (cut width items).flatten = items := by
  fun_induction cut width items with
  | case1 => rfl
  | case2 item rest ih => rw [List.flatten_cons, ih, List.cons_append, List.take_append_drop]

theorem cut_within (width : Nat) (items piece : List α) (member : piece ∈ cut width items) : piece <:+: items := by
  obtain ⟨before, after, parts⟩ := List.append_of_mem member
  refine ⟨before.flatten, after.flatten, ?_⟩
  rw [← cut_flatten width items, parts, List.flatten_append, List.flatten_cons, List.append_assoc]

theorem cut_piece_length (width : Nat) (positive : 0 < width) (items : List α) :
    ∀ piece ∈ cut width items, 1 ≤ piece.length ∧ piece.length ≤ width := by
  fun_induction cut width items with
  | case1 => simp
  | case2 item rest ih =>
      intro piece member
      cases List.mem_cons.mp member with
      | inl first =>
          rw [first, List.length_cons, List.length_take]
          omega
      | inr later => exact ih piece later

theorem cut_full (width : Nat) (positive : 0 < width) (items : List α) :
    ∀ piece ∈ (cut width items).dropLast, piece.length = width := by
  fun_induction cut width items with
  | case1 => simp
  | case2 item rest ih =>
      intro piece member
      by_cases last : cut width (rest.drop (width - 1)) = []
      · rw [last] at member
        cases member
      · rw [List.dropLast_cons_of_ne_nil last] at member
        cases List.mem_cons.mp member with
        | inl first =>
            have more : rest.drop (width - 1) ≠ [] := by
              intro none
              rw [none, cut] at last
              exact last rfl
            have longer : width - 1 < rest.length := by
              by_contra short
              exact more (List.drop_eq_nil_of_le (by omega))
            rw [first, List.length_cons, List.length_take]
            omega
        | inr later => exact ih piece later

theorem chunks_go (size : Nat) (rest : List α) (piece : Array α) (done : Array (List α)) (some : piece.toList ≠ [])
    (fits : piece.size ≤ size) :
    List.toChunks.go size rest piece done = done.toList ++ cut size (piece.toList ++ rest) := by
  have positive : 1 ≤ size := Nat.le_trans (List.length_pos_of_ne_nil some) fits
  induction rest generalizing piece done with
  | nil => rw [List.toChunks.go, Array.toList_push, List.append_nil, cut_short size piece.toList some fits]
  | cons item rest ih =>
      rw [List.toChunks.go]
      by_cases full : piece.size = size
      · rw [if_pos (beq_iff_eq.mpr full), ih ((Array.mkEmpty size).push item) _ (by simp) positive, Array.toList_push,
          cut_append size piece.toList (item :: rest) some full, List.append_assoc]
        rfl
      · rw [if_neg (mt beq_iff_eq.mp full), ih _ _ (by simp) (by rw [Array.size_push]; omega), Array.toList_push,
          List.append_assoc]
        rfl

theorem chunks_cut (size : Nat) (positive : 0 < size) (items : List α) : chunks size items = cut size items := by
  unfold chunks
  cases items with
  | nil => rw [List.toChunks, cut]
  | cons item rest =>
      cases size with
      | zero => cases positive
      | succ size =>
          rw [List.toChunks, chunks_go (size + 1) rest #[item] #[] (by simp) (Nat.le_add_left 1 size)]
          · rfl
          · simp

end Rust
