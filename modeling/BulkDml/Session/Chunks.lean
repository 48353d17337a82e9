
namespace BulkDml

def chunks {α : Type} (size : Nat) : List α → List (List α)
  | [] => []
  | x :: rest => (x :: rest.take (size - 1)) :: chunks size (rest.drop (size - 1))
termination_by xs => xs.length
decreasing_by simp only [List.length_drop, List.length_cons]; omega

variable {α : Type}

theorem flatten_chunks (size : Nat) (xs : List α) : (chunks size xs).flatten = xs := by
  fun_induction chunks size xs with
  | case1 => rfl
  | case2 x rest ih => simp [ih]

theorem mem_of_mem_chunks {size : Nat} {xs piece : List α} (cut : piece ∈ chunks size xs) {x : α}
    (member : x ∈ piece) : x ∈ xs := by
  rw [← flatten_chunks size xs]
  exact List.mem_flatten.mpr ⟨piece, cut, member⟩

theorem chunks_map {β : Type} (f : α → β) (size : Nat) (xs : List α) :
    chunks size (xs.map f) = (chunks size xs).map (List.map f) := by
  fun_induction chunks size xs with
  | case1 => simp [chunks]
  | case2 x rest ih =>
    rw [List.map_cons, chunks, List.map_cons, List.map_cons, List.map_take, ← List.map_drop, ih]

theorem ne_nil_of_mem_chunks {size : Nat} {xs piece : List α} (member : piece ∈ chunks size xs) :
    piece ≠ [] := by
  fun_induction chunks size xs with
  | case1 => simp at member
  | case2 x rest ih =>
    rcases List.mem_cons.mp member with rfl | later
    · simp
    · exact ih later

theorem length_le_of_mem_chunks {size : Nat} (positive : 0 < size) {xs piece : List α}
    (member : piece ∈ chunks size xs) : piece.length ≤ size := by
  fun_induction chunks size xs with
  | case1 => simp at member
  | case2 x rest ih =>
    rcases List.mem_cons.mp member with rfl | later
    · simp only [List.length_cons, List.length_take]
      omega
    · exact ih later

theorem length_eq_of_mem_dropLast_chunks {size : Nat} (positive : 0 < size) {xs piece : List α}
    (member : piece ∈ (chunks size xs).dropLast) : piece.length = size := by
  fun_induction chunks size xs with
  | case1 => simp at member
  | case2 x rest ih =>
    by_cases last : rest.drop (size - 1) = []
    · simp [last, chunks] at member
    · have long : size - 1 < rest.length := by
        have := List.length_pos_iff.mpr last
        rw [List.length_drop] at this
        omega
      have more : chunks size (rest.drop (size - 1)) ≠ [] := by
        intro none
        have := flatten_chunks size (rest.drop (size - 1))
        rw [none] at this
        exact last this.symm
      rw [List.dropLast_cons_of_ne_nil more] at member
      rcases List.mem_cons.mp member with rfl | later
      · simp only [List.length_cons, List.length_take]
        omega
      · exact ih later

theorem length_chunks {size : Nat} (positive : 0 < size) (xs : List α) :
    (chunks size xs).length = (xs.length + size - 1) / size := by
  fun_induction chunks size xs with
  | case1 =>
    rw [List.length_nil, List.length_nil, Nat.zero_add]
    exact (Nat.div_eq_of_lt (Nat.sub_lt positive Nat.one_pos)).symm
  | case2 x rest ih =>
    have shift : (x :: rest).length + size - 1 = rest.length + size := by
      rw [List.length_cons]
      omega
    rw [List.length_cons, ih, List.length_drop, shift, Nat.add_div_right _ positive]
    -- The first piece is the whole list, or what is left counts as a list of its own.
    by_cases last : rest.length < size
    · rw [Nat.div_eq_of_lt last, Nat.div_eq_of_lt (by omega)]
    · have left : rest.length - (size - 1) + size - 1 = rest.length := by omega
      rw [left]

end BulkDml
