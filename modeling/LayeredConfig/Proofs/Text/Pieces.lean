import LayeredConfig.Text.Pieces

/-! Cutting a text at separators: where it is cut depends on the separators alone. -/
namespace LayeredConfig.Text

variable {sep : Char} {a s : List Char}

theorem pieces_eq_splitOn (sep : Char) (s : List Char) : pieces sep s = s.splitOn sep := by
  induction s with
  | nil => rfl
  | cons c r ih =>
    rw [pieces, List.splitOn_cons_eq_if_modifyHead, ih]
    by_cases h : c = sep
    · simp [h]
    · have hr : r.splitOn sep ≠ [] := List.splitOn_ne_nil sep r
      obtain ⟨p, ps, hp⟩ := List.exists_cons_of_ne_nil hr
      simp [h, hp]

/-- No piece holds a separator. -/
theorem not_mem_of_mem_pieces {p : List Char} (h : p ∈ pieces sep s) : sep ∉ p := by
  induction s generalizing p with
  | nil =>
    obtain rfl := List.mem_singleton.mp h
    exact List.not_mem_nil
  | cons c r ih =>
    obtain ⟨q, qs, hq⟩ := List.exists_cons_of_ne_nil (pieces_ne_nil sep r)
    rw [hq] at ih
    simp only [pieces, hq] at h
    split at h
    · rcases List.mem_cons.mp h with rfl | h
      · exact List.not_mem_nil
      · exact ih h
    · next ne =>
      rcases List.mem_cons.mp h with rfl | h
      · simp [Ne.symm ne, ih List.mem_cons_self]
      · exact ih (List.mem_cons_of_mem q h)

theorem pieces_append (h : sep ∉ a) (s : List Char) {p : List Char} {ps : List (List Char)}
    (hp : pieces sep s = p :: ps) : pieces sep (a ++ s) = (a ++ p) :: ps := by
  induction a with
  | nil => exact hp
  | cons c r ih =>
    have ⟨hc, hr⟩ : sep ≠ c ∧ sep ∉ r := by simpa using h
    rw [List.cons_append, pieces, if_neg (Ne.symm hc), ih hr]
    rfl

theorem cutAt_append (h : sep ∉ a) (b : List Char) : cutAt sep (a ++ sep :: b) = some (a, b) := by
  induction a with
  | nil => rw [List.nil_append, cutAt, if_pos rfl]
  | cons c r ih =>
    obtain ⟨hc, hr⟩ : sep ≠ c ∧ sep ∉ r := by simpa using h
    rw [List.cons_append, cutAt, if_neg (Ne.symm hc), ih hr]
    rfl

theorem cutAt_of_not_mem (h : sep ∉ s) : cutAt sep s = none := by
  cases hc : cutAt sep s with
  | none => rfl
  | some ab =>
    obtain ⟨a, b⟩ := ab
    rw [(cutAt_eq_some hc).1] at h
    exact absurd (List.mem_append_right a List.mem_cons_self) h

end LayeredConfig.Text
