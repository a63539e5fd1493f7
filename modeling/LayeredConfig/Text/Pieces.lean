/-! Cutting a text at every separator. -/
namespace LayeredConfig.Text

/-- The texts between the separators; there is always one more of them than separators. -/
def pieces (sep : Char) : List Char → List (List Char)
  | [] => [[]]
  | c :: r =>
    if c = sep then [] :: pieces sep r
    else
      match pieces sep r with
      | p :: ps => (c :: p) :: ps
      | [] => [[c]]

/-- The text before the first separator and the text after it, when there is a separator. -/
def cutAt (sep : Char) : List Char → Option (List Char × List Char)
  | [] => none
  | c :: r => if c = sep then some ([], r) else (cutAt sep r).map fun (a, b) => (c :: a, b)

/-- What follows `front` at the start of a list. -/
def after? {α : Type} [DecidableEq α] : List α → List α → Option (List α)
  | [], s => some s
  | _ :: _, [] => none
  | a :: front, b :: s => if a = b then after? front s else none

def joined (sep : List Char) : List (List Char) → List Char
  | [] => []
  | [a] => a
  | a :: b :: r => a ++ sep ++ joined sep (b :: r)

theorem pieces_ne_nil (sep : Char) (s : List Char) : pieces sep s ≠ [] := by
  cases s with
  | nil => simp [pieces]
  | cons c r =>
    rw [pieces]
    split
    · simp
    · split <;> simp

theorem cutAt_eq_some {sep : Char} {s a b : List Char} (h : cutAt sep s = some (a, b)) :
    s = a ++ sep :: b ∧ sep ∉ a := by
  induction s generalizing a with
  | nil => simp [cutAt] at h
  | cons c r ih =>
    rw [cutAt] at h
    split at h
    · next e => obtain ⟨rfl, rfl⟩ := h; simp [e]
    · next ne =>
      obtain ⟨⟨x, y⟩, hx, he⟩ := Option.map_eq_some_iff.mp h
      obtain ⟨rfl, rfl⟩ := he
      obtain ⟨hr, hm⟩ := ih hx
      exact ⟨by rw [hr]; rfl, by simp [hm, Ne.symm ne]⟩

theorem after?_eq_some {α : Type} [DecidableEq α] {front s r : List α} :
    after? front s = some r ↔ s = front ++ r := by
  induction front generalizing s with
  | nil => simp [after?]
  | cons a front ih =>
    cases s with
    | nil => simp [after?]
    | cons b s =>
      rw [after?]
      by_cases h : a = b
      · simp [h, ih]
      · simp [h, Ne.symm h]

end LayeredConfig.Text
