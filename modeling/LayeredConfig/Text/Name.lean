/-! Names of variables. -/
namespace LayeredConfig.Text

def isNameStart (c : Char) : Bool := c.isAlpha || c == '_'

def isNamePart (c : Char) : Bool := c.isAlphanum || c == '_'

/-- The longest name in front of a text, empty when there is none, and what follows it. -/
def splitName : List Char → List Char × List Char
  | [] => ([], [])
  | c :: r =>
    if isNameStart c then (c :: r.takeWhile isNamePart, r.dropWhile isNamePart) else ([], c :: r)

/-- A name is a letter or underscore, followed by letters, digits and underscores. -/
def IsName : List Char → Prop
  | [] => False
  | c :: r => isNameStart c = true ∧ ∀ d ∈ r, isNamePart d = true

theorem splitName_append (s : List Char) : (splitName s).1 ++ (splitName s).2 = s := by
  cases s with
  | nil => rfl
  | cons c r =>
    rw [splitName]
    split <;> simp [List.takeWhile_append_dropWhile]

theorem isName_of_splitName {s : List Char} (h : (splitName s).1 ≠ []) :
    IsName (splitName s).1 := by
  cases s with
  | nil => exact absurd rfl h
  | cons c r =>
    rw [splitName] at h ⊢
    split at h
    · next hc =>
      rw [if_pos hc]
      exact ⟨hc, fun d hd => by simpa using List.all_eq_true.mp (List.all_takeWhile) d hd⟩
    · exact absurd rfl h

end LayeredConfig.Text
