import LayeredConfig.Proofs.Reference.Expansion

/-! The variables that the references in a text are to. A text is expanded alike wherever these have
the same values; their names are proper ones. -/
namespace LayeredConfig.Reference
open Text

variable {look look' : String → Option String} {t : Token} {raw : String}

/-- A token is a reference to the variable `n`. What stands behind an operator is no part of the
reference. -/
inductive Mentions : Token → List Char → Prop where
  | bare (n : List Char) : Mentions (.bare n) n
  | value {n : List Char} (name : IsName n) : Mentions (.braced n) n
  | operator {n : List Char} (name : IsName n) (op : Char) (d : List Char)
    (operator : op = '-' ∨ op = '?') : Mentions (.braced (n ++ ':' :: op :: d)) n

/-- In braces, the reference is to the name that stands first. -/
theorem Mentions.eq_splitName {e n : List Char} (h : Mentions (.braced e) n) :
    n = (splitName e).1 := by
  generalize ht : Token.braced e = t at h
  cases h with
  | bare n => cases ht
  | value name =>
    cases ht
    have split := splitName_of_isName (r := []) name (by rintro c ⟨⟩)
    rw [List.append_nil] at split
    rw [split]
  | operator name op d _ =>
    cases ht
    rw [splitName_operator name]

/-- Two ways to look up variables give the same for those that the references in a text are to. -/
def SameIn (raw : String) (look look' : String → Option String) : Prop :=
  ∀ t ∈ tokens raw.toList, ∀ n, Mentions t n → look (String.ofList n) = look' (String.ofList n)

private theorem expand_congr
    (h : ∀ n, Mentions t n → look (String.ofList n) = look' (String.ofList n)) :
    expand look t = expand look' t := by
  cases t with
  | plain c => rfl
  | bare n => rw [expand, expand, h n (.bare n)]
  | braced e =>
    by_cases known : Known e
    · obtain ⟨n, name, rfl | ⟨d, rfl | rfl⟩⟩ := known
      · simp only [expand, ofExpr_name name, h e (.value name)]
      · simp only [expand, ofExpr_default name, h n (.operator name '-' d (.inl rfl))]
      · simp only [expand, ofExpr_demand name, h n (.operator name '?' d (.inr rfl))]
    · simp only [expand, ofExpr_of_not_known known]

private theorem mapM_congr {α β ε : Type} {f g : α → Except ε β} {l : List α}
    (h : ∀ a ∈ l, f a = g a) : l.mapM f = l.mapM g := by
  induction l with
  | nil => rfl
  | cons a r ih =>
    rw [List.mapM_cons, List.mapM_cons, h a List.mem_cons_self,
      ih fun b hb => h b (List.mem_cons_of_mem a hb)]

/-- A text is expanded alike where its references find the same. -/
theorem interpolate_congr (h : SameIn raw look look') :
    interpolate look raw = interpolate look' raw := by
  rw [interpolate, interpolate, mapM_congr fun t ht => expand_congr (h t ht)]

/-- References are to proper names. -/
theorem Mentions.isName {s n : List Char} (h : t ∈ tokens s) (m : Mentions t n) : IsName n := by
  have split := splits_iff.mpr (rfl : tokens s = tokens s)
  generalize tokens s = ts at h split
  induction split with
  | done => cases h
  | plain _ _ ih =>
    rcases List.mem_cons.mp h with rfl | h
    · cases m
    · exact ih h
  | lone _ _ ih =>
    rcases List.mem_cons.mp h with rfl | h
    · cases m
    · exact ih h
  | bare name _ _ ih =>
    rcases List.mem_cons.mp h with rfl | h
    · cases m
      exact name
    · exact ih h
  | braced _ _ ih =>
    rcases List.mem_cons.mp h with rfl | h
    · cases m with
      | value name => exact name
      | operator name => exact name
    · exact ih h

end LayeredConfig.Reference
