import LayeredConfig.EnvFile.Assignment
import LayeredConfig.Proofs.Text.Blank
import LayeredConfig.Proofs.Text.Name

/-! The form of lines that assign something. Such a line can be read in one way only, and what is
added at its end is added to what it assigns. -/
namespace LayeredConfig.EnvFile
open Text

variable {s line : List Char} {a : Assignment}

theorem endsName_of_sign {r v : List Char} (h : trimStart r = '=' :: v) : EndsName r := by
  cases r with
  | nil => cases h
  | cons c r =>
    rintro d ⟨⟩
    by_cases hc : isBlank c = true
    · exact isNamePart_of_isBlank hc
    · rw [trimStart, List.dropWhile_cons_of_neg hc] at h
      rw [(List.cons.inj h).1]
      rfl

/-- An assignment is a name, an equals sign and any text, with blanks around the sign. -/
theorem keyed?_eq_some_iff : keyed? s = some a ↔
    ∃ n r v, s = n ++ r ∧ IsName n ∧ trimStart r = '=' :: v ∧
      a = ⟨String.ofList n, trimStart v⟩ := by
  constructor
  · intro h
    have name := isName_of_splitName (s := s)
    have whole := splitName_append s
    unfold keyed? at h
    split at h
    · cases h
    · next n r some hs =>
      rw [hs] at name whole
      split at h
      · next v hv => exact ⟨n, r, v, whole.symm, name some, hv, (Option.some.inj h).symm⟩
      · cases h
  · rintro ⟨n, r, v, rfl, name, hr, rfl⟩
    rw [keyed?, splitName_of_isName name (endsName_of_sign hr)]
    obtain ⟨c, n, rfl⟩ := List.exists_cons_of_ne_nil name.ne_nil
    dsimp only
    rw [hr]
    rfl

theorem exported?_eq_some_iff : exported? s = some a ↔
    ∃ c r, s = ['e', 'x', 'p', 'o', 'r', 't'] ++ c :: r ∧ isBlank c = true ∧
      keyed? (trimStart r) = some a := by
  constructor
  · intro h
    unfold exported? at h
    split at h
    · next c r =>
      split at h
      · next blank => exact ⟨c, r, rfl, blank, h⟩
      · cases h
    · cases h
  · rintro ⟨c, r, rfl, blank, h⟩
    rw [← h]
    exact if_pos blank

/-- A text starts with an assignment or with the word `export` and one, never with both. -/
theorem exported?_of_keyed? (h : keyed? s = some a) : exported? s = none := by
  obtain ⟨n, r, v, rfl, name, hr, -⟩ := keyed?_eq_some_iff.mp h
  rw [Option.eq_none_iff_forall_ne_some]
  intro b hb
  obtain ⟨c, r', e, blank, hk⟩ := exported?_eq_some_iff.mp hb
  -- The longest name in front is the word, so that no name follows it.
  have word : IsName ['e', 'x', 'p', 'o', 'r', 't'] := ⟨rfl, List.all_eq_true.mp rfl⟩
  have ends : EndsName (c :: r') := by
    rintro d ⟨⟩
    exact isNamePart_of_isBlank blank
  have split := splitName_of_isName name (endsName_of_sign hr)
  rw [e, splitName_of_isName word ends] at split
  obtain rfl : c :: r' = r := congrArg Prod.snd split
  rw [trimStart, List.dropWhile_cons_of_pos blank] at hr
  rw [trimStart, hr] at hk
  cases hk

/-- An assignment whose line goes on with more text. -/
def Assignment.extended (a : Assignment) (t : List Char) : Assignment :=
  { a with rest := if a.rest = [] then trimStart t else a.rest ++ t }

private theorem keyed?_append (h : keyed? s = some a) (t : List Char) :
    keyed? (s ++ t) = some (a.extended t) := by
  obtain ⟨n, r, v, rfl, name, hr, rfl⟩ := keyed?_eq_some_iff.mp h
  refine keyed?_eq_some_iff.mpr ⟨n, r ++ t, v ++ t, List.append_assoc n r t, name, ?_, ?_⟩
  · rw [trimStart_append, hr]
    rfl
  · rw [trimStart_append]
    rfl

private theorem exported?_append (h : exported? s = some a) (t : List Char) :
    exported? (s ++ t) = some (a.extended t) := by
  obtain ⟨c, r, rfl, blank, hk⟩ := exported?_eq_some_iff.mp h
  refine exported?_eq_some_iff.mpr ⟨c, r ++ t, by simp, blank, ?_⟩
  have there : trimStart r ≠ [] := by
    intro none
    rw [none] at hk
    cases hk
  rw [trimStart_append, if_neg there]
  exact keyed?_append hk t

/-- A line with an assignment can go on with any text. -/
theorem ofLine?_append (h : Assignment.ofLine? line = some a) (t : List Char) :
    Assignment.ofLine? (line ++ t) = some (a.extended t) := by
  have there : trimStart line ≠ [] := by
    intro none
    rw [Assignment.ofLine?, none] at h
    cases h
  rw [Assignment.ofLine?, trimStart_append, if_neg there]
  rcases Option.or_eq_some_iff.mp h with h | ⟨-, h⟩
  · rw [exported?_append h, Option.some_or]
  · rw [exported?_of_keyed? (keyed?_append h t), keyed?_append h, Option.none_or]

end LayeredConfig.EnvFile
