import LayeredConfig.Proofs.EnvFile.Quoted

/-! Comments behind assignments. Whether the value is in quotes, bare or in quotes that are not
closed, a comment behind it does not change it. Where there is no value the comment is taken for
one. -/
namespace LayeredConfig.EnvFile
open Text

variable {s c : List Char}

/-- A comment behind a value does not change it. -/
theorem readValue_append_comment (some : s ≠ []) (double : '"' ∉ c) (single : '\'' ∉ c) :
    readValue (s ++ ' ' :: '#' :: c) = readValue s :=
  readValue_append (c := ' ') rfl (fun _ => rfl) rfl (by simpa using double)
    (by simpa using single) some

/-- Nothing but blanks stands behind the equals sign of a line. -/
def assignsNothing (line : List Char) : Bool := (Assignment.ofLine? line).any (·.rest.isEmpty)

/-- The sign of a comment in front of a text keeps the text. -/
theorem readValue_sign (c : List Char) :
    readValue ('#' :: c) = '#' :: trimEnd (cutComment false c) := by
  have start (s : List Char) : trimStart ('#' :: s) = '#' :: s := rfl
  rw [readValue.eq_3 _ (by simp) (by simp), readBare, cutComment, if_neg (by simp), trim, start,
    trimEnd_cons rfl]
  rfl

/-- A comment behind an assignment, after a blank, changes nothing if there is a value, wherever
the line stands. If there is none, the comment with its sign becomes the value, up to a comment in
it. -/
theorem entry?_append_comment {line c : List Char} {k v : String} (read : entry? line = some (k, v))
    (double : '"' ∉ c) (single : '\'' ∉ c) :
    (assignsNothing line = false →
      entry? (line ++ ' ' :: '#' :: c) = some (k, v) ∧
      ∀ (t t' : String) (before after : List (List Char)),
        Text.lines t.toList = before ++ line :: after →
        Text.lines t'.toList = before ++ (line ++ ' ' :: '#' :: c) :: after →
          parse t' = parse t) ∧
    (assignsNothing line = true → v = "" ∧
      entry? (line ++ ' ' :: '#' :: c) =
        some (k, String.ofList ('#' :: trimEnd (cutComment false c)))) := by
  obtain ⟨a, ha, e⟩ := Option.map_eq_some_iff.mp read
  cases e
  have extended : entry? (line ++ ' ' :: '#' :: c) =
      some (a.key, String.ofList (readValue (a.extended (' ' :: '#' :: c)).rest)) := by
    unfold entry?
    rw [ofLine?_append ha, Option.map_some]
    rfl
  rw [assignsNothing, ha, Option.any_some]
  rw [Assignment.extended] at extended
  dsimp only at extended
  refine ⟨fun value => ?_, fun none => ?_⟩
  · have value : a.rest ≠ [] := by simpa using value
    rw [if_neg value, readValue_append_comment value double single] at extended
    refine ⟨extended, fun t t' before after ht ht' => ?_⟩
    rw [parse, parse, ht, ht', List.filterMap_append, List.filterMap_append,
      List.filterMap_cons_some extended, List.filterMap_cons_some read]
  · have empty : a.rest = [] := by simpa using none
    rw [empty, if_pos rfl] at extended
    rw [extended, empty]
    exact ⟨rfl, congrArg (fun w => some (a.key, String.ofList w)) (readValue_sign c)⟩

/-- Behind quotes that are not closed, the comment is not part of the value. -/
theorem entry?_append_comment_unclosed :
    let line := "export K = \"it\\".toList
    let c := " is K=1 #".toList
    entry? line = some ("K", "\"it\\") ∧ '"' ∉ c ∧ '\'' ∉ c ∧ assignsNothing line = false ∧
      entry? (line ++ ' ' :: '#' :: c) = some ("K", "\"it\\") := by
  intro line c
  have read : entry? line = some ("K", "\"it\\") := by decide +kernel
  have double : '"' ∉ c := by decide
  have single : '\'' ∉ c := by decide
  have value : assignsNothing line = false := by decide +kernel
  exact ⟨read, double, single, value, ((entry?_append_comment read double single).1 value).1⟩

/-- A comment is taken for the value where there is none. -/
theorem comment_becomes_value :
    (parse "K=").entries = [("K", "")] ∧ (parse "K= #c").entries = [("K", "#c")] := by
  decide +kernel

end LayeredConfig.EnvFile
