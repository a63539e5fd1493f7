import LayeredConfig.Text.Lines

/-! Texts that are made of lines. Their lines are those they are made of, up to a carriage return at
the end of a line. Where the return does not count, texts are read one line after the other, however
their lines end. -/
namespace LayeredConfig.Text

/-- Lines one below the other, with or without a newline after the last one. -/
def stack (closed : Bool) : List (List Char) → List Char
  | [] => []
  | a :: r => if r = [] ∧ closed = false then a else a ++ '\n' :: stack closed r

/-- A text without newlines is one line, unless it is empty. -/
theorem lines_of_not_mem {a : List Char} (h : '\n' ∉ a) : lines a = if a = [] then [] else [a] := by
  have read (held : List Char) :
      linesAfter held a = if a = [] ∧ held = [] then [] else [held.reverse ++ a] := by
    induction a generalizing held with
    | nil => simp [linesAfter]
    | cons c r ih =>
      obtain ⟨hc, hr⟩ : '\n' ≠ c ∧ '\n' ∉ r := by simpa using h
      rw [linesAfter, if_neg (Ne.symm hc), ih hr]
      simp
  rw [lines, read []]
  simp

private theorem newline_not_mem_linesAfter {held s l : List Char} (hh : '\n' ∉ held)
    (h : l ∈ linesAfter held s) : '\n' ∉ l := by
  induction s generalizing held with
  | nil =>
    rw [linesAfter] at h
    split at h
    · cases h
    · rw [List.mem_singleton.mp h, List.mem_reverse]
      exact hh
  | cons c r ih =>
    rw [linesAfter] at h
    split at h
    · rcases List.mem_cons.mp h with rfl | h
      · unfold closeLine
        split <;> simp_all
      · exact ih List.not_mem_nil h
    · next hc => exact ih (by simp [hh, Ne.symm hc]) h

/-- No line has a newline in it. -/
theorem newline_not_mem_of_mem_lines {s l : List Char} (h : l ∈ lines s) : '\n' ∉ l :=
  newline_not_mem_linesAfter List.not_mem_nil h

/-- To finish a line is to take a carriage return from its end, if there is one. -/
theorem closeLine_reverse_cases (a : List Char) :
    closeLine a.reverse = a ∨ a = closeLine a.reverse ++ ['\r'] := by
  cases h : a.reverse with
  | nil =>
    rw [List.reverse_eq_nil_iff.mp h]
    exact .inl rfl
  | cons c r =>
    have ha : a = r.reverse ++ [c] := by rw [← a.reverse_reverse, h, List.reverse_cons]
    by_cases hc : c = '\r'
    · subst hc
      exact .inr ha
    · refine .inl ?_
      rw [closeLine.eq_2 _ fun r' e => hc (List.cons.inj e).1, ← h, List.reverse_reverse]

/-- What is read from lines one below the other is what is read from each of them, where a carriage
return at the end of a line does not count. -/
theorem filterMap_lines_stack {α : Type} {f : List Char → Option α} (empty : f [] = none)
    (closed : Bool) {ls : List (List Char)} (plain : ∀ l ∈ ls, '\n' ∉ l)
    (ending : ∀ l ∈ ls, f (closeLine l.reverse) = f l) :
    (lines (stack closed ls)).filterMap f = ls.filterMap f := by
  induction ls with
  | nil => rfl
  | cons a r ih =>
    have ⟨ha, hr⟩ := List.forall_mem_cons.mp plain
    have ⟨ea, er⟩ := List.forall_mem_cons.mp ending
    rw [stack]
    split
    · next last =>
      rw [last.1, lines_of_not_mem ha]
      split
      · next none => rw [none, List.filterMap_nil, List.filterMap_cons_none empty, List.filterMap_nil]
      · rfl
    · rw [lines_append_newline a _ ha, List.filterMap_cons, List.filterMap_cons, ea, ih hr er]

/-- A text with a carriage return in front of each newline. -/
def withReturns (s : List Char) : List Char :=
  s.flatMap fun c => if c = '\n' then ['\r', '\n'] else [c]

section Reading

variable {α : Type} {f : List Char → Option α} (ending : ∀ l, f (closeLine l.reverse) = f l)
include ending

private theorem read_closeLine (held : List Char) : f (closeLine held) = f held.reverse := by
  rw [← ending held.reverse, held.reverse_reverse]

/-- What is read from a text that goes on in a new line is what is read from both parts. -/
theorem filterMap_lines_append (empty : f [] = none) (a b : List Char) :
    (lines (a ++ '\n' :: b)).filterMap f = (lines a).filterMap f ++ (lines b).filterMap f := by
  have after (held : List Char) : (linesAfter held (a ++ '\n' :: b)).filterMap f =
      (linesAfter held a).filterMap f ++ (lines b).filterMap f := by
    induction a generalizing held with
    | nil =>
      have closed : linesAfter held ('\n' :: b) = closeLine held :: lines b := rfl
      rw [List.nil_append, closed, List.filterMap_cons, read_closeLine ending]
      cases held with
      | nil =>
        rw [List.reverse_nil, empty]
        rfl
      | cons c r =>
        have last : linesAfter (c :: r) [] = [(c :: r).reverse] := rfl
        rw [last, ← List.filterMap_cons, ← List.filterMap_append, List.singleton_append]
    | cons c r ih =>
      rw [List.cons_append, linesAfter, linesAfter]
      split
      · rw [List.filterMap_cons, List.filterMap_cons, ih]
        split <;> rfl
      · exact ih (c :: held)
  exact after []

theorem filterMap_lines_withReturns (s : List Char) :
    (lines (withReturns s)).filterMap f = (lines s).filterMap f := by
  have after (held : List Char) :
      (linesAfter held (withReturns s)).filterMap f = (linesAfter held s).filterMap f := by
    induction s generalizing held with
    | nil => rfl
    | cons c r ih =>
      rw [withReturns, List.flatMap_cons, ← withReturns]
      by_cases hc : c = '\n'
      · subst hc
        -- The return is taken off again with the newline.
        have returned : linesAfter held ('\r' :: '\n' :: withReturns r) =
            held.reverse :: linesAfter [] (withReturns r) := rfl
        rw [if_pos rfl, linesAfter, if_pos rfl, List.cons_append, List.singleton_append, returned,
          List.filterMap_cons, List.filterMap_cons, read_closeLine ending, ih]
      · rw [if_neg hc, List.singleton_append, linesAfter, linesAfter, if_neg hc, if_neg hc, ih]
  exact after []

end Reading

end LayeredConfig.Text
