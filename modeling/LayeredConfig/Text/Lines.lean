/-! Cutting a text into lines. -/
namespace LayeredConfig.Text

/-- A finished line loses one carriage return at its end; `held` is the line read backwards. -/
def closeLine (held : List Char) : List Char :=
  match held with
  | '\r' :: r => r.reverse
  | _ => held.reverse

/-- The lines of `s` when `held` (backwards) has been read of the first one. -/
def linesAfter (held : List Char) : List Char → List (List Char)
  | [] => if held.isEmpty then [] else [held.reverse]
  | c :: r => if c = '\n' then closeLine held :: linesAfter [] r else linesAfter (c :: held) r

/-- Lines end with a newline, or a carriage return and a newline. A last line without a newline
keeps its carriage return, and no empty line follows a final newline. -/
def lines (s : List Char) : List (List Char) := linesAfter [] s

@[simp] theorem lines_nil : lines [] = [] := rfl

private theorem linesAfter_append (held a b : List Char) (h : '\n' ∉ a) :
    linesAfter held (a ++ '\n' :: b) = closeLine (a.reverse ++ held) :: linesAfter [] b := by
  induction a generalizing held with
  | nil => simp [linesAfter]
  | cons c r ih =>
    have hc : c ≠ '\n' := fun e => h (by simp [e])
    rw [List.cons_append, linesAfter, if_neg hc, ih (c :: held) (fun m => h (by simp [m]))]
    simp

/-- The first newline ends the first line, and the rest is read on its own. -/
theorem lines_append_newline (a b : List Char) (h : '\n' ∉ a) :
    lines (a ++ '\n' :: b) = closeLine a.reverse :: lines b := by
  simpa [lines] using linesAfter_append [] a b h

end LayeredConfig.Text
