/-! Tables of code points, written as ranges. -/
namespace LayeredConfig.Text

/-- Inclusive ranges of code points. -/
abbrev CodeRanges := List (Nat × Nat)

def CodeRanges.holds (t : CodeRanges) (c : Char) : Bool :=
  t.any fun (lo, hi) => lo ≤ c.toNat && c.toNat ≤ hi

/-- Every `step`-th code point from `first` to `last` moves by `offset`. -/
structure Shift where
  first : Nat
  last : Nat
  step : Nat
  offset : Int

/-- The code point `n` is one of those the rule moves. -/
def Shift.covers (r : Shift) (n : Nat) : Bool :=
  r.first ≤ n && n ≤ r.last && (n - r.first) % r.step == 0

/-- The first rule that covers a character moves it; all other characters stay. -/
def shiftBy (t : List Shift) (c : Char) : Char :=
  match t.find? (·.covers c.toNat) with
  | some r => Char.ofNat (c.toNat + r.offset).toNat
  | none => c

end LayeredConfig.Text
