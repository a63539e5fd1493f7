import LayeredConfig.Proofs.Text.Blank
import LayeredConfig.Text.Name

/-! Names in front of a text: where they end, and that no blank is in them. -/
namespace LayeredConfig.Text

private theorem isNamePart_of_isNameStart {c : Char} (h : isNameStart c = true) :
    isNamePart c = true := by
  rw [isNameStart, Bool.or_eq_true] at h
  rw [isNamePart, Bool.or_eq_true]
  exact h.imp (fun letter => Bool.or_eq_true_iff.mpr (.inl letter)) id

namespace IsName

variable {s : List Char}

/-- A name is not empty, and all its characters can stand in names. -/
theorem ne_nil (h : IsName s) : s ≠ [] := by
  rintro rfl
  exact h

theorem isNamePart (h : IsName s) : ∀ c ∈ s, isNamePart c = true := by
  cases s with
  | nil => exact h.elim
  | cons a r =>
    intro c hc
    rcases List.mem_cons.mp hc with rfl | hc
    · exact isNamePart_of_isNameStart h.1
    · exact h.2 c hc

theorem newline_not_mem (h : IsName s) : '\n' ∉ s := by
  intro newline
  cases h.isNamePart '\n' newline

end IsName

/-- A text goes on from a name with something that is not part of it. -/
def EndsName (r : List Char) : Prop := ∀ c ∈ r.head?, isNamePart c = false

/-- A name is split off where it ends. -/
theorem splitName_of_isName {n r : List Char} (h : IsName n) (ends : EndsName r) :
    splitName (n ++ r) = (n, r) := by
  cases n with
  | nil => exact h.elim
  | cons c n =>
    rw [List.cons_append, splitName, if_pos h.1]
    have front : (n ++ r).takeWhile isNamePart = n := by
      rw [List.takeWhile_append_of_pos h.2]
      cases r with
      | nil => simp
      | cons d r => simp [ends d rfl]
    have back : (n ++ r).dropWhile isNamePart = r := by
      rw [List.dropWhile_append_of_pos h.2]
      cases r with
      | nil => rfl
      | cons d r => simp [ends d rfl]
    rw [front, back]

/-- Where a name in front of a text ends is determined by the whole. -/
theorem name_unique {n n' r r' : List Char} (hn : IsName n) (hn' : IsName n') (hr : EndsName r)
    (hr' : EndsName r') (h : n ++ r = n' ++ r') : n = n' ∧ r = r' := by
  rw [← Prod.mk.injEq, ← splitName_of_isName hn hr, h, splitName_of_isName hn' hr']

theorem endsName_splitName {s : List Char} (h : (splitName s).1 ≠ []) :
    EndsName (splitName s).2 := by
  cases s with
  | nil => exact absurd rfl h
  | cons c r =>
    rw [splitName] at h ⊢
    split at h
    · next hc =>
      rw [if_pos hc]
      intro d hd
      have first := List.head?_dropWhile_not isNamePart r
      rwa [Option.mem_def.mp hd] at first
    · exact absurd rfl h

theorem splitName_eq_nil_iff {s : List Char} :
    (splitName s).1 = [] ↔ ∀ c ∈ s.head?, isNameStart c = false := by
  cases s with
  | nil => simp [splitName]
  | cons c r =>
    rw [splitName]
    split
    · next hc => simp [hc]
    · next hc => simpa using hc

theorem isNamePart_of_isBlank {c : Char} (h : isBlank c = true) : isNamePart c = false := by
  simp only [isBlank, Bool.or_eq_true, Bool.and_eq_true, decide_eq_true_eq, beq_iff_eq] at h
  apply Bool.eq_false_iff.mpr
  intro hp
  change (decide (65 ≤ c.val ∧ c.val ≤ 90) || (decide (97 ≤ c.val) && decide (c.val ≤ 122)) ||
    (decide (48 ≤ c.val) && decide (c.val ≤ 57)) || c == '_') = true at hp
  simp only [Bool.or_eq_true, Bool.and_eq_true, decide_eq_true_eq, beq_iff_eq,
    UInt32.le_iff_toNat_le] at hp
  change ((((65 ≤ c.toNat ∧ c.toNat ≤ 90) ∨ (97 ≤ c.toNat ∧ c.toNat ≤ 122)) ∨
    (48 ≤ c.toNat ∧ c.toNat ≤ 57)) ∨ c = '_') at hp
  rcases hp with letter | rfl
  · omega
  · revert h
    decide

theorem isBlank_of_isNamePart {c : Char} (h : isNamePart c = true) : isBlank c = false := by
  apply Bool.eq_false_iff.mpr
  intro blank
  rw [isNamePart_of_isBlank blank] at h
  cases h

theorem starts_of_isName {n : List Char} (h : IsName n) (s : List Char) : Starts (n ++ s) := by
  obtain ⟨c, r, rfl⟩ := List.exists_cons_of_ne_nil h.ne_nil
  exact starts_cons (isBlank_of_isNamePart (h.isNamePart c List.mem_cons_self)) _

end LayeredConfig.Text
