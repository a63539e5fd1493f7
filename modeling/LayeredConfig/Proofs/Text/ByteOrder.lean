import LayeredConfig.KeyMap

/-! Texts in the order of their characters are in the order of their UTF-8 bytes as well. -/
namespace LayeredConfig.Text

def bytes (s : String) : List UInt8 := s.toList.flatMap String.utf8EncodeChar

private theorem byte_cons_lt {a b : Nat} (ha : a < 256) (hb : b < 256) (l m : List UInt8) :
    UInt8.ofNat a :: l < UInt8.ofNat b :: m ↔ a < b ∨ a = b ∧ l < m := by
  have value {n : Nat} (hn : n < 256) : (UInt8.ofNat n).toNat = n := by simpa using hn
  rw [List.cons_lt_cons_iff, UInt8.lt_iff_toNat_lt, ← UInt8.toNat_inj, value ha, value hb]

/-- The bytes of two characters differ in a place that both have. -/
theorem encodeChar_lt {c d : Char} (h : c < d) (l m : List UInt8) :
    String.utf8EncodeChar c ++ l < String.utf8EncodeChar d ++ m := by
  have less : c.val.toNat < d.val.toNat := h
  have last : d.val.toNat < 0x110000 := by
    have valid := d.valid
    simp only [UInt32.isValidChar, Nat.isValidChar] at valid
    omega
  unfold String.utf8EncodeChar
  dsimp only
  generalize c.val.toNat = a at less
  generalize d.val.toNat = b at less last
  -- What omega needs to know of the digits to the base of 64.
  have digits (n : Nat) (hn : n < 0x110000) : n / 64 / 64 = n / 4096 ∧
      n / 4096 / 64 = n / 262144 ∧ n / 262144 % 8 = n / 262144 := by omega
  have first := digits a (Nat.lt_trans less last)
  have second := digits b last
  repeat' split
  all_goals
    simp (disch := omega) only [List.cons_append, byte_cons_lt]
    omega

private theorem append_lt_append_iff (a l m : List UInt8) : a ++ l < a ++ m ↔ l < m := by
  induction a with
  | nil => rfl
  | cons x a ih => simp [ih]

/-- Two texts stand in the order of their bytes. -/
theorem lt_iff_bytes_lt (s t : String) : s < t ↔ bytes s < bytes t := by
  rw [String.lt_iff, bytes, bytes]
  generalize s.toList = l
  generalize t.toList = m
  induction l generalizing m with
  | nil =>
    cases m with
    | nil => simp
    | cons d m =>
      obtain ⟨b, r, hb⟩ := List.exists_cons_of_ne_nil (String.utf8EncodeChar_ne_nil (c := d))
      rw [List.flatMap_nil, List.flatMap_cons, hb]
      exact iff_of_true (List.nil_lt_cons d m) (List.nil_lt_cons b _)
  | cons c l ih =>
    cases m with
    | nil => simp
    | cons d m =>
      rw [List.flatMap_cons, List.flatMap_cons, List.cons_lt_cons_iff]
      by_cases less : c < d
      · exact iff_of_true (.inl less) (encodeChar_lt less _ _)
      · by_cases more : d < c
        · refine iff_of_false ?_ (List.lt_asymm (encodeChar_lt more _ _))
          rintro (h | ⟨rfl, -⟩)
          · exact less h
          · exact less more
        · obtain rfl : c = d := Char.le_antisymm (Char.not_lt.mp more) (Char.not_lt.mp less)
          rw [append_lt_append_iff, ← ih]
          exact ⟨fun h => (h.resolve_left less).2, fun h => .inr ⟨rfl, h⟩⟩

theorem le_iff_bytes_le (s t : String) : s ≤ t ↔ bytes s ≤ bytes t := by
  rw [← String.not_lt, ← List.not_lt, lt_iff_bytes_lt]

end LayeredConfig.Text
