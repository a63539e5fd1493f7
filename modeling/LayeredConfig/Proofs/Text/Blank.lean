import LayeredConfig.Text.Blank
import LayeredConfig.Text.Numeral

/-! Trimming: what is cut off a text, texts of which nothing is cut off, and texts that go on. -/
namespace LayeredConfig.Text

/-! Blanks at the ends of a text. -/

/-- Blanks alone, or nothing. -/
def Blanks (b : List Char) : Prop := ∀ c ∈ b, isBlank c = true

/-- No blank in front. -/
def Starts (s : List Char) : Prop := ∀ c ∈ s.head?, isBlank c = false

theorem starts_cons {c : Char} (h : isBlank c = false) (s : List Char) : Starts (c :: s) := by
  rintro d ⟨⟩
  exact h

theorem trimStart_of_starts {s : List Char} (h : Starts s) : trimStart s = s := by
  cases s with
  | nil => rfl
  | cons c r => rw [trimStart, List.dropWhile_cons_of_neg (by simp [h c rfl])]

theorem trimStart_blanks {b s : List Char} (hb : Blanks b) (hs : Starts s) :
    trimStart (b ++ s) = s := by
  rw [trimStart, List.dropWhile_append_of_pos hb]
  exact trimStart_of_starts hs

theorem exists_blanks (s : List Char) :
    ∃ b, Blanks b ∧ Starts (trimStart s) ∧ s = b ++ trimStart s := by
  refine ⟨s.takeWhile isBlank, fun c hc => ?_, fun c hc => ?_, List.takeWhile_append_dropWhile.symm⟩
  · exact List.all_eq_true.mp List.all_takeWhile c hc
  · have first := List.head?_dropWhile_not isBlank s
    rw [trimStart] at hc
    rwa [Option.mem_def.mp hc] at first

theorem Starts.of_prefix {s t : List Char} (h : Starts t) (front : s <+: t) : Starts s := by
  obtain ⟨r, rfl⟩ := front
  intro c hc
  obtain ⟨s, rfl⟩ := List.head?_eq_some_iff.mp (Option.mem_def.mp hc)
  exact h c rfl

/-- What is cut off the end are blanks. -/
theorem exists_trimEnd_append (s : List Char) : ∃ b, Blanks b ∧ s = trimEnd s ++ b := by
  obtain ⟨b, blanks, -, h⟩ := exists_blanks s.reverse
  refine ⟨b.reverse, fun c hc => blanks c (List.mem_reverse.mp hc), ?_⟩
  rw [trimEnd, ← trimStart, ← List.reverse_append, ← h, List.reverse_reverse]

private theorem isBlank_of_mem_getLast?_trimEnd {s : List Char} :
    ∀ c ∈ (trimEnd s).getLast?, isBlank c = false := by
  obtain ⟨-, -, starts, -⟩ := exists_blanks s.reverse
  rw [trimEnd, ← trimStart, List.getLast?_reverse]
  exact starts

/-- Where the blanks in front of a text end is determined by the whole. -/
theorem blanks_unique {b b' s s' : List Char} (hb : Blanks b) (hb' : Blanks b') (hs : Starts s)
    (hs' : Starts s') (h : b ++ s = b' ++ s') : b = b' ∧ s = s' := by
  obtain rfl : s = s' := by rw [← trimStart_blanks hb hs, h, trimStart_blanks hb' hs']
  exact ⟨List.append_cancel_right h, rfl⟩

/-! Texts without blanks at the ends. -/

/-- No blank at either end. -/
def isTrim (s : List Char) : Bool := s.head?.all (!isBlank ·) && s.getLast?.all (!isBlank ·)

theorem isTrim_iff {s : List Char} :
    isTrim s = true ↔ Starts s ∧ ∀ c ∈ s.getLast?, isBlank c = false := by
  simp [isTrim, Starts, Option.all_eq_true]

theorem trim_of_isTrim {s : List Char} (h : isTrim s = true) : trim s = s := by
  obtain ⟨first, last⟩ := isTrim_iff.mp h
  have back : Starts s.reverse := by rwa [Starts, List.head?_reverse]
  rw [trim, trimStart_of_starts first, trimEnd, ← trimStart, trimStart_of_starts back,
    List.reverse_reverse]

theorem isTrim_trim (s : List Char) : isTrim (trim s) = true := by
  obtain ⟨-, -, starts, -⟩ := exists_blanks s
  obtain ⟨b, -, h⟩ := exists_trimEnd_append (trimStart s)
  have first : Starts (trim s) := starts.of_prefix ⟨b, h.symm⟩
  have last : ∀ c ∈ (trim s).getLast?, isBlank c = false := isBlank_of_mem_getLast?_trimEnd
  exact isTrim_iff.mpr ⟨first, last⟩

/-- Trimming takes a part out of the text. -/
theorem trim_isInfix (s : List Char) : trim s <:+: s := by
  obtain ⟨b, -, -, h⟩ := exists_blanks s
  obtain ⟨b', -, h'⟩ := exists_trimEnd_append (trimStart s)
  exact ⟨b, b', by rw [trim, List.append_assoc, ← h', ← h]⟩

/-- Only the ends count. -/
theorem isTrim_of_ends {s a b : List Char} (ha : isTrim a = true) (hb : isTrim b = true)
    (first : s.head? = a.head?) (last : s.getLast? = b.getLast?) : isTrim s = true := by
  simp only [isTrim, Bool.and_eq_true] at ha hb ⊢
  exact ⟨first ▸ ha.1, last ▸ hb.2⟩

/-- Between texts that have no blank at either end anything can stand. -/
theorem isTrim_between {a b : List Char} (ha : isTrim a = true) (hb : isTrim b = true)
    (someA : a ≠ []) (someB : b ≠ []) (m : List Char) : isTrim (a ++ m ++ b) = true := by
  apply isTrim_of_ends ha hb
  · obtain ⟨c, r, rfl⟩ := List.exists_cons_of_ne_nil someA
    rfl
  · rw [List.getLast?_append]
    cases h : b.getLast? with
    | none => exact absurd (List.getLast?_eq_none_iff.mp h) someB
    | some c => rfl

theorem isTrim_append {a b : List Char} (ha : isTrim a = true) (hb : isTrim b = true) :
    isTrim (a ++ b) = true := by
  by_cases someA : a = []
  · rwa [someA, List.nil_append]
  · by_cases someB : b = []
    · rwa [someB, List.append_nil]
    · simpa using isTrim_between ha hb someA someB []

theorem isTrim_hexBytes (l : List UInt8) : isTrim (l.flatMap hexByte) = true := by
  have digit : ∀ n < 16, isBlank (hexDigit n) = false := by decide
  induction l with
  | nil => rfl
  | cons b r ih =>
    rw [List.flatMap_cons]
    refine isTrim_append ?_ ih
    have high := digit (b.toNat / 16) (by have := b.toNat_lt; omega)
    have low := digit (b.toNat % 16) (by omega)
    simp [isTrim, hexByte, high, low]

/-! Texts that go on. -/

/-- Blanks in front of a text go on into what is added to it. -/
theorem trimStart_append (s t : List Char) :
    trimStart (s ++ t) = if trimStart s = [] then trimStart t else trimStart s ++ t := by
  rw [trimStart, List.dropWhile_append]
  cases h : s.dropWhile isBlank <;> simp [trimStart, h]

theorem trim_append_blank {c : Char} (hc : isBlank c = true) (s : List Char) :
    trim (s ++ [c]) = trim s := by
  rw [trim, trim, trimStart_append]
  split
  · next none =>
    rw [none, trimStart, List.dropWhile_cons_of_pos hc]
    rfl
  · rw [trimEnd, List.reverse_concat, List.dropWhile_cons_of_pos hc, trimEnd]

/-- A character that is no blank keeps what is in front of it. -/
theorem trimEnd_cons {c : Char} (hc : isBlank c = false) (s : List Char) :
    trimEnd (c :: s) = c :: trimEnd s := by
  rw [trimEnd, List.reverse_cons, List.dropWhile_append]
  split
  · next none => simp [trimEnd, List.isEmpty_iff.mp none, hc]
  · simp [trimEnd]

end LayeredConfig.Text
