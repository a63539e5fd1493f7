import LayeredConfig.Proofs.EnvFile.Comments
import LayeredConfig.Proofs.EnvFile.Grammar

/-! Values without quotes. What is left of them without a comment and the blanks at the ends is in a
normal form that is read as it stands. In particular no quotes enclose it: with what was cut off
behind them, they would have enclosed the whole. -/
namespace LayeredConfig.EnvFile
open Text

/-- No sign of a comment follows a blank. -/
def Commentless (s : List Char) : Prop := ∀ a c b, s = a ++ c :: '#' :: b → isBlank c = false

/-- No blank at either end, and no sign of a comment behind a blank. -/
def Normal (v : List Char) : Prop := isTrim v = true ∧ Commentless v

/-- The text of a value has no quote in front, or one that is not closed, or something other than
blanks and a comment behind the closed quotes. -/
def IsBare (s : List Char) : Prop :=
  ∀ q r, s = q :: r → q = '"' ∨ q = '\'' →
    ∀ inner after, untilQuote q r = some (inner, after) → endsValue after = false

/-- A line assigns a value without quotes. -/
def IsBareLine (line : List Char) : Prop :=
  ∃ a, Assignment.ofLine? line = some a ∧ IsBare a.rest

variable {s t v : List Char}

/-! Comments are cut off once. -/

private theorem Commentless.of_isInfix (h : Commentless t) (part : s <:+: t) :
    Commentless s := by
  obtain ⟨front, back, rfl⟩ := part
  rintro a c b rfl
  exact h (front ++ a) c (b ++ back) (by simp)

/-- A text that goes on without a sign directly behind a blank. -/
theorem commentless_cons {c : Char} (h : Commentless s)
    (first : isBlank c = true → s.head? ≠ some '#') : Commentless (c :: s) := by
  rintro (_ | ⟨d, a⟩) e b split
  · obtain ⟨rfl, rfl⟩ := List.cons.inj split
    exact Bool.eq_false_iff.mpr fun blank => first blank rfl
  · exact h a e b (List.cons.inj split).2

/-- A cut leaves nothing to cut. -/
theorem commentless_cutComment (afterBlank : Bool) (s : List Char) :
    Commentless (cutComment afterBlank s) ∧
      (afterBlank = true → (cutComment afterBlank s).head? ≠ some '#') := by
  induction s generalizing afterBlank with
  | nil => exact ⟨fun a c b split => by simp [cutComment] at split, fun _ => by simp [cutComment]⟩
  | cons c r ih =>
    rw [cutComment]
    split
    · exact ⟨fun a c b split => by simp at split, fun _ => by simp⟩
    · next uncut =>
      obtain ⟨rest, first⟩ := ih (isBlank c)
      refine ⟨commentless_cons rest first, fun blank sign => uncut ⟨?_, blank⟩⟩
      exact Option.some.inj sign

private theorem cutComment_of_commentless {afterBlank : Bool} (h : Commentless s)
    (first : afterBlank = true → s.head? ≠ some '#') : cutComment afterBlank s = s := by
  induction s generalizing afterBlank with
  | nil => rfl
  | cons c r ih =>
    have uncut : ¬(c = '#' ∧ afterBlank = true) := by
      rintro ⟨rfl, blank⟩
      exact first blank rfl
    have behind : isBlank c = true → r.head? ≠ some '#' := by
      intro blank sign
      obtain ⟨b, rfl⟩ := List.head?_eq_some_iff.mp sign
      rw [h [] c b rfl] at blank
      cases blank
    rw [cutComment, if_neg uncut, ih (h.of_isInfix (List.suffix_cons c r).isInfix) behind]

/-- What is cut off is a comment, if anything. -/
theorem exists_cutComment_append (afterBlank : Bool) (s : List Char) :
    ∃ t, s = cutComment afterBlank s ++ t ∧ ∀ c ∈ t.head?, c = '#' := by
  induction s generalizing afterBlank with
  | nil => exact ⟨[], rfl, nofun⟩
  | cons c r ih =>
    rw [cutComment]
    split
    · next cut =>
      refine ⟨c :: r, rfl, ?_⟩
      rintro d ⟨⟩
      exact cut.1
    · obtain ⟨t, ht, sign⟩ := ih (isBlank c)
      exact ⟨t, congrArg (c :: ·) ht, sign⟩

private theorem normal_readBare (s : List Char) : Normal (readBare s) :=
  ⟨isTrim_trim _, (commentless_cutComment false s).1.of_isInfix (trim_isInfix _)⟩

private theorem readBare_of_normal (h : Normal v) : readBare v = v := by
  have whole : cutComment false v = v := cutComment_of_commentless h.2 nofun
  rw [readBare, whole, trim_of_isTrim h.1]

private theorem normal_iff : Normal v ↔ readBare v = v :=
  ⟨readBare_of_normal, fun same => same ▸ normal_readBare v⟩

/-! What is cut off has no part in whether quotes are closed. -/

/-- What is cut off could stand behind closed quotes. -/
theorem exists_readBare_append (h : Starts s) : ∃ t, s = readBare s ++ t ∧ endsValue t = true := by
  obtain ⟨t, cut, sign⟩ := exists_cutComment_append false s
  have starts : Starts (cutComment false s) := h.of_prefix ⟨t, cut.symm⟩
  have bare : readBare s = trimEnd (cutComment false s) := by
    rw [readBare, trim, trimStart_of_starts starts]
  obtain ⟨b, blanks, trimmed⟩ := exists_trimEnd_append (cutComment false s)
  refine ⟨b ++ t, by rw [bare, ← List.append_assoc, ← trimmed, ← cut], ?_⟩
  rw [endsValue_of_blanks blanks]
  cases t with
  | nil => rfl
  | cons c r =>
    obtain rfl : c = '#' := sign c rfl
    rfl

namespace IsBare

private theorem of_head? (h : ∀ q ∈ s.head?, q ≠ '"' ∧ q ≠ '\'') : IsBare s := by
  rintro q r rfl quote
  obtain ⟨double, single⟩ := h q rfl
  exact (quote.elim double single).elim

private theorem enclosed?_eq_none {q : Char} {r : List Char} (h : IsBare (q :: r))
    (quote : q = '"' ∨ q = '\'') : enclosed? q r = none := by
  rw [enclosed?]
  split
  · next inner after closed => rw [h q r rfl quote inner after closed, if_neg Bool.false_ne_true]
  · rfl

private theorem readValue_eq (h : IsBare s) : readValue s = readBare s := by
  unfold readValue
  split
  · rw [h.enclosed?_eq_none (.inl rfl)]
    rfl
  · rw [h.enclosed?_eq_none (.inr rfl)]
    rfl
  · rfl

/-- The shorter text is in no quotes either: those it closed would be closed in the whole text, with
what is cut off behind them. -/
theorem readBare (h : IsBare s) (starts : Starts s) : IsBare (readBare s) := by
  obtain ⟨t, whole, ends⟩ := exists_readBare_append starts
  intro q r first quote inner after closed
  have slash : q ≠ '\\' := by rcases quote with rfl | rfl <;> decide
  have text : s = q :: (r ++ t) := by rw [whole, first, List.cons_append]
  have more : endsValue (after ++ t) = false :=
    h q _ text quote inner _ (untilQuote_append_of_some slash closed t)
  refine Bool.eq_false_iff.mpr fun closes => ?_
  rw [endsValue_append ends, closes] at more
  cases more

end IsBare

/-! Lines. -/

/-- A text in normal form is read as it stands, behind any key. -/
theorem parse_of_normal (short : '\n' ∉ v) (normal : Normal v) (bare : IsBare v) {k : String}
    (named : IsName k.toList) :
    parse (k ++ "=" ++ String.ofList v) = Table.ofList [(k, String.ofList v)] := by
  have chars : k ++ "=" ++ String.ofList v = String.ofList (k.toList ++ '=' :: v) := by
    apply String.toList_inj.mp
    simp
  rw [chars]
  refine parse_of_line (by simp [named.newline_not_mem, short]) ?_
  unfold entry?
  rw [ofLine?_of_isName named, Option.map_some, trimStart_of_starts (isTrim_iff.mp normal.1).1,
    bare.readValue_eq, readBare_of_normal normal, String.ofList_toList]

/-- What is read without quotes is in normal form, and is read again from any key, an equals sign
and itself. All texts in normal form that have no quote in front are read so. -/
theorem bare_values_normal :
    (∀ (line : List Char) (k v : String), entry? line = some (k, v) → IsBareLine line →
      Normal v.toList ∧ ('\n' ∉ line → ∀ k' : String, IsName k'.toList →
        parse (k' ++ "=" ++ v) = Table.ofList [(k', v)])) ∧
    ∀ v : String, '\n' ∉ v.toList → Normal v.toList →
      (∀ q ∈ v.toList.head?, q ≠ '"' ∧ q ≠ '\'') → ∀ k : String, IsName k.toList →
        parse (k ++ "=" ++ v) = Table.ofList [(k, v)] := by
  refine ⟨?_, fun v short normal first k named => ?_⟩
  · rintro line k v value ⟨a, read, bare⟩
    unfold entry? at value
    rw [read, Option.map_some, bare.readValue_eq] at value
    obtain ⟨-, rfl⟩ := Prod.mk.inj (Option.some.inj value)
    rw [String.toList_ofList]
    have starts : Starts a.rest := starts_rest read
    refine ⟨normal_readBare a.rest, fun short k' named => ?_⟩
    obtain ⟨t, whole, -⟩ := exists_readBare_append starts
    have inside : '\n' ∉ readBare a.rest := fun newline =>
      short (mem_of_mem_rest read (whole ▸ List.mem_append_left t newline))
    exact parse_of_normal inside (normal_readBare a.rest) (bare.readBare starts) named
  · have same := parse_of_normal short normal (.of_head? first) named
    rwa [String.ofList_toList] at same

/-- A quote that a backslash keeps open in front of a comment with a quote in it, and a text with
signs that mean something elsewhere. -/
theorem bare_values_normal_unclosed :
    let line := "K=\"a\\\" #\" b".toList
    let v := "$\x7bA:-#\x7d\\=b'\""
    IsBareLine line ∧ entry? line = some ("K", "\"a\\\"") ∧
      parse ("J" ++ "=" ++ "\"a\\\"") = Table.ofList [("J", "\"a\\\"")] ∧
      Normal v.toList ∧ parse ("J" ++ "=" ++ v) = Table.ofList [("J", v)] := by
  intro line v
  have bare : IsBareLine line := by
    refine ⟨⟨"K", ['"', 'a', '\\', '"', ' ', '#', '"', ' ', 'b']⟩, by decide +kernel, ?_⟩
    rintro q r ⟨⟩ - inner after closed
    have split : untilQuote '"' ['a', '\\', '"', ' ', '#', '"', ' ', 'b'] =
        some (['a', '\\', '"', ' ', '#'], [' ', 'b']) := by decide +kernel
    rw [split] at closed
    cases closed
    rfl
  have value : entry? line = some ("K", "\"a\\\"") := by decide +kernel
  have short : '\n' ∉ line := by decide +kernel
  have named : IsName "J".toList := ⟨rfl, nofun⟩
  have normal : Normal v.toList := normal_iff.mpr (by decide +kernel)
  have first : v.toList.head? = some '$' := by decide +kernel
  exact ⟨bare, value, (bare_values_normal.1 line "K" _ value bare).2 short "J" named, normal,
    bare_values_normal.2 v (by decide +kernel) normal (by rw [first]; rintro c ⟨⟩; decide) "J" named⟩

end LayeredConfig.EnvFile
