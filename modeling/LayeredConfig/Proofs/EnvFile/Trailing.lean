import Mathlib.Data.List.Basic
import LayeredConfig.EnvFile.Basic
import LayeredConfig.Proofs.EnvFile.Assignments
import LayeredConfig.Proofs.Text.Lines

/-! What can stand behind a value without a part in it. Such is what reads as nothing but a blank
when it follows bare text, and closes no quotes; a blank at the end of a line is of this kind, so
that lines are read alike with and without a carriage return. -/
namespace LayeredConfig.EnvFile
open Text

variable {q : Char} {s t : List Char}

/-! Quotes. -/

private theorem untilQuote_of_not_mem (h : q ∉ s) : untilQuote q s = none := by
  fun_induction untilQuote q s with
  | case1 => rfl
  | case2 d r ih =>
    rw [ih fun hm => h (by simp [hm])]
    rfl
  | case3 r _ => exact absurd List.mem_cons_self h
  | case4 d r _ _ ih =>
    rw [ih fun hm => h (List.mem_cons_of_mem d hm)]
    rfl

theorem untilQuote_cons {d : Char} (hd : d ≠ '\\') (s : List Char) :
    untilQuote q (d :: s) =
      if d = q then some ([], s) else (untilQuote q s).map fun (a, b) => (d :: a, b) :=
  untilQuote.eq_3 q d s fun _ _ e => absurd e hd

/-- No backslash is left without a character in front of a text that closes quotes. -/
theorem ne_slash_of_untilQuote {d : Char} {p : List Char × List Char}
    (lone : ∀ c r, d = '\\' → s = c :: r → False) (h : untilQuote q s = some p) : d ≠ '\\' := by
  rintro rfl
  cases s with
  | nil => cases h
  | cons c r => exact lone c r rfl rfl

/-- Quotes that are closed are closed at the same place when the text goes on. -/
theorem untilQuote_append_of_some (hq : q ≠ '\\') {inner after : List Char}
    (h : untilQuote q s = some (inner, after)) (t : List Char) :
    untilQuote q (s ++ t) = some (inner, after ++ t) := by
  fun_induction untilQuote q s generalizing inner after with
  | case1 => cases h
  | case2 d r ih =>
    obtain ⟨⟨a, b⟩, hr, e⟩ := Option.map_eq_some_iff.mp h
    cases e
    simp [untilQuote, ih hr]
  | case3 r _ =>
    cases h
    rw [List.cons_append, untilQuote_cons hq, if_pos rfl]
  | case4 d r lone other ih =>
    obtain ⟨⟨a, b⟩, hr, e⟩ := Option.map_eq_some_iff.mp h
    cases e
    have hd : d ≠ '\\' := ne_slash_of_untilQuote lone hr
    rw [List.cons_append, untilQuote_cons hd, if_neg other, ih hr]
    rfl

/-- Quotes that are not closed stay open when no such quote follows. -/
theorem untilQuote_append_of_none (h : untilQuote q s = none) {t : List Char} (ht : q ∉ t) :
    untilQuote q (s ++ t) = none := by
  fun_induction untilQuote q s with
  | case1 => exact untilQuote_of_not_mem ht
  | case2 d r ih =>
    rw [List.cons_append, List.cons_append, untilQuote, ih (Option.map_eq_none_iff.mp h)]
    rfl
  | case3 r _ => cases h
  | case4 d r lone other ih =>
    have rest := ih (Option.map_eq_none_iff.mp h)
    by_cases hd : d = '\\'
    · subst hd
      cases r with
      | cons e r => exact absurd rfl (lone e r rfl)
      | nil =>
        -- The backslash at the end protects the first character that is added.
        cases t with
        | nil => simp [untilQuote, other]
        | cons e t =>
          rw [List.singleton_append, untilQuote,
            untilQuote_of_not_mem fun hm => ht (List.mem_cons_of_mem e hm)]
          rfl
    · rw [List.cons_append, untilQuote_cons hd, if_neg other, rest]
      rfl

/-! Values that go on. -/

/-- What could end a value has no say in whether something else does. -/
theorem endsValue_append (ht : endsValue t = true) (s : List Char) :
    endsValue (s ++ t) = endsValue s := by
  rw [endsValue, endsValue, trimStart_append]
  cases first : trimStart s with
  | nil => exact ht
  | cons c r => rfl

private theorem enclosed?_append (hq : q ≠ '\\') (ht : endsValue t = true) (absent : q ∉ t)
    (s : List Char) :
    enclosed? q (s ++ t) = enclosed? q s := by
  rw [enclosed?, enclosed?]
  cases h : untilQuote q s with
  | none => rw [untilQuote_append_of_none h absent]
  | some p =>
    rw [untilQuote_append_of_some hq h]
    dsimp only
    rw [endsValue_append ht]

/-- A comment is cut off before what is added, or the cut goes on there. -/
theorem cutComment_append (afterBlank : Bool) (s t : List Char) :
    cutComment afterBlank (s ++ t) = cutComment afterBlank s ∨
      ∃ b, cutComment afterBlank (s ++ t) = cutComment afterBlank s ++ cutComment b t := by
  induction s generalizing afterBlank with
  | nil => exact .inr ⟨afterBlank, rfl⟩
  | cons d r ih =>
    rw [List.cons_append, cutComment, cutComment]
    split
    · exact .inl rfl
    · refine (ih (isBlank d)).imp (congrArg (d :: ·)) ?_
      rintro ⟨b, h⟩
      exact ⟨b, congrArg (d :: ·) h⟩

private theorem readBare_append {c : Char} (hc : isBlank c = true) (cut : ∀ b, cutComment b t = [c])
    (s : List Char) : readBare (s ++ t) = readBare s := by
  rw [readBare, readBare]
  rcases cutComment_append false s t with h | ⟨b, h⟩
  · rw [h]
  · rw [h, cut, trim_append_blank hc]

/-- What is cut down to a blank, and closes no quotes, does not change the value in front of it. -/
theorem readValue_append {c : Char} (hc : isBlank c = true) (cut : ∀ b, cutComment b t = [c])
    (ht : endsValue t = true) (double : '"' ∉ t) (single : '\'' ∉ t) (some : s ≠ []) :
    readValue (s ++ t) = readValue s := by
  obtain ⟨d, r, rfl⟩ := List.exists_cons_of_ne_nil some
  have bare := readBare_append hc cut (d :: r)
  rw [List.cons_append] at bare ⊢
  by_cases hd : d = '"'
  · subst hd
    rw [readValue, readValue, bare, enclosed?_append (by decide) ht double]
  · by_cases hs : d = '\''
    · subst hs
      rw [readValue, readValue, bare, enclosed?_append (by decide) ht single]
    · rw [readValue.eq_3 _ (by simp [hd]) (by simp [hs]),
        readValue.eq_3 _ (by simp [hd]) (by simp [hs]), bare]

/-! Blanks at the ends of lines. -/

section Blank

variable {c : Char} (hc : isBlank c = true)
include hc

private theorem trimStart_append_blank (s : List Char) :
    trimStart (s ++ [c]) = if trimStart s = [] then [] else trimStart s ++ [c] := by
  have none : trimStart [c] = [] := List.dropWhile_cons_of_pos hc
  rw [trimStart_append, none]

private theorem readValue_append_blank (some : s ≠ []) : readValue (s ++ [c]) = readValue s := by
  have other (d : Char) (hd : isBlank d = false) : d ≠ c := by
    rintro rfl
    rw [hd] at hc
    cases hc
  have cut (b : Bool) : cutComment b [c] = [c] := by
    rw [cutComment, if_neg fun h => other '#' rfl h.1.symm, cutComment]
  have ends : endsValue [c] = true := by rw [endsValue, trimStart, List.dropWhile_cons_of_pos hc]; rfl
  refine readValue_append hc cut ends ?_ ?_ some
  · simpa using other '"' rfl
  · simpa using other '\'' rfl

/-- A text that does not assign does not do so with a blank at its end. -/
theorem keyed?_append_blank_eq_none (h : keyed? s = none) : keyed? (s ++ [c]) = none := by
  rw [Option.eq_none_iff_forall_ne_some] at h ⊢
  intro a ha
  obtain ⟨n, r, v, split, name, sign, -⟩ := keyed?_eq_some_iff.mp ha
  -- The sign stands in front of the blank, so that it was there before.
  rcases List.eq_nil_or_concat' r with rfl | ⟨r, d, rfl⟩
  · cases sign
  · rw [← List.append_assoc] at split
    obtain ⟨rfl, hd⟩ := List.append_inj' split rfl
    obtain rfl : c = d := (List.cons.inj hd).1
    rw [trimStart_append_blank hc] at sign
    split at sign
    · cases sign
    · next there =>
      obtain ⟨e, w, hw⟩ := List.exists_cons_of_ne_nil there
      rw [hw] at sign
      obtain rfl : e = '=' := (List.cons.inj sign).1
      exact h _ (keyed?_eq_some_iff.mpr ⟨n, r, w, rfl, name, hw, rfl⟩)

private theorem exported?_append_blank_eq_none (h : exported? s = none) :
    exported? (s ++ [c]) = none := by
  rw [Option.eq_none_iff_forall_ne_some] at h ⊢
  intro a ha
  obtain ⟨d, r, split, blank, assigns⟩ := exported?_eq_some_iff.mp ha
  rcases List.eq_nil_or_concat' r with rfl | ⟨r, e, rfl⟩
  · cases assigns
  · rw [← List.cons_append, ← List.append_assoc] at split
    obtain ⟨rfl, he⟩ := List.append_inj' split rfl
    obtain rfl : c = e := (List.cons.inj he).1
    rw [trimStart_append_blank hc] at assigns
    split at assigns
    · cases assigns
    · cases before : keyed? (trimStart r) with
      | none =>
        rw [keyed?_append_blank_eq_none hc before] at assigns
        cases assigns
      | some b => exact h b (exported?_eq_some_iff.mpr ⟨d, r, rfl, blank, before⟩)

/-- A blank at the end of a line changes nothing that is read from it. -/
theorem entry?_append_blank (line : List Char) : entry? (line ++ [c]) = entry? line := by
  unfold entry?
  cases h : Assignment.ofLine? line with
  | some a =>
    rw [ofLine?_append h, Option.map_some, Option.map_some, Assignment.extended]
    by_cases none : a.rest = []
    · have blank : trimStart [c] = [] := List.dropWhile_cons_of_pos hc
      rw [if_pos none, blank, none]
    · rw [if_neg none, readValue_append_blank hc none]
  | none =>
    have unread : Assignment.ofLine? (line ++ [c]) = none := by
      obtain ⟨exported, keyed⟩ := Option.or_eq_none_iff.mp h
      rw [Assignment.ofLine?, trimStart_append_blank hc]
      split
      · rfl
      · rw [exported?_append_blank_eq_none hc exported, keyed?_append_blank_eq_none hc keyed]
        rfl
    rw [unread]

end Blank

/-- A line is read alike with and without the carriage return at its end. -/
theorem entry?_closeLine (line : List Char) : entry? (closeLine line.reverse) = entry? line := by
  rcases closeLine_reverse_cases line with same | longer
  · rw [same]
  · conv => rhs; rw [longer, entry?_append_blank rfl]

end LayeredConfig.EnvFile
