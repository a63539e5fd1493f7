import LayeredConfig.Proofs.EnvFile.Comments
import LayeredConfig.Proofs.EnvFile.Grammar

/-! Values in single quotes. A backslash in them protects whatever follows it, but goes away only in
front of a quote. Hence not all texts can be written so: in front of a quote, and at the end,
backslashes stand in pairs. Those that can be are read back from what is written. -/
namespace LayeredConfig.EnvFile
open Text

/-- Any row of backslashes that leads up to a single quote or to the end is of even length. -/
def EvenRuns (v : List Char) : Prop :=
  ∀ before m after, v = before ++ List.replicate m '\\' ++ after → before.getLast? ≠ some '\\' →
    (after = [] ∨ after.head? = some '\'') → m % 2 = 0

/-- A text in which each backslash has the character behind it for itself, and that is no quote. -/
inductive Paired : List Char → Prop
  | nil : Paired []
  | char {c : Char} {r : List Char} (free : c ≠ '\\') (rest : Paired r) : Paired (c :: r)
  | pair {c : Char} {r : List Char} (other : c ≠ '\'') (rest : Paired r) : Paired ('\\' :: c :: r)

variable {v s inner after : List Char}

/-- Where a row of backslashes ends the same in what stands in front of it. -/
theorem getLast?_ne_of_cons {c d : Char} {l : List Char} (h : (d :: l).getLast? ≠ some c) :
    l.getLast? ≠ some c := by
  intro last
  rw [List.getLast?_cons, last] at h
  exact h rfl

private theorem evenRuns_nil : EvenRuns [] := by
  intro before m after h _ _
  obtain ⟨-, rfl, -⟩ : before = [] ∧ m = 0 ∧ after = [] := by simpa using h.symm
  rfl

private theorem evenRuns_char {c : Char} {r : List Char} (free : c ≠ '\\') (h : EvenRuns r) :
    EvenRuns (c :: r) := by
  intro before m after split last ends
  cases before with
  | nil =>
    cases m with
    | zero => rfl
    | succ m => exact absurd (List.cons.inj split).1 free
  | cons d b =>
    obtain ⟨rfl, rest⟩ := List.cons.inj split
    exact h b m after rest (getLast?_ne_of_cons last) ends

private theorem evenRuns_pair {c : Char} {r : List Char} (other : c ≠ '\'') (h : EvenRuns r) :
    EvenRuns ('\\' :: c :: r) := by
  intro before m after split last ends
  match before, m with
  | [], 0 => rfl
  | [], 1 =>
    obtain rfl : c :: r = after := (List.cons.inj split).2
    rcases ends with none | quote
    · cases none
    · exact absurd (Option.some.inj quote) other
  | [], m + 2 =>
    have even : m % 2 = 0 := h [] m after (List.cons.inj (List.cons.inj split).2).2 nofun ends
    omega
  | [d], _ =>
    obtain rfl : '\\' = d := (List.cons.inj split).1
    exact absurd rfl last
  | d :: e :: b, m =>
    have rest : r = b ++ List.replicate m '\\' ++ after := (List.cons.inj (List.cons.inj split).2).2
    exact h b m after rest (getLast?_ne_of_cons (getLast?_ne_of_cons last)) ends

private theorem Paired.evenRuns (h : Paired v) : EvenRuns v := by
  induction h with
  | nil => exact evenRuns_nil
  | char free _ ih => exact evenRuns_char free ih
  | pair other _ ih => exact evenRuns_pair other ih

/-- What follows a text that does not end with a backslash has the same rows. -/
theorem EvenRuns.of_append {a r : List Char} (h : EvenRuns (a ++ r))
    (last : a.getLast? ≠ some '\\') : EvenRuns r := by
  rintro before m after rfl hb ends
  refine h (a ++ before) m after (by simp) ?_ ends
  rw [List.getLast?_append]
  cases hl : before.getLast? with
  | none => simpa using last
  | some c => simpa [hl] using hb

/-- Two backslashes in front make a row longer by two. -/
theorem EvenRuns.of_pair {r : List Char} (h : EvenRuns ('\\' :: '\\' :: r)) : EvenRuns r := by
  rintro before m after rfl last ends
  cases before with
  | nil =>
    have even : (m + 2) % 2 = 0 := h [] (m + 2) after rfl nofun ends
    omega
  | cons d b => exact h ('\\' :: '\\' :: d :: b) m after rfl last ends

private theorem EvenRuns.paired (h : EvenRuns v) : Paired v := by
  induction hn : v.length using Nat.strongRecOn generalizing v with
  | ind n ih =>
    cases v with
    | nil => exact .nil
    | cons c r =>
      rw [List.length_cons] at hn
      by_cases hc : c = '\\'
      · subst hc
        cases r with
        | nil => cases h [] 1 [] rfl nofun (.inl rfl)
        | cons d r =>
          have other : d ≠ '\'' := by
            rintro rfl
            cases h [] 1 ('\'' :: r) rfl nofun (.inr rfl)
          have rest : EvenRuns r := by
            by_cases hd : d = '\\'
            · subst hd
              exact h.of_pair
            · exact EvenRuns.of_append (a := ['\\', d]) h (by simpa using hd)
          rw [List.length_cons] at hn
          exact .pair other (ih r.length (by omega) rest rfl)
      · have rest : EvenRuns r := EvenRuns.of_append (a := [c]) h (by simpa using hc)
        exact .char hc (ih r.length (by omega) rest rfl)

private theorem evenRuns_iff_paired : EvenRuns v ↔ Paired v := ⟨EvenRuns.paired, Paired.evenRuns⟩

/-! Reading. -/

/-- Quotes that are closed enclose what stands in front of the closing one. -/
theorem eq_of_untilQuote {q : Char} (h : untilQuote q s = some (inner, after)) :
    s = inner ++ q :: after := by
  fun_induction untilQuote q s generalizing inner after with
  | case1 => cases h
  | case2 d r ih =>
    obtain ⟨⟨a, b⟩, hr, e⟩ := Option.map_eq_some_iff.mp h
    cases e
    rw [ih hr]
    rfl
  | case3 r _ =>
    cases h
    rfl
  | case4 d r _ _ ih =>
    obtain ⟨⟨a, b⟩, hr, e⟩ := Option.map_eq_some_iff.mp h
    cases e
    rw [ih hr]
    rfl

/-- They do not start with a quote that would have closed them. -/
theorem head?_ne_of_untilQuote {q : Char} (hq : q ≠ '\\')
    (h : untilQuote q s = some (inner, after)) : inner.head? ≠ some q := by
  rintro first
  obtain ⟨r, rfl⟩ := List.head?_eq_some_iff.mp first
  rw [eq_of_untilQuote h, List.cons_append, untilQuote_cons hq, if_pos rfl] at h
  cases h

private theorem readSingle_cons {c : Char} {r : List Char} (h : c = '\\' → r.head? ≠ some '\'') :
    readSingle (c :: r) = c :: readSingle r :=
  readSingle.eq_3 c r fun r' hc hr => h hc (by rw [hr]; rfl)

/-- Behind a backslash the closing quote is looked for after the next character, so that each
backslash that is read has one for itself. -/
theorem paired_readSingle (h : untilQuote '\'' s = some (inner, after)) :
    Paired (readSingle inner) := by
  fun_induction untilQuote '\'' s generalizing inner after with
  | case1 => cases h
  | case2 d r ih =>
    obtain ⟨⟨a, b⟩, hr, e⟩ := Option.map_eq_some_iff.mp h
    cases e
    have first : a.head? ≠ some '\'' := head?_ne_of_untilQuote (by decide) hr
    by_cases hd : d = '\''
    · subst hd
      exact .char (by decide) (ih hr)
    · rw [readSingle_cons fun _ => by simpa using hd, readSingle_cons fun _ => first]
      exact .pair hd (ih hr)
  | case3 r _ =>
    cases h
    exact .nil
  | case4 d r lone other ih =>
    obtain ⟨⟨a, b⟩, hr, e⟩ := Option.map_eq_some_iff.mp h
    cases e
    have free : d ≠ '\\' := ne_slash_of_untilQuote lone hr
    rw [readSingle_cons fun back => absurd back free]
    exact .char free (ih hr)

private theorem mem_readSingle {c : Char} (h : c ∈ readSingle s) : c ∈ s := by
  fun_induction readSingle s with
  | case1 => exact h
  | case2 r ih =>
    rcases List.mem_cons.mp h with rfl | h
    · simp
    · simp [ih h]
  | case3 d r _ ih =>
    rcases List.mem_cons.mp h with rfl | h
    · simp
    · simp [ih h]

/-! Writing. -/

def singleChar (c : Char) : List Char := if c = '\'' then ['\\', '\''] else [c]

private theorem writeSingle_append (v s : List Char) :
    writeSingle v ++ s = '\'' :: (v.flatMap singleChar ++ '\'' :: s) := by
  have whole : writeSingle v = '\'' :: v.flatMap singleChar ++ ['\''] := rfl
  simp [whole]

private theorem head?_flatMap_singleChar (v : List Char) :
    (v.flatMap singleChar).head? ≠ some '\'' := by
  cases v with
  | nil => nofun
  | cons c r => by_cases hc : c = '\'' <;> simp [singleChar, hc]

/-- What is written is read back, wherever it comes from. -/
theorem readSingle_flatMap_singleChar (v : List Char) : readSingle (v.flatMap singleChar) = v := by
  induction v with
  | nil => rfl
  | cons c r ih =>
    rw [List.flatMap_cons, singleChar]
    split
    · next hc =>
      rw [hc, List.cons_append, List.cons_append, List.nil_append, readSingle, ih]
    · rw [List.singleton_append, readSingle_cons fun _ => head?_flatMap_singleChar r, ih]

/-- Only a backslash without a character of its own could protect the closing quote, or leave
another one unprotected. -/
theorem untilQuote_flatMap_singleChar (h : Paired v) (s : List Char) :
    untilQuote '\'' (v.flatMap singleChar ++ '\'' :: s) = some (v.flatMap singleChar, s) := by
  induction h with
  | nil => rfl
  | @char c r free _ ih =>
    rw [List.flatMap_cons, List.append_assoc, singleChar]
    split
    · rw [List.cons_append, List.cons_append, untilQuote, List.nil_append, ih]
      rfl
    · next hc =>
      rw [List.singleton_append, untilQuote_cons free, if_neg hc, ih]
      rfl
  | @pair c r other _ ih =>
    have back : singleChar '\\' = ['\\'] := rfl
    have single : singleChar c = [c] := if_neg other
    rw [List.flatMap_cons, List.flatMap_cons, back, single]
    simp only [List.cons_append, List.nil_append, untilQuote, ih]
    rfl

/-- A value in single quotes is read back. -/
theorem readValue_writeSingle (h : Paired v) (ends : endsValue s = true) :
    readValue (writeSingle v ++ s) = v := by
  rw [writeSingle_append, readValue, enclosed?, untilQuote_flatMap_singleChar h]
  dsimp only
  rw [if_pos ends, Option.map_some, Option.getD_some, readSingle_flatMap_singleChar]

/-! Lines. -/

def InSingleQuotes (rest : List Char) : Prop :=
  ∃ r inner, rest = '\'' :: r ∧ enclosed? '\'' r = some inner

private theorem exists_untilQuote_of_inSingleQuotes {rest : List Char} (h : InSingleQuotes rest) :
    ∃ inner after, rest = '\'' :: (inner ++ '\'' :: after) ∧
      untilQuote '\'' (inner ++ '\'' :: after) = some (inner, after) ∧
      readValue rest = readSingle inner := by
  obtain ⟨r, inner, rfl, enclosed⟩ := h
  rw [readValue, enclosed]
  rw [enclosed?] at enclosed
  split at enclosed
  · next a b split =>
    split at enclosed
    · obtain rfl := Option.some.inj enclosed
      have whole := eq_of_untilQuote split
      exact ⟨a, b, by rw [whole], whole ▸ split, rfl⟩
    · cases enclosed
  · cases enclosed

private theorem inSingleQuotes_writeSingle (h : Paired v) (ends : endsValue s = true) :
    InSingleQuotes (writeSingle v ++ s) := by
  refine ⟨_, v.flatMap singleChar, writeSingle_append v s, ?_⟩
  rw [enclosed?, untilQuote_flatMap_singleChar h]
  exact if_pos ends

/-- What is read from single quotes on a line has its backslashes paired, and no newline in it. -/
theorem paired_of_inSingleQuotes {line : List Char} {a : Assignment}
    (read : Assignment.ofLine? line = some a) (short : '\n' ∉ line) (h : InSingleQuotes a.rest) :
    Paired (readValue a.rest) ∧ '\n' ∉ readValue a.rest := by
  obtain ⟨inner, after, rest, split, value⟩ := exists_untilQuote_of_inSingleQuotes h
  rw [value]
  refine ⟨paired_readSingle split, fun newline => short (mem_of_mem_rest read ?_)⟩
  rw [rest]
  exact List.mem_cons_of_mem _ (List.mem_append_left _ (mem_readSingle newline))

namespace QuotedLine

def singleChars (l : QuotedLine) : List Char :=
  l.key.toList ++ '=' :: (writeSingle l.value.toList ++ l.trailer)

private theorem ofLine?_singleChars (l : QuotedLine) : Assignment.ofLine? l.singleChars =
    some ⟨l.key, writeSingle l.value.toList ++ l.trailer⟩ := by
  have start : trimStart (writeSingle l.value.toList ++ l.trailer) =
      writeSingle l.value.toList ++ l.trailer :=
    trimStart_of_starts (starts_cons rfl _)
  rw [singleChars, ofLine?_of_isName l.named, start, String.ofList_toList]

private theorem entry?_singleChars (l : QuotedLine) (h : Paired l.value.toList) :
    entry? l.singleChars = some (l.key, l.value) := by
  unfold entry?
  rw [ofLine?_singleChars, Option.map_some, readValue_writeSingle h l.endsValue_trailer,
    String.ofList_toList]

private theorem newline_not_mem_singleChars (l : QuotedLine) (h : '\n' ∉ l.value.toList) :
    '\n' ∉ l.singleChars := by
  have inside : '\n' ∉ l.value.toList.flatMap singleChar := by
    intro newline
    obtain ⟨c, hc, written⟩ := List.mem_flatMap.mp newline
    rw [singleChar] at written
    split at written
    · simp at written
    · exact h (List.mem_singleton.mp written ▸ hc)
  rw [singleChars, writeSingle_append]
  simp [l.named.newline_not_mem, inside, l.newline_not_mem_trailer]

private theorem parse_singleChars (l : QuotedLine) (short : '\n' ∉ l.value.toList)
    (h : Paired l.value.toList) :
    parse (String.ofList l.singleChars) = Table.ofList [(l.key, l.value)] :=
  parse_of_line (l.newline_not_mem_singleChars short) (l.entry?_singleChars h)

end QuotedLine

/-- The values that are read from single quotes are the texts without newlines whose backslashes
stand in pairs in front of quotes and at the end. Each of them is read back when it is written in
single quotes with a backslash in front of each quote, for any key and with any comment behind
it. -/
theorem single_quotes_exact (v : String) :
    ((∃ (t : String) (line : List Char) (a : Assignment), line ∈ Text.lines t.toList ∧
        Assignment.ofLine? line = some a ∧ InSingleQuotes a.rest ∧
        entry? line = some (a.key, v)) ↔
      '\n' ∉ v.toList ∧ EvenRuns v.toList) ∧
    ('\n' ∉ v.toList → EvenRuns v.toList → ∀ l : QuotedLine, l.value = v →
      Assignment.ofLine? l.singleChars = some ⟨l.key, writeSingle v.toList ++ l.trailer⟩ ∧
      InSingleQuotes (writeSingle v.toList ++ l.trailer) ∧
      parse (String.ofList l.singleChars) = Table.ofList [(l.key, v)]) := by
  refine ⟨⟨?_, fun ⟨short, even⟩ => ?_⟩, ?_⟩
  · rintro ⟨t, line, a, hl, read, quoted, value⟩
    have short := newline_not_mem_of_mem_lines hl
    unfold entry? at value
    rw [read, Option.map_some] at value
    obtain rfl : String.ofList (readValue a.rest) = v :=
      congrArg Prod.snd (Option.some.inj value)
    rw [String.toList_ofList, evenRuns_iff_paired]
    exact (paired_of_inSingleQuotes read short quoted).symm
  · let l : QuotedLine := ⟨"K", v, [], none, ⟨rfl, nofun⟩, nofun, nofun⟩
    have paired : Paired l.value.toList := even.paired
    refine ⟨String.ofList l.singleChars, l.singleChars, _, ?_, l.ofLine?_singleChars,
      inSingleQuotes_writeSingle paired l.endsValue_trailer, l.entry?_singleChars paired⟩
    have some : l.singleChars ≠ [] := by simp [QuotedLine.singleChars]
    rw [String.toList_ofList, lines_of_not_mem (l.newline_not_mem_singleChars short), if_neg some]
    exact List.mem_singleton.mpr rfl
  · rintro short even l rfl
    exact ⟨l.ofLine?_singleChars, inSingleQuotes_writeSingle even.paired l.endsValue_trailer,
      l.parse_singleChars short even.paired⟩

/-- A quote behind two backslashes, a row of one in between, and two at the end. -/
theorem single_quotes_exact_escaped :
    let v := "\\\\'a\\b\\\\"
    let l : QuotedLine :=
      ⟨"K", v, [' '], some "'".toList, ⟨rfl, nofun⟩, List.forall_mem_singleton.mpr (by decide),
        by rintro c ⟨⟩; decide⟩
    EvenRuns v.toList ∧ l.singleChars = "K='\\\\\\'a\\b\\\\' #'".toList ∧
      parse (String.ofList l.singleChars) = Table.ofList [("K", v)] ∧
      ¬ EvenRuns "\\'".toList := by
  intro v l
  have short : '\n' ∉ v.toList := by decide +kernel
  have chars : v.toList = ['\\', '\\', '\'', 'a', '\\', 'b', '\\', '\\'] := by decide +kernel
  have even : EvenRuns v.toList := by
    rw [chars]
    exact (Paired.pair (by decide) (.char (by decide) (.char (by decide) (.pair (by decide)
      (.pair (by decide) .nil))))).evenRuns
  refine ⟨even, by decide +kernel, ((single_quotes_exact v).2 short even l rfl).2.2, fun odd => ?_⟩
  cases odd [] 1 ['\''] rfl nofun (.inr rfl)

end LayeredConfig.EnvFile
