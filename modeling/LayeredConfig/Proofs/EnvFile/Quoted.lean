import LayeredConfig.Proofs.EnvFile.Trailing

/-! Values in double quotes. Whatever the value, it can be written so that it is read back, and what
is written behind it on the line does not matter if it is a comment. -/
namespace LayeredConfig.EnvFile
open Text

/-! Names in front of an equals sign. -/

variable {n s : List Char}

private theorem keyed?_of_isName (h : IsName n) (s : List Char) :
    keyed? (n ++ '=' :: s) = some ⟨String.ofList n, trimStart s⟩ :=
  keyed?_eq_some_iff.mpr ⟨n, '=' :: s, s, rfl, h, rfl, rfl⟩

/-- A line with a name, an equals sign and something assigns to the name. -/
theorem ofLine?_of_isName (h : IsName n) (s : List Char) :
    Assignment.ofLine? (n ++ '=' :: s) = some ⟨String.ofList n, trimStart s⟩ := by
  have start : trimStart (n ++ '=' :: s) = n ++ '=' :: s :=
    trimStart_of_starts (starts_of_isName h _)
  rw [Assignment.ofLine?, start, exported?_of_keyed? (keyed?_of_isName h s), keyed?_of_isName h,
    Option.none_or]

/-! What stands behind a value. -/

theorem endsValue_of_blanks {b : List Char} (h : ∀ c ∈ b, isBlank c = true) (s : List Char) :
    endsValue (b ++ s) = endsValue s := by
  rw [endsValue, endsValue, trimStart, trimStart, List.dropWhile_append_of_pos h]

/-! Escapes. -/

/-- A character in its escaped form ends no quotes. -/
theorem untilQuote_escaped (c : Char) (r : List Char) :
    untilQuote '"' (escaped c ++ r) =
      (untilQuote '"' r).map fun (a, b) => (escaped c ++ a, b) := by
  unfold escaped
  split
  · rfl
  · rfl
  · rfl
  · rfl
  · next slash quote _ _ =>
    rw [List.singleton_append, untilQuote.eq_3 _ _ _ (fun _ _ e => absurd e slash), if_neg quote]
    rfl

private theorem untilQuote_flatMap_escaped (v s : List Char) :
    untilQuote '"' (v.flatMap escaped ++ '"' :: s) = some (v.flatMap escaped, s) := by
  induction v with
  | nil => rfl
  | cons c r ih =>
    rw [List.flatMap_cons, List.append_assoc, untilQuote_escaped, ih]
    rfl

private theorem newline_not_mem_escaped (c : Char) : '\n' ∉ escaped c := by
  unfold escaped
  split
  · decide
  · decide
  · decide
  · decide
  · next newline _ =>
    rw [List.mem_singleton]
    exact Ne.symm newline

private theorem newline_not_mem_writeDouble (v : List Char) : '\n' ∉ writeDouble v := by
  have inner : '\n' ∉ v.flatMap escaped := by
    intro h
    obtain ⟨c, -, hc⟩ := List.mem_flatMap.mp h
    exact newline_not_mem_escaped c hc
  simp [writeDouble, inner]

/-- A value in double quotes is read back. -/
theorem readValue_writeDouble (v : List Char) (h : endsValue s = true) :
    readValue (writeDouble v ++ s) = v := by
  have text : writeDouble v ++ s = '"' :: (v.flatMap escaped ++ '"' :: s) := by simp [writeDouble]
  rw [text, readValue, enclosed?, untilQuote_flatMap_escaped]
  dsimp only
  rw [if_pos h, Option.map_some, Option.getD_some, readDouble_flatMap_escaped]

/-! Lines. -/

/-- A text of one line is read as what the line assigns. -/
theorem parse_of_line {line : List Char} (short : '\n' ∉ line) {e : String × String}
    (read : entry? line = some e) : parse (String.ofList line) = Table.ofList [e] := by
  have some : line ≠ [] := by
    rintro rfl
    cases read
  rw [parse, String.toList_ofList, lines_of_not_mem short, if_neg some,
    List.filterMap_cons_some read, List.filterMap_nil]

/-- A line that gives a key a value in double quotes. Blanks can stand behind it, and a comment. -/
structure QuotedLine where
  key : String
  value : String
  blanks : List Char
  comment : Option (List Char)
  named : IsName key.toList
  blank : ∀ c ∈ blanks, isBlank c = true ∧ c ≠ '\n'
  short : ∀ c ∈ comment, '\n' ∉ c

namespace QuotedLine

def trailer (l : QuotedLine) : List Char := l.blanks ++ (l.comment.map ('#' :: ·)).getD []

def chars (l : QuotedLine) : List Char :=
  l.key.toList ++ '=' :: (writeDouble l.value.toList ++ l.trailer)

theorem endsValue_trailer (l : QuotedLine) : endsValue l.trailer = true := by
  rw [trailer, endsValue_of_blanks fun c hc => (l.blank c hc).1]
  cases l.comment <;> rfl

theorem newline_not_mem_trailer (l : QuotedLine) : '\n' ∉ l.trailer := by
  have blanks : '\n' ∉ l.blanks := fun h => (l.blank '\n' h).2 rfl
  have short := l.short
  rw [trailer]
  cases hc : l.comment with
  | none => simpa using blanks
  | some c => simpa [blanks] using short c hc

private theorem newline_not_mem_chars (l : QuotedLine) : '\n' ∉ l.chars := by
  simp [chars, l.named.newline_not_mem, newline_not_mem_writeDouble, l.newline_not_mem_trailer]

/-- The value of a line does not depend on what stands behind it. -/
theorem entry?_of_ends (l : QuotedLine) {s : List Char} (h : endsValue s = true) :
    entry? (l.key.toList ++ '=' :: (writeDouble l.value.toList ++ s)) = some (l.key, l.value) := by
  have start : trimStart (writeDouble l.value.toList ++ s) = writeDouble l.value.toList ++ s :=
    trimStart_of_starts (starts_cons rfl _)
  unfold entry?
  rw [ofLine?_of_isName l.named, start, Option.map_some, readValue_writeDouble _ h,
    String.ofList_toList, String.ofList_toList]

private theorem entry?_chars (l : QuotedLine) : entry? l.chars = some (l.key, l.value) :=
  l.entry?_of_ends l.endsValue_trailer

/-- A carriage return at the end of a line stands behind the value. -/
theorem entry?_closeLine_chars (l : QuotedLine) :
    entry? (closeLine l.chars.reverse) = entry? l.chars :=
  entry?_closeLine l.chars

end QuotedLine

/-- Whatever the values, lines that give them in double quotes are read back as what they assign. -/
theorem parse_quotedLines (closed : Bool) (l : List QuotedLine) :
    parse (String.ofList (stack closed (l.map QuotedLine.chars))) =
      Table.ofList (l.map fun q => (q.key, q.value)) := by
  have plain : ∀ c ∈ l.map QuotedLine.chars, '\n' ∉ c := by
    intro c hc
    obtain ⟨q, -, rfl⟩ := List.mem_map.mp hc
    exact q.newline_not_mem_chars
  have ending : ∀ c ∈ l.map QuotedLine.chars, entry? (closeLine c.reverse) = entry? c := by
    intro c hc
    obtain ⟨q, -, rfl⟩ := List.mem_map.mp hc
    exact q.entry?_closeLine_chars
  rw [parse, String.toList_ofList, filterMap_lines_stack rfl closed plain ending,
    List.filterMap_map]
  have each : entry? ∘ QuotedLine.chars = some ∘ fun q => (q.key, q.value) :=
    funext QuotedLine.entry?_chars
  rw [each, List.filterMap_eq_map]

example : (parse "export=\"a\\\\\\\"\" # \"\n").entries = [("export", "a\\\"")] := by decide +kernel

end LayeredConfig.EnvFile
