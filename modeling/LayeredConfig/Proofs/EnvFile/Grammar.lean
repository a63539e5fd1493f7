import LayeredConfig.EnvFile.Basic
import LayeredConfig.EnvFile.Duplicates
import LayeredConfig.Proofs.EnvFile.Assignments

/-! The grammar of lines that assign something. Each such line is written in one way only, and a
line that is not written so counts neither for the reader nor for the scanner. -/
namespace LayeredConfig.EnvFile
open Text

variable {s line : List Char} {a : Assignment}

private theorem endsName_blanks {b : List Char} (hb : Blanks b) (s : List Char) :
    EndsName (b ++ '=' :: s) :=
  endsName_of_sign (trimStart_blanks hb (starts_cons rfl s))

/-- The parts of a line that assigns something: blanks, perhaps the word `export` and blanks, a key,
an equals sign with blanks around it, and the rest. -/
@[ext] structure Parts where
  indent : List Char
  exported : Option (List Char)
  key : String
  before : List Char
  after : List Char
  rest : List Char
  indentBlank : Blanks indent
  exportedBlank : ∀ b ∈ exported, b ≠ [] ∧ Blanks b
  named : IsName key.toList
  beforeBlank : Blanks before
  afterBlank : Blanks after
  restStarts : Starts rest

namespace Parts

def keyed (p : Parts) : List Char := p.key.toList ++ (p.before ++ '=' :: (p.after ++ p.rest))

/-- The line without the blanks in front. -/
def body (p : Parts) : List Char :=
  match p.exported with
  | some b => ['e', 'x', 'p', 'o', 'r', 't'] ++ (b ++ p.keyed)
  | none => p.keyed

def chars (p : Parts) : List Char := p.indent ++ p.body

def assignment (p : Parts) : Assignment := ⟨p.key, p.rest⟩

variable {p q : Parts}

private theorem starts_keyed (p : Parts) : Starts p.keyed := starts_of_isName p.named _

/-- Behind the blanks in front stands a letter or an underscore. -/
theorem exists_body_eq (p : Parts) : ∃ c r, p.body = c :: r ∧ isNamePart c = true := by
  unfold body
  split
  · exact ⟨'e', _, rfl, rfl⟩
  · obtain ⟨c, r, hc⟩ := List.exists_cons_of_ne_nil p.named.ne_nil
    refine ⟨c, _, by rw [keyed, hc]; rfl, ?_⟩
    exact p.named.isNamePart c (hc ▸ List.mem_cons_self)

private theorem starts_body (p : Parts) : Starts p.body := by
  obtain ⟨c, r, hc, part⟩ := p.exists_body_eq
  rw [hc]
  exact starts_cons (isBlank_of_isNamePart part) r

private theorem trimStart_chars (p : Parts) : trimStart p.chars = p.body :=
  trimStart_blanks p.indentBlank p.starts_body

private theorem mem_chars_of_mem_rest {c : Char} (h : c ∈ p.rest) : c ∈ p.chars := by
  have keyed : c ∈ p.keyed := by simp [keyed, h]
  rw [chars, body]
  split <;> simp [keyed]

private theorem keyed?_keyed (p : Parts) : keyed? p.keyed = some p.assignment := by
  refine keyed?_eq_some_iff.mpr ⟨p.key.toList, _, p.after ++ p.rest, rfl, p.named,
    trimStart_blanks p.beforeBlank (starts_cons rfl _), ?_⟩
  rw [trimStart_blanks p.afterBlank p.restStarts, String.ofList_toList]
  rfl

private theorem exported?_body {b : List Char} (h : p.exported = some b) :
    exported? p.body = some p.assignment := by
  obtain ⟨some, blank⟩ := p.exportedBlank b h
  obtain ⟨c, b', rfl⟩ := List.exists_cons_of_ne_nil some
  obtain ⟨first, others⟩ := List.forall_mem_cons.mp blank
  refine exported?_eq_some_iff.mpr ⟨c, b' ++ p.keyed, by rw [body, h]; rfl, first, ?_⟩
  rw [trimStart_blanks others p.starts_keyed]
  exact p.keyed?_keyed

/-- A line with these parts assigns the rest to the key. -/
theorem ofLine?_chars (p : Parts) : Assignment.ofLine? p.chars = some p.assignment := by
  rw [Assignment.ofLine?, trimStart_chars]
  cases h : p.exported with
  | some b => rw [exported?_body h, Option.some_or]
  | none =>
    have body : p.body = p.keyed := by rw [body, h]
    rw [body, exported?_of_keyed? p.keyed?_keyed, keyed?_keyed, Option.none_or]

private theorem keyed_unique (h : p.keyed = q.keyed) :
    p.key = q.key ∧ p.before = q.before ∧ p.after = q.after ∧ p.rest = q.rest := by
  obtain ⟨key, h⟩ := name_unique p.named q.named (endsName_blanks p.beforeBlank _)
    (endsName_blanks q.beforeBlank _) h
  obtain ⟨before, h⟩ :=
    blanks_unique p.beforeBlank q.beforeBlank (starts_cons rfl _) (starts_cons rfl _) h
  obtain ⟨after, rest⟩ := blanks_unique p.afterBlank q.afterBlank p.restStarts q.restStarts
    (List.cons.inj h).2
  exact ⟨String.toList_inj.mp key, before, after, rest⟩

/-- The word `export` in front of a key is never the key of the same line. -/
theorem body_unique (h : p.body = q.body) : p.exported = q.exported ∧ p.keyed = q.keyed := by
  have apart {p q : Parts} {b : List Char} (hp : p.exported = some b) (hq : q.exported = none)
      (h : p.body = q.body) : False := by
    have word : exported? p.body = none := by
      rw [h, body, hq]
      exact exported?_of_keyed? q.keyed?_keyed
    rw [exported?_body hp] at word
    cases word
  cases hp : p.exported with
  | none =>
    cases hq : q.exported with
    | none =>
      rw [body, body, hp, hq] at h
      exact ⟨rfl, h⟩
    | some b => exact (apart hq hp h.symm).elim
  | some b =>
    cases hq : q.exported with
    | none => exact (apart hp hq h).elim
    | some b' =>
      rw [body, body, hp, hq] at h
      obtain ⟨blanks, keyed⟩ := blanks_unique (p.exportedBlank b hp).2 (q.exportedBlank b' hq).2
        p.starts_keyed q.starts_keyed (List.append_cancel_left h)
      exact ⟨congrArg some blanks, keyed⟩

/-- A line has no two ways to be put together. -/
theorem chars_injective (h : p.chars = q.chars) : p = q := by
  obtain ⟨indent, body⟩ :=
    blanks_unique p.indentBlank q.indentBlank p.starts_body q.starts_body h
  obtain ⟨exported, keyed⟩ := body_unique body
  obtain ⟨key, before, after, rest⟩ := keyed_unique keyed
  exact Parts.ext indent exported key before after rest

end Parts

/-- A text that is read as a key with its value has such parts behind any blanks. -/
theorem exists_parts_of_keyed? (h : keyed? s = some a) {indent : List Char} (blank : Blanks indent)
    (exported : Option (List Char)) (exportedBlank : ∀ b ∈ exported, b ≠ [] ∧ Blanks b) :
    ∃ p : Parts, p.indent = indent ∧ p.exported = exported ∧ p.keyed = s ∧ p.assignment = a := by
  obtain ⟨n, r, v, rfl, name, hr, rfl⟩ := keyed?_eq_some_iff.mp h
  obtain ⟨before, beforeBlank, -, hb⟩ := exists_blanks r
  obtain ⟨after, afterBlank, starts, ha⟩ := exists_blanks v
  rw [hr] at hb
  refine ⟨⟨indent, exported, String.ofList n, before, after, trimStart v, blank, exportedBlank,
    by rwa [String.toList_ofList], beforeBlank, afterBlank, starts⟩, rfl, rfl, ?_, rfl⟩
  have key : (String.ofList n).toList = n := String.toList_ofList
  change (String.ofList n).toList ++ (before ++ '=' :: (after ++ trimStart v)) = n ++ r
  rw [key, ← ha, ← hb]

private theorem exists_parts (h : Assignment.ofLine? line = some a) :
    ∃ p : Parts, p.chars = line ∧ p.assignment = a := by
  obtain ⟨indent, blank, -, hl⟩ := exists_blanks line
  rcases Option.or_eq_some_iff.mp h with h | ⟨-, h⟩
  · obtain ⟨c, r, word, hc, h⟩ := exported?_eq_some_iff.mp h
    obtain ⟨b, hb, -, hr⟩ := exists_blanks r
    obtain ⟨p, rfl, hp, keyed, rfl⟩ := exists_parts_of_keyed? h blank (some (c :: b)) (by
      rintro d ⟨⟩
      exact ⟨List.cons_ne_nil c b, List.forall_mem_cons.mpr ⟨hc, hb⟩⟩)
    have split : c :: r = (c :: b) ++ trimStart r := congrArg (c :: ·) hr
    refine ⟨p, ?_, rfl⟩
    rw [Parts.chars, Parts.body, hp, keyed, hl, word, split]
  · obtain ⟨p, rfl, hp, keyed, rfl⟩ := exists_parts_of_keyed? h blank none nofun
    refine ⟨p, ?_, rfl⟩
    rw [Parts.chars, Parts.body, hp]
    dsimp only
    rw [keyed, ← hl]

theorem starts_rest (h : Assignment.ofLine? line = some a) : Starts a.rest := by
  obtain ⟨p, -, rfl⟩ := exists_parts h
  exact p.restStarts

theorem mem_of_mem_rest (h : Assignment.ofLine? line = some a) {c : Char} (hc : c ∈ a.rest) :
    c ∈ line := by
  obtain ⟨p, rfl, rfl⟩ := exists_parts h
  exact p.mem_chars_of_mem_rest hc

/-- The numbered assignments in lines of which the first has the number `n`. -/
def assignmentsFrom (n : Nat) (ls : List (List Char)) : List (Nat × List Char × String) :=
  (ls.zipIdx n).filterMap fun (l, n) => (Assignment.ofLine? l).map fun a => (n, l, a.key)

private theorem assignmentsFrom_append (n : Nat) (ls ms : List (List Char)) :
    assignmentsFrom n (ls ++ ms) = assignmentsFrom n ls ++ assignmentsFrom (n + ls.length) ms := by
  rw [assignmentsFrom, List.zipIdx_append, List.filterMap_append]
  rfl

theorem assignmentsFrom_cons_of_none (n : Nat) (h : Assignment.ofLine? line = none)
    (ls : List (List Char)) : assignmentsFrom n (line :: ls) = assignmentsFrom (n + 1) ls := by
  simp [assignmentsFrom, List.zipIdx_cons, h]

theorem assignmentsFrom_cons_of_some (n : Nat) (h : Assignment.ofLine? line = some a)
    (ls : List (List Char)) :
    assignmentsFrom n (line :: ls) = (n, line, a.key) :: assignmentsFrom (n + 1) ls := by
  simp [assignmentsFrom, List.zipIdx_cons, h]

/-- A line assigns something exactly if it is put together from the parts of an assignment, and
there is one way to do so at most. Blank lines and comments are not put together so. A line that is
not leaves what is read as if it were not there, and a scan goes on behind it as it was in front of
it. -/
theorem ofLine?_grammar (line : List Char) :
    (∀ a, Assignment.ofLine? line = some a ↔ ∃ p : Parts, p.chars = line ∧ p.assignment = a) ∧
    (∀ p q : Parts, p.chars = line → q.chars = line → p = q) ∧
    ((∀ c ∈ (trimStart line).head?, c = '#') → ∀ p : Parts, p.chars ≠ line) ∧
    ((∀ p : Parts, p.chars ≠ line) → ∀ (t : String) (before after : List (List Char)),
      Text.lines t.toList = before ++ line :: after →
        parse t = Table.ofList ((before ++ after).filterMap entry?) ∧
        ∀ (s : DuplicateScan) (path : String), s.feed path t =
          (assignmentsFrom (before.length + 2) after).foldl (DuplicateScan.see path)
            ((assignmentsFrom 1 before).foldl (DuplicateScan.see path) s)) := by
  have grammar (a : Assignment) :
      Assignment.ofLine? line = some a ↔ ∃ p : Parts, p.chars = line ∧ p.assignment = a := by
    refine ⟨exists_parts, ?_⟩
    rintro ⟨p, rfl, rfl⟩
    exact p.ofLine?_chars
  refine ⟨grammar, ?_, ?_, ?_⟩
  · rintro p q rfl h
    exact Parts.chars_injective h.symm
  · rintro comment p rfl
    obtain ⟨c, r, hc, part⟩ := p.exists_body_eq
    rw [p.trimStart_chars, hc] at comment
    obtain rfl : c = '#' := comment c rfl
    cases part
  · intro other t before after ht
    have ignored : Assignment.ofLine? line = none := by
      rw [Option.eq_none_iff_forall_ne_some]
      intro a h
      obtain ⟨p, hp, -⟩ := (grammar a).mp h
      exact other p hp
    have unread : entry? line = none := by
      unfold entry?
      rw [ignored, Option.map_none]
    refine ⟨?_, fun s path => ?_⟩
    · rw [parse, ht, List.filterMap_append, List.filterMap_append, List.filterMap_cons_none unread]
    · have numbered : numberedAssignments t = assignmentsFrom 1 (before ++ line :: after) := by
        rw [← ht]
        rfl
      rw [DuplicateScan.feed, numbered, assignmentsFrom_append, List.foldl_append,
        assignmentsFrom_cons_of_none _ ignored, Nat.add_comm 1]

/-- A comment is no assignment, whatever stands in it, and the word `export` can be a key. -/
theorem ofLine?_grammar_comment :
    (∀ p : Parts, p.chars ≠ " # A=2".toList) ∧
    parse "A=1\n # A=2\nexport export =3" =
      Table.ofList (["A=1".toList, "export export =3".toList].filterMap entry?) ∧
    ∃ p : Parts, p.chars = "export export =3".toList ∧ p.assignment = ⟨"export", ['3']⟩ := by
  have sign : (trimStart " # A=2".toList).head? = some '#' := by decide +kernel
  have comment : ∀ p : Parts, p.chars ≠ " # A=2".toList :=
    (ofLine?_grammar " # A=2".toList).2.2.1 (by rw [sign]; rintro c ⟨⟩; rfl)
  have lines : Text.lines "A=1\n # A=2\nexport export =3".toList =
      ["A=1".toList] ++ " # A=2".toList :: ["export export =3".toList] := by decide +kernel
  have read : Assignment.ofLine? "export export =3".toList = some ⟨"export", ['3']⟩ := by
    decide +kernel
  exact ⟨comment, ((ofLine?_grammar " # A=2".toList).2.2.2 comment _ _ _ lines).1,
    ((ofLine?_grammar "export export =3".toList).1 _).mp read⟩

end LayeredConfig.EnvFile
