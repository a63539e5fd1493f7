import LayeredConfig.Proofs.Text.Name
import LayeredConfig.Proofs.Text.Pieces
import LayeredConfig.Reference

/-! The tokens of a text. There is one way to read a text as plain characters and references from
left to right, and it depends on nothing but the text. -/
namespace LayeredConfig.Reference
open Text

/-- A dollar sign in front of `r` starts a reference: a name follows, or a brace that is closed. -/
def Starts (r : List Char) : Prop :=
  (∃ c ∈ r.head?, isNameStart c = true) ∨ ∃ body, r = '\x7b' :: body ∧ '\x7d' ∈ body

/-- `Splits s ts`: read from left to right, the text `s` has the tokens `ts`. -/
inductive Splits : List Char → List Token → Prop where
  | done : Splits [] []
  | plain {c : Char} {r : List Char} {ts : List Token} (other : c ≠ '$') (rest : Splits r ts) :
    Splits (c :: r) (.plain c :: ts)
  | lone {r : List Char} {ts : List Token} (nothing : ¬ Starts r) (rest : Splits r ts) :
    Splits ('$' :: r) (.plain '$' :: ts)
  | bare {n r : List Char} {ts : List Token} (name : IsName n) (longest : EndsName r)
    (rest : Splits r ts) : Splits ('$' :: n ++ r) (.bare n :: ts)
  | braced {e r : List Char} {ts : List Token} (nearest : '\x7d' ∉ e) (rest : Splits r ts) :
    Splits ('$' :: '\x7b' :: e ++ '\x7d' :: r) (.braced e :: ts)

/-- The texts of the tokens make up the text. -/
theorem Splits.flatMap_chars {s : List Char} {ts : List Token} (h : Splits s ts) :
    ts.flatMap Token.chars = s := by
  induction h with
  | done => rfl
  | plain _ _ ih => rw [List.flatMap_cons, ih]; rfl
  | lone _ _ ih => rw [List.flatMap_cons, ih]; rfl
  | bare _ _ _ ih => rw [List.flatMap_cons, ih]; rfl
  | braced _ _ ih => rw [List.flatMap_cons, ih]; simp [Token.chars]

/-! What a dollar sign starts. -/

private theorem opened?_name {n r : List Char} (name : IsName n) (longest : EndsName r) :
    opened? (n ++ r) = some (.bare n) := by
  have split := splitName_of_isName name longest
  cases n with
  | nil => exact name.elim
  | cons c n =>
    have hc : c ≠ '\x7b' := by
      rintro rfl
      cases name.1
    rw [List.cons_append] at split ⊢
    rw [opened?.eq_2 _ fun body e => hc (List.cons.inj e).1, split]

private theorem opened?_braced {e : List Char} (nearest : '\x7d' ∉ e) (r : List Char) :
    opened? ('\x7b' :: e ++ '\x7d' :: r) = some (.braced e) := by
  rw [List.cons_append, opened?, cutAt_append nearest, Option.map_some]

private theorem opened?_of_not_starts {r : List Char} (h : ¬ Starts r) : opened? r = none := by
  unfold opened?
  split
  · next body =>
    have unclosed : '\x7d' ∉ body := fun hm => h (.inr ⟨body, rfl, hm⟩)
    rw [cutAt_of_not_mem unclosed, Option.map_none]
  · have none : (splitName r).1 = [] := by
      apply splitName_eq_nil_iff.mpr
      intro c hc
      apply Bool.eq_false_iff.mpr
      exact fun start => h (.inl ⟨c, hc, start⟩)
    rw [none]

/-! The tokens are read one after the other. -/

private theorem tokensAfter_eq (skip : Nat) (s : List Char) :
    tokensAfter skip s = tokens (s.drop skip) := by
  induction s generalizing skip with
  | nil => cases skip <;> rfl
  | cons c r ih =>
    cases skip with
    | zero => rfl
    | succ n => exact ih n

private theorem tokens_of_opened {s r : List Char} {t : Token} (h : opened? s = some t)
    (text : '$' :: s = t.chars ++ r) : tokens ('$' :: s) = t :: tokens r := by
  have rest : s.drop (t.chars.length - 1) = r := by
    have behind : ('$' :: s).drop t.chars.length = r := by rw [text, List.drop_left]
    obtain ⟨k, hk⟩ : ∃ k, t.chars.length = k + 1 := by cases t <;> exact ⟨_, rfl⟩
    rw [hk] at behind ⊢
    exact behind
  rw [tokens, tokensAfter, if_pos rfl, h, ← rest, ← tokensAfter_eq]

private theorem tokens_of_not_opened {c : Char} (r : List Char)
    (h : (if c = '$' then opened? r else none) = none) :
    tokens (c :: r) = .plain c :: tokens r := by
  rw [tokens, tokensAfter, h]
  rfl

theorem Splits.eq_tokens {s : List Char} {ts : List Token} (h : Splits s ts) : ts = tokens s := by
  induction h with
  | done => rfl
  | plain other _ ih => rw [tokens_of_not_opened _ (if_neg other), ih]
  | lone nothing _ ih =>
    rw [tokens_of_not_opened _ ((if_pos rfl).trans (opened?_of_not_starts nothing)), ih]
  | bare name longest _ ih =>
    rw [List.cons_append, tokens_of_opened (opened?_name name longest) rfl, ih]
  | @braced e r _ nearest _ ih =>
    have text : '$' :: ('\x7b' :: e ++ '\x7d' :: r) = (Token.braced e).chars ++ r := by
      simp [Token.chars]
    rw [List.cons_append, tokens_of_opened (opened?_braced nearest r) text, ih]

/-- Every text goes on with some token. -/
theorem exists_token {s : List Char} (h : s ≠ []) :
    ∃ (t : Token) (r : List Char), r.length < s.length ∧ ∀ ts, Splits r ts → Splits s (t :: ts) := by
  obtain ⟨c, r, rfl⟩ := List.exists_cons_of_ne_nil h
  by_cases other : c = '$'
  · subst other
    by_cases starts : Starts r
    · rcases starts with ⟨c, hc, start⟩ | ⟨body, rfl, closed⟩
      · have some : (splitName r).1 ≠ [] := by
          intro none
          rw [splitName_eq_nil_iff.mp none c hc] at start
          cases start
        refine ⟨.bare (splitName r).1, (splitName r).2, ?_, fun ts rest => ?_⟩
        · have whole := congrArg List.length (splitName_append r)
          rw [List.length_append] at whole
          rw [List.length_cons]
          omega
        · have split := Splits.bare (isName_of_splitName some) (endsName_splitName some) rest
          rwa [List.cons_append, splitName_append] at split
      · obtain ⟨e, r, rfl, nearest⟩ := List.eq_append_cons_of_mem closed
        refine ⟨.braced e, r, ?_, fun ts rest => .braced nearest rest⟩
        simp only [List.length_cons, List.length_append]
        omega
    · exact ⟨.plain '$', r, Nat.lt_succ_self _, fun ts rest => .lone starts rest⟩
  · exact ⟨.plain c, r, Nat.lt_succ_self _, fun ts rest => .plain other rest⟩

private theorem exists_splits (s : List Char) : ∃ ts, Splits s ts := by
  by_cases h : s = []
  · subst h
    exact ⟨[], .done⟩
  · obtain ⟨t, r, shorter, next⟩ := exists_token h
    obtain ⟨ts, rest⟩ := exists_splits r
    exact ⟨t :: ts, next ts rest⟩
termination_by s.length

/-- The tokens of a text are the one way to split it. -/
theorem splits_iff {s : List Char} {ts : List Token} : Splits s ts ↔ ts = tokens s := by
  refine ⟨Splits.eq_tokens, ?_⟩
  rintro rfl
  obtain ⟨ts, h⟩ := exists_splits s
  exact h.eq_tokens ▸ h

end LayeredConfig.Reference
