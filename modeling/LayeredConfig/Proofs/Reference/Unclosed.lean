import LayeredConfig.Proofs.Reference.Expansion

/-! Braces that are not closed. A dollar sign and a brace that no closing one follows are plain, and
the text behind them is read on for itself: names behind dollar signs in it are references still. -/
namespace LayeredConfig

namespace Reference
open Text

variable {look : String → Option String} {p q t : List Char} {ts us : List Token}

/-- No name follows a dollar sign. -/
def Nameless (t : List Char) : Prop := ∀ a c b, t = a ++ '$' :: c :: b → isNameStart c = false

/-! Texts that go on. -/

/-- What starts no reference starts none when a dollar sign follows it and no brace is closed. -/
theorem not_starts_append {r : List Char} (h : ¬ Starts r) (dollar : q.head? = some '$')
    (unclosed : '\x7d' ∉ q) : ¬ Starts (r ++ q) := by
  obtain ⟨q, rfl⟩ := List.head?_eq_some_iff.mp dollar
  rintro (⟨c, hc, start⟩ | ⟨body, split, closed⟩)
  · cases r with
    | nil =>
      obtain rfl : '$' = c := Option.some.inj hc
      cases start
    | cons d r => exact h (.inl ⟨c, hc, start⟩)
  · cases r with
    | nil => cases split
    | cons d r =>
      obtain ⟨rfl, rfl⟩ := List.cons.inj split
      rcases List.mem_append.mp closed with closed | closed
      · exact h (.inr ⟨r, rfl, closed⟩)
      · exact unclosed closed

/-- No token reaches into a text that starts with a dollar sign and closes no brace. -/
theorem Splits.append (dollar : q.head? = some '$') (unclosed : '\x7d' ∉ q) (h : Splits p ts)
    (rest : Splits q us) : Splits (p ++ q) (ts ++ us) := by
  induction h with
  | done => exact rest
  | plain other _ ih => exact .plain other ih
  | lone nothing _ ih => exact .lone (not_starts_append nothing dollar unclosed) ih
  | @bare n r _ name longest _ ih =>
    have ends : EndsName (r ++ q) := by
      intro c hc
      cases r with
      | nil =>
        obtain rfl : '$' = c := Option.some.inj (dollar.symm.trans hc)
        rfl
      | cons d r => exact longest c hc
    rw [List.append_assoc]
    exact .bare name ends ih
  | @braced e r _ nearest _ ih =>
    rw [List.append_assoc, List.cons_append]
    exact .braced nearest ih

/-- A dollar sign and a brace that is not closed are plain, and the text behind them has tokens of
its own. -/
theorem tokens_unclosed (unclosed : '\x7d' ∉ t) :
    tokens ('$' :: '\x7b' :: t) = .plain '$' :: .plain '\x7b' :: tokens t := by
  have nothing : ¬ Starts ('\x7b' :: t) := by
    rintro (⟨c, hc, start⟩ | ⟨body, split, closed⟩)
    · obtain rfl : '\x7b' = c := Option.some.inj hc
      cases start
    · obtain rfl : t = body := (List.cons.inj split).2
      exact unclosed closed
  have behind : Splits t (tokens t) := splits_iff.mpr rfl
  exact (Splits.lone nothing (.plain (by decide) behind)).eq_tokens.symm

private theorem tokens_append_unclosed (unclosed : '\x7d' ∉ t) (p : List Char) :
    tokens (p ++ '$' :: '\x7b' :: t) = tokens p ++ tokens ('$' :: '\x7b' :: t) := by
  have front : Splits p (tokens p) := splits_iff.mpr rfl
  have absent : '\x7d' ∉ '$' :: '\x7b' :: t := by simpa using unclosed
  exact (front.append rfl absent (splits_iff.mpr rfl)).eq_tokens.symm

/-! Expansion. -/

/-- Texts whose tokens come one after the other are expanded one after the other. -/
theorem interpolate_append {a b : String}
    (h : tokens (a ++ b).toList = tokens a.toList ++ tokens b.toList) :
    interpolate look (a ++ b) = do return (← interpolate look a) ++ (← interpolate look b) := by
  rw [interpolate, interpolate, interpolate, h, List.mapM_append]
  cases (tokens a.toList).mapM (expand look) with
  | error f => rfl
  | ok os =>
    cases (tokens b.toList).mapM (expand look) with
    | error f => rfl
    | ok os' => exact congrArg Except.ok String.join_append

/-- Where no brace is closed nothing is demanded. -/
theorem exists_interpolate {t : String} (unclosed : '\x7d' ∉ t.toList)
    (look : String → Option String) : ∃ r, interpolate look t = .ok r := by
  cases h : interpolate look t with
  | ok r => exact ⟨r, rfl⟩
  | error f =>
    obtain ⟨u, there, n, w, rfl, -⟩ := fails_iff_exists_unmet.mp ⟨f, h⟩
    refine absurd ?_ unclosed
    rw [← (splits_iff.mpr rfl : Splits t.toList (tokens t.toList)).flatMap_chars]
    exact List.mem_flatMap.mpr ⟨_, there, by simp [Token.chars]⟩

private theorem interpolate_append_unclosed {t : String} (unclosed : '\x7d' ∉ t.toList) (p : String)
    {r : String} (rest : interpolate look t = .ok r) :
    interpolate look (p ++ "$\x7b" ++ t) = (interpolate look p).map (· ++ "$\x7b" ++ r) := by
  have sign : interpolate look "$\x7b" = .ok "$\x7b" := rfl
  have behind : ("$\x7b" ++ t).toList = '$' :: '\x7b' :: t.toList := by simp
  have text : interpolate look ("$\x7b" ++ t) = .ok ("$\x7b" ++ r) := by
    rw [interpolate_append (behind ▸ tokens_unclosed unclosed), sign, rest]
    rfl
  have whole : tokens (p ++ ("$\x7b" ++ t)).toList =
      tokens p.toList ++ tokens ("$\x7b" ++ t).toList := by
    rw [String.toList_append, behind]
    exact tokens_append_unclosed unclosed p.toList
  rw [String.append_assoc, interpolate_append whole, text]
  cases interpolate look p with
  | error f => rfl
  | ok out => exact congrArg Except.ok String.append_assoc.symm

/-! Texts that are left as they are. -/

theorem Nameless.tail {c : Char} (h : Nameless (c :: t)) : Nameless t := by
  rintro a d b rfl
  exact h (c :: a) d b rfl

private theorem nameless_cons {c : Char} (h : Nameless t)
    (first : c = '$' → ∀ d ∈ t.head?, isNameStart d = false) : Nameless (c :: t) := by
  rintro (_ | ⟨e, a⟩) d b split
  · obtain ⟨rfl, rfl⟩ := List.cons.inj split
    exact first rfl d rfl
  · exact h a d b (List.cons.inj split).2

/-- Without names behind dollar signs, and without braces that are closed, all is plain. -/
theorem Splits.eq_map_plain (h : Splits t ts) (unclosed : '\x7d' ∉ t) (nameless : Nameless t) :
    ts = t.map .plain := by
  induction h with
  | done => rfl
  | plain _ _ ih => rw [ih (fun hm => unclosed (by simp [hm])) nameless.tail]; rfl
  | lone _ _ ih => rw [ih (fun hm => unclosed (by simp [hm])) nameless.tail]; rfl
  | @bare n r _ name _ _ _ =>
    obtain ⟨c, n, rfl⟩ := List.exists_cons_of_ne_nil name.ne_nil
    have start : isNameStart c = true := name.1
    rw [nameless [] c (n ++ r) rfl] at start
    cases start
  | braced _ _ _ => exact absurd (by simp) unclosed

private theorem interpolate_of_nameless {t : String} (unclosed : '\x7d' ∉ t.toList)
    (nameless : Nameless t.toList) : interpolate look t = .ok t := by
  have all : tokens t.toList = t.toList.map .plain :=
    (splits_iff.mpr rfl : Splits t.toList _).eq_map_plain unclosed nameless
  refine interpolate_eq_ok_iff.mpr ⟨t.toList.map Char.toString, ?_, ?_⟩
  · rw [all, List.forall₂_map_left_iff, List.forall₂_map_right_iff]
    exact List.forall₂_same.mpr fun c _ => .plain c
  · apply String.toList_inj.mp
    simp [String.toList_join, List.flatMap_map]

/-- Where no variable is set, names behind dollar signs make a text shorter. -/
theorem Splits.length_join_le (h : Splits t ts) (unclosed : '\x7d' ∉ t) {parts : List String}
    (each : List.Forall₂ (Expands fun _ => none) ts parts) :
    (String.join parts).length ≤ t.length ∧
      ((String.join parts).length = t.length → Nameless t) := by
  induction h generalizing parts with
  | done =>
    cases each
    exact ⟨Nat.le_refl _, fun _ a c b split => by simp at split⟩
  | @plain c r _ other _ ih =>
    obtain ⟨o, os, ⟨⟩, rest, rfl⟩ := List.forall₂_cons_left_iff.mp each
    obtain ⟨short, same⟩ := ih (fun hm => unclosed (by simp [hm])) rest
    have one : c.toString.length = 1 := String.length_singleton
    rw [String.join_cons, String.length_append, one, List.length_cons]
    exact ⟨by omega, fun long => nameless_cons (same (by omega)) fun e => absurd e other⟩
  | @lone r _ nothing _ ih =>
    obtain ⟨o, os, ⟨⟩, rest, rfl⟩ := List.forall₂_cons_left_iff.mp each
    obtain ⟨short, same⟩ := ih (fun hm => unclosed (by simp [hm])) rest
    have one : '$'.toString.length = 1 := rfl
    rw [String.join_cons, String.length_append, one, List.length_cons]
    refine ⟨by omega, fun long => nameless_cons (same (by omega)) fun _ d hd => ?_⟩
    exact Bool.eq_false_iff.mpr fun start => nothing (.inl ⟨d, hd, start⟩)
  | @bare n r _ _ _ _ ih =>
    obtain ⟨o, os, ⟨⟩, rest, rfl⟩ := List.forall₂_cons_left_iff.mp each
    obtain ⟨short, -⟩ := ih (fun hm => unclosed (by simp [hm])) rest
    rw [String.join_cons, String.length_append, List.length_append, List.length_cons]
    have none : ((none : Option String).getD "").length = 0 := rfl
    exact ⟨by omega, fun long => by omega⟩
  | braced _ _ _ => exact absurd (by simp) unclosed

private theorem nameless_of_interpolate {t : String} (unclosed : '\x7d' ∉ t.toList)
    (h : interpolate (fun _ => none) t = .ok t) : Nameless t.toList := by
  obtain ⟨parts, each, whole⟩ := interpolate_eq_ok_iff.mp h
  refine ((splits_iff.mpr rfl : Splits t.toList _).length_join_le unclosed each).2 ?_
  rw [← whole, String.length_toList]

end Reference

namespace Layers
open Reference

/-- A dollar sign and a brace that is not closed are copied, and what follows them is expanded for
itself, which always succeeds. The whole fails just where the text in front does. So what follows is
copied as it stands, whatever it stands behind and whatever is set, exactly when no name follows a
dollar sign in it. -/
theorem interpolate_unclosed (t : String) (unclosed : '\x7d' ∉ t.toList) :
    (∀ (l : Layers) (p : String), ∃ r, l.interpolate t = .ok r ∧
      l.interpolate (p ++ "$\x7b" ++ t) = (l.interpolate p).map (· ++ "$\x7b" ++ r)) ∧
    ((∀ (l : Layers) (p : String),
        l.interpolate (p ++ "$\x7b" ++ t) = (l.interpolate p).map (· ++ "$\x7b" ++ t)) ↔
      ∀ a c b, t.toList = a ++ '$' :: c :: b → Text.isNameStart c = false) := by
  refine ⟨fun l p => ?_, fun verbatim => ?_, fun nameless l p => ?_⟩
  · obtain ⟨r, rest⟩ := exists_interpolate unclosed l.lookup
    exact ⟨r, rest, interpolate_append_unclosed unclosed p rest⟩
  · -- It is enough to look at the text alone where no variable is set.
    obtain ⟨r, rest⟩ := exists_interpolate unclosed fun _ => none
    have expanded := interpolate_append_unclosed unclosed "" rest
    have copied := verbatim ⟨{ vars := KeyMap.empty }, .empty⟩ ""
    have same : "" ++ "$\x7b" ++ r = "" ++ "$\x7b" ++ t :=
      Except.ok.inj (expanded.symm.trans copied)
    obtain rfl : r = t := by simpa using same
    exact nameless_of_interpolate unclosed rest
  · exact interpolate_append_unclosed unclosed p (interpolate_of_nameless unclosed nameless)

/-- A brace that is opened twice, and signs that no name follows. -/
theorem interpolate_unclosed_twice :
    let t := "A:-$\x7bB $1 $$"
    '\x7d' ∉ t.toList ∧ ∀ (l : Layers) (p : String),
      l.interpolate (p ++ "$\x7b" ++ t) = (l.interpolate p).map (· ++ "$\x7b" ++ t) := by
  intro t
  have unclosed : '\x7d' ∉ t.toList := by decide
  have nameless : Nameless t.toList := nameless_of_interpolate unclosed (by decide +kernel)
  exact ⟨unclosed, (interpolate_unclosed t unclosed).2.mpr nameless⟩

/-- What follows a brace that is not closed is not copied as it stands. -/
theorem reference_behind_open_brace :
    let l : Layers := ⟨{ vars := KeyMap.empty }, Table.ofList [("B", "x")]⟩
    '\x7d' ∉ "A $B".toList ∧ l.interpolate "" = .ok "" ∧
      l.interpolate ("" ++ "$\x7b" ++ "A $B") = .ok "$\x7bA x" ∧
      l.interpolate ("" ++ "$\x7b" ++ "A $B") ≠ .ok ("" ++ "$\x7b" ++ "A $B") := by
  decide +kernel

end Layers

end LayeredConfig
