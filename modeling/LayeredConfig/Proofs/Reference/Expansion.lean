import Mathlib.Data.List.Forall2
import LayeredConfig.Layers
import LayeredConfig.Proofs.Reference.Tokens

/-! The expansion of a text. Each token has one text in its place, or is a demand for a variable
that has no value; the first such demand is the failure of the whole. -/
namespace LayeredConfig

namespace Reference
open Text

variable {look : String → Option String} {t : Token} {e n d : List Char}

/-- A variable is not set, or empty. -/
def Lacks (look : String → Option String) (n : List Char) : Prop :=
  ∀ x, look (String.ofList n) = some x → x = ""

/-- A text in braces that is a name, alone or with one of the two operators behind it. -/
def Known (e : List Char) : Prop :=
  ∃ n, IsName n ∧ (e = n ∨ ∃ d, e = n ++ ':' :: '-' :: d ∨ e = n ++ ':' :: '?' :: d)

/-- `Expands look t o`: the text `o` stands for the token `t` where `look` gives the values of
variables. -/
inductive Expands (look : String → Option String) : Token → String → Prop where
  | plain (c : Char) : Expands look (.plain c) c.toString
  | bare (n : List Char) : Expands look (.bare n) ((look (String.ofList n)).getD "")
  | value {n : List Char} (name : IsName n) :
    Expands look (.braced n) ((look (String.ofList n)).getD "")
  | given {n : List Char} {x : String} (name : IsName n) (op : Char) (d : List Char)
    (operator : op = '-' ∨ op = '?') (there : look (String.ofList n) = some x) (nonempty : x ≠ "") :
    Expands look (.braced (n ++ ':' :: op :: d)) x
  | default {n : List Char} (name : IsName n) (d : List Char) (lacks : Lacks look n) :
    Expands look (.braced (n ++ ':' :: '-' :: d)) (String.ofList d)
  | verbatim {e : List Char} (unknown : ¬ Known e) :
    Expands look (.braced e) (String.ofList (Token.braced e).chars)

/-- A token demands the variable `n` with the words `w`, and it has no value. -/
def Unmet (look : String → Option String) (t : Token) (n w : List Char) : Prop :=
  t = .braced (n ++ ':' :: '?' :: w) ∧ IsName n ∧ Lacks look n

/-- What is wrong where a demand for the variable `n` with the words `w` is not met. -/
def demandFailure (n w : List Char) : Failure :=
  .missing (String.ofList n) (if w = [] then .unset else .demanded (String.ofList w))

private theorem demandFailure_message (n w : List Char) :
    (demandFailure n w).message =
      if w = [] then String.ofList n ++ ": parameter not set" else String.ofList w := by
  by_cases h : w = []
  · rw [demandFailure, if_pos h, if_pos h]
    rfl
  · rw [demandFailure, if_neg h, if_neg h]
    rfl

/-! What a text in braces asks for. -/

theorem splitName_operator (name : IsName n) (op : Char) (d : List Char) :
    splitName (n ++ ':' :: op :: d) = (n, ':' :: op :: d) :=
  splitName_of_isName name (by rintro c ⟨⟩; rfl)

theorem ofExpr_name (name : IsName n) : Query.ofExpr n = .value (String.ofList n) := by
  have split := splitName_of_isName (r := []) name (by rintro c ⟨⟩)
  rw [List.append_nil] at split
  obtain ⟨c, r, rfl⟩ := List.exists_cons_of_ne_nil name.ne_nil
  rw [Query.ofExpr, split]

theorem ofExpr_default (name : IsName n) (d : List Char) :
    Query.ofExpr (n ++ ':' :: '-' :: d) = .valueOr (String.ofList n) (String.ofList d) := by
  have split := splitName_operator name '-' d
  obtain ⟨c, r, rfl⟩ := List.exists_cons_of_ne_nil name.ne_nil
  rw [Query.ofExpr, split]
  rfl

theorem ofExpr_demand (name : IsName n) (w : List Char) :
    Query.ofExpr (n ++ ':' :: '?' :: w) = .demand (String.ofList n) (String.ofList w) := by
  have split := splitName_operator name '?' w
  obtain ⟨c, r, rfl⟩ := List.exists_cons_of_ne_nil name.ne_nil
  rw [Query.ofExpr, split]
  rfl

theorem ofExpr_of_not_known (h : ¬ Known e) : Query.ofExpr e = .unknown := by
  have whole := splitName_append e
  have name : (splitName e).1 ≠ [] → IsName (splitName e).1 := isName_of_splitName
  unfold Query.ofExpr
  split
  · rfl
  · next some split =>
    rw [split] at whole name
    exact absurd ⟨_, name some, .inl (whole.symm.trans (List.append_nil _))⟩ h
  · next d some split =>
    rw [split] at whole name
    exact absurd ⟨_, name some, .inr ⟨d, .inl whole.symm⟩⟩ h
  · next w some split =>
    rw [split] at whole name
    exact absurd ⟨_, name some, .inr ⟨w, .inr whole.symm⟩⟩ h
  · rfl

/-! What stands for a token. -/

private theorem present?_of_lacks (h : Lacks look n) :
    present? (look (String.ofList n)) = none := by
  rw [present?, Option.filter_eq_none_iff]
  simpa [Lacks] using h

private theorem present?_of_value {x : String} (there : look (String.ofList n) = some x)
    (nonempty : x ≠ "") :
    present? (look (String.ofList n)) = some x := by
  rw [there, present?, Option.filter_some, if_pos (by simpa using nonempty)]

private theorem Expands.expand_eq {o : String} (h : Expands look t o) : expand look t = .ok o := by
  cases h with
  | plain c => rfl
  | bare n => rfl
  | value name => rw [expand, ofExpr_name name]
  | given name op d operator there nonempty =>
    rcases operator with rfl | rfl
    · rw [expand, ofExpr_default name]
      dsimp only
      rw [present?_of_value there nonempty, Option.getD_some]
    · rw [expand, ofExpr_demand name]
      dsimp only
      rw [present?_of_value there nonempty]
  | default name d lacks =>
    rw [expand, ofExpr_default name]
    dsimp only
    rw [present?_of_lacks lacks, Option.getD_none]
  | verbatim unknown => rw [expand, ofExpr_of_not_known unknown]

private theorem Unmet.expand_eq (h : Unmet look t n d) :
    expand look t = .error (demandFailure n d) := by
  obtain ⟨rfl, name, lacks⟩ := h
  have none : String.ofList d = "" ↔ d = [] := by
    rw [← String.toList_inj, String.toList_ofList]
    rfl
  rw [expand, ofExpr_demand name]
  dsimp only
  rw [present?_of_lacks lacks]
  simp only [none, demandFailure]

/-- A token has a text in its place or is a demand that is not met. -/
theorem expands_or_unmet (look : String → Option String) (t : Token) :
    (∃ o, Expands look t o) ∨ ∃ n w, Unmet look t n w := by
  cases t with
  | plain c => exact .inl ⟨_, .plain c⟩
  | bare n => exact .inl ⟨_, .bare n⟩
  | braced e =>
    by_cases known : Known e
    · obtain ⟨n, name, rfl | ⟨d, form⟩⟩ := known
      · exact .inl ⟨_, .value name⟩
      · by_cases lacks : Lacks look n
        · rcases form with rfl | rfl
          · exact .inl ⟨_, .default name d lacks⟩
          · exact .inr ⟨n, d, rfl, name, lacks⟩
        · obtain ⟨x, there, nonempty⟩ : ∃ x, look (String.ofList n) = some x ∧ x ≠ "" := by
            simpa [Lacks] using lacks
          rcases form with rfl | rfl
          · exact .inl ⟨x, .given name '-' d (.inl rfl) there nonempty⟩
          · exact .inl ⟨x, .given name '?' d (.inr rfl) there nonempty⟩
    · exact .inl ⟨_, .verbatim known⟩

private theorem expand_eq_ok_iff {o : String} : expand look t = .ok o ↔ Expands look t o := by
  refine ⟨fun h => ?_, Expands.expand_eq⟩
  rcases expands_or_unmet look t with ⟨o', expands⟩ | ⟨n, w, unmet⟩
  · rw [expands.expand_eq] at h
    exact Except.ok.inj h ▸ expands
  · rw [unmet.expand_eq] at h
    cases h

private theorem expand_eq_error_iff {f : Failure} :
    expand look t = .error f ↔ ∃ n w, Unmet look t n w ∧ f = demandFailure n w := by
  constructor
  · intro h
    rcases expands_or_unmet look t with ⟨o, expands⟩ | ⟨n, w, unmet⟩
    · rw [expands.expand_eq] at h
      cases h
    · rw [unmet.expand_eq] at h
      exact ⟨n, w, unmet, (Except.error.inj h).symm⟩
  · rintro ⟨n, w, unmet, rfl⟩
    exact unmet.expand_eq

/-! What stands for a text. -/

private theorem mapM_of_forall₂ {α β ε : Type} {g : α → Except ε β} {l : List α} {os : List β}
    (h : List.Forall₂ (fun a o => g a = .ok o) l os) : l.mapM g = .ok os := by
  induction h with
  | nil => rfl
  | cons first _ ih =>
    rw [List.mapM_cons, first, ih]
    rfl

/-- One after the other succeeds, or fails with the first that fails. -/
private theorem mapM_cases {α β ε : Type} (g : α → Except ε β) (l : List α) :
    (∃ os, l.mapM g = .ok os ∧ List.Forall₂ (fun a o => g a = .ok o) l os) ∨
    ∃ before a after f, l = before ++ a :: after ∧ (∀ b ∈ before, ∃ o, g b = .ok o) ∧
      g a = .error f ∧ l.mapM g = .error f := by
  induction l with
  | nil => exact .inl ⟨[], rfl, .nil⟩
  | cons a r ih =>
    rw [List.mapM_cons]
    cases ha : g a with
    | error f => exact .inr ⟨[], a, r, f, rfl, by simp, ha, rfl⟩
    | ok o =>
      rcases ih with ⟨os, hr, each⟩ | ⟨before, b, after, f, rfl, fine, hb, hr⟩
      · rw [hr]
        exact .inl ⟨o :: os, rfl, .cons ha each⟩
      · rw [hr]
        exact .inr ⟨a :: before, b, after, f, rfl, List.forall_mem_cons.mpr ⟨⟨o, ha⟩, fine⟩, hb, rfl⟩

/-- A text is expanded into the texts that stand for its tokens, or the first of its demands that
is not met is the failure. -/
theorem interpolate_cases (look : String → Option String) (raw : String) :
    (∃ parts, List.Forall₂ (Expands look) (tokens raw.toList) parts ∧
      interpolate look raw = .ok (String.join parts)) ∨
    ∃ before t after n w, tokens raw.toList = before ++ t :: after ∧
      (∀ u ∈ before, ∃ o, Expands look u o) ∧ Unmet look t n w ∧
      interpolate look raw = .error (demandFailure n w) := by
  rcases mapM_cases (expand look) (tokens raw.toList) with ⟨parts, h, each⟩ |
    ⟨before, t, after, f, split, fine, failing, h⟩
  · refine .inl ⟨parts, each.imp fun t o ho => expand_eq_ok_iff.mp ho, ?_⟩
    rw [interpolate, h]
    rfl
  · obtain ⟨n, w, unmet, rfl⟩ := expand_eq_error_iff.mp failing
    refine .inr ⟨before, t, after, n, w, split, fun u hu => ?_, unmet, ?_⟩
    · obtain ⟨o, ho⟩ := fine u hu
      exact ⟨o, expand_eq_ok_iff.mp ho⟩
    · rw [interpolate, h]
      rfl

/-- A token is not both. -/
theorem Expands.not_unmet {o : String} {w : List Char} (h : Expands look t o) :
    ¬ Unmet look t n w := by
  intro unmet
  have both := h.expand_eq
  rw [unmet.expand_eq] at both
  cases both

section Outcome

variable {raw : String}

theorem interpolate_eq_ok_iff {out : String} :
    interpolate look raw = .ok out ↔
      ∃ parts, List.Forall₂ (Expands look) (tokens raw.toList) parts ∧ out = String.join parts := by
  constructor
  · intro h
    rcases interpolate_cases look raw with ⟨parts, each, whole⟩ | ⟨_, _, _, _, _, _, _, _, failed⟩
    · rw [h] at whole
      exact ⟨parts, each, Except.ok.inj whole⟩
    · rw [h] at failed
      cases failed
  · rintro ⟨parts, each, rfl⟩
    rw [interpolate, mapM_of_forall₂ (each.imp fun t o ho => ho.expand_eq)]
    rfl

/-- The first demand that is not met is the failure. -/
theorem first_unmet_of_error {f : Failure} (h : interpolate look raw = .error f) :
    ∃ before t after n w, tokens raw.toList = before ++ t :: after ∧
      (∀ u ∈ before, ∀ n w, ¬ Unmet look u n w) ∧ Unmet look t n w ∧ f = demandFailure n w := by
  rcases interpolate_cases look raw with ⟨parts, -, whole⟩ |
    ⟨before, t, after, n, w, ht, fine, unmet, failed⟩
  · rw [h] at whole
    cases whole
  · rw [h] at failed
    refine ⟨before, t, after, n, w, ht, fun u hu n' w' => ?_, unmet, Except.error.inj failed⟩
    obtain ⟨o, ho⟩ := fine u hu
    exact ho.not_unmet

theorem fails_iff_exists_unmet :
    (∃ f, interpolate look raw = .error f) ↔ ∃ t ∈ tokens raw.toList, ∃ n w, Unmet look t n w := by
  constructor
  · rintro ⟨f, h⟩
    obtain ⟨before, t, after, n, w, ht, -, unmet, -⟩ := first_unmet_of_error h
    exact ⟨t, ht ▸ List.mem_append_right before List.mem_cons_self, n, w, unmet⟩
  · rintro ⟨t, ht, n, w, unmet⟩
    rcases interpolate_cases look raw with ⟨parts, each, -⟩ | ⟨_, _, _, _, _, _, _, _, failed⟩
    · have met : ∀ t ∈ tokens raw.toList, ∃ o, Expands look t o :=
        ((List.forall₂_and_left _ _).mp (each.imp fun t o ho => ⟨⟨o, ho⟩, ho⟩)).1
      obtain ⟨o, ho⟩ := met t ht
      exact absurd unmet ho.not_unmet
    · exact ⟨_, failed⟩

end Outcome

end Reference

namespace Layers
open Reference

/-- A text is expanded in one pass over its tokens, which the text alone determines. What is put in
the place of a token is not looked at again. The expansion fails just where a demand is not met, and
then with the first such demand. -/
theorem interpolate_single_pass (raw : String) :
    ∃ ts, Splits raw.toList ts ∧ (∀ ts', Splits raw.toList ts' → ts' = ts) ∧
      ts.flatMap Token.chars = raw.toList ∧
      ∀ l : Layers,
        (∀ out, l.interpolate raw = .ok out ↔
          ∃ parts, List.Forall₂ (Expands l.lookup) ts parts ∧ out = String.join parts) ∧
        ((∃ f, l.interpolate raw = .error f) ↔ ∃ t ∈ ts, ∃ n w, Unmet l.lookup t n w) ∧
        ∀ f, l.interpolate raw = .error f →
          ∃ before t after n w, ts = before ++ t :: after ∧
            (∀ u ∈ before, ∀ n w, ¬ Unmet l.lookup u n w) ∧ Unmet l.lookup t n w ∧
            f = .missing (String.ofList n) (if w = [] then .unset else .demanded (String.ofList w)) ∧
            f.message = if w = [] then String.ofList n ++ ": parameter not set"
              else String.ofList w := by
  have split : Splits raw.toList (tokens raw.toList) := splits_iff.mpr rfl
  refine ⟨tokens raw.toList, split, fun ts' h => h.eq_tokens, split.flatMap_chars, fun l => ?_⟩
  refine ⟨fun out => interpolate_eq_ok_iff, fails_iff_exists_unmet, fun f hf => ?_⟩
  obtain ⟨before, t, after, n, w, ht, met, unmet, rfl⟩ := first_unmet_of_error hf
  exact ⟨before, t, after, n, w, ht, met, unmet, rfl, demandFailure_message n w⟩

end Layers

end LayeredConfig
