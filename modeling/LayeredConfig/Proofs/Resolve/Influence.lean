import LayeredConfig.Proofs.Resolve.Layers
import LayeredConfig.Proofs.Resolve.Soundness

/-! Which variables a value depends on: its own one, and those that the text of its own one refers
to. Nothing that is put in the place of a reference is looked at again, and no fallback that is a
text is looked into. -/
namespace LayeredConfig.View
open Resolving

variable {v w : View} {s : Setting} {name : String}

private theorem raw_congr (own : v.layers.lookup s.envVar = w.layers.lookup s.envVar)
    (mentioned : ∀ raw, v.layers.lookup s.envVar = some raw →
      Reference.SameIn raw v.layers.lookup w.layers.lookup) :
    v.raw s.envVar = w.raw s.envVar := by
  rw [View.raw, View.raw, ← own]
  cases text : v.layers.lookup s.envVar with
  | none => rfl
  | some raw => simp only [Layers.interpolate, Reference.interpolate_congr (mentioned raw text)]

/-- Neither the variable of a setting nor the text that it falls back on has anything in it. -/
structure Unfilled (v : View) (s : Setting) : Prop where
  lacks : v.lacks s
  fallback : ∀ t, s.fallback = some (.literal t) → t = ""

/-- A fallback that is a text is taken as it is. -/
theorem evalFallback_of_plain (plain : ∀ parts, s.fallback ≠ some (.deferred parts)) :
    ∃ t, (∀ x, s.fallback = some (.literal x) → t = some x) ∧
      ∀ (v : View) (inner : Setting → Resolving Value), v.evalFallback inner s = pure t := by
  cases hf : s.fallback with
  | none => exact ⟨none, nofun, fun v inner => by rw [evalFallback, hf]⟩
  | some b =>
    cases b with
    | literal x =>
      refine ⟨some x, fun y hy => ?_, fun v inner => by rw [evalFallback, hf]⟩
      cases hy
      rfl
    | deferred parts => exact absurd hf (plain parts)

/-- The step on a setting without a deferred fallback does not resolve any other setting. -/
theorem resolveStep_congr (hk : s.kind ≠ .fields)
    (plain : ∀ parts, s.fallback ≠ some (.deferred parts)) (raw : v.raw s.envVar = w.raw s.envVar)
    (finish : ∀ text, (text = none → v.Unfilled s) → v.finish s text = w.finish s text)
    (inner inner' : Setting → Resolving Value) :
    v.resolveStep inner s = w.resolveStep inner' s := by
  cases hr : v.raw s.envVar with
  | error e =>
    rw [resolveStep_of_raw_error hk hr, resolveStep_of_raw_error hk (raw ▸ hr)]
  | ok r =>
    rw [resolveStep_of_raw hk hr, resolveStep_of_raw hk (raw ▸ hr)]
    cases hp : Reference.present? r with
    | some t => rfl
    | none =>
      obtain ⟨t, literal, eval⟩ := evalFallback_of_plain plain
      dsimp only
      rw [eval, eval, pure_bind, pure_bind]
      refine finish _ fun none => ⟨⟨hk, r, hr, hp⟩, fun x hx => ?_⟩
      rw [literal x hx] at none
      simpa [Reference.present?] using none

/-- A value that is not made of fields, and has no deferred fallback, depends on its own variable
and on those that the references in its own text are to. Where neither gives anything for a required
value, the switches of placeholders and their root count as well. No other variable and no other
setting makes any difference, neither to what comes of it nor to what is left behind. -/
theorem get_determined_by_mentioned (root : v.root = w.root)
    (placeholders : v.placeholders = w.placeholders) (found : v.schema.find? name = some s)
    (found' : w.schema.find? name = some s) (hk : s.kind ≠ .fields)
    (plain : ∀ parts, s.fallback ≠ some (.deferred parts))
    (own : v.layers.lookup s.envVar = w.layers.lookup s.envVar)
    (mentioned : ∀ raw, v.layers.lookup s.envVar = some raw →
      Reference.SameIn raw v.layers.lookup w.layers.lookup)
    (switches : s.required = true → v.Unfilled s →
      v.layers.lookup placeholderVar = w.layers.lookup placeholderVar ∧
      v.layers.lookup (s.envVar ++ placeholderEnding) =
        w.layers.lookup (s.envVar ++ placeholderEnding) ∧
      v.layers.lookup rootVar = w.layers.lookup rootVar)
    (st : Session) : (v.get name).runFrom st = (w.get name).runFrom st := by
  have same (inner inner' : Setting → Resolving Value) :
      v.resolveStep inner s = w.resolveStep inner' s := by
    refine resolveStep_congr hk plain (raw_congr own mentioned) (fun text unfilled => ?_) _ _
    exact finish_congr root placeholders fun none required => switches required (unfilled none)
  obtain ⟨n, hn⟩ := exists_resolve_eq found
  obtain ⟨m, hm⟩ := exists_resolve_eq found'
  rw [get_of_find? found, get_of_find? found', hn, hm, same _ (w.resolveWithin m)]

/-- A required value whose references find nothing. -/
def hollow : Setting := Setting.ofVar "KEY" .text

/-- The switch of placeholders is on in the files, and there is a variable `C`. -/
def hollowInFiles : View :=
  ⟨Schema.build [] [hollow],
    ⟨{ vars := KeyMap.ofList [("KEY", .text "${A:-}$B"), ("C", .text "1")] },
      Table.ofList [("CONFIG_DUMMY_MODE", "1"), ("A", "")]⟩, none, none⟩

/-- The switch of placeholders is on in the process, another value uses `C`, and `C` is another. -/
def hollowInProcess : View :=
  ⟨Schema.build [] [Setting.ofVar "C" .integer, hollow],
    ⟨{ vars := KeyMap.ofList
        [("KEY", .text "${A:-}$B"), ("CONFIG_DUMMY_MODE", .text "1"), ("A", .text "")] },
      Table.ofList [("C", "2"), ("A", "$C")]⟩, none, none⟩

/-- The views show the same for what the text of the value refers to. -/
theorem sameIn_hollow (raw : String) (h : hollowInFiles.layers.lookup hollow.envVar = some raw) :
    Reference.SameIn raw hollowInFiles.layers.lookup hollowInProcess.layers.lookup := by
  have text : hollowInFiles.layers.lookup hollow.envVar = some "${A:-}$B" := by decide +kernel
  obtain rfl : "${A:-}$B" = raw := Option.some.inj (text.symm.trans h)
  have tokens : Reference.tokens "${A:-}$B".toList = [.braced ['A', ':', '-'], .bare ['B']] := by
    decide +kernel
  intro t ht n mentions
  rw [tokens, List.mem_pair] at ht
  rcases ht with rfl | rfl
  · rw [mentions.eq_splitName]
    decide +kernel
  · cases mentions
    decide +kernel

theorem get_determined_by_mentioned_hollow :
    hollowInFiles.layers.lookup "C" ≠ hollowInProcess.layers.lookup "C" ∧
    ∀ st, (hollowInFiles.get "key").runFrom st = (hollowInProcess.get "key").runFrom st :=
  ⟨by decide +kernel, get_determined_by_mentioned rfl rfl (s := hollow) (by decide +kernel)
    (by decide +kernel) (by decide) nofun (by decide +kernel) sameIn_hollow
    fun _ _ => by decide +kernel⟩

end LayeredConfig.View
