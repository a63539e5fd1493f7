import LayeredConfig.Proofs.Reference.Mentions
import LayeredConfig.Proofs.Resolve.Operation
import LayeredConfig.Proofs.Variables

/-! Resolution reads layers through look-ups and lists of names alone, hence it cannot tell layers
apart that list the same names and show the same under each name that is looked up. -/
namespace LayeredConfig

namespace Layers

variable {l l' : Layers}

/-- There is a variable with a name in one of the layers. -/
def Shows (l : Layers) (name : String) : Prop := name ∈ l.process.names ++ l.files.keys

theorem mem_namesFrom {name start : String} :
    name ∈ l.namesFrom start ↔ l.Shows name ∧ ∃ rest, name = start ++ rest := by
  have begins : start.toList.isPrefixOf name.toList = true ↔ ∃ rest, name = start ++ rest := by
    rw [List.isPrefixOf_iff_prefix]
    constructor
    · rintro ⟨rest, h⟩
      exact ⟨String.ofList rest, String.toList_injective (by simp [h])⟩
    · rintro ⟨rest, rfl⟩
      exact ⟨rest.toList, by simp⟩
  rw [namesFrom, KeyMap.mem_keys_ofList, List.map_map, ← begins, Shows, ProcessView.namesFrom,
    ← List.filter_append]
  simp only [Function.comp_def, List.map_id', List.mem_filter]

/-- The names in layers are listed in order and without repeats, so that only matters which there
are. -/
theorem namesFrom_congr (h : ∀ k, l.Shows k ↔ l'.Shows k) (start : String) :
    l.namesFrom start = l'.namesFrom start :=
  KeyMap.keys_congr fun k => mem_namesFrom.trans ((and_congr_left' (h k)).trans mem_namesFrom.symm)

private theorem foldlM_congr {α β : Type} {f g : α → β → Except Failure α} {names : List β}
    (h : ∀ n ∈ names, ∀ a, f a n = g a n) (a : α) : names.foldlM f a = names.foldlM g a := by
  induction names generalizing a with
  | nil => rfl
  | cons n names ih =>
    rw [List.foldlM_cons, List.foldlM_cons, h n List.mem_cons_self]
    congr 1
    funext a
    exact ih (fun m hm => h m (List.mem_cons_of_mem n hm)) a

/-- Fields are gathered alike where the same names are listed and look-ups give the same for them
and for proper names. -/
theorem gather_congr {pattern : String}
    (namesFrom : l.namesFrom (gatherStart pattern) = l'.namesFrom (gatherStart pattern))
    (lookup : ∀ k ∈ l.namesFrom (gatherStart pattern), l.lookup k = l'.lookup k)
    (interpolate : ∀ raw, l.interpolate raw = l'.interpolate raw) :
    l.gather pattern = l'.gather pattern := by
  rw [gather, gather, ← namesFrom]
  refine foldlM_congr (fun name there fields => ?_) _
  simp only [gatherOne, lookup name there, interpolate]

end Layers

namespace View

/-- The names that are looked up to resolve the settings of a view: those that texts refer to; for a
setting made of fields those that are listed for it, and for any other its variable and the switch
of its placeholder. -/
inductive Asked (v : View) : String → Prop
  | mentioned {k : String} (name : Text.IsName k.toList) : Asked v k
  | listed {s : Setting} (declared : s ∈ v.schema.list) (fields : s.kind = .fields) {k : String}
    (there : k ∈ v.layers.namesFrom (Layers.gatherStart s.envVar)) : Asked v k
  | own {s : Setting} (declared : s ∈ v.schema.list) (single : s.kind ≠ .fields) :
    Asked v s.envVar
  | switch {s : Setting} (declared : s ∈ v.schema.list) (single : s.kind ≠ .fields) :
    Asked v (s.envVar ++ placeholderEnding)

/-- Views of the same settings over layers that show the same wherever settings are looked up. -/
structure Alike (v w : View) : Prop where
  schema : v.schema = w.schema
  root : v.root = w.root
  placeholders : v.placeholders = w.placeholders
  lookup : ∀ k, v.Asked k → v.layers.lookup k = w.layers.lookup k
  namesFrom : ∀ s ∈ v.schema.list, s.kind = .fields →
    v.layers.namesFrom (Layers.gatherStart s.envVar) =
      w.layers.namesFrom (Layers.gatherStart s.envVar)

variable {v w : View} {s : Setting}

/-- Where there is no text for a required setting, the switches of placeholders and their root
count, and else no variable. -/
theorem finish_congr {s : Setting} {raw : Option String} (root : v.root = w.root)
    (placeholders : v.placeholders = w.placeholders)
    (switches : raw = none → s.required = true →
      v.layers.lookup placeholderVar = w.layers.lookup placeholderVar ∧
      v.layers.lookup (s.envVar ++ placeholderEnding) =
        w.layers.lookup (s.envVar ++ placeholderEnding) ∧
      v.layers.lookup rootVar = w.layers.lookup rootVar) :
    v.finish s raw = w.finish s raw := by
  cases raw with
  | some r => rfl
  | none =>
    cases required : s.required with
    | false => simp only [View.finish, required, Bool.not_false, if_true]
    | true =>
      obtain ⟨all, one, folder⟩ := switches rfl required
      have uses : v.usesPlaceholder s.envVar = w.usesPlaceholder s.envVar := by
        rw [usesPlaceholder, usesPlaceholder, placeholders, all, one]
      have made : v.placeholder s = w.placeholder s := by
        funext st
        rw [View.placeholder, View.placeholder, placeholderRoot, placeholderRoot, root, folder]
      simp only [View.finish, uses, made]

theorem Alike.interpolate (h : v.Alike w) (raw : String) :
    v.layers.interpolate raw = w.layers.interpolate raw := by
  refine Reference.interpolate_congr fun t ht n m => h.lookup _ (.mentioned ?_)
  rw [String.toList_ofList]
  exact m.isName ht

theorem Alike.gather (h : v.Alike w) (declared : s ∈ v.schema.list) (fields : s.kind = .fields) :
    v.layers.gather s.envVar = w.layers.gather s.envVar :=
  Layers.gather_congr (h.namesFrom s declared fields)
    (fun k there => h.lookup k (.listed declared fields there)) h.interpolate

theorem Alike.raw (h : v.Alike w) {key : String} (asked : v.Asked key) : v.raw key = w.raw key := by
  simp only [View.raw, h.lookup key asked, h.interpolate]

theorem Alike.finish (h : v.Alike w) (declared : s ∈ v.schema.list) (single : s.kind ≠ .fields)
    (raw : Option String) : v.finish s raw = w.finish s raw := by
  have all := h.lookup placeholderVar (.mentioned (by
    simp [placeholderVar, Text.IsName, Text.isNameStart, Text.isNamePart]))
  have folder := h.lookup rootVar (.mentioned (by
    simp [rootVar, Text.IsName, Text.isNameStart, Text.isNamePart]))
  exact finish_congr h.root h.placeholders fun _ _ =>
    ⟨all, h.lookup _ (.switch declared single), folder⟩

theorem Alike.getBy (h : v.Alike w) (R : Setting → Resolving Value) : v.getBy R = w.getBy R := by
  funext n
  rw [View.getBy, View.getBy, h.schema]

theorem Alike.fetchBy (h : v.Alike w) (R : Setting → Resolving Value) :
    v.fetchBy R = w.fetchBy R := by
  funext n f
  rw [View.fetchBy, View.fetchBy, h.schema]

theorem Alike.evalPart (h : v.Alike w) (R : Setting → Resolving Value) :
    v.evalPart R = w.evalPart R := by
  funext p
  cases p with
  | reference n rescue => cases rescue <;> simp only [View.evalPart, h.getBy]
  | fetch n d => simp only [View.evalPart, h.fetchBy]
  | names => simp only [View.evalPart, h.schema]
  | everything => simp only [View.evalPart, h.schema]
  | literal t => rfl
  | fail f => rfl

theorem Alike.resolveStep (h : v.Alike w) (declared : s ∈ v.schema.list)
    (R : Setting → Resolving Value) : v.resolveStep R s = w.resolveStep R s := by
  by_cases hk : s.kind = .fields
  · simp only [View.resolveStep, if_pos hk, h.gather declared hk]
  · have fallback : v.evalFallback R s = w.evalFallback R s := by
      simp only [View.evalFallback, h.evalPart]
    simp only [View.resolveStep, if_neg hk, h.raw (.own declared hk), h.finish declared hk,
      fallback]

theorem Alike.resolve (h : v.Alike w) (declared : s ∈ v.schema.list) :
    v.resolve s = w.resolve s := by
  have within (n : Nat) : ∀ s ∈ v.schema.list, v.resolveWithin n s = w.resolveWithin n s := by
    induction n with
    | zero => exact fun _ _ => rfl
    | succ n ih =>
      intro s hs
      rw [resolveWithin, resolveWithin, resolveStep_eq_of_declared ih, h.resolveStep hs]
  rw [View.resolve, View.resolve, ← h.schema, within _ s declared]

theorem Alike.tableBy (h : v.Alike w) (R : Setting → Resolving Value) :
    v.tableBy R = w.tableBy R := by
  rw [View.tableBy, View.tableBy, clash?, clash?, h.schema]

end View

/-- Operations do the same in views that show the same. -/
theorem Operation.run_congr {v w : View} (h : v.Alike w) (op : Operation) :
    op.run v = op.run w := by
  rw [← runBy_resolve, ← runBy_resolve, runBy_eq_of_declared op fun s => h.resolve]
  cases op with
  | extract want =>
    simp only [runBy, View.extractBy, h.tableBy]
  | _ => simp only [runBy, h.getBy, h.fetchBy, h.tableBy, h.schema]

end LayeredConfig
