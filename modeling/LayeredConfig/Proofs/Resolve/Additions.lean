import LayeredConfig.Proofs.Resolve.Bulk
import LayeredConfig.Proofs.Resolve.Soundness

/-! What resolving adds to the files: records of placeholders that were called for on the way, and
the folders that these records are in. -/
namespace LayeredConfig

namespace Resolving

/-- `PartOf y t x s`: in the course of the work `x` from the session `s`, the work `y` is done from
the session `t`. -/
inductive PartOf {α : Type} (y : Resolving α) (t : Session) :
    {β : Type} → Resolving β → Session → Prop
  | whole : PartOf y t y t
  | first {β γ : Type} {x : Resolving β} {f : β → Resolving γ} {s : Session}
    (part : PartOf y t x s) : PartOf y t (x >>= f) s
  | next {β γ : Type} {x : Resolving β} {f : β → Resolving γ} {s m : Session} {b : β}
    (done : x.runFrom s = (.ok b, m)) (part : PartOf y t (f b) m) : PartOf y t (x >>= f) s
  | tried {β : Type} {x : Resolving β} {g : Failure → Resolving β} {s : Session}
    (part : PartOf y t x s) : PartOf y t (tryCatch x g) s
  | instead {β : Type} {x : Resolving β} {g : Failure → Resolving β} {s m : Session} {e : Failure}
    (failed : x.runFrom s = (.error e, m)) (part : PartOf y t (g e) m) : PartOf y t (tryCatch x g) s
  | under {β : Type} {x : Resolving β} {s : Session} {name : String} (fresh : name ∉ s.inFlight)
    (part : PartOf y t x (s.entered name)) : PartOf y t (guarded name x) s

end Resolving

namespace View
open Resolving

/-- The place of the record that keeps the placeholder for a setting. -/
def recordPlace (v : View) (s : Setting) : List String :=
  FileTree.steps (Placeholder.recordPath v.placeholderRoot s.envVar)

/-- In the course of some work a placeholder is called for: the setting is required, its variable
has no text, its fallback came to none when it was worked out, and placeholders are on for it. -/
structure CallsFor (v : View) {α : Type} (x : Resolving α) (st : Session) (s : Setting) : Prop where
  declared : s ∈ v.schema.list
  required : s.required = true
  enabled : v.usesPlaceholder s.envVar = true
  lacks : v.lacks s
  fallback : ∃ n begun text mid, PartOf (v.resolveStep (v.resolveWithin n) s) begun x st ∧
    (v.evalFallback (v.resolveWithin n) s).runFrom begun = (.ok text, mid) ∧
    Reference.present? text = none

/-- What stands at a place is the record of a placeholder that some work calls for, or a folder on
the way to it. -/
def Adds (v : View) {α : Type} (x : Resolving α) (st : Session) (place : List String)
    (found : Option Node) : Prop :=
  ∃ s, v.CallsFor x st s ∧ (place <+: v.recordPlace s ∧ found = some .folder ∨
    place = v.recordPlace s ∧ ∃ content, found = some (.file content))

variable {v : View} {α β : Type} {x : Resolving α} {z : Resolving β} {st st' : Session}
  {s : Setting} {place : List String} {found : Option Node}

/-- What is called for in a part is called for in the whole. -/
theorem Adds.of_part (h : v.Adds x st place found)
    (part : ∀ (y : Resolving Value) t, PartOf y t x st → PartOf y t z st') :
    v.Adds z st' place found := by
  obtain ⟨s, calls, stands⟩ := h
  obtain ⟨n, begun, text, mid, inside, worked, none⟩ := calls.fallback
  exact ⟨s, ⟨calls.declared, calls.required, calls.enabled, calls.lacks,
    n, begun, text, mid, part _ _ inside, worked, none⟩, stands⟩

private theorem Straight.placeholder_addsTo (straight : v.Straight) (declared : s ∈ v.schema.list)
    (st : Session) :
    st.files.AddsTo ((v.placeholder s).runFrom st).2.files (v.recordPlace s) := by
  rw [runFrom_placeholder]
  exact Placeholder.fetch_addsTo straight.root (straight.keys s declared) s.scheme st.files st.random

/-- To finish a setting is to make its record, or changes no file. -/
theorem Straight.finish_addsTo (straight : v.Straight) (declared : s ∈ v.schema.list)
    (raw : Option String) (st : Session) :
    ((v.finish s raw).runFrom st).2.files = st.files ∨
      raw = none ∧ s.required = true ∧ v.usesPlaceholder s.envVar = true ∧
        st.files.AddsTo ((v.finish s raw).runFrom st).2.files (v.recordPlace s) := by
  rcases v.finish_cases s raw with ⟨r, hr⟩ | ⟨none, required, enabled, made⟩
  · rw [hr]
    exact .inl rfl
  · refine .inr ⟨none, required, enabled, ?_⟩
    have added := straight.placeholder_addsTo declared st
    rw [made, runFrom_bind]
    rcases hp : (v.placeholder s).runFrom st with ⟨_ | t, u⟩
    all_goals
      rw [hp] at added
      exact added

/-- Where the files have changed in the end, there is the record of a placeholder that was called
for, or a folder on the way to it. -/
theorem Straight.adds (straight : v.Straight) (hx : v.Composed x) (st : Session)
    (place : List String) :
    (x.runFrom st).2.files.node? place = st.files.node? place ∨
      v.Adds x st place ((x.runFrom st).2.files.node? place) := by
  induction hx generalizing st with
  | pure a => exact .inl rfl
  | lift r => exact .inl rfl
  | note e => exact .inl rfl
  | @step n s declared lacks _ ih =>
    have step := resolveStep_of_lacks lacks (v.resolveWithin n)
    have run := runFrom_bind (v.evalFallback (v.resolveWithin n) s)
      (fun t => v.finish s (Reference.present? t)) st
    rw [← step] at run
    have inside (y : Resolving Value) (t : Session)
        (part : PartOf y t (v.evalFallback (v.resolveWithin n) s) st) :
        PartOf y t (v.resolveStep (v.resolveWithin n) s) st := step ▸ .first part
    have before := ih st
    rw [run]
    rcases hf : (v.evalFallback (v.resolveWithin n) s).runFrom st with ⟨e | text, mid⟩
    · rw [hf] at before
      exact before.imp id (·.of_part inside)
    · rw [hf] at before
      dsimp only
      rcases straight.finish_addsTo declared (Reference.present? text) mid with
        same | ⟨none, required, enabled, made⟩
      · rw [same]
        exact before.imp id (·.of_part inside)
      · rcases made place with same | added
        · rw [same]
          exact before.imp id (·.of_part inside)
        · exact .inr ⟨s, ⟨declared, required, enabled, lacks, n, st, text, mid, .whole, hf, none⟩,
            added⟩
  | guarded name _ ih =>
    rw [runFrom_guarded]
    split
    · exact .inl rfl
    · next fresh => exact (ih (st.entered name)).imp id (·.of_part fun y t => .under fresh)
  | @bind α β x f _ _ ihx ihf =>
    have before := ihx st
    rw [runFrom_bind]
    rcases hx : x.runFrom st with ⟨e | a, mid⟩
    · rw [hx] at before
      exact before.imp id (·.of_part fun y t => .first)
    · rw [hx] at before
      dsimp only
      rcases ihf a mid with same | added
      · rw [same]
        exact before.imp id (·.of_part fun y t => .first)
      · exact .inr (added.of_part fun y t => .next hx)
  | @rescue α x y _ _ ihx ihy =>
    have before := ihx st
    rw [runFrom_tryCatch]
    rcases hx : x.runFrom st with ⟨e | a, mid⟩
    · rw [hx] at before
      dsimp only
      rcases ihy mid with same | added
      · rw [same]
        exact before.imp id (·.of_part fun y t => .tried)
      · exact .inr (added.of_part fun z t => .instead (g := fun _ => y) hx)
    · rw [hx] at before
      exact before.imp id (·.of_part fun y t => .tried)

/-- Of a run of operations, each adds what it calls for. -/
theorem Straight.adds_after (straight : v.Straight) (st : Session) (ops : List Operation)
    (place : List String) :
    (v.after st ops).files.node? place = st.files.node? place ∨
      ∃ before op later, ops = before ++ op :: later ∧
        v.Adds (op.run v) (v.after st before) place ((v.after st ops).files.node? place) := by
  induction ops generalizing st with
  | nil => exact .inl rfl
  | cons op r ih =>
    have here := straight.adds (.run v op) st place
    rcases ih ((op.run v).runFrom st).2 with same | ⟨before, op', later, rfl, added⟩
    · have same : (v.after st (op :: r)).files.node? place =
        ((op.run v).runFrom st).2.files.node? place := same
      rw [same]
      exact here.imp id fun added => ⟨[], op, r, rfl, added⟩
    · exact .inr ⟨op :: before, op', later, rfl, added⟩

/-- All that operations do to the files, whether they fail or not, is to add placeholders that they
call for. What stood before still stands; at a place where anything has changed there is the record
of a setting that an operation called for, or a folder on the way to it. Where placeholders are off
for all settings nothing changes. -/
theorem operations_only_add_records (straight : v.Straight) (st : Session) (ops : List Operation) :
    (∀ place x, st.files.Stands place x → (v.after st ops).files.Stands place x) ∧
    (∀ place, (v.after st ops).files.node? place = st.files.node? place ∨
      ∃ before op later, ops = before ++ op :: later ∧
        v.Adds (op.run v) (v.after st before) place ((v.after st ops).files.node? place)) ∧
    (v.placeholders.getD (isOn (v.layers.lookup placeholderVar)) = false →
      (∀ s ∈ v.schema.list, isOn (v.layers.lookup (s.envVar ++ placeholderEnding)) = false) →
      (v.after st ops).files = st.files) := by
  refine ⟨(straight.after st ops).1, straight.adds_after st ops, fun all each => ?_⟩
  refine congrArg FileTree.mk (funext fun place => ?_)
  refine (straight.adds_after st ops place).resolve_right ?_
  rintro ⟨before, op, later, -, s, calls, -⟩
  have enabled := calls.enabled
  rw [usesPlaceholder, all, each s calls.declared] at enabled
  cases enabled

/-- A note falls back on two values, one of which is given by a placeholder and the other by
nothing. -/
def brokenNote : View :=
  ⟨Schema.build []
    [{ Setting.ofVar "NOTE" .text with
        fallback := some (.deferred [.reference "token" none, .reference "port" none]) },
     Setting.ofVar "TOKEN" .text, Setting.ofVar "PORT" .integer],
    ⟨{ vars := KeyMap.empty }, Table.ofList [("TOKEN_DUMMY", "1")]⟩, none, none⟩

/-- The placeholder stays when all values fail. In a view without placeholders nothing is left. -/
theorem operations_only_add_records_broken_note :
    failure? (brokenNote.values.runFrom bareSession).1 = some (.missing "PORT" .required) ∧
    (∃ s, brokenNote.CallsFor (Operation.values.run brokenNote) bareSession s ∧
      ["tmp", "dummy_token.txt"] <+: brokenNote.recordPlace s) ∧
    (unsetView.after bareSession [.get "port", .values]).files = bareSession.files := by
  have straight : brokenNote.Straight := ⟨by decide +kernel, by decide +kernel⟩
  have straight' : unsetView.Straight := ⟨by decide +kernel, by decide +kernel⟩
  have written : ((brokenNote.after bareSession [.values]).files.node?
      ["tmp", "dummy_token.txt"]).isSome := by decide +kernel
  refine ⟨by decide +kernel, ?_, (operations_only_add_records straight' _ _).2.2 (by decide +kernel)
    (by decide +kernel)⟩
  rcases (operations_only_add_records straight bareSession [.values]).2.1 ["tmp", "dummy_token.txt"]
    with same | ⟨before, op, later, split, s, calls, stands⟩
  · rw [same] at written
    cases written
  · obtain ⟨rfl, rfl, rfl⟩ : before = [] ∧ op = .values ∧ later = [] := by
      rcases before with _ | ⟨_, _ | _⟩ <;> simp_all
    exact ⟨s, calls, stands.elim And.left fun there => there.1 ▸ List.prefix_refl _⟩

end View

end LayeredConfig
