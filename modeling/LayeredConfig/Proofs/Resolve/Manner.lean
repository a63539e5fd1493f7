import LayeredConfig.Proofs.Resolve.Operation

/-! Resolution in other manners: with parts of it exchanged, so that what does not depend on them
can be stated. -/
namespace LayeredConfig

namespace Resolving

/-- Works under a name, in flight already or not. -/
def named {α : Type} (name : String) (work : Resolving α) : Resolving α := fun s =>
  let (r, t) := work.run.run
    { s with inFlight := name :: s.inFlight, journal := .entered name :: s.journal }
  (r, { t with inFlight := t.inFlight.tail, journal := .left name :: t.journal })

theorem runFrom_named {α : Type} (name : String) (x : Resolving α) (s : Session) :
    (named name x).runFrom s =
      let t := x.runFrom
        { s with inFlight := name :: s.inFlight, journal := .entered name :: s.journal }
      (t.1, { t.2 with inFlight := t.2.inFlight.tail, journal := .left name :: t.2.journal }) := rfl

end Resolving

theorem Reference.ne_empty_of_present? {v : Option String} {r : String}
    (h : Reference.present? v = some r) : r ≠ "" := by
  simpa using (Option.filter_eq_some_iff.mp h).2

/-- What becomes of a setting that is in flight already, given the work on it, and of one beyond the
depth; how texts are read, and how fallbacks are worked out. -/
structure Manner where
  again : Setting → Resolving Value → Resolving Value
  below : Setting → Resolving Value
  read : Setting → String → Except Failure Value
  fallback : (Setting → Resolving Value) → Setting → Resolving (Option String)

namespace View
open Resolving

/-- Fails on a setting that is needed for its own value. -/
def refuse (s : Setting) (_ : Resolving Value) : Resolving Value := throw (.circular s.name)

def manner (v : View) : Manner where
  again := refuse
  below s := throw (.circular s.name)
  read := Coercion.coerce
  fallback := v.evalFallback

def finishIn (v : View) (m : Manner) (s : Setting) (raw : Option String) : Resolving Value :=
  match raw with
  | some r => Resolving.lift (m.read s r)
  | none =>
    if !s.required then Resolving.lift (m.read s "")
    else if v.usesPlaceholder s.envVar then return .text (← v.placeholder s)
    else throw (.missing s.envVar .required)

def stepIn (v : View) (m : Manner) (inner : Setting → Resolving Value) (s : Setting) :
    Resolving Value :=
  if s.kind = .fields then return .fields (← Resolving.lift (v.layers.gather s.envVar))
  else do
    match Reference.present? (← Resolving.lift (v.raw s.envVar)) with
    | some r => v.finishIn m s (some r)
    | none => v.finishIn m s (Reference.present? (← m.fallback inner s))

/-- Resolves a setting in a manner, with references nested to a depth. -/
def resolveIn (v : View) (m : Manner) : Nat → Setting → Resolving Value
  | 0, s => m.below s
  | n + 1, s => fun st =>
    let work := named s.name (v.stepIn m (v.resolveIn m n) s)
    if s.name ∈ st.inFlight then m.again s work st else work st

variable {v : View} {m m' : Manner} {s : Setting} {st : Session} {n : Nat}

theorem resolveIn_succ_fresh (h : s.name ∉ st.inFlight) :
    (v.resolveIn m (n + 1) s).runFrom st =
      (named s.name (v.stepIn m (v.resolveIn m n) s)).runFrom st :=
  if_neg h

/-- The step on a setting that is no collection of fields, when its variable has been read. -/
theorem stepIn_of_raw (hk : s.kind ≠ .fields) {r : Option String} (hr : v.raw s.envVar = .ok r)
    (inner : Setting → Resolving Value) :
    v.stepIn m inner s = match Reference.present? r with
      | some t => v.finishIn m s (some t)
      | none => m.fallback inner s >>= fun t => v.finishIn m s (Reference.present? t) := by
  rw [stepIn, if_neg hk, hr]
  rfl

/-- A variable that cannot be expanded is all that counts. -/
theorem stepIn_of_raw_error (hk : s.kind ≠ .fields) {e : Failure} (hr : v.raw s.envVar = .error e)
    (inner : Setting → Resolving Value) : v.stepIn m inner s = Resolving.lift (.error e) := by
  rw [stepIn, if_neg hk, hr]
  rfl

/-- Fields are gathered from the layers alone. -/
theorem stepIn_of_fields (hk : s.kind = .fields) (inner : Setting → Resolving Value) :
    v.stepIn m inner s = Resolving.lift ((v.layers.gather s.envVar).map .fields) := by
  rw [stepIn, if_pos hk]
  cases v.layers.gather s.envVar <;> rfl

/-- A required setting is never finished by reading an empty text. -/
theorem finishIn_congr
    (read : ∀ raw, ¬(s.required = true ∧ raw = "") → m.read s raw = m'.read s raw)
    (r : Option String) :
    v.finishIn m s (Reference.present? r) = v.finishIn m' s (Reference.present? r) := by
  cases hr : Reference.present? r with
  | some t => rw [finishIn, finishIn, read t fun h => Reference.ne_empty_of_present? hr h.2]
  | none =>
    cases required : s.required with
    | false => simp only [finishIn, read "" (by simp [required])]
    | true => simp only [finishIn, required, Bool.not_true, Bool.false_eq_true, if_false]

/-- Manners that read texts alike, save empty ones of required settings, and work out fallbacks
alike where these count, do not differ in the step on a setting. -/
theorem stepIn_congr {inner : Setting → Resolving Value}
    (read : ∀ raw, ¬(s.required = true ∧ raw = "") → m.read s raw = m'.read s raw)
    (fallback : v.lacks s → m.fallback inner s = m'.fallback inner s) :
    v.stepIn m inner s = v.stepIn m' inner s := by
  have finish := finishIn_congr (v := v) read
  by_cases hk : s.kind = .fields
  · rw [stepIn_of_fields hk, stepIn_of_fields hk]
  · cases hr : v.raw s.envVar with
    | error e => rw [stepIn_of_raw_error hk hr, stepIn_of_raw_error hk hr]
    | ok r =>
      rw [stepIn_of_raw hk hr, stepIn_of_raw hk hr]
      cases hp : Reference.present? r with
      | some t => simpa only [hp] using finish r
      | none =>
        dsimp only
        rw [fallback ⟨hk, r, hr, hp⟩]
        exact congrArg _ (funext finish)

/-- A manner with the check and the bound of the view resolves like the view if it reads texts
alike, save empty ones of required settings, and works out fallbacks alike where these count. -/
theorem resolveIn_eq_resolveWithin (m : Manner) (again : m.again = v.manner.again)
    (below : m.below = v.manner.below)
    (read : ∀ s raw, ¬(s.required = true ∧ raw = "") → m.read s raw = Coercion.coerce s raw)
    (fallback : ∀ inner s, v.lacks s → m.fallback inner s = v.evalFallback inner s) (n : Nat) :
    v.resolveIn m n = v.resolveWithin n := by
  induction n with
  | zero => exact below
  | succ n ih =>
    funext s st
    have step : v.stepIn m (v.resolveWithin n) s = v.stepIn v.manner (v.resolveWithin n) s :=
      stepIn_congr (read s) (fallback _ s)
    rw [resolveIn, ih, step, again]
    rfl

end View

end LayeredConfig
