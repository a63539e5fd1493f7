import LayeredConfig.Proofs.Resolve.Soundness

/-! Fallbacks are raw texts that are not expanded. A setting that falls back on a text resolves like
one whose variable is expanded to that text, in whichever way the fallback is worked out; where the
variable cannot be expanded, it is not worked out at all. -/
namespace LayeredConfig.View
open Resolving

/-- The variable of a setting is not there, or nothing is left of its text when it is expanded. -/
def Hollow (v : View) (s : Setting) : Prop :=
  v.layers.lookup s.envVar = none ∨
    ∃ r, v.layers.lookup s.envVar = some r ∧ v.layers.interpolate r = .ok ""

/-- The variable of a setting has a text that is expanded to `d`. -/
def Expands (v : View) (s : Setting) (d : String) : Prop :=
  ∃ r, v.layers.lookup s.envVar = some r ∧ v.layers.interpolate r = .ok d

/-- The fallback of a setting is a text, or is worked out to it under the name of the setting. -/
def FallsBackOn (v : View) (s : Setting) (st : Session) (d : String) : Prop :=
  s.fallback = some (.literal d) ∨ ∃ parts, s.fallback = some (.deferred parts) ∧
    ((v.evalFallback v.resolve s).runFrom (st.entered s.name)).1 = .ok (some d)

def falling (v : View) (work : Resolving (Option String)) : Manner :=
  { v.manner with fallback := fun _ _ => work }

/-- Resolves a setting whose fallback is worked out by `work`. -/
def resolveFalling (v : View) (work : Resolving (Option String)) (s : Setting) : Resolving Value :=
  v.resolveIn (v.falling work) 1 s

variable {v : View} {s : Setting} {st mid : Session} {name d : String} {e : Failure}
  {work : Resolving (Option String)}

theorem Hollow.lacks (h : v.Hollow s) (hk : s.kind ≠ .fields) : v.lacks s := by
  refine ⟨hk, ?_⟩
  rcases h with absent | ⟨r, set, empty⟩
  · exact ⟨none, by rw [raw, absent], rfl⟩
  · exact ⟨some "", by rw [raw, set]; dsimp only; rw [empty]; rfl, rfl⟩

theorem Expands.raw (h : v.Expands s d) : v.raw s.envVar = .ok (some d) := by
  obtain ⟨r, set, text⟩ := h
  rw [View.raw, set]
  dsimp only
  rw [text]
  rfl

theorem raw_of_error {r : String} (set : v.layers.lookup s.envVar = some r)
    (failing : v.layers.interpolate r = .error e) : v.raw s.envVar = .error e := by
  rw [raw, set]
  dsimp only
  rw [failing]
  rfl

theorem FallsBackOn.eval (h : v.FallsBackOn s st d) :
    ((v.evalFallback v.resolve s).runFrom (st.entered s.name)).1 = .ok (some d) := by
  rcases h with literal | ⟨parts, -, run⟩
  · rw [evalFallback, literal]
    rfl
  · exact run

theorem present?_text (h : d ≠ "") : Reference.present? (some d) = some d := by
  simp [Reference.present?, h]

private theorem runFrom_resolveFalling (fresh : s.name ∉ st.inFlight) :
    (v.resolveFalling work s).runFrom st =
      let t := (v.stepIn (v.falling work) (v.falling work).below s).runFrom (st.entered s.name)
      (t.1, { t.2 with inFlight := t.2.inFlight.tail, journal := .left s.name :: t.2.journal }) :=
  resolveIn_succ_fresh fresh

/-- With nothing in the variable the text of the fallback is read. -/
theorem resolveFalling_of_hollow (hollow : v.Hollow s) (hk : s.kind ≠ .fields)
    (fresh : s.name ∉ st.inFlight) (h : d ≠ "")
    (done : (work.runFrom (st.entered s.name)).1 = .ok (some d)) :
    ((v.resolveFalling work s).runFrom st).1 = Coercion.coerce s d := by
  obtain ⟨-, r, hr, empty⟩ := hollow.lacks hk
  have worked : (v.falling work).fallback (v.falling work).below s = work := rfl
  rw [runFrom_resolveFalling fresh, stepIn_of_raw hk hr, empty]
  dsimp only
  rw [worked, runFrom_bind]
  rcases run : work.runFrom (st.entered s.name) with ⟨_ | t, after⟩
  · rw [run] at done
    cases done
  · rw [run] at done
    obtain rfl : t = some d := Except.ok.inj done
    dsimp only
    rw [present?_text h]
    rfl

/-- A variable that cannot be expanded is a failure, and the fallback is not worked out. -/
theorem resolveFalling_of_error (hk : s.kind ≠ .fields) (fresh : s.name ∉ st.inFlight)
    (hr : v.raw s.envVar = .error e) : (v.resolveFalling work s).runFrom st = (.error e,
      { st with journal := .left s.name :: .entered s.name :: st.journal }) := by
  rw [runFrom_resolveFalling fresh, stepIn_of_raw_error hk hr]
  rfl

/-- A setting whose variable has a text is read from it, with a fallback or without. -/
theorem get_of_expands (found : v.schema.find? name = some s) (hk : s.kind ≠ .fields)
    (fresh : name ∉ st.inFlight) (h : d ≠ "") (set : v.Expands s d) :
    ((v.get name).runFrom st).1 = Coercion.coerce s d := by
  obtain rfl := Schema.name_of_find? found
  obtain ⟨n, resolved⟩ := exists_resolve_eq found
  rw [get_of_find? found, resolved, runFrom_guarded, if_neg fresh, resolveStep_of_raw hk set.raw,
    present?_text h]
  rfl

private theorem get_eq_resolveFalling (found : v.schema.find? name = some s)
    (distinct : st.inFlight.Nodup) (declared : ∀ n ∈ st.inFlight, n ∈ v.schema.names) :
    (v.get name).runFrom st = (v.resolveFalling (v.evalFallback v.resolve s) s).runFrom st := by
  rw [get_of_find? found,
    resolve_eq_guarded v distinct declared (Schema.mem_list_of_find? found)]
  rfl

/-- A setting that falls back on a text, as its variable is not there or is expanded to nothing,
resolves to what the text is read as: to the same value or failure as without a fallback in any
configuration where the text of the variable is expanded to it. A variable that cannot be expanded
is the failure, and nothing of the fallback is worked out. All of this holds in whichever way a
fallback is worked out. -/
theorem fallback_counts_as_text (v : View) {name : String} {s : Setting}
    (found : v.schema.find? name = some s) (hk : s.kind ≠ .fields) {st : Session}
    (distinct : st.inFlight.Nodup) (declared : ∀ n ∈ st.inFlight, n ∈ v.schema.names)
    (fresh : name ∉ st.inFlight) :
    (∀ d, d ≠ "" → v.Hollow s → v.FallsBackOn s st d →
      ((v.get name).runFrom st).1 = Coercion.coerce s d ∧
      ∀ (w : View) st', w.schema.find? name = some { s with fallback := none } →
        name ∉ st'.inFlight → w.Expands s d →
          ((v.get name).runFrom st).1 = ((w.get name).runFrom st').1) ∧
    (∀ r e, v.layers.lookup s.envVar = some r → v.layers.interpolate r = .error e →
      (v.get name).runFrom st = (.error e,
        { st with journal := .left name :: .entered name :: st.journal })) ∧
    (v.get name).runFrom st = (v.resolveFalling (v.evalFallback v.resolve s) s).runFrom st ∧
    ∀ work : Resolving (Option String),
      (∀ d, d ≠ "" → v.Hollow s → (work.runFrom (st.entered name)).1 = .ok (some d) →
        ((v.resolveFalling work s).runFrom st).1 = Coercion.coerce s d) ∧
      ∀ r e, v.layers.lookup s.envVar = some r → v.layers.interpolate r = .error e →
        (v.resolveFalling work s).runFrom st = (.error e,
          { st with journal := .left name :: .entered name :: st.journal }) := by
  obtain rfl := Schema.name_of_find? found
  have falling := get_eq_resolveFalling found distinct declared
  refine ⟨fun d h hollow falls => ?_, fun r e set failing => ?_, falling, fun work =>
    ⟨fun d h hollow done => resolveFalling_of_hollow hollow hk fresh h done,
      fun r e set failing => resolveFalling_of_error hk fresh (raw_of_error set failing)⟩⟩
  · have read : ((v.get s.name).runFrom st).1 = Coercion.coerce s d := by
      rw [falling]
      exact resolveFalling_of_hollow hollow hk fresh h falls.eval
    refine ⟨read, fun w st' bare free set => ?_⟩
    -- How a text is read does not depend on the fallback.
    exact read.trans (get_of_expands bare hk free h set).symm
  · rw [falling]
    exact resolveFalling_of_error hk fresh (raw_of_error set failing)

/-- A number whose fallback is worked out to what looks like a reference. -/
def referringPort : Setting :=
  { Setting.ofVar "PORT" .integer with fallback := some (.deferred [.literal "$", .literal "X"]) }

/-- The text of the variable is expanded to nothing. -/
def hollowPort : View :=
  ⟨Schema.build [] [referringPort],
    ⟨{ vars := KeyMap.ofList [("PORT", .text "$NOTHING"), ("X", .text "80")] }, .empty⟩, none, none⟩

/-- Without the fallback, the text of the variable is expanded to the same reference. -/
def expandedPort : View :=
  ⟨Schema.build [] [{ referringPort with fallback := none }],
    ⟨{ vars := KeyMap.ofList [("A", .text "$X"), ("PORT", .text "$A")] }, .empty⟩, none, some true⟩

/-- The text of the variable cannot be expanded. -/
def demandingPort : View :=
  { hollowPort with layers := ⟨{ vars := KeyMap.ofList [("PORT", .text "$\x7bY:?no\x7d")] }, .empty⟩ }

theorem fallback_counts_as_text_unexpanded :
    ((hollowPort.get "port").runFrom .fresh).1 =
      .error (.bad "PORT" (.notInteger "$X")) ∧
    ((hollowPort.get "port").runFrom .fresh).1 =
      ((expandedPort.get "port").runFrom .fresh).1 ∧
    ((demandingPort.get "port").runFrom .fresh).1 = .error (.missing "Y" (.demanded "no")) := by
  have found : hollowPort.schema.find? "port" = some referringPort := by decide +kernel
  have free : "port" ∉ Session.fresh.inFlight := by decide
  have empty : hollowPort.Hollow referringPort :=
    .inr ⟨"$NOTHING", by decide +kernel, by decide +kernel⟩
  have falls : hollowPort.FallsBackOn referringPort Session.fresh "$X" :=
    .inr ⟨_, rfl, by decide +kernel⟩
  obtain ⟨read, same⟩ := (fallback_counts_as_text hollowPort found (by decide)
    (show Session.fresh.inFlight.Nodup by decide) (by decide) free).1 "$X" (by decide) empty falls
  obtain ⟨-, fails, -⟩ := fallback_counts_as_text demandingPort found (by decide)
    (show Session.fresh.inFlight.Nodup by decide) (by decide) free
  refine ⟨read.trans rfl, same expandedPort Session.fresh (by decide +kernel) free
    ⟨"$A", by decide +kernel, by decide +kernel⟩, ?_⟩
  rw [fails "$\x7bY:?no\x7d" (.missing "Y" (.demanded "no")) (by decide +kernel) (by decide +kernel)]

end LayeredConfig.View
