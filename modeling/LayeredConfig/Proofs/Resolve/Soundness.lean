import LayeredConfig.Proofs.Resolve.InFlight
import LayeredConfig.Proofs.Resolve.Settled

/-! What settings resolve to: a value of the declared kind, no value where none is required, or a
placeholder. The reader of a required setting never meets an empty text. -/
namespace LayeredConfig

namespace Value

def kind? : Value → Option Kind
  | .absent => none
  | .text _ => some .text
  | .integer _ => some .integer
  | .boolean _ => some .boolean
  | .url _ => some .url
  | .addresses _ => some .addresses
  | .fields _ => some .fields

end Value

/-- What an empty text is read as, where nothing is required. -/
def Kind.ofEmpty : Kind → Value
  | .addresses => .addresses []
  | _ => .absent

namespace Coercion

variable {s : Setting} {raw : String} {x : Value}

/-- A text with something in it is read as a value of the declared kind. -/
theorem kind_of_coerce (hk : s.kind ≠ .fields) (h : raw ≠ "") (hx : coerce s raw = .ok x) :
    x.kind? = some s.kind := by
  unfold coerce text integer boolean url addresses at hx
  simp only [if_neg h] at hx
  cases kind : s.kind with
  | fields => exact absurd kind hk
  | _ =>
    -- Each reader gives values of one kind alone.
    simp only [kind] at hx
    repeat' split at hx
    all_goals cases hx
    all_goals rfl

private theorem coerce_empty (h : s.required = false) : coerce s "" = .ok s.kind.ofEmpty := by
  unfold coerce
  cases kind : s.kind with
  | text => simp [text, h, Kind.ofEmpty]
  | addresses =>
    have none : Address.readList "" = .ok [] := by decide +kernel
    simp only [addresses, none, Kind.ofEmpty]
  | _ => rfl

end Coercion

/-- The session in which the work on a setting begins. -/
def Session.entered (st : Session) (name : String) : Session :=
  { st with inFlight := name :: st.inFlight, journal := .entered name :: st.journal }

namespace View
open Resolving

/-- Neither the variable of a setting nor its fallback gives a text with something in it. The
fallback is worked out under the name of the setting, and leaves the session `mid`. -/
structure Bare (v : View) (s : Setting) (st mid : Session) : Prop where
  raw : ∃ r, v.raw s.envVar = .ok r ∧ Reference.present? r = none
  fallback : ∃ t, (v.evalFallback v.resolve s).runFrom (st.entered s.name) = (.ok t, mid) ∧
    Reference.present? t = none

/-- A value is a placeholder: it is required and nothing else gives it, and placeholders are on. -/
def Supplied (v : View) (s : Setting) (st : Session) (x : Value) : Prop :=
  ∃ mid, v.Bare s st mid ∧ s.required ∧ v.usesPlaceholder s.envVar ∧
    ∃ t, ((v.placeholder s).runFrom mid).1 = .ok t ∧ x = .text t

variable {v : View} {s : Setting} {st mid : Session} {x : Value}

/-- The outcome of a setting that is not in flight is that of the step which resolves it. -/
theorem resolve_fresh (distinct : st.inFlight.Nodup)
    (declared : ∀ n ∈ st.inFlight, n ∈ v.schema.names) (hs : s ∈ v.schema.list)
    (fresh : s.name ∉ st.inFlight) :
    ((v.resolve s).runFrom st).1 =
      ((v.resolveStep v.resolve s).runFrom (st.entered s.name)).1 := by
  rw [resolve_eq_guarded v distinct declared hs, runFrom_guarded, if_neg fresh]
  rfl

private theorem finish_none_optional (h : s.required = false) :
    ((v.finish s none).runFrom mid).1 = .ok s.kind.ofEmpty := by
  have run : ((v.finish s none).runFrom mid).1 = Coercion.coerce s "" := by
    rw [finish, h]
    rfl
  rw [run, Coercion.coerce_empty h]

private theorem finish_none_refused (h : s.required = true)
    (off : v.usesPlaceholder s.envVar = false) :
    ((v.finish s none).runFrom mid).1 = .error (.missing s.envVar .required) := by
  simp only [finish, h, off]
  rfl

private theorem finish_none_supplied (h : s.required = true)
    (on : v.usesPlaceholder s.envVar = true)
    (hx : ((v.finish s none).runFrom mid).1 = .ok x) :
    ∃ t, ((v.placeholder s).runFrom mid).1 = .ok t ∧ x = .text t := by
  simp only [finish, h, on] at hx
  change ((v.placeholder s >>= fun t => pure (.text t)).runFrom mid).1 = .ok x at hx
  rw [runFrom_bind] at hx
  rcases hp : (v.placeholder s).runFrom mid with ⟨_ | t, u⟩
  · rw [hp] at hx
    cases hx
  · rw [hp] at hx
    cases hx
    exact ⟨t, rfl, rfl⟩

private theorem resolveStep_bare (hk : s.kind ≠ .fields) (bare : v.Bare s st mid) :
    (v.resolveStep v.resolve s).runFrom (st.entered s.name) = (v.finish s none).runFrom mid := by
  obtain ⟨⟨r, hr, hr'⟩, t, ht, ht'⟩ := bare
  rw [resolveStep_of_raw hk hr, hr']
  dsimp only
  rw [runFrom_bind, ht]
  dsimp only
  rw [ht']

/-- A value that is not made of fields is read from a text with something in it, or is what is left
when there is none. -/
theorem resolveStep_cases (hk : s.kind ≠ .fields)
    (hx : ((v.resolveStep v.resolve s).runFrom (st.entered s.name)).1 = .ok x) :
    (∃ raw, raw ≠ "" ∧ Coercion.coerce s raw = .ok x) ∨
      ∃ mid, v.Bare s st mid ∧ ((v.finish s none).runFrom mid).1 = .ok x := by
  cases hr : v.raw s.envVar with
  | error e =>
    rw [resolveStep_of_raw_error hk hr, runFrom_lift] at hx
    cases hx
  | ok r =>
    cases hr' : Reference.present? r with
    | some t =>
      rw [resolveStep_of_raw hk hr, hr'] at hx
      exact .inl ⟨t, Reference.ne_empty_of_present? hr', hx⟩
    | none =>
      have whole := hx
      rw [resolveStep_of_raw hk hr, hr'] at hx
      dsimp only at hx
      rw [runFrom_bind] at hx
      rcases hf : (v.evalFallback v.resolve s).runFrom (st.entered s.name) with ⟨_ | t, mid⟩
      · rw [hf] at hx
        cases hx
      · rw [hf] at hx
        dsimp only at hx
        cases ht : Reference.present? t with
        | some u =>
          rw [ht] at hx
          exact .inl ⟨u, Reference.ne_empty_of_present? ht, hx⟩
        | none =>
          have bare : v.Bare s st mid := ⟨⟨r, hr, hr'⟩, t, hf, ht⟩
          rw [resolveStep_bare hk bare] at whole
          exact .inr ⟨mid, bare, whole⟩

private theorem kind_of_resolveStep_fields (hk : s.kind = .fields)
    {inner : Setting → Resolving Value}
    (hx : ((v.resolveStep inner s).runFrom st).1 = .ok x) : x.kind? = some .fields := by
  rw [resolveStep_of_fields hk, runFrom_lift] at hx
  cases hg : v.layers.gather s.envVar with
  | error e =>
    rw [hg] at hx
    cases hx
  | ok m =>
    rw [hg] at hx
    cases hx
    rfl

private theorem kind_of_resolveStep (hk : s.kind ≠ .fields)
    (hx : ((v.resolveStep v.resolve s).runFrom (st.entered s.name)).1 = .ok x) :
    v.Supplied s st x ∨ x.kind? = some s.kind ∨
      x = .absent ∧ s.required = false ∧ s.kind ∈ [.text, .integer, .boolean, .url] := by
  rcases resolveStep_cases hk hx with ⟨raw, kept, hc⟩ | ⟨mid, bare, hf⟩
  · exact .inr (.inl (Coercion.kind_of_coerce hk kept hc))
  · cases required : s.required with
    | false =>
      rw [finish_none_optional required] at hf
      cases hf
      cases kind : s.kind with
      | fields => exact absurd kind hk
      | addresses => exact .inr (.inl rfl)
      | _ => exact .inr (.inr ⟨rfl, rfl, by simp⟩)
    | true =>
      cases on : v.usesPlaceholder s.envVar with
      | false =>
        rw [finish_none_refused required on] at hf
        cases hf
      | true => exact .inl ⟨mid, bare, required, on, finish_none_supplied required on hf⟩

/-- A setting that is in flight resolves to nothing. -/
theorem fresh_of_resolve (distinct : st.inFlight.Nodup)
    (declared : ∀ n ∈ st.inFlight, n ∈ v.schema.names) (hs : s ∈ v.schema.list)
    (hx : ((v.resolve s).runFrom st).1 = .ok x) : s.name ∉ st.inFlight := by
  intro taken
  rw [resolve_eq_guarded v distinct declared hs, runFrom_guarded, if_pos taken] at hx
  cases hx

private theorem present_of_required (required : s.required = true)
    (hx : v.Supplied s st x ∨ x.kind? = some s.kind ∨
      x = .absent ∧ s.required = false ∧ s.kind ∈ [.text, .integer, .boolean, .url]) :
    x ≠ .absent := by
  rintro rfl
  rcases hx with ⟨_, _, _, _, t, _, ht⟩ | kind | ⟨_, optional, _⟩
  · cases ht
  · cases kind
  · rw [required] at optional
    cases optional

/-! Resolution with the reader of texts as a parameter. -/

def resolveReading (v : View) (read : Setting → String → Except Failure Value) (s : Setting) :
    Resolving Value :=
  v.resolveIn { v.manner with read } v.schema.settings.size s

private theorem resolveReading_eq {read : Setting → String → Except Failure Value}
    (same : ∀ s raw, ¬(s.required = true ∧ raw = "") → read s raw = Coercion.coerce s raw)
    (s : Setting) : v.resolveReading read s = v.resolve s :=
  congrFun (resolveIn_eq_resolveWithin { v.manner with read } rfl rfl same (fun _ _ _ => rfl) _) s

theorem get_of_find? {name : String} (found : v.schema.find? name = some s) :
    v.get name = v.resolve s := by
  rw [get, getBy, found]

/-- What a setting resolves to has the declared kind, except for placeholders, which are texts, and
for no value where none is required. Without any text an optional list is empty, and a required
setting fails unless placeholders are on for it. How a required setting would read an empty text
makes no difference. -/
theorem get_sound (v : View) {name : String} {s : Setting} (found : v.schema.find? name = some s)
    (st : Session) (distinct : st.inFlight.Nodup)
    (declared : ∀ n ∈ st.inFlight, n ∈ v.schema.names) :
    (∀ x, ((v.get name).runFrom st).1 = .ok x →
      (s.kind = .fields → x.kind? = some .fields) ∧
      (s.kind ≠ .fields → v.Supplied s st x ∨ x.kind? = some s.kind ∨
        x = .absent ∧ s.required = false ∧ s.kind ∈ [.text, .integer, .boolean, .url]) ∧
      (s.required = true → x ≠ .absent)) ∧
    (∀ mid, s.name ∉ st.inFlight → s.kind ≠ .fields → v.Bare s st mid →
      (s.required = false → s.kind = .addresses →
        ((v.get name).runFrom st).1 = .ok (.addresses [])) ∧
      (s.required = true → v.usesPlaceholder s.envVar = false →
        ((v.get name).runFrom st).1 = .error (.missing s.envVar .required))) ∧
    (Failure.missing s.envVar .required).message =
      "missing required configuration: " ++ s.envVar ∧
    ∀ read : Setting → String → Except Failure Value,
      (∀ s raw, ¬(s.required = true ∧ raw = "") → read s raw = Coercion.coerce s raw) →
        v.getBy (v.resolveReading read) name = v.get name := by
  have hs : s ∈ v.schema.list := Schema.mem_list_of_find? found
  rw [get_of_find? found]
  refine ⟨fun x hx => ?_, fun mid fresh hk bare => ?_, rfl, fun read same => ?_⟩
  · have fresh : s.name ∉ st.inFlight := fresh_of_resolve distinct declared hs hx
    rw [resolve_fresh distinct declared hs fresh] at hx
    by_cases hk : s.kind = .fields
    · have kind : x.kind? = some .fields := kind_of_resolveStep_fields hk hx
      refine ⟨fun _ => kind, fun other => absurd hk other, ?_⟩
      rintro - rfl
      cases kind
    · have sound := kind_of_resolveStep hk hx
      exact ⟨fun fields => absurd fields hk, fun _ => sound, fun required =>
        present_of_required required sound⟩
  · rw [resolve_fresh distinct declared hs fresh, resolveStep_bare hk bare]
    refine ⟨fun optional list => ?_, finish_none_refused⟩
    rw [finish_none_optional optional, list]
    rfl
  · rw [getBy, found]
    exact resolveReading_eq same s

/-- A required number that falls back on an optional list. -/
def portSetting : Setting :=
  { Setting.ofVar "PORT" .integer with
    fallback := some (.deferred [.reference "hosts" none]) }

def unsetView : View :=
  ⟨Schema.build [] [{ Setting.ofVar "HOSTS" .addresses with required := false }, portSetting],
    ⟨{ vars := KeyMap.empty }, .empty⟩, none, none⟩

theorem get_sound_unset :
    unsetView.schema.find? "port" = some portSetting ∧
    ((unsetView.get "port").runFrom .fresh).1 = .error (.missing "PORT" .required) := by
  have found : unsetView.schema.find? "port" = some portSetting := by decide +kernel
  have empty : ((unsetView.evalFallback unsetView.resolve portSetting).runFrom
      (Session.fresh.entered "port")).1 = .ok (some "") := by decide +kernel
  have bare : unsetView.Bare portSetting Session.fresh _ :=
    ⟨⟨none, by decide +kernel, rfl⟩, some "", Prod.ext empty rfl, by decide⟩
  have sound := get_sound unsetView found Session.fresh (by decide) (by decide)
  exact ⟨found, (sound.2.1 _ (by decide) (by decide) bare).2 rfl (by decide +kernel)⟩

end View

end LayeredConfig
