import LayeredConfig.Proofs.Resolve.Fallbacks
import LayeredConfig.Proofs.Resolve.Journal

/-! When deferred fallbacks are worked out. That of a setting which is asked for is worked out once
if its variable has no text, and not at all otherwise, however often the setting is met again on the
way; and none is worked out whose setting has a text in its variable. -/
namespace LayeredConfig

private theorem Session.deferredNames_of_journal {s t : Session} {l : List Event}
    (h : t.journal = l ++ s.journal) : t.deferredNames = s.deferredNames ++ deferredIn l := by
  rw [deferredNames, deferredNames, h, deferredIn, List.reverse_append, List.filterMap_append]
  rfl

private theorem mem_deferredIn {l : List Event} {n : String} :
    n ∈ deferredIn l ↔ .deferred n ∈ l := by
  rw [deferredIn, List.mem_filterMap]
  constructor
  · rintro ⟨e, he, hn⟩
    cases e with
    | deferred m =>
      obtain rfl := Option.some.inj hn
      exact List.mem_reverse.mp he
    | entered m => cases hn
    | left m => cases hn
  · exact fun h => ⟨.deferred n, List.mem_reverse.mpr h, rfl⟩

namespace View
open Resolving

variable {v : View} {s : Setting} {t : Session} {name : String} {F : List String}
  {past j : List Event}

private theorem hollow_of_lacks (h : v.lacks s) : v.Hollow s := by
  obtain ⟨-, r, hr, nothing⟩ := h
  rw [raw] at hr
  cases set : v.layers.lookup s.envVar with
  | none => exact .inl set
  | some x =>
    rw [set] at hr
    dsimp only at hr
    cases text : v.layers.interpolate x with
    | error e =>
      rw [text] at hr
      cases hr
    | ok d =>
      rw [text] at hr
      cases hr
      obtain rfl : d = "" := by simpa [Reference.present?] using nothing
      exact .inr ⟨x, set, text⟩

/-- An event that can happen while `name` is in flight: if a fallback is worked out it is that of
another setting, and the variable of that setting has no text. -/
def Allowed (v : View) (name : String) : Event → Prop
  | .deferred m => m ≠ name ∧ ∃ s, v.schema.find? m = some s ∧ v.lacks s
  | _ => True

/-- All that has happened since `past` is allowed while `name` is in flight. -/
def AllowedSince (v : View) (name : String) (past j : List Event) : Prop :=
  ∃ l, j = l ++ past ∧ ∀ e ∈ l, v.Allowed name e

theorem AllowedSince.cons (h : v.AllowedSince name past j) {e : Event} (he : v.Allowed name e) :
    v.AllowedSince name past (e :: j) := by
  obtain ⟨l, rfl, allowed⟩ := h
  exact ⟨e :: l, rfl, List.forall_mem_cons.mpr ⟨he, allowed⟩⟩

/-- The names `F` are in flight, and what has happened since `past` is allowed. -/
def Quiet (v : View) (name : String) (past : List Event) (F : List String) (t : Session) : Prop :=
  t.inFlight = F ∧ v.AllowedSince name past t.journal

/-- Work that is quiet under a name is quiet, as the name is laid down in the end. -/
theorem Quiet.guarded {α : Type} {x : Resolving α} {n : String}
    (h : n ∉ F → Agree (v.Quiet name past (n :: F)) (fun _ => True) x x) :
    Agree (v.Quiet name past F) (fun _ => True) (guarded n x) (guarded n x) := by
  rintro t ⟨rfl, since⟩
  rw [runFrom_guarded]
  split
  · exact ⟨rfl, ⟨rfl, since⟩, fun _ _ => trivial⟩
  · next fresh =>
    obtain ⟨-, ⟨taken, since⟩, -⟩ := h fresh (t.entered n) ⟨rfl, since.cons trivial⟩
    exact ⟨rfl, ⟨congrArg List.tail taken, since.cons trivial⟩, fun _ _ => trivial⟩

/-- While a setting is in flight its fallback is not worked out again. -/
theorem quiet_resolveWithin (n : Nat) (taken : name ∈ F) (hs : s ∈ v.schema.list) :
    Agree (v.Quiet name past F) (fun _ => True) (v.resolveWithin n s) (v.resolveWithin n s) := by
  induction n generalizing F s with
  | zero => exact agree_throw trivial
  | succ n ih =>
    refine Quiet.guarded fun fresh => ?_
    refine agree_resolveStep (fun _ _ => trivial) (fun _ _ _ ht => ht) fun lacks => ?_
    have allowed : v.Allowed name (.deferred s.name) :=
      ⟨fun same => fresh (same ▸ taken), s, Schema.find?_of_mem_list hs, lacks⟩
    exact agree_evalFallback (fun _ _ => trivial) (fun t ht => ⟨ht.1, ht.2.cons allowed⟩)
      (fun _ _ => trivial)
      fun p _ s' hs' => ih (List.mem_cons_of_mem _ taken) (mem_list_of_asked hs')

/-- The fallback of a setting in flight is worked out with one event of its own, the first. -/
theorem evalFallback_since {parts : List Part} (deferred : s.fallback = some (.deferred parts))
    (n : Nat) (taken : s.name ∈ t.inFlight) :
    v.AllowedSince s.name (.deferred s.name :: t.journal)
      ((v.evalFallback (v.resolveWithin n) s).runFrom t).2.journal := by
  let noted : Session := { t with journal := .deferred s.name :: t.journal }
  have run : (v.evalFallback (v.resolveWithin n) s).runFrom t =
      (parts.mapM (v.evalPart (v.resolveWithin n)) >>= fun ts =>
        pure (some (String.join ts))).runFrom noted := by
    rw [evalFallback, deferred]
    rfl
  have begun : v.Quiet s.name noted.journal t.inFlight noted :=
    ⟨rfl, [], rfl, List.forall_mem_nil _⟩
  have quiet : Agree (v.Quiet s.name noted.journal t.inFlight) (fun _ => True)
      (parts.mapM (v.evalPart (v.resolveWithin n)))
      (parts.mapM (v.evalPart (v.resolveWithin n))) :=
    Agree.mapM fun p _ => agree_evalPart (fun _ _ => trivial) (fun _ _ => trivial)
      fun s' hs' => quiet_resolveWithin n taken (mem_list_of_asked hs')
  rw [run]
  exact ((quiet.bind fun ts => agree_pure _) noted begun).2.1.2

/-- Where the fallback of a setting counts, nothing else leaves an event. -/
theorem resolveStep_journal (lacks : v.lacks s) (inner : Setting → Resolving Value) (t : Session) :
    ((v.resolveStep inner s).runFrom t).2.journal =
      ((v.evalFallback inner s).runFrom t).2.journal := by
  rw [resolveStep_of_lacks lacks, runFrom_bind]
  rcases (v.evalFallback inner s).runFrom t with ⟨_ | text, mid⟩
  · rfl
  · exact finish_journal _ mid

/-- Of a setting whose variable has no text the fallback is worked out first, and then only those of
others. -/
theorem get_journal_of_lacks (found : v.schema.find? name = some s) {parts : List Part}
    (deferred : s.fallback = some (.deferred parts)) (fresh : name ∉ t.inFlight)
    (lacks : v.lacks s) :
    ∃ l, ((v.get name).runFrom t).2.journal =
        .left name :: l ++ .deferred name :: .entered name :: t.journal ∧
      ∀ e ∈ l, v.Allowed name e := by
  obtain rfl := Schema.name_of_find? found
  obtain ⟨n, resolved⟩ := exists_resolve_eq found
  obtain ⟨l, hl, allowed⟩ :=
    evalFallback_since (v := v) (t := t.entered s.name) deferred n List.mem_cons_self
  refine ⟨l, ?_, allowed⟩
  rw [get_of_find? found, resolved, runFrom_guarded, if_neg fresh]
  exact congrArg (.left s.name :: ·) ((resolveStep_journal lacks _ _).trans hl)

/-- A setting whose step needs nothing leaves no events between those of its own. -/
theorem get_journal_of_lift (found : v.schema.find? name = some s) (fresh : name ∉ t.inFlight)
    {r : Except Failure Value} (step : ∀ inner, v.resolveStep inner s = Resolving.lift r) :
    ((v.get name).runFrom t).2.journal = .left name :: .entered name :: t.journal := by
  obtain rfl := Schema.name_of_find? found
  obtain ⟨n, resolved⟩ := exists_resolve_eq found
  rw [get_of_find? found, resolved, runFrom_guarded, if_neg fresh, step]
  rfl

/-- A setting that is made of fields, whose variable has a text or whose variable cannot be expanded
does not need its fallback. -/
def Needless (v : View) (s : Setting) : Prop :=
  s.kind = .fields ∨ (∃ d, d ≠ "" ∧ v.Expands s d) ∨
    ∃ r e, v.layers.lookup s.envVar = some r ∧ v.layers.interpolate r = .error e

private theorem Needless.not_lacks (h : v.Needless s) : ¬ v.lacks s := by
  rintro ⟨hk, r, hr, nothing⟩
  rcases h with fields | ⟨d, some, set⟩ | ⟨x, e, set, failing⟩
  · exact hk fields
  · obtain rfl := Except.ok.inj (set.raw.symm.trans hr)
    rw [present?_text some] at nothing
    cases nothing
  · cases (raw_of_error set failing).symm.trans hr

/-! Resolution with the working out of fallbacks as a parameter. -/

def resolveVia (v : View)
    (work : (Setting → Resolving Value) → Setting → Resolving (Option String)) (s : Setting) :
    Resolving Value :=
  v.resolveIn { v.manner with fallback := work } v.schema.settings.size s

private theorem resolveVia_eq
    {work : (Setting → Resolving Value) → Setting → Resolving (Option String)}
    (same : ∀ inner s, s.kind ≠ .fields → v.Hollow s → work inner s = v.evalFallback inner s)
    (s : Setting) : v.resolveVia work s = v.resolve s :=
  congrFun (resolveIn_eq_resolveWithin { v.manner with fallback := work } rfl rfl (fun _ _ _ => rfl)
    (fun inner s lacks => same inner s lacks.1 (hollow_of_lacks lacks)) _) s

/-- A deferred fallback is worked out once for a setting that is asked for when the variable of the
setting is not there or is expanded to nothing, whatever the settings that refer to each other, and
whether the working out fails or not. For fields, and where the variable has a text or cannot be
expanded, no fallback is worked out at all. On the way, too, fallbacks are worked out only where the
variable is not there or is expanded to nothing: how others would be worked out makes no
difference. -/
theorem fallback_worked_out_once (v : View) {name : String} {s : Setting}
    (found : v.schema.find? name = some s) {parts : List Part}
    (deferred : s.fallback = some (.deferred parts)) {st : Session} (fresh : name ∉ st.inFlight) :
    (∃ names, ((v.get name).runFrom st).2.deferredNames = st.deferredNames ++ names ∧
      (s.kind ≠ .fields → v.Hollow s → names.count name = 1) ∧
      (v.Needless s → names = []) ∧
      ∀ m ∈ names, ∃ s', v.schema.find? m = some s' ∧ s'.kind ≠ .fields ∧ v.Hollow s') ∧
    ∀ work, (∀ inner s', s'.kind ≠ .fields → v.Hollow s' → work inner s' = v.evalFallback inner s') →
      v.getBy (v.resolveVia work) name = v.get name := by
  refine ⟨?_, fun work same => ?_⟩
  · by_cases lacks : v.lacks s
    · obtain ⟨l, hl, allowed⟩ := get_journal_of_lacks found deferred fresh lacks
      have others : ∀ m, .deferred m ∈ l → m ≠ name ∧ ∃ s', v.schema.find? m = some s' ∧ v.lacks s' :=
        fun m hm => allowed (.deferred m) hm
      refine ⟨name :: deferredIn l, ?_, fun _ _ => ?_, fun needless => ?_, fun m hm => ?_⟩
      · have events : ((v.get name).runFrom st).2.journal =
            (.left name :: l ++ [.deferred name, .entered name]) ++ st.journal := by simp [hl]
        rw [Session.deferredNames_of_journal events]
        simp [deferredIn]
      · have own : name ∉ deferredIn l := fun h => (others name (mem_deferredIn.mp h)).1 rfl
        rw [List.count_cons_self, List.count_eq_zero_of_not_mem own]
      · exact absurd lacks needless.not_lacks
      · rcases List.mem_cons.mp hm with rfl | hm
        · exact ⟨s, found, lacks.1, hollow_of_lacks lacks⟩
        · obtain ⟨-, s', hs', lacks'⟩ := others m (mem_deferredIn.mp hm)
          exact ⟨s', hs', lacks'.1, hollow_of_lacks lacks'⟩
    · obtain ⟨r, step⟩ := (v.resolveStep_cases_lacks s).resolve_left lacks
      refine ⟨[], ?_, fun hk hollow => absurd (hollow.lacks hk) lacks, fun _ => rfl, nofun⟩
      have events : ((v.get name).runFrom st).2.journal =
          [.left name, .entered name] ++ st.journal := get_journal_of_lift found fresh step
      rw [Session.deferredNames_of_journal events]
      rfl
  · rw [getBy, get, getBy, found]
    exact resolveVia_eq same s

/-- A setting that asks for another one twice, and in between for one with a text. -/
def askingTwice : Setting :=
  { Setting.ofVar "A" .text with
    fallback := some (.deferred [.reference "b" (some "x"), .fetch "c" "", .reference "b" none]) }

def entangledView : View :=
  ⟨Schema.build []
    [askingTwice,
     { Setting.ofVar "B" .text with
        fallback := some (.deferred [.reference "a" (some "y"), .literal "$C"]) },
     { Setting.ofVar "C" .text with fallback := some (.deferred [.everything]) }],
    ⟨{ vars := KeyMap.ofList [("A", .text "$NOTHING"), ("C", .text "1")] }, .empty⟩, none, none⟩

def workWithoutC (inner : Setting → Resolving Value) (s : Setting) : Resolving (Option String) :=
  if s.envVar = "C" then pure none else entangledView.evalFallback inner s

theorem fallback_worked_out_once_entangled :
    ((entangledView.get "a").runFrom .fresh).2.deferredNames = ["a", "b", "b"] ∧
    ["a", "b", "b"].count "a" = 1 ∧
    entangledView.getBy (entangledView.resolveVia workWithoutC) "a" = entangledView.get "a" := by
  have found : entangledView.schema.find? "a" = some askingTwice := by decide +kernel
  have free : "a" ∉ Session.fresh.inFlight := by decide
  have empty : entangledView.Hollow askingTwice :=
    .inr ⟨"$NOTHING", by decide +kernel, by decide +kernel⟩
  have text : entangledView.layers.lookup "C" = some "1" := by decide +kernel
  have kept : entangledView.layers.interpolate "1" = .ok "1" := by decide +kernel
  have worked : ((entangledView.get "a").runFrom .fresh).2.deferredNames = ["a", "b", "b"] := by
    decide +kernel
  obtain ⟨⟨names, run, once, -⟩, others⟩ :=
    fallback_worked_out_once entangledView found rfl free
  obtain rfl : ["a", "b", "b"] = names := worked.symm.trans run
  refine ⟨worked, once (by decide) empty, others workWithoutC fun inner s hk hollow => if_neg ?_⟩
  intro third
  rcases hollow with absent | ⟨r, set, nothing⟩
  · rw [third, text] at absent
    cases absent
  · rw [third, text] at set
    obtain rfl := Option.some.inj set
    exact absurd (Except.ok.inj (kept.symm.trans nothing)) (by decide)

end View

end LayeredConfig
