import LayeredConfig.Proofs.Load.Basic

/-! On a fixed layer, loading remembers the last call that succeeded and nothing else. -/
namespace LayeredConfig

/-- What a call asks for when `last` is the last request that was met. -/
def Call.request (last : Option Request) : Call → Request
  | .load t paths propagate => ⟨t, paths, propagate⟩
  | .reload t =>
    match last with
    | some r => { r with tree := t }
    | none => ⟨t, [], false⟩

/-- All files that are asked for can be read, and none has duplicates. -/
def Request.met (r : Request) : Bool := (EnvFile.loadAll r.tree r.paths).isOk

/-- The last request met when calls follow upon `last`. -/
def lastMetFrom (last : Option Request) (calls : List Call) : Option Request :=
  calls.foldl (fun last a => if (a.request last).met then some (a.request last) else last) last

def lastMet (calls : List Call) : Option Request := lastMetFrom none calls

/-- What stands loaded over a fixed layer when a request was the last that was met. -/
inductive LoadedBy (base : KeyMap String) : Option Request → Loaded → Prop
  | nothing : LoadedBy base none { layer := .fixed base, files := .empty }
  | request {r : Request} {files : Table String} {m : KeyMap String}
      (read : EnvFile.loadAll r.tree r.paths = .ok files)
      (added : ∀ k, m.get? k = (base.get? k).or (if r.propagate then files.get? k else none)) :
      LoadedBy base (some r) ⟨.fixed m, files, r.paths, r.propagate,
        if r.propagate then files.entries.filter fun e => !base.contains e.1 else []⟩

theorem LoadedBy.unique {base : KeyMap String} {last : Option Request} {l l' : Loaded}
    (h : LoadedBy base last l) (h' : LoadedBy base last l') : l = l' := by
  cases h with
  | nothing => cases h' with | nothing => rfl
  | request read added =>
    cases h' with
    | request read' added' =>
      obtain rfl := Except.ok.inj (read.symm.trans read')
      rw [KeyMap.ext_get? fun k => (added k).trans (added' k).symm]

namespace Config

def calls (c : Config) (env : Variables) (l : List Call) : Config × Variables :=
  l.foldl (fun s a => (s.1.call s.2 a).2) (c, env)

variable {c : Config} {base : KeyMap String} {last : Option Request}

/-- Nothing that was exported is in the fixed layer, so there is nothing to withdraw from it. -/
theorem cleared_of_loadedBy (hb : c.base = .fixed base) (h : LoadedBy base last c.loaded)
    (env : Variables) : c.cleared env = base.map .text := by
  refine KeyMap.ext_get? fun k => Option.ext fun d => ?_
  rw [cleared, Variables.get?_without, ProcessVars.view, hb]
  refine ⟨fun hd => hd.1, fun hd => ⟨hd, fun v hm => ?_⟩⟩
  rw [KeyMap.get?_map] at hd
  obtain ⟨x, hx, -⟩ := Option.map_eq_some_iff.mp hd
  generalize c.loaded = l at h hm
  cases h with
  | nothing => cases hm
  | request =>
    dsimp only at hm
    split at hm
    · have := (List.mem_filter.mp hm).2
      simp [KeyMap.contains, hx] at this
    · cases hm

private theorem request_eq (h : LoadedBy base last c.loaded) (a : Call) :
    c.request a = a.request last := by
  cases a with
  | load t paths propagate => rfl
  | reload t =>
    simp only [request, Call.request]
    generalize c.loaded = l at h
    cases h with
    | nothing => rfl
    | request => rfl

/-- What a load leaves does not depend on what it found. -/
theorem loadedBy_of_done {c' : Config} {env env' : Variables} {r : Request}
    (hb : c.base = .fixed base) (h : LoadedBy base last c.loaded)
    (hl : c.load env r.tree r.paths r.propagate = (.done, c', env')) :
    c' = { c with loaded := c'.loaded } ∧ env' = env ∧ LoadedBy base (some r) c'.loaded := by
  obtain ⟨layer, files, exported, hf, rfl, ha, he, hv⟩ := load_done hl
  rw [hb] at ha
  cases ha with
  | fixed _ m _ =>
    rw [cleared_of_loadedBy hb h] at he hv
    have held : ∀ k, KeyMap.contains (base.map Datum.text) k = base.contains k := by
      intro k
      simp [KeyMap.contains]
    simp only [held] at he
    subst he
    refine ⟨rfl, rfl, .request hf fun k => ?_⟩
    apply Option.map_injective (f := Datum.text) (fun _ _ => Datum.text.inj)
    have hk := hv k
    rw [ProcessVars.view, KeyMap.get?_map, KeyMap.get?_map] at hk
    rw [hk, Option.map_or]
    split <;> rfl

/-- A call succeeds and its request becomes the last that was met, or it fails and is forgotten. -/
theorem call_cases (hb : c.base = .fixed base) (h : LoadedBy base last c.loaded) (env : Variables)
    (a : Call) :
    ((a.request last).met = true ∧ ∃ l, c.call env a = (.done, { c with loaded := l }, env) ∧
        LoadedBy base (some (a.request last)) l) ∨
      (a.request last).met = false ∧
        ∃ f, EnvFile.loadAll (a.request last).tree (a.request last).paths = .error f ∧
          c.call env a = (.failed f, c, env) := by
  rw [call_eq_load, request_eq h]
  generalize a.request last = r
  rcases load_fixed hb env r.tree r.paths r.propagate with ⟨files, hf, ho⟩ | ⟨f, hf, hl⟩
  · have met : r.met = true := by rw [Request.met, hf]; rfl
    rcases hl : c.load env r.tree r.paths r.propagate with ⟨o, c', env'⟩
    rw [hl] at ho
    obtain rfl : o = .done := ho
    obtain ⟨hc, rfl, hr⟩ := loadedBy_of_done hb h hl
    exact .inl ⟨met, c'.loaded, by rw [← hc], hr⟩
  · have unmet : r.met = false := by rw [Request.met, hf]; rfl
    exact .inr ⟨unmet, f, hf, hl⟩

/-- Calls one after the other keep the loaded state that of the last request met. -/
theorem calls_loadedBy (hb : c.base = .fixed base) (h : LoadedBy base last c.loaded)
    (env : Variables) (l : List Call) :
    ∃ loaded, c.calls env l = ({ c with loaded := loaded }, env) ∧
      LoadedBy base (lastMetFrom last l) loaded := by
  induction l generalizing c last with
  | nil => exact ⟨c.loaded, rfl, h⟩
  | cons a r ih =>
    rw [calls, lastMetFrom, List.foldl_cons, List.foldl_cons]
    rcases call_cases hb h env a with ⟨hm, loaded, hc, hl⟩ | ⟨hm, f, -, hc⟩
    · rw [hc, hm]
      exact ih (c := { c with loaded := loaded }) hb hl
    · rw [hc, hm]
      exact ih hb h

/-- After any calls on a fixed layer, the state is that of the last request met, and the same after
all calls with this last request. One more call succeeds when its files can be read without
duplicates; otherwise it fails for one of these reasons and changes nothing. -/
theorem calls_determined_by_lastMet (schema : Schema) (base : KeyMap String) (root : Option String)
    (placeholders : Option Bool) (env : Variables) (l : List Call) :
    let c₀ := ofSchema schema (.fixed base) root placeholders
    ∃ loaded, c₀.calls env l = ({ c₀ with loaded := loaded }, env) ∧
      LoadedBy base (lastMet l) loaded ∧
      (∀ l', lastMet l' = lastMet l → c₀.calls env l' = c₀.calls env l) ∧
      ∀ a : Call,
        ((a.request (lastMet l)).met = true ∧ ((c₀.calls env l).1.call env a).1 = .done) ∨
          (a.request (lastMet l)).met = false ∧
            ∃ f, (c₀.calls env l).1.call env a = (.failed f, { c₀ with loaded := loaded }, env) ∧
              ((∃ p ∈ (a.request (lastMet l)).paths, ∃ e, f = .unreadable p e) ∨
                ∃ d, d ≠ [] ∧ f = .duplicates d) := by
  intro c₀
  have start : LoadedBy base none c₀.loaded := .nothing
  obtain ⟨loaded, hc, hl⟩ := calls_loadedBy rfl start env l
  refine ⟨loaded, hc, hl, ?_, ?_⟩
  · intro l' hl'
    obtain ⟨loaded', hc', h'⟩ := calls_loadedBy rfl start env l'
    have same : LoadedBy base (lastMet l) loaded' := hl' ▸ h'
    rw [hc, hc', same.unique hl]
  · intro a
    rw [hc]
    have after := call_cases (c := { c₀ with loaded := loaded }) rfl hl env a
    rcases after with ⟨hm, _, hd, -⟩ | ⟨hm, f, hf, hd⟩
    · exact .inl ⟨hm, congrArg Prod.fst hd⟩
    · exact .inr ⟨hm, f, hd, EnvFile.loadAll_error hf⟩

end Config

end LayeredConfig
