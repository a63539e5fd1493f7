import LayeredConfig.Proofs.EnvFile.Keys
import LayeredConfig.Proofs.Load.Host

/-! When an environment refuses what a load does to it. It refuses a value with a NUL and nothing
else, and then a load stops half way; otherwise a load is done or leaves everything as it was. -/
namespace LayeredConfig

namespace ProcessVars

/-- Variables with names that environments hold can be withdrawn. -/
theorem withdraw_of_holdsName {p : ProcessVars} {l : List (String × String)}
    (names : ∀ e ∈ l, Variables.holdsName e.1 = true) : (p.withdraw l).1 = false := by
  induction l generalizing p with
  | nil => rfl
  | cons e r ih =>
    obtain ⟨k, v⟩ := e
    have rest : ∀ e ∈ r, Variables.holdsName e.1 = true :=
      fun e he => names e (List.mem_cons_of_mem _ he)
    have name : Variables.holdsName k = true := names (k, v) List.mem_cons_self
    have unset : ∃ q, p.unset? k = some q := by
      obtain ⟨layer, env⟩ := p
      cases layer with
      | fixed m => exact ⟨_, rfl⟩
      | system => exact ⟨⟨.system, env.erase k⟩, by simp [unset?, Variables.unset?, name]⟩
    obtain ⟨q, hq⟩ := unset
    rw [withdraw, hq]
    split
    · exact ih rest
    · exact ih rest

/-- The environment takes a variable with a proper name unless there is a NUL in the value. -/
theorem set?_system {env : Variables} {k v : String} (name : Variables.holdsName k = true) :
    (ProcessVars.mk .system env).set? k v =
      if (Datum.text v).hasNul then none else some ⟨.system, env.insert k (.text v)⟩ := by
  rw [set?, Variables.set?, name]
  cases (Datum.text v).hasNul <;> rfl

/-- Exporting stops just at a value with a NUL whose variable is not there. -/
theorem exportAll_refused_iff {env : Variables} {l : List (String × String)}
    (names : ∀ e ∈ l, Variables.holdsName e.1 = true) (distinct : (l.map (·.1)).Nodup) :
    ((ProcessVars.mk .system env).exportAll l).1 = true ↔
      ∃ e ∈ l, (Datum.text e.2).hasNul = true ∧ env.get? e.1 = none := by
  induction l generalizing env with
  | nil => simp [exportAll]
  | cons e r ih =>
    obtain ⟨k, v⟩ := e
    obtain ⟨hk, hr⟩ := List.nodup_cons.mp distinct
    have rest : ∀ e ∈ r, Variables.holdsName e.1 = true :=
      fun e he => names e (List.mem_cons_of_mem _ he)
    have name : Variables.holdsName k = true := names (k, v) List.mem_cons_self
    simp only [List.mem_cons, exists_eq_or_imp]
    rw [exportAll]
    rcases (ProcessVars.mk .system env).setIfAbsent?_cases name v with
      ⟨d, there, left⟩ | ⟨absent, set⟩
    · replace there : env.get? k = some d := there
      rw [left]
      simp [ih rest hr, there]
    · replace absent : env.get? k = none := absent
      rw [set, set?_system name]
      cases hn : (Datum.text v).hasNul with
      | true => simp [absent]
      | false =>
        -- The variable just set is none of those to come.
        have other : ∀ e ∈ r, (env.insert k (.text v)).get? e.1 = env.get? e.1 := by
          intro e he
          have ne : e.1 ≠ k := fun h => hk (List.mem_map.mpr ⟨e, he, h⟩)
          rw [KeyMap.get?_insert, if_neg ne]
        have later : (∃ e ∈ r, (Datum.text e.2).hasNul = true ∧
            (env.insert k (.text v)).get? e.1 = none) ↔
              ∃ e ∈ r, (Datum.text e.2).hasNul = true ∧ env.get? e.1 = none :=
          exists_congr fun e => and_congr_right fun he => by rw [other e he]
        simpa using (ih rest hr).trans later

end ProcessVars

namespace Config

/-- Configurations that come about through declarations and calls, in whatever environments and with
whatever outcomes. -/
inductive Reachable : Config → Prop
  | start (schema : Schema) (base : ProcessLayer) (root : Option String)
      (placeholders : Option Bool) : Reachable (ofSchema schema base root placeholders)
  | declared {c : Config} (h : Reachable c) (schema : Schema) : Reachable { c with schema }
  | called {c : Config} (h : Reachable c) (env : Variables) (a : Call) :
      Reachable (c.call env a).2.1

variable {c : Config} {env : Variables}

/-- A load that is broken off leaves the configuration as it was. -/
theorem load_aborted {c' : Config} {env' : Variables} {t : FileTree} {paths : List String}
    {propagate : Bool} (h : c.load env t paths propagate = (.aborted, c', env')) : c' = c := by
  simp only [load] at h
  split at h
  · cases h
  · split at h
    · cases h; rfl
    · split at h
      · cases h; rfl
      · cases h

/-- Exported variables have names that environments hold. -/
theorem Reachable.holdsName (h : Reachable c) :
    ∀ e ∈ c.loaded.exported, Variables.holdsName e.1 = true := by
  induction h with
  | start => exact fun e he => absurd he List.not_mem_nil
  | declared _ _ ih => exact ih
  | @called c _ env a ih =>
    rcases hl : c.call env a with ⟨o, c', env'⟩
    rw [call_eq_load] at hl
    cases o with
    | failed f => rwa [(load_failed hl).2.1]
    | aborted => rwa [load_aborted hl]
    | done =>
      obtain ⟨layer, files, exported, hf, rfl, -, he, -⟩ := load_done hl
      intro e hm
      have read : e ∈ files.entries := by
        rw [he] at hm
        split at hm
        · exact (List.mem_filter.mp hm).1
        · exact absurd hm List.not_mem_nil
      apply Variables.holdsName_of_isName
      exact EnvFile.isName_of_mem_loadAll hf (List.mem_map.mpr ⟨e, read, rfl⟩)

/-- A load on the environment is broken off just by a value with a NUL that is to be exported. -/
theorem Reachable.load_aborted_iff (h : Reachable c) (hb : c.base = .system) (env : Variables)
    (t : FileTree) (paths : List String) (propagate : Bool) :
    (c.load env t paths propagate).1 = .aborted ↔
      propagate = true ∧ ∃ files, EnvFile.loadAll t paths = .ok files ∧
        ∃ e ∈ files.entries, (Datum.text e.2).hasNul = true ∧ (c.cleared env).get? e.1 = none := by
  rw [load]
  cases hf : EnvFile.loadAll t paths with
  | error f => simp
  | ok files =>
    have names : ∀ e ∈ files.entries, Variables.holdsName e.1 = true := fun e he =>
      Variables.holdsName_of_isName
        (EnvFile.isName_of_mem_loadAll hf (List.mem_map.mpr ⟨e, he, rfl⟩))
    rcases hw : (ProcessVars.mk c.base env).withdraw c.loaded.exported with ⟨refused, p⟩
    obtain rfl : refused = false := by
      have hr := ProcessVars.withdraw_of_holdsName (p := ⟨c.base, env⟩) h.holdsName
      rwa [hw] at hr
    obtain ⟨alike, hv⟩ := ProcessVars.withdraw_done hw
    rw [hb] at alike
    cases alike with
    | system _ env' =>
      have hc : env' = c.cleared env := hv
      cases propagate with
      | false => simp
      | true =>
        have refused : ((ProcessVars.mk .system env').exportAll files.entries).1 = true ↔
            ∃ e ∈ files.entries, (Datum.text e.2).hasNul = true ∧ env'.get? e.1 = none :=
          ProcessVars.exportAll_refused_iff names files.distinct
        dsimp only [if_true]
        rcases hx : (ProcessVars.mk .system env').exportAll files.entries with ⟨r, done, q⟩
        rw [hx, hc] at refused
        cases r with
        | true => simpa using refused
        | false => simpa using refused

/-- On the environment, a call is broken off just when it is to export a value with a NUL whose
variable is not there; the configuration then stays, but not the environment. Every other call
succeeds or fails and leaves all as it was, and no export is forgotten: the next call that succeeds
and does not export leaves the variables of the host alone. -/
theorem Reachable.call_whole_unless_nul (h : Reachable c) (hb : c.base = .system) (env : Variables)
    (a : Call) :
    ((c.call env a).1 = .aborted ↔
      (c.request a).propagate = true ∧ ∃ files,
        EnvFile.loadAll (c.request a).tree (c.request a).paths = .ok files ∧
        ∃ e ∈ files.entries, (Datum.text e.2).hasNul = true ∧ (c.cleared env).get? e.1 = none) ∧
    ((c.call env a).1 = .aborted → (c.call env a).2.1 = c) ∧
    ((c.call env a).1 ≠ .aborted →
      ((c.call env a).1 = .done ∨ ∃ f, c.call env a = (.failed f, c, env)) ∧
      ∀ t paths c' env',
        (c.call env a).2.1.load (c.call env a).2.2 t paths false = (.done, c', env') →
          env' = c.cleared env) := by
  refine ⟨?_, ?_, fun ended => ⟨?_, ?_⟩⟩
  · rw [call_eq_load]
    exact h.load_aborted_iff hb env _ _ _
  · intro broken
    rw [call_eq_load] at broken ⊢
    exact load_aborted (Prod.ext broken rfl)
  · rcases hl : c.call env a with ⟨o, c', env'⟩
    rw [hl] at ended
    cases o with
    | done => exact .inl rfl
    | aborted => exact absurd rfl ended
    | failed f =>
      rw [call_eq_load] at hl
      obtain ⟨-, rfl, rfl⟩ := load_failed hl
      exact .inr ⟨f, rfl⟩
  · intro t paths c' env' hl
    have before : c.Shares env (c.cleared env) := ⟨hb, by rw [cleared, hb]; rfl⟩
    have after := before.step (Step.of_call ended)
    obtain ⟨-, -, he, hv⟩ := after.load_done hl
    refine KeyMap.ext_get? fun k => Option.ext fun d => (hv k d).trans ?_
    refine ⟨?_, .inl⟩
    rintro (hd | ⟨v, -, hm⟩)
    · exact hd
    · cases ((he k v).mp hm).1

def ownName : Variables := KeyMap.ofList [("B", .text "own")]

def exportedOnce : Outcome × Config × Variables :=
  (ofSchema .empty .system none none).call ownName (.load (oneFile "A=1") [".env"] true)

/-- A value with a NUL does no harm where the host has the variable. -/
theorem Reachable.call_whole_unless_nul_of_host :
    let a : Call := .load (oneFile "A=2\nB=\x00") [".env"] true
    let next := exportedOnce.2.1.call exportedOnce.2.2 a
    next.1 = .done ∧ next.2.2.get? "A" = some (.text "2") ∧
      (next.2.1.load next.2.2 .empty [] false).2.2 = ownName := by
  intro a next
  have h : Reachable exportedOnce.2.1 :=
    .called (.start .empty .system none none) ownName (.load (oneFile "A=1") [".env"] true)
  have whole := h.call_whole_unless_nul rfl exportedOnce.2.2 a
  have done : next.1 = .done := by decide +kernel
  have ended : next.1 ≠ .aborted := by rw [done]; nofun
  have withdrawn : (next.2.1.load next.2.2 .empty [] false).1 = .done := by decide +kernel
  have left := (whole.2.2 ended).2 .empty [] _ _ (Prod.ext withdrawn rfl)
  exact ⟨done, by decide +kernel, left.trans (KeyMap.ext (by decide +kernel))⟩

/-- A file whose second variable the environment refuses. -/
def refusedSecond : FileTree := oneFile "A=1\nB=\x00"

/-- A load that is broken off can leave an export behind that no later load takes back. -/
theorem export_left_behind :
    let broken := (ofSchema .empty .system none none).call KeyMap.empty
      (.load refusedSecond [".env"] true)
    let later := broken.2.1.call broken.2.2 (.load refusedSecond [] false)
    broken.1 = .aborted ∧ broken.2.1.loaded.exported = [] ∧
      broken.2.2.get? "A" = some (.text "1") ∧
      later.1 = .done ∧ later.2.2.get? "A" = some (.text "1") := by
  decide +kernel

end Config

end LayeredConfig
