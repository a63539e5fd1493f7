import LayeredConfig.Config
import LayeredConfig.Proofs.EnvFile.Keys
import LayeredConfig.Proofs.Variables

/-! What a load does: exports are withdrawn all at once, and exporting adds what is missing. -/
namespace LayeredConfig

/-- Variables apart from the exported ones that still have the exported value. -/
def Variables.without (vars : Variables) (exported : List (String × String)) : Variables :=
  KeyMap.filter (fun k d => !exported.any fun e => e.1 = k ∧ d = .text e.2) vars

theorem Variables.get?_without {vars : Variables} {exported : List (String × String)}
    {k : String} {d : Datum} :
    (vars.without exported).get? k = some d ↔
      vars.get? k = some d ∧ ∀ v, (k, v) ∈ exported → d ≠ .text v := by
  rw [without, KeyMap.get?_filter_eq_some_iff]
  refine and_congr_right fun _ => ?_
  simp only [Bool.not_eq_true', List.any_eq_false, decide_eq_true_eq, not_and, Prod.forall]
  exact ⟨fun h v hv => h k v hv rfl, fun h a v hv e => h v (e ▸ hv)⟩

namespace ProcessVars

/-- Two states of one layer: the environment changes only where it is the layer. -/
inductive Alike : ProcessVars → ProcessVars → Prop
  | fixed (m n : KeyMap String) (env : Variables) : Alike ⟨.fixed m, env⟩ ⟨.fixed n, env⟩
  | system (env env' : Variables) : Alike ⟨.system, env⟩ ⟨.system, env'⟩

theorem Alike.refl (p : ProcessVars) : Alike p p := by
  obtain ⟨layer, env⟩ := p
  cases layer with
  | fixed m => exact .fixed m m env
  | system => exact .system env env

theorem Alike.trans {p q r : ProcessVars} (h : Alike p q) (g : Alike q r) : Alike p r := by
  cases h with
  | fixed m n env => cases g with | fixed _ o _ => exact .fixed m o env
  | system env _ => cases g with | system _ env' => exact .system env env'

private theorem set?_some {p q : ProcessVars} {k v : String} (h : p.set? k v = some q) :
    Alike p q ∧ ∀ j, q.view.vars.get? j = if j = k then some (.text v) else p.view.vars.get? j := by
  obtain ⟨layer, env⟩ := p
  cases layer with
  | fixed m =>
    cases h
    refine ⟨.fixed _ _ _, fun j => ?_⟩
    simp only [view, KeyMap.get?_map, KeyMap.get?_insert]
    split <;> rfl
  | system =>
    simp only [set?, Variables.set?] at h
    split at h
    · cases h
      exact ⟨.system _ _, fun j => KeyMap.get?_insert env k (.text v) j⟩
    · cases h

/-- What can be taken out is found as it is held. -/
theorem unset?_some {p q : ProcessVars} {k : String} (h : p.unset? k = some q) :
    Alike p q ∧ p.view.get? k = p.view.vars.get? k ∧
      ∀ j, q.view.vars.get? j = if j = k then none else p.view.vars.get? j := by
  obtain ⟨layer, env⟩ := p
  cases layer with
  | fixed m =>
    cases h
    refine ⟨.fixed _ _ _, Option.or_none, fun j => ?_⟩
    simp only [view, KeyMap.get?_map, KeyMap.get?_erase]
    split <;> rfl
  | system =>
    simp only [unset?, Variables.unset?] at h
    split at h
    · next name =>
      cases h
      exact ⟨.system _ _, ProcessView.get?_of_holdsName name,
        fun j => KeyMap.get?_erase env k j⟩
    · cases h

/-- Withdrawing takes out at once all exports that still have the exported value. -/
theorem withdraw_done {p q : ProcessVars} {exported : List (String × String)}
    (h : p.withdraw exported = (false, q)) :
    Alike p q ∧ q.view.vars = p.view.vars.without exported := by
  induction exported generalizing p with
  | nil =>
    obtain rfl : p = q := congrArg Prod.snd h
    refine ⟨.refl p, KeyMap.ext_get? fun k => Option.ext fun d => ?_⟩
    rw [Variables.get?_without]
    simp
  | cons e r ih =>
    obtain ⟨k, v⟩ := e
    simp only [withdraw] at h
    split at h
    · next found =>
      split at h
      · next p' hp' =>
        obtain ⟨ha, plain, hv⟩ := unset?_some hp'
        have held : p.view.vars.get? k = some (.text v) :=
          plain.symm.trans (ProcessView.text?_eq_some_iff.mp found)
        obtain ⟨ha', hq⟩ := ih h
        refine ⟨ha.trans ha', hq.trans (KeyMap.ext_get? fun j => Option.ext fun d => ?_)⟩
        simp only [Variables.get?_without, hv, List.mem_cons, Prod.mk.injEq]
        by_cases hj : j = k
        · -- The variable itself: gone on the left, and held with the exported value on the right.
          subst hj
          rw [held, if_pos rfl]
          constructor
          · rintro ⟨hn, -⟩
            cases hn
          · rintro ⟨hd, hn⟩
            exact absurd (Option.some.inj hd).symm (hn v (.inl ⟨rfl, rfl⟩))
        · simp [hj]
      · cases h
    · next gone =>
      obtain ⟨ha, hq⟩ := ih h
      refine ⟨ha, hq.trans (KeyMap.ext_get? fun j => Option.ext fun d => ?_)⟩
      simp only [Variables.get?_without, List.mem_cons, Prod.mk.injEq]
      refine and_congr_right fun hd => forall_congr' fun w => ?_
      refine ⟨fun hw hm => ?_, fun hw hm => hw (.inr hm)⟩
      rcases hm with ⟨rfl, rfl⟩ | hm
      · rintro rfl
        exact gone (ProcessView.text?_eq_some_iff.mpr (ProcessView.get?_of_held hd))
      · exact hw hm

/-- A fixed layer refuses nothing. -/
theorem withdraw_fixed (m : KeyMap String) (env : Variables) (l : List (String × String)) :
    ((ProcessVars.mk (.fixed m) env).withdraw l).1 = false := by
  induction l generalizing m with
  | nil => rfl
  | cons e r ih =>
    simp only [withdraw, unset?]
    split
    · exact ih _
    · exact ih _

/-- A variable is left as it is, or is set where there is none. -/
theorem setIfAbsent?_cases (p : ProcessVars) {k : String} (name : Variables.holdsName k = true)
    (v : String) :
    (∃ d, p.view.vars.get? k = some d ∧ p.setIfAbsent? k v = some (false, p)) ∨
      p.view.vars.get? k = none ∧ p.setIfAbsent? k v = (p.set? k v).map fun q => (true, q) := by
  rw [setIfAbsent?, contains, ProcessView.get?_of_holdsName name]
  cases held : p.view.vars.get? k with
  | some d => exact .inl ⟨d, rfl, rfl⟩
  | none => exact .inr ⟨rfl, rfl⟩

/-- Exporting sets just the variables that are not there. -/
theorem exportAll_done {p q : ProcessVars} {l done : List (String × String)}
    (names : ∀ e ∈ l, Variables.holdsName e.1 = true) (distinct : (l.map (·.1)).Nodup)
    (h : p.exportAll l = (false, done, q)) :
    Alike p q ∧ done = l.filter (fun e => !KeyMap.contains p.view.vars e.1) ∧
      ∀ k, q.view.vars.get? k = (p.view.vars.get? k).or ((l.lookup k).map .text) := by
  induction l generalizing p done with
  | nil =>
    obtain ⟨rfl, rfl⟩ : [] = done ∧ p = q := by simpa [exportAll] using h
    exact ⟨.refl p, rfl, fun k => by simp⟩
  | cons e r ih =>
    obtain ⟨k, v⟩ := e
    have ⟨hk, hr⟩ := List.nodup_cons.mp distinct
    have other : ∀ e ∈ r, e.1 ≠ k := fun e he h => hk (List.mem_map.mpr ⟨e, he, h⟩)
    have absent : r.lookup k = none :=
      List.lookup_eq_none_iff.mpr fun e he => by simpa using (other e he).symm
    have rest : ∀ e ∈ r, Variables.holdsName e.1 = true :=
      fun e he => names e (List.mem_cons_of_mem _ he)
    rw [exportAll] at h
    rcases p.setIfAbsent?_cases (names (k, v) List.mem_cons_self) v with
      ⟨d, there, left⟩ | ⟨missing, set⟩
    · rw [left] at h
      obtain ⟨ha, hd, hq⟩ := ih rest hr h
      refine ⟨ha, by rw [hd, List.filter_cons]; simp [KeyMap.contains, there], fun j => ?_⟩
      rw [hq, KeyMap.lookup_cons_if]
      split
      · next hj => rw [hj, there, Option.some_or, Option.some_or]
      · rfl
    · rw [set] at h
      cases hs : p.set? k v with
      | none =>
        rw [hs] at h
        cases h
      | some p' =>
        obtain ⟨ha, hv⟩ := set?_some hs
        rcases hrec : p'.exportAll r with ⟨refused, done', q'⟩
        rw [hs, Option.map_some] at h
        dsimp only at h
        rw [hrec] at h
        obtain ⟨rfl, rfl, rfl⟩ : refused = false ∧ (k, v) :: done' = done ∧ q' = q := by
          simpa using h
        obtain ⟨ha', hd, hq⟩ := ih rest hr hrec
        refine ⟨ha.trans ha', ?_, fun j => ?_⟩
        · -- The variable just set is none of those to come.
          rw [hd, List.filter_cons]
          simp only [KeyMap.contains, missing, Option.isSome_none, Bool.not_false, if_true,
            List.cons.injEq, true_and]
          refine List.filter_congr fun e he => ?_
          rw [hv, if_neg (other e he)]
        · rw [hq, hv, KeyMap.lookup_cons_if]
          split
          · next hj =>
            rw [hj, missing, absent]
            rfl
          · rfl

private theorem exportAll_fixed (m : KeyMap String) (env : Variables) (l : List (String × String)) :
    ((ProcessVars.mk (.fixed m) env).exportAll l).1 = false := by
  induction l generalizing m with
  | nil => rfl
  | cons e r ih =>
    simp only [exportAll, setIfAbsent?, set?]
    by_cases there : (ProcessVars.mk (.fixed m) env).contains e.1
    · simp only [there, if_true]
      exact ih _
    · simp only [there, Bool.false_eq_true, if_false, Option.map_some]
      exact ih _

end ProcessVars

namespace EnvFile

private theorem foldlM_mergeFile_error {t : FileTree} {paths : List String} {f : Failure}
    {s : DuplicateScan × Table String} (h : paths.foldlM (mergeFile t) s = .error f) :
    ∃ p ∈ paths, ∃ e, f = .unreadable p e := by
  induction paths generalizing s with
  | nil => cases h
  | cons p r ih =>
    rw [List.foldlM_cons] at h
    cases hm : mergeFile t s p with
    | ok s' =>
      rw [hm] at h
      obtain ⟨q, hq, e, he⟩ := ih h
      exact ⟨q, List.mem_cons_of_mem _ hq, e, he⟩
    | error g =>
      rw [hm] at h
      obtain rfl : g = f := Except.error.inj h
      refine ⟨p, List.mem_cons_self, ?_⟩
      cases hr : t.read p with
      | ok text => simp [mergeFile, readText?, hr, bind, Except.bind, pure, Except.pure] at hm
      | error e =>
        cases e <;> simp [mergeFile, readText?, hr, bind, Except.bind, pure, Except.pure] at hm <;>
          exact ⟨_, hm.symm⟩

/-- Reading env files fails on a file that cannot be read or on duplicates, and in no other way. -/
theorem loadAll_error {t : FileTree} {paths : List String} {f : Failure}
    (h : loadAll t paths = .error f) :
    (∃ p ∈ paths, ∃ e, f = .unreadable p e) ∨ ∃ l, l ≠ [] ∧ f = .duplicates l := by
  cases hm : paths.foldlM (mergeFile t) (.start, .empty) with
  | error g =>
    obtain rfl : g = f := by simpa [loadAll, hm, bind, Except.bind] using h
    exact .inl (foldlM_mergeFile_error hm)
  | ok s =>
    simp only [loadAll, hm, bind, Except.bind] at h
    split at h
    · cases h
    · next some => exact .inr ⟨_, some, (Except.error.inj h).symm⟩

end EnvFile

/-- A call to read env files as they stand in a tree. -/
inductive Call where
  | load (t : FileTree) (paths : List String) (propagate : Bool)
  | reload (t : FileTree)

/-- What a call asks for: which files of which tree to read, and whether to export. -/
structure Request where
  tree : FileTree
  paths : List String
  propagate : Bool

namespace Config

def call (c : Config) (env : Variables) : Call → Outcome × Config × Variables
  | .load t paths propagate => c.load env t paths propagate
  | .reload t => c.reload env t

/-- What a call asks for; a reload asks for the same as the last load that succeeded. -/
def request (c : Config) : Call → Request
  | .load t paths propagate => ⟨t, paths, propagate⟩
  | .reload t => ⟨t, c.loaded.paths, c.loaded.propagate⟩

theorem call_eq_load (c : Config) (env : Variables) (a : Call) :
    c.call env a =
      c.load env (c.request a).tree (c.request a).paths (c.request a).propagate := by
  cases a with
  | load t paths propagate => rfl
  | reload t => rfl

/-- The variables of the process apart from the exports of the last load. -/
def cleared (c : Config) (env : Variables) : Variables :=
  (ProcessVars.mk c.base env).view.vars.without c.loaded.exported

/-- All that a successful load does. -/
theorem load_done {c c' : Config} {env env' : Variables} {t : FileTree} {paths : List String}
    {propagate : Bool} (h : c.load env t paths propagate = (.done, c', env')) :
    ∃ layer files exported, EnvFile.loadAll t paths = .ok files ∧
      c' = { c with loaded := ⟨layer, files, paths, propagate, exported⟩ } ∧
      ProcessVars.Alike ⟨c.base, env⟩ ⟨layer, env'⟩ ∧
      exported = (if propagate then
        files.entries.filter fun e => !KeyMap.contains (c.cleared env) e.1 else []) ∧
      ∀ k, (ProcessVars.mk layer env').view.vars.get? k =
        ((c.cleared env).get? k).or (if propagate then (files.get? k).map .text else none) := by
  simp only [load] at h
  split at h
  · cases h
  · next files hf =>
    split at h
    · cases h
    · next p hp =>
      obtain ⟨ha, hv⟩ := ProcessVars.withdraw_done hp
      split at h
      · cases h
      · next exported q hq =>
        cases h
        refine ⟨q.layer, files, exported, hf, rfl, ?_⟩
        cases propagate with
        | false =>
          obtain ⟨rfl, rfl⟩ : [] = exported ∧ p = q := by simpa using hq
          refine ⟨ha, rfl, fun k => ?_⟩
          rw [cleared, ← hv]
          simp
        | true =>
          have names : ∀ e ∈ files.entries, Variables.holdsName e.1 = true := fun e he =>
            Variables.holdsName_of_isName (EnvFile.isName_of_mem_loadAll hf (List.mem_map_of_mem he))
          obtain ⟨ha', hd, hq'⟩ := ProcessVars.exportAll_done names files.distinct hq
          refine ⟨ha.trans ha', ?_, fun k => ?_⟩
          · rw [cleared, ← hv]
            exact hd
          · rw [cleared, ← hv]
            exact hq' k

/-- A load that fails has read nothing and changes nothing. -/
theorem load_failed {c c' : Config} {env env' : Variables} {t : FileTree} {paths : List String}
    {propagate : Bool} {f : Failure} (h : c.load env t paths propagate = (.failed f, c', env')) :
    EnvFile.loadAll t paths = .error f ∧ c' = c ∧ env' = env := by
  simp only [load] at h
  split at h
  · next g hg =>
    cases h
    exact ⟨hg, rfl, rfl⟩
  · split at h
    · cases h
    · split at h <;> cases h

/-- On a fixed layer a load succeeds exactly when the files can be read. -/
theorem load_fixed {c : Config} {m : KeyMap String} (hb : c.base = .fixed m) (env : Variables)
    (t : FileTree) (paths : List String) (propagate : Bool) :
    (∃ files, EnvFile.loadAll t paths = .ok files ∧ (c.load env t paths propagate).1 = .done) ∨
      ∃ f, EnvFile.loadAll t paths = .error f ∧
        c.load env t paths propagate = (.failed f, c, env) := by
  simp only [load, hb]
  split
  · next f hf => exact .inr ⟨f, hf, rfl⟩
  · next files hf =>
    refine .inl ⟨files, hf, ?_⟩
    have hw := ProcessVars.withdraw_fixed m env c.loaded.exported
    split
    · next hp => rw [hp] at hw; cases hw
    · next p hp =>
      obtain ⟨n, hn⟩ : ∃ n, p = ⟨.fixed n, env⟩ := by
        cases (ProcessVars.withdraw_done hp).1 with | fixed _ n _ => exact ⟨n, rfl⟩
      split
      · next hq =>
        have he := ProcessVars.exportAll_fixed n env files.entries
        split at hq
        · rw [← hn, hq] at he; cases he
        · cases hq
      · rfl

end Config

end LayeredConfig
