import LayeredConfig.Proofs.Load.Reloading
import LayeredConfig.Proofs.Resolve.Layers

/-! Exporting what a load has read. The variables of the files go into the layer above, where there
was none; this shows in nothing but names with an equals sign, under which an environment finds the
rest of an exported value. -/
namespace LayeredConfig

namespace Layers

variable {process process' : Variables} {files : Table String} {environ : Bool} {name : String}

private theorem lookup_of_held {d : Datum} (held : process.get? name = some d) :
    (Layers.mk ⟨process, environ⟩ files).lookup name = d.text?.or (files.get? name) := by
  rw [lookup, ProcessView.text?, ProcessView.get?_of_held (w := ⟨process, environ⟩) held]
  rfl

private theorem lookup_of_missing (missing : process.get? name = none)
    (unread : files.get? name = none) :
    (Layers.mk ⟨process, environ⟩ files).lookup name =
      (if environ then process.within? name.toList else none).bind Datum.text? := by
  rw [lookup, ProcessView.text?, ProcessView.get?, missing, unread, Option.none_or, Option.or_none]

section Exported

variable (names : ∀ k ∈ files.keys, Variables.holdsName k = true)
  (added : ∀ k, process'.get? k = (process.get? k).or ((files.get? k).map .text))

include added

private theorem shows_added_iff (k : String) :
    (Layers.mk ⟨process', environ⟩ files).Shows k ↔
      (Layers.mk ⟨process, environ⟩ files).Shows k := by
  simp only [Shows, List.mem_append, ProcessView.mem_names_iff, Table.mem_keys_iff, added]
  cases process.get? k with
  | some d => simp
  | none => cases files.get? k <;> simp

/-- Nothing is found inside a variable in two ways unless the variable is one that was added, and
has the rest of the name in its value. -/
private theorem within?_added
    (outside : ¬ ∃ k v, files.get? k = some v ∧ process.get? k = none ∧ Inside k v name) :
    process'.within? name.toList = process.within? name.toList := by
  rcases Variables.within?_cases name with nowhere | ⟨k, start, rfl, inside⟩
  · rw [nowhere, nowhere]
  · rw [inside, inside, added]
    cases held : process.get? k with
    | some d => rfl
    | none =>
      cases read : files.get? k with
      | none => rfl
      | some v =>
        rw [Option.none_or, Option.map_some, Option.bind_some, Option.bind_none]
        refine Option.eq_none_iff_forall_not_mem.mpr fun d hd => outside ⟨k, v, read, held, ?_⟩
        obtain ⟨rest, -, rfl⟩ := Option.map_eq_some_iff.mp hd
        exact ⟨start, _, rfl, Datum.behind?_text.mp hd⟩

include names

/-- Variables of the files that are added to the layer above, where it has none, show in what an
environment finds inside of them. -/
theorem lookup_added_eq_iff :
    (Layers.mk ⟨process', environ⟩ files).lookup name =
        (Layers.mk ⟨process, environ⟩ files).lookup name ↔
      ¬ (environ = true ∧ process.get? name = none ∧
        ∃ k v, files.get? k = some v ∧ process.get? k = none ∧ Inside k v name) := by
  cases held : process.get? name with
  | some d =>
    have held' : process'.get? name = some d := by rw [added, held, Option.some_or]
    exact iff_of_true ((lookup_of_held held').trans (lookup_of_held held).symm) nofun
  | none =>
    have there' : process'.get? name = (files.get? name).map .text := by
      rw [added, held, Option.none_or]
    cases read : files.get? name with
    | some v =>
      have plain := Variables.plain_of_holdsName (names name (Table.mem_keys_iff.mpr ⟨v, read⟩))
      rw [read] at there'
      refine iff_of_true ?_ fun ⟨_, _, _, _, _, _, inside⟩ => plain inside.equals_mem
      rw [lookup_of_held there', lookup, ProcessView.text?, ProcessView.get?_of_plain plain, held,
        read]
      rfl
    | none =>
      rw [read] at there'
      rw [lookup_of_missing there' read, lookup_of_missing held read]
      cases environ with
      | false => simp
      | true =>
        by_cases inside : ∃ k v, files.get? k = some v ∧ process.get? k = none ∧ Inside k v name
        · refine iff_of_false ?_ fun outside => outside ⟨rfl, rfl, inside⟩
          obtain ⟨k, v, value, absent, start, rest, rfl, rfl⟩ := inside
          have own := names k (Table.mem_keys_iff.mpr ⟨_, value⟩)
          rw [if_pos rfl, if_pos rfl, Variables.within?_append own, Variables.within?_append own,
            added, absent, value, Option.none_or, Option.map_some, Option.bind_some,
            Datum.behind?_text.mpr rfl]
          nofun
        · rw [within?_added added inside]
          exact iff_of_true rfl fun ⟨_, _, found⟩ => inside found

end Exported

end Layers

namespace ProcessVars

private theorem Alike.environ_eq {p q : ProcessVars} (h : Alike p q) :
    q.view.environ = p.view.environ := by
  cases h <;> rfl

private theorem environ_iff (layer : ProcessLayer) (env : Variables) :
    (ProcessVars.mk layer env).view.environ = true ↔ layer = .system := by
  cases layer <;> simp [view]

end ProcessVars

namespace Config

variable {c c' c₁ c₂ : Config} {env env' env₁ env₂ : Variables} {t : FileTree} {paths : List String}

/-- What is left when the exports of the last load are taken back. -/
def clearedView (c : Config) (env : Variables) : ProcessView :=
  ⟨c.cleared env, (ProcessVars.mk c.base env).view.environ⟩

/-- A load that does not export leaves nothing else in front of the files that it has read. -/
theorem layers_of_silent (h : c.load env t paths false = (.done, c', env')) {files : Table String}
    (read : EnvFile.loadAll t paths = .ok files) : c'.layers env' = ⟨c.clearedView env, files⟩ := by
  obtain ⟨layer, files', exported, read', rfl, alike, -, shown⟩ := load_done h
  obtain rfl : files = files' := Except.ok.inj (read.symm.trans read')
  have vars : (ProcessVars.mk layer env').view.vars = c.cleared env :=
    KeyMap.ext_get? fun k => (shown k).trans Option.or_none
  rw [layers, clearedView, ← vars, ← alike.environ_eq]

/-- A load that exports adds those variables of the files that the process does not have. -/
theorem layers_of_exporting (h : c.load env t paths true = (.done, c', env')) :
    ∃ files vars, EnvFile.loadAll t paths = .ok files ∧
      c'.layers env' = ⟨⟨vars, (c.clearedView env).environ⟩, files⟩ ∧
      (∀ k v, (k, v) ∈ c'.loaded.exported ↔
        files.get? k = some v ∧ (c.cleared env).get? k = none) ∧
      ∀ k, vars.get? k = ((c.cleared env).get? k).or ((files.get? k).map .text) := by
  obtain ⟨layer, files, exported, read, rfl, alike, rfl, shown⟩ := load_done h
  refine ⟨files, _, read, ?_, fun k v => ?_, shown⟩
  · rw [layers, clearedView, ← alike.environ_eq]
  · rw [if_pos rfl, List.mem_filter, Table.get?_eq_some_iff, KeyMap.contains]
    simp

/-- Of two successful loads of the same files in the same state, one exports and one does not. They
list the same names. Under a name they find the same unless it goes on from an exported variable of
the environment into the value, and is not that of a variable itself; in particular under every name
without an equals sign. Where the variables of the settings and the switches of their placeholders
are no such names, all operations have the same answers and failures. -/
theorem propagation_shows_only_inside_exports
    (exporting : c.load env t paths true = (.done, c₁, env₁))
    (silent : c.load env t paths false = (.done, c₂, env₂)) :
    (∀ k, (c₁.layers env₁).lookup k = (c₂.layers env₂).lookup k ↔
      ¬ (c.base = .system ∧ (c.cleared env).get? k = none ∧
        ∃ e ∈ c₁.loaded.exported, Inside e.1 e.2 k)) ∧
    (∀ k, '=' ∉ k.toList → (c₁.layers env₁).lookup k = (c₂.layers env₂).lookup k) ∧
    (∀ start, (c₁.layers env₁).namesFrom start = (c₂.layers env₂).namesFrom start) ∧
    ((∀ s ∈ c.schema.list, s.kind ≠ .fields → ∀ k ∈ [s.envVar, s.envVar ++ placeholderEnding],
        (c₁.layers env₁).lookup k = (c₂.layers env₂).lookup k) →
      ∀ (op : Operation) (st : Session),
        (op.run (c₁.view env₁)).runFrom st = (op.run (c₂.view env₂)).runFrom st) := by
  obtain ⟨files, vars, read, layers₁, exported, added⟩ := layers_of_exporting exporting
  have layers₂ := layers_of_silent silent read
  have names : ∀ k ∈ files.keys, Variables.holdsName k = true := fun k hk =>
    Variables.holdsName_of_isName (EnvFile.isName_of_mem_loadAll read hk)
  have same (k : String) : (c₁.layers env₁).lookup k = (c₂.layers env₂).lookup k ↔
      ¬ (c.base = .system ∧ (c.cleared env).get? k = none ∧
        ∃ e ∈ c₁.loaded.exported, Inside e.1 e.2 k) := by
    rw [layers₁, layers₂, clearedView, Layers.lookup_added_eq_iff names added,
      ProcessVars.environ_iff]
    simp only [Prod.exists, exported, and_assoc]
  have plain (k : String) (h : '=' ∉ k.toList) :
      (c₁.layers env₁).lookup k = (c₂.layers env₂).lookup k :=
    (same k).mpr fun ⟨_, _, _, _, inside⟩ => h inside.equals_mem
  have shows (k : String) : (c₁.layers env₁).Shows k ↔ (c₂.layers env₂).Shows k := by
    rw [layers₁, layers₂]
    exact Layers.shows_added_iff added k
  have listed (start : String) :
      (c₁.layers env₁).namesFrom start = (c₂.layers env₂).namesFrom start :=
    Layers.namesFrom_congr shows start
  refine ⟨same, plain, listed, fun own op st => ?_⟩
  -- What is listed is a variable already, or a name in the files.
  have shown (k : String) (there : (c₁.layers env₁).Shows k) :
      (c₁.layers env₁).lookup k = (c₂.layers env₂).lookup k := by
    rw [shows, layers₂] at there
    rcases List.mem_append.mp there with held | there
    · obtain ⟨d, held⟩ := ProcessView.mem_names_iff.mp held
      exact (same k).mpr fun ⟨_, absent, _⟩ => nomatch held.symm.trans absent
    · exact plain k (Variables.plain_of_holdsName (names k there))
  have views : (c₁.view env₁).Alike (c₂.view env₂) := by
    obtain ⟨_, _, _, -, rfl, -⟩ := load_done exporting
    obtain ⟨_, _, _, -, rfl, -⟩ := load_done silent
    refine ⟨rfl, rfl, rfl, fun k asked => ?_, fun _ _ _ => listed _⟩
    cases asked with
    | mentioned name =>
      exact plain k (Variables.plain_of_holdsName (Variables.holdsName_of_isName name))
    | listed _ _ there => exact shown k (Layers.mem_namesFrom.mp there).1
    | own declared single => exact own _ declared single _ List.mem_cons_self
    | switch declared single =>
      exact own _ declared single _ (List.mem_cons_of_mem _ List.mem_cons_self)
  rw [op.run_congr views]

def oddVariables : Variables := rawHome.insert "EMPTY" (.text "")

def loadedOnce : Outcome × Config × Variables :=
  (ofSchema (Schema.build [] [Setting.ofVar "A" .text]) .system none none).load oddVariables
    (oneFile "A=1\nEMPTY=x") [".env"] true

/-- What comes of the next load, which can export a value with an equals sign. -/
def loadedNext (propagate : Bool) : Outcome × Config × Variables :=
  loadedOnce.2.1.load loadedOnce.2.2 (oneFile "A=2\nHOME=y\nEMPTY=z\nB=$HOME=1") [".env"] propagate

theorem propagation_shows_only_inside_exports_odd_variables :
    (loadedNext true).1 = .done ∧ (loadedNext false).1 = .done ∧
    (loadedNext true).2.1.loaded.exported = [("A", "2"), ("B", "$HOME=1")] ∧
    ((loadedNext true).2.1.layers (loadedNext true).2.2).lookup "B=$HOME" ≠
      ((loadedNext false).2.1.layers (loadedNext false).2.2).lookup "B=$HOME" ∧
    ∀ (op : Operation) (st : Session),
      (op.run ((loadedNext true).2.1.view (loadedNext true).2.2)).runFrom st =
        (op.run ((loadedNext false).2.1.view (loadedNext false).2.2)).runFrom st := by
  have exporting : (loadedNext true).1 = .done := by decide +kernel
  have silent : (loadedNext false).1 = .done := by decide +kernel
  have exported : (loadedNext true).2.1.loaded.exported = [("A", "2"), ("B", "$HOME=1")] := by
    decide +kernel
  have base : loadedOnce.2.1.base = .system :=
    call_base (ofSchema (Schema.build [] [Setting.ofVar "A" .text]) .system none none) oddVariables
      (.load (oneFile "A=1\nEMPTY=x") [".env"] true)
  have absent : (loadedOnce.2.1.cleared loadedOnce.2.2).get? "B=$HOME" = none := by decide +kernel
  have inside : Inside "B" "$HOME=1" "B=$HOME" := ⟨"$HOME", "1", by decide, by decide⟩
  have declared : loadedOnce.2.1.schema.list = [Setting.ofVar "A" .text] := by decide +kernel
  have signless : ∀ k ∈ ["A", "A" ++ placeholderEnding], '=' ∉ k.toList := by decide +kernel
  obtain ⟨same, plain, -, operations⟩ :=
    propagation_shows_only_inside_exports (Prod.ext exporting rfl) (Prod.ext silent rfl)
  refine ⟨exporting, silent, exported, fun alike => ?_, operations fun s hs _ k hk => ?_⟩
  · have listed : ("B", "$HOME=1") ∈ (loadedNext true).2.1.loaded.exported := by
      rw [exported]
      exact List.mem_cons_of_mem _ List.mem_cons_self
    exact (same "B=$HOME").mp alike ⟨base, absent, ("B", "$HOME=1"), listed, inside⟩
  · have own : s = Setting.ofVar "A" .text := List.mem_singleton.mp (declared ▸ hs)
    rw [own] at hk
    exact plain k (signless k hk)

/-- An optional setting whose variable has an equals sign in its name. -/
def behindSign : Setting :=
  { envVar := "A=B", kind := .text, accessor := "x", required := false }

def loadedBehind (propagate : Bool) : Outcome × Config × Variables :=
  (ofSchema (Schema.build [] [behindSign]) .system none none).load KeyMap.empty
    (oneFile "A=B=C") [".env"] propagate

/-- The environment finds the rest of an exported value under a name that nobody has set. -/
theorem inside_export_found :
    (loadedBehind true).1 = .done ∧ (loadedBehind false).1 = .done ∧
    ((((loadedBehind true).2.1.view (loadedBehind true).2.2).get "x").runFrom .fresh).1 =
      .ok (.text "C") ∧
    ((((loadedBehind false).2.1.view (loadedBehind false).2.2).get "x").runFrom .fresh).1 =
      .ok .absent := by
  decide +kernel

end Config

end LayeredConfig
