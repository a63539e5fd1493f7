import LayeredConfig.Proofs.Load.Basic

/-! What loads leave of the environment that a configuration shares with its host. -/
namespace LayeredConfig

/-- A change that the host makes to its environment. -/
inductive HostAct where
  | set (k : String) (d : Datum)
  | unset (k : String)
deriving DecidableEq

/-- The environment after a change; one that the environment refuses has no effect. -/
def HostAct.apply (env : Variables) : HostAct → Variables
  | .set k d => (env.set? k d).getD env
  | .unset k => (env.unset? k).getD env

/-- What happens in a shared environment. -/
inductive Act where
  | host (a : HostAct)
  | call (a : Call)

/-- An environment after some acts, of which only those of the host are done. -/
def hostOnly (env : Variables) (acts : List Act) : Variables :=
  acts.foldl (fun env a => match a with
    | .host a => a.apply env
    | .call _ => env) env

namespace Config

/-- One act. The host sets no exported variable to the exported value, and no load is broken off. -/
inductive Step : Config → Variables → Act → Config → Variables → Prop
  | host {c : Config} {env : Variables} {a : HostAct}
      (other : ∀ e ∈ c.loaded.exported, a ≠ .set e.1 (.text e.2)) :
      Step c env (.host a) c (a.apply env)
  | call {c c' : Config} {env env' : Variables} {a : Call} {o : Outcome}
      (result : c.call env a = (o, c', env')) (ended : o ≠ .aborted) :
      Step c env (.call a) c' env'

theorem Step.of_call {c : Config} {env : Variables} {a : Call}
    (ended : (c.call env a).1 ≠ .aborted) :
    Step c env (.call a) (c.call env a).2.1 (c.call env a).2.2 :=
  .call rfl ended

/-- Acts one after the other. -/
inductive Run (c₀ : Config) (env₀ : Variables) : List Act → Config → Variables → Prop
  | start : Run c₀ env₀ [] c₀ env₀
  | step {acts : List Act} {a : Act} {c c' : Config} {env env' : Variables} :
      Run c₀ env₀ acts c env → Step c env a c' env' → Run c₀ env₀ (acts ++ [a]) c' env'

/-- The environment is that of the host, apart from exports that nobody has touched. -/
structure Shares (c : Config) (env own : Variables) : Prop where
  base : c.base = .system
  rest : env.without c.loaded.exported = own

theorem Shares.cleared_eq {c : Config} {env own : Variables} (h : c.Shares env own) :
    c.cleared env = own := by
  rw [cleared, h.base]
  exact h.rest

/-- A successful load exports just the pairs of its files that the host does not have. -/
theorem Shares.load_done {c c' : Config} {env env' own : Variables} {t : FileTree}
    {paths : List String} {propagate : Bool} (h : c.Shares env own)
    (hl : c.load env t paths propagate = (.done, c', env')) :
    c'.base = .system ∧ EnvFile.loadAll t paths = .ok c'.loaded.files ∧
      (∀ k v, (k, v) ∈ c'.loaded.exported ↔
        propagate = true ∧ (k, v) ∈ c'.loaded.files.entries ∧ own.get? k = none) ∧
      ∀ k d, env'.get? k = some d ↔
        own.get? k = some d ∨ ∃ v, d = .text v ∧ (k, v) ∈ c'.loaded.exported := by
  obtain ⟨layer, files, exported, hf, rfl, ha, he, hv⟩ := Config.load_done hl
  rw [h.base] at ha
  cases ha
  rw [h.cleared_eq] at he hv
  have hmem : ∀ k v, (k, v) ∈ exported ↔
      propagate = true ∧ (k, v) ∈ files.entries ∧ own.get? k = none := by
    intro k v
    cases propagate <;> simp [he, KeyMap.contains]
  refine ⟨h.base, hf, hmem, ?_⟩
  intro k d
  have hk : env'.get? k =
      (own.get? k).or (if propagate then (files.get? k).map .text else none) := hv k
  dsimp only
  rw [hk]
  simp only [hmem]
  cases hown : own.get? k with
  | some x => simp
  | none =>
    cases propagate with
    | false => simp
    | true =>
      simp only [if_true, Option.none_or, Option.map_eq_some_iff, Table.get?_eq_some_iff]
      simp [and_comm, eq_comm]

private theorem Shares.load {c c' : Config} {env env' own : Variables} {t : FileTree}
    {paths : List String} {propagate : Bool} {o : Outcome} (h : c.Shares env own)
    (hl : c.load env t paths propagate = (o, c', env')) (ended : o ≠ .aborted) :
    c'.Shares env' own := by
  cases o with
  | aborted => exact absurd rfl ended
  | failed f =>
    obtain ⟨-, rfl, rfl⟩ := load_failed hl
    exact h
  | done =>
    obtain ⟨hb, -, he, hv⟩ := h.load_done hl
    refine ⟨hb, KeyMap.ext_get? fun k => Option.ext fun d => ?_⟩
    rw [Variables.get?_without, hv]
    constructor
    · rintro ⟨hd | ⟨v, rfl, hm⟩, other⟩
      · exact hd
      · exact absurd rfl (other v hm)
    · intro hd
      refine ⟨.inl hd, fun v hm => ?_⟩
      -- What the host has is not exported.
      have hn := ((he k v).mp hm).2.2
      rw [hd] at hn
      cases hn

/-- What the host sets is not taken for an export, and what it unsets is gone from both. -/
private theorem Shares.host {c : Config} {env own : Variables} {a : HostAct} (h : c.Shares env own)
    (other : ∀ e ∈ c.loaded.exported, a ≠ .set e.1 (.text e.2)) :
    c.Shares (a.apply env) (a.apply own) := by
  refine ⟨h.base, KeyMap.ext_get? fun j => Option.ext fun x => ?_⟩
  obtain ⟨-, rfl⟩ := h
  cases a with
  | set k d =>
    simp only [HostAct.apply, Variables.set?]
    split
    · simp only [Option.getD_some, Variables.get?_without, KeyMap.get?_insert]
      by_cases hj : j = k
      · subst hj
        rw [if_pos rfl, if_pos rfl]
        refine ⟨fun hx => hx.1, fun hx => ⟨hx, ?_⟩⟩
        intro v hv e
        have hd : d = .text v := (Option.some.inj hx).trans e
        exact other (j, v) hv (by rw [hd])
      · rw [if_neg hj, if_neg hj]
        exact Variables.get?_without.symm
    · rfl
  | unset k =>
    simp only [HostAct.apply, Variables.unset?]
    split
    · simp only [Option.getD_some, Variables.get?_without, KeyMap.get?_erase]
      by_cases hj : j = k
      · simp [hj]
      · rw [if_neg hj, if_neg hj]
        exact Variables.get?_without.symm
    · rfl

/-- What one act keeps. -/
theorem Shares.step {c c' : Config} {env env' own : Variables} {a : Act} (h : c.Shares env own)
    (s : Step c env a c' env') : c'.Shares env' (hostOnly own [a]) := by
  cases s with
  | host other => exact h.host other
  | call result ended => exact h.load (call_eq_load _ _ _ ▸ result) ended

/-- What a run keeps, from a configuration that has loaded nothing. -/
theorem Shares.run {c₀ c : Config} {env₀ env : Variables} {acts : List Act}
    (h : c₀.Shares env₀ env₀) (r : Run c₀ env₀ acts c env) : c.Shares env (hostOnly env₀ acts) := by
  induction r with
  | start => exact h
  | step _ s ih =>
    rw [hostOnly, List.foldl_append]
    exact ih.step s

private theorem shares_ofSchema (schema : Schema) (root : Option String)
    (placeholders : Option Bool)
    (env : Variables) : (ofSchema schema .system root placeholders).Shares env env := by
  refine ⟨rfl, KeyMap.ext_get? fun k => Option.ext fun d => ?_⟩
  rw [Variables.get?_without]
  simp [ofSchema]

/-- At every point of every run, the environment without the exports that still stand is what the
host alone has made of it. So a call that ends changes no variable of the host, a successful one
leaves no other exports than its own, and one that does not export leaves none. -/
theorem without_exports_eq_hostOnly {schema : Schema} {root : Option String}
    {placeholders : Option Bool} {env₀ env : Variables} {acts : List Act} {c : Config}
    (r : Run (ofSchema schema .system root placeholders) env₀ acts c env) :
    env.without c.loaded.exported = hostOnly env₀ acts ∧
      ∀ a o c' env', c.call env a = (o, c', env') → o ≠ .aborted →
        (∀ k d, (hostOnly env₀ acts).get? k = some d →
          env.get? k = some d ∧ env'.get? k = some d) ∧
        (o = .done →
          EnvFile.loadAll (c.request a).tree (c.request a).paths = .ok c'.loaded.files ∧
          ∀ k d, env'.get? k = some d → (hostOnly env₀ acts).get? k = some d ∨
            ∃ v, d = .text v ∧ (k, v) ∈ c'.loaded.exported ∧ (k, v) ∈ c'.loaded.files.entries) ∧
        (o = .done → (c.request a).propagate = false → env' = hostOnly env₀ acts) := by
  have h := (shares_ofSchema schema root placeholders env₀).run r
  refine ⟨h.rest, fun a o c' env' hl ended => ?_⟩
  rw [call_eq_load] at hl
  generalize c.request a = q at hl
  refine ⟨fun k d hk => ?_, ?_, ?_⟩
  · have h' := h.load hl ended
    have kept := Variables.get?_without.mp (h.rest ▸ hk)
    have kept' := Variables.get?_without.mp (h'.rest ▸ hk)
    exact ⟨kept.1, kept'.1⟩
  · rintro rfl
    obtain ⟨-, hf, he, hv⟩ := h.load_done hl
    refine ⟨hf, fun k d hd => ?_⟩
    rcases (hv k d).mp hd with hd | ⟨v, rfl, hm⟩
    · exact .inl hd
    · exact .inr ⟨v, rfl, hm, ((he k v).mp hm).2.1⟩
  · rintro rfl silent
    obtain ⟨-, -, he, hv⟩ := h.load_done hl
    refine KeyMap.ext_get? fun k => Option.ext fun d => (hv k d).trans ?_
    refine ⟨?_, .inl⟩
    rintro (hd | ⟨v, rfl, hm⟩)
    · exact hd
    · have exporting := ((he k v).mp hm).1
      rw [silent] at exporting
      cases exporting

def oneFile (text : String) : FileTree := FileTree.empty.put [".env"] (.file (.text text))

/-- An environment with a variable that is not text. -/
def rawHome : Variables := KeyMap.ofList [("HOME", .raw [255])]

/-- Two loads, between which the host gives an exported variable a value of its own. -/
def reassigning : List Act :=
  [.call (.load (oneFile "HOME=x\nA=1\nB=2") [".env"] true), .host (.set "A" (.text "9")),
   .call (.load (oneFile "B=3") [".env"] true)]

theorem without_exports_eq_hostOnly_reassigning :
    ∃ c env, Run (ofSchema .empty .system none none) rawHome reassigning c env ∧
      env.without c.loaded.exported = hostOnly rawHome reassigning := by
  let c := ofSchema .empty .system none none
  let first := c.call rawHome (.load (oneFile "HOME=x\nA=1\nB=2") [".env"] true)
  have step₁ : Step c rawHome (.call (.load (oneFile "HOME=x\nA=1\nB=2") [".env"] true))
      first.2.1 first.2.2 := .of_call (by decide +kernel)
  let reset := (HostAct.set "A" (.text "9")).apply first.2.2
  have step₂ : Step first.2.1 first.2.2 (.host (.set "A" (.text "9"))) first.2.1 reset :=
    .host (by decide +kernel)
  let second := first.2.1.call reset (.load (oneFile "B=3") [".env"] true)
  have step₃ : Step first.2.1 reset (.call (.load (oneFile "B=3") [".env"] true))
      second.2.1 second.2.2 := .of_call (by decide +kernel)
  have r : Run c rawHome reassigning second.2.1 second.2.2 :=
    ((Run.start.step step₁).step step₂).step step₃
  exact ⟨_, _, r, (without_exports_eq_hostOnly r).1⟩

end Config

end LayeredConfig
