import LayeredConfig.Proofs.Load.History
import LayeredConfig.Proofs.Load.Refusal

/-! Loading the same files again. What a load exported is just what the next one takes back, so that
the next one finds the variables that the first one found, and leaves them as the first one did. -/
namespace LayeredConfig

/-- States of one layer that show the same variables are the same. -/
theorem ProcessVars.Alike.eq_of_view {p q : ProcessVars} (h : Alike p q)
    (same : p.view.vars = q.view.vars) :
    p = q := by
  cases h with
  | fixed m n env =>
    have texts : m.map Datum.text = n.map Datum.text := same
    have values : m = n := by
      refine KeyMap.ext_get? fun k => ?_
      have at_k := congrArg (KeyMap.get? · k) texts
      simp only [KeyMap.get?_map] at at_k
      exact Option.map_injective (fun _ _ => Datum.text.inj) at_k
    rw [values]
  | system env env' =>
    obtain rfl : env = env' := same
    rfl

/-- Two changes of one layer, one after the other in one environment. -/
theorem ProcessVars.Alike.after {base layer layer' : ProcessLayer} {env env' env'' : Variables}
    (h : Alike ⟨base, env⟩ ⟨layer, env'⟩) (h' : Alike ⟨base, env'⟩ ⟨layer', env''⟩) :
    Alike ⟨layer, env'⟩ ⟨layer', env''⟩ := by
  cases h with
  | fixed _ m _ => cases h' with | fixed _ n _ => exact .fixed m n env
  | system _ _ => cases h' with | system _ _ => exact .system env' env''

namespace Config

variable {c c' : Config} {base : KeyMap String} {env env' : Variables} {t : FileTree}
  {paths : List String} {propagate : Bool}

/-- Calls leave the layer that a configuration was made with. -/
theorem call_base (c : Config) (env : Variables) (a : Call) :
    (c.call env a).2.1.base = c.base := by
  rw [call_eq_load, load]
  repeat' split
  all_goals rfl

/-- On a fixed layer each configuration that comes about stands as its last request left it. -/
theorem Reachable.loadedBy (h : Reachable c) (hb : c.base = .fixed base) :
    ∃ last, LoadedBy base last c.loaded := by
  induction h with
  | start schema layer root placeholders =>
    obtain rfl : layer = .fixed base := hb
    exact ⟨none, .nothing⟩
  | declared _ _ ih => exact ih hb
  | @called c _ env a ih =>
    rw [call_base] at hb
    obtain ⟨last, hl⟩ := ih hb
    rcases call_cases hb hl env a with ⟨-, l, done, hl'⟩ | ⟨-, f, -, failed⟩
    · rw [done]
      exact ⟨_, hl'⟩
    · rw [failed]
      exact ⟨last, hl⟩

/-- The exports of a load taken back, the variables are those that it found. -/
theorem Reachable.cleared_of_done (h : Reachable c)
    (done : c.load env t paths propagate = (.done, c', env')) : c'.cleared env' = c.cleared env := by
  cases hb : c.base with
  | fixed base =>
    obtain ⟨last, hl⟩ := h.loadedBy hb
    obtain ⟨hc, -, hl'⟩ := loadedBy_of_done (r := ⟨t, paths, propagate⟩) hb hl done
    have hb' : c'.base = .fixed base := by rw [hc, hb]
    rw [cleared_of_loadedBy hb hl, cleared_of_loadedBy hb' hl']
  | system =>
    have before : c.Shares env (c.cleared env) := ⟨hb, by rw [cleared, hb]; rfl⟩
    have ended : (c.call env (.load t paths propagate)).1 ≠ .aborted := by
      rw [call, done]
      rintro ⟨⟩
    have after := before.step (.of_call ended)
    rw [call, done] at after
    exact after.cleared_eq

/-- The environment refuses nothing that it took before. -/
theorem Reachable.ended_again (h : Reachable c)
    (done : c.load env t paths propagate = (.done, c', env')) :
    (c'.load env' t paths propagate).1 ≠ .aborted := by
  have next := h.called env (.load t paths propagate)
  have base := c.call_base env (.load t paths propagate)
  rw [call, done] at next base
  cases hb : c.base with
  | fixed m =>
    rcases load_fixed (base.trans hb) env' t paths propagate with ⟨_, -, ended⟩ | ⟨_, -, ended⟩
    · rw [ended]
      rintro ⟨⟩
    · rw [ended]
      rintro ⟨⟩
  | system =>
    intro broken
    have refused := (next.load_aborted_iff (base.trans hb) env' t paths propagate).mp broken
    rw [h.cleared_of_done done, ← h.load_aborted_iff hb env t paths propagate, done] at refused
    cases refused

/-- A load that succeeded succeeds again, and changes nothing. -/
theorem Reachable.load_again (h : Reachable c)
    (done : c.load env t paths propagate = (.done, c', env')) :
    c'.load env' t paths propagate = (.done, c', env') := by
  have ended := h.ended_again done
  have cleared := h.cleared_of_done done
  obtain ⟨layer, files, exported, read, hc, alike, exports, shown⟩ := load_done done
  rcases again : c'.load env' t paths propagate with ⟨o, c'', env''⟩
  rw [again] at ended
  cases o with
  | aborted => exact absurd rfl ended
  | failed f =>
    obtain ⟨unread, -⟩ := load_failed again
    cases read.symm.trans unread
  | done =>
    obtain ⟨layer', files', exported', read', hc', alike', exports', shown'⟩ := load_done again
    obtain rfl : files = files' := Except.ok.inj (read.symm.trans read')
    rw [cleared] at exports' shown'
    obtain rfl : exported = exported' := exports.trans exports'.symm
    have same : (ProcessVars.mk layer env').view.vars = (ProcessVars.mk layer' env'').view.vars :=
      KeyMap.ext_get? fun k => (shown k).trans (shown' k).symm
    rw [hc] at alike'
    cases (alike.after alike').eq_of_view same
    rw [hc', hc]

/-- A reload right after a call that succeeded succeeds as well, and changes nothing. So does one
reload after another, whatever the environment and the files were before. -/
theorem Reachable.reload_stable (h : Reachable c) (env : Variables) :
    (∀ t paths propagate c' env', c.load env t paths propagate = (.done, c', env') →
      c'.reload env' t = (.done, c', env')) ∧
    ∀ t c' env', c.reload env t = (.done, c', env') → c'.reload env' t = (.done, c', env') := by
  have loaded {t : FileTree} {paths : List String} {propagate : Bool} {c' : Config}
      {env' : Variables} (done : c.load env t paths propagate = (.done, c', env')) :
      c'.reload env' t = (.done, c', env') := by
    have again := h.load_again done
    obtain ⟨_, _, _, -, rfl, -⟩ := load_done done
    exact again
  exact ⟨fun _ _ _ _ _ => loaded, fun _ _ _ => loaded⟩

/-- What comes of a load that exports `A` and `B`, where the host has an empty variable. -/
def exportedTwo : Outcome × Config × Variables :=
  (ofSchema .empty .system none none).call (rawHome.insert "EMPTY" (.text ""))
    (.load (oneFile "A=1\nEMPTY=x\nB=2") [".env", ".env.local"] true)

/-- Two files that overlap, in each other and with variables of the host. -/
def overlapping : FileTree :=
  (oneFile "C=$A\nB=3\nA=4\nHOME=y\nEMPTY=z").put [".env.local"] (.file (.text "D=\nB=5"))

/-- The first reload takes back `B` alone, as the host has given `A` another value. -/
theorem Reachable.reload_stable_reassigned :
    let reassigned := (HostAct.set "A" (.text "9")).apply exportedTwo.2.2
    let next := exportedTwo.2.1.reload reassigned overlapping
    next.1 = .done ∧ next.2.1.loaded.exported = [("C", "$A"), ("B", "5"), ("D", "")] ∧
      next.2.1.reload next.2.2 overlapping = next := by
  intro reassigned next
  have h : Reachable exportedTwo.2.1 := .called (.start .empty .system none none) _ _
  have done : next.1 = .done := by decide +kernel
  have again := (h.reload_stable reassigned).2 overlapping _ _ (Prod.ext done rfl)
  exact ⟨done, by decide +kernel, again.trans (Prod.ext done.symm rfl)⟩

end Config

end LayeredConfig
