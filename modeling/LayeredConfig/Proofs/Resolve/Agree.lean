import LayeredConfig.Group
import LayeredConfig.Readout
import LayeredConfig.Proofs.Maps
import LayeredConfig.Proofs.Resolve.Failures

/-! When two ways to resolve settings cannot be told apart. All that a resolution is built from
preserves agreement, so two resolvers agree as soon as they agree on what a setting refers to. -/
namespace LayeredConfig

namespace Resolving

variable {α β : Type} {P : Session → Prop} {E : Failure → Prop} {x y : Resolving α}

/-- What a computation gives in a session, and the session that it leaves. -/
def runFrom (x : Resolving α) (s : Session) : Except Failure α × Session := x.run.run s

@[simp] theorem runFrom_pure (a : α) (s : Session) :
    (pure a : Resolving α).runFrom s = (.ok a, s) := rfl

@[simp] theorem runFrom_throw (f : Failure) (s : Session) :
    (throw f : Resolving α).runFrom s = (.error f, s) := rfl

@[simp] theorem runFrom_lift (r : Except Failure α) (s : Session) :
    (lift r).runFrom s = (r, s) := rfl

@[simp] theorem runFrom_note (e : Event) (s : Session) :
    (note e).runFrom s = (.ok (), { s with journal := e :: s.journal }) := rfl

theorem runFrom_bind (x : Resolving α) (f : α → Resolving β) (s : Session) :
    (x >>= f).runFrom s = match x.runFrom s with
      | (.ok a, t) => (f a).runFrom t
      | (.error e, t) => (.error e, t) := by
  rw [runFrom, ExceptT.run_bind, StateT.run_bind]
  change _ = match x.run.run s with | (.ok a, t) => (f a).runFrom t | (.error e, t) => (.error e, t)
  rcases x.run.run s with ⟨r, t⟩
  cases r <;> rfl

theorem runFrom_tryCatch (x : Resolving α) (h : Failure → Resolving α) (s : Session) :
    (tryCatch x h).runFrom s = match x.runFrom s with
      | (.ok a, t) => (.ok a, t)
      | (.error e, t) => (h e).runFrom t := by
  change (ExceptT.tryCatch x h).run.run s = match x.run.run s with
    | (.ok a, t) => (.ok a, t)
    | (.error e, t) => (h e).run.run t
  have hx : StateT.run x s = x.run.run s := rfl
  rw [ExceptT.tryCatch, ExceptT.run_mk, StateT.run_bind, hx]
  rcases x.run.run s with ⟨r, t⟩
  cases r <;> rfl

/-- From every session with `P` both computations do the same; they keep `P`, and their failures
satisfy `E`. -/
def Agree (P : Session → Prop) (E : Failure → Prop) (x y : Resolving α) : Prop :=
  ∀ s, P s → x.runFrom s = y.runFrom s ∧ P (x.runFrom s).2 ∧ ∀ f, (x.runFrom s).1 = .error f → E f

/-- Where nothing is asked of sessions and failures, to agree is to be the same. -/
theorem agree_iff_eq : Agree (fun _ => True) (fun _ => True) x y ↔ x = y :=
  ⟨fun h => funext fun s => (h s trivial).1, fun h _ _ => ⟨h ▸ rfl, trivial, fun _ _ => trivial⟩⟩

theorem agree_pure (a : α) : Agree P E (pure a) (pure a) :=
  fun _ hs => ⟨rfl, hs, fun _ hf => by cases hf⟩

theorem agree_throw {f : Failure} (h : E f) : Agree P E (throw f : Resolving α) (throw f) :=
  fun _ hs => ⟨rfl, hs, fun _ hf => by cases hf; exact h⟩

theorem agree_lift {r : Except Failure α} (h : ∀ f, r = .error f → E f) :
    Agree P E (lift r) (lift r) :=
  fun _ hs => ⟨rfl, hs, h⟩

private theorem agree_note {e : Event} (h : ∀ s, P s → P { s with journal := e :: s.journal }) :
    Agree P E (note e) (note e) :=
  fun s hs => ⟨rfl, h s hs, fun _ hf => by cases hf⟩

theorem Agree.bind {f g : α → Resolving β} (h : Agree P E x y) (hf : ∀ a, Agree P E (f a) (g a)) :
    Agree P E (x >>= f) (y >>= g) := by
  intro s hs
  obtain ⟨he, hp, hE⟩ := h s hs
  rw [runFrom_bind, runFrom_bind, ← he]
  rcases hx : x.runFrom s with ⟨r, t⟩
  rw [hx] at hp hE
  cases r with
  | ok a => exact hf a t hp
  | error e => exact ⟨rfl, hp, fun f hf => by cases hf; exact hE e rfl⟩

theorem Agree.tryCatch {f g : Failure → Resolving α} (h : Agree P E x y)
    (hf : ∀ e, Agree P E (f e) (g e)) : Agree P E (tryCatch x f) (tryCatch y g) := by
  intro s hs
  obtain ⟨he, hp, -⟩ := h s hs
  rw [runFrom_tryCatch, runFrom_tryCatch, ← he]
  rcases hx : x.runFrom s with ⟨r, t⟩
  rw [hx] at hp
  cases r with
  | ok a => exact ⟨rfl, hp, fun f hf => by cases hf⟩
  | error e => exact hf e t hp

theorem Agree.mapM {f g : β → Resolving α} {l : List β} (h : ∀ b ∈ l, Agree P E (f b) (g b)) :
    Agree P E (l.mapM f) (l.mapM g) := by
  induction l with
  | nil => exact agree_pure []
  | cons b r ih =>
    rw [List.mapM_cons, List.mapM_cons]
    refine (h b List.mem_cons_self).bind fun a => ?_
    exact (ih fun c hc => h c (List.mem_cons_of_mem b hc)).bind fun as => agree_pure (a :: as)

theorem Agree.foldlM {f g : α → β → Resolving α} {l : List β}
    (h : ∀ a, ∀ b ∈ l, Agree P E (f a b) (g a b)) (a : α) :
    Agree P E (l.foldlM f a) (l.foldlM g a) := by
  induction l generalizing a with
  | nil => exact agree_pure a
  | cons b r ih =>
    rw [List.foldlM_cons, List.foldlM_cons]
    refine (h a b List.mem_cons_self).bind fun a' => ?_
    exact ih (fun c d hd => h c d (List.mem_cons_of_mem b hd)) a'

end Resolving

def Setting.parts (s : Setting) : List Part :=
  match s.fallback with
  | some (.deferred parts) => parts
  | _ => []

/-- The settings whose values a part of a fallback asks for. -/
def Part.asked (c : Schema) : Part → List Setting
  | .reference n _ => (c.find? n).toList
  | .fetch n _ => (c.find? n).toList
  | .everything => c.list
  | _ => []

namespace View
open Resolving

variable {v : View} {R R' : Setting → Resolving Value} {P : Session → Prop} {E : Failure → Prop}

theorem agree_getBy {name : String} (hE : ∀ f : Failure, f.ofSetting → E f)
    (h : ∀ s, v.schema.find? name = some s → Agree P E (R s) (R' s)) :
    Agree P E (v.getBy R name) (v.getBy R' name) := by
  unfold getBy
  cases hs : v.schema.find? name with
  | some s => exact h s hs
  | none => exact agree_throw (hE _ rfl)

theorem agree_fetchBy {name : String} {f : String → Value}
    (h : ∀ s, v.schema.find? name = some s → Agree P E (R s) (R' s)) :
    Agree P E (v.fetchBy R name f) (v.fetchBy R' name f) := by
  unfold fetchBy
  cases hs : v.schema.find? name with
  | some s => exact (h s hs).bind fun x => agree_pure _
  | none => exact agree_pure _

theorem agree_mapBy {key : Setting → String} {l : List Setting}
    (h : ∀ s ∈ l, Agree P E (R s) (R' s)) : Agree P E (mapBy R key l) (mapBy R' key l) :=
  Agree.foldlM (fun m s hs => (h s hs).bind fun x => agree_pure (m.insert (key s) x)) _

theorem agree_evalPart {p : Part} (hE : ∀ f : Failure, f.ofSetting → E f)
    (stated : ∀ f, p = .fail f → E f) (h : ∀ s ∈ p.asked v.schema, Agree P E (R s) (R' s)) :
    Agree P E (v.evalPart R p) (v.evalPart R' p) := by
  cases p with
  | literal t => exact agree_pure t
  | reference n rescue =>
    have hget : Agree P E (v.getBy R n) (v.getBy R' n) :=
      agree_getBy hE fun s hs => h s (Option.mem_toList.mpr hs)
    cases rescue with
    | none => exact hget.bind fun x => agree_pure x.render
    | some t => exact (hget.bind fun x => agree_pure x.render).tryCatch fun _ => agree_pure t
  | fetch n d =>
    have hfetch : Agree P E (v.fetchBy R n fun _ => .text d) (v.fetchBy R' n fun _ => .text d) :=
      agree_fetchBy fun s hs => h s (Option.mem_toList.mpr hs)
    exact hfetch.bind fun x => agree_pure x.render
  | names => exact agree_pure _
  | everything => exact (agree_mapBy h).bind fun m => agree_pure _
  | fail f => exact agree_throw (stated f rfl)

/-- Fallbacks agree when the resolvers do on what their parts ask for. -/
theorem agree_evalFallback {s : Setting} (hE : ∀ f : Failure, f.ofSetting → E f)
    (noted : ∀ t, P t → P { t with journal := .deferred s.name :: t.journal })
    (stated : ∀ f, .fail f ∈ s.parts → E f)
    (h : ∀ p ∈ s.parts, ∀ s' ∈ p.asked v.schema, Agree P E (R s') (R' s')) :
    Agree P E (v.evalFallback R s) (v.evalFallback R' s) := by
  unfold Setting.parts at stated h
  unfold evalFallback
  cases hf : s.fallback with
  | none => exact agree_pure none
  | some b =>
    cases b with
    | literal t => exact agree_pure (some t)
    | deferred parts =>
      rw [hf] at stated h
      refine (agree_note noted).bind fun _ => ?_
      refine Agree.bind (Agree.mapM fun p hp => ?_) fun ts => agree_pure _
      exact agree_evalPart hE (fun f e => stated f (e ▸ hp)) (h p hp)

private theorem agree_placeholder {s : Setting} (hE : ∀ f : Failure, f.ofSetting → E f)
    (written : ∀ t files random, P t → P { t with files, random }) :
    Agree P E (v.placeholder s) (v.placeholder s) :=
  fun t ht => ⟨rfl, written t _ _ ht, fun _ hf => hE _ (Placeholder.fetch_ofSetting hf)⟩

private theorem agree_finish {s : Setting} (raw : Option String)
    (hE : ∀ f : Failure, f.ofSetting → E f)
    (written : ∀ t files random, P t → P { t with files, random }) :
    Agree P E (v.finish s raw) (v.finish s raw) := by
  unfold finish
  cases raw with
  | some r => exact agree_lift fun f hf => hE f (Coercion.coerce_ofSetting hf)
  | none =>
    dsimp only
    split
    · exact agree_lift fun f hf => hE f (Coercion.coerce_ofSetting hf)
    · split
      · exact (agree_placeholder hE written).bind fun x => agree_pure (Value.text x)
      · exact agree_throw (hE _ rfl)

private theorem raw_ofSetting {key : String} {f : Failure} (h : v.raw key = .error f) :
    f.ofSetting := by
  unfold raw at h
  split at h
  · next r _ =>
    cases hi : v.layers.interpolate r with
    | ok t => rw [hi] at h; cases h
    | error e => rw [hi] at h; cases h; exact Layers.interpolate_ofSetting hi
  · cases h

/-- The variable of a setting gives no text, so that its fallback counts. -/
def lacks (v : View) (s : Setting) : Prop :=
  s.kind ≠ .fields ∧ ∃ r, v.raw s.envVar = .ok r ∧ Reference.present? r = none

/-- Two resolvers treat a setting alike when they treat its fallback alike. -/
theorem agree_resolveStep {s : Setting} (hE : ∀ f : Failure, f.ofSetting → E f)
    (written : ∀ t files random, P t → P { t with files, random })
    (h : v.lacks s → Agree P E (v.evalFallback R s) (v.evalFallback R' s)) :
    Agree P E (v.resolveStep R s) (v.resolveStep R' s) := by
  unfold resolveStep
  by_cases hk : s.kind = .fields
  · rw [if_pos hk, if_pos hk]
    exact (agree_lift fun f hf => hE f (Layers.gather_ofSetting hf)).bind fun m =>
      agree_pure (Value.fields m)
  · rw [if_neg hk, if_neg hk]
    cases hr : v.raw s.envVar with
    | error e =>
      intro t ht
      rw [runFrom_bind, runFrom_bind, runFrom_lift]
      exact ⟨rfl, ht, fun f hf => by cases hf; exact hE e (raw_ofSetting hr)⟩
    | ok r =>
      cases hp : Reference.present? r with
      | some x =>
        intro t ht
        rw [runFrom_bind, runFrom_bind, runFrom_lift]
        dsimp only
        rw [hp]
        exact agree_finish (some x) hE written t ht
      | none =>
        intro t ht
        rw [runFrom_bind, runFrom_bind, runFrom_lift]
        dsimp only
        rw [hp]
        have both := (h ⟨hk, r, hr, hp⟩).bind fun x =>
          agree_finish (v := v) (s := s) (Reference.present? x) hE written
        exact both t ht

end View

end LayeredConfig
