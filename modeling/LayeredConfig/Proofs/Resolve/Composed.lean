import LayeredConfig.Proofs.Resolve.Manner

/-! What resolutions are composed of. What holds of the basic steps and is kept in composition holds
of all operations. -/
namespace LayeredConfig.View
open Resolving

variable {v : View} {s : Setting} {R : Setting → Resolving Value}

/-! The forms that the step on a setting can take. -/

/-- The step on a setting that is no collection of fields, when its variable has been read. -/
theorem resolveStep_of_raw (hk : s.kind ≠ .fields) {r : Option String}
    (hr : v.raw s.envVar = .ok r) (inner : Setting → Resolving Value) :
    v.resolveStep inner s = match Reference.present? r with
      | some t => v.finish s (some t)
      | none => v.evalFallback inner s >>= fun t => v.finish s (Reference.present? t) :=
  stepIn_of_raw (m := v.manner) hk hr inner

theorem resolveStep_of_lacks (h : v.lacks s) (inner : Setting → Resolving Value) :
    v.resolveStep inner s =
      v.evalFallback inner s >>= fun t => v.finish s (Reference.present? t) := by
  obtain ⟨hk, r, hr, none⟩ := h
  rw [resolveStep_of_raw hk hr, none]

/-- A variable that cannot be expanded is all that counts. -/
theorem resolveStep_of_raw_error (hk : s.kind ≠ .fields) {e : Failure}
    (hr : v.raw s.envVar = .error e) (inner : Setting → Resolving Value) :
    v.resolveStep inner s = Resolving.lift (.error e) :=
  stepIn_of_raw_error (m := v.manner) hk hr inner

/-- Fields are gathered from the layers alone. -/
theorem resolveStep_of_fields (hk : s.kind = .fields) (inner : Setting → Resolving Value) :
    v.resolveStep inner s = Resolving.lift ((v.layers.gather s.envVar).map .fields) :=
  stepIn_of_fields (m := v.manner) hk inner

/-- A setting whose variable counts is resolved without its fallback, and so are fields. -/
theorem resolveStep_cases_lacks (v : View) (s : Setting) :
    v.lacks s ∨ ∃ r, ∀ inner, v.resolveStep inner s = Resolving.lift r := by
  by_cases hk : s.kind = .fields
  · exact .inr ⟨_, resolveStep_of_fields hk⟩
  · cases hr : v.raw s.envVar with
    | error e => exact .inr ⟨_, resolveStep_of_raw_error hk hr⟩
    | ok r =>
      cases hp : Reference.present? r with
      | none => exact .inl ⟨hk, r, hr, hp⟩
      | some t =>
        refine .inr ⟨Coercion.coerce s t, fun inner => ?_⟩
        rw [resolveStep_of_raw hk hr, hp]
        rfl

/-- A setting is finished without help from outside, or by a placeholder. -/
theorem finish_cases (v : View) (s : Setting) (raw : Option String) :
    (∃ r, v.finish s raw = Resolving.lift r) ∨
      raw = none ∧ s.required = true ∧ v.usesPlaceholder s.envVar = true ∧
        v.finish s raw = (return .text (← v.placeholder s)) := by
  cases raw with
  | some r => exact .inl ⟨Coercion.coerce s r, rfl⟩
  | none =>
    cases required : s.required with
    | false =>
      refine .inl ⟨Coercion.coerce s "", ?_⟩
      rw [finish, required]
      rfl
    | true =>
      cases on : v.usesPlaceholder s.envVar with
      | false =>
        refine .inl ⟨.error (.missing s.envVar .required), ?_⟩
        rw [finish, required, on]
        rfl
      | true =>
        refine .inr ⟨rfl, rfl, rfl, ?_⟩
        rw [finish, required, on]
        rfl

/-- What is found in a schema is resolved under its name. -/
theorem exists_resolve_eq {name : String} (found : v.schema.find? name = some s) :
    ∃ n, v.resolve s = guarded s.name (v.resolveStep (v.resolveWithin n) s) := by
  have some : v.schema.settings.size ≠ 0 := by
    intro none
    have hs : s ∈ v.schema.list := Schema.mem_list_of_find? found
    have empty : v.schema.list = [] := List.length_eq_zero_iff.mp ((List.length_map _).trans none)
    rw [empty] at hs
    cases hs
  obtain ⟨n, hn⟩ := Nat.exists_eq_succ_of_ne_zero some
  exact ⟨n, by rw [resolve, hn, resolveWithin]⟩

/-- Work that is composed of the steps of a resolution. -/
inductive Composed (v : View) : {α : Type} → Resolving α → Prop
  | pure {α : Type} (a : α) : Composed v (Pure.pure a : Resolving α)
  | lift {α : Type} (r : Except Failure α) : Composed v (Resolving.lift r)
  | note (e : Event) : Composed v (Resolving.note e)
  | step {n : Nat} {s : Setting} (declared : s ∈ v.schema.list) (lacks : v.lacks s)
      (fallback : Composed v (v.evalFallback (v.resolveWithin n) s)) :
      Composed v (v.resolveStep (v.resolveWithin n) s)
  | guarded {α : Type} {x : Resolving α} (name : String) (work : Composed v x) :
      Composed v (Resolving.guarded name x)
  | bind {α β : Type} {x : Resolving α} {f : α → Resolving β} (first : Composed v x)
      (next : ∀ a, Composed v (f a)) : Composed v (x >>= f)
  | rescue {α : Type} {x y : Resolving α} (work : Composed v x) (instead : Composed v y) :
      Composed v (tryCatch x fun _ => y)

namespace Composed

variable {α β : Type}

theorem throw (f : Failure) : Composed v (MonadExcept.throw f : Resolving α) := .lift (.error f)

theorem mapM {f : β → Resolving α} {l : List β} (h : ∀ b ∈ l, Composed v (f b)) :
    Composed v (l.mapM f) := by
  induction l with
  | nil => exact .pure []
  | cons b r ih =>
    rw [List.mapM_cons]
    refine (h b List.mem_cons_self).bind fun a => ?_
    exact (ih fun c hc => h c (List.mem_cons_of_mem b hc)).bind fun as => .pure (a :: as)

theorem foldlM {f : α → β → Resolving α} {l : List β} (h : ∀ a, ∀ b ∈ l, Composed v (f a b))
    (a : α) :
    Composed v (l.foldlM f a) := by
  induction l generalizing a with
  | nil => exact .pure a
  | cons b r ih =>
    rw [List.foldlM_cons]
    exact (h a b List.mem_cons_self).bind (ih fun c d hd => h c d (List.mem_cons_of_mem b hd))

/-! Work with a resolver for the declared settings. -/

theorem getBy (h : ∀ s ∈ v.schema.list, Composed v (R s)) (name : String) :
    Composed v (v.getBy R name) := by
  unfold View.getBy
  cases hs : v.schema.find? name with
  | some s => exact h s (Schema.mem_list_of_find? hs)
  | none => exact .throw _

theorem fetchBy (h : ∀ s ∈ v.schema.list, Composed v (R s)) (name : String) (f : String → Value) :
    Composed v (v.fetchBy R name f) := by
  unfold View.fetchBy
  cases hs : v.schema.find? name with
  | some s => exact (h s (Schema.mem_list_of_find? hs)).bind fun x => .pure _
  | none => exact .pure _

theorem mapBy {l : List Setting} (h : ∀ s ∈ l, Composed v (R s)) (key : Setting → String) :
    Composed v (View.mapBy R key l) :=
  foldlM (fun m s hs => (h s hs).bind fun x => .pure (m.insert (key s) x)) _

theorem evalPart (h : ∀ s ∈ v.schema.list, Composed v (R s)) (p : Part) :
    Composed v (v.evalPart R p) := by
  cases p with
  | literal t => exact .pure t
  | reference n rescue =>
    have rendered := (getBy h n).bind fun x => .pure (v := v) x.render
    cases rescue with
    | none => exact rendered
    | some t => exact rendered.rescue (.pure t)
  | fetch n d => exact (fetchBy h n _).bind fun x => .pure x.render
  | names => exact .pure _
  | everything => exact (mapBy h _).bind fun m => .pure _
  | fail f => exact .throw f

theorem evalFallback (h : ∀ s ∈ v.schema.list, Composed v (R s)) (s : Setting) :
    Composed v (v.evalFallback R s) := by
  unfold View.evalFallback
  split
  · exact .pure none
  · exact .pure _
  · exact (Composed.note _).bind fun _ => (mapM fun p _ => evalPart h p).bind fun ts => .pure _

theorem resolveStep {n : Nat} (h : ∀ s ∈ v.schema.list, Composed v (v.resolveWithin n s))
    {s : Setting} (declared : s ∈ v.schema.list) :
    Composed v (v.resolveStep (v.resolveWithin n) s) := by
  rcases v.resolveStep_cases_lacks s with lacks | ⟨r, hr⟩
  · exact .step declared lacks (evalFallback h s)
  · exact hr (v.resolveWithin n) ▸ .lift r

theorem resolveWithin (n : Nat) {s : Setting} (declared : s ∈ v.schema.list) :
    Composed v (v.resolveWithin n s) := by
  induction n generalizing s with
  | zero => exact .throw _
  | succ n ih => exact .guarded _ (resolveStep (fun s hs => ih hs) declared)

theorem resolve {s : Setting} (declared : s ∈ v.schema.list) : Composed v (v.resolve s) :=
  resolveWithin _ declared

theorem tableBy (h : ∀ s ∈ v.schema.list, Composed v (R s)) : Composed v (v.tableBy R) := by
  unfold View.tableBy
  split
  · exact .throw _
  · refine foldlM (fun top s hs => (h s hs).bind fun x => ?_) []
    split
    · exact .pure top
    · exact .lift _

theorem extractBy (h : ∀ s ∈ v.schema.list, Composed v (R s)) (want : Shape) :
    Composed v (v.extractBy R want) := by
  refine (tableBy h).bind fun top => ?_
  split
  · exact .pure _
  · exact .throw _

theorem run (v : View) (op : Operation) : Composed v (op.run v) := by
  have h : ∀ s ∈ v.schema.list, Composed v (v.resolve s) := fun s hs => resolve hs
  have member : ∀ g, ∀ s ∈ v.schema.members g, Composed v (v.resolve s) :=
    fun g s hs => h s (Schema.mem_list_of_mem_members hs)
  cases op with
  | get n => exact (getBy h n).bind fun x => .pure _
  | fetchOrElse n f => exact (fetchBy h n f).bind fun x => .pure _
  | fetchOr n d => exact (fetchBy h n fun _ => d).bind fun x => .pure _
  | values => exact (mapM h).bind fun l => .pure _
  | toMap => exact (mapBy h _).bind fun m => .pure _
  | toTable => exact (tableBy h).bind fun t => .pure _
  | extract want => exact (extractBy h want).bind fun d => .pure _
  | groupGet g a => exact (getBy h _).bind fun x => .pure _
  | groupFetchOrElse g a f => exact (fetchBy h _ f).bind fun x => .pure _
  | groupFetchOr g a d => exact (fetchBy h _ fun _ => d).bind fun x => .pure _
  | groupValues g => exact (mapM (member g)).bind fun l => .pure _
  | groupMap g => exact (mapBy (member g) _).bind fun m => .pure _

end Composed

end LayeredConfig.View
