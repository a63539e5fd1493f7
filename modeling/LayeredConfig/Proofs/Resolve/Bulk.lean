import LayeredConfig.Proofs.Resolve.Settled

/-! All values at once against each value alone. Resolving all settings is resolving them one after
the other, and what each one came to then is what it comes to ever after. -/
namespace LayeredConfig

namespace Resolving

/-- What settings come to, resolved one after the other whatever comes of each. -/
def sweep (R : Setting → Resolving Value) : List Setting → Session → List (Except Failure Value)
  | [], _ => []
  | s :: r, st => ((R s).runFrom st).1 :: sweep R r ((R s).runFrom st).2

def failure? {α : Type} : Except Failure α → Option Failure
  | .ok _ => none
  | .error f => some f

variable {R : Setting → Resolving Value} {l : List Setting} {st : Session}

theorem runFrom_mapM_cons (s : Setting) :
    ((s :: l).mapM R).runFrom st = match (R s).runFrom st with
      | (.ok x, t) => match (l.mapM R).runFrom t with
        | (.ok xs, u) => (.ok (x :: xs), u)
        | (.error f, u) => (.error f, u)
      | (.error f, t) => (.error f, t) := by
  rw [List.mapM_cons, runFrom_bind]
  rcases (R s).runFrom st with ⟨f | x, t⟩
  · rfl
  · dsimp only
    rw [runFrom_bind]
    rcases (l.mapM R).runFrom t with ⟨f | xs, u⟩ <;> rfl

/-- Resolving many settings fails with the first failure of a sweep. -/
theorem mapM_error_iff {f : Failure} :
    ((l.mapM R).runFrom st).1 = .error f ↔ (sweep R l st).findSome? failure? = some f := by
  induction l generalizing st with
  | nil => simp [sweep, List.mapM_nil]
  | cons s r ih =>
    rw [runFrom_mapM_cons, sweep, List.findSome?_cons]
    rcases (R s).runFrom st with ⟨g | x, t⟩
    · simp [failure?]
    · dsimp only [failure?]
      rw [← ih]
      rcases (r.mapM R).runFrom t with ⟨g | xs, u⟩ <;> simp

/-- Once many settings were resolved, each comes to the same again. -/
theorem mapM_again (settled : ∀ s ∈ l, Settled (R s)) {xs : List Value} {t : Session}
    (h : (l.mapM R).runFrom st = (.ok xs, t)) :
    st.files.Grows t.files ∧ t.inFlight = st.inFlight ∧
      List.Forall₂ (fun s x => ∀ u : Session, t.files.Grows u.files → u.inFlight = st.inFlight →
        ((R s).runFrom u).1 = .ok x) l xs := by
  induction l generalizing st xs with
  | nil =>
    cases h
    exact ⟨.refl _, rfl, .nil⟩
  | cons s r ih =>
    have hs := settled s List.mem_cons_self
    rw [runFrom_mapM_cons] at h
    have g := hs.grows st
    have hi := hs.inFlight st
    have again := hs.again st
    rcases hx : (R s).runFrom st with ⟨f | x, m⟩
    · rw [hx] at h
      cases h
    · rw [hx] at h g hi again
      dsimp only at h
      rcases hr : (r.mapM R).runFrom m with ⟨f | ys, u⟩
      · rw [hr] at h
        cases h
      · rw [hr] at h
        cases h
        obtain ⟨g', hi', rest⟩ := ih (fun s' h' => settled s' (List.mem_cons_of_mem s h')) hr
        refine ⟨g.trans g', hi'.trans hi, .cons (fun u hg hu => ?_) ?_⟩
        · have same := (again u (g'.trans hg) hu).1
          cases hu' : ((R s).runFrom u).1 with
          | error f =>
            rw [hu'] at same
            cases same
          | ok y =>
            rw [hu'] at same
            rw [Option.some.inj same]
        · exact rest.imp fun s' x h u hg hu => h u hg (hu.trans hi.symm)

/-- A map of values is made of the list of them. -/
theorem runFrom_mapBy (key : Setting → String) :
    (View.mapBy R key l).runFrom st = match (l.mapM R).runFrom st with
      | (.ok xs, t) => (.ok (KeyMap.ofList ((l.map key).zip xs)), t)
      | (.error f, t) => (.error f, t) := by
  have added (m : KeyMap Value) :
      (l.foldlM (fun m s => return m.insert (key s) (← R s)) m : Resolving (KeyMap Value)).runFrom st =
        match (l.mapM R).runFrom st with
        | (.ok xs, t) => (.ok (((l.map key).zip xs).foldl (fun m e => m.insert e.1 e.2) m), t)
        | (.error f, t) => (.error f, t) := by
    induction l generalizing st m with
    | nil => rfl
    | cons s r ih =>
      rw [List.foldlM_cons, runFrom_bind, runFrom_bind, runFrom_mapM_cons]
      rcases (R s).runFrom st with ⟨f | x, t⟩
      · rfl
      · dsimp only [runFrom_pure]
        rw [ih]
        rcases (r.mapM R).runFrom t with ⟨f | xs, u⟩ <;> rfl
  exact added KeyMap.empty

end Resolving

namespace View
open Resolving

variable {v : View}

def after (v : View) (st : Session) (ops : List Operation) : Session :=
  ops.foldl (fun st op => ((op.run v).runFrom st).2) st

theorem Straight.after (h : v.Straight) (st : Session) (ops : List Operation) :
    st.files.Grows (v.after st ops).files ∧ (v.after st ops).inFlight = st.inFlight := by
  induction ops generalizing st with
  | nil => exact ⟨.refl _, rfl⟩
  | cons op r ih =>
    have settled : Settled (op.run v) := h.settled (.run v op)
    obtain ⟨g, hi⟩ := ih ((op.run v).runFrom st).2
    exact ⟨(settled.grows st).trans g, hi.trans (settled.inFlight st)⟩

theorem get_name {s : Setting} (h : s ∈ v.schema.list) : v.get s.name = v.resolve s := by
  rw [View.get, getBy, Schema.find?_of_mem_list h]

/-- What settings came to, resolved one after the other, is what each comes to after any
operations. -/
theorem Straight.resolved_after (straight : v.Straight) {l : List Setting}
    (declared : ∀ s ∈ l, s ∈ v.schema.list) {st t : Session} {xs : List Value}
    (h : (l.mapM v.resolve).runFrom st = (.ok xs, t)) (ops : List Operation) :
    List.Forall₂ (fun s x => s ∈ l ∧ ((v.resolve s).runFrom (v.after t ops)).1 = .ok x) l xs := by
  have settled : ∀ s ∈ l, Settled (v.resolve s) :=
    fun s hs => straight.settled (.resolve (declared s hs))
  obtain ⟨-, hi, each⟩ := mapM_again settled h
  obtain ⟨g, hi'⟩ := straight.after t ops
  exact (List.forall₂_and_left _ _).mpr
    ⟨fun s hs => hs, each.imp fun s x hx => hx _ g (hi'.trans hi)⟩

/-- What all settings came to in a list is what each comes to after any operations. -/
theorem Straight.get_after (straight : v.Straight) {st t : Session} {xs : List Value}
    (h : v.values.runFrom st = (.ok xs, t)) (ops : List Operation) :
    List.Forall₂ (fun n x => ((v.get n).runFrom (v.after t ops)).1 = .ok x) v.schema.names xs := by
  rw [Schema.names, List.forall₂_map_left_iff]
  refine (straight.resolved_after (fun s hs => hs) h ops).imp ?_
  rintro s x ⟨hs, hx⟩
  rw [get_name hs]
  exact hx

/-- All values at once agree with each value alone. A map of all values has the names of all
settings as its keys, and a list of all values stands in their order; what they hold for a setting
is what the setting comes to alone, after any operations. They fail with the first failure that
comes up when the settings are resolved one after the other. -/
theorem bulk_agrees (straight : v.Straight) (st : Session) :
    (∀ m, (v.toMap.runFrom st).1 = .ok m →
      (∀ n, n ∈ m.keys ↔ n ∈ v.schema.names) ∧
      ∀ n x, m.get? n = some x → ∀ ops,
        ((v.get n).runFrom (v.after (v.toMap.runFrom st).2 ops)).1 = .ok x) ∧
    (∀ l : List Value, (v.values.runFrom st).1 = .ok l →
      l.length = v.schema.names.length ∧
      ∀ (i : Nat) n x, v.schema.names[i]? = some n → l[i]? = some x → ∀ ops,
        ((v.get n).runFrom (v.after (v.values.runFrom st).2 ops)).1 = .ok x) ∧
    ∀ f, ((v.toMap.runFrom st).1 = .error f ↔
        (sweep v.resolve v.schema.list st).findSome? failure? = some f) ∧
      ((v.values.runFrom st).1 = .error f ↔
        (sweep v.resolve v.schema.list st).findSome? failure? = some f) := by
  have failing (f : Failure) : (v.values.runFrom st).1 = .error f ↔
      (sweep v.resolve v.schema.list st).findSome? failure? = some f := mapM_error_iff
  have mapped : v.toMap.runFrom st = match v.values.runFrom st with
      | (.ok xs, t) => (.ok (KeyMap.ofList (v.schema.names.zip xs)), t)
      | (.error f, t) => (.error f, t) := runFrom_mapBy Setting.name
  rcases hv : v.values.runFrom st with ⟨f | xs, t⟩
  · rw [hv] at mapped failing
    rw [mapped]
    refine ⟨nofun, nofun, fun g => ⟨?_, failing g⟩⟩
    rw [← failing g]
    simp
  · rw [hv] at mapped failing
    rw [mapped]
    have same := straight.get_after hv
    have length := (same []).length_eq
    refine ⟨?_, ?_, fun g => ⟨?_, failing g⟩⟩
    · rintro m hm
      cases hm
      constructor
      · intro n
        rw [KeyMap.mem_keys_ofList, List.map_fst_zip (by omega)]
      · intro n x hx ops
        exact List.forall₂_zip (same ops) (KeyMap.mem_of_get?_ofList hx)
    · rintro l hl
      cases hl
      refine ⟨length.symm, fun i n x hn hx ops => ?_⟩
      obtain ⟨hi, rfl⟩ := List.getElem?_eq_some_iff.mp hn
      obtain ⟨hj, rfl⟩ := List.getElem?_eq_some_iff.mp hx
      exact (same ops).get hi hj
    · rw [← failing g]
      simp

/-- Two settings that share a record, and one whose fallback refers to one of them and to itself. -/
def sharedView : View :=
  ⟨Schema.build []
    [{ Setting.ofVar "Id" .text with accessor := "first" },
     { Setting.ofVar "ID" .text with accessor := "second" },
     { Setting.ofVar "NOTE" .text with
        fallback := some (.deferred [.reference "second" none, .reference "note" (some "!")]) }],
    ⟨{ vars := KeyMap.empty }, .empty⟩, none, some true⟩

def bareSession : Session := { files := .empty, random := ⟨UInt8.ofNat, 0⟩ }

theorem bulk_agrees_shared :
    sharedView.Straight ∧ ∃ m x, (sharedView.toMap.runFrom bareSession).1 = .ok m ∧
      m.get? "note" = some x ∧
      ((sharedView.get "note").runFrom (sharedView.after (sharedView.toMap.runFrom bareSession).2
        [.values, .get "first"])).1 = .ok x := by
  have straight : sharedView.Straight := ⟨by decide +kernel, by decide +kernel⟩
  have succeeds : (sharedView.toMap.runFrom bareSession).1.isOk = true := by decide +kernel
  obtain ⟨m, hm⟩ : ∃ m, (sharedView.toMap.runFrom bareSession).1 = .ok m := by
    cases h : (sharedView.toMap.runFrom bareSession).1 with
    | ok m => exact ⟨m, rfl⟩
    | error f =>
      rw [h] at succeeds
      cases succeeds
  obtain ⟨keys, values⟩ := (bulk_agrees straight bareSession).1 m hm
  have there : "note" ∈ sharedView.schema.names := by decide +kernel
  obtain ⟨x, hx⟩ := KeyMap.mem_keys_iff.mp ((keys "note").mpr there)
  exact ⟨straight, m, x, hm, hx, values "note" x hx [.values, .get "first"]⟩

end View

end LayeredConfig
