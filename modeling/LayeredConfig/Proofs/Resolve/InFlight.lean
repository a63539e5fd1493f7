import LayeredConfig.Proofs.Resolve.Manner

/-! The names in flight. Resolving keeps them distinct and declared and leaves them as they were,
hence it never nests deeper than there are settings. -/
namespace LayeredConfig

namespace View
open Resolving

/-- Resolves a setting with references nested to a depth. What happens with a setting that is in
flight already is up to `again`, and what happens beyond the depth is up to `below`. -/
def resolveWith (v : View) (again : Setting → Resolving Value → Resolving Value)
    (below : Setting → Resolving Value) : Nat → Setting → Resolving Value :=
  v.resolveIn { v.manner with again, below }

variable {v : View} {again : Setting → Resolving Value → Resolving Value}
  {below : Setting → Resolving Value} {n : Nat} {s : Setting} {st : Session}

theorem resolveWith_succ_fresh (h : s.name ∉ st.inFlight) :
    (v.resolveWith again below (n + 1) s).runFrom st =
      (named s.name (v.resolveStep (v.resolveWith again below n) s)).runFrom st :=
  if_neg h

theorem resolveWith_refuse_again (h : s.name ∈ st.inFlight) :
    (v.resolveWith refuse below (n + 1) s).runFrom st = (.error (.circular s.name), st) :=
  if_pos h

private theorem resolveWithin_eq_resolveWith (v : View) (n : Nat) :
    v.resolveWithin n = v.resolveWith refuse (fun s => throw (.circular s.name)) n :=
  (resolveIn_eq_resolveWithin v.manner rfl rfl (fun _ _ _ => rfl) (fun _ _ _ => rfl) n).symm

end View

/-- The names in flight after events, the last event first, when `start` were in flight before. -/
def inFlightAfter (start : List String) : List Event → List String
  | [] => start
  | .entered n :: l => n :: inFlightAfter start l
  | .left _ :: l => (inFlightAfter start l).tail
  | .deferred _ :: l => inFlightAfter start l

/-- `Trail c start l F`: the events `l`, the last one first, lead from the names `start` in flight
to `F`. Only declared names are taken up, none twice, and the last one is laid down first. -/
inductive Trail (c : Schema) (start : List String) : List Event → List String → Prop where
  | start : Trail c start [] start
  | entered {l : List Event} {F : List String} {n : String} :
    Trail c start l F → n ∈ c.names → n ∉ F → Trail c start (.entered n :: l) (n :: F)
  | left {l : List Event} {F : List String} {n : String} :
    Trail c start l (n :: F) → Trail c start (.left n :: l) F
  | deferred {l : List Event} {F : List String} {n : String} :
    Trail c start l F → Trail c start (.deferred n :: l) F

namespace Trail

variable {c : Schema} {start F : List String} {l : List Event}

private theorem inFlightAfter_eq (h : Trail c start l F) : inFlightAfter start l = F := by
  induction h with
  | start => rfl
  | entered _ _ _ ih => rw [inFlightAfter, ih]
  | left _ ih => rw [inFlightAfter, ih, List.tail_cons]
  | deferred _ ih => rw [inFlightAfter, ih]

private theorem nodup (h : Trail c start l F) (hs : start.Nodup) : F.Nodup := by
  induction h with
  | start => exact hs
  | entered _ _ fresh ih => exact List.nodup_cons.mpr ⟨fresh, ih⟩
  | left _ ih => exact (List.nodup_cons.mp ih).2
  | deferred _ ih => exact ih

theorem declared (h : Trail c start l F) (hs : ∀ n ∈ start, n ∈ c.names) :
    ∀ n ∈ F, n ∈ c.names := by
  induction h with
  | start => exact hs
  | entered _ hn _ ih =>
    intro m hm
    rcases List.mem_cons.mp hm with rfl | hm
    · exact hn
    · exact ih m hm
  | left _ ih => exact fun m hm => ih m (List.mem_cons_of_mem _ hm)
  | deferred _ ih => exact ih

/-- What happened until some moment is a trail as well. -/
theorem of_suffix {past : List Event} (h : Trail c start l F) (hp : past <:+ l) :
    ∃ G, Trail c start past G := by
  have extend {e : Event} {r : List Event} {G : List String} (g : Trail c start (e :: r) G)
      (ih : past <:+ r → ∃ G, Trail c start past G) (hp : past <:+ e :: r) :
      ∃ G, Trail c start past G := by
    rcases List.suffix_cons_iff.mp hp with rfl | hp
    · exact ⟨G, g⟩
    · exact ih hp
  induction h with
  | start =>
    obtain rfl := List.suffix_nil.mp hp
    exact ⟨start, .start⟩
  | entered h hn fresh ih => exact extend (h.entered hn fresh) ih hp
  | left h ih => exact extend h.left ih hp
  | deferred h ih => exact extend h.deferred ih hp

end Trail

/-- Distinct declared names are not more than there are settings. -/
theorem Schema.length_le_size {c : Schema} {F : List String} (hF : F.Nodup)
    (hd : ∀ n ∈ F, n ∈ c.names) : F.length ≤ c.settings.size := by
  have h : F.length ≤ c.names.length := hF.length_le_of_subset hd
  rwa [c.length_names] at h

/-- With as many names in flight as there are settings, all of them are. -/
theorem Schema.mem_of_size_le {c : Schema} {F : List String} {n : String} (hF : F.Nodup)
    (hd : ∀ n ∈ F, n ∈ c.names) (hn : n ∈ c.names) (hl : c.settings.size ≤ F.length) : n ∈ F := by
  apply Classical.byContradiction
  intro fresh
  have hc : (n :: F).length ≤ c.settings.size := by
    apply length_le_size (List.nodup_cons.mpr ⟨fresh, hF⟩)
    intro m hm
    rcases List.mem_cons.mp hm with rfl | hm
    · exact hn
    · exact hd m hm
  rw [List.length_cons] at hc
  omega

/-- The names `F` are in flight in a session, and a trail leads there from an earlier one. -/
def Reached (c : Schema) (s₀ : Session) (F : List String) (s : Session) : Prop :=
  s.inFlight = F ∧ ∃ l, s.journal = l ++ s₀.journal ∧ Trail c s₀.inFlight l F

theorem Reached.here (c : Schema) (s : Session) : Reached c s s.inFlight s :=
  ⟨rfl, [], rfl, .start⟩

namespace Resolving

variable {α : Type} {c : Schema} {s₀ : Session} {F : List String} {E : Failure → Prop}
  {x y : Resolving α} {n : String}

/-- Work that agrees with a name in flight agrees under that name. -/
theorem Agree.named (hn : n ∈ c.names) (fresh : n ∉ F) (h : Agree (Reached c s₀ (n :: F)) E x y) :
    Agree (Reached c s₀ F) E (named n x) (named n y) := by
  intro s hs
  obtain ⟨hF, l, hl, trail⟩ := hs
  have taken : Reached c s₀ (n :: F)
      { s with inFlight := n :: s.inFlight, journal := .entered n :: s.journal } := by
    refine ⟨by rw [hF], .entered n :: l, ?_, trail.entered hn fresh⟩
    rw [hl, List.cons_append]
  obtain ⟨he, ⟨hF', l', hl', trail'⟩, hE⟩ := h _ taken
  rw [runFrom_named, runFrom_named, ← he]
  refine ⟨rfl, ⟨?_, .left n :: l', ?_, trail'.left⟩, hE⟩
  · dsimp only
    rw [hF', List.tail_cons]
  · dsimp only
    rw [hl', List.cons_append]

end Resolving

namespace View
open Resolving

variable {v : View} {R R' : Setting → Resolving Value} {E : Failure → Prop} {s₀ : Session}
  {F : List String} {s : Setting}

/-- A setting that is not in flight is treated alike by resolvers that agree, with its name in
flight, on what its fallback asks for. -/
theorem agree_fresh (hs : s ∈ v.schema.list) (fresh : s.name ∉ F)
    (hE : ∀ f : Failure, f.ofSetting → E f) (stated : ∀ f, .fail f ∈ s.parts → E f)
    (h : ∀ p ∈ s.parts, ∀ s' ∈ p.asked v.schema,
      Agree (Reached v.schema s₀ (s.name :: F)) E (R s') (R' s')) :
    Agree (Reached v.schema s₀ F) E (named s.name (v.resolveStep R s))
      (named s.name (v.resolveStep R' s)) := by
  apply Agree.named (Schema.mem_names hs) fresh
  apply agree_resolveStep hE
  · exact fun t files random ht => ht
  · intro _
    refine agree_evalFallback hE ?_ stated h
    intro t ht
    obtain ⟨hF, l, hl, trail⟩ := ht
    refine ⟨hF, .deferred s.name :: l, ?_, trail.deferred⟩
    rw [hl, List.cons_append]

/-- The depth does not matter when it makes up for the settings that are not in flight. -/
theorem agree_resolveWith_refuse (v : View) (s₀ : Session) (below : Setting → Resolving Value)
    {n m : Nat} {F : List String} (hF : F.Nodup) (hd : ∀ n ∈ F, n ∈ v.schema.names)
    (hn : v.schema.settings.size ≤ n + F.length) (hm : v.schema.settings.size < m + F.length)
    {s : Setting} (hs : s ∈ v.schema.list) :
    Agree (Reached v.schema s₀ F) (fun _ => True) (v.resolveWithin n s)
      (v.resolveWith refuse below m s) := by
  rw [resolveWithin_eq_resolveWith]
  induction n generalizing m F s with
  | zero =>
    -- All settings are in flight, so that the check fails before the depth is asked for.
    have hl : F.length ≤ v.schema.settings.size := Schema.length_le_size hF hd
    have hmem : s.name ∈ F := Schema.mem_of_size_le hF hd (Schema.mem_names hs) (by omega)
    obtain ⟨k, rfl⟩ : ∃ k, m = k + 1 := ⟨m - 1, by omega⟩
    intro st hst
    rw [resolveWith_refuse_again (hst.1 ▸ hmem)]
    exact ⟨rfl, hst, fun _ _ => trivial⟩
  | succ n ih =>
    have hl : F.length ≤ v.schema.settings.size := Schema.length_le_size hF hd
    obtain ⟨k, rfl⟩ : ∃ k, m = k + 1 := ⟨m - 1, by omega⟩
    by_cases hmem : s.name ∈ F
    · intro st hst
      rw [resolveWith_refuse_again (hst.1 ▸ hmem), resolveWith_refuse_again (hst.1 ▸ hmem)]
      exact ⟨rfl, hst, fun _ _ => trivial⟩
    · intro st hst
      rw [resolveWith_succ_fresh (hst.1 ▸ hmem), resolveWith_succ_fresh (hst.1 ▸ hmem)]
      refine agree_fresh hs hmem (fun _ _ => trivial) (fun _ _ => trivial) ?_ st hst
      intro p _ s' hs'
      apply ih (List.nodup_cons.mpr ⟨hmem, hF⟩) _ _ _ (mem_list_of_asked hs')
      · intro m hm
        rcases List.mem_cons.mp hm with rfl | hm
        · exact Schema.mem_names hs
        · exact hd m hm
      · rw [List.length_cons]
        omega
      · rw [List.length_cons]
        omega

/-- Nothing bounds the depth of `resolve` but the check: it satisfies the recursion without a
bound. -/
theorem resolve_eq_guarded (v : View) {st : Session} (distinct : st.inFlight.Nodup)
    (declared : ∀ n ∈ st.inFlight, n ∈ v.schema.names) {s : Setting} (hs : s ∈ v.schema.list) :
    (v.resolve s).runFrom st = (guarded s.name (v.resolveStep v.resolve s)).runFrom st := by
  have agree (n : Nat) (hn : v.schema.settings.size ≤ n) :=
    (agree_resolveWith_refuse v st (fun s => throw (.circular s.name)) distinct declared
      (by omega : v.schema.settings.size ≤ n + st.inFlight.length)
      (by omega : v.schema.settings.size < v.schema.settings.size + 1 + st.inFlight.length)
      hs st (.here v.schema st)).1
  exact (agree v.schema.settings.size (Nat.le_refl _)).trans
    (agree (v.schema.settings.size + 1) (Nat.le_succ _)).symm

end View

namespace Operation
open Resolving View

/-- Whatever would happen beyond the depth of all settings, operations go the same way. -/
theorem agree_run (v : View) (op : Operation) {st : Session} (distinct : st.inFlight.Nodup)
    (declared : ∀ n ∈ st.inFlight, n ∈ v.schema.names) (below : Setting → Resolving Value) {n : Nat}
    (hn : v.schema.settings.size < n) :
    Agree (Reached v.schema st st.inFlight) (fun _ => True) (op.run v)
      (op.runBy v (v.resolveWith refuse below n)) := by
  rw [← runBy_resolve]
  apply agree_runBy op (fun _ _ => trivial)
  intro s hs
  exact agree_resolveWith_refuse v st below distinct declared (by omega) (by omega) hs

/-- Operations go the same way whatever would happen beyond the depth of all settings, so they come
to an end. In between, the names in flight are always distinct and declared, and laid down in turn;
at the end they are those of the beginning, whether there is an answer or a failure. -/
theorem run_inFlight (v : View) (op : Operation) (st : Session) (distinct : st.inFlight.Nodup)
    (declared : ∀ n ∈ st.inFlight, n ∈ v.schema.names) :
    (∀ below n, v.schema.settings.size < n →
      (op.runBy v (v.resolveWith refuse below n)).runFrom st = (op.run v).runFrom st) ∧
    ((op.run v).runFrom st).2.inFlight = st.inFlight ∧
    ∃ events, ((op.run v).runFrom st).2.journal = events ++ st.journal ∧
      inFlightAfter st.inFlight events = st.inFlight ∧
      ∀ past, past <:+ events →
        (inFlightAfter st.inFlight past).Nodup ∧
        (∀ n ∈ inFlightAfter st.inFlight past, n ∈ v.schema.names) ∧
        (inFlightAfter st.inFlight past).length ≤ v.schema.settings.size ∧
        ∀ n rest, past = .left n :: rest → ∃ F, inFlightAfter st.inFlight rest = n :: F := by
  have agree (below : Setting → Resolving Value) (n : Nat) (hn : v.schema.settings.size < n) :=
    agree_run v op distinct declared below hn st (.here v.schema st)
  have throwing := agree (fun s => throw (.circular s.name)) _ (Nat.lt_succ_self _)
  obtain ⟨-, ⟨hF, events, hl, trail⟩, -⟩ := throwing
  refine ⟨fun below n hn => (agree below n hn).1.symm, hF, events, hl,
    trail.inFlightAfter_eq, ?_⟩
  intro past hp
  obtain ⟨F, trail⟩ := trail.of_suffix hp
  have hd := trail.declared declared
  rw [trail.inFlightAfter_eq]
  refine ⟨trail.nodup distinct, hd, Schema.length_le_size (trail.nodup distinct) hd, ?_⟩
  rintro n rest rfl
  cases trail with
  | left trail => exact ⟨F, trail.inFlightAfter_eq⟩

/-- Two settings whose fallbacks ask for each other, once with a rescue. -/
def mutualView : View :=
  ⟨Schema.build []
    [{ Setting.ofVar "A" .text with fallback := some (.deferred [.reference "b" (some "x")]) },
     { Setting.ofVar "B" .text with fallback := some (.deferred [.everything]) }],
    ⟨{ vars := KeyMap.empty }, .empty⟩, none, none⟩

def mutualSession : Session :=
  { files := .empty, random := ⟨fun _ => 0, 0⟩, inFlight := ["b"], journal := [.entered "b"] }

theorem run_inFlight_mutual :
    mutualSession.inFlight.Nodup ∧
    (∀ n ∈ mutualSession.inFlight, n ∈ mutualView.schema.names) ∧
    ((run mutualView .toMap).runFrom mutualSession).2.inFlight = ["b"] := by
  have distinct : mutualSession.inFlight.Nodup := by decide
  have declared : ∀ n ∈ mutualSession.inFlight, n ∈ mutualView.schema.names := by decide +kernel
  exact ⟨distinct, declared, (run_inFlight mutualView .toMap mutualSession distinct declared).2.1⟩

end Operation

end LayeredConfig
