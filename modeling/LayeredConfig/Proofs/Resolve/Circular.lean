import LayeredConfig.Proofs.Resolve.InFlight

/-! Failures of circularity: there are none where fallbacks refer to settings of lower rank only,
and they name the setting that was asked for where fallbacks refer to each other in a ring. -/
namespace LayeredConfig.View
open Resolving

/-- Each fallback refers only to settings of lower rank, or to none, and never to all settings. -/
def Ranked (v : View) (rank : String → Nat) : Prop :=
  ∀ s ∈ v.schema.list, ∀ p ∈ s.parts,
    p ≠ .everything ∧ ∀ s' ∈ p.asked v.schema, rank s'.name < rank s.name

/-- Resolves a setting with references nested to a depth, and works on what is in flight already
like on anything else. -/
def resolveUnchecked (v : View) (below : Setting → Resolving Value) :
    Nat → Setting → Resolving Value :=
  v.resolveWith (fun _ work => work) below

variable {v : View} {rank : String → Nat} {again : Setting → Resolving Value → Resolving Value}
  {below : Setting → Resolving Value} {n m : Nat} {s : Setting} {F : List String}

/-- A failure that is not one of circularity, unless a fallback states it. -/
def Stated (v : View) (f : Failure) : Prop :=
  f.plain ∨ ∃ s ∈ v.schema.list, .fail f ∈ s.parts

/-- With names of higher rank in flight, a setting is never met again below itself. -/
theorem agree_of_ranked (h : v.Ranked rank) (s₀ : Session)
    (again again' : Setting → Resolving Value → Resolving Value)
    (below below' : Setting → Resolving Value) (hF : ∀ m ∈ F, rank s.name < rank m)
    (hn : rank s.name < n) (hm : rank s.name < m) (hs : s ∈ v.schema.list) :
    Agree (Reached v.schema s₀ F) v.Stated (v.resolveWith again below n s)
      (v.resolveWith again' below' m s) := by
  induction n generalizing m F s with
  | zero => omega
  | succ n ih =>
    obtain ⟨k, rfl⟩ : ∃ k, m = k + 1 := ⟨m - 1, by omega⟩
    have fresh : s.name ∉ F := fun hmem => Nat.lt_irrefl _ (hF s.name hmem)
    intro st hst
    rw [resolveWith_succ_fresh (hst.1 ▸ fresh), resolveWith_succ_fresh (hst.1 ▸ fresh)]
    have own : ∀ f : Failure, f.ofSetting → v.Stated f :=
      fun _ hf => .inl (Failure.plain_of_ofSetting hf)
    refine agree_fresh hs fresh own (fun f hf => .inr ⟨s, hs, hf⟩) ?_ st hst
    intro p hp s' hs'
    have lower : rank s'.name < rank s.name := (h s hs p hp).2 s' hs'
    apply ih _ (by omega) (by omega) (mem_list_of_asked hs')
    intro m hm
    rcases List.mem_cons.mp hm with rfl | hm
    · exact lower
    · exact Nat.lt_trans lower (hF m hm)

/-- A ring of settings: each one but the last refers to the next, the last one to the first. -/
structure Ring (v : View) (k : Nat) (node : Nat → Setting) : Prop where
  pos : 0 < k
  closed : node k = node 0
  declared : ∀ i < k, v.schema.find? (node i).name = some (node i)
  distinct : ∀ i < k, ∀ j < k, node i = node j → i = j
  single : ∀ i < k, (node i).kind ≠ .fields
  absent : ∀ i < k, v.layers.lookup (node i).envVar = none
  refers : ∀ i < k,
    (node i).fallback = some (.deferred [.reference (node (i + 1)).name none])

/-- A failure of the one reference in a fallback is a failure of the setting. -/
theorem resolveStep_of_reference {R : Setting → Resolving Value} {s s' : Setting} {st : Session}
    {f : Failure} (single : s.kind ≠ .fields) (absent : v.layers.lookup s.envVar = none)
    (refers : s.fallback = some (.deferred [.reference s'.name none]))
    (declared : v.schema.find? s'.name = some s')
    (fails : ∀ journal, ((R s').runFrom { st with journal }).1 = .error f) :
    ((v.resolveStep R s).runFrom st).1 = .error f := by
  have hraw : v.raw s.envVar = .ok none := by rw [raw, absent]
  have hget : v.getBy R s'.name = R s' := by rw [getBy, declared]
  have hpart (st' : Session) (h : ((R s').runFrom st').1 = .error f) :
      (v.evalPart R (.reference s'.name none)).runFrom st' =
        (.error f, ((R s').runFrom st').2) := by
    rw [evalPart, hget, runFrom_bind]
    rcases hr : (R s').runFrom st' with ⟨r, t⟩
    rw [hr] at h
    obtain rfl : r = .error f := h
    rfl
  have hfallback : ((v.evalFallback R s).runFrom st).1 = .error f := by
    rw [evalFallback, refers]
    dsimp only
    rw [runFrom_bind, runFrom_note]
    dsimp only
    rw [runFrom_bind, List.mapM_cons, runFrom_bind, hpart _ (fails _)]
  rw [resolveStep, if_neg single, runFrom_bind, hraw, runFrom_lift]
  dsimp only
  have hp : Reference.present? none = none := rfl
  rw [hp]
  dsimp only
  rw [runFrom_bind]
  rcases hr : (v.evalFallback R s).runFrom st with ⟨r, t⟩
  rw [hr] at hfallback
  obtain rfl : r = .error f := hfallback
  rfl

namespace Ring

variable {k i j : Nat} {node : Nat → Setting}

/-- The position in a ring of `k` that is `j` steps after `i`. -/
def after (k i j : Nat) : Nat := if i + j < k then i + j else i + j - k

private theorem after_lt (hi : i < k) (hj : j < k) : after k i j < k := by
  unfold after
  split
  · assumption
  · omega

private theorem after_injective {a : Nat} (ha : a < j) (hj : j < k) :
    after k i a ≠ after k i j := by
  unfold after
  intro h
  split at h <;> split at h <;> omega

private theorem node_after_succ (h : Ring v k node) (i j : Nat) :
    node (after k i j + 1) = node (after k i (j + 1)) := by
  unfold after
  by_cases h1 : i + j + 1 < k
  · rw [if_pos (by omega), if_pos (by omega), Nat.add_assoc]
  · by_cases h2 : i + j < k
    · rw [if_pos h2, if_neg (by omega), show i + j + 1 = k by omega,
        show i + (j + 1) - k = 0 by omega]
      exact h.closed
    · rw [if_neg h2, if_neg (by omega), show i + j - k + 1 = i + (j + 1) - k by omega]

private theorem after_self (k i : Nat) : after k i k = i := by
  rw [after, if_neg (by omega), Nat.add_sub_cancel]

private theorem eq_of_name_eq (h : Ring v k node) (hi : i < k) (hj : j < k)
    (e : (node i).name = (node j).name) : i = j := by
  apply h.distinct i hi j hj
  have hd : some (node i) = some (node j) := by
    rw [← h.declared i hi, e, h.declared j hj]
  exact Option.some.inj hd

private theorem declared_after (h : Ring v k node) (hi : i < k) (hj : j ≤ k) :
    v.schema.find? (node (after k i j)).name = some (node (after k i j)) := by
  rcases Nat.lt_or_eq_of_le hj with hj | rfl
  · exact h.declared _ (after_lt hi hj)
  · rw [after_self]
    exact h.declared i hi

/-- With `j` settings of a ring in flight, the next one fails with the first of them. -/
theorem fails (h : Ring v k node) (hi : i < k) (below : Setting → Resolving Value) {d n : Nat}
    {st : Session} (hd : j + d = k) (hn : d < n)
    (inFlight : ∀ m, m ∈ st.inFlight ↔ ∃ a < j, m = (node (after k i a)).name) :
    ((v.resolveWith refuse below n (node (after k i j))).runFrom st).1 =
      .error (.circular (node i).name) := by
  induction d generalizing j n st with
  | zero =>
    obtain ⟨n, rfl⟩ : ∃ n', n = n' + 1 := ⟨n - 1, by omega⟩
    obtain rfl : j = k := by omega
    have hmem : (node i).name ∈ st.inFlight := by
      refine (inFlight _).mpr ⟨0, h.pos, ?_⟩
      rw [after, if_pos (by omega), Nat.add_zero]
    rw [after_self, resolveWith_refuse_again hmem]
  | succ d ih =>
    obtain ⟨n, rfl⟩ : ∃ n', n = n' + 1 := ⟨n - 1, by omega⟩
    have hj : j < k := by omega
    have hlt : after k i j < k := after_lt hi hj
    have fresh : (node (after k i j)).name ∉ st.inFlight := by
      intro hmem
      obtain ⟨a, ha, hname⟩ := (inFlight _).mp hmem
      have hlt' : after k i a < k := after_lt hi (by omega)
      exact after_injective ha hj (h.eq_of_name_eq hlt hlt' hname).symm
    rw [resolveWith_succ_fresh fresh, runFrom_named]
    refine resolveStep_of_reference (h.single _ hlt) (h.absent _ hlt) (h.refers _ hlt) ?_ ?_
    · rw [h.node_after_succ]
      exact h.declared_after hi hj
    · intro journal
      rw [h.node_after_succ]
      apply ih (by omega) (by omega)
      intro m
      constructor
      · intro hm
        rcases List.mem_cons.mp hm with rfl | hm
        · exact ⟨j, Nat.lt_succ_self j, rfl⟩
        · obtain ⟨a, ha, hname⟩ := (inFlight m).mp hm
          exact ⟨a, Nat.lt_succ_of_lt ha, hname⟩
      · rintro ⟨a, ha, rfl⟩
        rcases Nat.lt_or_eq_of_le (Nat.le_of_lt_succ ha) with ha | rfl
        · exact List.mem_cons_of_mem _ ((inFlight _).mpr ⟨a, ha, rfl⟩)
        · exact List.mem_cons_self

end Ring

end LayeredConfig.View

namespace LayeredConfig.Operation
open Resolving View

/-- With ranked fallbacks it does not matter what becomes of settings that are in flight already. -/
theorem run_of_ranked {v : View} {rank : String → Nat} (h : v.Ranked rank) (op : Operation)
    {st : Session} (idle : st.inFlight = []) {n : Nat}
    (hn : ∀ s ∈ v.schema.list, rank s.name < n)
    (again : Setting → Resolving Value → Resolving Value) (below : Setting → Resolving Value) :
    (op.runBy v (v.resolveWith again below n)).runFrom st = (op.run v).runFrom st ∧
    ∀ f, ((op.run v).runFrom st).1 = .error f → v.Stated f := by
  have deep := agree_run v op (by simp [idle]) (by simp [idle]) below
    (by omega : v.schema.settings.size < n + v.schema.settings.size + 1) st (.here v.schema st)
  have ranked : Agree (Reached v.schema st st.inFlight) v.Stated
      (op.runBy v (v.resolveWith again below n))
      (op.runBy v (v.resolveWith refuse below (n + v.schema.settings.size + 1))) := by
    apply agree_runBy op (fun _ => .inl)
    intro s hs
    have hr : rank s.name < n := hn s hs
    exact agree_of_ranked h st again refuse below below (by simp [idle]) hr (by omega) hs
  obtain ⟨he, -, hE⟩ := ranked st (.here v.schema st)
  have same : (op.runBy v (v.resolveWith again below n)).runFrom st = (op.run v).runFrom st :=
    he.trans deep.1.symm
  exact ⟨same, fun f hf => hE f (by rw [same, hf])⟩

/-- In a ring, a setting that is asked for fails, and the failure names it. -/
theorem get_of_ring {v : View} {k : Nat} {node : Nat → Setting} (h : v.Ring k node) {st : Session}
    (idle : st.inFlight = []) {i : Nat} (hi : i < k) :
    ((v.get (node i).name).runFrom st).1 = .error (.circular (node i).name) := by
  let below (s : Setting) : Resolving Value := throw (.circular s.name)
  have hs : node i ∈ v.schema.list := Schema.mem_list_of_find? (h.declared i hi)
  have deep : (v.resolve (node i)).runFrom st =
      (v.resolveWith refuse below (v.schema.settings.size + k + 1) (node i)).runFrom st :=
    (agree_resolveWith_refuse v st below (by simp [idle]) (by simp [idle]) (by omega) (by omega)
      hs st (.here v.schema st)).1
  have start : Ring.after k i 0 = i := if_pos hi
  have hfails : ((v.resolveWith refuse below (v.schema.settings.size + k + 1)
      (node (Ring.after k i 0))).runFrom st).1 = .error (.circular (node i).name) :=
    h.fails hi below (Nat.zero_add k) (by omega) (by simp [idle])
  rw [start, ← deep] at hfails
  rwa [View.get, getBy, h.declared i hi]

/-- Circularity is reported just where it is real. With ranked fallbacks it does not matter what
becomes of settings that are in flight already, hence they go the same way as without any check, and
circularity is only reported where a fallback states it. In a ring, each setting that is asked for
fails, and the failure names it. -/
theorem no_circular_of_ranked_circular_of_ring (v : View) (st : Session)
    (idle : st.inFlight = []) :
    (∀ rank, v.Ranked rank →
      ∀ op : Operation, ∀ n, (∀ s ∈ v.schema.list, rank s.name < n) →
        (∀ below, (op.runBy v (v.resolveUnchecked below n)).runFrom st =
          (op.run v).runFrom st) ∧
        (∀ again below, (op.runBy v (v.resolveWith again below n)).runFrom st =
          (op.run v).runFrom st) ∧
        ∀ name, ((op.run v).runFrom st).1 = .error (.circular name) →
          ∃ s ∈ v.schema.list, .fail (.circular name) ∈ s.parts) ∧
    (∀ k node, v.Ring k node → ∀ i < k,
      ((v.get (node i).name).runFrom st).1 = .error (.circular (node i).name)) := by
  refine ⟨fun rank h op n hn => ?_, fun k node h i hi => get_of_ring h idle hi⟩
  have same again below := run_of_ranked h op idle hn again below
  refine ⟨fun below => (same _ below).1, fun again below => (same again below).1, fun name hf => ?_⟩
  · rcases (same refuse fun s => throw (.circular s.name)).2 _ hf with hp | stated
    · exact absurd hp Bool.false_ne_true
    · exact stated

/-- Two settings that refer to a third one, and one that refers to both of them. -/
def diamondView : View :=
  ⟨Schema.build []
    [{ Setting.ofVar "A" .text with
        fallback := some (.deferred [.reference "b" (some "x"), .fetch "c" "y"]) },
     { Setting.ofVar "B" .text with fallback := some (.deferred [.reference "d" none]) },
     { Setting.ofVar "C" .text with fallback := some (.deferred [.reference "d" none, .names]) },
     Setting.ofVar "D" .text],
    ⟨{ vars := KeyMap.empty }, .empty⟩, none, none⟩

def diamondRank (name : String) : Nat :=
  if name = "a" then 2 else if name = "d" then 0 else 1

/-- Two settings that refer to each other. -/
def pairNode : Nat → Setting
  | 1 => { Setting.ofVar "B" .text with fallback := some (.deferred [.reference "a" none]) }
  | _ => { Setting.ofVar "A" .text with fallback := some (.deferred [.reference "b" none]) }

def pairView : View :=
  ⟨Schema.build [] [pairNode 0, pairNode 1], ⟨{ vars := KeyMap.empty }, .empty⟩, none, none⟩

theorem no_circular_in_diamond_circular_in_pair :
    Session.fresh.inFlight = [] ∧ diamondView.Ranked diamondRank ∧
    (let unchecked := diamondView.resolveUnchecked (fun s => pure (.text s.name)) 3
     (toMap.runBy diamondView unchecked).runFrom .fresh =
      (toMap.run diamondView).runFrom .fresh) ∧
    pairView.Ring 2 pairNode ∧
    ((pairView.get "b").runFrom .fresh).1 = .error (.circular "b") := by
  have ranked : diamondView.Ranked diamondRank := by
    unfold Ranked
    decide +kernel
  have ring : pairView.Ring 2 pairNode :=
    ⟨by decide, rfl, by decide +kernel, by decide +kernel, by decide, by decide +kernel, by decide⟩
  have lower : ∀ s ∈ diamondView.schema.list, diamondRank s.name < 3 := by decide +kernel
  have diamond := no_circular_of_ranked_circular_of_ring diamondView Session.fresh rfl
  have pair := no_circular_of_ranked_circular_of_ring pairView Session.fresh rfl
  refine ⟨rfl, ranked, ?_, ring, ?_⟩
  · exact (diamond.1 _ ranked .toMap 3 lower).1 _
  · exact pair.2 2 pairNode ring 1 (by decide)

end LayeredConfig.Operation
