import LayeredConfig.Proofs.Resolve.Settled

/-! What the failures of resolving come from. -/
namespace LayeredConfig

namespace Resolving

variable {α : Type} {x y : Resolving α} {E : Failure → Prop}

theorem Agree.guarded (h : Agree (fun _ => True) E x y) {name : String}
    (circular : E (.circular name)) :
    Agree (fun _ => True) E (guarded name x) (guarded name y) := by
  intro s _
  rw [runFrom_guarded, runFrom_guarded]
  split
  · exact ⟨rfl, trivial, fun f hf => by cases hf; exact circular⟩
  · obtain ⟨same, -, hE⟩ := h
      { s with inFlight := name :: s.inFlight, journal := .entered name :: s.journal } trivial
    rw [← same]
    exact ⟨rfl, trivial, hE⟩

end Resolving

namespace View
open Resolving

variable {v : View} {s : Setting}

/-- A failure of a setting by itself, one of circularity, or one that a fallback states. -/
def Explained (v : View) (f : Failure) : Prop :=
  f.ofSetting ∨ (∃ n, f = .circular n) ∨ ∃ s ∈ v.schema.list, .fail f ∈ s.parts

/-- What no setting comes to by itself is stated by a fallback, unless it is about circularity. -/
theorem Explained.stated {f : Failure} (h : v.Explained f) (foreign : f.ofSetting = false)
    (plain : f.plain) : ∃ s ∈ v.schema.list, .fail f ∈ s.parts := by
  rcases h with own | ⟨n, rfl⟩ | stated
  · rw [foreign] at own
    cases own
  · cases plain
  · exact stated

private theorem agree_resolveWithin (n : Nat) (hs : s ∈ v.schema.list) :
    Agree (fun _ => True) v.Explained (v.resolveWithin n s) (v.resolveWithin n s) := by
  have own : ∀ f : Failure, f.ofSetting → v.Explained f := fun _ => .inl
  induction n generalizing s with
  | zero => exact agree_throw (.inr (.inl ⟨s.name, rfl⟩))
  | succ n ih =>
    refine Agree.guarded ?_ (.inr (.inl ⟨s.name, rfl⟩))
    refine agree_resolveStep own (fun _ _ _ _ => trivial) fun _ => ?_
    exact agree_evalFallback own (fun _ _ => trivial) (fun f hf => .inr (.inr ⟨s, hs, hf⟩))
      fun p hp s' hs' => ih (mem_list_of_asked hs')

/-- What resolving all settings fails with is explained. -/
theorem explained_of_values {st : Session} {f : Failure} (h : (v.values.runFrom st).1 = .error f) :
    v.Explained f := by
  have settings : Agree (fun _ => True) v.Explained v.values v.values :=
    Agree.mapM fun s hs => agree_resolveWithin _ hs
  exact (settings st trivial).2.2 f h

end View

end LayeredConfig
