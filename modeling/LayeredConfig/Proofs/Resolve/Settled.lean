import LayeredConfig.Proofs.Placeholder
import LayeredConfig.Proofs.Resolve.Composed

/-! Resolutions are settled: done again, however the files have grown since, they come to the same
value or fail again, and they write nothing more. -/
namespace LayeredConfig

namespace Resolving

variable {α β : Type}

/-- Files are only added by the work, and the names in flight are laid down. Done again with the
same names in flight, when no file of the first time is gone, it comes to the same and writes
nothing. -/
structure Settled (x : Resolving α) : Prop where
  grows : ∀ s : Session, s.files.Grows (x.runFrom s).2.files
  inFlight : ∀ s : Session, (x.runFrom s).2.inFlight = s.inFlight
  again : ∀ s u : Session, (x.runFrom s).2.files.Grows u.files → u.inFlight = s.inFlight →
    (x.runFrom u).1.toOption = (x.runFrom s).1.toOption ∧ (x.runFrom u).2.files = u.files

private theorem settled_pure (a : α) : Settled (pure a : Resolving α) :=
  ⟨fun s => .refl s.files, fun _ => rfl, fun _ _ _ _ => ⟨rfl, rfl⟩⟩

private theorem settled_lift (r : Except Failure α) : Settled (lift r) :=
  ⟨fun s => .refl s.files, fun _ => rfl, fun _ _ _ _ => ⟨rfl, rfl⟩⟩

private theorem settled_note (e : Event) : Settled (note e) :=
  ⟨fun s => .refl s.files, fun _ => rfl, fun _ _ _ _ => ⟨rfl, rfl⟩⟩

theorem runFrom_guarded (name : String) (x : Resolving α) (s : Session) :
    (guarded name x).runFrom s =
      if name ∈ s.inFlight then (.error (.circular name), s)
      else
        let t := x.runFrom
          { s with inFlight := name :: s.inFlight, journal := .entered name :: s.journal }
        (t.1, { t.2 with inFlight := t.2.inFlight.tail, journal := .left name :: t.2.journal }) := rfl

theorem Settled.guarded {x : Resolving α} (h : Settled x) (name : String) :
    Settled (guarded name x) := by
  constructor
  · intro s
    rw [runFrom_guarded]
    split
    · exact .refl s.files
    · dsimp only
      exact h.grows { s with inFlight := name :: s.inFlight, journal := .entered name :: s.journal }
  · intro s
    rw [runFrom_guarded]
    split
    · rfl
    · dsimp only
      rw [h.inFlight, List.tail_cons]
  · intro s u hg hf
    rw [runFrom_guarded] at hg
    rw [runFrom_guarded, runFrom_guarded, hf]
    split at hg
    · next there =>
      rw [if_pos there, if_pos there]
      exact ⟨rfl, rfl⟩
    · next free =>
      rw [if_neg free, if_neg free]
      exact h.again _ _ hg rfl

/-- Work that goes on from an outcome is settled if it goes on alike from all failures. -/
theorem Settled.andThen {x : Resolving α} {y : Resolving β} {next : Except Failure α → Resolving β}
    (hx : Settled x) (hn : ∀ r, Settled (next r))
    (failures : ∀ e e' u,
      ((next (.error e)).runFrom u).1.toOption = ((next (.error e')).runFrom u).1.toOption ∧
      ((next (.error e)).runFrom u).2.files = ((next (.error e')).runFrom u).2.files)
    (hy : ∀ s, y.runFrom s = (next (x.runFrom s).1).runFrom (x.runFrom s).2) : Settled y := by
  constructor
  · intro s
    rw [hy]
    exact (hx.grows s).trans ((hn _).grows _)
  · intro s
    rw [hy]
    exact ((hn _).inFlight _).trans (hx.inFlight s)
  · intro s u hg hu
    rw [hy] at hg
    rw [hy, hy]
    -- The tree that is left at the end has grown from the one between.
    obtain ⟨outcome, files⟩ := hx.again s u (((hn _).grows _).trans hg) hu
    have between : (x.runFrom u).2.inFlight = (x.runFrom s).2.inFlight := by
      rw [hx.inFlight, hu, hx.inFlight]
    obtain ⟨value, written⟩ :=
      (hn (x.runFrom s).1).again (x.runFrom s).2 (x.runFrom u).2 (files ▸ hg) between
    have alike : ∀ w,
        ((next (x.runFrom u).1).runFrom w).1.toOption =
          ((next (x.runFrom s).1).runFrom w).1.toOption ∧
        ((next (x.runFrom u).1).runFrom w).2.files =
          ((next (x.runFrom s).1).runFrom w).2.files := by
      intro w
      generalize (x.runFrom u).1 = r' at outcome ⊢
      generalize (x.runFrom s).1 = r at outcome ⊢
      cases r with
      | error e =>
        cases r' with
        | error e' => exact failures e' e w
        | ok b => cases outcome
      | ok a =>
        cases r' with
        | error e' => cases outcome
        | ok b =>
          obtain rfl : b = a := Option.some.inj outcome
          exact ⟨rfl, rfl⟩
    obtain ⟨sameValue, sameFiles⟩ := alike (x.runFrom u).2
    exact ⟨sameValue.trans value, sameFiles.trans (written.trans files)⟩

theorem Settled.bind {x : Resolving α} {f : α → Resolving β} (hx : Settled x)
    (hf : ∀ a, Settled (f a)) : Settled (x >>= f) := by
  let next : Except Failure α → Resolving β
    | .ok a => f a
    | .error e => lift (.error e)
  have settled (r : Except Failure α) : Settled (next r) := by
    cases r with
    | ok a => exact hf a
    | error e => exact settled_lift _
  refine hx.andThen settled (fun _ _ _ => ⟨rfl, rfl⟩) fun s => ?_
  rw [runFrom_bind]
  rcases x.runFrom s with ⟨_ | _, _⟩ <;> rfl

theorem Settled.rescue {x y : Resolving α} (hx : Settled x) (hy : Settled y) :
    Settled (tryCatch x fun _ => y) := by
  let next : Except Failure α → Resolving α
    | .ok a => pure a
    | .error _ => y
  have settled (r : Except Failure α) : Settled (next r) := by
    cases r with
    | ok a => exact settled_pure a
    | error e => exact hy
  refine hx.andThen settled (fun _ _ _ => ⟨rfl, rfl⟩) fun s => ?_
  rw [runFrom_tryCatch]
  rcases x.runFrom s with ⟨_ | _, _⟩ <;> rfl

end Resolving

namespace View
open Resolving

/-- No path of a record leads upwards. -/
structure Straight (v : View) : Prop where
  root : ".." ∉ FileTree.names v.placeholderRoot
  keys : ∀ s ∈ v.schema.list, ".." ∉ FileTree.names s.envVar

variable {v : View}

theorem runFrom_placeholder (v : View) (s : Setting) (st : Session) :
    (v.placeholder s).runFrom st =
      let fetched := Placeholder.fetch v.placeholderRoot s.envVar s.scheme st.files st.random
      (fetched.1, { st with files := fetched.2.1, random := fetched.2.2 }) := by
  have run : (v.placeholder s).runFrom st = v.placeholder s st := rfl
  rw [run]
  unfold placeholder
  generalize Placeholder.fetch v.placeholderRoot s.envVar s.scheme st.files st.random = fetched
  rfl

private theorem Straight.settled_placeholder (h : v.Straight) {s : Setting}
    (declared : s ∈ v.schema.list) :
    Settled (v.placeholder s) := by
  have fetched (st : Session) :=
    Placeholder.fetch_settled h.root (h.keys s declared) s.scheme st.files st.random
  constructor
  · intro st
    rw [runFrom_placeholder]
    exact (fetched st).1
  · intro st
    rw [runFrom_placeholder]
  · intro st u hg _
    rw [runFrom_placeholder] at hg
    rw [runFrom_placeholder, runFrom_placeholder]
    exact (fetched st).2 u.files u.random hg

private theorem Straight.settled_finish (h : v.Straight) {s : Setting}
    (declared : s ∈ v.schema.list)
    (raw : Option String) : Settled (v.finish s raw) := by
  rcases v.finish_cases s raw with ⟨r, hr⟩ | ⟨-, -, -, made⟩
  · exact hr ▸ settled_lift r
  · exact made ▸ (h.settled_placeholder declared).bind fun t => settled_pure (Value.text t)

/-- All that a resolution is composed of is settled. -/
theorem Straight.settled (h : v.Straight) {α : Type} {x : Resolving α} (hx : v.Composed x) :
    Settled x := by
  induction hx with
  | pure a => exact settled_pure a
  | lift r => exact settled_lift r
  | note e => exact settled_note e
  | step declared lacks _ ih =>
    rw [resolveStep_of_lacks lacks]
    exact ih.bind fun t => h.settled_finish declared _
  | guarded name _ ih => exact ih.guarded name
  | bind _ _ ihx ihf => exact ihx.bind ihf
  | rescue _ _ ihx ihy => exact ihx.rescue ihy

end View

end LayeredConfig
