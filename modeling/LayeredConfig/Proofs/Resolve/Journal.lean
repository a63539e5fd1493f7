import LayeredConfig.Proofs.Resolve.Bulk

/-! The journal of a session only grows. A setting that is resolved leaves an event in it, so that a
failure with an unchanged session is one of an unknown name or of a setting in flight. -/
namespace LayeredConfig.View
open Resolving

variable {v : View} {s : Setting} {α : Type} {x : Resolving α}

theorem finish_journal (raw : Option String) (st : Session) :
    ((v.finish s raw).runFrom st).2.journal = st.journal := by
  rcases v.finish_cases s raw with ⟨r, hr⟩ | ⟨-, -, -, made⟩
  · rw [hr, runFrom_lift]
  · rw [made, runFrom_bind, runFrom_placeholder]
    generalize Placeholder.fetch v.placeholderRoot s.envVar s.scheme st.files st.random = fetched
    rcases fetched with ⟨_ | _, _⟩ <;> rfl

/-- Nothing that has happened is forgotten. -/
theorem Composed.journal_suffix (h : Composed v x) (st : Session) :
    st.journal <:+ (x.runFrom st).2.journal := by
  induction h generalizing st with
  | pure a => exact List.suffix_rfl
  | lift r => exact List.suffix_rfl
  | note e => exact List.suffix_cons e st.journal
  | step _ lacks _ ih =>
    have first := ih st
    rw [resolveStep_of_lacks lacks, runFrom_bind]
    rcases hx : (v.evalFallback (v.resolveWithin _) _).runFrom st with ⟨_ | t, mid⟩
    · rwa [hx] at first
    · rw [hx] at first
      exact first.trans (finish_journal _ mid ▸ List.suffix_rfl)
  | guarded name _ ih =>
    rw [runFrom_guarded]
    split
    · exact List.suffix_rfl
    · have work := ih
        { st with inFlight := name :: st.inFlight, journal := .entered name :: st.journal }
      exact ((List.suffix_cons _ _).trans work).trans (List.suffix_cons _ _)
  | @bind α β x f _ _ ihx ihf =>
    have first := ihx st
    rw [runFrom_bind]
    rcases hx : x.runFrom st with ⟨_ | a, t⟩
    · rwa [hx] at first
    · rw [hx] at first
      exact first.trans (ihf a t)
  | @rescue α x y _ _ ihx ihy =>
    have first := ihx st
    rw [runFrom_tryCatch]
    rcases hx : x.runFrom st with ⟨e | a, t⟩
    · rw [hx] at first
      exact first.trans (ihy t)
    · rwa [hx] at first

/-- Resolving a setting leaves a trace, unless the setting is in flight. -/
theorem resolve_trace (hs : s ∈ v.schema.list) (st : Session) :
    (v.resolve s).runFrom st = (.error (.circular s.name), st) ∨
      st.journal.length < ((v.resolve s).runFrom st).2.journal.length := by
  unfold resolve
  cases v.schema.settings.size with
  | zero => exact .inl rfl
  | succ n =>
    rw [resolveWithin, runFrom_guarded]
    split
    · exact .inl rfl
    · refine .inr ?_
      have step : Composed v (v.resolveStep (v.resolveWithin n) s) :=
        .resolveStep (fun s hs => .resolveWithin n hs) hs
      have kept := (step.journal_suffix { st with
        inFlight := s.name :: st.inFlight, journal := .entered s.name :: st.journal }).length_le
      simp only [List.length_cons] at kept ⊢
      omega

/-- Resolving many settings leaves a trace, unless the first one is in flight. -/
theorem circular_of_mapM {l : List Setting} (declared : ∀ s ∈ l, s ∈ v.schema.list) {st : Session}
    {f : Failure} (h : (l.mapM v.resolve).runFrom st = (.error f, st)) : ∃ n, f = .circular n := by
  cases l with
  | nil => cases h
  | cons s r =>
    have trace := resolve_trace (declared s List.mem_cons_self) st
    rw [runFrom_mapM_cons] at h
    rcases hs : (v.resolve s).runFrom st with ⟨e | x, t⟩
    · rw [hs] at h trace
      cases h
      rcases trace with circular | trace
      · cases circular
        exact ⟨s.name, rfl⟩
      · exact absurd trace (Nat.lt_irrefl _)
    · rw [hs] at h trace
      dsimp only at h trace
      have grown : st.journal.length < t.journal.length := trace.resolve_left nofun
      have others : Composed v (r.mapM v.resolve) :=
        .mapM fun s hs => .resolve (declared s (List.mem_cons_of_mem _ hs))
      have kept := (others.journal_suffix t).length_le
      rcases hr : (r.mapM v.resolve).runFrom t with ⟨e | xs, u⟩
      · rw [hr] at h kept
        cases h
        exact absurd grown (Nat.not_lt_of_le kept)
      · rw [hr] at h
        cases h

/-- Only a setting that is not declared is refused as unknown before anything is resolved. -/
theorem get_unknown_iff (v : View) (name : String) (st : Session) :
    (v.get name).runFrom st = (.error (.unknownName name), st) ↔ v.schema.find? name = none := by
  rw [get, getBy]
  cases found : v.schema.find? name with
  | none => simp
  | some s =>
    refine iff_of_false (fun h => ?_) (Option.some_ne_none s)
    rcases resolve_trace (Schema.mem_list_of_find? found) st with circular | trace
    · cases circular.symm.trans h
    · rw [h] at trace
      exact Nat.lt_irrefl _ trace

end LayeredConfig.View
