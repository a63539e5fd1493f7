import LayeredConfig.EnvFile.Load
import LayeredConfig.Proofs.Maps

/-! Env files can be read one by one, all together, or for their duplicates alone. The three ways go
through the files in step, so they fail on the same file and agree on what is in the others. -/
namespace LayeredConfig.EnvFile

/-- Why a file cannot be read; a path that leads to no file is no fault. -/
def fault? (t : FileTree) (path : String) : Option IoFault :=
  match t.read path with
  | .ok _ => none
  | .error .notFound => none
  | .error e => some e

def firstFault? (t : FileTree) (paths : List String) : Option (String × IoFault) :=
  paths.findSome? fun p => (fault? t p).map fun e => (p, e)

variable {t : FileTree}

/-- What the three readers do with one file. -/
theorem readers_step (t : FileTree) (s : DuplicateScan) (m : Table String) (path : String) :
    (∃ e, fault? t path = some e ∧ scanFile t s path = .error (.unreadable path e) ∧
      load t path = .error (.unreadable path e) ∧
      mergeFile t (s, m) path = .error (.unreadable path e)) ∨
    (fault? t path = none ∧ ∃ s' u, scanFile t s path = .ok s' ∧ load t path = .ok u ∧
      mergeFile t (s, m) path = .ok (s', m.merge u)) := by
  cases hr : t.read path with
  | ok text =>
    have hq : readText? t path = .ok (some text) := by rw [readText?, hr]
    refine .inr ⟨by rw [fault?, hr], s.feed path text, parse text, ?_, ?_, ?_⟩
    · rw [scanFile, hq]; rfl
    · rw [load, hq]; rfl
    · rw [mergeFile, hq]; rfl
  | error e =>
    by_cases hn : e = .notFound
    · subst hn
      have hq : readText? t path = .ok none := by rw [readText?, hr]
      refine .inr ⟨by rw [fault?, hr], s, .empty, ?_, ?_, ?_⟩
      · rw [scanFile, hq]; rfl
      · rw [load, hq]; rfl
      · rw [mergeFile, hq]; rfl
    · have hq : readText? t path = .error (.unreadable path e) := by simp [readText?, hr]
      have hf : fault? t path = some e := by simp [fault?, hr]
      refine .inl ⟨e, hf, ?_, ?_, ?_⟩
      · rw [scanFile, hq]; rfl
      · rw [load, hq]; rfl
      · rw [mergeFile, hq]; rfl

/-- What the three readers do with several files: all of them stop at the first that cannot be read,
or none of them stops. -/
theorem readers_run (t : FileTree) (s : DuplicateScan) (m : Table String) (paths : List String) :
    (∃ p e, firstFault? t paths = some (p, e) ∧
      paths.foldlM (scanFile t) s = .error (.unreadable p e) ∧
      paths.mapM (load t) = .error (.unreadable p e) ∧
      paths.foldlM (mergeFile t) (s, m) = .error (.unreadable p e)) ∨
    (firstFault? t paths = none ∧ ∃ scan tables, paths.foldlM (scanFile t) s = .ok scan ∧
      paths.mapM (load t) = .ok tables ∧
      paths.foldlM (mergeFile t) (s, m) = .ok (scan, tables.foldl Table.merge m)) := by
  induction paths generalizing s m with
  | nil => exact .inr ⟨rfl, s, [], rfl, rfl, rfl⟩
  | cons path r ih =>
    rw [firstFault?, List.findSome?_cons, List.foldlM_cons, List.mapM_cons, List.foldlM_cons]
    rcases readers_step t s m path with ⟨e, hf, hs, hl, hm⟩ | ⟨hf, s', u, hs, hl, hm⟩
    · rw [hf, hs, hl, hm]
      exact .inl ⟨path, e, rfl, rfl, rfl, rfl⟩
    · rw [hf, hs, hl, hm]
      rcases ih s' (m.merge u) with ⟨p, e, hf, hs, hl, hm⟩ | ⟨hf, scan, tables, hs, hl, hm⟩
      · refine .inl ⟨p, e, hf, hs, ?_, hm⟩
        change (do let us ← r.mapM (load t); pure (u :: us)) = _
        rw [hl]
        rfl
      · refine .inr ⟨hf, scan, u :: tables, hs, ?_, hm⟩
        change (do let us ← r.mapM (load t); pure (u :: us)) = _
        rw [hl]
        rfl

/-- The readers of several files fail on the first that cannot be read, or there is none, and then
reading all together fails just with the duplicates that there are. -/
theorem readers_cases (t : FileTree) (paths : List String) :
    (∃ p e, firstFault? t paths = some (p, e) ∧
      duplicates t paths = .error (.unreadable p e) ∧
      paths.mapM (load t) = .error (.unreadable p e) ∧
      loadAll t paths = .error (.unreadable p e)) ∨
    (firstFault? t paths = none ∧ ∃ d tables, duplicates t paths = .ok d ∧
      paths.mapM (load t) = .ok tables ∧
      loadAll t paths =
        if d = [] then .ok (tables.foldl Table.merge .empty) else .error (.duplicates d)) := by
  rcases readers_run t .start .empty paths with ⟨p, e, hf, hs, hl, hm⟩ |
    ⟨hf, scan, tables, hs, hl, hm⟩
  · refine .inl ⟨p, e, hf, ?_, hl, ?_⟩
    · rw [duplicates, hs]; rfl
    · rw [loadAll, hm]; rfl
  · refine .inr ⟨hf, scan.found, tables, ?_, hl, ?_⟩
    · rw [duplicates, hs]; rfl
    · rw [loadAll, hm]
      change (if scan.found = [] then _ else _) = _
      rfl

/-- Reading env files together fails with duplicates just when looking for duplicates finds them,
and on a file that cannot be read just when looking for duplicates does; that is the first such
file, whatever duplicates stand before it. Otherwise there are no duplicates, and the files as they
are read one by one are laid one over the other: the last file that has a key gives its value, and
keys stand in the order in which they first come. -/
theorem readers_agree (t : FileTree) (paths : List String) :
    (∀ d, loadAll t paths = .error (.duplicates d) ↔ duplicates t paths = .ok d ∧ d ≠ []) ∧
    (∀ p e, loadAll t paths = .error (.unreadable p e) ↔
      duplicates t paths = .error (.unreadable p e)) ∧
    (∀ p e, duplicates t paths = .error (.unreadable p e) ↔ firstFault? t paths = some (p, e)) ∧
    ((∀ d, loadAll t paths ≠ .error (.duplicates d)) →
      (∀ p e, loadAll t paths ≠ .error (.unreadable p e)) →
      duplicates t paths = .ok [] ∧ ∃ tables vars, paths.mapM (load t) = .ok tables ∧
        loadAll t paths = .ok vars ∧ vars = tables.foldl Table.merge .empty ∧
        (∀ k, vars.get? k = tables.reverse.findSome? (·.get? k)) ∧
        vars.keys = (tables.flatMap Table.keys).eraseDups) := by
  rcases readers_cases t paths with ⟨p, e, hf, hd, -, hl⟩ | ⟨hf, d, tables, hd, ht, hl⟩
  · rw [hf, hd, hl]
    exact ⟨by simp, by simp, by simp, fun _ readable => absurd rfl (readable p e)⟩
  · rw [hf, hd, hl]
    by_cases none : d = []
    · rw [if_pos none]
      subst none
      refine ⟨by simp, by simp, by simp, fun _ _ => ⟨rfl, tables, _, ht, rfl, rfl, fun k => ?_, ?_⟩⟩
      · rw [Table.get?_foldl_merge, Table.get?_empty, Option.or_none]
      · rw [Table.keys_foldl_merge]
        rfl
    · rw [if_neg none]
      refine ⟨fun d' => ?_, by simp, by simp, fun distinct => absurd rfl (distinct d)⟩
      simp only [Except.error.injEq, Failure.duplicates.injEq, Except.ok.injEq]
      exact ⟨fun h => ⟨h, h ▸ none⟩, fun h => h.1⟩

end LayeredConfig.EnvFile
