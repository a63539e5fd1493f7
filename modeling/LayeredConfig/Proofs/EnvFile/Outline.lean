import LayeredConfig.Proofs.EnvFile.Grammar
import LayeredConfig.Proofs.EnvFile.Readers
import Mathlib.Data.List.Forall2

/-! What duplicates tell about the files in which they are found. Files that assign the same keys on
the same lines cannot be told apart by them: whatever else stands on the lines has no part in which
duplicates are found, and none in what is said about them. -/
namespace LayeredConfig.EnvFile

/-- The lines assign something to the same key, or both assign nothing. -/
def SameKey (l m : List Char) : Prop :=
  (Assignment.ofLine? l).map (·.key) = (Assignment.ofLine? m).map (·.key)

instance (l m : List Char) : Decidable (SameKey l m) :=
  inferInstanceAs (Decidable (Option.map _ _ = Option.map _ _))

/-- The texts have as many lines, with the same keys one by one. -/
def SameOutline (a b : String) : Prop :=
  List.Forall₂ SameKey (Text.lines a.toList) (Text.lines b.toList)

instance (a b : String) : Decidable (SameOutline a b) :=
  inferInstanceAs (Decidable (List.Forall₂ SameKey _ _))

/-- A path leads to no file in either tree, or to files with the same outline. -/
inductive SameFile (t u : FileTree) (path : String) : Prop where
  | missing (left : t.read path = .error .notFound) (right : u.read path = .error .notFound)
  | texts {a b : String} (left : t.read path = .ok a) (right : u.read path = .ok b)
    (same : SameOutline a b)

/-- A duplicate without what stands on its line. -/
def Duplicate.outline (d : Duplicate) : Duplicate := { d with content := "" }

/-- The numbered assignments are on the same line and to the same key. -/
def SamePlace (e e' : Nat × List Char × String) : Prop := e.1 = e'.1 ∧ e.2.2 = e'.2.2

variable {t u : FileTree} {path : String} {paths : List String} {s s' : DuplicateScan}

/-- Lines with the same keys are numbered alike. -/
theorem forall₂_assignmentsFrom {ls ms : List (List Char)} (n : Nat)
    (h : List.Forall₂ SameKey ls ms) :
    List.Forall₂ SamePlace (assignmentsFrom n ls) (assignmentsFrom n ms) := by
  induction h generalizing n with
  | nil => exact .nil
  | @cons l m ls ms first _ ih =>
    rw [SameKey] at first
    cases hl : Assignment.ofLine? l with
    | none =>
      have hm : Assignment.ofLine? m = none := by
        rw [hl] at first
        exact Option.map_eq_none_iff.mp first.symm
      rw [assignmentsFrom_cons_of_none n hl, assignmentsFrom_cons_of_none n hm]
      exact ih (n + 1)
    | some a =>
      rw [hl] at first
      obtain ⟨a', hm, key⟩ := Option.map_eq_some_iff.mp first.symm
      rw [assignmentsFrom_cons_of_some n hl, assignmentsFrom_cons_of_some n hm]
      exact .cons ⟨rfl, key.symm⟩ (ih (n + 1))

private theorem scanFile_missing (h : t.read path = .error .notFound) (s : DuplicateScan) :
    scanFile t s path = .ok s := by
  have none : readText? t path = .ok none := by rw [readText?, h]
  rw [scanFile, none]
  rfl

private theorem scanFile_text {text : String} (h : t.read path = .ok text) (s : DuplicateScan) :
    scanFile t s path = .ok (s.feed path text) := by
  have some : readText? t path = .ok (some text) := by rw [readText?, h]
  rw [scanFile, some]
  rfl

/-- The scans have met the same keys on the same lines. -/
structure DuplicateScan.Alike (s s' : DuplicateScan) : Prop where
  firsts : s.firsts = s'.firsts
  found : s.found.map Duplicate.outline = s'.found.map Duplicate.outline

namespace DuplicateScan.Alike

/-- What one line keeps, whatever stands on it. -/
theorem see (h : s.Alike s') (path : String) (n : Nat) (key : String) (line line' : List Char) :
    (s.see path (n, line, key)).Alike (s'.see path (n, line', key)) := by
  rw [DuplicateScan.see, DuplicateScan.see, ← h.firsts]
  split
  · refine ⟨rfl, ?_⟩
    rw [List.map_append, List.map_append, h.found]
    rfl
  · exact ⟨rfl, h.found⟩

theorem foldl_see (h : s.Alike s') (path : String) {l l' : List (Nat × List Char × String)}
    (same : List.Forall₂ SamePlace l l') :
    (l.foldl (DuplicateScan.see path) s).Alike (l'.foldl (DuplicateScan.see path) s') := by
  induction same generalizing s s' with
  | nil => exact h
  | @cons e e' r r' first _ ih =>
    obtain ⟨n, line, key⟩ := e
    obtain ⟨n', line', key'⟩ := e'
    obtain ⟨rfl, rfl⟩ : n = n' ∧ key = key' := first
    exact ih (h.see path n key line line')

theorem feed (h : s.Alike s') (path : String) {a b : String} (same : SameOutline a b) :
    (s.feed path a).Alike (s'.feed path b) :=
  h.foldl_see path (forall₂_assignmentsFrom 1 same)

/-- What one file keeps. -/
theorem scanFile (h : s.Alike s') (same : SameFile t u path) :
    ∃ r r', scanFile t s path = .ok r ∧ scanFile u s' path = .ok r' ∧ r.Alike r' := by
  cases same with
  | missing left right => exact ⟨s, s', scanFile_missing left s, scanFile_missing right s', h⟩
  | texts left right same =>
    exact ⟨_, _, scanFile_text left s, scanFile_text right s', h.feed path same⟩

/-- What many files keep. -/
theorem foldlM_scanFile (h : s.Alike s') (same : ∀ p ∈ paths, SameFile t u p) :
    ∃ r r', paths.foldlM (EnvFile.scanFile t) s = .ok r ∧
      paths.foldlM (EnvFile.scanFile u) s' = .ok r' ∧ r.Alike r' := by
  induction paths generalizing s s' with
  | nil => exact ⟨s, s', rfl, rfl, h⟩
  | cons path paths ih =>
    obtain ⟨first, others⟩ := List.forall_mem_cons.mp same
    obtain ⟨r, r', left, right, next⟩ := h.scanFile first
    rw [List.foldlM_cons, List.foldlM_cons, left, right]
    exact ih next others

end DuplicateScan.Alike

private theorem duplicates_outline (same : ∀ p ∈ paths, SameFile t u p) :
    ∃ d e, duplicates t paths = .ok d ∧ duplicates u paths = .ok e ∧
      d.map Duplicate.outline = e.map Duplicate.outline := by
  have start : DuplicateScan.start.Alike .start := ⟨rfl, rfl⟩
  obtain ⟨r, r', left, right, alike⟩ := start.foldlM_scanFile same
  refine ⟨r.found, r'.found, ?_, ?_, alike.found⟩
  · rw [duplicates, left]; rfl
  · rw [duplicates, right]; rfl

/-- Reading all together fails with just the duplicates that there are. -/
theorem loadAll_eq_duplicates_iff {d e : List Duplicate} (h : duplicates t paths = .ok d) :
    loadAll t paths = .error (.duplicates e) ↔ e = d ∧ d ≠ [] := by
  rcases readers_cases t paths with ⟨p, f, -, unread, -, -⟩ | ⟨-, d', tables, found, -, load⟩
  · rw [unread] at h
    cases h
  · obtain rfl : d' = d := Except.ok.inj (found.symm.trans h)
    rw [load]
    split
    · next none => simp [none]
    · next some => simp [some, eq_comm]

private theorem Duplicate.message_outline (d : Duplicate) : d.outline.message = d.message := rfl

/-- What is said about duplicates is told from their outlines. -/
theorem message_duplicates_outline (d : List Duplicate) :
    (Failure.duplicates (d.map Duplicate.outline)).message = (Failure.duplicates d).message := by
  have lines : (d.map Duplicate.outline).map (·.message) = d.map (·.message) := by
    rw [List.map_map]
    exact List.map_congr_left fun e _ => e.message_outline
  change _ ++ String.join ((d.map Duplicate.outline).map (·.message)) = _
  rw [lines]
  rfl

/-- Where the files on a list assign the same keys on the same lines in two trees, reading them
fails with duplicates in both trees or in neither, and says the same about them, whatever values are
assigned and whatever else stands in the files. -/
theorem duplicates_reveal_no_values (same : ∀ p ∈ paths, SameFile t u p) :
    ((∃ d, loadAll t paths = .error (.duplicates d)) ↔
      ∃ e, loadAll u paths = .error (.duplicates e)) ∧
    ∀ d e, loadAll t paths = .error (.duplicates d) → loadAll u paths = .error (.duplicates e) →
      (Failure.duplicates d).message = (Failure.duplicates e).message := by
  obtain ⟨d, e, left, right, outline⟩ := duplicates_outline same
  simp only [loadAll_eq_duplicates_iff left, loadAll_eq_duplicates_iff right]
  refine ⟨?_, ?_⟩
  · have none : d = [] ↔ e = [] := by
      rw [← List.map_eq_nil_iff, outline, List.map_eq_nil_iff]
    simp [none]
  · rintro d' e' ⟨rfl, -⟩ ⟨rfl, -⟩
    rw [← message_duplicates_outline, outline, message_duplicates_outline]

/-- Other values, a quote that is not closed, another comment and another end of a line. -/
theorem duplicates_reveal_no_values_secret :
    let t := FileTree.empty.put [".env"] (.file (.text "A=1\n# A\nA=secret"))
    let u := FileTree.empty.put [".env"] (.file (.text "export A = '1\r\n\n A=\"\" # more"))
    let paths := [".env", "local.env"]
    (∀ p ∈ paths, SameFile t u p) ∧ ∃ d e, d ≠ e ∧ loadAll t paths = .error (.duplicates d) ∧
      loadAll u paths = .error (.duplicates e) ∧
      (Failure.duplicates d).message = (Failure.duplicates e).message := by
  intro t u paths
  have left : t.read ".env" = .ok "A=1\n# A\nA=secret" := by decide +kernel
  have right : u.read ".env" = .ok "export A = '1\r\n\n A=\"\" # more" := by decide +kernel
  have missing : t.read "local.env" = .error .notFound ∧ u.read "local.env" = .error .notFound := by
    decide +kernel
  have same : ∀ p ∈ paths, SameFile t u p := by
    refine List.forall_mem_cons.mpr ⟨.texts left right (by decide +kernel), ?_⟩
    exact List.forall_mem_singleton.mpr (.missing missing.1 missing.2)
  have found : duplicates t paths = .ok [⟨".env", "A", 1, 3, "A=secret"⟩] ∧
      duplicates u paths = .ok [⟨".env", "A", 1, 3, " A=\"\" # more"⟩] := by decide +kernel
  have failed := (loadAll_eq_duplicates_iff found.1).mpr ⟨rfl, List.cons_ne_nil _ _⟩
  have failed' := (loadAll_eq_duplicates_iff found.2).mpr ⟨rfl, List.cons_ne_nil _ _⟩
  exact ⟨same, _, _, by decide, failed, failed',
    (duplicates_reveal_no_values same).2 _ _ failed failed'⟩

end LayeredConfig.EnvFile
