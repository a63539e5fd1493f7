import LayeredConfig.Proofs.FileTree.Growth

/-! Files that are written where there was none. Written once, they are read ever after; and what
could not be written cannot be written later. All this goes on below a base that leads to a folder,
by whatever way. -/
namespace LayeredConfig.FileTree

/-- There is no file at a path to be read. -/
def Lacks (t : FileTree) (path : String) : Prop :=
  t.read path = .error .notFound ∨ t.read path = .error .notFolder

/-- Nothing can be read at a path, and where there is no file none can be written. -/
structure Shut (t : FileTree) (path : String) : Prop where
  unread : ∃ e, t.read path = .error e
  unwritten : t.Lacks path → ∀ content, ∃ e, t.writeDeep path content = (some e, t)

/-- A path is shut by any other fault than that there is no file. -/
theorem shut_of_fault {t : FileTree} {path : String} {e : IoFault} (hr : t.read path = .error e)
    (h : ¬ t.Lacks path) : t.Shut path :=
  ⟨⟨e, hr⟩, fun lacks => absurd lacks h⟩

private theorem not_lacks_of_fault {t : FileTree} {path : String} {e : IoFault}
    (hr : t.read path = .error e)
    (h₁ : e ≠ .notFound) (h₂ : e ≠ .notFolder) : ¬ t.Lacks path := by
  rw [Lacks, hr]
  simp [h₁, h₂]

/-! A file is read as it was written. -/

section Written

variable {t u : FileTree} {path : String} {place target names : List String} {content : Datum}

/-- Folders stay where a file is put, unless it takes the place of one. -/
theorem at?_put_file (content : Datum) (free : t.at? target ≠ some .folder)
    (h : t.at? place = some .folder) :
    (t.put target (.file content)).at? place = some .folder := by
  have other : place ≠ target := fun e => free (e ▸ h)
  unfold at? at h ⊢
  split
  · rfl
  · next start =>
    rw [if_neg start] at h
    exact (if_neg other).trans h

private theorem Step.put_file {name : String} {next : List String}
    (free : t.at? target ≠ some .folder)
    (step : t.Step place name next) (h : t.at? next = some .folder) :
    (t.put target (.file content)).Step place name next := by
  have folder := at?_put_file content free step.folder
  cases step with
  | idle _ idle => exact .idle folder idle
  | up _ => exact .up folder
  | down _ proper down size _ =>
    have there := at?_put_file content free h
    rw [at?_snoc] at there
    exact .down folder proper down size there

/-- A walk to a folder goes the same way after a file was put. -/
theorem walk_put_file {end' : List String} (free : t.at? target ≠ some .folder)
    (hw : t.walk place names = .ok end') (h : t.at? end' = some .folder) :
    (t.put target (.file content)).walk place names = .ok end' := by
  induction names generalizing place with
  | nil => exact hw
  | cons n r ih =>
    obtain ⟨next, step, rest⟩ := walk_cons_eq_ok_iff.mp hw
    exact walk_cons_eq_ok_iff.mpr ⟨next, step.put_file free (at?_of_walk rest h), ih rest⟩

/-- A path whose last name can be given to a file in a folder at `place`. -/
structure Admits (t : FileTree) (path : String) (front : List String) (last : String)
    (place : List String) : Prop where
  valid : checkPath path = .ok ()
  names_eq : FileTree.names path = front ++ [last]
  walk_eq : t.walk [] front = .ok place
  folder : t.at? place = some .folder
  proper : ¬ (last = "" ∨ last = "." ∨ last = "..")
  size : ¬ last.utf8ByteSize > maxName
  free : t.at? (place ++ [last]) ≠ some .folder

/-- A file that is written is put where the path admits it. -/
theorem write_cases (h : t.write path content = .ok u) :
    ∃ front last place, t.Admits path front last place ∧
      u = t.put (place ++ [last]) (.file content) := by
  obtain ⟨front, last, hn⟩ : ∃ front last, FileTree.names path = front ++ [last] :=
    ⟨_, _, (List.dropLast_append_getLast (names_ne_nil path)).symm⟩
  cases hc : checkPath path with
  | error e => simp [write, hc, bind, Except.bind] at h
  | ok _ =>
    cases hw : t.walk [] front with
    | error e => simp [write, hc, hn, hw, bind, Except.bind] at h
    | ok place =>
      simp only [write, hc, hn, hw, bind, Except.bind, List.dropLast_concat, List.getLast?_concat,
        Option.getD_some] at h
      split at h
      · cases h
      · next folder =>
        split at h
        · cases h
        · next proper =>
          split at h
          · cases h
          · next size =>
            split at h
            · cases h
            · next free =>
              cases h
              exact ⟨front, last, place,
                ⟨hc, hn, hw, Decidable.not_not.mp folder, proper, size, free⟩, rfl⟩

private theorem Admits.walk_put {front : List String} {last : String}
    (h : t.Admits path front last place) :
    (t.put (place ++ [last]) (.file content)).walk [] (FileTree.names path) =
      .ok (place ++ [last]) := by
  have proper : isIdle last = false := by
    have proper := h.proper
    simp_all [isIdle]
  have down : last ≠ ".." := fun e => h.proper (.inr (.inr e))
  rw [h.names_eq, walk_append, walk_put_file h.free h.walk_eq h.folder]
  exact walk_cons_eq_ok_iff.mpr
    ⟨_, .down (at?_put_file content h.free h.folder) proper down h.size (if_pos rfl), rfl⟩

private theorem read_write {s : String} (h : t.write path (.text s) = .ok u) :
    u.read path = .ok s := by
  obtain ⟨front, last, place, admits, rfl⟩ := write_cases h
  have there : (t.put (place ++ [last]) (.file (.text s))).at? (place ++ [last]) =
      some (.file (.text s)) := by
    rw [at?_snoc]
    exact if_pos rfl
  exact read_of_reached admits.valid admits.walk_put there

theorem read_writeDeep {s : String} (h : t.writeDeep path (.text s) = (none, u)) :
    u.read path = .ok s := by
  rw [writeDeep] at h
  split at h
  · cases h
  · split at h
    · next w hw =>
      cases h
      exact read_write hw
    · cases h

end Written

namespace LeadsTo

variable {t u : FileTree} {path last : String} {base front place : List String} {content : Datum}

/-- A path to a place in a folder is walked up to its last name. -/
theorem walk_eq (p : LeadsTo path base front last) (o : t.Opens (base ++ front) place) :
    t.walk [] (names path) =
      if last.utf8ByteSize > maxName then .error .nameTooLong
      else if (t.node? (place ++ [last])).isNone then .error .notFound
      else .ok (place ++ [last]) := by
  rw [p.names_eq, walk_append, o.walk_eq]
  exact walk_proper o.stands p.proper p.down_last

private theorem read_eq (p : LeadsTo path base front last) (hc : checkPath path = .ok ())
    (o : t.Opens (base ++ front) place) :
    t.read path =
      if last.utf8ByteSize > maxName then .error .nameTooLong
      else match t.node? (place ++ [last]) with
        | some x => readNode x
        | none => .error .notFound := by
  have hw := p.walk_eq o
  split at hw
  · rw [read_of_lost hc hw, if_pos ‹_›]
  · rw [if_neg ‹_›]
    cases hn : t.node? (place ++ [last]) with
    | none =>
      rw [hn] at hw
      exact read_of_lost hc hw
    | some x =>
      rw [hn] at hw
      exact read_of_reached hc hw (by rw [at?_snoc, hn])

private theorem write_eq (p : LeadsTo path base front last) (hc : checkPath path = .ok ())
    (o : t.Opens (base ++ front) place) :
    t.write path content =
      if last.utf8ByteSize > maxName then .error .nameTooLong
      else if t.node? (place ++ [last]) = some .folder then .error .isFolder
      else .ok (t.put (place ++ [last]) (.file content)) := by
  have named : ¬ (last = "" ∨ last = "." ∨ last = "..") := by
    have ⟨h₁, h₂⟩ : last ≠ "" ∧ last ≠ "." := by simpa [isIdle] using p.proper
    simp [h₁, h₂, p.down_last]
  have walked := o.walk_eq
  simp [write, hc, p.names_eq, walked, o.stands.at?_eq, named, bind, Except.bind]

/-- From an opened base only the folders below it are made. -/
theorem writeDeep_eq (p : LeadsTo path base front last) (hc : checkPath path = .ok ())
    (o : t.Opens base place) (content : Datum) :
    t.writeDeep path content =
      match t.makeFolders place (active front) with
      | (some e, u) => (some e, u)
      | (none, u) =>
        match u.write path content with
        | .ok v => (none, v)
        | .error e => (some e, u) := by
  rw [← makeFolders_walked (active front) o.stands.at?_eq o.walk_eq, ← active_append,
    ← p.makeParent hc t]
  rfl

/-- A path that is read leads through folders. -/
theorem opens_of_read (p : LeadsTo path base front last) {s : String} (h : t.read path = .ok s) :
    ∃ q, t.Opens (base ++ front) q := by
  obtain ⟨place, hw⟩ := walk_of_read h
  rw [p.names_eq] at hw
  obtain ⟨q, hf, hl⟩ := walk_append_eq_ok_iff.mp hw
  obtain ⟨y, hy⟩ := walk_stands .start hf
  obtain ⟨_, step, -⟩ := walk_cons_eq_ok_iff.mp hl
  obtain rfl : y = .folder := Option.some.inj (hy.at?_eq.symm.trans step.folder)
  exact ⟨q, hf, hy⟩

/-- The folders on the way to a file that is read need not be made. -/
theorem makeFolders_of_read (p : LeadsTo path base front last) (o : t.Opens base place) {s : String}
    (h : t.read path = .ok s) : t.makeFolders place (active front) = (none, t) := by
  obtain ⟨q, hq⟩ := p.opens_of_read h
  have walked : t.walk place front = .ok q := by
    have whole := hq.walk_eq
    rwa [walk_append, o.walk_eq] at whole
  have made := makeFolders_walked [] hq.stands.at?_eq walked
  rwa [List.append_nil] at made

/-- A path is one that a tree can hold where nothing is wrong but that there is no file. -/
theorem checkPath_of_lacks (p : LeadsTo path base front last) (h : t.Lacks path) :
    checkPath path = .ok () := by
  cases hc : checkPath path with
  | ok _ => rfl
  | error e =>
    have some : path ≠ "" := by
      rintro rfl
      have single : [""] = base ++ front ++ [last] := p.names_eq
      have he : "" = last := by simpa using congrArg List.getLast? single
      have proper := p.proper
      rw [← he] at proper
      cases proper
    rw [Lacks, read_of_refused hc] at h
    unfold checkPath at hc
    repeat' split at hc
    all_goals cases hc
    all_goals simp_all

/-- Where there is no file, nothing is in the place of one. -/
theorem free_of_lacks (p : LeadsTo path base front last) (h : t.Lacks path)
    (o : t.Opens base place) (sizes : ∀ n ∈ active front, n.utf8ByteSize ≤ maxName)
    (size : ¬ last.utf8ByteSize > maxName) :
    ∀ x, ¬ t.Stands (place ++ active front ++ [last]) x := by
  intro x hx
  obtain ⟨folder, node⟩ := stands_snoc_iff.mp hx
  rw [Lacks, p.read_eq (p.checkPath_of_lacks h) (o.below p.down_front sizes folder), if_neg size,
    node] at h
  rcases x with (_ | _) | _ <;> simp [readNode] at h

/-- A file that is written where there was none is only added. -/
theorem grows_writeDeep (p : LeadsTo path base front last) (o : t.Opens base place)
    (h : t.Lacks path) (hw : t.writeDeep path content = (none, u)) : t.Grows u := by
  have hc := p.checkPath_of_lacks h
  rw [p.writeDeep_eq hc o] at hw
  split at hw
  · cases hw
  · next m hm =>
    obtain ⟨g, stands, sizes⟩ := makeFolders_done p.down_active o.stands hm
    rw [p.write_eq hc ((o.grows g).below p.down_front sizes stands)] at hw
    by_cases size : last.utf8ByteSize > maxName
    · simp [size] at hw
    · rw [if_neg size] at hw
      split at hw
      · next v hv =>
        obtain rfl : v = u := congrArg Prod.snd hw
        split at hv
        · cases hv
        · cases hv
          exact g.put (p.free_of_lacks h o sizes size)
      · cases hw

/-- A file that could not be written where there was none cannot be written later. -/
theorem writeDeep_failed (p : LeadsTo path base front last) (o : t.Opens base place) {e : IoFault}
    (h : t.Lacks path) (hw : t.writeDeep path content = (some e, u)) :
    t.Grows u ∧ ∀ w, u.Grows w → w.Shut path := by
  have hc := p.checkPath_of_lacks h
  rw [p.writeDeep_eq hc o] at hw
  split at hw
  · next e' m hm =>
    cases hw
    obtain ⟨g, again⟩ := makeFolders_failed p.down_active o.stands hm
    refine ⟨g, fun w hw => ⟨?_, fun lacks content => ?_⟩⟩
    · -- A file that is read stands in a folder, and the folder could be made.
      cases hr : w.read path with
      | error e => exact ⟨e, rfl⟩
      | ok s =>
        have made : w.makeFolders place (active front) = (none, w) :=
          p.makeFolders_of_read (o.grows (g.trans hw)) hr
        rw [again w hw] at made
        cases made
    · refine ⟨e, ?_⟩
      rw [p.writeDeep_eq hc (o.grows (g.trans hw)), again w hw]
  · next m hm =>
    obtain ⟨g, stands, sizes⟩ := makeFolders_done p.down_active o.stands hm
    have opened := (o.grows g).below p.down_front sizes stands
    rw [p.write_eq hc opened] at hw
    split at hw
    · cases hw
    · next e' he =>
      cases hw
      refine ⟨g, fun w hw => ?_⟩
      have hr := p.read_eq hc (opened.grows hw)
      split at he
      · next size =>
        rw [if_pos size] at hr
        exact shut_of_fault hr (not_lacks_of_fault hr nofun nofun)
      · next size =>
        split at he
        · next there =>
          have folder : u.Stands (place ++ active front ++ [last]) .folder := .within stands there
          rw [if_neg size, (stands_snoc_iff.mp (hw _ _ folder)).2] at hr
          exact shut_of_fault hr (not_lacks_of_fault hr nofun nofun)
        · cases he

end LeadsTo

end LayeredConfig.FileTree
