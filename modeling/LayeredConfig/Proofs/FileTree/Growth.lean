import LayeredConfig.Proofs.FileTree.Names

/-! Trees that only grow. What can be read stays as it is, and so does a place for a file that
cannot be written. -/
namespace LayeredConfig.FileTree

/-- A node that can be walked to: all on the way to it are folders. -/
inductive Stands (t : FileTree) : List String → Node → Prop
  | start : Stands t [] .folder
  | within {place : List String} {name : String} {x : Node} (folder : Stands t place .folder)
      (node : t.node? (place ++ [name]) = some x) : Stands t (place ++ [name]) x

/-- All that can be walked to in one tree is the same in the other. -/
def Grows (t u : FileTree) : Prop := ∀ place x, t.Stands place x → u.Stands place x

theorem Grows.refl (t : FileTree) : t.Grows t := fun _ _ h => h

theorem Grows.trans {t u w : FileTree} (h : t.Grows u) (g : u.Grows w) : t.Grows w :=
  fun place x hx => g place x (h place x hx)

variable {t u w : FileTree} {place names : List String} {name : String} {x y : Node}

@[simp] theorem at?_snoc (t : FileTree) (place : List String) (name : String) :
    t.at? (place ++ [name]) = t.node? (place ++ [name]) := by
  rw [at?, if_neg (by simp)]

theorem Stands.at?_eq (h : t.Stands place x) : t.at? place = some x := by
  cases h with
  | start => rfl
  | within _ node => rw [at?_snoc, node]

theorem stands_snoc_iff :
    t.Stands (place ++ [name]) x ↔ t.Stands place .folder ∧ t.node? (place ++ [name]) = some x := by
  refine ⟨fun h => ?_, fun ⟨folder, node⟩ => .within folder node⟩
  have node : t.node? (place ++ [name]) = some x := by rw [← at?_snoc, h.at?_eq]
  refine ⟨?_, node⟩
  generalize hp : place ++ [name] = whole at h
  cases h with
  | start => simp at hp
  | within folder _ =>
    obtain ⟨rfl, -⟩ := List.append_inj' hp rfl
    exact folder

theorem Stands.of_prefix {whole : List String} (h : t.Stands whole x) (hp : place <+: whole) :
    ∃ y, t.Stands place y := by
  induction h with
  | start =>
    obtain rfl := List.prefix_nil.mp hp
    exact ⟨_, .start⟩
  | within folder node ih =>
    rcases List.prefix_concat_iff.mp hp with rfl | hp
    · exact ⟨_, .within folder node⟩
    · exact ih hp

/-- A node that is put somewhere else is not in the way. -/
theorem Stands.put {whole : List String} (h : t.Stands whole x) (hp : ¬ place <+: whole) :
    (t.put place y).Stands whole x := by
  induction h with
  | start => exact .start
  | @within p n x folder node ih =>
    have other : p ++ [n] ≠ place := fun e => hp (e ▸ List.prefix_refl _)
    refine .within (ih fun h => hp (h.trans (List.prefix_append _ _))) ?_
    rw [FileTree.put]
    exact (if_neg other).trans node

/-- Where nothing stands something can be put. -/
theorem Grows.put (h : t.Grows u) (free : ∀ x, ¬ t.Stands place x) : t.Grows (u.put place y) := by
  intro whole x hx
  refine (h whole x hx).put fun hp => ?_
  obtain ⟨z, hz⟩ := hx.of_prefix hp
  exact free z hz

/-- The way to a folder leads through folders. -/
theorem Stands.folder_before {rest : List String} (h : t.Stands (place ++ rest) .folder) :
    t.Stands place .folder := by
  induction rest using List.reverseRecOn with
  | nil => rwa [List.append_nil] at h
  | append_singleton r n ih =>
    rw [← List.append_assoc] at h
    exact ih (stands_snoc_iff.mp h).1

/-- What is above a folder is a folder. -/
theorem Stands.above (h : t.Stands place .folder) : t.Stands place.dropLast .folder := by
  rw [List.dropLast_eq_take]
  rw [← List.take_append_drop (place.length - 1) place] at h
  exact h.folder_before

/-! Walking. -/

theorem down_cons {rest : List String} (h : ".." ∉ name :: rest) : name ≠ ".." ∧ ".." ∉ rest := by
  rw [List.mem_cons, not_or] at h
  exact ⟨Ne.symm h.1, h.2⟩

theorem walk_append (t : FileTree) (place a b : List String) :
    t.walk place (a ++ b) = t.walk place a >>= fun q => t.walk q b := by
  induction a generalizing place with
  | nil => rfl
  | cons n r ih =>
    rw [List.cons_append, walk, walk]
    repeat' split
    all_goals first | rfl | exact ih _

theorem walk_append_eq_ok_iff {a b end' : List String} :
    t.walk place (a ++ b) = .ok end' ↔
      ∃ mid, t.walk place a = .ok mid ∧ t.walk mid b = .ok end' := by
  rw [walk_append]
  cases t.walk place a with
  | error e => simp [bind, Except.bind]
  | ok mid => simp [bind, Except.bind]

theorem active_cons_idle {rest : List String} (h : isIdle name = true) :
    active (name :: rest) = active rest :=
  List.filter_cons_of_neg (by simp [h])

theorem active_cons_proper {rest : List String} (h : isIdle name = false) :
    active (name :: rest) = name :: active rest :=
  List.filter_cons_of_pos (by simp [h])

private theorem walk_idle {rest : List String} (h : t.Stands place .folder)
    (idle : isIdle name = true) :
    t.walk place (name :: rest) = t.walk place rest := by
  rw [walk, h.at?_eq, if_neg (by simp), if_pos idle]

/-- One step down from a folder. -/
theorem walk_proper {rest : List String} (h : t.Stands place .folder) (proper : isIdle name = false)
    (down : name ≠ "..") :
    t.walk place (name :: rest) =
      if name.utf8ByteSize > maxName then .error .nameTooLong
      else if (t.node? (place ++ [name])).isNone then .error .notFound
      else t.walk (place ++ [name]) rest := by
  rw [walk, h.at?_eq, if_neg (by simp), if_neg (by simp [proper]), if_neg down, at?_snoc]

/-- One step up from a folder. -/
theorem walk_up {rest : List String} (h : t.Stands place .folder) :
    t.walk place (".." :: rest) = t.walk place.dropLast rest := by
  rw [walk, h.at?_eq, if_neg (by simp), if_neg (by decide), if_pos rfl]

private theorem walk_file {rest : List String} {content : Datum}
    (h : t.Stands place (.file content)) :
    t.walk place (name :: rest) = .error .notFolder := by
  rw [walk, h.at?_eq, if_pos (by simp)]

/-- `t.Step place name next`: in the tree `t`, a name leads from one place to the next. -/
inductive Step (t : FileTree) (place : List String) : String → List String → Prop where
  | idle {name : String} (folder : t.at? place = some .folder) (idle : isIdle name = true) :
    Step t place name place
  | up (folder : t.at? place = some .folder) : Step t place ".." place.dropLast
  | down {name : String} {x : Node} (folder : t.at? place = some .folder)
    (proper : isIdle name = false) (down : name ≠ "..") (size : ¬ name.utf8ByteSize > maxName)
    (there : t.node? (place ++ [name]) = some x) : Step t place name (place ++ [name])

/-- A walk that succeeds does so step by step. -/
theorem walk_cons_eq_ok_iff {rest end' : List String} :
    t.walk place (name :: rest) = .ok end' ↔
      ∃ next, t.Step place name next ∧ t.walk next rest = .ok end' := by
  constructor
  · intro hw
    rw [walk] at hw
    split at hw
    · cases hw
    · next folder =>
      have folder : t.at? place = some .folder := Decidable.not_not.mp folder
      split at hw
      · next idle => exact ⟨place, .idle folder idle, hw⟩
      · next proper =>
        split at hw
        · next up =>
          subst up
          exact ⟨_, .up folder, hw⟩
        · next down =>
          split at hw
          · cases hw
          · next size =>
            rw [at?_snoc] at hw
            cases there : t.node? (place ++ [name]) with
            | none => simp [there] at hw
            | some x =>
              rw [there] at hw
              exact ⟨_, .down folder (by simpa using proper) down size there, hw⟩
  · rintro ⟨next, step, hw⟩
    cases step with
    | idle folder idle => rwa [walk, folder, if_neg (by simp), if_pos idle]
    | up folder => rwa [walk, folder, if_neg (by simp), if_neg (by decide), if_pos rfl]
    | down folder proper down size there =>
      rwa [walk, folder, if_neg (by simp), if_neg (by simp [proper]), if_neg down, if_neg size,
        at?_snoc, there, if_neg (by simp)]

theorem Step.folder {next : List String} (h : t.Step place name next) :
    t.at? place = some .folder := by
  cases h with
  | idle folder _ => exact folder
  | up folder => exact folder
  | down folder _ _ _ _ => exact folder

theorem Step.stands {next : List String} (h : t.Step place name next) (hx : t.Stands place x) :
    ∃ y, t.Stands next y := by
  obtain rfl : x = .folder := Option.some.inj (hx.at?_eq.symm.trans h.folder)
  cases h with
  | idle _ _ => exact ⟨_, hx⟩
  | up _ => exact ⟨_, hx.above⟩
  | down _ _ _ _ there => exact ⟨_, .within hx there⟩

/-- A walk that succeeds leads to what can be walked to. -/
theorem walk_stands {end' : List String} (h : t.Stands place x)
    (hw : t.walk place names = .ok end') : ∃ y, t.Stands end' y := by
  induction names generalizing place x with
  | nil =>
    obtain rfl : place = end' := Except.ok.inj hw
    exact ⟨x, h⟩
  | cons n r ih =>
    obtain ⟨next, step, rest⟩ := walk_cons_eq_ok_iff.mp hw
    obtain ⟨y, hy⟩ := step.stands h
    exact ih hy rest

/-- A walk to a folder starts from one. -/
theorem at?_of_walk {end' : List String} (hw : t.walk place names = .ok end')
    (h : t.at? end' = some .folder) : t.at? place = some .folder := by
  cases names with
  | nil =>
    obtain rfl : place = end' := Except.ok.inj hw
    exact h
  | cons n r =>
    obtain ⟨next, step, -⟩ := walk_cons_eq_ok_iff.mp hw
    exact step.folder

/-- Folders can be walked through. -/
theorem walk_folders (down : ".." ∉ names) (sizes : ∀ n ∈ active names, n.utf8ByteSize ≤ maxName)
    (h : t.Stands (place ++ active names) .folder) :
    t.walk place names = .ok (place ++ active names) := by
  induction names generalizing place with
  | nil => rw [walk, active, List.filter_nil, List.append_nil]
  | cons n r ih =>
    obtain ⟨notUp, downRest⟩ := down_cons down
    cases hi : isIdle n with
    | true =>
      rw [active_cons_idle hi] at sizes h ⊢
      rw [walk_idle h.folder_before hi]
      exact ih downRest sizes h
    | false =>
      rw [active_cons_proper hi] at sizes h ⊢
      rw [List.append_cons] at h ⊢
      have step : t.Stands (place ++ [n]) .folder := h.folder_before
      have size : ¬ n.utf8ByteSize > maxName := Nat.not_lt.mpr (sizes n List.mem_cons_self)
      rw [walk_proper step.folder_before hi notUp, if_neg size, (stands_snoc_iff.mp step).2,
        if_neg (by simp)]
      exact ih downRest (fun m hm => sizes m (List.mem_cons_of_mem n hm)) h

/-- A walk goes the same way in a grown tree, unless something was not found. -/
theorem walk_grows (g : t.Grows u) (h : t.Stands place x)
    (found : t.walk place names ≠ .error .notFound) : u.walk place names = t.walk place names := by
  induction names generalizing place x with
  | nil => rfl
  | cons n r ih =>
    cases x with
    | file content => rw [walk_file h, walk_file (g _ _ h)]
    | folder =>
      by_cases up : n = ".."
      · rw [up, walk_up h] at found ⊢
        rw [walk_up (g _ _ h)]
        exact ih h.above found
      · cases hi : isIdle n with
        | true =>
          rw [walk_idle h hi] at found ⊢
          rw [walk_idle (g _ _ h) hi]
          exact ih h found
        | false =>
          rw [walk_proper h hi up] at found ⊢
          rw [walk_proper (g _ _ h) hi up]
          split
          · rfl
          · next size =>
            rw [if_neg size] at found
            cases hn : t.node? (place ++ [n]) with
            | none => simp [hn] at found
            | some y =>
              rw [hn] at found
              have stands : t.Stands (place ++ [n]) y := .within h hn
              rw [(stands_snoc_iff.mp (g _ _ stands)).2]
              exact ih stands found

/-- Names that lead to a folder. -/
structure Opens (t : FileTree) (base place : List String) : Prop where
  walk_eq : t.walk [] base = .ok place
  stands : t.Stands place .folder

theorem opens_start (t : FileTree) : t.Opens [] [] := ⟨rfl, .start⟩

theorem Opens.grows {base : List String} (h : t.Opens base place) (g : t.Grows u) :
    u.Opens base place := by
  refine ⟨?_, g _ _ h.stands⟩
  rw [walk_grows g .start (by rw [h.walk_eq]; nofun), h.walk_eq]

/-- Folders below an opened base are opened with it. -/
theorem Opens.below {base : List String} (h : t.Opens base place) (down : ".." ∉ names)
    (sizes : ∀ n ∈ active names, n.utf8ByteSize ≤ maxName)
    (folder : t.Stands (place ++ active names) .folder) :
    t.Opens (base ++ names) (place ++ active names) := by
  refine ⟨?_, folder⟩
  rw [walk_append, h.walk_eq]
  exact walk_folders down sizes folder

/-- An opened base was opened all the way. -/
theorem Opens.before {base last : List String} (h : t.Opens (base ++ last) place) :
    ∃ q, t.Opens base q := by
  obtain ⟨q, hb, hl⟩ := walk_append_eq_ok_iff.mp h.walk_eq
  obtain ⟨y, hy⟩ := walk_stands .start hb
  have folder : t.at? q = some .folder := at?_of_walk hl h.stands.at?_eq
  obtain rfl : y = .folder := Option.some.inj (hy.at?_eq.symm.trans folder)
  exact ⟨q, hb, hy⟩

/-! Reading. -/

def readNode : Node → Except IoFault String
  | .file (.text s) => .ok s
  | .file (.raw _) => .error .notText
  | .folder => .error .isFolder

variable {path : String}

theorem read_of_refused {e : IoFault} (h : checkPath path = .error e) : t.read path = .error e := by
  simp [read, readData, h, bind, Except.bind]

theorem read_of_lost {e : IoFault} (h : checkPath path = .ok ())
    (hw : t.walk [] (FileTree.names path) = .error e) : t.read path = .error e := by
  simp [read, readData, h, hw, bind, Except.bind]

theorem read_of_reached (h : checkPath path = .ok ())
    (hw : t.walk [] (FileTree.names path) = .ok place) (hx : t.at? place = some x) :
    t.read path = readNode x := by
  rcases x with (_ | _) | _ <;> simp [read, readData, h, hw, hx, bind, Except.bind, readNode]

theorem walk_of_read {s : String} (h : t.read path = .ok s) :
    ∃ place, t.walk [] (FileTree.names path) = .ok place := by
  cases hc : checkPath path with
  | error e =>
    rw [read_of_refused hc] at h
    cases h
  | ok _ =>
    cases hw : t.walk [] (FileTree.names path) with
    | error e =>
      rw [read_of_lost hc hw] at h
      cases h
    | ok place => exact ⟨place, rfl⟩

/-- What is read stays the same in a grown tree, unless nothing was found. -/
theorem read_grows (g : t.Grows u) (found : t.read path ≠ .error .notFound) :
    u.read path = t.read path := by
  cases hc : checkPath path with
  | error e => rw [read_of_refused hc, read_of_refused hc]
  | ok _ =>
    cases hw : t.walk [] (FileTree.names path) with
    | error e =>
      rw [read_of_lost hc hw] at found
      have same := walk_grows g .start (by rwa [hw, ne_eq, Except.error.injEq] at *)
      rw [read_of_lost hc hw, read_of_lost hc (same.trans hw)]
    | ok place =>
      have same := walk_grows g .start (by rw [hw]; nofun)
      obtain ⟨y, hy⟩ := walk_stands .start hw
      rw [read_of_reached hc hw hy.at?_eq,
        read_of_reached hc (same.trans hw) (g place y hy).at?_eq]

theorem read_of_grows (g : t.Grows u) {s : String} (h : t.read path = .ok s) :
    u.read path = .ok s :=
  (read_grows g (by rw [h]; nofun)).trans h

/-! Making folders. -/

theorem makeFolders_cons {rest : List String} (t : FileTree) (place : List String)
    (down : name ≠ "..") :
    t.makeFolders place (name :: rest) =
      if name.utf8ByteSize > maxName then (some .nameTooLong, t)
      else match t.node? (place ++ [name]) with
        | some .folder => t.makeFolders (place ++ [name]) rest
        | some (.file _) => (some (if rest = [] then .alreadyThere else .notFolder), t)
        | none => (t.put (place ++ [name]) .folder).makeFolders (place ++ [name]) rest := by
  rw [← at?_snoc]
  exact if_neg down

private theorem stands_put (h : t.Stands place .folder) :
    (t.put (place ++ [name]) x).Stands (place ++ [name]) x := by
  refine .within (h.put ?_) (if_pos rfl)
  intro hp
  have longer := hp.length_le
  rw [List.length_append, List.length_singleton] at longer
  omega

private theorem grows_put (free : t.node? (place ++ [name]) = none) :
    t.Grows (t.put (place ++ [name]) x) := by
  refine (Grows.refl t).put fun y hy => ?_
  rw [(stands_snoc_iff.mp hy).2] at free
  cases free

/-- Folders that were walked through need not be made. -/
theorem makeFolders_walked {end' : List String} (rest : List String)
    (h : t.at? end' = some .folder) (hw : t.walk place names = .ok end') :
    t.makeFolders place (active names ++ rest) = t.makeFolders end' rest := by
  induction names generalizing place with
  | nil =>
    obtain rfl : place = end' := Except.ok.inj hw
    rfl
  | cons n r ih =>
    obtain ⟨next, step, hr⟩ := walk_cons_eq_ok_iff.mp hw
    rw [← ih hr]
    cases step with
    | idle _ idle => rw [active_cons_idle idle]
    | up _ =>
      rw [active_cons_proper (by decide), List.cons_append, makeFolders, if_pos rfl]
    | down _ proper down size _ =>
      have there : t.node? (place ++ [n]) = some .folder := by
        rw [← at?_snoc]
        exact at?_of_walk hr h
      rw [active_cons_proper proper, List.cons_append, makeFolders_cons t place down, if_neg size,
        there]

/-- Once folders are made they stand. -/
theorem makeFolders_done (down : ".." ∉ names) (h : t.Stands place .folder)
    (hm : t.makeFolders place names = (none, u)) :
    t.Grows u ∧ u.Stands (place ++ names) .folder ∧ ∀ n ∈ names, n.utf8ByteSize ≤ maxName := by
  induction names generalizing t place with
  | nil =>
    obtain rfl : t = u := congrArg Prod.snd hm
    exact ⟨.refl t, by rwa [List.append_nil], by simp⟩
  | cons n r ih =>
    obtain ⟨notUp, downRest⟩ := down_cons down
    rw [makeFolders_cons t place notUp] at hm
    rw [List.append_cons]
    split at hm
    · cases hm
    · next size =>
      split at hm
      · next there =>
        obtain ⟨g, stands, sizes⟩ := ih downRest (.within h there) hm
        exact ⟨g, stands, List.forall_mem_cons.mpr ⟨Nat.not_lt.mp size, sizes⟩⟩
      · cases hm
      · next free =>
        obtain ⟨g, stands, sizes⟩ := ih downRest (stands_put h) hm
        exact ⟨(grows_put free).trans g, stands,
          List.forall_mem_cons.mpr ⟨Nat.not_lt.mp size, sizes⟩⟩

/-- Where folders cannot be made, trying again changes nothing, however the tree has grown. -/
theorem makeFolders_failed {e : IoFault} (down : ".." ∉ names) (h : t.Stands place .folder)
    (hm : t.makeFolders place names = (some e, u)) :
    t.Grows u ∧ ∀ w, u.Grows w → w.makeFolders place names = (some e, w) := by
  induction names generalizing t place with
  | nil => cases hm
  | cons n r ih =>
    obtain ⟨notUp, downRest⟩ := down_cons down
    rw [makeFolders_cons t place notUp] at hm
    -- A folder below which the rest fails stands in all grown trees.
    have below {t' : FileTree} (h' : t'.Stands (place ++ [n]) .folder)
        (size : ¬ n.utf8ByteSize > maxName)
        (hm : t'.makeFolders (place ++ [n]) r = (some e, u)) :
        t'.Grows u ∧ ∀ w, u.Grows w → w.makeFolders place (n :: r) = (some e, w) := by
      obtain ⟨g, again⟩ := ih downRest h' hm
      refine ⟨g, fun w hw => ?_⟩
      rw [makeFolders_cons w place notUp, if_neg size,
        (stands_snoc_iff.mp (hw _ _ (g _ _ h'))).2]
      exact again w hw
    split at hm
    · next size =>
      cases hm
      refine ⟨.refl _, fun w _ => ?_⟩
      rw [makeFolders_cons w place notUp, if_pos size]
    · next size =>
      split at hm
      · next there => exact below (.within h there) size hm
      · next content there =>
        have stands : t.Stands (place ++ [n]) (.file content) := .within h there
        cases hm
        refine ⟨.refl _, fun w hw => ?_⟩
        rw [makeFolders_cons w place notUp, if_neg size, (stands_snoc_iff.mp (hw _ _ stands)).2]
      · next free =>
        obtain ⟨g, again⟩ := below (stands_put h) size hm
        exact ⟨(grows_put free).trans g, again⟩

end LayeredConfig.FileTree
