import LayeredConfig.Proofs.FileTree.Records

/-! What is added to a tree when a file is written with the folders it needs: folders on the way to
one place, a file in that place, and nothing else. -/
namespace LayeredConfig.FileTree

/-- Between two trees folders came up on the way to a place and a file in the place, and everything
else is the same. -/
def AddsTo (t u : FileTree) (target : List String) : Prop :=
  ∀ p, u.node? p = t.node? p ∨ p <+: target ∧ u.node? p = some .folder ∨
    p = target ∧ ∃ content, u.node? p = some (.file content)

variable {t u w : FileTree} {target place names front : List String} {path last : String}
  {content : Datum}

theorem AddsTo.refl (t : FileTree) (target : List String) : t.AddsTo t target := fun _ => .inl rfl

theorem AddsTo.trans (h : t.AddsTo u target) (g : u.AddsTo w target) : t.AddsTo w target := by
  intro p
  rcases g p with same | added
  · rw [same]
    exact h p
  · exact .inr added

private theorem addsTo_folder (h : place <+: target) : t.AddsTo (t.put place .folder) target := by
  intro p
  by_cases hp : p = place
  · exact .inr (.inl ⟨hp ▸ h, if_pos hp⟩)
  · exact .inl (if_neg hp)

private theorem addsTo_file (t : FileTree) (target : List String) (content : Datum) :
    t.AddsTo (t.put target (.file content)) target := by
  intro p
  by_cases hp : p = target
  · exact .inr (.inr ⟨hp, content, if_pos hp⟩)
  · exact .inl (if_neg hp)

private theorem makeFolders_addsTo (down : ".." ∉ names) (h : place ++ names <+: target) :
    t.AddsTo (t.makeFolders place names).2 target := by
  induction names generalizing t place with
  | nil => exact .refl t target
  | cons n r ih =>
    obtain ⟨notUp, downRest⟩ := down_cons down
    rw [List.append_cons] at h
    rw [makeFolders_cons t place notUp]
    split
    · exact .refl t target
    · split
      · exact ih downRest h
      · exact .refl t target
      · exact (addsTo_folder ((List.prefix_append _ _).trans h)).trans (ih downRest h)

/-- A walk that never goes up leads along the names that lead somewhere. -/
theorem walk_down {end' : List String} (down : ".." ∉ names)
    (hw : t.walk place names = .ok end') : end' = place ++ active names := by
  induction names generalizing place with
  | nil =>
    obtain rfl : place = end' := Except.ok.inj hw
    rw [active, List.filter_nil, List.append_nil]
  | cons n r ih =>
    obtain ⟨notUp, downRest⟩ := down_cons down
    obtain ⟨next, step, rest⟩ := walk_cons_eq_ok_iff.mp hw
    cases step with
    | idle _ idle => rw [active_cons_idle idle, ih downRest rest]
    | up _ => exact absurd rfl notUp
    | down _ proper _ _ _ => rw [active_cons_proper proper, List.append_cons, ih downRest rest]

namespace LeadsTo

/-- The place that a path leads to from the start. -/
theorem steps_eq (p : LeadsTo path [] front last) : steps path = active front ++ [last] := by
  have single : active [last] = [last] := List.filter_cons_of_pos (by simp [p.proper])
  rw [← single, ← active_append]
  exact congrArg active p.names_eq

private theorem write_addsTo (p : LeadsTo path [] front last) (h : t.write path content = .ok u) :
    t.AddsTo u (steps path) := by
  obtain ⟨front', last', place, admits, rfl⟩ := write_cases h
  obtain ⟨rfl, single⟩ := List.append_inj' (admits.names_eq.symm.trans p.names_eq) rfl
  obtain rfl : last' = last := List.head_eq_of_cons_eq single
  have reached : place = active front' := walk_down p.down_front admits.walk_eq
  rw [p.steps_eq, reached]
  exact addsTo_file t _ content

/-- A file is written with the folders on the way to it, even if it fails in the end. -/
theorem writeDeep_addsTo (p : LeadsTo path [] front last) (hc : checkPath path = .ok ())
    (t : FileTree) (content : Datum) : t.AddsTo (t.writeDeep path content).2 (steps path) := by
  have made : t.AddsTo (t.makeFolders [] (active front)).2 (steps path) := by
    refine makeFolders_addsTo p.down_active ?_
    rw [p.steps_eq]
    exact List.prefix_append _ _
  rw [p.writeDeep_eq hc (opens_start t)]
  rcases hm : t.makeFolders [] (active front) with ⟨_ | e, u⟩
  · rw [hm] at made
    dsimp only
    cases hw : u.write path content with
    | error e => exact made
    | ok v => exact made.trans (p.write_addsTo hw)
  · rw [hm] at made
    exact made

end LeadsTo

end LayeredConfig.FileTree
