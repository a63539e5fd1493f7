import Mathlib.Data.List.DropRight
import LayeredConfig.FileTree
import LayeredConfig.Proofs.Text.Pieces

/-! The names in a path, and those in the path of its parent. -/
namespace LayeredConfig.FileTree

def active (names : List String) : List String := names.filter fun n => !isIdle n

theorem names_ne_nil (path : String) : names path ≠ [] := by
  rw [names, ne_eq, List.map_eq_nil_iff]
  exact Text.pieces_ne_nil '/' path.toList

private theorem not_slash_of_mem_names {path n : String} (h : n ∈ names path) : '/' ∉ n.toList := by
  obtain ⟨p, hp, rfl⟩ := List.mem_map.mp h
  rw [String.toList_ofList]
  exact Text.not_mem_of_mem_pieces hp

theorem names_append_slash (a b : String) : names (a ++ "/" ++ b) = names a ++ names b := by
  have split : (a ++ "/" ++ b).toList = a.toList ++ '/' :: b.toList := by simp
  rw [names, names, names, split, Text.pieces_eq_splitOn, Text.pieces_eq_splitOn,
    Text.pieces_eq_splitOn, List.splitOn_append_cons_self, List.map_append]

private theorem names_intercalate {l : List String} (hl : l ≠ []) (h : ∀ n ∈ l, '/' ∉ n.toList) :
    names ("/".intercalate l) = l := by
  have plain : ∀ p ∈ l.map String.toList, '/' ∉ p := by
    intro p hp
    obtain ⟨n, hn, rfl⟩ := List.mem_map.mp hp
    exact h n hn
  have some : l.map String.toList ≠ [] := by simpa using hl
  have slash : "/".toList = ['/'] := rfl
  rw [names, String.toList_intercalate, slash, Text.pieces_eq_splitOn,
    List.splitOn_intercalate '/' plain some, List.map_map]
  simp [Function.comp_def]

private theorem intercalate_names (path : String) : "/".intercalate (names path) = path := by
  apply String.toList_injective
  rw [String.toList_intercalate, names, List.map_map, Text.pieces_eq_splitOn]
  have slash : "/".toList = ['/'] := rfl
  simp [Function.comp_def, slash, List.intercalate_splitOn]

/-- Text in front of a path belongs to its first name. -/
theorem names_append_left {a path n : String} {rest : List String} (ha : '/' ∉ a.toList)
    (h : names path = n :: rest) : names (a ++ path) = (a ++ n) :: rest := by
  have whole : a ++ path = "/".intercalate ((a ++ n) :: rest) := by
    rw [String.intercalate_cons_append, ← h, intercalate_names]
  rw [whole]
  apply names_intercalate (List.cons_ne_nil _ _)
  intro m hm
  rcases List.mem_cons.mp hm with rfl | hm
  · have hn : '/' ∉ n.toList := not_slash_of_mem_names (h ▸ List.mem_cons_self)
    simp [ha, hn]
  · exact not_slash_of_mem_names (h ▸ List.mem_cons_of_mem _ hm)

/-- Text behind a path belongs to its last name. -/
theorem names_append_right {b path n : String} {front : List String} (hb : '/' ∉ b.toList)
    (h : names path = front ++ [n]) : names (path ++ b) = front ++ [n ++ b] := by
  have whole : path ++ b = "/".intercalate (front ++ [n ++ b]) := by
    conv => lhs; rw [← intercalate_names path, h]
    by_cases hf : front = []
    · simp [hf]
    · rw [String.intercalate_append_of_ne_nil hf (by simp),
        String.intercalate_append_of_ne_nil hf (by simp), String.intercalate_singleton,
        String.intercalate_singleton, String.append_assoc]
  rw [whole]
  apply names_intercalate (by simp)
  intro m hm
  rcases List.mem_append.mp hm with hm | hm
  · exact not_slash_of_mem_names (h ▸ List.mem_append_left _ hm)
  · have hn : '/' ∉ n.toList := not_slash_of_mem_names (h ▸ List.mem_append_right _ (by simp))
    obtain rfl := List.mem_singleton.mp hm
    simp [hb, hn]

/-- The path of a parent is that of the names in front, without idle ones at the end. -/
theorem parent_eq {path last : String} {front : List String} (h : names path = front ++ [last])
    (hl : isIdle last = false) : parent path = "/".intercalate (front.rdropWhile isIdle) := by
  rw [parent, h, List.rdropWhile]
  simp [hl]

private theorem active_rdropWhile (l : List String) : active (l.rdropWhile isIdle) = active l := by
  have skip (r : List String) : active (r.dropWhile isIdle) = active r := by
    induction r with
    | nil => rfl
    | cons n r ih =>
      rw [List.dropWhile_cons]
      split
      · next idle => rw [ih, active, active, List.filter_cons_of_neg (by simp [idle])]
      · rfl
  have flip : active (l.rdropWhile isIdle) = (active (l.reverse.dropWhile isIdle)).reverse := by
    rw [active, active, List.rdropWhile, List.filter_reverse]
  rw [flip, skip, active, active, List.filter_reverse, List.reverse_reverse]

theorem active_append (a b : List String) : active (a ++ b) = active a ++ active b :=
  List.filter_append a b

/-- A path that leads downwards from where the names in `base` lead, and at last to a name for a
file. -/
structure LeadsTo (path : String) (base front : List String) (last : String) : Prop where
  names_eq : names path = base ++ front ++ [last]
  down : ".." ∉ front ++ [last]
  proper : isIdle last = false

namespace LeadsTo

variable {path last : String} {base front : List String}

theorem down_front (p : LeadsTo path base front last) : ".." ∉ front :=
  fun h => p.down (List.mem_append_left _ h)

theorem down_last (p : LeadsTo path base front last) : last ≠ ".." := by
  rintro rfl
  exact p.down (List.mem_append_right _ (List.mem_singleton_self _))

theorem down_active (p : LeadsTo path base front last) : ".." ∉ active front := fun h =>
  p.down_front (List.mem_filter.mp h).1

/-- Where `base` leads downwards as well, the path does so from the start. -/
theorem fromStart (p : LeadsTo path base front last) (h : ".." ∉ base) :
    LeadsTo path [] (base ++ front) last := by
  refine ⟨p.names_eq, ?_, p.proper⟩
  rw [List.append_assoc]
  exact fun hm => (List.mem_append.mp hm).elim h p.down

/-- The path of the parent is the beginning of the path. -/
theorem parent_append (p : LeadsTo path base front last) : ∃ rest, path = parent path ++ rest := by
  obtain ⟨back, hb⟩ := List.rdropWhile_prefix (p := isIdle) (base ++ front)
  rw [parent_eq p.names_eq p.proper]
  have whole : path = "/".intercalate ((base ++ front).rdropWhile isIdle ++ (back ++ [last])) := by
    rw [← List.append_assoc, hb, ← p.names_eq, intercalate_names]
  by_cases hn : (base ++ front).rdropWhile isIdle = []
  · rw [hn]
    exact ⟨path, by simp⟩
  · refine ⟨"/" ++ "/".intercalate (back ++ [last]), ?_⟩
    rw [← String.append_assoc, ← String.intercalate_append_of_ne_nil hn (by simp)]
    exact whole

/-- A tree can hold the parent of what it can hold. -/
theorem checkPath_parent (p : LeadsTo path base front last) (h : checkPath path = .ok ())
    (some : parent path ≠ "") : checkPath (parent path) = .ok () := by
  obtain ⟨rest, hr⟩ := p.parent_append
  unfold checkPath at h ⊢
  split at h
  · cases h
  · next nul =>
    split at h
    · cases h
    · split at h
      · cases h
      · next size =>
        have nul' : ¬ (parent path).toList.contains '\x00' = true := by
          intro hn
          apply nul
          rw [hr]
          simp only [List.contains_iff_mem] at hn ⊢
          rw [String.toList_append]
          exact List.mem_append_left _ hn
        have size' : ¬ (parent path).utf8ByteSize ≥ pathLimit := by
          have hs := congrArg String.utf8ByteSize hr
          rw [String.utf8ByteSize_append] at hs
          omega
        rw [if_neg nul', if_neg some, if_neg size']

/-- To make the parent is to make the folders along the names before the last. -/
theorem makeParent (p : LeadsTo path base front last) (h : checkPath path = .ok ()) (t : FileTree) :
    (if parent path = "" then (none, t) else t.makeFolder (parent path)) =
      t.makeFolders [] (active (base ++ front)) := by
  have names_front : ∀ n ∈ (base ++ front).rdropWhile isIdle, '/' ∉ n.toList := by
    intro n hn
    have hm : n ∈ names path := by
      rw [p.names_eq]
      exact List.mem_append_left _ ((List.rdropWhile_prefix (p := isIdle) (base ++ front)).subset hn)
    exact not_slash_of_mem_names hm
  have he := parent_eq p.names_eq p.proper
  by_cases hn : (base ++ front).rdropWhile isIdle = []
  · have none : active (base ++ front) = [] := by rw [← active_rdropWhile, hn]; rfl
    have empty : parent path = "" := by rw [he, hn, String.intercalate_nil]
    rw [if_pos empty, none, makeFolders]
  · have hnames : names (parent path) = (base ++ front).rdropWhile isIdle := by
      rw [he, names_intercalate hn names_front]
    -- The last name of the parent leads somewhere.
    obtain ⟨init, n, hi⟩ : ∃ init n, (base ++ front).rdropWhile isIdle = init ++ [n] :=
      ⟨_, _, (List.dropLast_append_getLast hn).symm⟩
    have proper : isIdle n = false := by
      have hlast := List.rdropWhile_last_not isIdle (base ++ front) hn
      simpa [hi] using hlast
    have some : parent path ≠ "" := by
      intro e
      have single : [""] = init ++ [n] := by rw [← hi, ← hnames, e]; rfl
      have he : "" = n := by simpa using congrArg List.getLast? single
      rw [← he] at proper
      cases proper
    have noDot : endsInDot (parent path) = false := by
      have ⟨h₁, h₂⟩ : n ≠ "" ∧ n ≠ "." := by simpa [isIdle] using proper
      simp [endsInDot, hnames, hi, List.filter_append, h₁, h₂]
    rw [if_neg some, makeFolder, p.checkPath_parent h some]
    dsimp only
    rw [noDot, if_neg Bool.false_ne_true, steps, hnames]
    exact congrArg (t.makeFolders []) (active_rdropWhile (base ++ front))

end LeadsTo

end LayeredConfig.FileTree
