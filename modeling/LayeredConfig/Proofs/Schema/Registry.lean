import LayeredConfig.Proofs.Schema.Positions

/-! What registrations leave, on a builder first and then on the schema that it makes. Names and
groups stand in the order in which they first came, and of settings with one name the last is left
in the place of the first. -/
namespace LayeredConfig

/-- What a builder collects: groups and settings, each in the order of the calls. -/
structure Builder where
  groups : List String := []
  settings : List Setting := []

namespace Builder

def register (b : Builder) : Registration → Builder
  | .group g => { b with groups := b.groups ++ [g] }
  | .setting s => { b with settings := b.settings ++ [s] }

def schema (b : Builder) : Schema := Schema.build b.groups b.settings

def registry (b : Builder) : Registry := Registry.build b.groups b.settings

end Builder

/-- The schema after some registrations, the first `k` of which are made on the builder. -/
def Schema.made (k : Nat) (regs : List Registration) : Schema :=
  (regs.drop k).foldl register ((regs.take k).foldl Builder.register {}).schema

def Registry.made (k : Nat) (regs : List Registration) : Registry :=
  (regs.drop k).foldl register ((regs.take k).foldl Builder.register {}).registry

private theorem Registry.keeps_made (k : Nat) (regs : List Registration) :
    (Registry.made k regs).Keeps (Schema.made k regs) :=
  (keeps_build _ _).foldl Keeps.register (regs.drop k)

namespace Registration

def bare? : Registration → Option String
  | .group g => some g
  | .setting _ => none

def setting? : Registration → Option Setting
  | .group _ => none
  | .setting s => some s

def name? (r : Registration) : Option String := r.setting?.map Setting.name

def joined? (r : Registration) : Option String := r.setting?.bind Setting.group

private theorem last?_append (a b : List Registration) (n : String) :
    last? (a ++ b) n = (last? b n).or (last? a n) := by
  rw [last?, List.reverse_append, List.findSome?_append]
  rfl

/-- Groups have no say in which setting a name stands for. -/
theorem last?_settings (regs : List Registration) (n : String) :
    last? ((regs.filterMap setting?).map .setting) n = last? regs n := by
  induction regs using List.reverseRecOn with
  | nil => rfl
  | append_singleton regs r ih =>
    rw [List.filterMap_append, List.map_append, last?_append, last?_append, ih]
    cases r <;> rfl

private theorem last?_groups (groups : List String) (n : String) :
    last? (groups.map .group) n = none := by
  rw [last?_eq_none_iff]
  intro s hs
  simp at hs

/-- A setting that gives way later could have been any other one with its name. -/
theorem last?_replaced (before : List Registration) {after : List Registration} {s t : Setting}
    (later : ∃ u, .setting u ∈ after ∧ u.name = s.name) (named : t.name = s.name) (n : String) :
    last? (before ++ .setting t :: after) n = last? (before ++ .setting s :: after) n := by
  have taken (s : Setting) : last? (before ++ .setting s :: after) n =
      ((last? after n).or ((setting s).named? n)).or (last? before n) := by
    rw [last?_append, ← List.singleton_append, last?_append]
    cases h : (setting s).named? n <;> simp [last?, h]
  rw [taken s, taken t]
  by_cases hn : s.name = n
  · obtain ⟨u, there, name⟩ := later
    cases found : last? after n with
    | none => exact absurd (name.trans hn) (last?_eq_none_iff.mp found u there)
    | some x => rfl
  · rw [named?, named?, if_neg hn, if_neg (named ▸ hn)]

end Registration

open Registration

/-- Adding names one after the other leaves each in its first place. -/
theorem foldl_addNew {a : List String} (h : a.Nodup) (l : List String) :
    l.foldl addNew a = (a ++ l).eraseDups := by
  induction l generalizing a with
  | nil => rw [List.foldl_nil, List.append_nil, Table.eraseDups_of_nodup h]
  | cons s r ih =>
    rw [List.foldl_cons, ih (nodup_addNew h s), addNew]
    split
    · next there => simp [List.eraseDups_append, List.removeAll, there]
    · rw [List.append_assoc, List.singleton_append]

namespace Schema

variable {c : Schema} {s : Setting} {regs : List Registration}

private theorem names_register (c : Schema) (r : Registration) :
    (c.register r).names = r.name?.toList.foldl addNew c.names := by
  cases r with
  | group g => rfl
  | setting s => exact c.names_declare s

/-- The names stand in the order in which they were first registered. -/
theorem names_registered (regs : List Registration) :
    (registered regs).names = (regs.filterMap name?).eraseDups := by
  have added : (registered regs).names = (regs.filterMap name?).foldl addNew [] := by
    induction regs using List.reverseRecOn with
    | nil => rfl
    | append_singleton regs r ih =>
      rw [registered_concat, names_register, ih, List.filterMap_append, List.foldl_append]
      cases hr : r.name? <;> simp [hr]
  exact added.trans (foldl_addNew List.nodup_nil _)

/-- The groups stand in the order in which they were first registered, with a setting or without. -/
theorem groups_registered (regs : List Registration) :
    (registered regs).groups = (regs.filterMap group?).eraseDups := by
  have added : (registered regs).groups = (regs.filterMap group?).foldl addNew [] := by
    induction regs using List.reverseRecOn with
    | nil => rfl
    | append_singleton regs r ih =>
      rw [registered_concat, groups_register, ih, List.filterMap_append, List.foldl_append]
      cases hr : r.group? <;> simp [hr]
  exact added.trans (foldl_addNew List.nodup_nil _)

/-- The registrations in the order in which they take effect: a builder makes its groups known
before its settings. -/
def inEffect (k : Nat) (regs : List Registration) : List Registration :=
  ((regs.take k).filterMap bare?).map .group ++ ((regs.take k).filterMap setting?).map .setting ++
    regs.drop k

private theorem made_eq_registered (k : Nat) (regs : List Registration) :
    made k regs = registered (inEffect k regs) := by
  have collected (regs : List Registration) : regs.foldl Builder.register {} =
      ⟨regs.filterMap bare?, regs.filterMap setting?⟩ := by
    induction regs using List.reverseRecOn with
    | nil => rfl
    | append_singleton regs r ih =>
      rw [List.foldl_append, ih, List.filterMap_append, List.filterMap_append]
      cases r <;> simp [Builder.register, bare?, setting?]
  rw [made, collected, Builder.schema, build_eq_registered, inEffect]
  exact List.foldl_append.symm

/-- What is told of registrations is told of the groups, the settings and the later
registrations. -/
theorem filterMap_inEffect (f : Registration → Option String) (k : Nat) (regs : List Registration) :
    (inEffect k regs).filterMap f = (regs.take k).filterMap (fun r => r.bare?.bind (f ∘ .group)) ++
      (regs.take k).filterMap (fun r => r.setting?.bind (f ∘ .setting)) ++
        (regs.drop k).filterMap f := by
  simp only [inEffect, List.filterMap_append, List.filterMap_map, List.filterMap_filterMap]

theorem names_made (k : Nat) (regs : List Registration) :
    (made k regs).names = (regs.filterMap name?).eraseDups := by
  have groups (l : List Registration) : l.filterMap (fun r => r.bare?.bind (name? ∘ .group)) = [] :=
    List.filterMap_eq_nil_iff.mpr fun r _ => by cases r <;> rfl
  have settings : (fun r : Registration => r.setting?.bind (name? ∘ .setting)) = name? := by
    funext r
    cases r <;> rfl
  rw [made_eq_registered, names_registered, filterMap_inEffect, groups, settings,
    List.nil_append, ← List.filterMap_append, List.take_append_drop]

theorem find?_made (k : Nat) (regs : List Registration) (n : String) :
    (made k regs).find? n = last? regs n := by
  rw [made_eq_registered, find?_registered, inEffect, last?_append, last?_append, last?_settings,
    last?_groups, Option.or_none, ← last?_append, List.take_append_drop]

private theorem groups_made (k : Nat) (regs : List Registration) :
    (made k regs).groups = ((regs.take k).filterMap bare? ++ (regs.take k).filterMap joined? ++
      (regs.drop k).filterMap group?).eraseDups := by
  have groups : (fun r : Registration => r.bare?.bind (group? ∘ .group)) = bare? := by
    funext r
    cases r <;> rfl
  rw [made_eq_registered, groups_registered, filterMap_inEffect, groups]
  rfl

private theorem mem_groups_made {k : Nat} {g : String} :
    g ∈ (made k regs).groups ↔ ∃ r ∈ regs, r.group? = some g := by
  have either (r : Registration) :
      r.group? = some g ↔ r.bare?.bind (group? ∘ .group) = some g ∨
        r.setting?.bind (group? ∘ .setting) = some g := by
    cases r with
    | group h => exact (or_iff_left nofun).symm
    | setting s => exact (or_iff_right nofun).symm
  have parts : regs.filterMap group? =
      (regs.take k).filterMap group? ++ (regs.drop k).filterMap group? := by
    rw [← List.filterMap_append, List.take_append_drop]
  rw [made_eq_registered, mem_groups_registered, ← List.mem_filterMap, ← List.mem_filterMap, parts,
    filterMap_inEffect]
  simp only [List.mem_append, List.mem_filterMap, either, and_or_left, exists_or]

private theorem ext_parts {c d : Schema} (settings : c.settings = d.settings)
    (groups : c.groups = d.groups) :
    c = d := by
  cases c
  cases d
  cases settings
  cases groups
  rfl

/-- A setting that gives way leaves its group, and otherwise what any other one with its name
leaves. -/
theorem made_replaced (k : Nat) {before after : List Registration} {s t : Setting}
    (later : ∃ u, .setting u ∈ after ∧ u.name = s.name) (named : t.name = s.name) :
    (made k (before ++ .setting t :: after)).settings =
      (made k (before ++ .setting s :: after)).settings ∧
    (t.group = s.group →
      made k (before ++ .setting t :: after) = made k (before ++ .setting s :: after)) := by
  have names : (setting t).name? = (setting s).name? := congrArg some named
  have settings : (made k (before ++ .setting t :: after)).settings =
      (made k (before ++ .setting s :: after)).settings := by
    apply Table.ext_get?
    · rw [← names_eq_keys, ← names_eq_keys, names_made, names_made]
      simp only [List.filterMap_append, List.filterMap_cons, names]
    · intro n
      have found := last?_replaced before later named n
      rwa [← find?_made k, ← find?_made k] at found
  refine ⟨settings, fun group => ext_parts settings ?_⟩
  have told (f : Registration → Option String) (same : f (.setting t) = f (.setting s)) :
      (before ++ .setting t :: after).map f = (before ++ .setting s :: after).map f := by
    simp only [List.map_append, List.map_cons, same]
  have parts (f : Registration → Option String) (l : List Registration) :
      l.filterMap f = (l.map f).filterMap id := by simp
  rw [groups_made, groups_made]
  simp only [parts bare?, parts joined?, parts group?, List.map_take, List.map_drop]
  rw [told bare? rfl, told joined? group, told group? group]

/-- What registrations leave, the first `k` of them made on a builder. The names stand in the order
of their first registration. A name stands for the last setting that was registered with it, and
the settings stand in the order of the names. The groups are those that were registered, alone or
with a setting: those given to the builder come first, then those of its settings, and then the
others as they came. A setting that was replaced leaves no more than its group. A registry that
finds settings by positions holds and finds the same, and all its positions are those of the
names. -/
theorem made_exact (k : Nat) (regs : List Registration) :
    let c := made k regs
    let held := Registry.made k regs
    (c.names = (regs.filterMap name?).eraseDups ∧ c.names.Nodup) ∧
    (∀ n, c.find? n = last? regs n) ∧
    c.list.map some = c.names.map c.find? ∧
    (c.groups = ((regs.take k).filterMap bare? ++ (regs.take k).filterMap joined? ++
        (regs.drop k).filterMap group?).eraseDups ∧ c.groups.Nodup ∧
      ∀ g, g ∈ c.groups ↔ ∃ r ∈ regs, r.group? = some g) ∧
    (∀ s ∈ c.list, ∀ g, s.group = some g → c.hasGroup g) ∧
    (∀ s, s ∈ c.list ↔ last? regs s.name = some s) ∧
    (∀ before s t after, regs = before ++ .setting s :: after →
      (∃ u, .setting u ∈ after ∧ u.name = s.name) → t.name = s.name →
        (made k (before ++ .setting t :: after)).settings = c.settings ∧
        (t.group = s.group → made k (before ++ .setting t :: after) = c)) ∧
    held.declared = c.list ∧ held.groups = c.groups ∧ (∀ n, held.find? n = c.find? n) ∧
      ∀ n p, held.positions.get? n = some p ↔ c.names[p]? = some n := by
  intro c held
  have listed (s : Setting) : s ∈ c.list ↔ last? regs s.name = some s := by
    rw [← find?_made k]
    exact ⟨find?_of_mem_list, mem_list_of_find?⟩
  have kept : held.Keeps c := Registry.keeps_made k regs
  refine ⟨⟨names_made k regs, ?_⟩, find?_made k regs, ?_,
    ⟨groups_made k regs, c.distinctGroups, fun g => mem_groups_made⟩, ?_, listed, ?_,
    kept.declared, kept.groups, kept.find?, kept.positions⟩
  · rw [names_eq_keys]
    exact c.settings.distinct
  · rw [names_eq_keys]
    exact c.settings.map_some_values
  · intro s hs g hg
    have registered := (mem_of_last? ((listed s).mp hs)).1
    exact List.contains_iff_mem.mpr (mem_groups_made.mpr ⟨.setting s, registered, hg⟩)
  · rintro before s t after rfl later named
    exact made_replaced k later named

/-- The group of a setting that was replaced stays, and the setting that took its name has its
place. -/
example :
    let c := made 2
      [.setting { Setting.ofVar "X" .text with group := some "a", accessor := "b" }, .group "g",
       .setting (Setting.ofVar "Y" .text),
       .setting { Setting.ofVar "Z" .text with accessor := "a.b" }]
    c.names = ["a.b", "y"] ∧ c.list.map (·.envVar) = ["Z", "Y"] ∧ c.groups = ["g", "a"] := by
  decide +kernel

end Schema

end LayeredConfig
