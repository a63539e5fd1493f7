import LayeredConfig.Proofs.Maps
import LayeredConfig.Schema
import Mathlib.Data.List.Induction

/-! Schemas that come about by registrations. A name stands for the last setting that was registered
with it, and the groups are those that were registered, alone or with a setting. -/
namespace LayeredConfig

/-- A group or a setting that is made known. -/
inductive Registration where
  | group (name : String)
  | setting (s : Setting)

namespace Registration

def named? (n : String) : Registration → Option Setting
  | .group _ => none
  | .setting s => if s.name = n then some s else none

def group? : Registration → Option String
  | .group g => some g
  | .setting s => s.group

private theorem named?_eq_some_iff {r : Registration} {n : String} {s : Setting} :
    r.named? n = some s ↔ r = .setting s ∧ s.name = n := by
  cases r with
  | group g => simp [named?]
  | setting t =>
    simp only [named?, Option.ite_none_right_eq_some, Option.some.injEq, setting.injEq]
    constructor
    · rintro ⟨h, rfl⟩
      exact ⟨rfl, h⟩
    · rintro ⟨rfl, h⟩
      exact ⟨h, rfl⟩

/-- The setting that is registered last with a name. -/
def last? (regs : List Registration) (n : String) : Option Setting :=
  regs.reverse.findSome? (·.named? n)

private theorem last?_concat (regs : List Registration) (r : Registration) (n : String) :
    last? (regs ++ [r]) n = (r.named? n).or (last? regs n) := by
  rw [last?, List.reverse_concat, List.findSome?_cons, last?]
  cases r.named? n <;> rfl

theorem last?_eq_none_iff {regs : List Registration} {n : String} :
    last? regs n = none ↔ ∀ s, .setting s ∈ regs → s.name ≠ n := by
  rw [last?, List.findSome?_eq_none_iff]
  constructor
  · intro h s hs name
    have named : (setting s).named? n = some s := named?_eq_some_iff.mpr ⟨rfl, name⟩
    rw [h _ (List.mem_reverse.mpr hs)] at named
    cases named
  · intro h r hr
    refine Option.eq_none_iff_forall_ne_some.mpr fun s hs => ?_
    obtain ⟨rfl, name⟩ := named?_eq_some_iff.mp hs
    exact h s (List.mem_reverse.mp hr) name

theorem mem_of_last? {regs : List Registration} {n : String} {s : Setting}
    (h : last? regs n = some s) : .setting s ∈ regs ∧ s.name = n := by
  obtain ⟨r, hr, hs⟩ := List.exists_of_findSome?_eq_some h
  obtain ⟨rfl, name⟩ := named?_eq_some_iff.mp hs
  exact ⟨List.mem_reverse.mp hr, name⟩

end Registration

private theorem mem_addNew {l : List String} {s t : String} : t ∈ addNew l s ↔ t ∈ l ∨ t = s := by
  rw [addNew]
  split
  · next there => exact ⟨.inl, fun h => h.elim id (· ▸ there)⟩
  · simp

namespace Schema

def register (c : Schema) : Registration → Schema
  | .group g => c.addGroup g
  | .setting s => c.declare s

/-- What registrations make, one after the other. -/
def registered (regs : List Registration) : Schema := regs.foldl register empty

theorem build_eq_registered (groups : List String) (settings : List Setting) :
    build groups settings = registered (groups.map .group ++ settings.map .setting) := by
  rw [build, registered, List.foldl_append, List.foldl_map, List.foldl_map]
  rfl

variable {regs : List Registration} {g : String}

/-- What one registration does to the settings. -/
theorem find?_register (c : Schema) (r : Registration) (n : String) :
    (c.register r).find? n = (r.named? n).or (c.find? n) := by
  cases r with
  | group g => rfl
  | setting s =>
    have insert : (c.declare s).find? n = if n = s.name then some s else c.find? n :=
      Table.get?_insert c.settings s.name s n
    rw [register, insert, Registration.named?]
    by_cases h : n = s.name
    · simp [h]
    · simp [h, Ne.symm h]

/-- What one registration does to the groups. -/
theorem groups_register (c : Schema) (r : Registration) :
    (c.register r).groups = r.group?.toList.foldl addNew c.groups := by
  cases r with
  | group g => rfl
  | setting s =>
    dsimp only [register, declare, Registration.group?]
    cases s.group <;> rfl

private theorem mem_groups_register {c : Schema} {r : Registration} :
    g ∈ (c.register r).groups ↔ g ∈ c.groups ∨ r.group? = some g := by
  rw [groups_register]
  cases r.group? with
  | none => simp
  | some h => simp [mem_addNew, eq_comm]

theorem registered_concat (regs : List Registration) (r : Registration) :
    registered (regs ++ [r]) = (registered regs).register r := by
  rw [registered, registered, List.foldl_append]
  rfl

/-- The last setting with a name counts. -/
theorem find?_registered (regs : List Registration) (n : String) :
    (registered regs).find? n = Registration.last? regs n := by
  induction regs using List.reverseRecOn with
  | nil => rfl
  | append_singleton regs r ih =>
    rw [registered_concat, find?_register, ih, Registration.last?_concat]

theorem mem_groups_registered :
    g ∈ (registered regs).groups ↔ ∃ r ∈ regs, r.group? = some g := by
  induction regs using List.reverseRecOn with
  | nil => simp [registered, empty]
  | append_singleton regs r ih =>
    rw [registered_concat, mem_groups_register, ih]
    simp [or_and_right, exists_or]

end Schema

end LayeredConfig
