import LayeredConfig.Setting
import LayeredConfig.Table

/-! The settings that are declared, and the groups they belong to. -/
namespace LayeredConfig

/-- Declared settings by name and the names of groups, both in the order in which they came. -/
structure Schema where
  settings : Table Setting
  groups : List String
  named : ∀ e ∈ settings.entries, e.1 = e.2.name := by simp
  distinctGroups : groups.Nodup := by simp

/-- Adds a text at the end of a list that does not hold it. -/
def addNew (l : List String) (s : String) : List String := if s ∈ l then l else l ++ [s]

theorem nodup_addNew {l : List String} (h : l.Nodup) (s : String) : (addNew l s).Nodup := by
  rw [addNew]
  split
  · exact h
  · next n =>
    refine List.nodup_append.mpr ⟨h, by simp, fun a ha b hb => ?_⟩
    rw [List.mem_singleton.mp hb]
    exact fun e => n (e ▸ ha)

namespace Schema

def empty : Schema := ⟨.empty, [], by simp [Table.empty], by simp⟩

def addGroup (c : Schema) (g : String) : Schema :=
  { c with groups := addNew c.groups g, distinctGroups := nodup_addNew c.distinctGroups g }

private theorem named_insert (c : Schema) (s : Setting) :
    ∀ e ∈ (c.settings.insert s.name s).entries, e.1 = e.2.name := by
  intro e he
  rcases mem_setEntry he with h | h
  · rw [h]
  · exact c.named e h

/-- Declares a setting, and makes its group known. A setting with the same name gives way and leaves
its place. -/
def declare (c : Schema) (s : Setting) : Schema :=
  let groups := match s.group with
    | some g => addNew c.groups g
    | none => c.groups
  ⟨c.settings.insert s.name s, groups, named_insert c s, by
    simp only [groups]
    split
    · exact nodup_addNew c.distinctGroups _
    · exact c.distinctGroups⟩

def build (groups : List String) (settings : List Setting) : Schema :=
  settings.foldl declare (groups.foldl addGroup empty)

def find? (c : Schema) (name : String) : Option Setting := c.settings.get? name

/-- The settings in the order of their first declaration. -/
def list (c : Schema) : List Setting := c.settings.values

def names (c : Schema) : List String := c.list.map Setting.name

def members (c : Schema) (g : String) : List Setting := c.list.filter (·.group = some g)

def hasGroup (c : Schema) (g : String) : Bool := c.groups.contains g

end Schema

end LayeredConfig
