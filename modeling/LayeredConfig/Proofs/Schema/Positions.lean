import LayeredConfig.Proofs.Resolve.Operation
import LayeredConfig.Proofs.Schema.Registrations
import LayeredConfig.Proofs.Table.Indexed

/-! A schema kept as a row of settings, with the position of each name beside it. The positions are
those of the names whatever is registered, so that such a registry shows just what the schema
shows. -/
namespace LayeredConfig

/-- A new setting adds its name at the end of the names. -/
theorem Schema.names_declare (c : Schema) (s : Setting) :
    (c.declare s).names = addNew c.names s.name := by
  rw [names_eq_keys, names_eq_keys]
  exact c.settings.keys_insert s.name s

/-- Settings in a row, the positions of their names, and the names of groups. -/
structure Registry where
  declared : List Setting := []
  positions : KeyMap Nat := .empty
  groups : List String := []

namespace Registry

def addGroup (r : Registry) (g : String) : Registry := { r with groups := addNew r.groups g }

/-- Holds a setting in the place of one with its name, else at the end. -/
def place (r : Registry) (s : Setting) : Registry :=
  match r.positions.get? s.name with
  | some p => { r with declared := r.declared.set p s }
  | none => { r with
      declared := r.declared ++ [s], positions := r.positions.insert s.name r.declared.length }

def declare (r : Registry) (s : Setting) : Registry :=
  match s.group with
  | some g => (r.addGroup g).place s
  | none => r.place s

def build (groups : List String) (settings : List Setting) : Registry :=
  settings.foldl declare (groups.foldl addGroup {})

def register (r : Registry) : Registration → Registry
  | .group g => r.addGroup g
  | .setting s => r.declare s

def find? (r : Registry) (name : String) : Option Setting :=
  (r.positions.get? name).bind fun p => r.declared[p]?

/-- A registry holds the settings and the groups of a schema, and the position of each name. -/
structure Keeps (r : Registry) (c : Schema) : Prop where
  declared : r.declared = c.list
  groups : r.groups = c.groups
  positions : ∀ n p, r.positions.get? n = some p ↔ c.names[p]? = some n

variable {r : Registry} {c : Schema}

theorem keeps_empty : Keeps {} .empty :=
  ⟨rfl, rfl, fun _ _ => ⟨nofun, nofun⟩⟩

theorem Keeps.addGroup (h : r.Keeps c) (g : String) : (r.addGroup g).Keeps (c.addGroup g) :=
  ⟨h.declared, congrArg (addNew · g) h.groups, h.positions⟩

private theorem Keeps.places (h : r.Keeps c) : r.positions.Places c.names := h.positions

/-- A known name keeps its position, and a new one gets the position behind all others. -/
theorem Keeps.place (h : r.Keeps c) (s : Setting) :
    (r.place s).declared = (c.declare s).list ∧
      ∀ n p, (r.place s).positions.get? n = some p ↔ (c.declare s).names[p]? = some n := by
  have names : (c.declare s).names = addNew c.names s.name := c.names_declare s
  cases found : r.positions.get? s.name with
  | some p =>
    have named := (h.positions s.name p).mp found
    rw [names, addNew, if_pos (List.mem_of_getElem? named), Registry.place, found]
    refine ⟨?_, h.positions⟩
    rw [Schema.names_eq_keys] at named
    rw [h.declared]
    exact (Table.values_insert_of_position named s).symm
  | none =>
    have unknown := h.places.not_mem found
    have length : r.declared.length = c.names.length := by
      rw [h.declared, Schema.names, List.length_map]
    rw [names, addNew, if_neg unknown, Registry.place, found, length]
    refine ⟨?_, h.places.concat unknown⟩
    rw [Schema.names_eq_keys] at unknown
    rw [h.declared]
    exact (Table.values_insert_of_new unknown s).symm

private theorem place_groups (r : Registry) (s : Setting) : (r.place s).groups = r.groups := by
  rw [place]
  split <;> rfl

theorem Keeps.declare (h : r.Keeps c) (s : Setting) : (r.declare s).Keeps (c.declare s) := by
  have groups := Schema.groups_register c (.setting s)
  rw [Registration.group?] at groups
  rw [Registry.declare]
  cases hg : s.group with
  | none =>
    rw [hg] at groups
    exact ⟨(h.place s).1, (r.place_groups s).trans (h.groups.trans groups.symm), (h.place s).2⟩
  | some g =>
    rw [hg] at groups
    have added := h.addGroup g
    exact ⟨(added.place s).1, ((r.addGroup g).place_groups s).trans (added.groups.trans groups.symm),
      (added.place s).2⟩

/-- Positions lead to the settings that names stand for. -/
theorem Keeps.find? (h : r.Keeps c) (n : String) : r.find? n = c.find? n := by
  rw [Registry.find?, Schema.find?]
  cases found : r.positions.get? n with
  | none =>
    have absent := h.places.not_mem found
    rw [Schema.names_eq_keys, Table.mem_keys_iff] at absent
    exact (Option.eq_none_iff_forall_ne_some.mpr fun s hs => absent ⟨s, hs⟩).symm
  | some p =>
    have named := (h.positions n p).mp found
    rw [Schema.names_eq_keys] at named
    rw [Table.get?_of_position named, Option.bind_some, h.declared]
    rfl

theorem Keeps.register (h : r.Keeps c) (reg : Registration) :
    (r.register reg).Keeps (c.register reg) := by
  cases reg with
  | group g => exact h.addGroup g
  | setting s => exact h.declare s

/-- What each step keeps is kept by all steps together. -/
theorem Keeps.foldl {α : Type} {f : Registry → α → Registry} {g : Schema → α → Schema}
    (step : ∀ {r c}, r.Keeps c → ∀ a, (f r a).Keeps (g c a)) (h : r.Keeps c) (l : List α) :
    (l.foldl f r).Keeps (l.foldl g c) := by
  induction l generalizing r c with
  | nil => exact h
  | cons a l ih => exact ih (step h a)

theorem keeps_build (groups : List String) (settings : List Setting) :
    (build groups settings).Keeps (Schema.build groups settings) :=
  (keeps_empty.foldl Keeps.addGroup groups).foldl Keeps.declare settings

end Registry

end LayeredConfig
