import LayeredConfig.Proofs.Resolve.Bulk
import LayeredConfig.Proofs.Resolve.Journal
import LayeredConfig.Proofs.Schema.Homes
import LayeredConfig.Proofs.Schema.Registrations

/-! What groups show of registered settings. What belongs to a group is told by the group that a
setting is declared with, but what is got through a group is found by its name. The two agree up to
the dots in the names of groups and in accessors outside of all groups: with such a dot, settings
that belong in different places can have one name. -/
namespace LayeredConfig

namespace Registration

/-- No dot is in the name of a group, nor in an accessor outside of all groups. -/
def Undotted : Registration → Prop
  | .group g => '.' ∉ g.toList
  | .setting s => '.' ∉ (s.group.getD s.accessor).toList

theorem Undotted.group {r : Registration} {g : String} (h : r.Undotted) (hg : r.group? = some g) :
    '.' ∉ g.toList := by
  cases r with
  | group k =>
    obtain rfl : k = g := Option.some.inj hg
    exact h
  | setting s =>
    have hs : s.group = some g := hg
    rwa [Undotted, hs] at h

/-- A member that is asked for by its accessor is the one that has the name. -/
theorem Undotted.home {s : Setting} {g a : String} (h : (setting s).Undotted)
    (hg : '.' ∉ g.toList) (named : s.name = View.memberName g a) : s.home = (some g, a) := by
  rw [Undotted] at h
  rw [Setting.home]
  cases hs : s.group with
  | none =>
    have dot : '.' ∈ s.name.toList := by
      rw [named, View.toList_memberName]
      simp
    rw [Setting.name, hs] at dot
    rw [hs] at h
    exact absurd dot h
  | some k =>
    rw [hs] at h
    rw [Setting.name, hs] at named
    obtain ⟨rfl, rfl⟩ := View.memberName_injective h hg named
    rfl

/-- Settings with one name belong in one place. -/
theorem Undotted.home_eq {s t : Setting} (hs : (setting s).Undotted) (ht : (setting t).Undotted)
    (h : t.name = s.name) : t.home = s.home := by
  cases hg : s.group with
  | some g =>
    have home : s.home = (some g, s.accessor) := by rw [Setting.home, hg]
    rw [home]
    exact ht.home (hs.group hg) (h.trans (Setting.name_of_home_grouped home))
  | none =>
    cases hk : t.group with
    | some k =>
      have home : t.home = (some k, t.accessor) := by rw [Setting.home, hk]
      rw [home]
      exact (hs.home (ht.group hk) (h.symm.trans (Setting.name_of_home_grouped home))).symm
    | none =>
      rw [Setting.name, Setting.name, hg, hk] at h
      have accessor : t.accessor = s.accessor := h
      rw [Setting.home, Setting.home, hg, hk, accessor]

end Registration

namespace View

variable {v : View} {s : Setting} {g a : String}

private theorem mem_groupNames_iff :
    a ∈ v.groupNames g ↔ ∃ s ∈ v.schema.list, s.home = (some g, a) := by
  simp [groupNames, Schema.members, Setting.home, and_assoc]

/-- What is asked for in a place: a name, or an accessor of a group. -/
def getAt (v : View) : Home → Resolving Value
  | (none, a) => v.get a
  | (some g, a) => v.groupGet g a

private theorem getAt_home (v : View) (s : Setting) : v.getAt s.home = v.get s.name := by
  rw [Setting.home, Setting.name]
  cases s.group <;> rfl

/-- A setting that belongs in a place is got there; where that is a group, the group is known and
lists its accessor. -/
def Shows (v : View) (home : Home) : Prop :=
  ∃ s ∈ v.schema.list, s.home = home ∧ v.getAt home = v.resolve s ∧
    ∀ g, home.1 = some g → v.schema.hasGroup g ∧ home.2 ∈ v.groupNames g

/-- A member of a group is got by its accessor. -/
theorem groupGet_of_home (declared : s ∈ v.schema.list) (home : s.home = (some g, a)) :
    v.groupGet g a = v.resolve s := by
  rw [groupGet, ← Setting.name_of_home_grouped home, get_name declared]

/-- A group refuses what is no member of it, unless a setting from elsewhere has the name. -/
theorem groupGet_unknown_iff (v : View) (g a : String) (st : Session) :
    (v.groupGet g a).runFrom st = (.error (.unknownName (memberName g a)), st) ↔
      a ∉ v.groupNames g ∧
        ¬∃ s ∈ v.schema.list, s.home ≠ (some g, a) ∧ s.name = memberName g a := by
  rw [groupGet, get_unknown_iff, mem_groupNames_iff]
  constructor
  · intro unknown
    have unnamed (s : Setting) (declared : s ∈ v.schema.list) : s.name ≠ memberName g a := by
      intro named
      rw [← named, Schema.find?_of_mem_list declared] at unknown
      cases unknown
    constructor
    · rintro ⟨s, declared, home⟩
      exact unnamed s declared (Setting.name_of_home_grouped home)
    · rintro ⟨s, declared, -, named⟩
      exact unnamed s declared named
  · rintro ⟨absent, elsewhere⟩
    refine Option.eq_none_iff_forall_ne_some.mpr fun s found => ?_
    have declared := Schema.mem_list_of_find? found
    by_cases home : s.home = (some g, a)
    · exact absent ⟨s, declared, home⟩
    · exact elsewhere ⟨s, declared, home, Schema.name_of_find? found⟩

/-! Views of registered settings. -/

variable {regs : List Registration}

private theorem registered_of_declared (made : v.schema = .registered regs)
    (declared : s ∈ v.schema.list) : .setting s ∈ regs := by
  have found := Schema.find?_of_mem_list declared
  rw [made, Schema.find?_registered] at found
  exact (Registration.mem_of_last? found).1

/-- Where a setting that is declared belongs, it is got. -/
theorem shows_home (made : v.schema = .registered regs) (declared : s ∈ v.schema.list) :
    v.Shows s.home := by
  refine ⟨s, declared, rfl, by rw [getAt_home, get_name declared], fun g group => ⟨?_, ?_⟩⟩
  · have known : g ∈ v.schema.groups := by
      rw [made]
      exact Schema.mem_groups_registered.mpr
        ⟨.setting s, registered_of_declared made declared, group⟩
    exact List.contains_iff_mem.mpr known
  · exact mem_groupNames_iff.mpr ⟨s, declared, Prod.ext group rfl⟩

/-- A place shows a setting as long as the last registration with the name is for this place. -/
theorem shows_home_iff (made : v.schema = .registered regs) (s : Setting) :
    v.Shows s.home ↔ ∃ t, Registration.last? regs s.name = some t ∧ t.home = s.home := by
  rw [← Schema.find?_registered, ← made]
  constructor
  · rintro ⟨t, declared, home, -⟩
    exact ⟨t, Setting.name_of_home home ▸ Schema.find?_of_mem_list declared, home⟩
  · rintro ⟨t, found, home⟩
    exact home ▸ shows_home made (Schema.mem_list_of_find? found)

section Undotted

variable (made : v.schema = .registered regs) (undotted : ∀ r ∈ regs, r.Undotted)
include made undotted

/-- Without dots each setting is shown where it was registered for, or another one for there. -/
theorem shows_home_of_undotted (registered : .setting s ∈ regs) : v.Shows s.home := by
  rw [shows_home_iff made]
  cases last : Registration.last? regs s.name with
  | none => exact absurd rfl (Registration.last?_eq_none_iff.mp last s registered)
  | some t =>
    obtain ⟨there, named⟩ := Registration.mem_of_last? last
    exact ⟨t, rfl, (undotted _ registered).home_eq (undotted _ there) named⟩

/-- Without dots a group refuses all but its members. -/
theorem groupGet_unknown_iff_of_undotted (known : v.schema.hasGroup g) (a : String)
    (st : Session) :
    (v.groupGet g a).runFrom st = (.error (.unknownName (memberName g a)), st) ↔
      a ∉ v.groupNames g := by
  have plain : '.' ∉ g.toList := by
    have there : g ∈ v.schema.groups := List.contains_iff_mem.mp known
    rw [made, Schema.mem_groups_registered] at there
    obtain ⟨r, hr, group⟩ := there
    exact (undotted r hr).group group
  rw [groupGet_unknown_iff]
  refine and_iff_left ?_
  rintro ⟨s, declared, elsewhere, named⟩
  have registered := registered_of_declared made declared
  exact elsewhere ((undotted _ registered).home plain named)

end Undotted

/-- Groups show their members, up to the names they share with settings from elsewhere. A group
refuses an accessor, with nothing resolved, exactly when it is none of its members and no setting
that belongs elsewhere has its full name; what it lists it gets. What was registered for a place is
shown there as long as the last registration with the name is for this place. Without dots in the
names of groups and in accessors outside of all groups no name is shared, so that groups refuse
exactly what they do not list, and each place that a setting was registered for shows one. -/
theorem groups_show_members (regs : List Registration) (layers : Layers) (root : Option String)
    (placeholders : Option Bool) :
    let v : View := ⟨.registered regs, layers, root, placeholders⟩
    (∀ g a st, (v.groupGet g a).runFrom st = (.error (.unknownName (memberName g a)), st) ↔
      a ∉ v.groupNames g ∧
        ¬∃ s ∈ v.schema.list, s.home ≠ (some g, a) ∧ s.name = memberName g a) ∧
    (∀ g, ∀ a ∈ v.groupNames g,
      ∃ s ∈ v.schema.members g, s.accessor = a ∧ v.groupGet g a = v.resolve s) ∧
    (∀ s, .setting s ∈ regs →
      (v.Shows s.home ↔ ∃ t, Registration.last? regs s.name = some t ∧ t.home = s.home)) ∧
    ((∀ r ∈ regs, r.Undotted) →
      (∀ g, v.schema.hasGroup g → ∀ a st,
        (v.groupGet g a).runFrom st = (.error (.unknownName (memberName g a)), st) ↔
          a ∉ v.groupNames g) ∧
      ∀ s, .setting s ∈ regs → v.Shows s.home) := by
  intro v
  refine ⟨v.groupGet_unknown_iff, ?_, fun s _ => shows_home_iff rfl s, fun undotted => ⟨?_, ?_⟩⟩
  · intro g a ha
    obtain ⟨s, member, rfl⟩ := List.mem_map.mp ha
    have group : s.group = some g := of_decide_eq_true (List.mem_filter.mp member).2
    have declared := Schema.mem_list_of_mem_members member
    exact ⟨s, member, rfl, groupGet_of_home declared (Prod.ext group rfl)⟩
  · exact fun g known => groupGet_unknown_iff_of_undotted rfl undotted known
  · exact fun s registered => shows_home_of_undotted rfl undotted registered

/-- A group without members, and a setting of another group that starts with its name and a dot. -/
def dottedRegistrations : List Registration :=
  [.group "a", .setting { Setting.ofVar "Y" .text with group := some "a.b", accessor := "c" }]

def dottedView : View :=
  ⟨.registered dottedRegistrations, ⟨{ vars := KeyMap.ofList [("Y", .text "inner")] }, .empty⟩,
    none, none⟩

/-- A group gets what it does not list. -/
theorem dotted_group_gets_foreign_member :
    dottedView.schema.hasGroup "a" ∧ dottedView.groupNames "a" = [] ∧
      ((dottedView.groupGet "a" "b.c").runFrom .fresh).1 = .ok (.text "inner") := by
  decide +kernel

end View

end LayeredConfig
