import LayeredConfig.Group
import LayeredConfig.Proofs.Resolve.Operation
import Mathlib.Data.List.Basic

/-! Where settings belong, and what their names tell of it. The name of a setting is its accessor
behind its group and a dot, and tells the two apart again only if the group has no dot itself. -/
namespace LayeredConfig

/-- A group, or none, and an accessor. -/
abbrev Home := Option String × String

namespace Setting

/-- Where a setting is known by its accessor alone: in its group, or outside of all groups. -/
def home (s : Setting) : Home := (s.group, s.accessor)

theorem name_of_home {s t : Setting} (h : s.home = t.home) : s.name = t.name := by
  obtain ⟨group, accessor⟩ := Prod.mk.inj h
  rw [name, name, group, accessor]

theorem name_of_home_grouped {s : Setting} {g a : String} (h : s.home = (some g, a)) :
    s.name = View.memberName g a := by
  obtain ⟨group, accessor⟩ := Prod.mk.inj h
  rw [name, group, accessor]
  rfl

end Setting

/-- No two settings belong in one place. -/
theorem Schema.nodup_homes (c : Schema) : (c.list.map Setting.home).Nodup := by
  have names : c.names.Nodup := by
    rw [names_eq_keys]
    exact c.settings.distinct
  exact List.pairwise_map.mpr ((List.pairwise_map.mp names).imp fun apart same =>
    apart (Setting.name_of_home same))

namespace View

theorem toList_memberName (g a : String) :
    (memberName g a).toList = g.toList ++ '.' :: a.toList := by
  rw [memberName, String.toList_append, String.toList_append, List.append_assoc]
  rfl

theorem memberName_injective {g h a b : String} (hg : '.' ∉ g.toList) (hh : '.' ∉ h.toList)
    (e : memberName g a = memberName h b) : g = h ∧ a = b := by
  replace e := congrArg String.toList e
  rw [toList_memberName, toList_memberName] at e
  -- Both names are cut at their first dot.
  have before (g a : List Char) (hg : '.' ∉ g) : (g ++ '.' :: a).takeWhile (· ≠ '.') = g := by
    rw [List.takeWhile_append_of_pos fun c hc => by simpa using fun he : c = '.' => hg (he ▸ hc)]
    simp
  have groups : g.toList = h.toList := by
    rw [← before g.toList a.toList hg, e, before h.toList b.toList hh]
  rw [groups] at e
  exact ⟨String.toList_injective groups,
    String.toList_injective (List.cons.inj (List.append_cancel_left e)).2⟩

end View

end LayeredConfig
