import LayeredConfig.Proofs.Schema.Groups
import LayeredConfig.Proofs.Schema.Registry

/-! Groups against the whole. A group takes its members by the group they belong to and gets them by
their full names, and both lead to the same settings, whatever was registered again. -/
namespace LayeredConfig

/-- The settings that registrations leave, in the order in which their names first came. -/
def Registration.left (regs : List Registration) : List Setting :=
  (regs.filterMap name?).eraseDups.filterMap (last? regs)

namespace Schema

variable {c : Schema} {g : String} {s : Setting}

private theorem list_eq_filterMap (c : Schema) : c.list = c.names.filterMap c.find? := by
  have found : c.list.map some = c.names.map c.find? := by
    rw [names_eq_keys]
    exact c.settings.map_some_values
  simpa using congrArg (List.filterMap id) found

private theorem list_made (k : Nat) (regs : List Registration) :
    (made k regs).list = Registration.left regs := by
  rw [list_eq_filterMap, names_made, Registration.left]
  exact List.filterMap_congr fun n _ => find?_made k regs n

private theorem home_of_mem_members (h : s ∈ c.members g) : s.home = (some g, s.accessor) :=
  Prod.ext (of_decide_eq_true (List.mem_filter.mp h).2) rfl

/-- No two members of a group have one accessor. -/
theorem nodup_accessors (c : Schema) (g : String) : ((c.members g).map (·.accessor)).Nodup := by
  have homes : ((c.members g).map Setting.home).Nodup :=
    c.nodup_homes.sublist (List.filter_sublist.map Setting.home)
  have same : (c.members g).map Setting.home =
      ((c.members g).map (·.accessor)).map fun a => (some g, a) := by
    rw [List.map_map]
    exact List.map_congr_left fun s hs => home_of_mem_members hs
  exact (same ▸ homes).of_map

private theorem eq_of_name {t : Setting} (hs : s ∈ c.list) (ht : t ∈ c.list) (h : t.name = s.name) :
    t = s :=
  Option.some.inj ((find?_of_mem_list ht).symm.trans (h ▸ find?_of_mem_list hs))

end Schema

namespace View
open Resolving

variable {v : View} {key : Setting → String} {l : List Setting} {m : KeyMap Value} {g a : String}
  {st t u : Session}

/-- A map has the keys of some settings, and holds for a key what a setting with that key comes to
in a session. -/
structure Maps (v : View) (key : Setting → String) (l : List Setting) (m : KeyMap Value)
    (u : Session) : Prop where
  keys : ∀ n, n ∈ m.keys ↔ n ∈ l.map key
  values : ∀ n x, m.get? n = some x → ∃ s ∈ l, key s = n ∧ ((v.resolve s).runFrom u).1 = .ok x

/-- A map of declared settings stays right after any operations. -/
theorem Straight.maps_after (straight : v.Straight) (declared : ∀ s ∈ l, s ∈ v.schema.list)
    (h : ((mapBy v.resolve key l).runFrom st).1 = .ok m) (ops : List Operation) :
    v.Maps key l m (v.after ((mapBy v.resolve key l).runFrom st).2 ops) := by
  rw [runFrom_mapBy] at h ⊢
  rcases hv : (l.mapM v.resolve).runFrom st with ⟨f | xs, t⟩
  · rw [hv] at h
    cases h
  · rw [hv] at h
    cases h
    have each := straight.resolved_after declared hv ops
    have length := each.length_eq
    constructor
    · intro n
      rw [KeyMap.mem_keys_ofList, List.map_fst_zip (by simp [length])]
    · intro n x hx
      have there := KeyMap.mem_of_get?_ofList hx
      rw [List.zip_map_left, List.mem_map] at there
      obtain ⟨⟨s, y⟩, pair, same⟩ := there
      obtain ⟨rfl, rfl⟩ := Prod.mk.inj same
      obtain ⟨hs, value⟩ := List.forall₂_zip each pair
      exact ⟨s, hs, rfl, value⟩

/-- A map of a group and a map of all settings hold the same for each member. -/
theorem Maps.agree {M : KeyMap Value} (group : v.Maps (·.accessor) (v.schema.members g) m u)
    (whole : v.Maps Setting.name v.schema.list M u) (member : a ∈ v.groupNames g) :
    ∃ x, m.get? a = some x ∧ M.get? (memberName g a) = some x := by
  obtain ⟨x, hx⟩ := KeyMap.mem_keys_iff.mp ((group.keys a).mpr member)
  obtain ⟨s, hs, rfl, value⟩ := group.values a x hx
  have declared := Schema.mem_list_of_mem_members hs
  have name := Setting.name_of_home_grouped (Schema.home_of_mem_members hs)
  have there : memberName g s.accessor ∈ M.keys :=
    (whole.keys _).mpr (name ▸ Schema.mem_names declared)
  obtain ⟨y, hy⟩ := KeyMap.mem_keys_iff.mp there
  obtain ⟨s', hs', name', value'⟩ := whole.values _ y hy
  obtain rfl : s' = s := Schema.eq_of_name declared hs' (name'.trans name.symm)
  obtain rfl : x = y := Except.ok.inj (value.symm.trans value')
  exact ⟨x, hx, hy⟩

/-- After one more operation comes what that operation leaves. -/
theorem after_concat {α : Type} {op : Operation} {x : Resolving α} {f : α → Answer}
    (run : op.run v = do return f (← x)) (st : Session) (ops : List Operation) :
    v.after st (ops ++ [op]) = (x.runFrom (v.after st ops)).2 := by
  have last : v.after st (ops ++ [op]) = ((op.run v).runFrom (v.after st ops)).2 := by
    rw [after, List.foldl_append]
    rfl
  rw [last, run, runFrom_bind]
  rcases x.runFrom (v.after st ops) with ⟨_ | _, _⟩ <;> rfl

/-- What a group came to in a list is what its members come to after any operations. -/
theorem Straight.groupGet_after (straight : v.Straight) {xs : List Value}
    (h : (v.groupValues g).runFrom st = (.ok xs, t)) (ops : List Operation) :
    List.Forall₂ (fun a x => ((v.groupGet g a).runFrom (v.after t ops)).1 = .ok x)
      (v.groupNames g) xs := by
  have declared : ∀ s ∈ v.schema.members g, s ∈ v.schema.list :=
    fun s hs => Schema.mem_list_of_mem_members hs
  rw [groupNames, List.forall₂_map_left_iff]
  refine (straight.resolved_after declared h ops).imp ?_
  rintro s x ⟨hs, hx⟩
  rw [groupGet_of_home (declared s hs) (Schema.home_of_mem_members hs)]
  exact hx

/-- Groups agree with the whole. A group lists the accessors of its members, each once, in the order
in which their names were first registered. Where it gives all its values they stand in that order,
and each is what is got for the member afterwards, from the group or by the full name. Where it
gives a map, that has one entry for each member and no other, and a map of all settings holds the
same under the full name, whichever of the two maps is made first and whatever is asked between. -/
theorem group_agrees (k : Nat) (regs : List Registration) (layers : Layers) (root : Option String)
    (placeholders : Option Bool) :
    let v : View := ⟨.made k regs, layers, root, placeholders⟩
    v.Straight → ∀ (g : String) (st : Session),
    ((v.groupNames g).Nodup ∧
      v.groupNames g =
        ((Registration.left regs).filter fun s => s.group = some g).map (·.accessor)) ∧
    (∀ xs : List Value, ((v.groupValues g).runFrom st).1 = .ok xs →
      xs.length = (v.groupNames g).length ∧
      ∀ (i : Nat) a x, (v.groupNames g)[i]? = some a → xs[i]? = some x → ∀ ops,
        let u := v.after ((v.groupValues g).runFrom st).2 ops
        ((v.get (memberName g a)).runFrom u).1 = .ok x ∧
          ((v.groupGet g a).runFrom u).1 = .ok x) ∧
    (∀ m : KeyMap Value, ((v.groupMap g).runFrom st).1 = .ok m →
      m.keys.Perm (v.groupNames g) ∧
      ∀ ops M, (v.toMap.runFrom (v.after ((v.groupMap g).runFrom st).2 ops)).1 = .ok M →
        ∀ a ∈ v.groupNames g, ∃ x, m.get? a = some x ∧ M.get? (memberName g a) = some x) ∧
    ∀ M : KeyMap Value, (v.toMap.runFrom st).1 = .ok M → ∀ ops m,
      ((v.groupMap g).runFrom (v.after (v.toMap.runFrom st).2 ops)).1 = .ok m →
        ∀ a ∈ v.groupNames g, ∃ x, m.get? a = some x ∧ M.get? (memberName g a) = some x := by
  intro v straight g st
  have all : ∀ s ∈ v.schema.list, s ∈ v.schema.list := fun s hs => hs
  have members : ∀ s ∈ v.schema.members g, s ∈ v.schema.list :=
    fun s hs => Schema.mem_list_of_mem_members hs
  have distinct : (v.groupNames g).Nodup := v.schema.nodup_accessors g
  refine ⟨⟨distinct, ?_⟩, fun xs h => ?_, fun m hm => ⟨?_, fun ops M hM a member => ?_⟩,
    fun M hM ops m hm a member => ?_⟩
  · rw [groupNames, Schema.members, ← Schema.list_made k]
  · have each := straight.groupGet_after (Prod.ext h rfl)
    refine ⟨(each []).length_eq.symm, fun i a x ha hx ops => ?_⟩
    obtain ⟨hi, rfl⟩ := List.getElem?_eq_some_iff.mp ha
    obtain ⟨hj, rfl⟩ := List.getElem?_eq_some_iff.mp hx
    have got := (each ops).get hi hj
    exact ⟨got, got⟩
  · rw [List.perm_ext_iff_of_nodup m.nodup_keys distinct]
    exact (straight.maps_after members hm []).keys
  · -- The two maps are compared in the session that the second one leaves.
    have group := straight.maps_after members hm (ops ++ [.toMap])
    rw [after_concat rfl] at group
    exact group.agree (straight.maps_after all hM []) member
  · have whole := straight.maps_after all hM (ops ++ [.groupMap g])
    rw [after_concat rfl] at whole
    exact (straight.maps_after members hm []).agree whole member

private theorem exists_of_isOk {α : Type} {r : Except Failure α} (h : r.isOk = true) :
    ∃ x, r = .ok x := by
  cases r with
  | ok x => exact ⟨x, rfl⟩
  | error f => cases h

/-- A member that is registered again, one that gives way to a setting outside of the group, and one
that refers to the first. -/
def storeRegistrations : List Registration :=
  [.setting { Setting.ofVar "OLD_USER" .text with group := some "db", accessor := "user" },
   .setting { Setting.ofVar "DB_LOG" .text with group := some "db", accessor := "log" },
   .setting { Setting.ofVar "DB_PASS" .text with
      group := some "db", accessor := "pass",
      fallback := some (.deferred [.reference "db.user" none, .literal "!"]) },
   .setting { Setting.ofVar "LOG" .text with accessor := "db.log" },
   .setting { Setting.ofVar "DB_USER" .text with group := some "db", accessor := "user" }]

def storeView : View :=
  ⟨.made 2 storeRegistrations, ⟨{ vars := KeyMap.empty }, .empty⟩, none, some true⟩

/-- The settings here get their values from placeholders that the group's map writes. -/
theorem group_agrees_store :
    storeView.Straight ∧ storeView.groupNames "db" = ["user", "pass"] ∧
      ∃ m M x, ((storeView.groupMap "db").runFrom bareSession).1 = .ok m ∧
        (storeView.toMap.runFrom (storeView.after
          ((storeView.groupMap "db").runFrom bareSession).2 [.get "db.log"])).1 = .ok M ∧
        m.get? "pass" = some x ∧ M.get? "db.pass" = some x := by
  have straight : storeView.Straight := ⟨by decide +kernel, by decide +kernel⟩
  have names : storeView.groupNames "db" = ["user", "pass"] := by decide +kernel
  obtain ⟨m, hm⟩ : ∃ m, ((storeView.groupMap "db").runFrom bareSession).1 = .ok m :=
    exists_of_isOk (by decide +kernel)
  obtain ⟨M, hM⟩ : ∃ M, (storeView.toMap.runFrom (storeView.after
      ((storeView.groupMap "db").runFrom bareSession).2 [.get "db.log"])).1 = .ok M :=
    exists_of_isOk (by decide +kernel)
  obtain ⟨-, -, maps, -⟩ :=
    group_agrees 2 storeRegistrations ⟨{ vars := KeyMap.empty }, .empty⟩ none (some true) straight "db"
      bareSession
  have member : "pass" ∈ storeView.groupNames "db" := by simp [names]
  obtain ⟨x, hx, hy⟩ := (maps m hm).2 [.get "db.log"] M hM "pass" member
  exact ⟨straight, names, m, M, x, hm, hM, hx, hy⟩

end View

end LayeredConfig
