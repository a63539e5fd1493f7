import LayeredConfig.KeyMap
import LayeredConfig.Table

/-! Maps and tables are determined by what they hold under each key. -/
namespace LayeredConfig

variable {α β : Type}

/-- With distinct keys, a look-up finds exactly the pairs that are there. -/
theorem lookup_eq_some_iff_mem {l : List (String × α)} (h : (l.map (·.1)).Nodup)
    {k : String} {v : α} : l.lookup k = some v ↔ (k, v) ∈ l := by
  induction l with
  | nil => simp
  | cons e r ih =>
    obtain ⟨a, x⟩ := e
    have ⟨ha, hr⟩ := List.nodup_cons.mp h
    rw [KeyMap.lookup_cons_if, List.mem_cons]
    by_cases hk : k = a
    · subst hk
      have hn : (k, v) ∉ r := fun hm => ha (List.mem_map.mpr ⟨(k, v), hm, rfl⟩)
      simp [hn, eq_comm]
    · simp [hk, ih hr]

theorem setEntry_of_new {l : List (String × α)} {k : String} (h : k ∉ l.map (·.1)) (v : α) :
    setEntry k v l = l ++ [(k, v)] := by
  induction l with
  | nil => rfl
  | cons e r ih =>
    have ne : e.1 ≠ k := fun e => h (List.mem_cons.mpr (.inl e.symm))
    rw [setEntry, if_neg ne, ih fun later => h (List.mem_cons_of_mem _ later), List.cons_append]

theorem setEntry_of_position {l : List (String × α)} (distinct : (l.map (·.1)).Nodup)
    {k : String} {p : Nat} (h : (l.map (·.1))[p]? = some k) (v : α) :
    setEntry k v l = l.modify p fun e => (e.1, v) := by
  induction l generalizing p with
  | nil => cases h
  | cons e r ih =>
    obtain ⟨a, x⟩ := e
    have ⟨ha, hr⟩ := List.nodup_cons.mp distinct
    cases p with
    | zero =>
      obtain rfl : a = k := by simpa using h
      rw [setEntry, if_pos rfl, List.modify_zero_cons]
    | succ p =>
      have ne : a ≠ k := fun e => ha (e ▸ List.mem_of_getElem? h)
      rw [setEntry, if_neg ne, ih hr h, List.modify_succ_cons]

namespace KeyMap

theorem nodup_keys (m : KeyMap α) : m.keys.Nodup :=
  List.pairwise_map.mpr (m.sorted.imp fun h => String.ne_of_lt h)

theorem get?_eq_some_iff {m : KeyMap α} {k : String} {v : α} :
    m.get? k = some v ↔ (k, v) ∈ m.entries :=
  lookup_eq_some_iff_mem m.nodup_keys

theorem mem_insertSorted_iff {l : List (String × α)} (h : l.Pairwise (fun a b => a.1 < b.1))
    {k j : String} {v x : α} :
    (j, x) ∈ insertSorted k v l ↔ if j = k then x = v else (j, x) ∈ l := by
  let m : KeyMap α := ⟨l, h⟩
  have inserted : (j, x) ∈ insertSorted k v l ↔ (m.insert k v).get? j = some x :=
    (get?_eq_some_iff (m := m.insert k v)).symm
  rw [inserted, get?_insert]
  split
  · rw [Option.some.injEq, eq_comm]
  · exact get?_eq_some_iff (m := m)

private theorem nodup_entries (m : KeyMap α) : m.entries.Nodup :=
  m.sorted.imp fun h e => String.ne_of_lt h (congrArg Prod.fst e)

/-- Maps that hold the same under every key are the same. -/
theorem ext_get? {m n : KeyMap α} (h : ∀ k, m.get? k = n.get? k) : m = n := by
  apply ext
  have hp : m.entries.Perm n.entries := by
    rw [List.perm_ext_iff_of_nodup m.nodup_entries n.nodup_entries]
    intro e
    rw [← get?_eq_some_iff (k := e.1) (v := e.2), ← get?_eq_some_iff, h]
  -- Two keys that precede each other cannot be, so the order of the entries is forced.
  exact hp.eq_of_pairwise (fun a b _ _ hab hba => absurd (String.lt_trans hab hba)
    (String.lt_irrefl a.1)) m.sorted n.sorted

@[simp] theorem get?_map (f : α → β) (m : KeyMap α) (k : String) :
    (m.map f).get? k = (m.get? k).map f := by
  obtain ⟨l, s⟩ := m
  simp only [get?, map]
  clear s
  induction l with
  | nil => rfl
  | cons e r ih =>
    obtain ⟨a, x⟩ := e
    simp only [List.map_cons, lookup_cons_if, ih]
    split <;> rfl

theorem mem_keys_iff {m : KeyMap α} {k : String} : k ∈ m.keys ↔ ∃ v, m.get? k = some v := by
  rw [keys, List.mem_map]
  constructor
  · rintro ⟨e, he, rfl⟩
    exact ⟨e.2, get?_eq_some_iff.mpr he⟩
  · rintro ⟨v, hv⟩
    exact ⟨(k, v), get?_eq_some_iff.mp hv, rfl⟩

theorem mem_keys_ofList {l : List (String × α)} {k : String} :
    k ∈ (ofList l).keys ↔ k ∈ l.map (·.1) := by
  have added (m : KeyMap α) : k ∈ (l.foldl (fun m e => m.insert e.1 e.2) m).keys ↔
      k ∈ m.keys ∨ k ∈ l.map (·.1) := by
    induction l generalizing m with
    | nil => simp
    | cons e r ih =>
      have first : k ∈ (m.insert e.1 e.2).keys ↔ k = e.1 ∨ k ∈ m.keys := by
        rw [mem_keys_iff, mem_keys_iff, get?_insert]
        by_cases h : k = e.1 <;> simp [h]
      rw [List.foldl_cons, ih, first, List.map_cons, List.mem_cons, or_assoc, or_left_comm]
  have none : k ∉ (empty : KeyMap α).keys := List.not_mem_nil
  exact (added empty).trans (or_iff_right none)

/-- What a map of pairs holds is among the pairs. -/
theorem mem_of_get?_ofList {l : List (String × α)} {k : String} {v : α} :
    (ofList l).get? k = some v → (k, v) ∈ l := by
  have added (m : KeyMap α) : (l.foldl (fun m e => m.insert e.1 e.2) m).get? k = some v →
      (k, v) ∈ l ∨ m.get? k = some v := by
    induction l generalizing m with
    | nil => exact .inr
    | cons e r ih =>
      intro h
      rw [List.foldl_cons] at h
      rcases ih _ h with h | h
      · exact .inl (List.mem_cons_of_mem e h)
      · rw [get?_insert] at h
        split at h
        · next hk =>
          obtain rfl : e.2 = v := Option.some.inj h
          exact .inl (hk ▸ List.mem_cons_self)
        · exact .inr h
  intro h
  rcases added empty h with h | h
  · exact h
  · cases h

/-- Names with nothing to them are listed alike when they are the same names. -/
theorem keys_congr {m n : KeyMap Unit} (h : ∀ k, k ∈ m.keys ↔ k ∈ n.keys) : m.keys = n.keys := by
  refine congrArg keys (ext_get? fun k => Option.ext fun u => ?_)
  have hk := h k
  rw [mem_keys_iff, mem_keys_iff] at hk
  constructor
  · intro hm
    obtain ⟨_, hn⟩ := hk.mp ⟨u, hm⟩
    exact hn
  · intro hn
    obtain ⟨_, hm⟩ := hk.mpr ⟨u, hn⟩
    exact hm

def filter (keep : String → α → Bool) (m : KeyMap α) : KeyMap α :=
  ⟨m.entries.filter fun e => keep e.1 e.2, m.sorted.filter _⟩

theorem get?_filter_eq_some_iff {keep : String → α → Bool} {m : KeyMap α} {k : String} {v : α} :
    (m.filter keep).get? k = some v ↔ m.get? k = some v ∧ keep k v := by
  rw [get?_eq_some_iff, get?_eq_some_iff, filter, List.mem_filter]

end KeyMap

namespace Table

theorem get?_eq_some_iff {t : Table α} {k : String} {v : α} :
    t.get? k = some v ↔ (k, v) ∈ t.entries :=
  lookup_eq_some_iff_mem t.distinct

theorem mem_keys_iff {t : Table α} {k : String} : k ∈ t.keys ↔ ∃ v, t.get? k = some v := by
  rw [keys, List.mem_map]
  constructor
  · rintro ⟨e, he, rfl⟩
    exact ⟨e.2, get?_eq_some_iff.mpr he⟩
  · rintro ⟨v, hv⟩
    exact ⟨(k, v), get?_eq_some_iff.mp hv, rfl⟩

/-- The values stand in the order of their keys. -/
theorem map_some_values (t : Table α) : t.values.map some = t.keys.map t.get? := by
  rw [values, keys, List.map_map, List.map_map]
  apply List.map_congr_left
  intro e he
  exact (get?_eq_some_iff.mpr he).symm

/-- A value is found under the key in the same position. -/
theorem get?_of_position {t : Table α} {k : String} {p : Nat} (h : t.keys[p]? = some k) :
    t.get? k = t.values[p]? := by
  rw [keys, List.getElem?_map, Option.map_eq_some_iff] at h
  obtain ⟨e, he, rfl⟩ := h
  rw [get?_eq_some_iff.mpr (List.mem_of_getElem? he), values, List.getElem?_map, he]
  rfl

/-- A new value takes the position of its key, where there is one. -/
theorem values_insert_of_position {t : Table α} {k : String} {p : Nat} (h : t.keys[p]? = some k)
    (v : α) : (t.insert k v).values = t.values.set p v := by
  have entries : (t.insert k v).entries = t.entries.modify p fun e => (e.1, v) :=
    setEntry_of_position t.distinct h v
  rw [values, entries, values]
  ext i : 1
  grind

/-- The value of a new key comes last. -/
theorem values_insert_of_new {t : Table α} {k : String} (h : k ∉ t.keys) (v : α) :
    (t.insert k v).values = t.values ++ [v] :=
  (congrArg (List.map Prod.snd) (setEntry_of_new h v)).trans List.map_append

/-- Tables with the same keys in the same order and the same under each are the same. -/
theorem ext_get? {t u : Table α} (keys : t.keys = u.keys) (same : ∀ k, t.get? k = u.get? k) :
    t = u := by
  have values : t.values = u.values := by
    apply (List.map_inj_right fun _ _ => Option.some.inj).mp
    rw [map_some_values, map_some_values, keys, funext same]
  have pairs (t : Table α) : t.entries = t.keys.zip t.values := List.zip_of_prod rfl rfl
  exact ext (by rw [pairs t, pairs u, keys, values])

/-- Of pairs with distinct keys each one counts. -/
theorem get?_insertAll (t : Table α) {l : List (String × α)} (h : (l.map (·.1)).Nodup)
    (k : String) : (t.insertAll l).get? k = (l.lookup k).or (t.get? k) := by
  induction l generalizing t with
  | nil => rfl
  | cons e r ih =>
    obtain ⟨a, x⟩ := e
    have ⟨ha, hr⟩ := List.nodup_cons.mp h
    have later : (t.insertAll ((a, x) :: r)).get? k = (r.lookup k).or ((t.insert a x).get? k) :=
      ih (t.insert a x) hr
    rw [later, get?_insert, KeyMap.lookup_cons_if]
    by_cases hk : k = a
    · subst hk
      have absent : r.lookup k = none := by
        refine List.lookup_eq_none_iff.mpr fun e he => ?_
        have hne : k ≠ e.1 := fun hk => ha (List.mem_map.mpr ⟨e, he, hk.symm⟩)
        simpa using hne
      simp [absent]
    · simp [hk]

theorem get?_merge (t u : Table α) (k : String) :
    (t.merge u).get? k = (u.get? k).or (t.get? k) :=
  get?_insertAll t u.distinct k

theorem eraseDups_of_nodup {l : List String} (h : l.Nodup) : l.eraseDups = l := by
  induction l with
  | nil => rfl
  | cons a r ih =>
    have ⟨ha, hr⟩ := List.nodup_cons.mp h
    have others : r.filter (fun b => !b == a) = r := by
      refine List.filter_eq_self.mpr fun b hb => ?_
      have hne : b ≠ a := fun e => ha (e ▸ hb)
      simpa using hne
    rw [List.eraseDups_cons, others, ih hr]

/-- Only what is new adds to a list without repeats. -/
theorem eraseDups_concat (l : List String) (k : String) :
    (l ++ [k]).eraseDups = if k ∈ l then l.eraseDups else l.eraseDups ++ [k] := by
  rw [List.eraseDups_append]
  split
  · next there => simp [List.removeAll, there]
  · next new => simp [List.removeAll, new, List.eraseDups_cons]

/-- The keys stand in the order in which they first came. -/
theorem keys_insertAll (t : Table α) (l : List (String × α)) :
    (t.insertAll l).keys = (t.keys ++ l.map (·.1)).eraseDups := by
  induction l generalizing t with
  | nil =>
    rw [List.map_nil, List.append_nil]
    exact (eraseDups_of_nodup t.distinct).symm
  | cons e r ih =>
    have later : (t.insertAll (e :: r)).keys =
        ((t.insert e.1 e.2).keys ++ r.map (·.1)).eraseDups := ih (t.insert e.1 e.2)
    rw [later, keys_insert, List.map_cons]
    split
    · next there => simp [List.eraseDups_append, List.removeAll, there]
    · rw [List.append_assoc, List.singleton_append]

private theorem foldl_merge_eq_insertAll (t : Table α) (l : List (Table α)) :
    l.foldl merge t = t.insertAll (l.flatMap (·.entries)) := by
  induction l generalizing t with
  | nil => rfl
  | cons u r ih =>
    rw [List.foldl_cons, ih, List.flatMap_cons, insertAll, insertAll, List.foldl_append]
    rfl

/-- Of several tables laid one over the other, the last one that holds a key counts. -/
theorem get?_foldl_merge (t : Table α) (l : List (Table α)) (k : String) :
    (l.foldl merge t).get? k = (l.reverse.findSome? (·.get? k)).or (t.get? k) := by
  induction l generalizing t with
  | nil => rfl
  | cons u r ih =>
    rw [List.foldl_cons, ih, get?_merge, List.reverse_cons, List.findSome?_append, Option.or_assoc]
    simp

theorem keys_foldl_merge (t : Table α) (l : List (Table α)) :
    (l.foldl merge t).keys = (t.keys ++ l.flatMap keys).eraseDups := by
  rw [foldl_merge_eq_insertAll, keys_insertAll, List.map_flatMap]
  rfl

end Table

end LayeredConfig
