import LayeredConfig.Proofs.Maps

/-! Tables laid one over the other. What is laid over later counts first, and the keys stay where
they first came, so that only the order of the tables matters and not how they are put together. -/
namespace LayeredConfig.Table

variable {α : Type}

private theorem keys_merge (t u : Table α) : (t.merge u).keys = (t.keys ++ u.keys).eraseDups :=
  keys_insertAll t u.entries

private theorem get?_insertAll_last (t : Table α) (l : List (String × α)) (k : String) :
    (t.insertAll l).get? k = (l.reverse.lookup k).or (t.get? k) := by
  induction l generalizing t with
  | nil => rfl
  | cons e r ih =>
    have later : (t.insertAll (e :: r)).get? k =
        (r.reverse.lookup k).or ((t.insert e.1 e.2).get? k) := ih (t.insert e.1 e.2)
    rw [later, List.reverse_cons, List.lookup_append, Option.or_assoc, get?_insert,
      KeyMap.lookup_cons_if]
    split <;> rfl

/-- Of pairs with one key the last one counts. -/
theorem get?_ofList (l : List (String × α)) (k : String) :
    (ofList l).get? k = l.reverse.lookup k := by
  rw [ofList, get?_insertAll_last, get?_empty, Option.or_none]

theorem keys_ofList (l : List (String × α)) : (ofList l).keys = (l.map (·.1)).eraseDups :=
  keys_insertAll empty l

/-- An entry can be set before or after its table is laid over another one. -/
theorem merge_insert (t u : Table α) (k : String) (v : α) :
    t.merge (u.insert k v) = (t.merge u).insert k v := by
  apply ext_get?
  · rw [keys_insert, keys_merge, keys_merge, keys_insert]
    by_cases known : k ∈ u.keys
    · have there : k ∈ (t.keys ++ u.keys).eraseDups := by simp [known]
      rw [if_pos known, if_pos there]
    · rw [if_neg known, ← List.append_assoc, eraseDups_concat]
      simp only [List.mem_eraseDups]
  · intro j
    rw [get?_insert, get?_merge, get?_merge, get?_insert]
    split <;> rfl

private theorem merge_insertAll (t u : Table α) (l : List (String × α)) :
    t.merge (u.insertAll l) = (t.merge u).insertAll l := by
  induction l generalizing u with
  | nil => rfl
  | cons e r ih =>
    have later := ih (u.insert e.1 e.2)
    rw [merge_insert] at later
    exact later

/-! The laws of laying over. -/

theorem merge_assoc (t u w : Table α) : (t.merge u).merge w = t.merge (u.merge w) :=
  (merge_insertAll t u w.entries).symm

theorem merge_empty (t : Table α) : t.merge empty = t := rfl

theorem empty_merge (t : Table α) : empty.merge t = t := by
  apply ext_get?
  · rw [keys_merge]
    exact eraseDups_of_nodup t.distinct
  · intro k
    rw [get?_merge, get?_empty, Option.or_none]

theorem merge_self (t : Table α) : t.merge t = t := by
  apply ext_get?
  · have again : t.keys.removeAll t.keys = [] :=
      List.filter_eq_nil_iff.mpr fun k hk => by simp [hk]
    rw [keys_merge, List.eraseDups_append, again, List.eraseDups_nil, List.append_nil]
    exact eraseDups_of_nodup t.distinct
  · intro k
    rw [get?_merge, Option.or_self]

/-- What was laid over last changes nothing a second time. -/
theorem merge_merge_self (t u : Table α) : (t.merge u).merge u = t.merge u := by
  rw [merge_assoc, merge_self]

/-- To lay a table of pairs over another one is to set the pairs. -/
theorem merge_ofList (t : Table α) (l : List (String × α)) : t.merge (ofList l) = t.insertAll l :=
  merge_insertAll t empty l

theorem ofList_append (a b : List (String × α)) :
    ofList (a ++ b) = (ofList a).merge (ofList b) := by
  rw [merge_ofList, ofList, ofList, insertAll, insertAll, insertAll, List.foldl_append]

end LayeredConfig.Table
