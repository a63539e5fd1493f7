import LayeredConfig.KeyMap

/-! Keyed entries in the order in which their keys were first set. -/
namespace LayeredConfig

/-- Sets the entry of `k`: in its place when there is one, else at the end. -/
def setEntry {α : Type} (k : String) (v : α) : List (String × α) → List (String × α)
  | [] => [(k, v)]
  | (a, x) :: r => if a = k then (a, v) :: r else (a, x) :: setEntry k v r

/-- Entries with different keys; a key keeps the position where it was first set. -/
structure Table (α : Type) where
  entries : List (String × α)
  distinct : (entries.map (·.1)).Nodup := by simp

theorem mem_setEntry {α : Type} {k : String} {v : α} {e : String × α} {l : List (String × α)}
    (h : e ∈ setEntry k v l) : e = (k, v) ∨ e ∈ l := by
  induction l with
  | nil => simpa [setEntry] using h
  | cons a r ih =>
    obtain ⟨a, x⟩ := a
    simp only [setEntry] at h
    split at h
    · next eq =>
      subst eq
      rcases List.mem_cons.mp h with h | h
      · exact .inl h
      · exact .inr (List.mem_cons_of_mem _ h)
    · rcases List.mem_cons.mp h with h | h
      · exact .inr (by simp [h])
      · exact (ih h).imp id (List.mem_cons_of_mem _)

/-- Setting an entry adds its key at the end unless it is there. -/
theorem keys_setEntry {α : Type} (k : String) (v : α) (l : List (String × α)) :
    (setEntry k v l).map (·.1) =
      if k ∈ l.map (·.1) then l.map (·.1) else l.map (·.1) ++ [k] := by
  induction l with
  | nil => simp [setEntry]
  | cons a r ih =>
    obtain ⟨a, x⟩ := a
    simp only [setEntry]
    split
    · next eq => subst eq; simp
    · next ne =>
      rw [List.map_cons, ih]
      by_cases h : k ∈ r.map (·.1)
      · simp [h]
      · have hk : ¬ k ∈ ((a, x) :: r).map (·.1) := by
          simp only [List.map_cons, List.mem_cons, not_or]
          exact ⟨Ne.symm ne, h⟩
        rw [if_neg h, if_neg hk]; simp

theorem nodup_setEntry {α : Type} (k : String) (v : α) {l : List (String × α)}
    (h : (l.map (·.1)).Nodup) : ((setEntry k v l).map (·.1)).Nodup := by
  rw [keys_setEntry]
  split
  · exact h
  · next n =>
    refine List.nodup_append.mpr ⟨h, by simp, fun a ha b hb => ?_⟩
    rw [List.mem_singleton.mp hb]
    exact fun e => n (e ▸ ha)

theorem lookup_setEntry {α : Type} (k : String) (v : α) (l : List (String × α)) (j : String) :
    (setEntry k v l).lookup j = if j = k then some v else l.lookup j := by
  induction l with
  | nil => simp [setEntry, KeyMap.lookup_cons_if]
  | cons a r ih =>
    obtain ⟨a, x⟩ := a
    simp only [setEntry]
    split
    · next eq => subst eq; simp only [KeyMap.lookup_cons_if]; split <;> rfl
    · next ne =>
      simp only [KeyMap.lookup_cons_if, ih]
      by_cases h : j = a
      · subst h; simp [ne]
      · simp [h]

namespace Table

variable {α : Type}

def empty : Table α := ⟨[], by simp⟩

instance : Inhabited (Table α) := ⟨empty⟩

def get? (t : Table α) (k : String) : Option α := t.entries.lookup k

def contains (t : Table α) (k : String) : Bool := (t.get? k).isSome

/-- Holds `v` under `k`, in the place of an earlier value when there is one. -/
def insert (t : Table α) (k : String) (v : α) : Table α :=
  ⟨setEntry k v t.entries, nodup_setEntry k v t.distinct⟩

def insertAll (t : Table α) (l : List (String × α)) : Table α :=
  l.foldl (fun t e => t.insert e.1 e.2) t

/-- Later pairs win. -/
def ofList (l : List (String × α)) : Table α := empty.insertAll l

def merge (t later : Table α) : Table α := t.insertAll later.entries

def keys (t : Table α) : List String := t.entries.map (·.1)

def values (t : Table α) : List α := t.entries.map (·.2)

def size (t : Table α) : Nat := t.entries.length

theorem ext {s t : Table α} (h : s.entries = t.entries) : s = t := by
  cases s; cases t; simp_all

instance [DecidableEq α] : DecidableEq (Table α) := fun s t =>
  if h : s.entries = t.entries then .isTrue (ext h) else .isFalse fun e => h (e ▸ rfl)

@[simp] theorem get?_empty (k : String) : (empty : Table α).get? k = none := rfl

@[simp] theorem get?_insert (t : Table α) (k : String) (v : α) (j : String) :
    (t.insert k v).get? j = if j = k then some v else t.get? j :=
  lookup_setEntry k v t.entries j

/-- A new key goes to the end, and a known one keeps its place. -/
theorem keys_insert (t : Table α) (k : String) (v : α) :
    (t.insert k v).keys = if k ∈ t.keys then t.keys else t.keys ++ [k] :=
  keys_setEntry k v t.entries

end Table

end LayeredConfig
