/-! Finite maps from texts, kept in the order of their keys. -/
namespace LayeredConfig

/-- Puts an entry in its place in a list ordered by key; an entry with the same key gives way. -/
def insertSorted {α : Type} (k : String) (v : α) : List (String × α) → List (String × α)
  | [] => [(k, v)]
  | (a, x) :: r =>
    if k < a then (k, v) :: (a, x) :: r
    else if k = a then (k, v) :: r
    else (a, x) :: insertSorted k v r

/-- A map whose entries stand in the order of their keys, so that equal maps have equal entries. -/
structure KeyMap (α : Type) where
  entries : List (String × α)
  sorted : entries.Pairwise (fun a b => a.1 < b.1) := by simp

theorem mem_insertSorted {α : Type} {k : String} {v : α} {e : String × α}
    {l : List (String × α)} (h : e ∈ insertSorted k v l) : e = (k, v) ∨ e ∈ l := by
  induction l with
  | nil => simpa [insertSorted] using h
  | cons a r ih =>
    obtain ⟨a, x⟩ := a
    simp only [insertSorted] at h
    split at h
    · simpa using h
    · split at h
      · rcases List.mem_cons.mp h with h | h
        · exact .inl h
        · exact .inr (List.mem_cons_of_mem _ h)
      · rcases List.mem_cons.mp h with h | h
        · exact .inr (by simp [h])
        · exact (ih h).imp id (List.mem_cons_of_mem _)

private theorem lt_of_not_lt_of_ne {a b : String} (h : ¬ a < b) (n : a ≠ b) : b < a := by
  rcases String.le_total b a with hb | hb
  · exact String.not_le.mp fun hab => n (String.le_antisymm hab hb)
  · exact absurd (String.not_le.mp fun hba => n (String.le_antisymm hb hba)) h

theorem insertSorted_sorted {α : Type} (k : String) (v : α) {l : List (String × α)}
    (h : l.Pairwise (fun a b => a.1 < b.1)) :
    (insertSorted k v l).Pairwise (fun a b => a.1 < b.1) := by
  induction l with
  | nil => simp [insertSorted]
  | cons a r ih =>
    obtain ⟨a, x⟩ := a
    have ⟨hd, tl⟩ := List.pairwise_cons.mp h
    simp only [insertSorted]
    split
    · next lt =>
      refine List.pairwise_cons.mpr ⟨fun e he => ?_, h⟩
      rcases List.mem_cons.mp he with he | he
      · exact he ▸ lt
      · exact String.lt_trans lt (hd e he)
    · next nlt =>
      split
      · next eq => exact List.pairwise_cons.mpr ⟨fun e he => eq ▸ hd e he, tl⟩
      · next ne =>
        refine List.pairwise_cons.mpr ⟨fun e he => ?_, ih tl⟩
        rcases mem_insertSorted he with he | he
        · exact he ▸ lt_of_not_lt_of_ne nlt ne
        · exact hd e he

namespace KeyMap

variable {α β : Type}

def empty : KeyMap α := ⟨[], by simp⟩

instance : Inhabited (KeyMap α) := ⟨empty⟩

def get? (m : KeyMap α) (k : String) : Option α := m.entries.lookup k

def contains (m : KeyMap α) (k : String) : Bool := (m.get? k).isSome

def insert (m : KeyMap α) (k : String) (v : α) : KeyMap α :=
  ⟨insertSorted k v m.entries, insertSorted_sorted k v m.sorted⟩

def erase (m : KeyMap α) (k : String) : KeyMap α :=
  ⟨m.entries.filter (·.1 != k), m.sorted.filter _⟩

def keys (m : KeyMap α) : List String := m.entries.map (·.1)

/-- Later pairs win. -/
def ofList (l : List (String × α)) : KeyMap α := l.foldl (fun m e => m.insert e.1 e.2) empty

def map (f : α → β) (m : KeyMap α) : KeyMap β :=
  ⟨m.entries.map fun e => (e.1, f e.2), by
    rw [List.pairwise_map]; exact m.sorted⟩

theorem ext {m n : KeyMap α} (h : m.entries = n.entries) : m = n := by
  cases m; cases n; simp_all

instance [DecidableEq α] : DecidableEq (KeyMap α) := fun m n =>
  if h : m.entries = n.entries then .isTrue (ext h) else .isFalse fun e => h (e ▸ rfl)

theorem lookup_cons_if (a : String) (x : α) (l : List (String × α)) (j : String) :
    ((a, x) :: l).lookup j = if j = a then some x else l.lookup j := by
  rw [List.lookup_cons]
  by_cases h : j = a
  · simp [h]
  · rw [if_neg h, beq_eq_false_iff_ne.mpr h]

private theorem lookup_insertSorted (k : String) (v : α) (l : List (String × α)) (j : String) :
    (insertSorted k v l).lookup j = if j = k then some v else l.lookup j := by
  induction l with
  | nil => simp [insertSorted, lookup_cons_if]
  | cons a r ih =>
    obtain ⟨a, x⟩ := a
    simp only [insertSorted]
    split
    · simp only [lookup_cons_if]
    · split
      · next h => subst h; simp only [lookup_cons_if]; split <;> rfl
      · next ne =>
        simp only [lookup_cons_if, ih]
        by_cases h : j = a
        · subst h; simp [Ne.symm ne]
        · simp [h]

@[simp] theorem get?_empty (k : String) : (empty : KeyMap α).get? k = none := rfl

@[simp] theorem get?_insert (m : KeyMap α) (k : String) (v : α) (j : String) :
    (m.insert k v).get? j = if j = k then some v else m.get? j :=
  lookup_insertSorted k v m.entries j

@[simp] theorem get?_erase (m : KeyMap α) (k j : String) :
    (m.erase k).get? j = if j = k then none else m.get? j := by
  obtain ⟨l, s⟩ := m
  simp only [get?, erase]
  clear s
  induction l with
  | nil => simp
  | cons a r ih =>
    obtain ⟨a, x⟩ := a
    by_cases ha : a = k
    · subst ha
      simp only [List.filter_cons, bne_self_eq_false, Bool.false_eq_true, ite_false,
        lookup_cons_if, ih]
      split <;> simp [*]
    · have hb : (a != k) = true := by simpa using ha
      simp only [List.filter_cons, hb, ite_true, lookup_cons_if, ih]
      by_cases h : j = a
      · subst h; simp [ha]
      · simp [h]

end KeyMap

end LayeredConfig
