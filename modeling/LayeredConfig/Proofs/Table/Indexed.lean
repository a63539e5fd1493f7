import Mathlib.Data.Finset.Card
import LayeredConfig.Proofs.Table.Overlay

/-! Tables kept as a row of entries with the position of each key beside it. The positions are those
of the keys however a table comes about, so that such a table holds just what its entries say, and
laying one over another obeys the laws of tables. -/
namespace LayeredConfig

/-- Each text has the position where it stands in a list. -/
def KeyMap.Places (m : KeyMap Nat) (l : List String) : Prop :=
  ∀ k p, m.get? k = some p ↔ l[p]? = some k

namespace KeyMap.Places

variable {m n : KeyMap Nat} {l : List String} {k : String}

theorem empty : KeyMap.empty.Places [] := fun _ _ => ⟨nofun, nofun⟩

theorem not_mem (h : m.Places l) (absent : m.get? k = none) : k ∉ l := by
  intro there
  obtain ⟨p, hp⟩ := List.mem_iff_getElem?.mp there
  rw [(h k p).mpr hp] at absent
  cases absent

/-- What is new gets the position behind all others. -/
theorem concat (h : m.Places l) (new : k ∉ l) : (m.insert k l.length).Places (l ++ [k]) := by
  intro j p
  have last : (l ++ [k])[p]? = some j ↔ l[p]? = some j ∨ p = l.length ∧ j = k := by grind
  rw [get?_insert, last]
  split
  · next same =>
    subst same
    have before : l[p]? ≠ some j := fun there => new (List.mem_of_getElem? there)
    simp [before, eq_comm]
  · next other => simp [other, h j p]

theorem unique (h : m.Places l) (h' : n.Places l) : m = n :=
  KeyMap.ext_get? fun k => Option.ext fun p => (h k p).trans (h' k p).symm

end KeyMap.Places

/-- Entries in a row, and the positions of their keys. -/
structure IndexedTable (α : Type) where
  entries : List (String × α) := []
  positions : KeyMap Nat := .empty

namespace IndexedTable

variable {α : Type} {m n : IndexedTable α} {t u : Table α}

/-- Holds `v` under `k`: at the position of `k` when it has one, else behind all entries. -/
def insert (m : IndexedTable α) (k : String) (v : α) : IndexedTable α :=
  match m.positions.get? k with
  | some p => { m with entries := m.entries.modify p fun e => (e.1, v) }
  | none => ⟨m.entries ++ [(k, v)], m.positions.insert k m.entries.length⟩

def insertAll (m : IndexedTable α) (l : List (String × α)) : IndexedTable α :=
  l.foldl (fun m e => m.insert e.1 e.2) m

def ofList (l : List (String × α)) : IndexedTable α := insertAll {} l

def merge (m later : IndexedTable α) : IndexedTable α := m.insertAll later.entries

def get? (m : IndexedTable α) (k : String) : Option α :=
  (m.positions.get? k).bind fun p => m.entries[p]?.map (·.2)

def contains (m : IndexedTable α) (k : String) : Bool := (m.positions.get? k).isSome

def keys (m : IndexedTable α) : List String := m.entries.map (·.1)

def size (m : IndexedTable α) : Nat := m.entries.length

/-- A row of entries holds those of a table, with the positions of their keys. -/
structure Keeps (m : IndexedTable α) (t : Table α) : Prop where
  entries : m.entries = t.entries
  positions : m.positions.Places t.keys

theorem keeps_empty : Keeps ({} : IndexedTable α) .empty := ⟨rfl, .empty⟩

namespace Keeps

theorem keys (h : m.Keeps t) : m.keys = t.keys := congrArg (List.map Prod.fst) h.entries

/-- What setting an entry keeps: a known key has its position already, and a new one comes last. -/
theorem insert (h : m.Keeps t) (k : String) (v : α) : (m.insert k v).Keeps (t.insert k v) := by
  have keys := t.keys_insert k v
  cases found : m.positions.get? k with
  | some p =>
    have there : t.keys[p]? = some k := (h.positions k p).mp found
    rw [if_pos (List.mem_of_getElem? there)] at keys
    rw [IndexedTable.insert, found]
    refine ⟨?_, keys ▸ h.positions⟩
    rw [h.entries]
    exact (setEntry_of_position t.distinct there v).symm
  | none =>
    have new : k ∉ t.keys := h.positions.not_mem found
    rw [if_neg new] at keys
    have length : m.entries.length = t.keys.length := by rw [h.entries, Table.keys, List.length_map]
    rw [IndexedTable.insert, found, length]
    refine ⟨?_, keys ▸ h.positions.concat new⟩
    rw [h.entries]
    exact (setEntry_of_new new v).symm

theorem insertAll (h : m.Keeps t) (l : List (String × α)) :
    (m.insertAll l).Keeps (t.insertAll l) := by
  induction l generalizing m t with
  | nil => exact h
  | cons e r ih => exact ih (h.insert e.1 e.2)

theorem merge (h : m.Keeps t) (h' : n.Keeps u) : (m.merge n).Keeps (t.merge u) := by
  rw [IndexedTable.merge, h'.entries]
  exact h.insertAll u.entries

/-- Positions lead to the values that keys stand for. -/
theorem get? (h : m.Keeps t) (k : String) : m.get? k = t.get? k := by
  rw [IndexedTable.get?]
  cases found : m.positions.get? k with
  | some p =>
    rw [Table.get?_of_position ((h.positions k p).mp found), Option.bind_some, h.entries,
      Table.values, List.getElem?_map]
  | none =>
    have absent := h.positions.not_mem found
    rw [Table.mem_keys_iff] at absent
    exact (Option.eq_none_iff_forall_ne_some.mpr fun v hv => absent ⟨v, hv⟩).symm

theorem contains (h : m.Keeps t) (k : String) : m.contains k = t.contains k := by
  rw [IndexedTable.contains, Table.contains, Bool.eq_iff_iff, Option.isSome_iff_exists,
    Option.isSome_iff_exists, ← Table.mem_keys_iff, List.mem_iff_getElem?]
  exact exists_congr fun p => h.positions k p

/-- The entries determine the positions. -/
theorem eq_iff (h : m.Keeps t) (h' : n.Keeps u) : m = n ↔ m.entries = n.entries := by
  refine ⟨congrArg IndexedTable.entries, fun same => ?_⟩
  obtain rfl : t = u := Table.ext (by rw [← h.entries, same, h'.entries])
  have positions := h.positions.unique h'.positions
  cases m
  cases n
  cases same
  cases positions
  rfl

/-- What is kept of one table is one and the same. -/
theorem unique (h : m.Keeps t) (h' : n.Keeps t) : m = n :=
  (h.eq_iff h').mpr (h.entries.trans h'.entries.symm)

end Keeps

end IndexedTable

/-- A way in which a table comes about. -/
inductive Making (α : Type) where
  | collect (pairs : List (String × α))
  | insert (m : Making α) (k : String) (v : α)
  | merge (m later : Making α)

namespace Making

variable {α : Type}

def table : Making α → Table α
  | collect l => .ofList l
  | insert m k v => m.table.insert k v
  | merge m later => m.table.merge later.table

def indexed : Making α → IndexedTable α
  | collect l => .ofList l
  | insert m k v => m.indexed.insert k v
  | merge m later => m.indexed.merge later.indexed

def pairs : Making α → List (String × α)
  | collect l => l
  | insert m k v => m.pairs ++ [(k, v)]
  | merge m later => m.pairs ++ later.pairs

/-- Only the pairs count, not how they came together. -/
theorem table_eq_ofList (m : Making α) : m.table = .ofList m.pairs := by
  induction m with
  | collect l => rfl
  | insert m k v ih => rw [table, pairs, ih, Table.ofList_append, Table.merge_ofList]; rfl
  | merge m later ih ih' => rw [table, pairs, ih, ih', Table.ofList_append]

private theorem keeps (m : Making α) : m.indexed.Keeps m.table := by
  induction m with
  | collect l => exact IndexedTable.keeps_empty.insertAll l
  | insert m k v ih => exact ih.insert k v
  | merge m later ih ih' => exact ih.merge ih'

/-- Makings of one table leave the same. -/
theorem indexed_eq {m n : Making α} (h : m.table = n.table) : m.indexed = n.indexed :=
  m.keeps.unique (h ▸ n.keeps)

private theorem size_indexed (m : Making α) :
    m.indexed.size = (m.pairs.map (·.1)).toFinset.card := by
  have length : m.indexed.size = m.table.keys.length := by
    rw [← m.keeps.keys, IndexedTable.keys, List.length_map]
    rfl
  have same : (m.pairs.map (·.1)).toFinset = m.table.keys.toFinset := by
    rw [m.table_eq_ofList, Table.keys_ofList]
    ext k
    simp only [List.mem_toFinset, List.mem_eraseDups]
  have distinct : m.table.keys.Nodup := m.table.distinct
  rw [length, same, List.toFinset_card_of_nodup distinct]

/-- However a table comes about, its keys stand where they were first set, each has its position in
the index, and under each the value that was set last is found; there are as many entries as
different keys. Of a table laid over another one its own values count first. Pairs can be collected
in parts, tables can be laid over each other in any grouping, the empty one changes nothing, and
nor does a table laid over itself or over one that it was laid over last. Tables with the same
entries are the same, with their positions. -/
theorem overlay_laws :
    (∀ m : Making α, let t := m.indexed
      (t.keys = (m.pairs.map (·.1)).eraseDups ∧ t.keys.Nodup) ∧ t.positions.Places t.keys ∧
      (∀ k, t.get? k = m.pairs.reverse.lookup k ∧ (t.get? k = none ↔ t.contains k = false)) ∧
      t.size = (m.pairs.map (·.1)).toFinset.card ∧
      t.entries = m.table.entries ∧ ∀ k, t.get? k = m.table.get? k) ∧
    (∀ (m o : Making α) k,
      (m.merge o).indexed.get? k = (o.indexed.get? k).or (m.indexed.get? k)) ∧
    (∀ a b : List (String × α),
      (collect (a ++ b)).indexed = ((collect a).merge (collect b)).indexed) ∧
    (∀ m o u : Making α, ((m.merge o).merge u).indexed = (m.merge (o.merge u)).indexed) ∧
    (∀ m : Making α, ((collect []).merge m).indexed = m.indexed ∧
      (m.merge (collect [])).indexed = m.indexed ∧ (m.merge m).indexed = m.indexed) ∧
    (∀ m o : Making α, ((m.merge o).merge o).indexed = (m.merge o).indexed) ∧
    ∀ m o : Making α, m.indexed = o.indexed ↔ m.indexed.entries = o.indexed.entries := by
  refine ⟨fun m => ?_, fun m o k => ?_, fun a b => indexed_eq (Table.ofList_append a b),
    fun m o u => indexed_eq (Table.merge_assoc _ _ _),
    fun m => ⟨indexed_eq (Table.empty_merge _), indexed_eq (Table.merge_empty _),
      indexed_eq (Table.merge_self _)⟩,
    fun m o => indexed_eq (Table.merge_merge_self _ _), fun m o => m.keeps.eq_iff o.keeps⟩
  · have kept := m.keeps
    refine ⟨⟨?_, ?_⟩, ?_, fun k => ⟨?_, ?_⟩, m.size_indexed, kept.entries, kept.get?⟩
    · rw [kept.keys, m.table_eq_ofList, Table.keys_ofList]
    · rw [kept.keys]
      exact m.table.distinct
    · rw [kept.keys]
      exact kept.positions
    · rw [kept.get?, m.table_eq_ofList, Table.get?_ofList]
    · rw [kept.get?, kept.contains, Table.contains, Option.isSome_eq_false_iff, Option.isNone_iff_eq_none]
  · rw [(m.merge o).keeps.get?, m.keeps.get?, o.keeps.get?]
    exact Table.get?_merge _ _ k

/-- A key keeps its place when a table over it brings another value. -/
example :
    let t := (merge (.collect [("A", 1), ("B", 2)]) (.insert (.collect [("C", 3)]) "A" 4)).indexed
    t.entries = [("A", 4), ("B", 2), ("C", 3)] ∧ t.get? "C" = some 3 := by decide +kernel

end Making

end LayeredConfig
