import LayeredConfig.Proofs.Resolve.Layers

/-! Variables of the process in front of those of the files. A variable that the process holds as
text hides what the files hold under its name; one that it holds as other bytes does not. -/
namespace LayeredConfig

/-- Tables that hold the same under every key but one. -/
def Table.SameBut {α : Type} (k : String) (f g : Table α) : Prop := ∀ j, j ≠ k → f.get? j = g.get? j

private theorem Table.sameBut_insert {α : Type} (k : String) (t : Table α) (x : α) :
    SameBut k (t.insert k x) t := by
  intro j hj
  rw [get?_insert, if_neg hj]

namespace Layers

variable {process : ProcessView} {k : String} {f g : Table String}

/-- Under a name that the process holds as text, the files can hold anything. -/
theorem lookup_of_readable (readable : (process.text? k).isSome) (h : f.SameBut k g) (j : String) :
    (Layers.mk process f).lookup j = (Layers.mk process g).lookup j := by
  obtain ⟨x, hx⟩ := Option.isSome_iff_exists.mp readable
  rw [lookup, lookup]
  by_cases hj : j = k
  · rw [hj, hx, Option.some_or, Option.some_or]
  · rw [h j hj]

/-- Under a name that the process does not hold as text, the files count. -/
theorem lookup_of_unreadable (unreadable : process.text? k = none) :
    (Layers.mk process f).lookup k = f.get? k := by
  rw [lookup, unreadable, Option.none_or]

/-- A name that the process lists anyway is listed whatever the files hold under it. -/
theorem namesFrom_of_listed (listed : k ∈ process.names) (h : f.SameBut k g) (start : String) :
    (Layers.mk process f).namesFrom start = (Layers.mk process g).namesFrom start := by
  refine namesFrom_congr (fun j => ?_) start
  rw [Shows, Shows, List.mem_append, List.mem_append, Table.mem_keys_iff, Table.mem_keys_iff]
  by_cases hj : j = k
  · rw [hj]
    exact iff_of_true (.inl listed) (.inl listed)
  · rw [h j hj]

end Layers

namespace ProcessVars

variable {p : ProcessVars} {k : String}

/-- A fixed layer holds nothing but texts, and finds nothing that it does not list. -/
theorem held_of_fixed {m : KeyMap String} (fixed : p.layer = .fixed m) (held : p.contains k) :
    (p.get? k).isSome ∧ k ∈ p.view.names := by
  have texts : p.view = { vars := m.map .text } := by rw [view, fixed]
  rw [contains, ProcessView.get?, texts, Option.isSome_or, KeyMap.get?_map] at held
  rw [ProcessView.mem_names_iff, get?, ProcessView.text?, ProcessView.get?, texts, KeyMap.get?_map]
  cases hm : m.get? k with
  | none =>
    rw [hm] at held
    cases held
  | some x => exact ⟨rfl, _, rfl⟩

/-- A name without an equals sign is found where it is listed. -/
theorem listed_of_plain (plain : '=' ∉ k.toList) (held : p.contains k) : k ∈ p.view.names := by
  rw [contains, ProcessView.get?_of_plain plain] at held
  exact ProcessView.mem_names_iff.mpr (Option.isSome_iff_exists.mp held)

/-- Of what the process layer holds, the texts hide what the files hold under their names, and
nothing else does. Files that differ under such a name alone give the same values of variables, the
same expansions, and the same outcome of every operation; a variable that is no text has the value
that the files give. In a fixed layer all are texts. Only for names with an equals sign that an
environment finds inside of a variable, and does not list, the outcomes are said to be the same just
where the fields of no setting are gathered from different names. -/
theorem hides_files_iff_readable (p : ProcessVars) {k : String} (held : p.contains k) :
    ((∀ f g : Table String, f.SameBut k g →
        (Layers.mk p.view f).lookup k = (Layers.mk p.view g).lookup k) ↔ (p.get? k).isSome) ∧
    ((p.get? k).isSome → ∀ f g : Table String, f.SameBut k g →
      (∀ j, (Layers.mk p.view f).lookup j = (Layers.mk p.view g).lookup j) ∧
      (∀ raw, (Layers.mk p.view f).interpolate raw = (Layers.mk p.view g).interpolate raw) ∧
      ∀ schema root placeholders (op : Operation) (st : Session),
        (k ∈ p.view.names ∨ ∀ s ∈ schema.list, s.kind = .fields →
          (Layers.mk p.view f).namesFrom (Layers.gatherStart s.envVar) =
            (Layers.mk p.view g).namesFrom (Layers.gatherStart s.envVar)) →
        (op.run ⟨schema, ⟨p.view, f⟩, root, placeholders⟩).runFrom st =
          (op.run ⟨schema, ⟨p.view, g⟩, root, placeholders⟩).runFrom st) ∧
    (p.get? k = none → ∀ f : Table String, (Layers.mk p.view f).lookup k = f.get? k) ∧
    (∀ m, p.layer = .fixed m → (p.get? k).isSome ∧ k ∈ p.view.names) ∧
    ('=' ∉ k.toList → k ∈ p.view.names) := by
  refine ⟨⟨fun hidden => ?_, fun readable f g h => Layers.lookup_of_readable readable h k⟩,
    fun readable f g h => ?_, fun unreadable f => Layers.lookup_of_unreadable unreadable,
    fun m fixed => held_of_fixed fixed held, fun plain => listed_of_plain plain held⟩
  · cases unreadable : p.get? k with
    | some x => rfl
    | none =>
      have same := hidden _ _ (Table.sameBut_insert k .empty "")
      rw [Layers.lookup_of_unreadable unreadable, Layers.lookup_of_unreadable unreadable,
        Table.get?_insert, if_pos rfl] at same
      cases same
  · have lookup := Layers.lookup_of_readable readable h
    refine ⟨lookup, fun raw => ?_, fun schema root placeholders op st names => ?_⟩
    · rw [Layers.interpolate, Layers.interpolate, funext lookup]
    · have gathered : ∀ s ∈ schema.list, s.kind = .fields →
          (Layers.mk p.view f).namesFrom (Layers.gatherStart s.envVar) =
            (Layers.mk p.view g).namesFrom (Layers.gatherStart s.envVar) := by
        rcases names with listed | gathered
        · exact fun s _ _ => Layers.namesFrom_of_listed listed h _
        · exact gathered
      have views : View.Alike ⟨schema, ⟨p.view, f⟩, root, placeholders⟩
          ⟨schema, ⟨p.view, g⟩, root, placeholders⟩ :=
        ⟨rfl, rfl, rfl, fun k _ => lookup k, gathered⟩
      rw [op.run_congr views]

/-- An environment with a variable that is no text, and an empty one. -/
def bytesLayer : ProcessVars :=
  ⟨.system, KeyMap.ofList [("X", .raw [0xFF]), ("EMPTY", .text "")]⟩

theorem hides_files_iff_readable_empty :
    bytesLayer.contains "EMPTY" ∧
    (Layers.mk bytesLayer.view (Table.empty.insert "EMPTY" "file")).interpolate "[$EMPTY]" =
      (Layers.mk bytesLayer.view .empty).interpolate "[$EMPTY]" := by
  have held : bytesLayer.contains "EMPTY" := by decide +kernel
  have hides := (hides_files_iff_readable bytesLayer held).2.1 (by decide +kernel) _ _
    (Table.sameBut_insert "EMPTY" .empty "file")
  exact ⟨held, hides.2.1 "[$EMPTY]"⟩

/-- What the files hold shows through a variable of the process that is no text. -/
theorem file_shows_through_bytes :
    bytesLayer.contains "X" ∧ Table.SameBut "X" (Table.empty.insert "X" "file") .empty ∧
    (Layers.mk bytesLayer.view (Table.empty.insert "X" "file")).lookup "X" = some "file" ∧
    (Layers.mk bytesLayer.view .empty).lookup "X" = none :=
  ⟨by decide +kernel, Table.sameBut_insert "X" .empty "file", by decide +kernel, by decide +kernel⟩

end ProcessVars

end LayeredConfig
