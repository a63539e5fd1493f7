import LayeredConfig.Proofs.Resolve.Layers
import LayeredConfig.Proofs.Resolve.Soundness

/-! Which variables fields are made of. Of the variables for a field the last one in the order of
names counts, in whichever layer it is; the process goes before the files for that name alone. -/
namespace LayeredConfig

namespace Layers

variable {l : Layers} {start field name pattern : String} {fields done : KeyMap String}

/-- A name is that of a field behind given characters: what follows them is the name of the field,
in letters of any case. -/
def Fits (start field name : String) : Prop :=
  ∃ rest, rest ≠ "" ∧ name = start ++ rest ∧ Text.lower rest = field

/-- The last variable for a field in the order of names. -/
structure IsLast (l : Layers) (start field name : String) : Prop where
  shows : l.Shows name
  fits : Fits start field name
  last : ∀ other, l.Shows other → Fits start field other → other ≤ name

theorem namesFrom_sorted (l : Layers) (start : String) : (l.namesFrom start).Pairwise (· < ·) :=
  List.pairwise_map.mpr (KeyMap.sorted _)

theorem gatherOne_append (rest : String) :
    l.gatherOne start fields (start ++ rest) =
      if rest = "" then .ok fields
      else (l.interpolate ((l.lookup (start ++ rest)).getD "")).map
        (fields.insert (Text.lower rest)) := by
  have behind : String.ofList ((start ++ rest).toList.drop start.toList.length) = rest := by simp
  rw [gatherOne, behind]
  cases l.interpolate ((l.lookup (start ++ rest)).getD "") <;> rfl

/-- A variable sets the field that its name is for, and no other. -/
theorem gatherOne_field {rest : String} (h : l.gatherOne start fields (start ++ rest) = .ok done)
    (field : String) :
    (Fits start field (start ++ rest) → ∃ x,
      l.interpolate ((l.lookup (start ++ rest)).getD "") = .ok x ∧ done.get? field = some x) ∧
    (¬ Fits start field (start ++ rest) → done.get? field = fields.get? field) := by
  have fits : Fits start field (start ++ rest) ↔ rest ≠ "" ∧ Text.lower rest = field := by
    constructor
    · rintro ⟨rest', some, h, lower⟩
      obtain rfl : rest = rest' := String.toList_injective (by simpa using congrArg String.toList h)
      exact ⟨some, lower⟩
    · rintro ⟨some, lower⟩
      exact ⟨rest, some, rfl, lower⟩
  rw [gatherOne_append] at h
  rw [fits]
  by_cases empty : rest = ""
  · rw [if_pos empty] at h
    cases h
    exact ⟨fun both => absurd empty both.1, fun _ => rfl⟩
  · rw [if_neg empty] at h
    cases text : l.interpolate ((l.lookup (start ++ rest)).getD "") with
    | error e =>
      rw [text] at h
      cases h
    | ok x =>
      rw [text] at h
      cases h
      rw [KeyMap.get?_insert]
      constructor
      · rintro ⟨-, lower⟩
        exact ⟨x, rfl, if_pos lower.symm⟩
      · exact fun other => if_neg fun lower => other ⟨empty, lower.symm⟩

/-- Of names in order the last one for a field sets it. -/
theorem foldlM_gatherOne_field {names : List String} (sorted : names.Pairwise (· < ·))
    (begins : ∀ n ∈ names, ∃ rest, n = start ++ rest)
    (h : names.foldlM (l.gatherOne start) fields = .ok done) (field : String) :
    (∃ n ∈ names, Fits start field n ∧ (∀ m ∈ names, Fits start field m → m ≤ n) ∧
      ∃ x, l.interpolate ((l.lookup n).getD "") = .ok x ∧ done.get? field = some x) ∨
    (∀ n ∈ names, ¬ Fits start field n) ∧ done.get? field = fields.get? field := by
  induction names generalizing fields with
  | nil =>
    cases h
    exact .inr ⟨nofun, rfl⟩
  | cons a names ih =>
    obtain ⟨before, ordered⟩ := List.pairwise_cons.mp sorted
    obtain ⟨rest, rfl⟩ := begins a List.mem_cons_self
    rw [List.foldlM_cons] at h
    cases one : l.gatherOne start fields (start ++ rest) with
    | error e =>
      rw [one] at h
      cases h
    | ok fields' =>
      rw [one] at h
      obtain ⟨set, kept⟩ := gatherOne_field one field
      rcases ih ordered (fun n hn => begins n (List.mem_cons_of_mem _ hn)) h with
        ⟨n, hn, fits, last, x, hx, there⟩ | ⟨none, same⟩
      · refine .inl ⟨n, List.mem_cons_of_mem _ hn, fits, fun m hm fitsToo => ?_, x, hx, there⟩
        rcases List.mem_cons.mp hm with rfl | hm
        · exact Std.le_of_lt (before n hn)
        · exact last m hm fitsToo
      · by_cases fits : Fits start field (start ++ rest)
        · obtain ⟨x, hx, there⟩ := set fits
          refine .inl ⟨_, List.mem_cons_self, fits, fun m hm fitsToo => ?_, x, hx, same.trans there⟩
          rcases List.mem_cons.mp hm with rfl | hm
          · exact String.le_refl _
          · exact absurd fitsToo (none m hm)
        · refine .inr ⟨fun n hn => ?_, same.trans (kept fits)⟩
          rcases List.mem_cons.mp hn with rfl | hn
          · exact fits
          · exact none n hn

/-- A field that there is a variable for has the value of the last one. -/
theorem gather_field (h : l.gather pattern = .ok done) (shows : l.Shows name)
    (fits : Fits (gatherStart pattern) field name) :
    ∃ last x, l.IsLast (gatherStart pattern) field last ∧
      l.interpolate ((l.lookup last).getD "") = .ok x ∧ done.get? field = some x := by
  have listed {n : String} (shows : l.Shows n) (fits : Fits (gatherStart pattern) field n) :
      n ∈ l.namesFrom (gatherStart pattern) := by
    obtain ⟨rest, -, rfl, -⟩ := fits
    exact mem_namesFrom.mpr ⟨shows, rest, rfl⟩
  rcases foldlM_gatherOne_field (l.namesFrom_sorted _) (fun n hn => (mem_namesFrom.mp hn).2) h field
    with ⟨last, there, fits, greatest, x, hx, set⟩ | ⟨none, -⟩
  · refine ⟨last, x, ⟨(mem_namesFrom.mp there).1, fits, fun other shows fits => ?_⟩, hx, set⟩
    exact greatest other (listed shows fits) fits
  · exact absurd fits (none name (listed shows fits))

end Layers

namespace View
open Resolving Layers

variable {v : View} {s : Setting} {name : String} {st : Session} {x : Value}

/-- Fields are gathered without a look at anything else, and leave no more than an entry in the
journal. -/
theorem runFrom_get_fields (found : v.schema.find? name = some s) (hk : s.kind = .fields)
    (st : Session) : (v.get name).runFrom st =
      if name ∈ st.inFlight then (.error (.circular name), st)
      else ((v.layers.gather s.envVar).map .fields,
        { st with journal := .left name :: .entered name :: st.journal }) := by
  obtain rfl := Schema.name_of_find? found
  obtain ⟨n, resolved⟩ := exists_resolve_eq found
  rw [get_of_find? found, resolved, runFrom_guarded, resolveStep_of_fields hk]
  rfl

private theorem gather_of_get (found : v.schema.find? name = some s) (hk : s.kind = .fields)
    (h : ((v.get name).runFrom st).1 = .ok x) :
    ∃ fields, v.layers.gather s.envVar = .ok fields ∧ x = .fields fields := by
  rw [runFrom_get_fields found hk] at h
  split at h
  · cases h
  · cases gathered : v.layers.gather s.envVar with
    | error e =>
      rw [gathered] at h
      cases h
    | ok fields =>
      rw [gathered] at h
      cases h
      exact ⟨fields, rfl, rfl⟩

/-- A field that the process holds a text for has the value of the last variable for it. This is
one of the process unless the process holds no text under the last name: then what the files hold
counts, though the process holds a text under an earlier name for the same field. -/
theorem fields_have_last_value (found : v.schema.find? name = some s) (hk : s.kind = .fields)
    (h : ((v.get name).runFrom st).1 = .ok x) :
    ∃ fields, x = .fields fields ∧ ∀ field held,
      Fits (gatherStart s.envVar) field held → (v.layers.process.vars.text? held).isSome →
      ∃ last value, v.layers.IsLast (gatherStart s.envVar) field last ∧
        fields.get? field = some value ∧
        ((∃ raw, v.layers.process.text? last = some raw ∧
            v.layers.interpolate raw = .ok value) ∨
          (v.layers.process.text? last = none ∧ held < last ∧
            v.layers.interpolate ((v.layers.files.get? last).getD "") = .ok value)) := by
  obtain ⟨fields, gathered, hx⟩ := gather_of_get found hk h
  refine ⟨fields, hx, fun field held fits readable => ?_⟩
  obtain ⟨raw, hr⟩ := Option.isSome_iff_exists.mp readable
  have there : v.layers.process.vars.get? held = some (.text raw) := Datum.bind_text?_eq_some.mp hr
  have shows : v.layers.Shows held :=
    List.mem_append_left _ (ProcessView.mem_names_iff.mpr ⟨_, there⟩)
  obtain ⟨last, value, greatest, text, set⟩ := gather_field gathered shows fits
  refine ⟨last, value, greatest, set, ?_⟩
  rw [lookup] at text
  cases hl : v.layers.process.text? last with
  | some raw' =>
    rw [hl] at text
    exact .inl ⟨raw', rfl, text⟩
  | none =>
    rw [hl, Option.none_or] at text
    refine .inr ⟨rfl, Std.lt_of_le_of_ne (greatest.last held shows fits) ?_, text⟩
    rintro rfl
    rw [ProcessView.text?_eq_some_iff.mpr (ProcessView.get?_of_held there)] at hl
    cases hl

def prefixed : Setting := Setting.ofVar "P_*" .fields

/-- The process and the files hold variables for one field, the process under the later name. -/
def processLast : View :=
  ⟨Schema.build [] [prefixed],
    ⟨{ vars := KeyMap.ofList [("P_b", .text "1")] }, Table.ofList [("P_B", "file")]⟩, none, none⟩

theorem fields_have_last_value_process :
    ∃ fields value, ((processLast.get "p").runFrom .fresh).1 = .ok (.fields fields) ∧
      processLast.layers.interpolate "1" = .ok value ∧ fields.get? "b" = some value := by
  have found : processLast.schema.find? "p" = some prefixed := by decide +kernel
  have fits : Fits (gatherStart "P_*") "b" "P_b" :=
    ⟨"b", by decide, by decide +kernel, by decide +kernel⟩
  have value : ((processLast.get "p").runFrom .fresh).1 =
      .ok (.fields (KeyMap.ofList [("b", "1")])) := by rfl
  obtain ⟨fields, same, last⟩ := fields_have_last_value found rfl value
  obtain ⟨n, x, greatest, set, counts⟩ := last "b" "P_b" fits (by decide +kernel)
  have names : n = "P_b" ∨ n = "P_B" := List.mem_pair.mp greatest.shows
  rcases names with rfl | rfl
  · rcases counts with ⟨raw, hr, text⟩ | ⟨none, -, -⟩
    · obtain rfl : "1" = raw := Option.some.inj hr
      exact ⟨fields, x, same ▸ value, text, set⟩
    · cases none
  · rcases counts with ⟨raw, hr, -⟩ | ⟨-, later, -⟩
    · cases hr
    · exact absurd later (by decide)

/-- A variable of the files is the last one for a field that the process holds. -/
def filesLast : View :=
  ⟨Schema.build [] [prefixed],
    ⟨{ vars := KeyMap.ofList [("P_A", .text "proc")] }, Table.ofList [("P_a", "file")]⟩, none, none⟩

/-- The files show through the process in a field: its value is not that of any variable that the
process holds. -/
theorem files_show_through_fields :
    Fits (gatherStart "P_*") "a" "P_A" ∧ filesLast.layers.process.text? "P_A" = some "proc" ∧
    (∃ fields, ((filesLast.get "p").runFrom .fresh).1 = .ok (.fields fields) ∧
      fields.get? "a" = some "file") ∧
    ∀ held raw, filesLast.layers.process.text? held = some raw →
      filesLast.layers.interpolate raw ≠ .ok "file" := by
  refine ⟨⟨"A", by decide, by decide +kernel, by decide +kernel⟩, by decide +kernel,
    ⟨KeyMap.ofList [("a", "file")], by rfl, by decide +kernel⟩, fun held raw hr => ?_⟩
  have there : filesLast.layers.process.vars.get? held = some (.text raw) := by
    simpa [ProcessView.get?, filesLast] using ProcessView.text?_eq_some_iff.mp hr
  have listed : held ∈ ["P_A"] := ProcessView.mem_names_iff.mpr ⟨_, there⟩
  obtain rfl := List.mem_singleton.mp listed
  obtain rfl : "proc" = raw := Option.some.inj hr
  decide +kernel

end View

end LayeredConfig
