import LayeredConfig.Proofs.EnvFile.Readers
import LayeredConfig.Proofs.Text.Name
import LayeredConfig.Variables

/-! The keys of env files are names, which every environment can hold. -/
namespace LayeredConfig

/-- An environment can hold a variable with a proper name. -/
theorem Variables.holdsName_of_isName {k : String} (h : Text.IsName k.toList) :
    holdsName k = true := by
  have absent (c : Char) (hc : Text.isNamePart c = false) : c ∉ k.toList := by
    intro hm
    rw [h.isNamePart c hm] at hc
    cases hc
  have nonempty : k ≠ "" := by
    rintro rfl
    exact h.ne_nil rfl
  simp [holdsName, nonempty, absent '=' (by decide), absent '\x00' (by decide)]

namespace EnvFile

private theorem isName_of_keyed? {s : List Char} {a : Assignment} (h : keyed? s = some a) :
    Text.IsName a.key.toList := by
  have name := Text.isName_of_splitName (s := s)
  unfold keyed? at h
  split at h
  · cases h
  · next k r nonempty hs =>
    split at h
    · obtain rfl := Option.some.inj h
      rw [hs] at name
      rw [String.toList_ofList]
      exact name nonempty
    · cases h

private theorem isName_of_ofLine? {line : List Char} {a : Assignment}
    (h : Assignment.ofLine? line = some a) : Text.IsName a.key.toList := by
  rcases Option.or_eq_some_iff.mp h with h | ⟨-, h⟩
  · unfold exported? at h
    split at h
    · split at h
      · exact isName_of_keyed? h
      · cases h
    · cases h
  · exact isName_of_keyed? h

theorem keys_parse (text : String) :
    (parse text).keys = (((Text.lines text.toList).filterMap entry?).map (·.1)).eraseDups :=
  Table.keys_insertAll .empty _

private theorem isName_of_mem_parse {text k : String} (h : k ∈ (parse text).keys) :
    Text.IsName k.toList := by
  rw [keys_parse, List.mem_eraseDups] at h
  obtain ⟨e, he, rfl⟩ := List.mem_map.mp h
  obtain ⟨line, -, hl⟩ := List.mem_filterMap.mp he
  obtain ⟨a, ha, rfl⟩ := Option.map_eq_some_iff.mp hl
  exact isName_of_ofLine? ha

private theorem isName_of_mem_load {t : FileTree} {path k : String} {vars : Table String}
    (h : load t path = .ok vars) (hk : k ∈ vars.keys) : Text.IsName k.toList := by
  unfold load at h
  cases hr : readText? t path with
  | error f => rw [hr] at h; cases h
  | ok text =>
    rw [hr] at h
    cases text with
    | none => cases h; exact absurd hk List.not_mem_nil
    | some s => cases h; exact isName_of_mem_parse hk

/-- Each table that is read one by one is that of some file. -/
private theorem exists_load_of_mem {t : FileTree} {paths : List String}
    {tables : List (Table String)} (h : paths.mapM (load t) = .ok tables) {u : Table String}
    (hu : u ∈ tables) : ∃ p ∈ paths, load t p = .ok u := by
  induction paths generalizing tables with
  | nil =>
    cases h
    exact absurd hu List.not_mem_nil
  | cons p r ih =>
    rw [List.mapM_cons] at h
    cases hp : load t p with
    | error f => rw [hp] at h; cases h
    | ok first =>
      cases hr : r.mapM (load t) with
      | error f => rw [hp, hr] at h; cases h
      | ok rest =>
        rw [hp, hr] at h
        obtain rfl : first :: rest = tables := Except.ok.inj h
        rcases List.mem_cons.mp hu with rfl | hu
        · exact ⟨p, List.mem_cons_self, hp⟩
        · obtain ⟨q, hq, hl⟩ := ih hr hu
          exact ⟨q, List.mem_cons_of_mem p hq, hl⟩

/-- All keys that are read from env files are names. -/
theorem isName_of_mem_loadAll {t : FileTree} {paths : List String} {vars : Table String}
    {k : String}
    (h : loadAll t paths = .ok vars) (hk : k ∈ vars.keys) : Text.IsName k.toList := by
  rcases readers_cases t paths with ⟨p, e, -, -, -, hl⟩ | ⟨-, d, tables, -, ht, hl⟩
  · rw [hl] at h
    cases h
  · rw [hl] at h
    split at h
    · obtain rfl := Except.ok.inj h
      rw [Table.keys_foldl_merge, List.mem_eraseDups] at hk
      obtain ⟨u, hu, hk⟩ := List.mem_flatMap.mp hk
      obtain ⟨p, -, hp⟩ := exists_load_of_mem ht hu
      exact isName_of_mem_load hp hk
    · cases h

end EnvFile

end LayeredConfig
