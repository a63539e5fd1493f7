import LayeredConfig.Proofs.Resolve.Fields
import LayeredConfig.Proofs.Text.ByteOrder

/-! What fields are gathered, and which failure gathering ends with. Of the names that a pattern
matches the last one for a field gives its value, and the first one that cannot be expanded ends it
all. Nothing else that is declared about a setting has any influence on its fields. -/
namespace LayeredConfig

namespace Layers

variable {l : Layers} {start field name pattern : String} {fields done : KeyMap String}
  {names : List String} {e : Failure}

/-- `start` is the beginning of the names that a pattern is about: the pattern without a star at its
end, with an underscore at the end when there is none. -/
def Begins (pattern start : String) : Prop :=
  ∃ base, (pattern = base ++ "*" ∨ pattern = base ∧ ∀ b, pattern ≠ b ++ "*") ∧
    (start = base ∧ (∃ b, base = b ++ "_") ∨ start = base ++ "_" ∧ ∀ b, base ≠ b ++ "_")

/-- The raw text of a variable. One that is no text counts as what the files hold under its name, or
as empty. -/
def textOf (l : Layers) (name : String) : String :=
  match l.process.get? name with
  | some (.text v) => v
  | _ => (l.files.get? name).getD ""

/-- There is a variable with a name, and something of the name is left for a field. -/
def Gathers (l : Layers) (start name : String) : Prop :=
  l.Shows name ∧ ∃ rest, rest ≠ "" ∧ name = start ++ rest

private theorem getD_lookup (l : Layers) (name : String) :
    (l.lookup name).getD "" = l.textOf name := by
  rw [lookup, ProcessView.text?, textOf]
  cases l.process.get? name with
  | none => rfl
  | some d => cases d <;> rfl

private theorem getLast?_iff {s : String} {c : Char} :
    s.toList.getLast? = some c ↔ ∃ b, s = b ++ String.ofList [c] := by
  rw [List.getLast?_eq_some_iff]
  constructor
  · rintro ⟨b, h⟩
    exact ⟨String.ofList b, String.toList_injective (by simp [h])⟩
  · rintro ⟨b, rfl⟩
    exact ⟨b.toList, by simp⟩

def unstarred (pattern : String) : String :=
  String.ofList (if pattern.toList.getLast? = some '*' then pattern.toList.dropLast
    else pattern.toList)

private theorem gatherStart_eq (pattern : String) : gatherStart pattern =
    if (unstarred pattern).toList.getLast? = some '_' then unstarred pattern
    else unstarred pattern ++ "_" := by
  rw [unstarred, String.toList_ofList]
  rfl

private theorem unstarred_cases (pattern : String) : pattern = unstarred pattern ++ "*" ∨
    pattern = unstarred pattern ∧ ∀ b, pattern ≠ b ++ "*" := by
  rw [unstarred]
  by_cases star : pattern.toList.getLast? = some '*'
  · obtain ⟨b, rfl⟩ := getLast?_iff.mp star
    rw [if_pos star]
    exact .inl (by simp)
  · rw [if_neg star, String.ofList_toList]
    exact .inr ⟨rfl, fun b hb => star (getLast?_iff.mpr ⟨b, hb⟩)⟩

private theorem begins_gatherStart (pattern : String) : Begins pattern (gatherStart pattern) := by
  refine ⟨unstarred pattern, unstarred_cases pattern, ?_⟩
  rw [gatherStart_eq]
  split
  · next ends => exact .inl ⟨rfl, getLast?_iff.mp ends⟩
  · next other => exact .inr ⟨rfl, fun b hb => other (getLast?_iff.mpr ⟨b, hb⟩)⟩

def expanded (l : Layers) (name : String) : Except Failure String := l.interpolate (l.textOf name)

private theorem gatherOne_eq (fields : KeyMap String) (begins : ∃ rest, name = start ++ rest) :
    (name = start ∧ l.gatherOne start fields name = .ok fields) ∨
      name ≠ start ∧ ∃ field, l.gatherOne start fields name =
        (l.expanded name).map (fields.insert field) := by
  obtain ⟨rest, rfl⟩ := begins
  rw [gatherOne_append, getD_lookup]
  by_cases h : rest = ""
  · subst h
    exact .inl ⟨String.append_empty, if_pos rfl⟩
  · refine .inr ⟨fun same => h ?_, Text.lower rest, if_neg h⟩
    exact String.toList_injective (by simpa using congrArg String.toList same)

/-- Gathering goes on to the end, or to the first name that cannot be expanded. -/
theorem foldlM_gatherOne_cases (fields : KeyMap String)
    (begins : ∀ n ∈ names, ∃ rest, n = start ++ rest) :
    (∃ done, names.foldlM (l.gatherOne start) fields = .ok done ∧
      ∀ n ∈ names, n ≠ start → ∃ x, l.expanded n = .ok x) ∨
    ∃ before n after f, names = before ++ n :: after ∧
      (∀ m ∈ before, m ≠ start → ∃ x, l.expanded m = .ok x) ∧ n ≠ start ∧
        l.expanded n = .error f ∧ names.foldlM (l.gatherOne start) fields = .error f := by
  induction names generalizing fields with
  | nil => exact .inl ⟨fields, rfl, nofun⟩
  | cons a names ih =>
    have later : ∀ n ∈ names, ∃ rest, n = start ++ rest :=
      fun n hn => begins n (List.mem_cons_of_mem a hn)
    -- The name is passed over, or it is expanded; the rest is then gathered in any case.
    have one : (∃ fields', l.gatherOne start fields a = .ok fields' ∧
          (a ≠ start → ∃ x, l.expanded a = .ok x)) ∨
        a ≠ start ∧ ∃ f, l.expanded a = .error f ∧ l.gatherOne start fields a = .error f := by
      rcases gatherOne_eq (l := l) fields (begins a List.mem_cons_self) with
        ⟨passed, same⟩ | ⟨counts, field, set⟩
      · exact .inl ⟨fields, same, fun counts => absurd passed counts⟩
      · cases text : l.expanded a with
        | error f => exact .inr ⟨counts, f, rfl, by rw [set, text]; rfl⟩
        | ok x => exact .inl ⟨fields.insert field x, by rw [set, text]; rfl, fun _ => ⟨x, rfl⟩⟩
    rw [List.foldlM_cons]
    rcases one with ⟨fields', one, fine⟩ | ⟨counts, f, failing, one⟩
    · rw [one]
      rcases ih fields' later with ⟨done, all, each⟩ |
        ⟨before, n, after, f, rfl, fine', counts, failing, ends⟩
      · exact .inl ⟨done, all, List.forall_mem_cons.mpr ⟨fine, each⟩⟩
      · exact .inr ⟨a :: before, n, after, f, rfl, List.forall_mem_cons.mpr ⟨fine, fine'⟩, counts,
          failing, ends⟩
    · rw [one]
      exact .inr ⟨[], a, names, f, rfl, nofun, counts, failing, rfl⟩

private theorem gathers_iff : l.Gathers start name ↔ name ∈ l.namesFrom start ∧ name ≠ start := by
  rw [mem_namesFrom, Gathers, and_assoc]
  refine and_congr_right fun _ => ?_
  constructor
  · rintro ⟨rest, some, rfl⟩
    exact ⟨⟨rest, rfl⟩, fun same => some (String.toList_injective (by
      simpa using congrArg String.toList same))⟩
  · rintro ⟨⟨rest, rfl⟩, counts⟩
    exact ⟨rest, fun none => counts (by rw [none, String.append_empty]), rfl⟩

/-- All names that are gathered can be expanded, or the first one in order that cannot is the
failure. -/
theorem gather_cases (l : Layers) (pattern : String) :
    (∃ fields, l.gather pattern = .ok fields ∧
      ∀ n, l.Gathers (gatherStart pattern) n → ∃ x, l.expanded n = .ok x) ∨
    ∃ n f, l.Gathers (gatherStart pattern) n ∧ l.expanded n = .error f ∧
      (∀ m, l.Gathers (gatherStart pattern) m → m < n → ∃ x, l.expanded m = .ok x) ∧
        l.gather pattern = .error f := by
  have sorted := l.namesFrom_sorted (gatherStart pattern)
  rcases foldlM_gatherOne_cases (l := l) KeyMap.empty
    fun n (hn : n ∈ l.namesFrom (gatherStart pattern)) => (mem_namesFrom.mp hn).2 with
    ⟨fields, all, each⟩ | ⟨before, n, after, f, split, fine, counts, failing, ends⟩
  · exact .inl ⟨fields, all, fun n hn => each n (gathers_iff.mp hn).1 (gathers_iff.mp hn).2⟩
  · refine .inr ⟨n, f, gathers_iff.mpr ⟨?_, counts⟩, failing, fun m hm less => ?_, ends⟩
    · rw [split]
      exact List.mem_append_right before List.mem_cons_self
    · obtain ⟨listed, counts'⟩ := gathers_iff.mp hm
      rw [split] at sorted listed
      refine fine m ?_ counts'
      -- What is behind `n` in the list is not less.
      rcases List.mem_append.mp listed with here | later
      · exact here
      · have behind := (List.pairwise_append.mp sorted).2.1
        rcases List.mem_cons.mp later with rfl | later
        · exact absurd less (String.lt_irrefl m)
        · exact absurd (String.lt_trans less ((List.pairwise_cons.mp behind).1 m later))
            (String.lt_irrefl m)

/-- The failure is that of the first name that cannot be expanded. -/
theorem gather_error_iff : l.gather pattern = .error e ↔
    ∃ n, l.Gathers (gatherStart pattern) n ∧ l.expanded n = .error e ∧
      ∀ m, l.Gathers (gatherStart pattern) m → m < n → ∃ x, l.expanded m = .ok x := by
  have clash {n : String} {f : Failure} (failing : l.expanded n = .error f) :
      ¬∃ x, l.expanded n = .ok x := by
    rintro ⟨x, hx⟩
    cases failing.symm.trans hx
  rcases l.gather_cases pattern with ⟨fields, all, each⟩ | ⟨n, f, hn, failing, fine, ends⟩
  · rw [all]
    refine iff_of_false nofun ?_
    rintro ⟨n, hn, failing, -⟩
    exact clash failing (each n hn)
  · rw [ends]
    constructor
    · rintro ⟨⟩
      exact ⟨n, hn, failing, fine⟩
    · rintro ⟨m, hm, failing', fine'⟩
      have before : ¬m < n := fun less => clash failing' (fine m hm less)
      have behind : ¬n < m := fun less => clash failing (fine' n hn less)
      obtain rfl : n = m := String.le_antisymm (String.not_lt.mp before) (String.not_lt.mp behind)
      rw [Except.error.inj (failing.symm.trans failing')]

private theorem gather_fails_iff : (∃ e, l.gather pattern = .error e) ↔
    ∃ n, l.Gathers (gatherStart pattern) n ∧ ∃ e, l.expanded n = .error e := by
  constructor
  · rintro ⟨e, h⟩
    obtain ⟨n, hn, failing, -⟩ := gather_error_iff.mp h
    exact ⟨n, hn, e, failing⟩
  · rintro ⟨n, hn, e, failing⟩
    rcases l.gather_cases pattern with ⟨fields, -, each⟩ | ⟨-, f, -, -, -, ends⟩
    · obtain ⟨x, hx⟩ := each n hn
      cases failing.symm.trans hx
    · exact ⟨f, ends⟩

theorem IsLast.unique {other : String} (h : l.IsLast start field name)
    (h' : l.IsLast start field other) : name = other :=
  String.le_antisymm (h'.last name h.shows h.fits) (h.last other h'.shows h'.fits)

/-- There is a field for each name that is gathered, and no other field. -/
theorem mem_keys_gather (h : l.gather pattern = .ok fields) : field ∈ fields.keys ↔
    ∃ rest, rest ≠ "" ∧ l.Shows (gatherStart pattern ++ rest) ∧ Text.lower rest = field := by
  rw [KeyMap.mem_keys_iff]
  constructor
  · rintro ⟨x, hx⟩
    rcases foldlM_gatherOne_field (l.namesFrom_sorted _) (fun n hn => (mem_namesFrom.mp hn).2) h field
      with ⟨n, listed, ⟨rest, some, rfl, lower⟩, -⟩ | ⟨-, none⟩
    · exact ⟨rest, some, (mem_namesFrom.mp listed).1, lower⟩
    · rw [hx] at none
      cases none
  · rintro ⟨rest, some, shows, lower⟩
    obtain ⟨-, x, -, -, set⟩ := gather_field h shows ⟨rest, some, rfl, lower⟩
    exact ⟨x, set⟩

/-- A field holds what the last name for it is expanded to. -/
theorem get?_gather (h : l.gather pattern = .ok fields) {x : String} : fields.get? field = some x ↔
    ∃ n, l.IsLast (gatherStart pattern) field n ∧ l.expanded n = .ok x := by
  have held {n : String} (shows : l.Shows n) (fits : Fits (gatherStart pattern) field n) :
      ∃ last y, l.IsLast (gatherStart pattern) field last ∧ l.expanded last = .ok y ∧
        fields.get? field = some y := by
    obtain ⟨last, y, greatest, text, set⟩ := gather_field h shows fits
    rw [getD_lookup] at text
    exact ⟨last, y, greatest, text, set⟩
  constructor
  · intro hx
    obtain ⟨rest, some, shows, lower⟩ := (mem_keys_gather h).mp (KeyMap.mem_keys_iff.mpr ⟨x, hx⟩)
    obtain ⟨last, y, greatest, text, set⟩ := held shows ⟨rest, some, rfl, lower⟩
    obtain rfl : x = y := Option.some.inj (hx.symm.trans set)
    exact ⟨last, greatest, text⟩
  · rintro ⟨n, greatest, text⟩
    obtain ⟨last, y, greatest', text', set⟩ := held greatest.shows greatest.fits
    rw [greatest.unique greatest', text'] at text
    rw [set, Except.ok.inj text]

end Layers

namespace View
open Resolving Layers

/-- Fields are gathered from the variables in either layer whose names go on behind the beginning
that the pattern gives, whether they hold a text or not. The names of the fields are the lower case
of what follows, and a field holds what the last of its variables is expanded to, in the order of
the bytes of names. The first variable that cannot be expanded is the failure, also where another
one would count for the field. Nothing but the pattern and the layers counts, and nothing but the
journal changes. -/
theorem get_fields_exact (v : View) {name : String} {s : Setting}
    (found : v.schema.find? name = some s) (hk : s.kind = .fields) {st : Session}
    (fresh : name ∉ st.inFlight) :
    ∃ start, Begins s.envVar start ∧
      (∀ x, ((v.get name).runFrom st).1 = .ok x → ∃ fields, x = .fields fields ∧
        (∀ field, field ∈ fields.keys ↔
          ∃ rest, rest ≠ "" ∧ v.layers.Shows (start ++ rest) ∧ Text.lower rest = field) ∧
        ∀ field text, fields.get? field = some text ↔ ∃ n, v.layers.Shows n ∧ Fits start field n ∧
          (∀ m, v.layers.Shows m → Fits start field m → Text.bytes m ≤ Text.bytes n) ∧
          v.layers.interpolate (v.layers.textOf n) = .ok text) ∧
      (∀ e, ((v.get name).runFrom st).1 = .error e ↔ ∃ n, v.layers.Gathers start n ∧
        v.layers.interpolate (v.layers.textOf n) = .error e ∧
        ∀ m, v.layers.Gathers start m → Text.bytes m < Text.bytes n →
          ∃ text, v.layers.interpolate (v.layers.textOf m) = .ok text) ∧
      ((∃ e, ((v.get name).runFrom st).1 = .error e) ↔ ∃ n, v.layers.Gathers start n ∧
        ∃ e, v.layers.interpolate (v.layers.textOf n) = .error e) ∧
      ((v.get name).runFrom st).2 =
        { st with journal := .left name :: .entered name :: st.journal } ∧
      ∀ (w : View) name' s' st', w.schema.find? name' = some s' → s'.kind = .fields →
        name' ∉ st'.inFlight → s'.envVar = s.envVar → w.layers = v.layers →
          ((w.get name').runFrom st').1 = ((v.get name).runFrom st).1 := by
  have gathered := (runFrom_get_fields found hk st).trans (if_neg fresh)
  have fails (e : Failure) : ((v.get name).runFrom st).1 = .error e ↔
      v.layers.gather s.envVar = .error e := by
    rw [gathered]
    cases v.layers.gather s.envVar <;> simp [Except.map]
  simp only [fails, ← Text.lt_iff_bytes_lt, ← Text.le_iff_bytes_le]
  refine ⟨gatherStart s.envVar, begins_gatherStart s.envVar, fun x hx => ?_,
    fun e => gather_error_iff, gather_fails_iff, congrArg Prod.snd gathered, ?_⟩
  · rw [gathered] at hx
    cases h : v.layers.gather s.envVar with
    | error e =>
      rw [h] at hx
      cases hx
    | ok fields =>
      rw [h] at hx
      cases hx
      refine ⟨fields, rfl, fun field => mem_keys_gather h, fun field text => (get?_gather h).trans ?_⟩
      exact exists_congr fun n => ⟨fun ⟨last, text⟩ => ⟨last.shows, last.fits, last.last, text⟩,
        fun ⟨shows, fits, last, text⟩ => ⟨⟨shows, fits, last⟩, text⟩⟩
  · intro w name' s' st' found' hk' fresh' pattern layers
    rw [gathered, runFrom_get_fields found' hk', if_neg fresh', pattern, layers]

def overDeclared : Setting :=
  { prefixed with scheme := some "https", fallback := some (.literal "a"), required := false }

/-- Two variables cannot be expanded. The first of them gives no value to the field that both it and
a later one are for, and the one without a field comes before it. -/
def unexpandable : View :=
  ⟨Schema.build [] [overDeclared],
    ⟨{ vars := KeyMap.ofList [("P_", .text "$\x7bX:?none\x7d"), ("P_A", .text "$\x7bX:?first\x7d"),
      ("P_B", .text "$\x7bX:?second\x7d"), ("P_a", .raw [255])] }, Table.ofList [("P_a", "file")]⟩,
    none, some true⟩

theorem get_fields_exact_unexpandable :
    ((unexpandable.get "p").runFrom .fresh).1 = .error (.missing "X" (.demanded "first")) ∧
    (∃ start n, Begins "P_*" start ∧ unexpandable.layers.Gathers start n ∧
      unexpandable.layers.interpolate (unexpandable.layers.textOf n) =
        .error (.missing "X" (.demanded "first"))) ∧
    (({ unexpandable with schema := Schema.build [] [prefixed], placeholders := none }.get "p").runFrom
      Session.fresh).1 = ((unexpandable.get "p").runFrom .fresh).1 := by
  have found : unexpandable.schema.find? "p" = some overDeclared := by decide +kernel
  have failing : ((unexpandable.get "p").runFrom .fresh).1 =
      .error (.missing "X" (.demanded "first")) := by rfl
  obtain ⟨start, begins, -, fails, -, -, alone⟩ := get_fields_exact unexpandable found rfl
    (show "p" ∉ Session.fresh.inFlight by decide)
  obtain ⟨n, gathers, text, -⟩ := (fails _).mp failing
  exact ⟨failing, ⟨start, n, begins, gathers, text⟩,
    alone _ "p" prefixed Session.fresh (by decide +kernel) rfl (by decide) rfl rfl⟩

end View

end LayeredConfig
