import LayeredConfig.Proofs.Maps
import LayeredConfig.Proofs.Text.Pieces
import LayeredConfig.Variables

/-! What process layers show. Under a name without an equals sign that is the variable of the name.
An environment also finds names that go on into the value of a variable. -/
namespace LayeredConfig

theorem Datum.behind?_text {start s r : String} :
    (Datum.text s).behind? start = some (.text r) ↔ s = start ++ r := by
  rw [behind?, Option.map_eq_some_iff]
  simp only [Text.after?_eq_some, Datum.text.injEq]
  constructor
  · rintro ⟨rest, hs, rfl⟩
    exact String.toList_injective (by simp [hs])
  · rintro rfl
    exact ⟨r.toList, by simp, String.ofList_toList⟩

theorem Datum.bind_text?_eq_some {o : Option Datum} {r : String} :
    o.bind text? = some r ↔ o = some (.text r) := by
  rw [Option.bind_eq_some_iff]
  constructor
  · rintro ⟨d, rfl, hr⟩
    cases d with
    | text s => exact congrArg (some ∘ Datum.text) (Option.some.inj hr)
    | raw b => cases hr
  · exact fun h => ⟨_, h, rfl⟩

/-- A name that goes on from the variable `k` into its value `v`, up to an equals sign there. -/
def Inside (k v name : String) : Prop :=
  ∃ start rest, name = k ++ "=" ++ start ∧ v = start ++ "=" ++ rest

theorem Inside.equals_mem {k v name : String} (h : Inside k v name) : '=' ∈ name.toList := by
  obtain ⟨start, -, rfl, -⟩ := h
  simp

namespace Variables

variable {v : Variables} {k : String}

theorem plain_of_holdsName (h : holdsName k = true) : '=' ∉ k.toList := by
  simp only [holdsName, Bool.and_eq_true, Bool.not_eq_true', List.contains_eq_mem,
    decide_eq_false_iff_not] at h
  exact h.1.2

private theorem within?_of_plain (h : '=' ∉ k.toList) : v.within? k.toList = none := by
  cases hk : k.toList with
  | nil => rfl
  | cons c r =>
    rw [hk] at h
    rw [within?, Text.cutAt_of_not_mem fun hr => h (List.mem_cons_of_mem c hr)]

theorem within?_append (h : holdsName k = true) (start : String) :
    v.within? (k ++ "=" ++ start).toList = (v.get? k).bind (Datum.behind? (start ++ "=")) := by
  have plain := plain_of_holdsName h
  cases hk : k.toList with
  | nil =>
    have empty : k = "" := String.toList_injective hk
    rw [empty] at h
    cases h
  | cons c r =>
    have whole : (k ++ "=" ++ start).toList = c :: (r ++ '=' :: start.toList) := by simp [hk]
    have name : String.ofList (c :: r) = k := by rw [← hk, String.ofList_toList]
    rw [hk] at plain
    rw [whole, within?, Text.cutAt_append fun hr => plain (List.mem_cons_of_mem c hr)]
    dsimp only
    rw [name, String.ofList_toList]

/-- A name is that of a variable, an equals sign and the start of a value, or no environment finds
anything inside its variables. -/
theorem within?_cases (name : String) :
    (∀ v : Variables, v.within? name.toList = none) ∨
      ∃ k start, name = k ++ "=" ++ start ∧ ∀ v : Variables,
        v.within? name.toList = (v.get? k).bind (Datum.behind? (start ++ "=")) := by
  cases hn : name.toList with
  | nil => exact .inl fun _ => rfl
  | cons c r =>
    cases hr : Text.cutAt '=' r with
    | none => exact .inl fun _ => by rw [within?, hr]
    | some cut =>
      obtain ⟨front, back⟩ := cut
      refine .inr ⟨String.ofList (c :: front), String.ofList back, ?_, fun _ => by rw [within?, hr]⟩
      exact String.toList_injective (by simp [hn, (Text.cutAt_eq_some hr).1])

end Variables

namespace ProcessView

variable {w : ProcessView} {k : String} {d : Datum}

theorem get?_of_plain (h : '=' ∉ k.toList) : w.get? k = w.vars.get? k := by
  rw [get?, Variables.within?_of_plain h]
  simp

theorem get?_of_holdsName (h : Variables.holdsName k = true) : w.get? k = w.vars.get? k :=
  get?_of_plain (Variables.plain_of_holdsName h)

theorem get?_of_held (h : w.vars.get? k = some d) : w.get? k = some d := by
  rw [get?, h, Option.some_or]

theorem text?_eq_some_iff {r : String} : w.text? k = some r ↔ w.get? k = some (.text r) :=
  Datum.bind_text?_eq_some

theorem mem_names_iff : k ∈ w.names ↔ ∃ d, w.vars.get? k = some d := KeyMap.mem_keys_iff

/-- A name in front of an equals sign in an entry is that of the variable, or goes on into the
value. -/
private theorem entry_cases {s name r : String} (plain : '=' ∉ k.toList)
    (entry : k ++ "=" ++ s = name ++ "=" ++ r) :
    (name = k ∧ r = s) ∨ ∃ start, name = k ++ "=" ++ start ∧ s = start ++ "=" ++ r := by
  have chars : k.toList ++ '=' :: s.toList = name.toList ++ '=' :: r.toList := by
    simpa using congrArg String.toList entry
  rcases List.append_eq_append_iff.mp chars with ⟨a, hname, hs⟩ | ⟨a, hk, hr⟩
  · cases a with
    | nil =>
      exact .inl ⟨String.toList_injective (by simpa using hname),
        (String.toList_injective (by simpa using hs)).symm⟩
    | cons c start =>
      obtain ⟨rfl, hs⟩ := List.cons.inj hs
      exact .inr ⟨String.ofList start, String.toList_injective (by simp [hname]),
        String.toList_injective (by simpa using hs)⟩
  · cases a with
    | nil =>
      exact .inl ⟨(String.toList_injective (by simpa using hk)).symm,
        String.toList_injective (by simpa using hr)⟩
    | cons c a =>
      obtain ⟨rfl, -⟩ := List.cons.inj hr
      exact absurd (by simp [hk]) plain

/-- An environment gives under a name what follows the name and an equals sign in one of the entries
`k=s` that it keeps for its variables. -/
theorem text?_environ_iff {v : Variables}
    (names : ∀ k d, v.get? k = some d → Variables.holdsName k = true)
    {name r : String} : (ProcessView.mk v true).text? name = some r ↔
      ∃ k s, v.get? k = some (.text s) ∧ k ++ "=" ++ s = name ++ "=" ++ r := by
  rw [text?_eq_some_iff]
  constructor
  · intro found
    cases held : v.get? name with
    | some d =>
      rw [get?_of_held (w := ⟨v, true⟩) held] at found
      exact ⟨name, r, held.trans found, rfl⟩
    | none =>
      rw [get?, held, Option.none_or, if_pos rfl] at found
      rcases Variables.within?_cases name with nowhere | ⟨k, start, rfl, inside⟩
      · rw [nowhere] at found
        cases found
      · rw [inside, Option.bind_eq_some_iff] at found
        obtain ⟨d, hd, found⟩ := found
        cases d with
        | raw b =>
          obtain ⟨rest, -, ⟨⟩⟩ := Option.map_eq_some_iff.mp found
        | text s =>
          obtain rfl := Datum.behind?_text.mp found
          exact ⟨k, _, hd, by simp only [String.append_assoc]⟩
  · rintro ⟨k, s, held, entry⟩
    have own := names k _ held
    rcases entry_cases (Variables.plain_of_holdsName own) entry with ⟨rfl, rfl⟩ | ⟨start, rfl, hs⟩
    · exact get?_of_held held
    · -- The name goes on into the value, and is not itself that of a variable.
      have none : v.get? (k ++ "=" ++ start) = none := by
        cases hd : v.get? (k ++ "=" ++ start) with
        | none => rfl
        | some d => exact absurd (by simp) (Variables.plain_of_holdsName (names _ d hd))
      rw [get?, none, Option.none_or, if_pos rfl, Variables.within?_append own, held]
      exact Datum.behind?_text.mpr hs

end ProcessView

end LayeredConfig
