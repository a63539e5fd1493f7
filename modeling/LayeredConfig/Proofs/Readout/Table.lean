import LayeredConfig.Proofs.Readout.Places
import LayeredConfig.Proofs.Resolve.Causes
import LayeredConfig.Proofs.Resolve.Journal

/-! All values as one table. Where a setting and a group would share a place, this is refused before
anything is resolved; else the table comes to what the values come to, each in its place. -/
namespace LayeredConfig

namespace Value

/-- How values are written down. An absent one is not written at all. -/
inductive WrittenAs : Value → Document → Prop
  | text (s : String) : WrittenAs (.text s) (.text s)
  | integer (n : Int) : WrittenAs (.integer n) (.integer n)
  | boolean (b : Bool) : WrittenAs (.boolean b) (.boolean b)
  | url (u : Url) : WrittenAs (.url u) (.text u.toText)
  | addresses (l : List String) : WrittenAs (.addresses l) (.list (l.map .text))
  | fields (m : KeyMap String) :
    WrittenAs (.fields m) (.table (m.entries.map fun e => (e.1, .text e.2)))

private theorem toDocument?_eq_some_iff {x : Value} {d : Document} :
    x.toDocument? = some d ↔ x.WrittenAs d := by
  constructor
  · intro written
    cases x <;> cases written <;> constructor
  · rintro (_ | _ | _ | _ | _ | _) <;> rfl

private theorem toDocument?_eq_none_iff {x : Value} : x.toDocument? = none ↔ x = .absent := by
  cases x <;> simp [toDocument?]

end Value

namespace View
open Resolving

/-- Settings, their values, and what these are written down as in the places of the settings. There
is one document for each value that is not absent. -/
inductive Placed : List Setting → List Value → List (Home × Document) → Prop
  | nil : Placed [] [] []
  | absent {s : Setting} {l : List Setting} {xs : List Value} {present : List (Home × Document)}
    (rest : Placed l xs present) : Placed (s :: l) (.absent :: xs) present
  | written {s : Setting} {l : List Setting} {x : Value} {xs : List Value} {d : Document}
    {present : List (Home × Document)} (written : x.WrittenAs d) (rest : Placed l xs present) :
    Placed (s :: l) (x :: xs) ((s.home, d) :: present)

private theorem Placed.homes_sublist {l : List Setting} {xs : List Value}
    {present : List (Home × Document)} (h : Placed l xs present) :
    (present.map (·.1)).Sublist (l.map Setting.home) := by
  induction h with
  | nil => exact List.nil_sublist _
  | absent rest ih => exact ih.cons _
  | written written rest ih => exact ih.cons_cons _

variable (R : Setting → Resolving Value) {present : List (Home × Document)}
  {top : List (String × Document)}

/-- Putting a value in its place adds no failure to that of resolving. -/
theorem runFrom_addBy {s : Setting} (h : Tabulates present top)
    (apart : Apart (present.map (·.1) ++ [s.home])) (st : Session) :
    match (R s).runFrom st with
    | (.ok x, t) => ∃ next one, (addBy R top s).runFrom st = (.ok next, t) ∧
        Placed [s] [x] one ∧ Tabulates (present ++ one) next
    | (.error f, t) => (addBy R top s).runFrom st = (.error f, t) := by
  rw [addBy, runFrom_bind]
  rcases (R s).runFrom st with ⟨f | x, t⟩
  · rfl
  · dsimp only
    cases hx : x.toDocument? with
    | none =>
      obtain rfl := Value.toDocument?_eq_none_iff.mp hx
      exact ⟨top, [], rfl, .absent .nil, by rwa [List.append_nil]⟩
    | some d =>
      obtain ⟨next, placed, holds⟩ := h.place apart d
      exact ⟨next, [(s.home, d)], by rw [runFrom_lift, placed],
        .written (Value.toDocument?_eq_some_iff.mp hx) .nil, holds⟩

/-- Putting all values in their places adds no failure to those of resolving. -/
theorem runFrom_foldlM_addBy {l : List Setting} (h : Tabulates present top)
    (apart : Apart (present.map (·.1) ++ l.map Setting.home)) (st : Session) :
    match (l.mapM R).runFrom st with
    | (.ok xs, t) => ∃ all more, (l.foldlM (addBy R) top).runFrom st = (.ok all, t) ∧
        Placed l xs more ∧ Tabulates (present ++ more) all
    | (.error f, t) => (l.foldlM (addBy R) top).runFrom st = (.error f, t) := by
  induction l generalizing present top st with
  | nil => exact ⟨top, [], rfl, .nil, by rwa [List.append_nil]⟩
  | cons s r ih =>
    rw [List.map_cons, List.append_cons] at apart
    have first := runFrom_addBy R h (apart.sublist (List.sublist_append_left _ _)) st
    rw [runFrom_mapM_cons, List.foldlM_cons, runFrom_bind]
    rcases hx : (R s).runFrom st with ⟨f | x, t⟩
    · rw [hx] at first
      rw [first]
    · rw [hx] at first
      obtain ⟨next, one, placed, here, holds⟩ := first
      have homes := (List.Sublist.refl (present.map (·.1))).append here.homes_sublist
      rw [← List.map_append] at homes
      have rest := ih holds (apart.sublist (homes.append (List.Sublist.refl _))) t
      rw [placed]
      dsimp only
      rcases hr : (r.mapM R).runFrom t with ⟨f | xs, u⟩
      · rwa [hr] at rest
      · rw [hr] at rest
        obtain ⟨all, more, done, later, holds⟩ := rest
        rw [List.append_assoc] at holds
        refine ⟨all, one ++ more, done, ?_, holds⟩
        cases here with
        | absent none =>
          cases none
          exact .absent later
        | written written none =>
          cases none
          exact .written written later

variable {v : View}

/-- A setting outside of all groups whose accessor is the name of the group of another setting. -/
def Collides (v : View) (s : Setting) : Prop :=
  s.group = none ∧ ∃ o ∈ v.schema.list, o.group = some s.accessor

private theorem collides_iff {s : Setting} :
    (s.group.isNone && v.schema.list.any fun o => o.group == some s.accessor) = true ↔
      v.Collides s := by
  simp [Collides]

private theorem clash?_eq_some_iff {s : Setting} :
    v.clash? = some s ↔ v.Collides s ∧
      ∃ before later, v.schema.list = before ++ s :: later ∧ ∀ t ∈ before, ¬v.Collides t := by
  simp only [clash?, List.find?_eq_some_iff_append, collides_iff, Bool.not_eq_true',
    ← Bool.not_eq_true]

private theorem clash?_eq_none_iff : v.clash? = none ↔ ∀ s ∈ v.schema.list, ¬v.Collides s := by
  simp only [clash?, List.find?_eq_none, collides_iff]

/-- Where nothing collides, all settings belong in places that are apart. -/
theorem apart_of_clear (clear : ∀ s ∈ v.schema.list, ¬v.Collides s) :
    Apart (v.schema.list.map Setting.home) := by
  refine ⟨v.schema.nodup_homes, fun {g a} member top => ?_⟩
  obtain ⟨o, ho, inside⟩ := List.mem_map.mp member
  obtain ⟨s, hs, outside⟩ := List.mem_map.mp top
  obtain ⟨group, accessor⟩ := Prod.mk.inj outside
  exact clear s hs ⟨group, o, ho, by rw [(Prod.mk.inj inside).1, accessor]⟩

/-- Where nothing collides, the table is made of the values. -/
theorem runFrom_toTable (clear : ∀ s ∈ v.schema.list, ¬v.Collides s) (st : Session) :
    match v.values.runFrom st with
    | (.ok xs, t) => ∃ top present, v.toTable.runFrom st = (.ok top, t) ∧
        Placed v.schema.list xs present ∧ Tabulates present top
    | (.error f, t) => v.toTable.runFrom st = (.error f, t) := by
  rw [toTable, tableBy, clash?_eq_none_iff.mpr clear]
  exact runFrom_foldlM_addBy v.resolve .nil (apart_of_clear clear) st

/-- Where a setting collides, the first that does is refused before anything is resolved. -/
theorem runFrom_toTable_of_clash {s : Setting} (clash : v.clash? = some s) (st : Session) :
    v.toTable.runFrom st = (.error (.bad s.envVar (.accessorIsGroup s.accessor)), st) := by
  rw [toTable, tableBy, clash]
  rfl

/-- Resolving for a table fails as it does for a list of all values. -/
theorem toTable_error_iff (clear : ∀ s ∈ v.schema.list, ¬v.Collides s) {st t : Session}
    {f : Failure} :
    v.toTable.runFrom st = (.error f, t) ↔ v.values.runFrom st = (.error f, t) := by
  have made := runFrom_toTable clear st
  rcases hv : v.values.runFrom st with ⟨e | xs, u⟩
  · rw [hv] at made
    rw [made]
    constructor
    · rintro ⟨⟩
      rfl
    · rintro ⟨⟩
      rfl
  · rw [hv] at made
    obtain ⟨top, -, done, -⟩ := made
    rw [done]
    exact iff_of_false nofun nofun

private theorem explained_of_toTable (clear : ∀ s ∈ v.schema.list, ¬v.Collides s) {st : Session}
    {f : Failure} (h : (v.toTable.runFrom st).1 = .error f) : v.Explained f := by
  rcases ht : v.toTable.runFrom st with ⟨e | top, t⟩
  · rw [ht] at h
    cases h
    have failed := (toTable_error_iff clear).mp ht
    exact explained_of_values (congrArg Prod.fst failed)
  · rw [ht] at h
    cases h

/-- A table is refused, with nothing resolved, exactly when a setting collides. -/
theorem toTable_refused_iff {st : Session} {k a : String} :
    v.toTable.runFrom st = (.error (.bad k (.accessorIsGroup a)), st) ↔
      ∃ before s later, v.schema.list = before ++ s :: later ∧ v.Collides s ∧
        (∀ t ∈ before, ¬v.Collides t) ∧ k = s.envVar ∧ a = s.accessor := by
  constructor
  · intro refused
    cases clash : v.clash? with
    | none =>
      have failed := (toTable_error_iff (clash?_eq_none_iff.mp clash)).mp refused
      obtain ⟨n, circular⟩ := circular_of_mapM (fun s hs => hs) failed
      cases circular
    | some s =>
      obtain ⟨collides, before, later, list, first⟩ := clash?_eq_some_iff.mp clash
      rw [runFrom_toTable_of_clash clash] at refused
      cases refused
      exact ⟨before, s, later, list, collides, first, rfl, rfl⟩
  · rintro ⟨before, s, later, list, collides, first, rfl, rfl⟩
    exact runFrom_toTable_of_clash
      (clash?_eq_some_iff.mpr ⟨collides, before, later, list, first⟩) st

/-- A table is refused, with nothing resolved, exactly when a setting outside of all groups has the
name of a group for its accessor; the first such setting is named. No other failure is the table's
own: whether a place is taken never comes up when values are put in their places, unless a fallback
states so, and resolving fails for a table as it does for a list of all values. Else the table holds
what each of these values that is not absent is written down as, in the place of its setting, and
nothing else; no two belong in one place. -/
theorem toTable_exact (v : View) (st : Session) :
    (∀ k a, v.toTable.runFrom st = (.error (.bad k (.accessorIsGroup a)), st) ↔
      ∃ before s later, v.schema.list = before ++ s :: later ∧ v.Collides s ∧
        (∀ t ∈ before, ¬v.Collides t) ∧ k = s.envVar ∧ a = s.accessor) ∧
    (∀ k a, (v.toTable.runFrom st).1 = .error (.bad k (.accessorIsGroup a)) →
      (∃ s ∈ v.schema.list, v.Collides s) ∨
        ∃ s ∈ v.schema.list, .fail (.bad k (.accessorIsGroup a)) ∈ s.parts) ∧
    (∀ k g, (v.toTable.runFrom st).1 = .error (.bad k (.groupIsValue g)) →
      ∃ s ∈ v.schema.list, .fail (.bad k (.groupIsValue g)) ∈ s.parts) ∧
    ((∀ s ∈ v.schema.list, ¬v.Collides s) →
      (∀ f t, v.toTable.runFrom st = (.error f, t) ↔ v.values.runFrom st = (.error f, t)) ∧
      ∀ xs t, v.values.runFrom st = (.ok xs, t) →
        ∃ top present, v.toTable.runFrom st = (.ok top, t) ∧ Placed v.schema.list xs present ∧
          Tabulates present top ∧ (present.map (·.1)).Nodup) := by
  refine ⟨fun k a => toTable_refused_iff, fun k a failed => ?_, fun k g failed => ?_,
    fun clear => ⟨fun f t => toTable_error_iff clear, fun xs t values => ?_⟩⟩
  · refine or_iff_not_imp_left.mpr fun none => ?_
    have clear : ∀ s ∈ v.schema.list, ¬v.Collides s := fun s hs collides => none ⟨s, hs, collides⟩
    exact (explained_of_toTable clear failed).stated rfl rfl
  · cases clash : v.clash? with
    | some s =>
      rw [runFrom_toTable_of_clash clash] at failed
      cases failed
    | none => exact (explained_of_toTable (clash?_eq_none_iff.mp clash) failed).stated rfl rfl
  · have made := runFrom_toTable clear st
    rw [values] at made
    obtain ⟨top, present, done, placed, holds⟩ := made
    exact ⟨top, present, done, placed, holds, v.schema.nodup_homes.sublist placed.homes_sublist⟩

/-- Settings outside of all groups and in two groups, of which one has nothing. -/
def tabledSettings : List Setting :=
  [{ Setting.ofVar "NAME" .text with accessor := "name" },
   { Setting.ofVar "PORT" .integer with group := some "db", accessor := "port" },
   { Setting.ofVar "TTL" .integer with
      group := some "cache", accessor := "ttl", required := false },
   { Setting.ofVar "HOSTS" .addresses with group := some "db", accessor := "hosts" }]

def tabledView : View :=
  ⟨Schema.build [] tabledSettings,
    ⟨{ vars := KeyMap.ofList [("NAME", .text "app"), ("PORT", .text "5432"),
      ("HOSTS", .text "::1, 10.0.0.0/8")] }, .empty⟩, none, none⟩

theorem toTable_exact_filled :
    ∃ top db, (tabledView.toTable.runFrom .fresh).1 = .ok top ∧ ("name", .text "app") ∈ top ∧
      ("db", .table db) ∈ top ∧ ("port", .integer 5432) ∈ db ∧
      ("hosts", .list [.text "::1", .text "10.0.0.0/8"]) ∈ db ∧ ∀ d, ("cache", d) ∉ top := by
  have list : tabledView.schema.list = tabledSettings := by decide +kernel
  have clear := clash?_eq_none_iff.mp
    (Option.isNone_iff_eq_none.mp (show tabledView.clash?.isNone by decide +kernel))
  have values : (tabledView.values.runFrom .fresh).1 =
      .ok [.text "app", .integer 5432, .absent, .addresses ["::1", "10.0.0.0/8"]] := by
    decide +kernel
  obtain ⟨-, -, -, made⟩ := toTable_exact tabledView .fresh
  obtain ⟨top, present, done, placed, holds, -⟩ := (made clear).2 _ _ (Prod.ext values rfl)
  have parts : present = [((none, "name"), .text "app"), ((some "db", "port"), .integer 5432),
      ((some "db", "hosts"), .list [.text "::1", .text "10.0.0.0/8"])] := by
    rw [list] at placed
    obtain - | - | ⟨⟨⟩, placed⟩ := placed
    obtain - | - | ⟨⟨⟩, placed⟩ := placed
    obtain - | placed | ⟨⟨⟩, -⟩ := placed
    obtain - | - | ⟨⟨⟩, placed⟩ := placed
    cases placed
    rfl
  subst parts
  obtain ⟨db, hdb, port⟩ := holds.member (List.mem_cons_of_mem _ List.mem_cons_self)
  obtain ⟨db', hdb', hosts⟩ := holds.member
    (List.mem_cons_of_mem _ (List.mem_cons_of_mem _ List.mem_cons_self))
  have same := (holds.lookup_iff.mpr hdb).symm.trans (holds.lookup_iff.mpr hdb')
  obtain rfl : db = db' := Document.table.inj (Option.some.inj same)
  refine ⟨top, db, congrArg Prod.fst done, holds.value List.mem_cons_self, hdb, port, hosts,
    fun d hd => ?_⟩
  rcases holds.only hd with value | ⟨l, -, full, -, members⟩
  · simp at value
  · obtain ⟨e, he⟩ := List.exists_mem_of_ne_nil l full
    simpa using members e he

end View

end LayeredConfig
