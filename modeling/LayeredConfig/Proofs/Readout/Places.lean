import LayeredConfig.Proofs.Schema.Homes

/-! Documents that are put in their places one by one. As long as no place is taken twice and none
at the top has the name of a group, each document is found where it was put, and nothing else is
there. -/
namespace LayeredConfig

/-- Places that do not stand in each other's way. -/
structure Apart (homes : List Home) : Prop where
  distinct : homes.Nodup
  clear : ∀ {g a : String}, (some g, a) ∈ homes → (none, g) ∉ homes

theorem Apart.sublist {l homes : List Home} (h : Apart homes) (sub : l.Sublist homes) : Apart l :=
  ⟨h.distinct.sublist sub, fun member top => h.clear (sub.mem member) (sub.mem top)⟩

/-- A table with documents in their places and nothing else: those without a group at the top, and
those of a group in a table of their own. -/
structure Tabulates (present : List (Home × Document)) (top : List (String × Document)) : Prop where
  sorted : top.Pairwise (fun a b => a.1 < b.1)
  value : ∀ {k d}, ((none, k), d) ∈ present → (k, d) ∈ top
  member : ∀ {g a d}, ((some g, a), d) ∈ present → ∃ l, (g, .table l) ∈ top ∧ (a, d) ∈ l
  only : ∀ {k d}, (k, d) ∈ top → ((none, k), d) ∈ present ∨
    ∃ l, d = .table l ∧ l ≠ [] ∧ l.Pairwise (fun a b => a.1 < b.1) ∧
      ∀ e ∈ l, ((some k, e.1), e.2) ∈ present

namespace Tabulates

variable {present : List (Home × Document)} {top : List (String × Document)} {g a k : String}
  {d : Document} {s : Setting}

theorem nil : Tabulates [] [] :=
  ⟨.nil, fun h => absurd h List.not_mem_nil, fun h => absurd h List.not_mem_nil,
    fun h => absurd h List.not_mem_nil⟩

theorem lookup_iff (h : Tabulates present top) : top.lookup k = some d ↔ (k, d) ∈ top :=
  KeyMap.get?_eq_some_iff (m := ⟨top, h.sorted⟩)

/-- Where the documents of a group are, or will be. -/
theorem group (h : Tabulates present top) (clear : ∀ d, ((none, g), d) ∉ present) :
    ∃ l, (top.lookup g).getD (.table []) = .table l ∧ l.Pairwise (fun a b => a.1 < b.1) ∧
      ∀ a d, (a, d) ∈ l ↔ ((some g, a), d) ∈ present := by
  cases found : top.lookup g with
  | none =>
    refine ⟨[], rfl, .nil, fun a d => iff_of_false List.not_mem_nil fun there => ?_⟩
    obtain ⟨l, hl, -⟩ := h.member there
    rw [h.lookup_iff.mpr hl] at found
    cases found
  | some x =>
    rcases h.only (h.lookup_iff.mp found) with top | ⟨l, rfl, -, sorted, there⟩
    · exact absurd top (clear x)
    · refine ⟨l, rfl, sorted, fun a d => ⟨there (a, d), fun hd => ?_⟩⟩
      obtain ⟨m, hm, hd⟩ := h.member hd
      have same := found.symm.trans (h.lookup_iff.mpr hm)
      obtain rfl : l = m := Document.table.inj (Option.some.inj same)
      exact hd

/-- A document at the top does not disturb the others. -/
theorem insert_value (h : Tabulates present top) (fresh : ∀ x, ((none, k), x) ∉ present)
    (clear : ∀ a x, ((some k, a), x) ∉ present) :
    Tabulates (present ++ [((none, k), d)]) (insertSorted k d top) := by
  have entry {j : String} {x : Document} :
      (j, x) ∈ insertSorted k d top ↔ if j = k then x = d else (j, x) ∈ top :=
    KeyMap.mem_insertSorted_iff h.sorted
  refine ⟨insertSorted_sorted k d h.sorted, fun {j x} hx => ?_, fun {g a x} hx => ?_,
    fun {j x} hx => ?_⟩
  · rw [entry]
    rcases List.mem_append.mp hx with hx | hx
    · have other : j ≠ k := fun e => fresh x (e ▸ hx)
      rw [if_neg other]
      exact h.value hx
    · cases List.mem_singleton.mp hx
      rw [if_pos rfl]
  · rcases List.mem_append.mp hx with hx | hx
    · obtain ⟨l, hl, hx'⟩ := h.member hx
      have other : g ≠ k := fun e => clear a x (e ▸ hx)
      exact ⟨l, entry.mpr (by rwa [if_neg other]), hx'⟩
    · cases List.mem_singleton.mp hx
  · rw [entry] at hx
    split at hx
    · next same =>
      subst same hx
      exact .inl (List.mem_append_right _ List.mem_cons_self)
    · rcases h.only hx with value | ⟨l, rfl, full, sorted, there⟩
      · exact .inl (List.mem_append_left _ value)
      · exact .inr ⟨l, rfl, full, sorted, fun e he => List.mem_append_left _ (there e he)⟩

/-- A document in a group does not disturb the others. -/
theorem insert_member (h : Tabulates present top) {l : List (String × Document)}
    (fresh : ∀ x, ((some g, a), x) ∉ present) (clear : ∀ x, ((none, g), x) ∉ present)
    (sorted : l.Pairwise (fun a b => a.1 < b.1))
    (members : ∀ b x, (b, x) ∈ l ↔ ((some g, b), x) ∈ present) :
    Tabulates (present ++ [((some g, a), d)])
      (insertSorted g (.table (insertSorted a d l)) top) := by
  have entry {j : String} {x : Document} :
      (j, x) ∈ insertSorted g (.table (insertSorted a d l)) top ↔
        if j = g then x = .table (insertSorted a d l) else (j, x) ∈ top :=
    KeyMap.mem_insertSorted_iff h.sorted
  have inner {b : String} {x : Document} :
      (b, x) ∈ insertSorted a d l ↔ if b = a then x = d else (b, x) ∈ l :=
    KeyMap.mem_insertSorted_iff sorted
  refine ⟨insertSorted_sorted _ _ h.sorted, fun {j x} hx => ?_, fun {j b x} hx => ?_,
    fun {j x} hx => ?_⟩
  · rcases List.mem_append.mp hx with hx | hx
    · have other : j ≠ g := fun e => clear x (e ▸ hx)
      exact entry.mpr (by rw [if_neg other]; exact h.value hx)
    · cases List.mem_singleton.mp hx
  · by_cases same : j = g
    · subst same
      refine ⟨_, entry.mpr (by rw [if_pos rfl]), inner.mpr ?_⟩
      rcases List.mem_append.mp hx with hx | hx
      · have other : b ≠ a := fun e => fresh x (e ▸ hx)
        rw [if_neg other]
        exact (members b x).mpr hx
      · cases List.mem_singleton.mp hx
        rw [if_pos rfl]
    · rcases List.mem_append.mp hx with hx | hx
      · obtain ⟨m, hm, hx⟩ := h.member hx
        exact ⟨m, entry.mpr (by rwa [if_neg same]), hx⟩
      · cases List.mem_singleton.mp hx
        exact absurd rfl same
  · rw [entry] at hx
    split at hx
    · next same =>
      subst same hx
      have full : (a, d) ∈ insertSorted a d l := inner.mpr (by rw [if_pos rfl])
      refine .inr ⟨_, rfl, List.ne_nil_of_mem full, insertSorted_sorted a d sorted, ?_⟩
      rintro ⟨b, x⟩ he
      rw [inner] at he
      split at he
      · next same =>
        subst same he
        exact List.mem_append_right _ List.mem_cons_self
      · exact List.mem_append_left _ ((members b x).mp he)
    · rcases h.only hx with value | ⟨m, rfl, full, sorted, there⟩
      · exact .inl (List.mem_append_left _ value)
      · exact .inr ⟨m, rfl, full, sorted, fun e he => List.mem_append_left _ (there e he)⟩

/-- What is put in a place that does not stand in the way of the others is there with them. -/
theorem place (h : Tabulates present top) (apart : Apart (present.map (·.1) ++ [s.home]))
    (d : Document) :
    ∃ top', View.place s d top = .ok top' ∧ Tabulates (present ++ [(s.home, d)]) top' := by
  have taken {home : Home} {x : Document} (hx : (home, x) ∈ present) :
      home ∈ present.map (·.1) ++ [s.home] :=
    List.mem_append_left _ (List.mem_map.mpr ⟨(home, x), hx, rfl⟩)
  have here : s.home ∈ present.map (·.1) ++ [s.home] :=
    List.mem_append_right _ List.mem_cons_self
  have fresh (x : Document) : (s.home, x) ∉ present := fun hx => by
    have before : s.home ∈ present.map (·.1) := List.mem_map.mpr ⟨(s.home, x), hx, rfl⟩
    exact (List.nodup_append.mp apart.distinct).2.2 _ before _ List.mem_cons_self rfl
  unfold View.place
  cases hs : s.group with
  | none =>
    have home : s.home = (none, s.accessor) := by rw [Setting.home, hs]
    rw [home] at apart taken here fresh ⊢
    have clear (a : String) (x : Document) : ((some s.accessor, a), x) ∉ present :=
      fun hx => apart.clear (taken hx) here
    exact ⟨_, rfl, h.insert_value fresh clear⟩
  | some g =>
    have home : s.home = (some g, s.accessor) := by rw [Setting.home, hs]
    rw [home] at apart taken here fresh ⊢
    have clear (x : Document) : ((none, g), x) ∉ present := fun hx => apart.clear here (taken hx)
    obtain ⟨l, held, sorted, members⟩ := h.group clear
    dsimp only
    rw [held]
    exact ⟨_, rfl, h.insert_member fresh clear sorted members⟩

end Tabulates

end LayeredConfig
