import LayeredConfig.Placeholder
import LayeredConfig.Proofs.FileTree.Additions
import LayeredConfig.Proofs.Text.Blank
import LayeredConfig.Proofs.Text.LetterCase

/-! Placeholders and the records that keep them. The text that is made is the text that is read
back, and a record that cannot be made is never made. -/
namespace LayeredConfig.Placeholder
open Text FileTree

/-! The texts that are made. -/

/-- Nothing that is made from a template has a blank at either end. -/
def Template.IsTrim (t : Template) : Prop :=
  isTrim t.before.toList = true ∧ isTrim t.after.toList = true

theorem Template.IsTrim.fill {t : Template} (h : t.IsTrim) (bytes : List UInt8) :
    isTrim (t.fill bytes).toList = true := by
  rw [Template.fill, String.toList_append, String.toList_append, String.toList_ofList]
  exact isTrim_append (isTrim_append h.1 (isTrim_hexBytes bytes)) h.2

private theorem Template.isTrim_fixed {s : String} (h : isTrim s.toList = true) :
    (fixed s).IsTrim :=
  ⟨h, rfl⟩

private theorem isTrim_ofScheme {scheme url : String} (h : ofScheme? scheme = some url) :
    isTrim url.toList = true := by
  unfold ofScheme? at h
  split at h
  all_goals cases h
  all_goals decide +kernel

/-- A key that ends in a path in upper case ends with no blank in lower case. -/
theorem isTrim_path {key : String} (h : "_PATH".toList.isSuffixOf (upper key).toList = true) :
    isTrim ("/tmp/dummy_" ++ lower key).toList = true := by
  obtain ⟨front, hf⟩ := List.isSuffixOf_iff_suffix.mp h
  have last : (lower key).toList.getLast? = some 'h' := by
    apply lower_last_of_upper
    rw [← hf, List.getLast?_append]
    rfl
  have ends : isTrim ['/'] = true ∧ isTrim ['h'] = true := by decide
  rw [String.toList_append]
  apply isTrim_of_ends ends.1 ends.2
  · rfl
  · rw [List.getLast?_append, last]
    rfl

private theorem Template.isTrim_ite {c : Prop} [Decidable c] {t u : Template} (ht : c → t.IsTrim)
    (hu : u.IsTrim) : (if c then t else u).IsTrim := by
  split
  · exact ht ‹c›
  · exact hu

private theorem isTrim_ofKey (key : String) : (ofKey key).IsTrim := by
  -- The key stands between other texts, or is a path.
  have root : isTrim ("/tmp/dummy_" ++ lower key ++ "/").toList = true := by
    rw [String.toList_append, String.toList_append]
    exact isTrim_between (by decide) (by decide) (by decide) (by decide) _
  have plain : isTrim ("dummy_" ++ lower key ++ "_").toList = true := by
    rw [String.toList_append, String.toList_append]
    exact isTrim_between (by decide) (by decide) (by decide) (by decide) _
  unfold ofKey
  refine Template.isTrim_ite (fun _ => ⟨by decide +kernel, by decide +kernel⟩) ?_
  refine Template.isTrim_ite (fun _ => ⟨by decide +kernel, by decide +kernel⟩) ?_
  refine Template.isTrim_ite (fun ends => Template.isTrim_fixed (isTrim_path ends)) ?_
  refine Template.isTrim_ite (fun _ => Template.isTrim_fixed root) ?_
  refine Template.isTrim_ite (fun _ => ⟨rfl, rfl⟩) ?_
  refine Template.isTrim_ite (fun _ => ⟨by decide +kernel, rfl⟩) ?_
  refine Template.isTrim_ite (fun _ => ⟨by decide +kernel, rfl⟩) ?_
  exact ⟨plain, rfl⟩

/-- Placeholders have no blank at either end. -/
theorem isTrim_template (key : String) (scheme : Option String) : (template key scheme).IsTrim := by
  unfold template
  split
  · next url hu =>
    obtain ⟨s, -, hs⟩ := Option.bind_eq_some_iff.mp hu
    exact Template.isTrim_fixed (isTrim_ofScheme hs)
  · exact isTrim_ofKey key

/-! The paths of records. -/

/-- A change to lower case does not lead upwards. -/
theorem not_up_lower {key : String} (h : ".." ∉ names key) : ".." ∉ names (lower key) := by
  intro hm
  apply h
  obtain ⟨p, hp, he⟩ := List.mem_map.mp hm
  obtain rfl : p = List.replicate 2 '.' := String.ofList_injective he
  rw [lower, String.toList_ofList] at hp
  exact List.mem_map.mpr ⟨_, dots_mem_pieces hp, rfl⟩

/-- Names inside a folder come behind those of the folder. -/
theorem names_inside (folder : String) :
    ∃ front, (∀ name, names (inside folder name) = front ++ names name) ∧
      ∀ n ∈ front, n ∈ names folder := by
  unfold inside
  by_cases closed : folder = "" ∨ folder.toList.getLast? = some '/'
  · simp only [if_pos closed]
    rcases closed with rfl | slash
    · refine ⟨[], fun name => ?_, fun n hn => absurd hn List.not_mem_nil⟩
      rw [String.empty_append, List.nil_append]
    · obtain ⟨front, hf⟩ := List.getLast?_eq_some_iff.mp slash
      have open' : folder = String.ofList front ++ "/" := by
        apply String.toList_injective
        rw [hf, String.toList_append, String.toList_ofList]
        rfl
      refine ⟨names (String.ofList front), fun name => ?_, fun n hn => ?_⟩
      · rw [open', names_append_slash]
      · have ends : folder = String.ofList front ++ "/" ++ "" := by rw [open', String.append_empty]
        rw [ends, names_append_slash]
        exact List.mem_append_left _ hn
  · simp only [if_neg closed]
    exact ⟨names folder, names_append_slash folder, fun n hn => hn⟩

/-- The name of the record of a key, with slashes where the key has them. -/
theorem record_name {key : String} (h : ".." ∉ names key) :
    ∃ front last, names ("dummy_" ++ lower key ++ ".txt") = front ++ [last ++ ".txt"] ∧
      ".." ∉ front := by
  obtain ⟨n, rest, hn⟩ := List.exists_cons_of_ne_nil (names_ne_nil (lower key))
  have named : names ("dummy_" ++ lower key) = ("dummy_" ++ n) :: rest :=
    names_append_left (by decide) hn
  obtain ⟨front, last, hl⟩ : ∃ front last, names ("dummy_" ++ lower key) = front ++ [last] :=
    ⟨_, _, (List.dropLast_append_getLast (names_ne_nil _)).symm⟩
  refine ⟨front, last, names_append_right (by decide) hl, fun hm => ?_⟩
  have there : ".." ∈ ("dummy_" ++ n) :: rest := by
    rw [← named, hl]
    exact List.mem_append_left _ hm
  rcases List.mem_cons.mp there with he | hm
  · have first := congrArg (fun s => s.toList.head?) he
    rw [String.toList_append, List.head?_append] at first
    cases first
  · exact not_up_lower h (hn ▸ List.mem_cons_of_mem n hm)

/-- The records of all keys are files below one folder, which is that of the root or below it. -/
theorem record_leadsTo (root : String) :
    ∃ base, (∀ n ∈ base, n ∈ names root ∨ n = "tmp") ∧
      ∀ key, ".." ∉ names key → ∃ front last, LeadsTo (recordPath root key) base front last := by
  obtain ⟨start, hs, inRoot⟩ := names_inside root
  obtain ⟨base, hb, inFolder⟩ := names_inside (inside root "tmp")
  refine ⟨base, fun n hn => ?_, fun key hk => ?_⟩
  · have h := inFolder n hn
    rw [hs] at h
    rcases List.mem_append.mp h with h | h
    · exact .inl (inRoot n h)
    · have single : names "tmp" = ["tmp"] := by decide
      rw [single] at h
      exact .inr (List.mem_singleton.mp h)
  · obtain ⟨front, last, hl, down⟩ := record_name hk
    have ending : (last ++ ".txt").toList.getLast? = some 't' := by
      rw [String.toList_append, List.getLast?_append]
      rfl
    have other {s : String} (h : s.toList.getLast? ≠ some 't') : last ++ ".txt" ≠ s :=
      fun e => h (e ▸ ending)
    refine ⟨front, last ++ ".txt", ?_, ?_, ?_⟩
    · rw [recordPath, hb, hl, List.append_assoc]
    · simp [down, (other (s := "..") (by decide)).symm]
    · simp [isIdle, other (s := "") (by decide), other (s := ".") (by decide)]

/-- Where neither the root nor the key leads upwards, the path of a record never does. -/
theorem record_fromStart {root key : String} (hr : ".." ∉ names root) (hk : ".." ∉ names key) :
    ∃ front last, LeadsTo (recordPath root key) [] front last := by
  obtain ⟨base, inRoot, leads⟩ := record_leadsTo root
  obtain ⟨front, last, p⟩ := leads key hk
  have down : ".." ∉ base := fun h => (inRoot ".." h).elim hr (by decide)
  exact ⟨base ++ front, last, p.fromStart down⟩

/-! Fetching. -/

variable {root key : String} {scheme : Option String} {t : FileTree} {r : Random}

theorem fetch_of_read {s : String} (h : t.read (recordPath root key) = .ok s) :
    fetch root key scheme t r = (.ok (String.ofList (trim s.toList)), t, r) := by
  unfold fetch
  rw [h]

theorem fetch_of_lacks (h : t.Lacks (recordPath root key)) :
    fetch root key scheme t r = create root key scheme t r := by
  unfold fetch
  rcases h with h | h <;> rw [h]

theorem fetch_of_shut (h : t.Shut (recordPath root key)) :
    (fetch root key scheme t r).1.toOption = none ∧ (fetch root key scheme t r).2.1 = t := by
  by_cases lacks : t.Lacks (recordPath root key)
  · obtain ⟨e, he⟩ := h.unwritten lacks (.text ((template key scheme).fill
      (r.draw (template key scheme).bytes).1))
    rw [fetch_of_lacks lacks]
    unfold create
    dsimp only
    rw [he]
    exact ⟨rfl, rfl⟩
  · obtain ⟨e, he⟩ := h.unread
    have other : fetch root key scheme t r = (.error (.unreadable (recordPath root key) e), t, r) := by
      unfold fetch
      rw [he]
      cases e with
      | notFound => exact absurd (.inl he) lacks
      | notFolder => exact absurd (.inr he) lacks
      | _ => rfl
    rw [other]
    exact ⟨rfl, rfl⟩

/-- A placeholder that is made is kept in the record as it is. -/
theorem read_of_create {value : String} (h : (create root key scheme t r).1 = .ok value) :
    (create root key scheme t r).2.1.read (recordPath root key) = .ok value ∧
      trim value.toList = value.toList := by
  unfold create at h ⊢
  dsimp only at h ⊢
  have trimmed := (isTrim_template key scheme).fill (r.draw (template key scheme).bytes).1
  generalize (template key scheme).fill (r.draw (template key scheme).bytes).1 = made at h trimmed ⊢
  rcases hw : t.writeDeep (recordPath root key) (.text made) with ⟨_ | e, u⟩
  · rw [hw] at h
    cases h
    exact ⟨read_writeDeep hw, trim_of_isTrim trimmed⟩
  · rw [hw] at h
    cases h

section Below

variable {base front place : List String} {last : String}

/-- What is made below an opened base is only added, and what could not be made never can be. -/
theorem create_below (scheme : Option String) (r : Random)
    (p : LeadsTo (recordPath root key) base front last) (o : t.Opens base place)
    (lacks : t.Lacks (recordPath root key)) :
    t.Grows (create root key scheme t r).2.1 ∧
      ((∃ value, (create root key scheme t r).1 = .ok value) ∨
        (create root key scheme t r).1.toOption = none ∧
          ∀ w, (create root key scheme t r).2.1.Grows w → w.Shut (recordPath root key)) := by
  unfold create
  dsimp only
  generalize (template key scheme).fill (r.draw (template key scheme).bytes).1 = value
  rcases hw : t.writeDeep (recordPath root key) (.text value) with ⟨_ | e, u⟩
  · exact ⟨p.grows_writeDeep o lacks hw, .inl ⟨value, rfl⟩⟩
  · obtain ⟨g, shut⟩ := p.writeDeep_failed o lacks hw
    exact ⟨g, .inr ⟨rfl, shut⟩⟩

/-- What is fetched below an opened base is the same ever after and nothing is written for it; and
what could not be fetched never can be. All this holds however the tree grows. -/
theorem fetch_below (p : LeadsTo (recordPath root key) base front last) (o : t.Opens base place) :
    t.Grows (fetch root key scheme t r).2.1 ∧
      ∀ w r', (fetch root key scheme t r).2.1.Grows w →
        (fetch root key scheme w r').1.toOption = (fetch root key scheme t r).1.toOption ∧
        (fetch root key scheme w r').2.1 = w := by
  by_cases lacks : t.Lacks (recordPath root key)
  · rw [fetch_of_lacks lacks]
    obtain ⟨g, ⟨value, made⟩ | ⟨failed, shut⟩⟩ := create_below scheme r p o lacks
    · obtain ⟨written, trimmed⟩ := read_of_create made
      refine ⟨g, fun w r' hg => ?_⟩
      rw [fetch_of_read (read_of_grows hg written), trimmed, String.ofList_toList, made]
      exact ⟨rfl, rfl⟩
    · refine ⟨g, fun w r' hg => ?_⟩
      rw [failed]
      exact fetch_of_shut (shut w hg)
  · have found : t.read (recordPath root key) ≠ .error .notFound := fun h => lacks (.inl h)
    cases hread : t.read (recordPath root key) with
    | ok s =>
      rw [fetch_of_read hread]
      refine ⟨.refl t, fun w r' hg => ?_⟩
      rw [fetch_of_read (read_of_grows hg hread)]
      exact ⟨rfl, rfl⟩
    | error e =>
      have shut : t.Shut (recordPath root key) := shut_of_fault hread lacks
      obtain ⟨failed, same⟩ := @fetch_of_shut root key scheme t r shut
      rw [failed, same]
      refine ⟨.refl t, fun w r' hg => fetch_of_shut ?_⟩
      have kept := read_grows hg found
      apply shut_of_fault (kept.trans hread)
      rwa [Lacks, kept]

end Below

/-- Once a placeholder was fetched, it is always the same and nothing is written; and once it could
not be fetched, it never can be. All this holds however the tree grows. -/
theorem fetch_settled (hr : ".." ∉ names root) (hk : ".." ∉ names key) (scheme : Option String)
    (t : FileTree) (r : Random) :
    t.Grows (fetch root key scheme t r).2.1 ∧
      ∀ w r', (fetch root key scheme t r).2.1.Grows w →
        (fetch root key scheme w r').1.toOption = (fetch root key scheme t r).1.toOption ∧
        (fetch root key scheme w r').2.1 = w := by
  obtain ⟨front, last, p⟩ := record_fromStart hr hk
  exact fetch_below p (opens_start t)

/-- Fetching a placeholder makes its record, with the folders on the way to it, and does nothing
else to the files. -/
theorem fetch_addsTo (hr : ".." ∉ names root) (hk : ".." ∉ names key) (scheme : Option String)
    (t : FileTree) (r : Random) :
    t.AddsTo (fetch root key scheme t r).2.1 (steps (recordPath root key)) := by
  by_cases lacks : t.Lacks (recordPath root key)
  · obtain ⟨front, last, p⟩ := record_fromStart hr hk
    rw [fetch_of_lacks lacks]
    unfold create
    dsimp only
    generalize (template key scheme).fill (r.draw (template key scheme).bytes).1 = value
    have made := p.writeDeep_addsTo (p.checkPath_of_lacks lacks) t (.text value)
    rcases hw : t.writeDeep (recordPath root key) (.text value) with ⟨_ | e, u⟩
    all_goals
      rw [hw] at made
      exact made
  · have same : (fetch root key scheme t r).2.1 = t := by
      cases hread : t.read (recordPath root key) with
      | ok s => rw [fetch_of_read hread]
      | error e => exact (fetch_of_shut (shut_of_fault hread lacks)).2
    rw [same]
    exact .refl t _

end LayeredConfig.Placeholder
