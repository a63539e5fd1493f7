import LayeredConfig.Coercion
import LayeredConfig.Proofs.Text.Blank
import LayeredConfig.Proofs.Text.Numeral
import LayeredConfig.Proofs.Text.Pieces

/-! Lists of addresses. What may stand in a list is an address or a block, and as no address has a
slash in it, the first slash of a block ends its address. A list that is written with commas alone
between its members is read as it stands. -/
namespace LayeredConfig.Address
open Text

/-- What may stand in a list: an address, or one with a slash and digits behind it that write no
more bits than it has. -/
inductive Listable : List Char → Prop where
  | address {a : List Char} {v : Version} (h : version? a = some v) : Listable a
  | block {a : List Char} {v : Version} (h : version? a = some v) (d : Digits)
    (few : d.value ≤ v.bits) : Listable (a ++ '/' :: d.chars)

variable {s r p : List Char} {raw : String}

/-! No reader of a part of an address gets past a slash. -/

/-- A slash in a text is still there in what is left of it. -/
def StopsAtSlash (read : List Char → Option (List Char)) : Prop :=
  ∀ s r, read s = some r → '/' ∈ s → '/' ∈ r

theorem StopsAtSlash.andThen {f g : List Char → Option (List Char)} (hf : StopsAtSlash f)
    (hg : StopsAtSlash g) : StopsAtSlash fun s => (f s).bind g := by
  intro s r h slash
  obtain ⟨t, first, rest⟩ := Option.bind_eq_some_iff.mp h
  exact hg t r rest (hf s t first slash)

/-- Reading characters of a class that has no slash in it, unless something is wrong with them. -/
theorem stopsAtSlash_dropWhile {f : Char → Bool} (other : f '/' = false) (wrong : List Char → Prop)
    [DecidablePred wrong] : StopsAtSlash fun s => if wrong s then none else some (s.dropWhile f) := by
  intro s r h slash
  have split : '/' ∈ s.takeWhile f ++ s.dropWhile f := by rwa [List.takeWhile_append_dropWhile]
  have behind : '/' ∈ s.dropWhile f := by
    refine (List.mem_append.mp split).resolve_left fun front => ?_
    have taken := List.all_eq_true.mp List.all_takeWhile '/' front
    rw [other] at taken
    cases taken
  dsimp only at h
  split at h
  · cases h
  · obtain rfl := Option.some.inj h
    exact behind

private theorem stopsAtSlash_octet? : StopsAtSlash octet? := stopsAtSlash_dropWhile rfl _

private theorem stopsAtSlash_octets? (n : Nat) : StopsAtSlash (octets? n) := by
  induction n with
  | zero =>
    rintro s r ⟨⟩ slash
    exact slash
  | succ n ih =>
    rintro (_ | ⟨c, s⟩) r h slash
    · cases h
    · by_cases dot : c = '.'
      · subst dot
        exact stopsAtSlash_octet?.andThen ih s r h (by simpa using slash)
      · rw [octets?] at h
        · cases h
        · simp [dot]

private theorem stopsAtSlash_dotted? : StopsAtSlash dotted? :=
  stopsAtSlash_octet?.andThen (stopsAtSlash_octets? 3)

private theorem stopsAtSlash_group? : StopsAtSlash group? := stopsAtSlash_dropWhile rfl _

private theorem stopsAtSlash_afterColon? (first : Bool) : StopsAtSlash (afterColon? first) := by
  intro s r h slash
  unfold afterColon? at h
  split at h
  · obtain rfl := Option.some.inj h
    exact slash
  · split at h
    · obtain rfl := Option.some.inj h
      simpa using slash
    · cases h

private theorem slash_mem_groups (n : Nat) (first : Bool) (slash : '/' ∈ s) :
    '/' ∈ (groups n first s).2.2 := by
  induction n generalizing first s with
  | zero => exact slash
  | succ n ih =>
    rw [groups]
    split
    · exact slash
    · next b colon =>
      have behind : '/' ∈ b := stopsAtSlash_afterColon? first s b colon slash
      split
      · next r octets =>
        split at octets
        · cases octets
        · exact stopsAtSlash_dotted? b r octets behind
      · split
        · exact slash
        · next r group => exact ih false (stopsAtSlash_group? b r group behind)

private theorem isV4_of_slash (slash : '/' ∈ s) : isV4 s = false := by
  refine Bool.eq_false_iff.mpr fun v4 => ?_
  exact absurd (stopsAtSlash_dotted? s [] (beq_iff_eq.mp v4) slash) List.not_mem_nil

private theorem isV6_of_slash (slash : '/' ∈ s) : isV6 s = false := by
  have rest : '/' ∈ (groups 8 true s).2.2 := slash_mem_groups 8 true slash
  unfold isV6
  split
  · next read =>
    rw [read] at rest
    exact beq_eq_false_iff_ne.mpr (List.ne_nil_of_mem rest)
  · next k r _ read =>
    rw [read] at rest
    have behind : '/' ∈ (groups (7 - k) true r).2.2 := slash_mem_groups _ true (by simpa using rest)
    exact beq_eq_false_iff_ne.mpr (List.ne_nil_of_mem behind)
  · rfl

private theorem slash_not_mem_of_version? {v : Version} (h : version? s = some v) : '/' ∉ s := by
  intro slash
  rw [version?, isV4_of_slash slash, isV6_of_slash slash] at h
  cases h

/-! Members of a list. -/

/-- A number of bits is read from digits, however many: what is too much for a byte is too much for
an address. -/
theorem any_ofDigits?_iff (d : Digits) (v : Version) :
    ((Bounds.byte.ofDigits? false d.chars).any fun n : Int => n ≤ v.bits) = true ↔
      d.value ≤ v.bits := by
  have fits : v.bits ≤ 255 := by cases v <;> decide
  rw [Bounds.ofDigits?_chars, Bounds.checked]
  by_cases held : Bounds.byte.Holds (signed false d.value)
  · rw [if_pos held, Option.any_some, decide_eq_true_iff]
    exact Int.ofNat_le
  · have many : ¬d.value ≤ v.bits := by
      refine mt (fun few => ?_) held
      have small : (d.value : Int) ≤ 255 := by omega
      exact ⟨Int.natCast_nonneg _, small⟩
    rw [if_neg held]
    exact iff_of_false Bool.false_ne_true many

private theorem isAddressOrBlock_iff : isAddressOrBlock s = true ↔ Listable s := by
  constructor
  · intro h
    unfold isAddressOrBlock at h
    split at h
    · obtain ⟨v, hv⟩ := Option.isSome_iff_exists.mp h
      exact .address hv
    · next a p cut =>
      split at h
      · cases h
      · next v hv =>
        obtain ⟨written, few⟩ : (p ≠ [] ∧ p.all isDecimal = true) ∧ _ := by
          simpa only [Bool.and_eq_true, bne_iff_ne] using h
        obtain ⟨d, rfl⟩ := exists_digits_iff.mpr written
        obtain ⟨rfl, -⟩ := cutAt_eq_some cut
        exact .block hv d ((any_ofDigits?_iff d v).mp few)
  · rintro (⟨hv⟩ | ⟨hv, d, few⟩)
    · rw [isAddressOrBlock, cutAt_of_not_mem (slash_not_mem_of_version? hv)]
      exact Option.isSome_of_eq_some hv
    · have written : d.chars ≠ [] ∧ d.chars.all isDecimal = true := exists_digits_iff.mp ⟨d, rfl⟩
      rw [isAddressOrBlock, cutAt_append (slash_not_mem_of_version? hv)]
      dsimp only
      rw [hv]
      simp only [Bool.and_eq_true, bne_iff_ne]
      exact ⟨written, (any_ofDigits?_iff d _).mpr few⟩

private theorem readList_eq_ok_iff {l : List String} :
    readList raw = .ok l ↔ (∀ p ∈ segments raw.toList, Listable p) ∧
      l = (segments raw.toList).map String.ofList := by
  have searched : readList raw = .ok l ↔
      (segments raw.toList).find? (fun p => !isAddressOrBlock p) = none ∧
        l = (segments raw.toList).map String.ofList := by
    rw [readList]
    split
    · next p found => simp [found]
    · next missing => simp [missing, eq_comm]
  rw [searched, List.find?_eq_none]
  simp only [Bool.not_eq_true', Bool.not_eq_false, isAddressOrBlock_iff]

private theorem readList_eq_error_iff {q : String} :
    readList raw = .error q ↔ ∃ before p after, segments raw.toList = before ++ p :: after ∧
      (∀ o ∈ before, Listable o) ∧ ¬Listable p ∧ q = String.ofList p := by
  have searched : readList raw = .error q ↔
      ∃ p, (segments raw.toList).find? (fun p => !isAddressOrBlock p) = some p ∧
        q = String.ofList p := by
    rw [readList]
    split
    · next p found => simp [found, eq_comm]
    · next missing => simp [missing]
  rw [searched]
  simp only [List.find?_eq_some_iff_append, Bool.not_not, Bool.not_eq_true', ← Bool.not_eq_true,
    isAddressOrBlock_iff]
  constructor
  · rintro ⟨p, ⟨other, before, after, split, all⟩, rfl⟩
    exact ⟨before, p, after, split, all, other, rfl⟩
  · rintro ⟨before, p, after, split, all, other, rfl⟩
    exact ⟨p, ⟨other, before, after, split, all⟩, rfl⟩

/-! Lists in their shortest writing. -/

private theorem mem_segments (h : p ∈ segments s) : p ≠ [] ∧ isTrim p = true ∧ ',' ∉ p := by
  obtain ⟨mem, some⟩ := List.mem_filter.mp h
  obtain ⟨q, hq, rfl⟩ := List.mem_map.mp mem
  refine ⟨of_decide_eq_true some, isTrim_trim q, fun comma => ?_⟩
  exact not_mem_of_mem_pieces hq ((trim_isInfix q).subset comma)

private theorem segments_intercalate {l : List (List Char)}
    (h : ∀ p ∈ l, p ≠ [] ∧ isTrim p = true ∧ ',' ∉ p) : segments ([','].intercalate l) = l := by
  by_cases none : l = []
  · subst none
    rfl
  · have whole : l.map trim = l :=
      (List.map_congr_left fun p hp => trim_of_isTrim (h p hp).2.1).trans (List.map_id l)
    rw [segments, pieces_eq_splitOn, List.splitOn_intercalate ',' (fun p hp => (h p hp).2.2) none,
      whole]
    exact List.filter_eq_self.mpr fun p hp => decide_eq_true (h p hp).1

/-- What was read from a list is read again from its members with commas between them. -/
theorem readList_intercalate {l : List String} (h : readList raw = .ok l) :
    readList (",".intercalate l) = .ok l := by
  obtain ⟨all, rfl⟩ := readList_eq_ok_iff.mp h
  have chars : (",".intercalate ((segments raw.toList).map String.ofList)).toList =
      [','].intercalate (segments raw.toList) := by
    rw [String.toList_intercalate, List.map_map]
    simp [Function.comp_def]
  have same : segments (",".intercalate ((segments raw.toList).map String.ofList)).toList =
      segments raw.toList := by
    rw [chars, segments_intercalate fun p hp => mem_segments hp]
  refine readList_eq_ok_iff.mpr ⟨?_, congrArg (List.map String.ofList) same.symm⟩
  rw [same]
  exact all

end LayeredConfig.Address

namespace LayeredConfig.Coercion
open Address Text

variable {key raw : String}

private theorem addresses_eq_ok_iff {v : Value} :
    addresses key raw = .ok v ↔ ∃ l, readList raw = .ok l ∧ v = .addresses l := by
  rw [addresses]
  split
  · next l read => simp [read, eq_comm]
  · next q refused => simp [refused]

private theorem addresses_eq_error_iff {f : Failure} :
    addresses key raw = .error f ↔ ∃ q, readList raw = .error q ∧ f = .bad key (.badAddress q) := by
  rw [addresses]
  split
  · next l read => simp [read]
  · next q refused => simp [refused, eq_comm]

/-- A list is read exactly if all its members, which stand between commas and have something other
than blanks in them, are addresses or blocks; it is then read as its members in their order, without
the blanks around them. Otherwise the first member that is neither is named. A list that was read is
read again from its members with commas alone between them. -/
theorem addresses_exact (key raw : String) :
    let members := ((raw.toList.splitOn ',').map trim).filter (· ≠ [])
    (∀ v, addresses key raw = .ok v ↔ (∀ p ∈ members, Listable p) ∧
      v = .addresses (members.map String.ofList)) ∧
    (∀ f, addresses key raw = .error f ↔ ∃ before p after, members = before ++ p :: after ∧
      (∀ o ∈ before, Listable o) ∧ ¬Listable p ∧ f = .bad key (.badAddress (String.ofList p))) ∧
    ∀ v, addresses key raw = .ok v → addresses key v.render = .ok v := by
  have parts : segments raw.toList = ((raw.toList.splitOn ',').map trim).filter (· ≠ []) := by
    rw [segments, pieces_eq_splitOn]
  dsimp only
  rw [← parts]
  refine ⟨fun v => ?_, fun f => ?_, fun v h => ?_⟩
  · simp only [addresses_eq_ok_iff, readList_eq_ok_iff]
    constructor
    · rintro ⟨l, ⟨all, rfl⟩, rfl⟩
      exact ⟨all, rfl⟩
    · rintro ⟨all, rfl⟩
      exact ⟨_, ⟨all, rfl⟩, rfl⟩
  · simp only [addresses_eq_error_iff, readList_eq_error_iff]
    constructor
    · rintro ⟨q, ⟨before, p, after, split, all, other, rfl⟩, rfl⟩
      exact ⟨before, p, after, split, all, other, rfl⟩
    · rintro ⟨before, p, after, split, all, other, rfl⟩
      exact ⟨_, ⟨before, p, after, split, all, other, rfl⟩, rfl⟩
  · obtain ⟨l, read, rfl⟩ := addresses_eq_ok_iff.mp h
    exact addresses_eq_ok_iff.mpr ⟨l, readList_intercalate read, rfl⟩

/-- Blanks around members, members that are missing, and more digits than a byte has. -/
theorem addresses_exact_padded :
    let raw := " 10.0.0.0/0000000008 ,,\u00a0::1/128,"
    let members := ["10.0.0.0/0000000008", "::1/128"]
    addresses "HOSTS" raw = .ok (.addresses members) ∧
      addresses "HOSTS" (Value.addresses members).render = .ok (.addresses members) := by
  intro raw members
  have read : readList raw = .ok members := by decide +kernel
  have value : addresses "HOSTS" raw = .ok (.addresses members) :=
    addresses_eq_ok_iff.mpr ⟨members, read, rfl⟩
  exact ⟨value, (addresses_exact "HOSTS" raw).2.2 _ value⟩

end LayeredConfig.Coercion
