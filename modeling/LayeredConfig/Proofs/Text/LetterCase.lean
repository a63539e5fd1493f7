import Mathlib.Data.List.Forall2
import LayeredConfig.Text.LetterCase
import LayeredConfig.Proofs.Text.Pieces

/-! Which characters can become a given one when the case of a text is changed. -/
namespace LayeredConfig.Text

/-- A character was there before, or a rule leads to it from a character that the rule covers. -/
theorem shiftBy_eq {t : List Shift} {c d : Char} (h : shiftBy t c = d) (hd : d.toNat ≠ 0) :
    c = d ∨ ∃ r ∈ t, r.covers c.toNat = true ∧ (c.toNat + r.offset : Int) = d.toNat := by
  unfold shiftBy at h
  split at h
  · next r hr =>
    have covers : r.covers c.toNat = true := by simpa using List.find?_some hr
    refine .inr ⟨r, List.mem_of_find?_eq_some hr, covers, ?_⟩
    rw [Char.ofNat] at h
    by_cases valid : ((c.toNat : Int) + r.offset).toNat.isValidChar
    · rw [dif_pos valid] at h
      have code : (c.toNat + r.offset).toNat = d.toNat := congrArg Char.toNat h
      omega
    · rw [dif_neg valid] at h
      exact absurd (congrArg Char.toNat h).symm hd
  · exact .inl h

def lowerBlock (before : List Char) (c : Char) (after : List Char) : List Char :=
  if c = 'Σ' then [if casedAhead before && !casedAhead after then 'ς' else 'σ'] else lowerChar c

private theorem lowerAfter_cons (before : List Char) (c : Char) (r : List Char) :
    lowerAfter before (c :: r) = lowerBlock before c r ++ lowerAfter (c :: before) r := rfl

private theorem lowerBlock_ne_nil (before : List Char) (c : Char) (after : List Char) :
    lowerBlock before c after ≠ [] := by
  unfold lowerBlock lowerChar
  repeat' split
  all_goals exact List.cons_ne_nil _ _

/-- The last character determines the end of the lower case. -/
theorem lowerAfter_concat (before s : List Char) (c : Char) :
    ∃ front b, lowerAfter before (s ++ [c]) = front ++ lowerBlock b c [] := by
  induction s generalizing before with
  | nil => exact ⟨[], before, by simp [lowerAfter_cons, lowerAfter]⟩
  | cons d r ih =>
    obtain ⟨front, b, hf⟩ := ih (d :: before)
    refine ⟨lowerBlock before d (r ++ [c]) ++ front, b, ?_⟩
    rw [List.cons_append, lowerAfter_cons, hf, List.append_assoc]

/-- No other character becomes a dot or a slash. -/
theorem eq_of_mem_lowerBlock {before after : List Char} {c d : Char} (hd : d = '.' ∨ d = '/')
    (h : d ∈ lowerBlock before c after) : c = d := by
  have elsewhere : ∀ r ∈ lowerShifts, r.last + r.offset < 0x2E ∨ 0x2F < r.first + r.offset := by
    decide +kernel
  unfold lowerBlock lowerChar at h
  split at h
  · rcases hd with rfl | rfl <;> split at h <;> simp at h
  · split at h
    · rcases hd with rfl | rfl <;> simp at h
    · have code : d.toNat = 0x2E ∨ d.toNat = 0x2F := hd.imp (congrArg Char.toNat) (congrArg Char.toNat)
      rcases shiftBy_eq (List.mem_singleton.mp h).symm (by omega) with hc | ⟨r, hr, covers, hk⟩
      · exact hc
      · simp only [Shift.covers, Bool.and_eq_true, decide_eq_true_eq] at covers
        have := elsewhere r hr
        omega

private theorem lowerBlock_dot (before after : List Char) :
    lowerBlock before '.' after = ['.'] := by
  have h : lowerChar '.' = ['.'] := by decide +kernel
  rw [lowerBlock, if_neg (by decide), h]

private theorem lowerBlock_slash (before after : List Char) :
    lowerBlock before '/' after = ['/'] := by
  have h : lowerChar '/' = ['/'] := by decide +kernel
  rw [lowerBlock, if_neg (by decide), h]

/-- A piece of dots alone comes from such a piece. -/
def DotsFrom (p q : List Char) : Prop := ∀ k, p = List.replicate k '.' → q = List.replicate k '.'

/-- The lower case of a text has the same pieces of dots alone between the slashes. -/
theorem forall₂_pieces_lowerAfter (before s : List Char) :
    List.Forall₂ DotsFrom (pieces '/' (lowerAfter before s)) (pieces '/' s) := by
  induction s generalizing before with
  | nil => exact .cons (fun _ h => h) .nil
  | cons c r ih =>
    have rest := ih (c :: before)
    rw [lowerAfter_cons]
    by_cases hc : c = '/'
    · subst hc
      rw [lowerBlock_slash, List.singleton_append, pieces, pieces, if_pos rfl, if_pos rfl]
      exact .cons (fun _ h => h) rest
    · obtain ⟨q, qs, hq⟩ := List.exists_cons_of_ne_nil (pieces_ne_nil '/' r)
      obtain ⟨p, ps, hp⟩ := List.exists_cons_of_ne_nil
        (pieces_ne_nil '/' (lowerAfter (c :: before) r))
      rw [hp, hq] at rest
      obtain ⟨first, others⟩ := List.forall₂_cons.mp rest
      have plain : '/' ∉ lowerBlock before c r := fun h => hc (eq_of_mem_lowerBlock (.inr rfl) h)
      rw [pieces_append plain _ hp, pieces, if_neg hc, hq]
      refine .cons (fun k hk => ?_) others
      -- The first piece is of dots alone, so that the first character was a dot.
      obtain ⟨d, hd⟩ := List.exists_mem_of_ne_nil _ (lowerBlock_ne_nil before c r)
      have dots : ∀ x ∈ lowerBlock before c r ++ p, x = '.' := by
        rw [hk]
        exact fun x hx => List.eq_of_mem_replicate hx
      have dot : c = '.' := by
        have hd' := dots d (List.mem_append_left _ hd)
        subst hd'
        exact eq_of_mem_lowerBlock (.inl rfl) hd
      subst dot
      rw [lowerBlock_dot] at hk
      cases k with
      | zero => cases hk
      | succ k => rw [List.replicate_succ, first k (List.cons.inj hk).2]

/-- Dots alone between slashes in the lower case of a text are there in the text. -/
theorem dots_mem_pieces {before s : List Char} {k : Nat}
    (h : List.replicate k '.' ∈ pieces '/' (lowerAfter before s)) :
    List.replicate k '.' ∈ pieces '/' s := by
  have same := forall₂_pieces_lowerAfter before s
  generalize pieces '/' (lowerAfter before s) = l at h same
  generalize pieces '/' s = m at same ⊢
  induction same with
  | nil => exact absurd h List.not_mem_nil
  | cons first _ ih =>
    rcases List.mem_cons.mp h with he | h
    · rw [first k he.symm]
      exact List.mem_cons_self
    · exact List.mem_cons_of_mem _ (ih h)

private theorem mem_upperExpansions {n : Nat} {l : List Nat}
    (h : upperExpansions.lookup n = some l) :
    (n, l) ∈ upperExpansions := by
  obtain ⟨front, back, he, -⟩ := List.lookup_eq_some_iff.mp h
  rw [he]
  exact List.mem_append_right _ List.mem_cons_self

private theorem upperChar_ne_nil (c : Char) : upperChar c ≠ [] := by
  have expanded : ∀ e ∈ upperExpansions, e.2 ≠ [] := by decide
  unfold upperChar
  split
  · next l hl =>
    exact fun h => expanded _ (mem_upperExpansions hl) (List.map_eq_nil_iff.mp h)
  · exact List.cons_ne_nil _ _

/-- Only the letter itself, in lower or upper case, becomes a text that ends in `H`. -/
theorem eq_of_upperChar {c : Char} (h : (upperChar c).getLast? = some 'H') : c = 'h' ∨ c = 'H' := by
  have expanded : ∀ e ∈ upperExpansions, (e.2.map Char.ofNat).getLast? ≠ some 'H' := by
    decide +kernel
  have shifted : ∀ r ∈ upperShifts, 0x48 - r.offset < r.first ∨ r.last < 0x48 - r.offset ∨
      r.offset = -0x20 := by
    decide +kernel
  unfold upperChar at h
  split at h
  · next l hl =>
    exact absurd h (expanded _ (mem_upperExpansions hl))
  · have hs : shiftBy upperShifts c = 'H' := by simpa using h
    rcases shiftBy_eq hs (by decide) with hc | ⟨r, hr, covers, hk⟩
    · exact .inr hc
    · simp only [Shift.covers, Bool.and_eq_true, decide_eq_true_eq] at covers
      have code : 'H'.toNat = 0x48 := rfl
      have := shifted r hr
      refine .inl (Char.toNat_inj.mp ?_)
      change c.toNat = 0x68
      omega

/-- A text whose upper case ends in `H` ends in `h` in lower case. -/
theorem lower_last_of_upper {s : String} (h : (upper s).toList.getLast? = some 'H') :
    (lower s).toList.getLast? = some 'h' := by
  rw [upper, String.toList_ofList] at h
  rw [lower, String.toList_ofList]
  have hs : s.toList ≠ [] := by
    intro hn
    simp [hn] at h
  obtain ⟨front, c, hc⟩ : ∃ front c, s.toList = front ++ [c] :=
    ⟨_, _, (List.dropLast_append_getLast hs).symm⟩
  have last : (upperChar c).getLast? = some 'H' := by
    rw [hc, List.flatMap_append, List.flatMap_singleton, List.getLast?_append] at h
    cases hx : (upperChar c).getLast? with
    | none => exact absurd (List.getLast?_eq_none_iff.mp hx) (upperChar_ne_nil c)
    | some x => simpa [hx] using h
  obtain ⟨lowered, b, hl⟩ := lowerAfter_concat [] front c
  have block : lowerBlock b c [] = ['h'] := by
    rcases eq_of_upperChar last with rfl | rfl
    · have hh : lowerChar 'h' = ['h'] := by decide +kernel
      rw [lowerBlock, if_neg (by decide), hh]
    · have hh : lowerChar 'H' = ['h'] := by decide +kernel
      rw [lowerBlock, if_neg (by decide), hh]
  rw [hc, hl, block, List.getLast?_concat]

end LayeredConfig.Text
