import LayeredConfig.Proofs.EnvFile.Keys
import Mathlib.Data.List.Basic
import Mathlib.Data.List.Induction

/-! Keys that are assigned again. What a scan has found is told by all assignments it has met, in
their order: those whose key was assigned before in the same file, each with the first of its
key. -/
namespace LayeredConfig.EnvFile

/-- A line of a file that assigns a key. -/
structure Occurrence where
  path : String
  number : Nat
  content : List Char
  key : String

namespace Occurrence

/-- What must be alike for a key to be assigned again. -/
def place (o : Occurrence) : PathId × String := (PathId.ofText o.path, o.key)

/-- The duplicate that an assignment is after earlier ones, told with the first of its key. -/
def repeated? (earlier : List Occurrence) (o : Occurrence) : Option Duplicate :=
  (earlier.find? (·.place = o.place)).map fun first =>
    ⟨o.path, o.key, first.number, o.number, String.ofList o.content⟩

end Occurrence

/-- The lines from which a key and a value are read, numbered from 1. -/
def occurrences (path text : String) : List Occurrence :=
  ((Text.lines text.toList).zipIdx 1).filterMap fun (line, n) =>
    entry? line |>.map fun e => ⟨path, n, line, e.1⟩

/-- The assignments of keys that were assigned before, in their order. -/
def repeats (l : List Occurrence) : List Duplicate :=
  l.zipIdx.filterMap fun (o, i) => o.repeated? (l.take i)

variable {l : List Occurrence} {s : DuplicateScan}

private theorem repeats_concat (l : List Occurrence) (o : Occurrence) :
    repeats (l ++ [o]) = repeats l ++ (o.repeated? l).toList := by
  have before : l.zipIdx.filterMap (fun (p, i) => p.repeated? ((l ++ [o]).take i)) = repeats l := by
    refine List.filterMap_congr ?_
    rintro ⟨p, i⟩ hi
    have bound : i < l.length := by simpa using List.snd_lt_of_mem_zipIdx hi
    dsimp only
    rw [List.take_append_of_le_length (by omega)]
  rw [repeats, List.zipIdx_append, List.filterMap_append, before]
  cases h : o.repeated? l <;> simp [h]

/-- The scan has met the assignments `l`: it knows the first one of each key in each file. -/
structure DuplicateScan.Tracks (s : DuplicateScan) (l : List Occurrence) : Prop where
  firsts : ∀ k, s.firsts.lookup k = (l.find? (·.place = k)).map (·.number)
  found : s.found = repeats l

namespace DuplicateScan.Tracks

theorem start : DuplicateScan.start.Tracks [] := ⟨fun _ => rfl, rfl⟩

/-- What one assignment keeps. -/
theorem see (h : s.Tracks l) (o : Occurrence) :
    (s.see o.path (o.number, o.content, o.key)).Tracks (l ++ [o]) := by
  have known : s.firsts.lookup (PathId.ofText o.path, o.key) =
      (l.find? (·.place = o.place)).map (·.number) := h.firsts o.place
  rw [DuplicateScan.see, known]
  cases first : l.find? (·.place = o.place) with
  | some e =>
    refine ⟨fun k => ?_, ?_⟩
    · rw [Option.map_some]
      dsimp only
      rw [h.firsts, List.find?_append]
      by_cases hk : o.place = k
      · rw [← hk, first, Option.some_or]
      · simp [hk]
    · rw [repeats_concat, Occurrence.repeated?, first, ← h.found]
      rfl
  | none =>
    refine ⟨fun k => ?_, ?_⟩
    · rw [Option.map_none]
      dsimp only
      rw [List.lookup_append, h.firsts, List.find?_append]
      by_cases hk : o.place = k
      · rw [← hk, first]
        simp [Occurrence.place]
      · have other : (k == (PathId.ofText o.path, o.key)) = false :=
          beq_eq_false_iff_ne.mpr (Ne.symm hk)
        simp [hk, List.lookup_cons, other]
    · rw [repeats_concat, Occurrence.repeated?, first, ← h.found]
      simp

/-- What many assignments keep. -/
theorem foldl_see (h : s.Tracks l) (r : List Occurrence) :
    (r.foldl (fun s o => s.see o.path (o.number, o.content, o.key)) s).Tracks (l ++ r) := by
  induction r generalizing s l with
  | nil => simpa using h
  | cons o r ih => simpa using ih (h.see o)

end DuplicateScan.Tracks

/-- The scanner numbers the same lines that are read. -/
theorem occurrences_eq_map (path text : String) :
    occurrences path text = (numberedAssignments text).map fun e => ⟨path, e.1, e.2.1, e.2.2⟩ := by
  rw [occurrences, numberedAssignments, List.map_filterMap]
  congr 1
  funext ⟨line, n⟩
  unfold entry?
  dsimp only
  rw [Option.map_map, Option.map_map]
  rfl

theorem DuplicateScan.Tracks.feed (h : s.Tracks l) (path text : String) :
    (s.feed path text).Tracks (l ++ occurrences path text) := by
  have same : s.feed path text = (occurrences path text).foldl
      (fun s o => s.see o.path (o.number, o.content, o.key)) s := by
    rw [occurrences_eq_map, List.foldl_map, DuplicateScan.feed]
  rw [same]
  exact h.foldl_see _

def scanned (feeds : List (String × String)) : DuplicateScan :=
  feeds.foldl (fun s f => s.feed f.1 f.2) .start

private theorem tracks_scanned (feeds : List (String × String)) :
    (scanned feeds).Tracks (feeds.flatMap fun f => occurrences f.1 f.2) := by
  have added (s : DuplicateScan) (l : List Occurrence) (h : s.Tracks l) :
      (feeds.foldl (fun s f => s.feed f.1 f.2) s).Tracks
        (l ++ feeds.flatMap fun f => occurrences f.1 f.2) := by
    induction feeds generalizing s l with
    | nil => simpa using h
    | cons f r ih => simpa using ih _ _ (h.feed f.1 f.2)
  exact added .start [] .start

/-! One file among others. -/

variable {file : PathId}

/-- What is found in one file are the repeats among its own assignments. -/
theorem filter_repeats (file : PathId) (l : List Occurrence) :
    (repeats l).filter (fun d => PathId.ofText d.path = file) =
      repeats (l.filter fun o => PathId.ofText o.path = file) := by
  induction l using List.reverseRecOn with
  | nil => rfl
  | append_singleton l o ih =>
    rw [repeats_concat, List.filter_append, ih, List.filter_append]
    by_cases ho : PathId.ofText o.path = file
    · have same : o.repeated? (l.filter fun e => PathId.ofText e.path = file) = o.repeated? l := by
        rw [Occurrence.repeated?, Occurrence.repeated?, List.find?_filter]
        congr 2
        funext e
        by_cases he : e.place = o.place
        · have own : PathId.ofText e.path = file := (congrArg Prod.fst he).trans ho
          simp [he, own]
        · simp [he]
      have kept : [o].filter (fun o => PathId.ofText o.path = file) = [o] := by simp [ho]
      rw [kept, repeats_concat, same]
      congr 1
      cases h : o.repeated? l with
      | none => rfl
      | some d =>
        obtain ⟨e, -, rfl⟩ := Option.map_eq_some_iff.mp h
        simp [ho]
    · have dropped : [o].filter (fun o => PathId.ofText o.path = file) = [] := by simp [ho]
      rw [dropped, List.append_nil]
      cases h : o.repeated? l with
      | none => simp
      | some d =>
        obtain ⟨e, -, rfl⟩ := Option.map_eq_some_iff.mp h
        simp [ho]

/-- In one file, each assignment is the first of its key or a repeat. -/
theorem length_repeats (own : ∀ o ∈ l, PathId.ofText o.path = file) :
    (repeats l).length + (l.map (·.key)).eraseDups.length = l.length := by
  induction l using List.reverseRecOn with
  | nil => rfl
  | append_singleton l o ih =>
    have ho : PathId.ofText o.path = file := own o (by simp)
    have rest := ih fun e he => own e (by simp [he])
    have alike (e : Occurrence) (he : e ∈ l) : e.place = o.place ↔ e.key = o.key := by
      rw [Occurrence.place, Occurrence.place, own e (by simp [he]), ho, Prod.mk.injEq]
      exact and_iff_right rfl
    have keys : ((l ++ [o]).map (·.key)).eraseDups.length =
        (l.map (·.key)).eraseDups.length + if o.key ∈ l.map (·.key) then 0 else 1 := by
      rw [List.map_append, List.map_cons, List.map_nil, Table.eraseDups_concat]
      split
      · rfl
      · exact List.length_append
    rw [repeats_concat, keys, Occurrence.repeated?]
    by_cases known : o.key ∈ l.map (·.key)
    · obtain ⟨e, he, hk⟩ := List.mem_map.mp known
      have found : (l.find? (·.place = o.place)).isSome = true :=
        List.find?_isSome.mpr ⟨e, he, by simpa using (alike e he).mpr hk⟩
      obtain ⟨first, hf⟩ := Option.isSome_iff_exists.mp found
      rw [hf, if_pos known]
      simp only [Option.map_some, Option.toList_some, List.length_append, List.length_singleton]
      omega
    · have missing : l.find? (·.place = o.place) = none := by
        refine List.find?_eq_none.mpr fun e he => ?_
        have other : e.key ≠ o.key := fun hk => known (List.mem_map.mpr ⟨e, he, hk⟩)
        simpa using fun hp => other ((alike e he).mp hp)
      rw [missing, if_neg known]
      simp only [Option.map_none, Option.toList_none, List.append_nil, List.length_append,
        List.length_singleton]
      omega

/-- A repeat comes after what it repeats. -/
theorem lt_of_mem_repeats (ordered : l.Pairwise (·.number < ·.number)) {d : Duplicate}
    (h : d ∈ repeats l) : d.firstLine < d.line := by
  induction l using List.reverseRecOn with
  | nil => cases h
  | append_singleton l o ih =>
    obtain ⟨before, -, last⟩ := List.pairwise_append.mp ordered
    rw [repeats_concat] at h
    rcases List.mem_append.mp h with h | h
    · exact ih before h
    · obtain ⟨e, he, rfl⟩ := Option.map_eq_some_iff.mp (Option.mem_toList.mp h)
      exact last e (List.mem_of_find?_eq_some he) o List.mem_cons_self

private theorem path_of_mem_occurrences {path text : String} {o : Occurrence}
    (h : o ∈ occurrences path text) : o.path = path := by
  obtain ⟨⟨line, n⟩, -, he⟩ := List.mem_filterMap.mp h
  obtain ⟨e, -, rfl⟩ := Option.map_eq_some_iff.mp he
  rfl

/-- The assignments of a file that is fed once, among those of all feeds. -/
theorem filter_flatMap_occurrences {before after : List (String × String)} {path : String}
    (text : String) (other : ∀ f ∈ before ++ after, PathId.ofText f.1 ≠ PathId.ofText path) :
    ((before ++ (path, text) :: after).flatMap fun f => occurrences f.1 f.2).filter
        (fun o => PathId.ofText o.path = PathId.ofText path) = occurrences path text := by
  have none (feeds : List (String × String)) (h : ∀ f ∈ feeds, f ∈ before ++ after) :
      (feeds.flatMap fun f => occurrences f.1 f.2).filter
        (fun o => PathId.ofText o.path = PathId.ofText path) = [] := by
    refine List.filter_eq_nil_iff.mpr fun o ho => ?_
    obtain ⟨f, hf, ho⟩ := List.mem_flatMap.mp ho
    rw [path_of_mem_occurrences ho]
    simpa using other f (h f hf)
  have all : (occurrences path text).filter
      (fun o => PathId.ofText o.path = PathId.ofText path) = occurrences path text := by
    refine List.filter_eq_self.mpr fun o ho => ?_
    rw [path_of_mem_occurrences ho]
    exact decide_eq_true rfl
  rw [List.flatMap_append, List.flatMap_cons, List.filter_append, List.filter_append,
    none before fun f hf => List.mem_append_left after hf, all,
    none after fun f hf => List.mem_append_right before hf, List.append_nil, List.nil_append]

private theorem ordered_occurrences (path text : String) :
    (occurrences path text).Pairwise (·.number < ·.number) := by
  have numbers : ((Text.lines text.toList).zipIdx 1).Pairwise (·.2 < ·.2) := by
    rw [← List.pairwise_map, List.zipIdx_map_snd]
    exact List.pairwise_lt_range'
  refine numbers.filterMap _ ?_
  rintro ⟨line, n⟩ ⟨line', n'⟩ hn o ho o' ho'
  obtain ⟨e, -, rfl⟩ := Option.map_eq_some_iff.mp ho
  obtain ⟨e', -, rfl⟩ := Option.map_eq_some_iff.mp ho'
  exact hn

private theorem length_occurrences (path text : String) :
    (occurrences path text).length =
      (Text.lines text.toList).countP fun line => entry? line |>.isSome := by
  rw [occurrences, List.length_filterMap_eq_countP]
  conv_rhs => rw [← List.zipIdx_map_fst 1 (Text.lines text.toList), List.countP_map]
  congr 1
  funext ⟨line, n⟩
  exact Option.isSome_map

private theorem size_parse (path text : String) :
    (parse text).size = ((occurrences path text).map (·.key)).eraseDups.length := by
  have keys : (occurrences path text).map (·.key) =
      ((Text.lines text.toList).filterMap entry?).map (·.1) := by
    conv_rhs => rw [← List.zipIdx_map_fst 1 (Text.lines text.toList)]
    rw [occurrences, List.filterMap_map, List.map_filterMap, List.map_filterMap]
    congr 1
    funext ⟨line, n⟩
    exact Option.map_map _ _ _
  rw [keys, ← keys_parse, Table.keys, List.length_map]
  rfl

/-- A scan finds the assignments whose key was assigned before in the same file, in their order,
each with the first line that assigned the key, and nothing else. For a file that is fed once, what
is found in it and what is read from it make up all its assignments, and each one that is found
comes after the first. -/
theorem found_scanned (feeds : List (String × String)) :
    (scanned feeds).found = repeats (feeds.flatMap fun f => occurrences f.1 f.2) ∧
    ∀ before path text after, feeds = before ++ (path, text) :: after →
      (∀ f ∈ before ++ after, PathId.ofText f.1 ≠ PathId.ofText path) →
        let own := (scanned feeds).found.filter fun d => PathId.ofText d.path = PathId.ofText path
        own.length + (parse text).size =
          (Text.lines text.toList).countP (fun line => entry? line |>.isSome) ∧
        ∀ d ∈ own, d.firstLine < d.line := by
  have found := (tracks_scanned feeds).found
  refine ⟨found, ?_⟩
  rintro before path text after rfl other
  dsimp only
  rw [found, filter_repeats, filter_flatMap_occurrences text other]
  have alone : ∀ o ∈ occurrences path text, PathId.ofText o.path = PathId.ofText path :=
    fun o ho => congrArg PathId.ofText (path_of_mem_occurrences ho)
  refine ⟨?_, fun d hd => lt_of_mem_repeats (ordered_occurrences path text) hd⟩
  rw [size_parse path, length_repeats alone, length_occurrences]

/-- Two spellings of one path name the same file. -/
example : (scanned [("a//b", "K=1\r\n# K\nexport K=2"), ("a/./b", "K=3")]).found =
    [⟨"a//b", "K", 1, 3, "export K=2"⟩, ⟨"a/./b", "K", 1, 1, "K=3"⟩] := by decide +kernel

end LayeredConfig.EnvFile
