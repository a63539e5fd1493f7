import LayeredConfig.Proofs.Placeholder

/-! Requests for placeholders, one after the other and all with one root. From the first answer on
the folder of the records is there and the tree only grows, so that no record is lost or changed. -/
namespace LayeredConfig.Placeholder
open FileTree

/-- A request for the placeholder of a key. -/
structure Request where
  key : String
  scheme : Option String := none

/-- What a request finds and leaves. -/
structure Store where
  files : FileTree
  random : Random

namespace Request

def answer (root : String) (q : Request) (s : Store) : Except Failure String :=
  (fetch root q.key q.scheme s.files s.random).1

def leave (root : String) (q : Request) (s : Store) : Store :=
  ⟨(fetch root q.key q.scheme s.files s.random).2.1,
    (fetch root q.key q.scheme s.files s.random).2.2⟩

end Request

namespace Store

def after (root : String) (s : Store) (l : List Request) : Store :=
  l.foldl (fun s q => q.leave root s) s

variable {root value : String} {s : Store} {q : Request}

/-- An answer is the text of the record that is left, without its outer blanks; a text that was not
on record before is left as it is. -/
theorem read_of_answer (h : q.answer root s = .ok value) :
    ∃ content, (q.leave root s).files.read (recordPath root q.key) = .ok content ∧
      String.ofList (Text.trim content.toList) = value ∧
      (s.files.Lacks (recordPath root q.key) → content = value) := by
  rw [Request.answer] at h
  rw [Request.leave]
  dsimp only
  by_cases lacks : s.files.Lacks (recordPath root q.key)
  · rw [fetch_of_lacks lacks] at h ⊢
    obtain ⟨written, trimmed⟩ := read_of_create h
    exact ⟨value, written, by rw [trimmed, String.ofList_toList], fun _ => rfl⟩
  · cases hr : s.files.read (recordPath root q.key) with
    | error e =>
      have failed : (fetch root q.key q.scheme s.files s.random).1.toOption = none :=
        (fetch_of_shut (shut_of_fault hr lacks)).1
      rw [h] at failed
      cases failed
    | ok content =>
      rw [fetch_of_read hr] at h ⊢
      exact ⟨content, hr, Except.ok.inj h, fun there => absurd there lacks⟩

/-- Once a record was read, requests only add to the tree. -/
theorem grows_after {base place : List String}
    (leads : ∀ key, ".." ∉ names key → ∃ front last, LeadsTo (recordPath root key) base front last)
    (opened : s.files.Opens base place) {l : List Request} (down : ∀ q ∈ l, ".." ∉ names q.key) :
    s.files.Grows (s.after root l).files := by
  induction l generalizing s with
  | nil => exact .refl s.files
  | cons q l ih =>
    obtain ⟨front, last, p⟩ := leads q.key (down q List.mem_cons_self)
    have step : s.files.Grows (q.leave root s).files := (fetch_below p opened).1
    exact step.trans (ih (opened.grows step) fun p hp => down p (List.mem_cons_of_mem q hp))

/-- Once a request was answered, all later ones for keys that differ from its key by case alone get
the same answer, with whatever scheme. Where no record was found, one was left that holds the answer
and nothing else. -/
theorem answer_stable (root : String) (s : Store) (before between : List Request) (q : Request)
    (down : ∀ p ∈ q :: between, ".." ∉ names p.key) {value : String}
    (answered : q.answer root (s.after root before) = .ok value) :
    (∀ p : Request, Text.lower p.key = Text.lower q.key →
      p.answer root (s.after root (before ++ q :: between)) = .ok value) ∧
    ((s.after root before).files.Lacks (recordPath root q.key) →
      (s.after root (before ++ q :: between)).files.read (recordPath root q.key) = .ok value ∧
      String.ofList (Text.trim value.toList) = value) := by
  obtain ⟨base, -, leads⟩ := record_leadsTo root
  obtain ⟨front, last, p⟩ := leads q.key (down q List.mem_cons_self)
  obtain ⟨content, left, trimmed, fresh⟩ := read_of_answer answered
  obtain ⟨_, way⟩ := p.opens_of_read left
  obtain ⟨place, opened⟩ := way.before
  have split : s.after root (before ++ q :: between) =
      (q.leave root (s.after root before)).after root between := by
    rw [after, List.foldl_append]
    rfl
  have grown := grows_after leads opened fun p hp => down p (List.mem_cons_of_mem q hp)
  have kept := read_of_grows grown left
  rw [split]
  refine ⟨fun p hp => ?_, fun lacks => ?_⟩
  · have path : recordPath root p.key = recordPath root q.key := by
      rw [recordPath, recordPath, hp]
    rw [Request.answer, fetch_of_read (path ▸ kept), trimmed]
  · obtain rfl := fresh lacks
    exact ⟨kept, trimmed⟩

def blankStore : Store := ⟨.empty, ⟨fun _ => 0, 0⟩⟩

/-- Between the two requests, the record of another key would lie inside the first record. -/
theorem answer_stable_inside :
    (⟨"Site_Url", none⟩ : Request).answer "old/../new" (blankStore.after "old/../new" []) =
      .ok "https://dummy-00000000.example.com" ∧
    (⟨"SITE_URL", some "redis"⟩ : Request).answer "old/../new"
      (blankStore.after "old/../new" [⟨"Site_Url", none⟩, ⟨"Site_Url.txt/A", none⟩]) =
      .ok "https://dummy-00000000.example.com" := by
  have answered : (⟨"Site_Url", none⟩ : Request).answer "old/../new"
      (blankStore.after "old/../new" []) = .ok "https://dummy-00000000.example.com" := by
    decide +kernel
  have stable := answer_stable "old/../new" blankStore [] [⟨"Site_Url.txt/A", none⟩]
    ⟨"Site_Url", none⟩ (by decide +kernel) answered
  exact ⟨answered, stable.1 ⟨"SITE_URL", some "redis"⟩ (by decide +kernel)⟩

end Store

end LayeredConfig.Placeholder
