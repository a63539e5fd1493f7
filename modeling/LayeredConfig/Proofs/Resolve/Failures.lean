import LayeredConfig.Coercion
import LayeredConfig.Layers
import LayeredConfig.Placeholder
import LayeredConfig.Readout

/-! What can go wrong with a setting by itself. Circular references are found by resolution alone,
and places that are taken are found by reading out alone. -/
namespace LayeredConfig

namespace Failure

/-- A failure that is not about a circular reference. -/
def plain : Failure → Bool
  | .circular _ => false
  | _ => true

/-- A failure that the resolving of a setting can come to without the help of other settings. -/
def ofSetting : Failure → Bool
  | .missing .. | .unknownName _ | .unreadable .. | .unwritable .. => true
  | .bad _ (.accessorIsGroup _) | .bad _ (.groupIsValue _) => false
  | .bad .. => true
  | .duplicates _ | .unknownKind _ | .circular _ | .misfit _ => false

theorem plain_of_ofSetting {f : Failure} (h : f.ofSetting) : f.plain := by
  cases f with
  | circular n => cases h
  | _ => rfl

end Failure

private theorem Reference.expand_ofSetting {look : String → Option String} {t : Reference.Token}
    {f : Failure} (h : Reference.expand look t = .error f) : f.ofSetting := by
  unfold Reference.expand at h
  repeat' split at h
  all_goals cases h
  all_goals rfl

private theorem mapM_ofSetting {α β : Type} {g : α → Except Failure β}
    (hg : ∀ a f, g a = .error f → f.ofSetting) {l : List α} {f : Failure} (h : l.mapM g = .error f) :
    f.ofSetting := by
  induction l with
  | nil => cases h
  | cons a r ih =>
    rw [List.mapM_cons] at h
    cases ha : g a with
    | error e => rw [ha] at h; cases h; exact hg a _ ha
    | ok b =>
      rw [ha] at h
      cases hr : r.mapM g with
      | error e => rw [hr] at h; cases h; exact ih hr
      | ok bs => rw [hr] at h; cases h

private theorem foldlM_ofSetting {α β : Type} {g : β → α → Except Failure β}
    (hg : ∀ b a f, g b a = .error f → f.ofSetting) {l : List α} {b : β} {f : Failure}
    (h : l.foldlM g b = .error f) : f.ofSetting := by
  induction l generalizing b with
  | nil => cases h
  | cons a r ih =>
    rw [List.foldlM_cons] at h
    cases ha : g b a with
    | error e => rw [ha] at h; cases h; exact hg b a _ ha
    | ok c => rw [ha] at h; exact ih h

namespace Layers

theorem interpolate_ofSetting {l : Layers} {raw : String} {f : Failure}
    (h : l.interpolate raw = .error f) : f.ofSetting := by
  cases hm : (Reference.tokens raw.toList).mapM (Reference.expand l.lookup) with
  | ok ts =>
    simp [interpolate, Reference.interpolate, hm, bind, Except.bind, pure, Except.pure] at h
  | error e =>
    obtain rfl : e = f := by
      simpa [interpolate, Reference.interpolate, hm, bind, Except.bind] using h
    exact mapM_ofSetting (fun _ _ => Reference.expand_ofSetting) hm

theorem gather_ofSetting {l : Layers} {pattern : String} {f : Failure}
    (h : l.gather pattern = .error f) : f.ofSetting := by
  refine foldlM_ofSetting (fun fields name f hf => ?_) h
  simp only [gatherOne] at hf
  split at hf
  · cases hf
  · cases hi : l.interpolate ((l.lookup name).getD "") with
    | ok t => simp [hi, bind, Except.bind, pure, Except.pure] at hf
    | error e =>
      obtain rfl : e = f := by simpa [hi, bind, Except.bind] using hf
      exact interpolate_ofSetting hi

end Layers

theorem Coercion.coerce_ofSetting {s : Setting} {raw : String} {f : Failure}
    (h : Coercion.coerce s raw = .error f) : f.ofSetting := by
  unfold Coercion.coerce Coercion.text Coercion.integer Coercion.boolean Coercion.url
    Coercion.addresses at h
  repeat' split at h
  all_goals cases h
  all_goals rfl

private theorem Placeholder.create_ofSetting {root key : String} {scheme : Option String}
    {t : FileTree}
    {r : Random} {f : Failure} (h : (create root key scheme t r).1 = .error f) : f.ofSetting := by
  unfold create at h
  generalize r.draw _ = d at h
  obtain ⟨bytes, r'⟩ := d
  dsimp only at h
  generalize t.writeDeep (recordPath root key) _ = w at h
  rcases w with ⟨_ | e, u⟩
  · cases h
  · cases h
    rfl

theorem Placeholder.fetch_ofSetting {root key : String} {scheme : Option String} {t : FileTree}
    {r : Random} {f : Failure} (h : (fetch root key scheme t r).1 = .error f) : f.ofSetting := by
  unfold fetch at h
  split at h
  · cases h
  · exact create_ofSetting h
  · exact create_ofSetting h
  · cases h
    rfl

theorem View.place_plain {s : Setting} {d : Document} {top : List (String × Document)} {f : Failure}
    (h : place s d top = .error f) : f.plain := by
  unfold place at h
  split at h
  · cases h
  · split at h
    · cases h
    · cases h
      rfl

end LayeredConfig
