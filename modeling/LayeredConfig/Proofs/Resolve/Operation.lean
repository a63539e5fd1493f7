import LayeredConfig.Proofs.Resolve.Agree

/-! The operations on a view, each with the resolver it uses as a parameter. Resolvers that agree on
the declared settings cannot be told apart by any of them. -/
namespace LayeredConfig

/-- What can be asked of a view. -/
inductive Operation where
  | get (name : String)
  | fetchOrElse (name : String) (f : String → Value)
  | fetchOr (name : String) (default : Value)
  | values
  | toMap
  | toTable
  | extract (want : Shape)
  | groupGet (group accessor : String)
  | groupFetchOrElse (group accessor : String) (f : String → Value)
  | groupFetchOr (group accessor : String) (default : Value)
  | groupValues (group : String)
  | groupMap (group : String)

inductive Answer where
  | value (x : Value)
  | values (l : List Value)
  | map (m : KeyMap Value)
  | table (l : List (String × Document))
  | document (d : Document)

/-- A session without files in which nothing has happened, and whose random bytes are zero. -/
def Session.fresh : Session := { files := .empty, random := ⟨fun _ => 0, 0⟩ }

namespace Operation
open Resolving View

def run (v : View) : Operation → Resolving Answer
  | .get n => return .value (← v.get n)
  | .fetchOrElse n f => return .value (← v.fetchOrElse n f)
  | .fetchOr n d => return .value (← v.fetchOr n d)
  | .values => return .values (← v.values)
  | .toMap => return .map (← v.toMap)
  | .toTable => return .table (← v.toTable)
  | .extract want => return .document (← v.extract want)
  | .groupGet g a => return .value (← v.groupGet g a)
  | .groupFetchOrElse g a f => return .value (← v.groupFetchOrElse g a f)
  | .groupFetchOr g a d => return .value (← v.groupFetchOr g a d)
  | .groupValues g => return .values (← v.groupValues g)
  | .groupMap g => return .map (← v.groupMap g)

/-- Answers an operation when `inner` resolves the settings. -/
def runBy (v : View) (inner : Setting → Resolving Value) : Operation → Resolving Answer
  | .get n => return .value (← v.getBy inner n)
  | .fetchOrElse n f => return .value (← v.fetchBy inner n f)
  | .fetchOr n d => return .value (← v.fetchBy inner n fun _ => d)
  | .values => return .values (← v.schema.list.mapM inner)
  | .toMap => return .map (← mapBy inner Setting.name v.schema.list)
  | .toTable => return .table (← v.tableBy inner)
  | .extract want => return .document (← v.extractBy inner want)
  | .groupGet g a => return .value (← v.getBy inner (memberName g a))
  | .groupFetchOrElse g a f => return .value (← v.fetchBy inner (memberName g a) f)
  | .groupFetchOr g a d => return .value (← v.fetchBy inner (memberName g a) fun _ => d)
  | .groupValues g => return .values (← (v.schema.members g).mapM inner)
  | .groupMap g => return .map (← mapBy inner (·.accessor) (v.schema.members g))

theorem runBy_resolve (v : View) (op : Operation) : op.runBy v v.resolve = op.run v := by
  cases op <;> rfl

end Operation

namespace Schema

theorem mem_list_of_find? {c : Schema} {n : String} {s : Setting} (h : c.find? n = some s) :
    s ∈ c.list := by
  have hm : (n, s) ∈ c.settings.entries := Table.get?_eq_some_iff.mp h
  exact List.mem_map.mpr ⟨(n, s), hm, rfl⟩

theorem name_of_find? {c : Schema} {n : String} {s : Setting} (h : c.find? n = some s) :
    s.name = n :=
  (c.named _ (Table.get?_eq_some_iff.mp h)).symm

theorem find?_of_mem_list {c : Schema} {s : Setting} (h : s ∈ c.list) :
    c.find? s.name = some s := by
  obtain ⟨⟨n, s'⟩, he, rfl⟩ := List.mem_map.mp h
  have named : n = s'.name := c.named _ he
  exact Table.get?_eq_some_iff.mpr (named ▸ he)

theorem mem_names {c : Schema} {s : Setting} (h : s ∈ c.list) : s.name ∈ c.names :=
  List.mem_map.mpr ⟨s, h, rfl⟩

/-- The names are the keys under which the settings are held. -/
theorem names_eq_keys (c : Schema) : c.names = c.settings.keys := by
  rw [names, list, Table.values, Table.keys, List.map_map]
  apply List.map_congr_left
  intro e he
  exact (c.named e he).symm

theorem length_names (c : Schema) : c.names.length = c.settings.size := by
  rw [names_eq_keys, Table.keys, List.length_map]
  rfl

theorem mem_list_of_mem_members {c : Schema} {g : String} {s : Setting} (h : s ∈ c.members g) :
    s ∈ c.list :=
  (List.mem_filter.mp h).1

end Schema

namespace View
open Resolving

variable {v : View} {R R' : Setting → Resolving Value} {P : Session → Prop} {E : Failure → Prop}

/-- What a part asks for is declared. -/
theorem mem_list_of_asked {c : Schema} {p : Part} {s : Setting} (h : s ∈ p.asked c) :
    s ∈ c.list := by
  cases p with
  | reference n rescue => exact Schema.mem_list_of_find? (Option.mem_toList.mp h)
  | fetch n d => exact Schema.mem_list_of_find? (Option.mem_toList.mp h)
  | everything => exact h
  | literal t => exact absurd h List.not_mem_nil
  | names => exact absurd h List.not_mem_nil
  | fail f => exact absurd h List.not_mem_nil

/-- The step on a setting depends on how the declared settings are resolved, and no others. -/
theorem resolveStep_eq_of_declared (h : ∀ s ∈ v.schema.list, R s = R' s) (s : Setting) :
    v.resolveStep R s = v.resolveStep R' s := by
  rw [← agree_iff_eq]
  refine agree_resolveStep (fun _ _ => trivial) (fun _ _ _ _ => trivial) fun _ => ?_
  exact agree_evalFallback (fun _ _ => trivial) (fun _ _ => trivial) (fun _ _ => trivial)
    fun _ _ s' hs' => agree_iff_eq.mpr (h s' (mem_list_of_asked hs'))

private theorem agree_tableBy (hE : ∀ f : Failure, f.plain → E f)
    (h : ∀ s ∈ v.schema.list, Agree P E (R s) (R' s)) :
    Agree P E (v.tableBy R) (v.tableBy R') := by
  unfold tableBy
  split
  · exact agree_throw (hE _ rfl)
  · refine Agree.foldlM (fun top s hs => (h s hs).bind fun x => ?_) []
    split
    · exact agree_pure top
    · exact agree_lift fun f hf => hE f (place_plain hf)

private theorem agree_extractBy (want : Shape) (hE : ∀ f : Failure, f.plain → E f)
    (h : ∀ s ∈ v.schema.list, Agree P E (R s) (R' s)) :
    Agree P E (v.extractBy R want) (v.extractBy R' want) := by
  refine (agree_tableBy hE h).bind fun top => ?_
  split
  · exact agree_pure _
  · exact agree_throw (hE _ rfl)

end View

namespace Operation
open Resolving View

variable {v : View} {R R' : Setting → Resolving Value} {P : Session → Prop} {E : Failure → Prop}

/-- An operation does the same with resolvers that agree on all settings. -/
theorem agree_runBy (op : Operation) (hE : ∀ f : Failure, f.plain → E f)
    (h : ∀ s ∈ v.schema.list, Agree P E (R s) (R' s)) :
    Agree P E (op.runBy v R) (op.runBy v R') := by
  have own : ∀ f : Failure, f.ofSetting → E f := fun f hf => hE f (Failure.plain_of_ofSetting hf)
  have found : ∀ n s, v.schema.find? n = some s → Agree P E (R s) (R' s) :=
    fun n s hs => h s (Schema.mem_list_of_find? hs)
  have member : ∀ g, ∀ s ∈ v.schema.members g, Agree P E (R s) (R' s) :=
    fun g s hs => h s (Schema.mem_list_of_mem_members hs)
  have value : ∀ x y : Resolving Value, Agree P E x y →
      Agree P E (return Answer.value (← x)) (return Answer.value (← y)) :=
    fun x y hxy => hxy.bind fun a => agree_pure (Answer.value a)
  cases op with
  | get n => exact value _ _ (agree_getBy own (found n))
  | fetchOrElse n f => exact value _ _ (agree_fetchBy (found n))
  | fetchOr n d => exact value _ _ (agree_fetchBy (found n))
  | groupGet g a => exact value _ _ (agree_getBy own (found _))
  | groupFetchOrElse g a f => exact value _ _ (agree_fetchBy (found _))
  | groupFetchOr g a d => exact value _ _ (agree_fetchBy (found _))
  | values => exact (Agree.mapM h).bind fun l => agree_pure (Answer.values l)
  | groupValues g => exact (Agree.mapM (member g)).bind fun l => agree_pure (Answer.values l)
  | toMap => exact (agree_mapBy h).bind fun m => agree_pure (Answer.map m)
  | groupMap g => exact (agree_mapBy (member g)).bind fun m => agree_pure (Answer.map m)
  | toTable => exact (agree_tableBy hE h).bind fun t => agree_pure (Answer.table t)
  | extract want => exact (agree_extractBy want hE h).bind fun d => agree_pure (Answer.document d)

theorem runBy_eq_of_declared (op : Operation) (h : ∀ s ∈ v.schema.list, R s = R' s) :
    op.runBy v R = op.runBy v R' :=
  agree_iff_eq.mp (agree_runBy op (fun _ _ => trivial) fun s hs => agree_iff_eq.mpr (h s hs))

end Operation

end LayeredConfig
