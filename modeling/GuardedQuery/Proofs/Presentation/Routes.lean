import GuardedQuery.Proofs.Catalog
import GuardedQuery.Proofs.Presentation.Outlines

/-! Two ways to the same fields. An outline that spreads from a root records every model that some
route of permitted relations within the depth leads to, with all its permitted fields. A requested
path records the fields along one route. Both say the same of the field that the path ends at and,
if it is a relation, of the model that it leads to. -/

namespace GuardedQuery

namespace Outline
variable {o : Outline}

/-- An outline has a field of a model if it is recorded there. -/
theorem has_iff {model field : String} :
    o.has model field = true ↔ field ∈ (o.get? model).getD .empty := by
  rw [has]
  cases o.get? model <;> simp

theorem mem_extend {model name : String} {names : NameSet} (mem : name ∈ names) :
    name ∈ ((o.extend model names).get? model).getD .empty := by
  rw [extend, Dict.get?_insert_self]
  exact NameSet.mem_union.2 (.inr mem)

theorem mem_extend_of_mem {model other name : String} {names : NameSet}
    (mem : name ∈ (o.get? other).getD .empty) :
    name ∈ ((o.extend model names).get? other).getD .empty := by
  by_cases same : model = other
  · rw [extend, same, Dict.get?_insert_self]
    exact NameSet.mem_union.2 (.inl mem)
  · rw [extend, Dict.get?_insert_of_ne o same]
    exact mem

end Outline

namespace Access
variable {a : Access} {use : FieldUse} {o : Outline}

/-- A permitted relation leads from one model to the next. -/
def Relates (a : Access) (use : FieldUse) (model segment next : String) : Prop :=
  ∃ m, a.catalog.model? model = some m ∧ segment ∈ m.fields a.request use ∧
    m.target? segment = some next

/-- Permitted relations, named one after the other, lead from a root to the last model. -/
inductive Route (a : Access) (use : FieldUse) : String → List String → String → Prop
  | here (model : String) : Route a use model [] model
  | onward {model segment next last : String} {names : List String}
      (leads : a.Relates use model segment next) (route : Route a use next names last) :
      Route a use model (segment :: names) last

theorem Relates.mem_fieldsOf {model segment next : String}
    (leads : a.Relates use model segment next) : segment ∈ a.fieldsOf use model := by
  obtain ⟨m, found, permitted, -⟩ := leads
  rw [fieldsOf, found]
  exact permitted

theorem mem_nextModels_iff {model next : String} :
    next ∈ a.nextModels use model ↔ ∃ segment, a.Relates use model segment next := by
  rw [nextModels]
  cases found : a.catalog.model? model with
  | none => simp [Relates, found]
  | some m =>
    simp only [Relates, found, List.mem_map, List.mem_filter, NameSet.contains_iff,
      Option.some.injEq, exists_eq_left', ← Model.exists_edge_iff]
    constructor
    · rintro ⟨edge, ⟨mem, permitted⟩, leads⟩
      exact ⟨edge.field, permitted, edge, mem, rfl, leads⟩
    · rintro ⟨_, permitted, edge, mem, rfl, leads⟩
      exact ⟨edge, ⟨mem, permitted⟩, leads⟩

/-! The whole neighbourhood -/

/-- What recording a model leaves for it: all its permitted fields, if there are any. -/
def noted (a : Access) (use : FieldUse) (o : Outline) (model : String) : Option NameSet :=
  if (a.fieldsOf use model).isEmpty then o.get? model else some (a.fieldsOf use model)

theorem get?_record_self {model : String} :
    (a.record use o model).get? model = a.noted use o model := by
  rw [record, noted]
  split
  · rfl
  · exact Dict.get?_insert_self o model _

theorem get?_record_of_ne {model other : String} (differ : model ≠ other) :
    (a.record use o model).get? other = o.get? other := by
  rw [record]
  split
  · rfl
  · exact Dict.get?_insert_of_ne o differ _

theorem noted_congr {o' : Outline} {model : String} (same : o'.get? model = o.get? model) :
    a.noted use o' model = a.noted use o model := by
  rw [noted, noted, same]

theorem noted_noted {o' : Outline} {model : String} (once : o'.get? model = a.noted use o model) :
    a.noted use o' model = a.noted use o model := by
  rw [noted, once, noted]
  split <;> rfl

theorem get?_foldl_record_of_not_mem {models : List String} {model : String}
    (absent : model ∉ models) : (models.foldl (a.record use) o).get? model = o.get? model := by
  induction models generalizing o with
  | nil => rfl
  | cons first rest ih =>
    obtain ⟨differ, absent⟩ := not_or.1 (mt List.mem_cons.2 absent)
    rw [List.foldl_cons, ih absent, get?_record_of_ne (Ne.symm differ)]

theorem get?_foldl_record_of_mem {models : List String} {model : String} (mem : model ∈ models) :
    (models.foldl (a.record use) o).get? model = a.noted use o model := by
  induction models generalizing o with
  | nil => cases mem
  | cons first rest ih =>
    rw [List.foldl_cons]
    by_cases inRest : model ∈ rest
    · rw [ih inRest]
      by_cases same : first = model
      · exact same ▸ noted_noted get?_record_self
      · exact noted_congr (get?_record_of_ne same)
    · have same : model = first := (List.mem_cons.1 mem).resolve_right inRest
      rw [get?_foldl_record_of_not_mem inRest, same, get?_record_self]

/-- What routes lead to from some model of a level. -/
def Nearby (a : Access) (use : FieldUse) (level : NameSet) (depth : Nat) (model : String) : Prop :=
  ∃ start ∈ level, ∃ names, names.length ≤ depth ∧ a.Route use start names model

theorem nearby_zero_iff {level : NameSet} {model : String} :
    a.Nearby use level 0 model ↔ model ∈ level := by
  constructor
  · rintro ⟨start, mem, names, short, route⟩
    cases route with
    | here => exact mem
    | onward => simp at short
  · exact fun mem => ⟨model, mem, [], Nat.le_refl 0, .here model⟩

theorem nearby_succ_iff {level : NameSet} {depth : Nat} {model : String} :
    a.Nearby use level (depth + 1) model ↔
      model ∈ level ∨
        a.Nearby use (.ofList (level.toList.flatMap (a.nextModels use))) depth model := by
  constructor
  · rintro ⟨start, mem, names, short, route⟩
    cases route with
    | here => exact .inl mem
    | @onward _ _ next _ others leads route =>
      refine .inr ⟨next, ?_, others, by simpa using short, route⟩
      exact NameSet.mem_ofList.2 (List.mem_flatMap.2 ⟨start, mem, mem_nextModels_iff.2 ⟨_, leads⟩⟩)
  · rintro (mem | ⟨next, mem, names, short, route⟩)
    · exact ⟨model, mem, [], Nat.zero_le _, .here model⟩
    · obtain ⟨start, inLevel, follows⟩ := List.mem_flatMap.1 (NameSet.mem_ofList.1 mem)
      obtain ⟨segment, leads⟩ := mem_nextModels_iff.1 follows
      exact ⟨start, inLevel, segment :: names, Nat.succ_le_succ short, .onward leads route⟩

theorem nearby_empty {level : NameSet} {depth : Nat} {model : String} (empty : level.isEmpty) :
    ¬ a.Nearby use level depth model := by
  rintro ⟨start, mem, -⟩
  rw [NameSet.mem_def, List.isEmpty_iff.1 empty] at mem
  cases mem

theorem get?_spread_of_not_nearby {depth : Nat} {level : NameSet} {model : String}
    (far : ¬ a.Nearby use level depth model) :
    (a.spread use depth level o).get? model = o.get? model := by
  induction depth generalizing level o with
  | zero =>
    rw [spread, ite_self]
    exact get?_foldl_record_of_not_mem (mt nearby_zero_iff.2 far)
  | succ depth ih =>
    obtain ⟨absent, far⟩ := not_or.1 (mt nearby_succ_iff.2 far)
    rw [spread]
    split
    · exact get?_foldl_record_of_not_mem absent
    · rw [ih far, get?_foldl_record_of_not_mem absent]

/-- Spreading records every model nearby, whatever it is reached by. -/
theorem get?_spread_of_nearby {depth : Nat} {level : NameSet} {model : String}
    (near : a.Nearby use level depth model) :
    (a.spread use depth level o).get? model = a.noted use o model := by
  induction depth generalizing level o with
  | zero =>
    rw [spread, ite_self]
    exact get?_foldl_record_of_mem (nearby_zero_iff.1 near)
  | succ depth ih =>
    rw [spread]
    split
    · rename_i empty
      exact absurd near (nearby_empty empty)
    · by_cases later : a.Nearby use (.ofList (level.toList.flatMap (a.nextModels use))) depth model
      · rw [ih later]
        by_cases mem : model ∈ level
        · exact noted_noted (get?_foldl_record_of_mem mem)
        · exact noted_congr (get?_foldl_record_of_not_mem mem)
      · have mem := (nearby_succ_iff.1 near).resolve_right later
        rw [get?_spread_of_not_nearby later, get?_foldl_record_of_mem mem]

/-- The outline of a root without requested paths records the models that a route within the depth
leads to, each with all its permitted fields, and those without any not at all. -/
theorem outline_whole {root : String} {m : Model} (known : a.catalog.model? root = some m)
    (depth : Nat) :
    ∃ whole, a.outline root use depth [] = .ok whole ∧ ∀ model names,
      whole.get? model = some names ↔
        a.Nearby use (.ofList [root]) (min depth a.rules.maxDepth) model ∧
          names.isEmpty = false ∧ names = a.fieldsOf use model := by
  refine ⟨_, by rw [outline, Catalog.get_ok_iff.2 known]; rfl, fun model names => ?_⟩
  by_cases near : a.Nearby use (.ofList [root]) (min depth a.rules.maxDepth) model
  · rw [get?_spread_of_nearby near, noted]
    split <;> grind [Dict.get?_empty]
  · rw [get?_spread_of_not_nearby near]
    simp [near]

/-! One requested path -/

theorem isEmpty_eq_false_of_mem {names : NameSet} {name : String} (mem : name ∈ names) :
    names.isEmpty = false := by
  rw [NameSet.isEmpty, List.isEmpty_eq_false_iff_exists_mem]
  exact ⟨name, mem⟩

/-- Besides the root only models with permitted fields are recorded. -/
def Earned (a : Access) (use : FieldUse) (root : String) (o : Outline) : Prop :=
  ∀ model names, o.get? model = some names →
    model = root ∨ (a.fieldsOf use model).isEmpty = false

theorem earned_start (root : String) : a.Earned use root (Dict.empty.insert root .empty) := by
  intro model names recorded
  by_cases same : root = model
  · exact .inl same.symm
  · rw [Dict.get?_insert_of_ne .empty same] at recorded
    cases recorded

theorem Earned.extend {root : String} (h : a.Earned use root o) {model : String}
    (some : (a.fieldsOf use model).isEmpty = false) (names : NameSet) :
    a.Earned use root (o.extend model names) := by
  intro other found recorded
  by_cases same : model = other
  · exact .inr (same ▸ some)
  · rw [Outline.extend, Dict.get?_insert_of_ne o same] at recorded
    exact h other found recorded

/-- A permitted relation inside a path is recorded, and the walk goes on behind it. -/
theorem follow_onward {model segment next : String} {rest : List String} (more : rest ≠ [])
    (leads : a.Relates use model segment next) :
    a.follow use model (segment :: rest) o =
      a.follow use next rest (o.extend model (.ofList [segment])) := by
  obtain ⟨m, found, permitted, target⟩ := leads
  have allowed := NameSet.contains_iff.2 permitted
  obtain ⟨kind, known, leads⟩ := Option.bind_eq_some_iff.1 target
  obtain ⟨second, others, rfl⟩ := List.exists_cons_of_ne_nil more
  rw [follow, Catalog.get_ok_iff.2 found]
  simp only [bind, Except.bind, allowed, known, if_true, Bool.not_true, Bool.false_eq_true,
    if_false]
  cases kind with
  | toOne _ | toMany _ | reverse _ _ =>
    cases leads
    rfl
  | scalar | json => cases leads

/-- The walk gets along a route to its last model. -/
theorem follow_route {root first last : String} {names rest : List String} (more : rest ≠ [])
    (route : a.Route use first names last) (h : a.Earned use root o) :
    ∃ o', a.Earned use root o' ∧
      a.follow use first (names ++ rest) o = a.follow use last rest o' := by
  induction route generalizing o with
  | here => exact ⟨o, h, rfl⟩
  | @onward model segment next last names leads route ih =>
    obtain ⟨o', earned, same⟩ :=
      ih (h.extend (isEmpty_eq_false_of_mem leads.mem_fieldsOf) (.ofList [segment]))
    refine ⟨o', earned, ?_⟩
    rw [List.cons_append, follow_onward (List.append_ne_nil_of_right_ne_nil names more) leads, same]

theorem Earned.recordTarget {root : String} (h : a.Earned use root o) (target : String) :
    a.Earned use root (a.recordTarget use o target) := by
  rw [Access.recordTarget]
  split
  · exact h
  · rename_i some
    exact h.extend (by simpa using some) _

theorem mem_recordTarget {target name : String} (permitted : name ∈ a.fieldsOf use target) :
    name ∈ ((a.recordTarget use o target).get? target).getD .empty := by
  rw [recordTarget, if_neg (by simp [isEmpty_eq_false_of_mem permitted])]
  exact Outline.mem_extend permitted

theorem mem_recordTarget_of_mem {target other name : String}
    (mem : name ∈ (o.get? other).getD .empty) :
    name ∈ ((a.recordTarget use o target).get? other).getD .empty := by
  rw [recordTarget]
  split
  · exact mem
  · exact Outline.mem_extend_of_mem mem

/-- The last name of a path is recorded if it is permitted, with all permitted fields of the model
that it leads to. -/
theorem follow_last {root last : String} {m : Model} (field : String)
    (found : a.catalog.model? last = some m) (h : a.Earned use root o) :
    ∃ o', a.follow use last [field] o = .ok o' ∧ a.Earned use root o' ∧
      (field ∈ a.fieldsOf use last → field ∈ (o'.get? last).getD .empty) ∧
      ∀ target, a.Relates use last field target →
        ∀ name ∈ a.fieldsOf use target, name ∈ (o'.get? target).getD .empty := by
  have own : a.fieldsOf use last = m.fields a.request use :=
    fieldsOf_eq (Catalog.get_ok_iff.2 found)
  rw [follow, Catalog.get_ok_iff.2 found]
  simp only [bind, Except.bind, ← own, NameSet.contains_iff]
  by_cases permitted : field ∈ a.fieldsOf use last
  · have earned := h.extend (isEmpty_eq_false_of_mem permitted) (.ofList [field])
    have recorded : field ∈ ((o.extend last (.ofList [field])).get? last).getD .empty :=
      Outline.mem_extend (by simp)
    simp only [if_pos permitted]
    cases leads : m.target? field with
    | none =>
      refine ⟨_, rfl, earned, fun _ => recorded, ?_⟩
      rintro target ⟨other, same, -, leads'⟩
      cases found.symm.trans same
      cases leads.symm.trans leads'
    | some target =>
      refine ⟨_, rfl, earned.recordTarget target, fun _ => mem_recordTarget_of_mem recorded, ?_⟩
      rintro other ⟨_, same, -, leads'⟩ name mem
      cases found.symm.trans same
      cases leads.symm.trans leads'
      exact mem_recordTarget mem
  · refine ⟨o, ?_, h, fun mem => absurd mem permitted, fun target leads =>
      absurd leads.mem_fieldsOf permitted⟩
    simp only [if_neg permitted]
    split <;> rfl

/-- An outline that records all permitted fields of a model is told by these. -/
theorem get?_eq_some_iff {root model : String} (within : o.Within (a.fieldsOf use))
    (earned : a.Earned use root o) (shown : (a.fieldsOf use root).isEmpty = false)
    (all : ∀ name ∈ a.fieldsOf use model, name ∈ (o.get? model).getD .empty) (names : NameSet) :
    o.get? model = some names ↔ names.isEmpty = false ∧ names = a.fieldsOf use model := by
  have same {recorded : NameSet} (found : o.get? model = some recorded) :
      recorded = a.fieldsOf use model := by
    have inside := within model
    rw [found] at inside all
    exact NameSet.ext_mem fun name => ⟨inside name, all name⟩
  constructor
  · intro found
    refine ⟨?_, same found⟩
    rw [same found]
    rcases earned model names found with rfl | some
    · exact shown
    · exact some
  · rintro ⟨some, rfl⟩
    obtain ⟨name, mem⟩ := List.isEmpty_eq_false_iff_exists_mem.1 some
    have recorded := all name mem
    cases found : o.get? model with
    | none =>
      rw [found] at recorded
      exact absurd recorded (NameSet.not_mem_empty name)
    | some recorded => rw [same found]

/-- A route ends in the catalog if it begins there. -/
theorem Route.known {first last : String} {names : List String}
    (route : a.Route use first names last) (closed : a.catalog.Closed)
    (known : a.catalog.contains first = true) : a.catalog.contains last = true := by
  induction route with
  | here => exact known
  | onward leads _ ih =>
    obtain ⟨m, found, -, target⟩ := leads
    exact ih (Option.isSome_iff_exists.2 (closed.found found target))

/-- A route with a permitted field behind it begins at a permitted field. -/
theorem Route.isEmpty_eq_false {first last field : String} {names : List String}
    (route : a.Route use first names last) (permitted : field ∈ a.fieldsOf use last) :
    (a.fieldsOf use first).isEmpty = false := by
  cases route with
  | here => exact isEmpty_eq_false_of_mem permitted
  | onward leads _ => exact isEmpty_eq_false_of_mem leads.mem_fieldsOf

theorem Route.append {first last next field : String} {names : List String}
    (route : a.Route use first names last) (leads : a.Relates use last field next) :
    a.Route use first (names ++ [field]) next := by
  induction route with
  | here => exact .onward leads (.here next)
  | onward before _ ih => exact .onward before (ih leads)

theorem Route.nearby {root last : String} {names : List String}
    (route : a.Route use root names last) {depth : Nat} (short : names.length ≤ depth)
    (granted : depth ≤ a.rules.maxDepth) :
    a.Nearby use (.ofList [root]) (min depth a.rules.maxDepth) last :=
  ⟨root, by simp, names, by omega, route⟩

/-- The outline of one requested path along a route: it has the last field exactly if that is
permitted, and what a relation leads to is recorded with all permitted fields, if there are any. -/
theorem outline_path (closed : a.catalog.Closed) {root last path field : String}
    {names : List String} (known : a.catalog.contains root = true)
    (route : a.Route use root names last) (segments : Path.segments path = names ++ [field]) :
    ∃ asked, a.outline root use 0 [path] = .ok asked ∧
      (asked.has last field = true ↔ field ∈ a.fieldsOf use last) ∧
      ∀ target, a.Relates use last field target → ∀ recorded,
        asked.get? target = some recorded ↔
          recorded.isEmpty = false ∧ recorded = a.fieldsOf use target := by
  obtain ⟨first, foundFirst⟩ := Option.isSome_iff_exists.1 known
  obtain ⟨m, found⟩ := Option.isSome_iff_exists.1 (route.known closed known)
  obtain ⟨between, earned, followed⟩ :=
    follow_route (List.cons_ne_nil field []) route (earned_start root)
  obtain ⟨asked, ended, earned, has, all⟩ := follow_last field found earned
  have made : a.outline root use 0 [path] = .ok asked := by
    rw [outline, Catalog.get_ok_iff.2 foundFirst]
    simp only [bind, Except.bind, List.isEmpty_cons, Bool.false_eq_true, if_false,
      List.foldlM_cons, List.foldlM_nil, segments, followed, ended]
    rfl
  refine ⟨asked, made, ?_, fun target leads => ?_⟩
  · rw [Outline.has_iff]
    exact ⟨within_outline made last field, has⟩
  · exact get?_eq_some_iff (within_outline made) earned
      (route.isEmpty_eq_false leads.mem_fieldsOf) (all target leads)

/-- Following a path on demand and spreading over the whole neighbourhood agree. A path goes along a
route of permitted relations and ends at some field, permitted or not. It is always granted, and its
outline has the field exactly if any outline has it that spreads at least as deep as the route is
long. If the field is a permitted relation, both record the same for the model that it leads to, as
soon as the spreading gets there. -/
theorem outline_of_path_agrees {models : List Model}
    (built : Catalog.build models = .ok a.catalog) {root last path field : String}
    {names : List String} (known : a.catalog.contains root = true)
    (route : a.Route use root names last) (segments : Path.segments path = names ++ [field]) :
    ∃ asked, a.outline root use 0 [path] = .ok asked ∧
      ∀ depth, names.length ≤ depth → depth ≤ a.rules.maxDepth →
        ∃ whole, a.outline root use depth [] = .ok whole ∧
          asked.has last field = whole.has last field ∧
          ∀ target, a.Relates use last field target → names.length + 1 ≤ depth →
            asked.get? target = whole.get? target := by
  obtain ⟨m, found⟩ := Option.isSome_iff_exists.1 known
  obtain ⟨asked, made, has, recorded⟩ :=
    outline_path (Catalog.closed_of_build built) known route segments
  refine ⟨asked, made, fun depth long granted => ?_⟩
  obtain ⟨whole, spread, recordedWhole⟩ := outline_whole found depth
  refine ⟨whole, spread, ?_, fun target leads longer => ?_⟩
  · have near := route.nearby long granted
    rw [Bool.eq_iff_iff, has, Outline.has_iff]
    constructor
    · intro permitted
      rw [(recordedWhole last _).2 ⟨near, isEmpty_eq_false_of_mem permitted, rfl⟩]
      exact permitted
    · exact within_outline spread last field
  · refine Option.ext fun recordedThere => ?_
    have near := (route.append leads).nearby (by simpa using longer) granted
    rw [recorded target leads, recordedWhole]
    exact ⟨fun h => ⟨near, h⟩, And.right⟩

end Access

/-! Tasks of persons, who have bosses -/

namespace Bosses

def person : Model :=
  { Model.ofSchema (((Schema.ofKey "person" "id").withField ⟨"boss", .toOne "person"⟩).withField
      ⟨"pay", .scalar⟩) with
    guards := [.reading ["boss", "id"]] }

def task : Model :=
  { Model.ofSchema ((Schema.ofKey "task" "id").withField ⟨"owner", .toOne "person"⟩) with
    guards := [.allowAll] }

def access : Access := ⟨⟨.ofList [("person", person), ("task", task)]⟩, .anonymous, .default⟩

theorem owner_leads : access.Relates .read "task" "owner" "person" :=
  ⟨task, rfl, by decide, by decide⟩

theorem boss_leads : access.Relates .read "person" "boss" "person" :=
  ⟨person, rfl, by decide, by decide⟩

theorem boss_of_owner_agrees :
    Catalog.build [task, person] = .ok access.catalog ∧
    ∃ asked whole, access.outline "task" .read 0 ["owner__boss"] = .ok asked ∧
      access.outline "task" .read 2 [] = .ok whole ∧
      asked.has "person" "boss" = whole.has "person" "boss" ∧
      asked.get? "person" = whole.get? "person" := by
  have built : Catalog.build [task, person] = .ok access.catalog := rfl
  obtain ⟨asked, made, agrees⟩ := Access.outline_of_path_agrees built rfl
    (.onward owner_leads (.here "person"))
    (show Path.segments "owner__boss" = ["owner"] ++ ["boss"] by decide)
  obtain ⟨whole, spread, has, same⟩ := agrees 2 (by decide) (by decide)
  exact ⟨built, asked, whole, made, spread, has, same "person" boss_leads (by decide)⟩

end Bosses

end GuardedQuery
