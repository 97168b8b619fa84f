import GuardedQuery.Proofs.Presentation.Lookups

/-! Several requested paths. What a path adds to an outline does not depend on what is recorded
there already, so the outline of several paths is the union of the outlines of each. -/

namespace GuardedQuery

namespace Outline
variable {o : Outline} {added : List (String × NameSet)}

def extendAll (o : Outline) (added : List (String × NameSet)) : Outline :=
  added.foldl (fun o entry => o.extend entry.1 entry.2) o

theorem extendAll_append (first second : List (String × NameSet)) :
    o.extendAll (first ++ second) = (o.extendAll first).extendAll second :=
  List.foldl_append

/-- What each addition brings about is brought about by all of them together. -/
theorem extendAll_iff {Q : Outline → Prop} {q : String × NameSet → Prop}
    (each : ∀ o model names, Q (extend o model names) ↔ Q o ∨ q (model, names)) :
    Q (o.extendAll added) ↔ Q o ∨ ∃ entry ∈ added, q entry := by
  induction added generalizing o with
  | nil => simp [extendAll]
  | cons entry rest ih =>
    rw [← List.singleton_append, extendAll_append, ih, extendAll, List.foldl_cons, List.foldl_nil,
      each, List.singleton_append, List.exists_mem_cons_iff, or_assoc]

theorem contains_extend (o : Outline) (model : String) (names : NameSet) {other : String} :
    (o.extend model names).contains other = true ↔ o.contains other = true ∨ model = other := by
  by_cases same : model = other
  · subst same
    simp [extend, Dict.contains]
  · rw [extend, Dict.contains, Dict.get?_insert_of_ne o same, or_iff_left same]
    rfl

theorem has_extend (o : Outline) (model : String) (names : NameSet) {other field : String} :
    (o.extend model names).has other field = true ↔
      o.has other field = true ∨ model = other ∧ field ∈ names := by
  rw [has_iff, has_iff]
  by_cases same : model = other
  · subst same
    rw [extend, Dict.get?_insert_self, Option.getD_some, NameSet.mem_union]
    simp
  · rw [extend, Dict.get?_insert_of_ne o same, or_iff_left fun both => same both.1]

theorem ext_has {o' : Outline}
    (models : ∀ model, o.contains model = true ↔ o'.contains model = true)
    (fields : ∀ model field, o.has model field = true ↔ o'.has model field = true) : o = o' := by
  refine Dict.ext_get? fun model => ?_
  have models := models model
  have fields := fields model
  simp only [Dict.contains] at models
  simp only [has_iff] at fields
  cases there : o.get? model with
  | none =>
    rw [there] at models
    cases there' : o'.get? model with
    | none => rfl
    | some names => simp [there'] at models
  | some names =>
    rw [there] at models fields
    cases there' : o'.get? model with
    | none => simp [there'] at models
    | some names' =>
      rw [there'] at fields
      exact congrArg some (NameSet.ext_mem fields)

/-- A walk that adds the same to every outline, or fails on each of them. -/
def Adds (walk : Outline → Except Error Outline) : Prop :=
  ∃ added : Except Error (List (String × NameSet)), ∀ o, walk o = added.map o.extendAll

theorem adds_nothing : Adds .ok := ⟨.ok [], fun _ => rfl⟩

theorem adds_error (e : Error) : Adds fun _ => .error e := ⟨.error e, fun _ => rfl⟩

section
variable {walk : Outline → Except Error Outline}

theorem Adds.unless (h : Adds walk) (c : Bool) (e : Error) :
    Adds fun o => if c then .error e else walk o := by
  cases c with
  | true => exact adds_error e
  | false => exact h

theorem Adds.after_extend (h : Adds walk) (model : String) (names : NameSet) :
    Adds fun o => walk (o.extend model names) := by
  obtain ⟨added, same⟩ := h
  refine ⟨added.map ((model, names) :: ·), fun o => (same _).trans ?_⟩
  cases added <;> rfl

end

end Outline

namespace Access
variable {a : Access} {use : FieldUse}

theorem adds_recordTarget (target : String) :
    Outline.Adds fun o => .ok (a.recordTarget use o target) := by
  simp only [recordTarget]
  split
  · exact Outline.adds_nothing
  · exact Outline.adds_nothing.after_extend target _

theorem adds_follow (model : String) (segments : List String) :
    Outline.Adds (a.follow use model segments) := by
  induction segments generalizing model with
  | nil => exact Outline.adds_nothing
  | cons segment rest ih =>
    change Outline.Adds fun o => a.follow use model (segment :: rest) o
    simp only [follow]
    cases a.catalog.get model with
    | error e => exact Outline.adds_error e
    | ok m =>
      simp only [bind, Except.bind]
      by_cases permitted : (m.fields a.request use).contains segment = true
      · simp only [if_pos permitted]
        cases rest with
        | nil =>
          cases m.target? segment with
          | none => exact Outline.adds_nothing.after_extend model _
          | some target => exact (adds_recordTarget target).after_extend model _
        | cons next others =>
          simp only [permitted, Bool.not_true, Bool.false_eq_true, if_false]
          rcases m.kind? segment with _ | (_ | _ | target | target | ⟨target, via⟩)
          · exact (Outline.adds_nothing.unless _ _).after_extend model _
          · exact (Outline.adds_nothing.unless _ _).after_extend model _
          · exact Outline.adds_nothing.after_extend model _
          · exact (ih target).after_extend model _
          · exact (ih target).after_extend model _
          · exact (ih target).after_extend model _
      · simp only [if_neg permitted]
        cases rest with
        | nil =>
          cases m.target? segment with
          | none => exact Outline.adds_nothing
          | some target => exact Outline.adds_nothing
        | cons next others =>
          simp only [permitted, Bool.not_false, if_true]
          exact Outline.adds_nothing.unless _ _

/-- Paths are granted together if each of them is, and their outline is what each of them adds. -/
def Additions (a : Access) (root : String) (use : FieldUse)
    (added : String → Except Error (List (String × NameSet))) : Prop :=
  ∀ depth paths, paths ≠ [] → ∀ whole, a.outline root use depth paths = .ok whole ↔
    ∃ lists, paths.mapM added = .ok lists ∧
      Outline.extendAll (Dict.empty.insert root .empty) lists.flatten = whole

theorem foldlM_follow {root : String} {added : String → Except Error (List (String × NameSet))}
    (same : ∀ path o, a.follow use root (Path.segments path) o =
      (added path).map (Outline.extendAll o)) (paths : List String) (o : Outline) :
    paths.foldlM (fun o path => a.follow use root (Path.segments path) o) o =
      (paths.mapM added).map fun lists => Outline.extendAll o lists.flatten := by
  induction paths generalizing o with
  | nil => rfl
  | cons path rest ih =>
    rw [List.foldlM_cons, List.mapM_cons, same]
    cases added path with
    | error e => rfl
    | ok first =>
      refine (ih _).trans ?_
      cases rest.mapM added with
      | error e => rfl
      | ok others => exact congrArg Except.ok (Outline.extendAll_append first _).symm

theorem exists_additions (a : Access) (root : String) (use : FieldUse) :
    ∃ added, a.Additions root use added := by
  choose added same using fun path => @adds_follow a use root (Path.segments path)
  cases found : a.catalog.model? root with
  | some m =>
    refine ⟨added, fun depth paths some whole => ?_⟩
    rw [outline, Catalog.get_ok_iff.2 found]
    simp only [bind, Except.bind, List.isEmpty_eq_false_iff.2 some, Bool.false_eq_true, if_false]
    rw [foldlM_follow same]
    exact Checks.map_ok_iff
  | none =>
    refine ⟨fun _ => .error (.unknownModel root), fun depth paths some whole => ?_⟩
    obtain ⟨first, rest, rfl⟩ := List.exists_cons_of_ne_nil some
    rw [outline, Catalog.get, found, List.mapM_cons]
    constructor
    · rintro ⟨⟩
    · rintro ⟨_, ⟨⟩, -⟩

namespace Additions
variable {root : String} {added : String → Except Error (List (String × NameSet))}
  {depth : Nat} {paths : List String} {whole : Outline}

theorem single_iff (h : a.Additions root use added) {path : String} {single : Outline} :
    a.outline root use depth [path] = .ok single ↔
      ∃ entries, added path = .ok entries ∧
        Outline.extendAll (Dict.empty.insert root .empty) entries = single := by
  rw [h depth [path] (List.cons_ne_nil path [])]
  simp only [Checks.mapM_ok_iff, List.forall₂_cons_left_iff, List.forall₂_nil_left_iff]
  constructor
  · rintro ⟨_, ⟨entries, _, made, rfl, rfl⟩, same⟩
    exact ⟨entries, made, by simpa using same⟩
  · rintro ⟨entries, made, same⟩
    exact ⟨[entries], ⟨entries, [], made, rfl, rfl⟩, by simpa using same⟩

theorem granted_iff (h : a.Additions root use added) (some : paths ≠ []) :
    (∃ whole, a.outline root use depth paths = .ok whole) ↔
      ∀ path ∈ paths, ∃ single, a.outline root use depth [path] = .ok single := by
  simp only [h depth paths some, h.single_iff]
  constructor
  · rintro ⟨whole, lists, ran, -⟩ path mem
    obtain ⟨entries, -, made⟩ := Checks.exists_ok_of_mapM_ok ran mem
    exact ⟨_, entries, made, rfl⟩
  · intro each
    obtain ⟨lists, ran⟩ := Checks.exists_mapM_ok fun path mem =>
      (each path mem).elim fun _ made => made.imp fun _ both => both.1
    exact ⟨_, lists, ran, rfl⟩

/-- What additions bring about, an outline has if that of one of its paths has it. -/
theorem union (h : a.Additions root use added) (some : paths ≠ [])
    (made : a.outline root use depth paths = .ok whole)
    {Q : Outline → Prop} {q : String × NameSet → Prop}
    (each : ∀ o model names, Q (Outline.extend o model names) ↔ Q o ∨ q (model, names)) :
    Q whole ↔
      ∃ path ∈ paths, ∃ single, a.outline root use depth [path] = .ok single ∧ Q single := by
  obtain ⟨lists, ran, rfl⟩ := (h depth paths some whole).1 made
  rw [Outline.extendAll_iff each]
  constructor
  · rintro (start | ⟨entry, mem, here⟩)
    · obtain ⟨path, listed⟩ := List.exists_mem_of_ne_nil paths some
      obtain ⟨entries, -, own⟩ := Checks.exists_ok_of_mapM_ok ran listed
      exact ⟨path, listed, _, h.single_iff.2 ⟨entries, own, rfl⟩,
        (Outline.extendAll_iff each).2 (.inl start)⟩
    · obtain ⟨entries, among, inside⟩ := List.mem_flatten.1 mem
      obtain ⟨path, listed, own⟩ := Checks.exists_of_mapM_ok ran among
      exact ⟨path, listed, _, h.single_iff.2 ⟨entries, own, rfl⟩,
        (Outline.extendAll_iff each).2 (.inr ⟨entry, inside, here⟩)⟩
  · rintro ⟨path, listed, single, own, has⟩
    obtain ⟨entries, adds, rfl⟩ := h.single_iff.1 own
    obtain ⟨entries', among, adds'⟩ := Checks.exists_ok_of_mapM_ok ran listed
    cases adds.symm.trans adds'
    exact ((Outline.extendAll_iff each).1 has).imp_right fun ⟨entry, inside, here⟩ =>
      ⟨entry, List.mem_flatten.2 ⟨entries, among, inside⟩, here⟩

theorem contains_iff (h : a.Additions root use added) (some : paths ≠ [])
    (made : a.outline root use depth paths = .ok whole) (model : String) :
    whole.contains model = true ↔ ∃ path ∈ paths, ∃ single,
      a.outline root use depth [path] = .ok single ∧ single.contains model = true :=
  h.union some made (Q := fun o => o.contains model = true) (q := fun entry => entry.1 = model)
    fun o _ names => Outline.contains_extend o _ names

theorem has_iff (h : a.Additions root use added) (some : paths ≠ [])
    (made : a.outline root use depth paths = .ok whole) (model field : String) :
    whole.has model field = true ↔ ∃ path ∈ paths, ∃ single,
      a.outline root use depth [path] = .ok single ∧ single.has model field = true :=
  h.union some made (Q := fun o => o.has model field = true)
    (q := fun entry => entry.1 = model ∧ field ∈ entry.2)
    fun o _ names => Outline.has_extend o _ names

/-- The same paths have the same outline, in whatever order and however often they are named. -/
theorem reordered (h : a.Additions root use added) (some : paths ≠ [])
    (made : a.outline root use depth paths = .ok whole) {again : List String}
    (same : ∀ path, path ∈ again ↔ path ∈ paths) (further : Nat) :
    a.outline root use further again = .ok whole := by
  have some' : again ≠ [] := by
    obtain ⟨path, mem⟩ := List.exists_mem_of_ne_nil paths some
    exact List.ne_nil_of_mem ((same path).2 mem)
  have each := (h.granted_iff some).1 ⟨whole, made⟩
  obtain ⟨whole', made'⟩ : ∃ whole', a.outline root use further again = .ok whole' := by
    refine (h.granted_iff some').2 fun path mem => ?_
    simpa only [h.single_iff] using each path ((same path).1 mem)
  rw [made']
  refine congrArg Except.ok (Outline.ext_has (fun model => ?_) fun model field => ?_)
  · rw [h.contains_iff some' made', h.contains_iff some made]
    simp only [h.single_iff, same]
  · rw [h.has_iff some' made', h.has_iff some made]
    simp only [h.single_iff, same]

end Additions

/-- Requested paths are looked up one after the other, with what is known shared between them, and
none of this shows. They are granted exactly if each of them is. Then neither the depth matters nor
the order of the paths nor how often they are named, the outline is the union of the outlines of
each path, and it has permitted fields only. -/
theorem outline_of_paths_is_union {models : List Model}
    (built : Catalog.build models = .ok a.catalog) (root : String) (use : FieldUse)
    {paths : List String} (asked : paths ≠ []) :
    (∀ depth, a.survey root use depth paths = a.outline root use depth paths) ∧
    (∀ depth, (∃ whole, a.outline root use depth paths = .ok whole) ↔
      ∀ path ∈ paths, ∃ single, a.outline root use depth [path] = .ok single) ∧
    ∀ depth whole, a.outline root use depth paths = .ok whole →
      (∀ further again, (∀ path, path ∈ again ↔ path ∈ paths) →
        a.outline root use further again = .ok whole) ∧
      (∀ model, (whole.contains model = true ↔ ∃ path ∈ paths, ∃ single,
          a.outline root use depth [path] = .ok single ∧ single.contains model = true) ∧
        ∀ field, whole.has model field = true ↔ ∃ path ∈ paths, ∃ single,
          a.outline root use depth [path] = .ok single ∧ single.has model field = true) ∧
      ∀ model names, whole.get? model = some names →
        ∀ name ∈ names, ∃ permitted, a.fields model use = .ok permitted ∧ name ∈ permitted := by
  obtain ⟨added, h⟩ := exists_additions a root use
  refine ⟨fun depth => survey_eq_outline (Catalog.closed_of_build built) root use depth paths,
    fun depth => h.granted_iff asked, fun depth whole made => ⟨fun further again same =>
      h.reordered asked made same further, fun model => ⟨h.contains_iff asked made model,
      h.has_iff asked made model⟩, fun model names found name mem => ?_⟩⟩
  have permitted : name ∈ a.fieldsOf use model :=
    within_outline made model name (by rw [found]; exact mem)
  exact ⟨_, (fields_ok_iff (isEmpty_eq_false_of_mem permitted)).2 rfl, permitted⟩

end Access

/-! Users, who have managers and teams, a column of settings and a computed badge -/

namespace Users

def user : Model :=
  { Model.ofSchema ((((Schema.ofKey "user" "id").withField ⟨"manager", .toOne "user"⟩).withField
      ⟨"settings", .json⟩).withField ⟨"team", .toOne "team"⟩) with
    guards := [.allowAll]
    computed := [⟨"badge", fun _ => .null⟩] }

def team : Model :=
  { Model.ofSchema (((Schema.ofKey "team" "id").withField ⟨"budget", .scalar⟩).withField
      ⟨"title", .scalar⟩) with
    guards := [.reading ["id", "title"]] }

def access : Access := ⟨⟨.ofList [("team", team), ("user", user)]⟩, .anonymous, .default⟩

def paths : List String := ["badge", "manager__team", "settings__theme__dark"]

def shuffled : List String := ["settings__theme__dark", "manager__team", "badge", "manager__team"]

theorem paths_of_users_unite :
    Catalog.build [user, team] = .ok access.catalog ∧ paths ≠ [] ∧
    ∃ whole, access.outline "user" .read 0 paths = .ok whole ∧
      access.survey "user" .read 3 paths = .ok whole ∧
      access.outline "user" .read 1 shuffled = .ok whole ∧
      whole.has "team" "title" = true := by
  have built : Catalog.build [user, team] = .ok access.catalog := rfl
  have asked : paths ≠ [] := List.cons_ne_nil _ _
  obtain ⟨surveyed, -, unite⟩ := Access.outline_of_paths_is_union built "user" .read asked
  obtain ⟨whole, made⟩ : ∃ whole, access.outline "user" .read 0 paths = .ok whole := ⟨_, rfl⟩
  obtain ⟨alike, union, -⟩ := unite 0 whole made
  have listed (path : String) : path ∈ shuffled ↔ path ∈ paths := by
    simp only [shuffled, paths, List.mem_cons, List.not_mem_nil, or_false]
    tauto
  refine ⟨built, asked, whole, made, ?_, alike 1 shuffled listed, ?_⟩
  · rw [surveyed]
    exact alike 3 paths fun _ => Iff.rfl
  · exact ((union "team").2 "title").2 ⟨"manager__team", by decide, _, rfl, rfl⟩

end Users

end GuardedQuery
