import GuardedQuery.Engine.Writing
import GuardedQuery.Proofs.Checks
import GuardedQuery.Proofs.Plan

/-! Outlines list permitted fields only, however they come about: by spreading along relations, by
following requested paths, or from the fields that an update has touched. -/

namespace GuardedQuery

namespace Outline

/-- Every field that is listed for a model is among the permitted ones of it. -/
def Within (o : Outline) (permitted : String → NameSet) : Prop :=
  ∀ model, ∀ field ∈ (o.get? model).getD .empty, field ∈ permitted model

variable {o : Outline} {permitted : String → NameSet} {names : NameSet}

theorem within_empty : Within .empty permitted := by
  intro model field mem
  exact absurd mem (NameSet.not_mem_empty field)

theorem Within.insert (h : o.Within permitted) {model : String}
    (all : ∀ field ∈ names, field ∈ permitted model) :
    Within (Dict.insert o model names) permitted := by
  intro other field mem
  by_cases same : model = other
  · subst same
    rw [Dict.get?_insert_self] at mem
    exact all field mem
  · rw [Dict.get?_insert_of_ne o same] at mem
    exact h other field mem

theorem Within.extend (h : o.Within permitted) {model : String}
    (all : ∀ field ∈ names, field ∈ permitted model) :
    (o.extend model names).Within permitted := by
  refine h.insert fun field mem => ?_
  rcases NameSet.mem_union.1 mem with old | new
  · exact h model field old
  · exact all field new

end Outline

namespace Access
variable {a : Access} {use : FieldUse} {o : Outline} {model : String} {m : Model}

theorem fieldsOf_eq (h : a.catalog.get model = .ok m) :
    a.fieldsOf use model = m.fields a.request use := by
  rw [fieldsOf, Catalog.get_ok_iff.1 h]

/-! The whole neighbourhood -/

theorem within_record (h : o.Within (a.fieldsOf use)) :
    (a.record use o model).Within (a.fieldsOf use) := by
  rw [record]
  split
  · exact h
  · exact h.insert fun _ mem => mem

theorem within_foldl_record {models : List String} (h : o.Within (a.fieldsOf use)) :
    (models.foldl (a.record use) o).Within (a.fieldsOf use) := by
  induction models generalizing o with
  | nil => exact h
  | cons model rest ih => exact ih (within_record h)

theorem within_spread {depth : Nat} {level : NameSet} (h : o.Within (a.fieldsOf use)) :
    (a.spread use depth level o).Within (a.fieldsOf use) := by
  induction depth generalizing level o with
  | zero =>
    rw [spread]
    split <;> exact within_foldl_record h
  | succ depth ih =>
    rw [spread]
    split
    · exact within_foldl_record h
    · exact ih (within_foldl_record h)

/-! Requested paths -/

theorem within_recordTarget (h : o.Within (a.fieldsOf use)) :
    (a.recordTarget use o model).Within (a.fieldsOf use) := by
  rw [recordTarget]
  split
  · exact h
  · exact h.extend fun _ mem => mem

/-- A segment is recorded only if it is permitted, and then the path may go on. -/
theorem within_segment (found : a.catalog.get model = .ok m) (h : o.Within (a.fieldsOf use))
    (segment : String) :
    Outline.Within (if (m.fields a.request use).contains segment then
      o.extend model (.ofList [segment]) else o) (a.fieldsOf use) := by
  split
  · rename_i permitted
    refine h.extend fun field mem => ?_
    have same : field = segment := by simpa using mem
    rw [same, fieldsOf_eq found]
    exact NameSet.contains_iff.1 permitted
  · exact h

theorem within_follow {segments : List String} (h : o.Within (a.fieldsOf use)) {o' : Outline}
    (ran : a.follow use model segments o = .ok o') : o'.Within (a.fieldsOf use) := by
  induction segments generalizing model o with
  | nil =>
    rw [follow] at ran
    cases ran
    exact h
  | cons segment rest ih =>
    rw [follow] at ran
    obtain ⟨m, found, ran⟩ := Checks.bind_ok_iff.1 ran
    have here := within_segment found h segment
    cases rest with
    | nil =>
      simp only at ran
      split at ran
      · rw [← Checks.pure_ok_iff.1 ran]
        split
        · rename_i permitted
          rw [if_pos permitted] at here
          exact within_recordTarget here
        · rename_i refused
          rw [if_neg refused] at here
          exact here
      · rw [← Checks.pure_ok_iff.1 ran]
        exact here
    | cons next others =>
      simp only at ran
      split at ran
      · split at ran
        · cases ran
        · rw [← Checks.pure_ok_iff.1 ran]
          exact here
      · split at ran
        · rw [← Checks.pure_ok_iff.1 ran]
          exact here
        · exact ih here ran
        · exact ih here ran
        · exact ih here ran
        · split at ran
          · cases ran
          · rw [← Checks.pure_ok_iff.1 ran]
            exact here

theorem within_paths {paths : List String} (h : o.Within (a.fieldsOf use)) {o' : Outline}
    (ran : paths.foldlM (fun o path => a.follow use model (Path.segments path) o) o = .ok o') :
    o'.Within (a.fieldsOf use) := by
  induction paths generalizing o with
  | nil =>
    rw [← Checks.pure_ok_iff.1 ran]
    exact h
  | cons path rest ih =>
    rw [List.foldlM_cons] at ran
    obtain ⟨between, followed, ran⟩ := Checks.bind_ok_iff.1 ran
    exact ih (within_follow h followed) ran

theorem within_outline {depth : Nat} {paths : List String}
    (made : a.outline model use depth paths = .ok o) : o.Within (a.fieldsOf use) := by
  rw [outline] at made
  obtain ⟨m, _, made⟩ := Checks.bind_ok_iff.1 made
  split at made
  · rw [← Checks.pure_ok_iff.1 made]
    exact within_spread Outline.within_empty
  · exact within_paths (Outline.within_empty.insert fun field mem =>
      absurd mem (NameSet.not_mem_empty field)) made

end Access

namespace Plan
variable {p : Plan}

/-- What an update shows can be read as well. -/
theorem within_updateOutline (own : p.access.catalog.get p.name = .ok p.model)
    (names : List String) :
    (p.updateOutline names).Within (p.access.fieldsOf .read) := by
  refine Outline.within_empty.insert fun field mem => ?_
  rw [Access.fieldsOf_eq own]
  exact (NameSet.mem_inter.1 mem).2

end Plan

end GuardedQuery
