import GuardedQuery.Engine.Reading
import GuardedQuery.Proofs.Text.Runs

/-! The contexts of cached answers. The context of a list tells the depth and the text of the
outline, from which the outline can be read back as long as no name contains the marks that the
text sets names off by. -/

namespace GuardedQuery

open Text

namespace Outline

/-- The names can be read back from the text of the outline. -/
def Legible (o : Outline) : Prop :=
  ∀ entry ∈ o.entries, Unmarked entry.1 ∧ ∀ field ∈ entry.2, Unmarked field ∧ field ≠ ""

def entryText (entry : String × NameSet) : String :=
  entry.1 ++ "(" ++ ",".intercalate entry.2.toList ++ ")"

theorem text_eq (o : Outline) : o.text = ";".intercalate (o.entries.map entryText) := rfl

theorem fields_inj {xs ys : NameSet} (legible : ∀ x ∈ xs, Unmarked x ∧ x ≠ "")
    (legible' : ∀ y ∈ ys, Unmarked y ∧ y ≠ "")
    (h : ",".intercalate xs.toList = ",".intercalate ys.toList) : xs = ys := by
  have parts {zs : NameSet} (legible : ∀ z ∈ zs, Unmarked z ∧ z ≠ "") :
      ∀ part ∈ zs.toList.map String.toList, ',' ∉ part ∧ part ≠ [] := by
    intro part mem
    obtain ⟨z, inside, rfl⟩ := List.mem_map.1 mem
    obtain ⟨unmarked, some⟩ := legible z inside
    exact ⟨unmarked.not_mem rfl, fun none => some (String.toList_inj.1 none)⟩
  have chars := congrArg String.toList h
  rw [String.toList_intercalate, String.toList_intercalate] at chars
  have same := intercalate_inj (parts legible) (parts legible') chars
  have lists : xs.toList = ys.toList :=
    map_inj_of (fun _ _ _ _ eq => String.toList_inj.1 eq) same
  exact NameSet.ext_mem fun name => by rw [NameSet.mem_def, lists, NameSet.mem_def]

theorem entryText_inj {x y : String × NameSet}
    (legible : Unmarked x.1 ∧ ∀ field ∈ x.2, Unmarked field ∧ field ≠ "")
    (legible' : Unmarked y.1 ∧ ∀ field ∈ y.2, Unmarked field ∧ field ≠ "")
    (h : entryText x = entryText y) : x = y := by
  have chars := congrArg String.toList h
  simp only [entryText, String.toList_append, String.reduceToList, List.append_assoc,
    List.cons_append, List.nil_append] at chars
  obtain ⟨model, rest⟩ := run_inj legible.1 legible'.1 (stops_cons rfl _) (stops_cons rfl _) chars
  have fields := List.append_cancel_right (List.cons.inj rest).2
  exact Prod.ext (String.toList_inj.1 model)
    (fields_inj legible.2 legible'.2 (String.toList_inj.1 fields))

theorem entryText_legible {entry : String × NameSet}
    (legible : Unmarked entry.1 ∧ ∀ field ∈ entry.2, Unmarked field ∧ field ≠ "") :
    ';' ∉ (entryText entry).toList ∧ (entryText entry).toList ≠ [] := by
  simp only [entryText, String.toList_append, String.toList_intercalate, String.reduceToList]
  refine ⟨?_, by simp⟩
  have fields : ';' ∉ [','].intercalate (entry.2.toList.map String.toList) := by
    intro mem
    rcases mem_intercalate mem with sep | ⟨part, inside, mem⟩
    · simp at sep
    · obtain ⟨field, listed, rfl⟩ := List.mem_map.1 inside
      exact (legible.2 field listed).1.not_mem rfl mem
  simp [legible.1.not_mem (c := ';') rfl, fields]

theorem text_inj {o o' : Outline} (legible : o.Legible) (legible' : o'.Legible)
    (h : o.text = o'.text) : o = o' := by
  have parts {o : Outline} (legible : o.Legible) :
      ∀ part ∈ o.entries.map (String.toList ∘ entryText), ';' ∉ part ∧ part ≠ [] := by
    intro part mem
    obtain ⟨entry, inside, rfl⟩ := List.mem_map.1 mem
    exact entryText_legible (legible entry inside)
  have chars := congrArg String.toList h
  simp only [text_eq, String.toList_intercalate, String.reduceToList, List.map_map] at chars
  have entries := map_inj_of (fun x mem y mem' eq => entryText_inj (legible x mem) (legible' y mem')
    (String.toList_inj.1 eq)) (intercalate_inj (parts legible) (parts legible') chars)
  exact Dict.ext_get? fun model => by rw [Dict.get?, entries, Dict.get?]

end Outline

namespace Plan

/-- The context of a list tells its depth and the text of its outline. -/
theorem listContext_inj {p q : Plan} (h : p.listContext = q.listContext) :
    p.depth = q.depth ∧ p.outline.text = q.outline.text := by
  have chars := congrArg String.toList h
  simp only [listContext, String.toList_append, String.reduceToList, List.append_assoc,
    List.cons_append, List.nil_append, List.cons.injEq, true_and, toList_numeral] at chars
  obtain ⟨depth, rest⟩ := numeral_inj (stops_cons rfl _) (stops_cons rfl _) chars
  simp only [List.cons.injEq, true_and] at rest
  exact ⟨depth, String.toList_inj.1 rest⟩

theorem listContext_ne_aggregate (p : Plan) (function : Aggregate) (field : String) :
    p.listContext ≠ function.name ++ ":" ++ field := by
  intro h
  have chars := congrArg String.toList h
  cases function <;> simp [listContext, Aggregate.name] at chars

theorem context_aggregate_inj {function function' : Aggregate} {field field' : String}
    (h : function.name ++ ":" ++ field = function'.name ++ ":" ++ field') :
    function = function' ∧ field = field' := by
  have chars := congrArg String.toList h
  cases function <;> cases function' <;>
    simp [Aggregate.name, String.toList_append] at chars <;>
    exact ⟨rfl, String.toList_inj.1 chars⟩

end Plan

end GuardedQuery
