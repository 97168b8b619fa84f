import GuardedQuery.Formula
import GuardedQuery.Proofs.Checks

/-! The columns that a formula depends on. They are the fields that it refers to: what else a row
holds has no part in the value, nor in the fault that is found first. One of them without a number
leaves the formula without a value. -/

namespace GuardedQuery

namespace Formula
variable {row other : Row} {name : String}

theorem column_congr (agree : row.get? name = other.get? name) :
    column row name = column other name := by
  rw [column, column, agree]

/-- Null stands in a column or none is there. -/
theorem column_eq_none_iff :
    column row name = .ok none ↔ row.get? name = none ∨ row.get? name = some .null := by
  rw [column]
  split <;> simp_all

/-! By induction on the formula, at once for all formulas that are the arguments of a call. -/

mutual

theorem eval_congr : ∀ {f : Formula}, (∀ name ∈ f.fields, row.get? name = other.get? name) →
    f.eval row = f.eval other
  | .field name, agree => column_congr (agree name (List.mem_singleton_self name))
  | .constant _, _ => rfl
  | .binary op left right, agree => by
    rw [fields, List.forall_mem_append] at agree
    rw [eval, eval, eval_congr agree.1, eval_congr agree.2]
  | .call fn args, agree => by
    rw [eval, eval, evalAll_congr agree]

theorem evalAll_congr : ∀ {args : List Formula},
    (∀ name ∈ listFields args, row.get? name = other.get? name) →
    evalAll row args = evalAll other args
  | [], _ => rfl
  | arg :: rest, agree => by
    rw [listFields, List.forall_mem_append] at agree
    rw [evalAll, evalAll, eval_congr agree.1, evalAll_congr agree.2]

end

mutual

/-- A formula has no value on a row where one of its columns is blank. A fault may come first. -/
theorem eval_of_blank (blank : column row name = .ok none) : ∀ {f : Formula} {v : Option Number},
    name ∈ f.fields → f.eval row = .ok v → v = none
  | .field column, v, mem, done => by
    obtain rfl := List.mem_singleton.1 mem
    exact Except.ok.inj (done.symm.trans blank)
  | .constant _, _, mem, _ => nomatch mem
  | .binary op left right, v, mem, done => by
    rw [eval] at done
    obtain ⟨a, madeL, done⟩ := Checks.bind_ok_iff.1 done
    obtain ⟨b, madeR, done⟩ := Checks.bind_ok_iff.1 done
    rw [fields] at mem
    rcases List.mem_append.1 mem with here | here
    · rw [eval_of_blank blank here madeL] at done
      exact (Checks.pure_ok_iff.1 done).symm
    · rw [eval_of_blank blank here madeR] at done
      cases a <;> exact (Checks.pure_ok_iff.1 done).symm
  | .call fn args, v, mem, done => by
    rw [eval] at done
    obtain ⟨values, each, done⟩ := Checks.bind_ok_iff.1 done
    rw [fields] at mem
    rw [evalAll_of_blank blank mem each] at done
    exact (Checks.pure_ok_iff.1 done).symm

theorem evalAll_of_blank (blank : column row name = .ok none) : ∀ {args : List Formula}
    {vs : Option (List Number)}, name ∈ listFields args → evalAll row args = .ok vs → vs = none
  | [], _, mem, _ => nomatch mem
  | arg :: rest, vs, mem, done => by
    rw [evalAll] at done
    obtain ⟨a, made, done⟩ := Checks.bind_ok_iff.1 done
    rw [listFields] at mem
    rcases List.mem_append.1 mem with here | here
    · rw [eval_of_blank blank here made] at done
      exact (Checks.pure_ok_iff.1 done).symm
    · cases a with
      | none => exact (Checks.pure_ok_iff.1 done).symm
      | some a =>
        obtain ⟨others, each, done⟩ := Checks.bind_ok_iff.1 done
        rw [evalAll_of_blank blank here each] at done
        exact (Checks.pure_ok_iff.1 done).symm

end

/-- Rows that agree on the fields that a formula refers to give it the same value or the same
fault. Where one of these fields is null or missing, there is no value but null. -/
theorem references_are_complete (f : Formula) :
    (∀ row other : Row, (∀ name ∈ f.references, row.get? name = other.get? name) →
      f.evaluate row = f.evaluate other) ∧
    ∀ row : Row,
      (∃ name ∈ f.references, row.get? name = none ∨ row.get? name = some .null) →
      ∀ v, f.evaluate row = .ok v → v = .null := by
  constructor
  · intro row other agree
    rw [evaluate, evaluate, eval_congr fun name mem => agree name (NameSet.mem_ofList.2 mem)]
  · rintro row ⟨name, mem, blank⟩ v done
    obtain ⟨result, evaluated, rfl⟩ := Checks.map_ok_iff.1 done
    rw [eval_of_blank (column_eq_none_iff.2 blank) (NameSet.mem_ofList.1 mem) evaluated]
    rfl

end Formula

namespace Invoices

/-- What is due: the price of all pieces less the discount, but no less than the fee. -/
def due : Formula :=
  .call .max [.field "fee",
    .binary .sub (.binary .mul (.field "price") (.field "pieces")) (.field "discount")]

def invoice (fee discount note : Value) : Row :=
  [("discount", discount), ("fee", fee), ("note", note), ("pieces", .int 3), ("price", .int 12)]

theorem get?_invoice (fee discount note note' : Value) : ∀ name ∈ due.references,
    (invoice fee discount note).get? name = (invoice fee discount note').get? name := by
  intro name mem
  have among : name ∈ ["fee", "price", "pieces", "discount"] := NameSet.mem_ofList.1 mem
  simp only [List.mem_cons, List.not_mem_nil, or_false] at among
  rcases among with rfl | rfl | rfl | rfl <;> rfl

/-- A note changes nothing about what is due, whether this is an amount or a fault, and nothing is
due while the discount is not known. -/
theorem notes_do_not_matter :
    due.evaluate (invoice (.int 5) (.int 6) (.str "paid")) = .ok (.int 30) ∧
    due.evaluate (invoice (.str "free") .null (.str "paid")) =
      due.evaluate (invoice (.str "free") .null .null) ∧
    (∃ name ∈ due.references, (invoice (.int 5) .null .null).get? name = none ∨
      (invoice (.int 5) .null .null).get? name = some .null) ∧
    ∀ v, due.evaluate (invoice (.int 5) .null .null) = .ok v → v = .null := by
  obtain ⟨complete, blank⟩ := Formula.references_are_complete due
  have amount : due.evaluate (invoice (.int 5) (.int 6) .null) = .ok (.int 30) := rfl
  have unknown : ∃ name ∈ due.references, (invoice (.int 5) .null .null).get? name = none ∨
      (invoice (.int 5) .null .null).get? name = some .null :=
    ⟨"discount", NameSet.mem_ofList.2 (by decide), .inr rfl⟩
  refine ⟨?_, complete _ _ (get?_invoice _ _ _ _), unknown, blank _ unknown⟩
  rw [complete _ _ (get?_invoice _ _ _ .null), amount]

end Invoices

end GuardedQuery
