import GuardedQuery.Proofs.Script.Runs

/-! Which rows a run changes. A row may be changed into itself, so the stores before and after a run
do not tell; the calls of the run do. -/

namespace GuardedQuery

namespace Store

/-- The numbers of the rows of a model to which a call writes. -/
def updatedBy (s : Store) (model : String) : Call → List Nat
  | .updateRow name key _ => if name = model then ((s.table model).number? key).toList else []
  | .updateWhere sel _ =>
    if sel.model = model then
      ((s.selectKeys sel).toOption.getD []).filterMap (s.table model).number?
    else []
  | _ => []

theorem updatedBy_of_not_isWrite {s : Store} {model : String} {c : Call} (h : c.isWrite = false) :
    s.updatedBy model c = [] := by
  cases c with
  | select | count | aggregate | related => rfl
  | insert | insertMany | updateRow | updateWhere | deleteWhere => cases h

end Store

namespace Script
variable {α β : Type} {model : String} {s after : Store} {touched : List Nat}

/-- The numbers of the rows of a model that a run changes. -/
def updated (model : String) : Script α → Store → List Nat
  | done _, _ => []
  | call c next, s =>
    s.updatedBy model c ++
      match s.answer c with
      | (.ok reply, s) => (next reply).updated model s
      | (.error _, _) => []

theorem updated_of_reads {script : Script α} (reads : script.Asks fun c => c.isWrite = false) :
    script.updated model s = [] := by
  induction script generalizing s with
  | done result => rfl
  | call c next ih =>
    rw [Script.updated, Store.updatedBy_of_not_isWrite reads.1]
    split
    · exact ih _ (reads.2 _)
    · rfl

theorem updated_bind {script : Script α} {next : α → Script β} {a : α} {between : Store}
    (ran : script.run s = (.ok a, between)) :
    (script.bind next).updated model s =
      script.updated model s ++ (next a).updated model between := by
  induction script generalizing s with
  | done result =>
    cases ran
    rfl
  | call c rest ih =>
    rw [run] at ran
    rw [bind, Script.updated, Script.updated]
    rcases answered : s.answer c with ⟨e | reply, further⟩ <;> rw [answered] at ran
    · cases ran
    · rw [List.append_assoc]
      exact congrArg _ (ih reply ran)

/-- A run has succeeded and has changed the rows of some numbers. -/
structure Comes (script : Script α) (model : String) (s : Store) (a : α) (after : Store)
    (touched : List Nat) : Prop where
  ran : script.run s = (.ok a, after)
  updates : script.updated model s = touched

theorem comes_check {outcome : Except Error α} {next : α → Script β} {b : β}
    (h : ((liftM outcome : Script α) >>= next).Comes model s b after touched) :
    ∃ a, outcome = .ok a ∧ (next a).Comes model s b after touched := by
  obtain ⟨a, rfl, ran⟩ := run_check_ok h.ran
  exact ⟨a, rfl, ran, h.updates⟩

theorem comes_bind {script : Script α} {next : α → Script β} {b : β}
    (h : (script >>= next).Comes model s b after touched) :
    ∃ a between first others, script.Comes model s a between first ∧
      (next a).Comes model between b after others ∧ touched = first ++ others := by
  obtain ⟨a, between, first, further⟩ := run_bind_ok h.ran
  exact ⟨a, between, _, _, ⟨first, rfl⟩, ⟨further, rfl⟩,
    h.updates.symm.trans (updated_bind first)⟩

theorem comes_reads {script : Script α} {next : α → Script β} {b : β}
    (reads : script.Asks fun c => c.isWrite = false)
    (h : (script >>= next).Comes model s b after touched) :
    ∃ a, script.run s = (.ok a, s) ∧ (next a).Comes model s b after touched := by
  obtain ⟨a, between, first, others, before, further, rfl⟩ := comes_bind h
  have kept := run_reads (s := s) reads
  rw [before.ran] at kept
  obtain rfl : between = s := kept
  obtain rfl : first = [] := before.updates.symm.trans (updated_of_reads reads)
  exact ⟨a, before.ran, further⟩

theorem comes_request {c : Store.Call} {reply : c.Reply}
    (h : (request c).Comes model s reply after touched) :
    s.answer c = (.ok reply, after) ∧ touched = s.updatedBy model c := by
  obtain ⟨ran, updates⟩ := h
  rw [run_request] at ran
  refine ⟨ran, updates.symm.trans ?_⟩
  rw [request, Script.updated, ran]
  exact List.append_nil _

/-- A call that the store answers by a write of its own. -/
theorem comes_settled {c : Store.Call} {next : c.Reply → Script β} {b : β}
    {write : Except Store.Error c.Reply × Store} (settled : s.answer c = Store.settle write)
    (h : (request c >>= next).Comes model s b after touched) :
    ∃ reply between others, write = (.ok reply, between) ∧
      (next reply).Comes model between b after others ∧
      touched = s.updatedBy model c ++ others := by
  obtain ⟨reply, between, first, others, called, further, rfl⟩ := comes_bind h
  obtain ⟨done, rfl⟩ := comes_request called
  rw [settled, Store.settle_ok_iff] at done
  exact ⟨reply, between, others, done, further, rfl⟩

theorem comes_pure {a b : α} (h : (pure a : Script α).Comes model s b after touched) :
    b = a ∧ after = s ∧ touched = [] := by
  obtain ⟨ran, updates⟩ := h
  cases ran
  exact ⟨rfl, rfl, updates.symm⟩

end Script

end GuardedQuery
