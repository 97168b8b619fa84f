import GuardedQuery.Proofs.Script.Runs
import GuardedQuery.Proofs.Store.Indexed

/-! What a run cannot touch: the catalog of the store, and the tables that an open transaction has
saved. So rolling back brings all tables back as they were, wherever a script has failed. -/

namespace GuardedQuery

namespace Store
variable {s : Store}

theorem rollback_of_closed (closed : s.saved = none) : s.rollback = s := by
  cases s
  cases closed
  rfl

/-- What a call does within a transaction is undone when it is rolled back. -/
theorem rollback_answer (opened : s.saved ≠ none) (c : Call) :
    (s.answer c).2.rollback = s.rollback := by
  obtain ⟨tables, saved⟩ := Option.ne_none_iff_exists'.1 opened
  have works := s.works_answer c
  simp only [rollback, works.catalog, works.saved, saved, Option.getD_some]

end Store

namespace Script
variable {α : Type}

theorem catalog_run (script : Script α) (s : Store) : (script.run s).2.catalog = s.catalog :=
  script.holds_run (P := fun t => t.catalog = s.catalog)
    (fun t c same => (t.works_answer c).catalog.trans same) rfl

theorem saved_run (script : Script α) (s : Store) : (script.run s).2.saved = s.saved :=
  script.holds_run (P := fun t => t.saved = s.saved)
    (fun t c same => (t.works_answer c).saved.trans same) rfl

theorem rollback_run (script : Script α) {s : Store} (opened : s.saved ≠ none) :
    (script.run s).2.rollback = s.rollback := by
  obtain ⟨tables, saved⟩ := Option.ne_none_iff_exists'.1 opened
  simp only [Store.rollback, script.catalog_run, script.saved_run, saved, Option.getD_some]

/-- What a script has done within a transaction is undone as a whole. -/
theorem tables_rollback (script : Script α) (s : Store) :
    (script.run s.begin).2.rollback.tables = s.tables := by
  change (script.run s.begin).2.saved.getD _ = s.tables
  rw [script.saved_run]
  rfl

end Script

end GuardedQuery
