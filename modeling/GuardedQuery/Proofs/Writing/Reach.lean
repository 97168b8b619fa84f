import GuardedQuery.Proofs.Writing.Instance

/-! What the writing operations cannot reach. Every write of a plan is about its own model, so the
tables of all other models stay as they are, wherever the operation ends and whether it succeeds or
fails. -/

namespace GuardedQuery

namespace Store

/-- The model whose rows a call writes. -/
def Call.target? : Call → Option String
  | insert model _ | insertMany model _ | updateRow model _ _ => some model
  | updateWhere sel _ | deleteWhere sel => some sel.model
  | select _ | count _ | aggregate .. | related .. => none

/-- A call that writes rows of one model at most. -/
def Call.WritesOnly (model : String) (c : Call) : Prop := ∀ target ∈ c.target?, target = model

theorem Call.writesOnly_of_not_isWrite {model : String} {c : Call} (reads : c.isWrite = false) :
    c.WritesOnly model := by
  cases c with
  | select | count | aggregate | related => exact nofun
  | insert | insertMany | updateRow | updateWhere | deleteWhere => cases reads

theorem Call.writesOnly_of_target {model : String} {c : Call} (target : c.target? = some model) :
    c.WritesOnly model := by
  intro other there
  rw [target] at there
  exact (Option.some.inj there).symm

variable {s : Store} {model other : String}

theorem table_updateRow_of_ne (ne : other ≠ model) (key : Value) (changes : Changes) :
    (s.updateRow model key changes).2.table other = s.table other := by
  rw [updateRow]
  split
  · rfl
  · split
    · rfl
    · exact table_withTable_of_ne _ ne

theorem table_updateRows_of_ne (ne : other ≠ model) (changes : Changes) (keys : List Value)
    (s : Store) : (updateRows model changes keys s).2.table other = s.table other := by
  induction keys generalizing s with
  | nil => rfl
  | cons key rest ih =>
    have first : (s.updateRow model key changes).2.table other = s.table other :=
      table_updateRow_of_ne ne key changes
    rw [updateRows]
    split
    · rename_i failed
      rwa [failed] at first
    · rename_i done
      rw [done] at first
      exact (ih _).trans first

/-- A call leaves the tables of all models alone that it does not write. -/
theorem table_answer_of_ne {c : Call} (only : c.WritesOnly model) (ne : other ≠ model) :
    (s.answer c).2.table other = s.table other := by
  have apart (target : String) (there : c.target? = some target) : other ≠ target :=
    only target there ▸ ne
  cases c with
  | select | count | aggregate | related => rfl
  | insert target row =>
    change (s.insert target row).2.table other = s.table other
    rw [insert]
    split
    · rfl
    · exact table_withTable_of_ne _ (apart _ rfl)
  | insertMany target rows =>
    change (s.insertMany target rows).2.table other = s.table other
    rw [insertMany]
    split
    · rfl
    · split
      · rfl
      · exact table_withTable_of_ne _ (apart _ rfl)
  | updateRow target key changes => exact table_updateRow_of_ne (apart _ rfl) key changes
  | updateWhere sel changes =>
    change (s.updateWhere sel changes).2.table other = s.table other
    rw [updateWhere]
    split
    · rfl
    · exact table_updateRows_of_ne (apart _ rfl) changes _ s
  | deleteWhere sel =>
    change (s.deleteWhere sel).2.table other = s.table other
    rw [deleteWhere]
    split
    · rfl
    · exact table_withTable_of_ne _ (apart _ rfl)

end Store

theorem Script.table_run_of_ne {α : Type} {script : Script α} {model other : String}
    (asks : script.Asks (Store.Call.WritesOnly model)) (ne : other ≠ model) (s : Store) :
    (script.run s).2.table other = s.table other := by
  induction script generalizing s with
  | done result => rfl
  | call c next ih =>
    have step := Store.table_answer_of_ne (s := s) asks.1 ne
    rw [run]
    rcases answered : s.answer c with ⟨e | reply, between⟩ <;> rw [answered] at step
    · exact step
    · exact (ih reply (asks.2 reply) between).trans step

namespace Plan
open Store.Call
variable {p : Plan}

theorem reads_present (row : Row) : (p.present row).Asks (WritesOnly p.name) :=
  (Access.asks_present (fun _ _ _ => rfl) _ _ row).mono fun _ => writesOnly_of_not_isWrite

theorem reads_presentAll (rows : List Row) : (p.presentAll rows).Asks (WritesOnly p.name) :=
  (Access.asks_presentAll (fun _ _ _ => rfl) _ _ rows).mono fun _ => writesOnly_of_not_isWrite

theorem asks_change (key : Value) (data : Row) : (p.change key data).Asks (WritesOnly p.name) :=
  Script.asks_check fun _ _ => Script.asks_check fun _ _ =>
    Script.asks_request (writesOnly_of_target rfl)

theorem asks_createMissing : p.createMissing.Asks (WritesOnly p.name) :=
  Script.asks_check fun _ _ => Script.asks_check fun _ _ =>
    Script.asks_request (writesOnly_of_target rfl)

theorem asks_create : p.create.Asks (WritesOnly p.name) := by
  refine Script.asks_check fun data _ => Script.asks_check fun row _ => ?_
  refine Script.asks_bind (Script.asks_request (writesOnly_of_target rfl)) fun stored => ?_
  exact Script.asks_bind (reads_present stored) fun _ => Script.asks_done _

theorem asks_bulkCreate : p.bulkCreate.Asks (WritesOnly p.name) := by
  refine Script.asks_check fun items _ => Script.asks_check fun rows _ => ?_
  refine Script.asks_bind (Script.asks_request (writesOnly_of_target rfl)) fun stored => ?_
  exact Script.asks_bind (reads_presentAll stored) fun _ => Script.asks_done _

theorem asks_update (about : p.selection.model = p.name) : p.update.Asks (WritesOnly p.name) := by
  refine Script.asks_check fun data _ => Script.asks_check fun prepared _ => ?_
  refine Script.asks_check fun changes _ => ?_
  refine Script.asks_bind (Script.asks_request (writesOnly_of_not_isWrite rfl)) fun rows => ?_
  refine Script.asks_check fun _ _ => ?_
  refine Script.asks_bind (Script.asks_request (writesOnly_of_target ?_)) fun keys => ?_
  · exact congrArg some about
  refine Script.asks_bind (Script.asks_request (writesOnly_of_not_isWrite rfl)) fun found => ?_
  refine Script.asks_bind ?_ fun _ => Script.asks_done _
  exact (Access.asks_presentAll (fun _ _ _ => rfl) _ _ found).mono fun _ =>
    writesOnly_of_not_isWrite

theorem asks_delete (about : p.selection.model = p.name) : p.delete.Asks (WritesOnly p.name) := by
  refine Script.asks_bind (Script.asks_request (writesOnly_of_not_isWrite rfl)) fun rows => ?_
  refine Script.asks_check fun _ _ => ?_
  refine Script.asks_bind (Script.asks_request (writesOnly_of_target ?_)) fun _ =>
    Script.asks_done _
  exact congrArg some about

theorem reads_target : p.target.Asks (WritesOnly p.name) :=
  asks_target.mono fun _ => writesOnly_of_not_isWrite

theorem reads_lookUp : p.lookUp.Asks (WritesOnly p.name) :=
  asks_lookUp.mono fun _ => writesOnly_of_not_isWrite

theorem asks_updateInstance : p.updateInstance.Asks (WritesOnly p.name) := by
  refine Script.asks_bind reads_target fun row => Script.asks_check fun _ _ => ?_
  refine Script.asks_check fun data _ => Script.asks_bind (asks_change _ _) fun updated => ?_
  exact Script.asks_bind (reads_present updated) fun _ => Script.asks_done _

theorem asks_deleteInstance : p.deleteInstance.Asks (WritesOnly p.name) := by
  refine Script.asks_bind reads_target fun row => Script.asks_check fun _ _ => ?_
  refine Script.asks_bind (Script.asks_request (writesOnly_of_target ?_)) fun _ =>
    Script.asks_done _
  exact congrArg some (Selection.withKeys_model p.name _)

theorem asks_getOrCreate : p.getOrCreate.Asks (WritesOnly p.name) := by
  refine Script.asks_bind reads_lookUp fun found => ?_
  cases found with
  | some row =>
    refine Script.asks_check fun _ _ => ?_
    exact Script.asks_bind (reads_present row) fun _ => Script.asks_done _
  | none =>
    refine Script.asks_bind asks_createMissing fun row => ?_
    exact Script.asks_bind (reads_present row) fun _ => Script.asks_done _

theorem asks_updateOrCreate : p.updateOrCreate.Asks (WritesOnly p.name) := by
  refine Script.asks_bind reads_lookUp fun found => ?_
  cases found with
  | some row =>
    refine Script.asks_check fun _ _ => Script.asks_bind (asks_change _ _) fun updated => ?_
    exact Script.asks_bind (reads_present updated) fun _ => Script.asks_done _
  | none =>
    refine Script.asks_bind asks_createMissing fun row => ?_
    exact Script.asks_bind (reads_present row) fun _ => Script.asks_done _

/-- Whatever operation writes, it writes rows of the model of its plan only. -/
theorem asks_writing {e : Engine} {script : Script Written} (about : p.selection.model = p.name)
    (writing : e.handling p = .writing script) : script.Asks (WritesOnly p.name) := by
  rw [Engine.handling] at writing
  split at writing <;> cases writing
  · exact asks_create
  · exact asks_bulkCreate
  · exact asks_update about
  · exact asks_delete about
  · exact asks_updateInstance
  · exact asks_deleteInstance
  · exact asks_getOrCreate
  · exact asks_updateOrCreate

end Plan

end GuardedQuery
