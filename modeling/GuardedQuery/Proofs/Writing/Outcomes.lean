import GuardedQuery.Proofs.Store.Frames
import GuardedQuery.Proofs.Writing.Instance

/-! What the writing operations come to. Each of them writes at most once: it inserts prepared rows,
applies the changes that prepared data stands for, or removes rows, always of the model of its plan.
`Plan.Writes` lists these writes with what has been checked before them and with the events that are
due, and `Plan.Effect` what they do to a store. Whatever is proved of all writing operations starts
from the two. -/

namespace GuardedQuery

/-- The action that an operation needs to insert rows. -/
def Operation.insertion : Operation → Action
  | .bulkCreate => .bulkCreate
  | _ => .create

namespace Plan
variable {p : Plan} {s after : Store} {w : Written}

/-- The writes of a plan: what a store becomes, and the events that tell of it. -/
inductive Writes (p : Plan) (s : Store) : Store → List Event → Prop where
  | nothing : p.Writes s s []
  | inserted {data row stored : Row} {after : Store}
      (allowed : p.access.requireAction p.name p.query.operation.insertion = .ok ())
      (made : p.access.newRow p.name data = .ok row)
      (done : s.insert p.name row = (.ok stored, after)) :
      p.Writes s after (p.eventsOf .create [p.keyOf stored])
  | insertedAll {items rows stored : List Row} {after : Store}
      (allowed : p.access.requireAction p.name p.query.operation.insertion = .ok ())
      (made : items.mapM (p.access.newRow p.name) = .ok rows)
      (done : s.insertMany p.name rows = (.ok stored, after)) :
      p.Writes s after (p.eventsOf .bulkCreate (stored.map p.keyOf))
  | updated {data : Row} {changes : Changes} {keys : List Value} {after : Store}
      (allowed : p.access.requireAction p.name .update = .ok ())
      (sends : p.Sends data changes)
      (done : s.updateWhere p.selection.whole changes = (.ok keys, after)) :
      p.Writes s after (p.eventsOf .bulkUpdate keys)
  | changed {row data now : Row} {changes : Changes} {after : Store}
      (allowed : p.access.requireAction p.name .update = .ok ())
      (sends : p.Sends data changes)
      (done : s.updateRow p.name (p.keyOf row) changes = (.ok now, after)) :
      p.Writes s after (p.eventsOf .update [p.keyOf row])
  | deleted {keys : List Value} {after : Store}
      (allowed : p.access.requireAction p.name .delete = .ok ())
      (done : s.deleteWhere p.selection.whole = (.ok keys, after)) :
      p.Writes s after (p.eventsOf .bulkDelete keys)
  | removed {row : Row} {keys : List Value} {after : Store}
      (allowed : p.access.requireAction p.name .delete = .ok ())
      (done : s.deleteWhere ((Selection.ofModel p.name).withKeys [p.keyOf row]) =
        (.ok keys, after)) :
      p.Writes s after (p.eventsOf .delete keys)

/-- What is shown after a write leaves the store as the write has left it. -/
theorem run_present_ok {β : Type} {row : Row} {next : Value → Script β} {b : β}
    (ran : (p.present row >>= next).run s = (.ok b, after)) :
    ∃ shown, (next shown).run s = (.ok b, after) := by
  obtain ⟨shown, _, ran⟩ := Script.run_reads_ok
    (Access.asks_present (fun _ _ _ => rfl) _ _ row) ran
  exact ⟨shown, ran⟩

theorem run_presentAll_ok {β : Type} {rows : List Row} {next : Value → Script β} {b : β}
    (ran : (p.presentAll rows >>= next).run s = (.ok b, after)) :
    ∃ shown, (next shown).run s = (.ok b, after) := by
  obtain ⟨shown, _, ran⟩ := Script.run_reads_ok
    (Access.asks_presentAll (fun _ _ _ => rfl) _ _ rows) ran
  exact ⟨shown, ran⟩

theorem writes_of_create
    (allowed : p.access.requireAction p.name p.query.operation.insertion = .ok ())
    (ran : p.create.run s = (.ok w, after)) : p.Writes s after w.events := by
  unfold create at ran
  obtain ⟨data, _, ran⟩ := Script.run_check_ok ran
  obtain ⟨row, made, ran⟩ := Script.run_check_ok ran
  obtain ⟨stored, between, done, ran⟩ := Script.run_settled_ok rfl ran
  obtain ⟨shown, ran⟩ := run_present_ok ran
  cases ran
  exact .inserted allowed made done

theorem writes_of_bulkCreate
    (allowed : p.access.requireAction p.name p.query.operation.insertion = .ok ())
    (ran : p.bulkCreate.run s = (.ok w, after)) : p.Writes s after w.events := by
  unfold bulkCreate at ran
  obtain ⟨items, _, ran⟩ := Script.run_check_ok ran
  obtain ⟨rows, made, ran⟩ := Script.run_check_ok ran
  obtain ⟨stored, between, done, ran⟩ := Script.run_settled_ok rfl ran
  obtain ⟨shown, ran⟩ := run_presentAll_ok ran
  cases ran
  exact .insertedAll allowed made done

theorem writes_of_update (allowed : p.access.requireAction p.name .update = .ok ())
    (ran : p.update.run s = (.ok w, after)) : p.Writes s after w.events := by
  unfold update at ran
  obtain ⟨data, _, ran⟩ := Script.run_check_ok ran
  obtain ⟨prepared, kept, ran⟩ := Script.run_check_ok ran
  obtain ⟨changes, made, ran⟩ := Script.run_check_ok ran
  obtain ⟨rows, _, ran⟩ := Script.run_select_ok ran
  obtain ⟨_, _, ran⟩ := Script.run_check_ok ran
  obtain ⟨keys, between, done, ran⟩ := Script.run_call_ok ran
  obtain ⟨found, _, ran⟩ := Script.run_select_ok ran
  obtain ⟨shown, _, ran⟩ := Script.run_reads_ok
    (Access.asks_presentAll (fun _ _ _ => rfl) _ _ found) ran
  cases ran
  exact .updated allowed ⟨prepared, kept, made⟩ done

theorem writes_of_delete (allowed : p.access.requireAction p.name .delete = .ok ())
    (ran : p.delete.run s = (.ok w, after)) : p.Writes s after w.events := by
  unfold delete at ran
  obtain ⟨rows, _, ran⟩ := Script.run_select_ok ran
  obtain ⟨_, _, ran⟩ := Script.run_check_ok ran
  obtain ⟨keys, between, done, ran⟩ := Script.run_settled_ok rfl ran
  cases ran
  exact .deleted allowed done

theorem writes_of_updateInstance (allowed : p.access.requireAction p.name .update = .ok ())
    (ran : p.updateInstance.run s = (.ok w, after)) : p.Writes s after w.events := by
  unfold updateInstance at ran
  obtain ⟨row, _, ran⟩ := Script.run_reads_ok asks_target ran
  obtain ⟨_, _, ran⟩ := Script.run_check_ok ran
  obtain ⟨data, _, ran⟩ := Script.run_check_ok ran
  obtain ⟨now, between, changed, ran⟩ := Script.run_bind_ok ran
  obtain ⟨changes, sends, done⟩ := change_ok changed
  obtain ⟨shown, ran⟩ := run_present_ok ran
  cases ran
  exact .changed allowed sends done

theorem writes_of_deleteInstance (allowed : p.access.requireAction p.name .delete = .ok ())
    (ran : p.deleteInstance.run s = (.ok w, after)) : p.Writes s after w.events := by
  unfold deleteInstance at ran
  obtain ⟨row, _, ran⟩ := Script.run_reads_ok asks_target ran
  obtain ⟨_, _, ran⟩ := Script.run_check_ok ran
  obtain ⟨keys, between, done, ran⟩ := Script.run_settled_ok rfl ran
  cases ran
  exact .removed allowed done

/-- A miss needs a further action, which the operation checks for itself. -/
theorem writes_of_createMissing {row : Row} (single : p.query.operation.insertion = .create)
    (ran : p.createMissing.run s = (.ok row, after)) :
    p.Writes s after (p.eventsOf .create [p.keyOf row]) := by
  unfold createMissing at ran
  obtain ⟨_, allowed, ran⟩ := Script.run_check_ok ran
  obtain ⟨made, prepared, ran⟩ := Script.run_check_ok ran
  rw [Script.insert, Script.run_request] at ran
  exact .inserted (by rwa [single]) prepared (Store.settle_ok_iff.1 ran)

/-- A row is found, shown and left as it is, or a new one is made and shown. -/
theorem getOrCreate_cases (ran : p.getOrCreate.run s = (.ok w, after)) :
    (∃ row shown, p.lookUp.run s = (.ok (some row), s) ∧ p.requireRow row .read = .ok () ∧
        (p.present row).run s = (.ok shown, s) ∧ after = s ∧
        w = ⟨(Response.ofData shown .row).withFlag "created" (.bool false), []⟩) ∨
      ∃ row shown, p.lookUp.run s = (.ok none, s) ∧ p.createMissing.run s = (.ok row, after) ∧
        (p.present row).run after = (.ok shown, after) ∧
        w = ⟨(Response.ofData shown .row).withFlag "created" (.bool true),
          p.eventsOf .create [p.keyOf row]⟩ := by
  have reads (row : Row) : (p.present row).Asks fun c => c.isWrite = false :=
    Access.asks_present (fun _ _ _ => rfl) _ _ row
  unfold getOrCreate at ran
  obtain ⟨found, looked, ran⟩ := Script.run_reads_ok asks_lookUp ran
  cases found with
  | some row =>
    obtain ⟨_, readable, ran⟩ := Script.run_check_ok ran
    obtain ⟨shown, shows, ran⟩ := Script.run_reads_ok (reads row) ran
    cases ran
    exact .inl ⟨row, shown, looked, readable, shows, rfl, rfl⟩
  | none =>
    obtain ⟨row, between, created, ran⟩ := Script.run_bind_ok ran
    obtain ⟨shown, shows, ran⟩ := Script.run_reads_ok (reads row) ran
    cases ran
    exact .inr ⟨row, shown, looked, created, shows, rfl⟩

theorem writes_of_getOrCreate (single : p.query.operation.insertion = .create)
    (ran : p.getOrCreate.run s = (.ok w, after)) : p.Writes s after w.events := by
  rcases getOrCreate_cases ran with ⟨row, shown, _, _, _, rfl, rfl⟩ |
    ⟨row, shown, _, created, _, rfl⟩
  · exact .nothing
  · exact writes_of_createMissing single created

theorem writes_of_updateOrCreate (single : p.query.operation.insertion = .create)
    (allowed : p.access.requireAction p.name .update = .ok ())
    (ran : p.updateOrCreate.run s = (.ok w, after)) : p.Writes s after w.events := by
  unfold updateOrCreate at ran
  obtain ⟨found, _, ran⟩ := Script.run_reads_ok asks_lookUp ran
  cases found with
  | some row =>
    obtain ⟨_, _, ran⟩ := Script.run_check_ok ran
    obtain ⟨now, between, changed, ran⟩ := Script.run_bind_ok ran
    obtain ⟨changes, sends, done⟩ := change_ok changed
    obtain ⟨shown, ran⟩ := run_present_ok ran
    cases ran
    exact .changed allowed sends done
  | none =>
    obtain ⟨row, between, created, ran⟩ := Script.run_bind_ok ran
    obtain ⟨shown, ran⟩ := run_present_ok ran
    cases ran
    exact writes_of_createMissing single created

/-- Whatever writes, writes once and has been allowed to. -/
theorem writes_of_run {e : Engine} {script : Script Written}
    (allowed : p.access.requireAction p.name p.query.operation.action = .ok ())
    (writing : e.handling p = .writing script) (ran : script.run s = (.ok w, after)) :
    p.Writes s after w.events := by
  rw [Engine.handling] at writing
  split at writing <;> rename_i op <;> cases writing <;> rw [op] at allowed
  · exact writes_of_create (by rwa [op]) ran
  · exact writes_of_bulkCreate (by rwa [op]) ran
  · exact writes_of_update allowed ran
  · exact writes_of_delete allowed ran
  · exact writes_of_updateInstance allowed ran
  · exact writes_of_deleteInstance allowed ran
  · exact writes_of_getOrCreate (by rw [op]; rfl) ran
  · exact writes_of_updateOrCreate (by rw [op]; rfl) allowed ran

/-! Effects -/

/-- What a write has done to a store, and what it needed for it. -/
inductive Effect (p : Plan) (s after : Store) : Prop where
  | nothing (same : after = s)
  | adding {m : Model} {rows : List Row}
      (allowed : p.access.requireAction p.name p.query.operation.insertion = .ok ())
      (known : s.model p.name = .ok m)
      (made : ∀ row ∈ rows, ∃ data, p.access.newRow p.name data = .ok row)
      (grows : s.Extends after p.name m.schema.key rows)
  | changing {data : Row} {changes : Changes}
      (allowed : p.access.requireAction p.name .update = .ok ())
      (sends : p.Sends data changes)
      (alters : s.Amends after p.name fun column => column ∈ changes.names)
  | removing (allowed : p.access.requireAction p.name .delete = .ok ())
      (shrinks : s.Drops after p.name)

theorem Writes.effect {events : List Event} (about : p.selection.model = p.name)
    (writes : p.Writes s after events) : p.Effect s after := by
  cases writes with
  | nothing => exact .nothing rfl
  | inserted allowed made done =>
    obtain ⟨m, known, grows⟩ := Store.insert_extends done
    refine .adding allowed known (fun row mem => ?_) grows
    rw [List.mem_singleton.1 mem]
    exact ⟨_, made⟩
  | insertedAll allowed made done =>
    obtain ⟨m, known, grows⟩ := Store.insertMany_extends done
    refine .adding allowed known (fun row mem => ?_) grows
    obtain ⟨data, _, prepared⟩ := Checks.exists_of_mapM_ok made mem
    exact ⟨data, prepared⟩
  | updated allowed sends done =>
    have alters := Store.updateRows_amends (Store.updateWhere_ok done)
    rw [Selection.whole_model, about] at alters
    exact .changing allowed sends alters
  | changed allowed sends done => exact .changing allowed sends (Store.updateRow_amends done)
  | deleted allowed done =>
    have shrinks := Store.deleteWhere_drops done
    rw [Selection.whole_model, about] at shrinks
    exact .removing allowed shrinks
  | removed allowed done => exact .removing allowed (Store.deleteWhere_drops done)

/-- Only the table of the model of the plan can have changed. -/
theorem Effect.others (effect : p.Effect s after) {other : String} (ne : other ≠ p.name) :
    after.table other = s.table other := by
  cases effect with
  | nothing same => rw [same]
  | adding _ _ _ grows => exact grows.others other ne
  | changing _ _ alters => exact alters.others other ne
  | removing _ shrinks => exact shrinks.others other ne

/-! Events -/

theorem eventsOf_eq_nil {kind : EventKind} {keys : List Value}
    (silent : p.eventsOf kind keys = []) : keys = [] := by
  unfold eventsOf Event.ofWrite at silent
  split at silent
  · rename_i none
    exact List.isEmpty_iff.1 none
  · have none := List.map_eq_nil_iff.1 silent
    unfold Event.audiences at none
    split at none <;> cases none

/-- A write that no event tells of has changed no table. -/
theorem Writes.table_of_silent {events : List Event} (writes : p.Writes s after events)
    (silent : events = []) (other : String) : after.table other = s.table other := by
  have same {t : Store.Table} {model : String} (unchanged : t = s.table model) :
      (s.withTable model t).table other = s.table other := by
    by_cases here : other = model
    · rw [here, Store.table_withTable_self, unchanged]
    · exact Store.table_withTable_of_ne t here
  cases writes with
  | nothing => rfl
  | inserted => cases eventsOf_eq_nil silent
  | changed => cases eventsOf_eq_nil silent
  | insertedAll _ _ done =>
    obtain rfl := List.map_eq_nil_iff.1 (eventsOf_eq_nil silent)
    obtain ⟨t, rfl, unchanged⟩ := Store.insertMany_nil done
    exact same unchanged
  | updated _ _ done =>
    obtain rfl := eventsOf_eq_nil silent
    obtain rfl : s = after := by simpa [Store.updateRows] using Store.updateWhere_ok done
    rfl
  | deleted _ done | removed _ done =>
    obtain rfl := eventsOf_eq_nil silent
    rw [Store.deleteWhere_ok done]
    exact same rfl

end Plan

namespace Engine
variable {e : Engine} {st st' : State} {model : String} {q : Query} {request : Request}
  {r : Response} {deliveries : List Delivery}

/-- The operations that may change the store are those that have a script which writes. -/
theorem isMutation_of_handling {p : Plan} :
    p.query.operation.isMutation = true ↔ ∃ script, e.handling p = .writing script := by
  rw [handling]
  cases p.query.operation <;> simp [Operation.isMutation]

theorem reading_of_not_isMutation {p : Plan} (reads : p.query.operation.isMutation = false) :
    ∃ run, e.handling p = .reading run := by
  rw [handling]
  cases h : p.query.operation <;> simp_all [Operation.isMutation]

/-- A request that is answered has read only, or it has written within a transaction. -/
theorem effect_of_executed (executed : e.execute model q request st = (⟨.ok r, deliveries⟩, st')) :
    ∃ p, (e.accessOf request).Plans model q p ∧
      (st'.store = st.store ∨
        ∃ after, p.Effect st.store.begin after ∧ st'.store = after.commit) := by
  obtain ⟨p, planned, wrote⟩ := written_of_executed executed
  have plans := Access.plans_of_plan planned
  obtain rfl : q = p.query := plans.asked.symm
  refine ⟨p, plans, ?_⟩
  cases mutates : p.query.operation.isMutation with
  | true =>
    obtain ⟨script, writing⟩ := (isMutation_of_handling (e := e)).1 mutates
    obtain ⟨written, after, ran, _, committed⟩ := wrote script writing
    have writes := Plan.writes_of_run plans.permitted writing ran
    exact .inr ⟨after, writes.effect plans.about, committed.symm⟩
  | false =>
    obtain ⟨run, reading⟩ := reading_of_not_isMutation (e := e) mutates
    have kept := Run.store_of_asks (fun _ => not_isWrite_of_readsWithin)
      (p.asks_handling reading) st
    simp only [execute, planned, runPlan, reading] at executed
    obtain ⟨_, rfl⟩ := Prod.mk.inj executed
    exact .inl kept

end Engine

end GuardedQuery
