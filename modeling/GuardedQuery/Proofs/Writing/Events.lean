import GuardedQuery.Proofs.Script.Updates
import GuardedQuery.Proofs.Store.Mirrors
import GuardedQuery.Proofs.Writing.Actions

/-! What events tell. A mutation that succeeds hands over events whose keys are those of the rows it
has inserted, changed or removed, each once; anything else hands over nothing. -/

namespace GuardedQuery

/-- What an event tells of its rows. -/
def EventKind.change : EventKind → RowChange
  | .create | .bulkCreate => .inserted
  | .update | .bulkUpdate => .updated
  | .delete | .bulkDelete => .removed

/-- Whether the operation writes to any number of rows at once. -/
def Operation.isBulk : Operation → Bool
  | .bulkCreate | .update | .delete => true
  | _ => false

namespace Plan
variable {p : Plan} {s after : Store} {w : Written} {touched : List Nat} {events : List Event}

/-- What a run of a mutation comes to, with the numbers of the rows that it has changed and the
events that tell of it. -/
inductive Tells (p : Plan) (s : Store) : Store → List Nat → List Event → Prop where
  | nothing : p.Tells s s [] []
  | inserted {row stored : Row} {after : Store} (single : p.query.operation.isBulk = false)
      (done : s.insert p.name row = (.ok stored, after)) :
      p.Tells s after [] (p.eventsOf .create [p.keyOf stored])
  | insertedAll {rows stored : List Row} {after : Store} (bulk : p.query.operation.isBulk = true)
      (done : s.insertMany p.name rows = (.ok stored, after)) :
      p.Tells s after [] (p.eventsOf .bulkCreate (stored.map p.keyOf))
  | updated {changes : Changes} {keys : List Value} {after : Store}
      (bulk : p.query.operation.isBulk = true)
      (done : s.updateWhere p.selection.whole changes = (.ok keys, after)) :
      p.Tells s after (s.updatedBy p.name (.updateWhere p.selection.whole changes))
        (p.eventsOf .bulkUpdate keys)
  | changed {row now : Row} {changes : Changes} {after : Store}
      (single : p.query.operation.isBulk = false) (stored : s.Stored p.selection.model row)
      (done : s.updateRow p.name (p.keyOf row) changes = (.ok now, after)) :
      p.Tells s after (s.updatedBy p.name (.updateRow p.name (p.keyOf row) changes))
        (p.eventsOf .update [p.keyOf row])
  | deleted {keys : List Value} {after : Store} (bulk : p.query.operation.isBulk = true)
      (done : s.deleteWhere p.selection.whole = (.ok keys, after)) :
      p.Tells s after [] (p.eventsOf .bulkDelete keys)
  | removed {row : Row} {keys : List Value} {after : Store}
      (single : p.query.operation.isBulk = false)
      (done : s.deleteWhere ((Selection.ofModel p.name).withKeys [p.keyOf row]) =
        (.ok keys, after)) :
      p.Tells s after [] (p.eventsOf .delete keys)

/-- Showing a row after a write changes nothing. -/
theorem comes_present {β : Type} {row : Row} {next : Value → Script β} {b : β} {model : String}
    (h : (p.present row >>= next).Comes model s b after touched) :
    ∃ shown, (next shown).Comes model s b after touched := by
  obtain ⟨shown, _, h⟩ := Script.comes_reads (Access.asks_present (fun _ _ _ => rfl) _ _ row) h
  exact ⟨shown, h⟩

theorem comes_presentAll {β : Type} {rows : List Row} {next : Value → Script β} {b : β}
    {model : String} (h : (p.presentAll rows >>= next).Comes model s b after touched) :
    ∃ shown, (next shown).Comes model s b after touched := by
  obtain ⟨shown, _, h⟩ := Script.comes_reads (Access.asks_presentAll (fun _ _ _ => rfl) _ _ rows) h
  exact ⟨shown, h⟩

theorem tells_of_create (single : p.query.operation.isBulk = false)
    (comes : p.create.Comes p.name s w after touched) : p.Tells s after touched w.events := by
  unfold create at comes
  obtain ⟨data, _, comes⟩ := Script.comes_check comes
  obtain ⟨row, _, comes⟩ := Script.comes_check comes
  obtain ⟨stored, between, others, done, further, rfl⟩ := Script.comes_settled rfl comes
  obtain ⟨shown, further⟩ := comes_present further
  obtain ⟨rfl, rfl, rfl⟩ := Script.comes_pure further
  exact .inserted single done

theorem tells_of_bulkCreate (bulk : p.query.operation.isBulk = true)
    (comes : p.bulkCreate.Comes p.name s w after touched) : p.Tells s after touched w.events := by
  unfold bulkCreate at comes
  obtain ⟨items, _, comes⟩ := Script.comes_check comes
  obtain ⟨rows, _, comes⟩ := Script.comes_check comes
  obtain ⟨stored, between, others, done, further, rfl⟩ := Script.comes_settled rfl comes
  obtain ⟨shown, further⟩ := comes_presentAll further
  obtain ⟨rfl, rfl, rfl⟩ := Script.comes_pure further
  exact .insertedAll bulk done

theorem tells_of_update (bulk : p.query.operation.isBulk = true)
    (comes : p.update.Comes p.name s w after touched) : p.Tells s after touched w.events := by
  unfold update at comes
  obtain ⟨data, _, comes⟩ := Script.comes_check comes
  obtain ⟨prepared, _, comes⟩ := Script.comes_check comes
  obtain ⟨changes, _, comes⟩ := Script.comes_check comes
  obtain ⟨rows, _, comes⟩ := Script.comes_reads (Script.asks_request rfl) comes
  obtain ⟨_, _, comes⟩ := Script.comes_check comes
  obtain ⟨keys, between, first, others, called, further, rfl⟩ := Script.comes_bind comes
  obtain ⟨done, rfl⟩ := Script.comes_request called
  obtain ⟨found, _, further⟩ := Script.comes_reads (Script.asks_request rfl) further
  obtain ⟨shown, _, further⟩ := Script.comes_reads
    (Access.asks_presentAll (fun _ _ _ => rfl) _ _ found) further
  obtain ⟨rfl, rfl, rfl⟩ := Script.comes_pure further
  rw [List.append_nil]
  exact .updated bulk done

theorem tells_of_delete (bulk : p.query.operation.isBulk = true)
    (comes : p.delete.Comes p.name s w after touched) : p.Tells s after touched w.events := by
  unfold delete at comes
  obtain ⟨rows, _, comes⟩ := Script.comes_reads (Script.asks_request rfl) comes
  obtain ⟨_, _, comes⟩ := Script.comes_check comes
  obtain ⟨keys, between, others, done, further, rfl⟩ := Script.comes_settled rfl comes
  obtain ⟨rfl, rfl, rfl⟩ := Script.comes_pure further
  exact .deleted bulk done

theorem comes_change {key : Value} {data now : Row}
    (comes : (p.change key data).Comes p.name s now after touched) :
    ∃ changes, s.updateRow p.name key changes = (.ok now, after) ∧
      touched = s.updatedBy p.name (.updateRow p.name key changes) := by
  unfold change at comes
  obtain ⟨prepared, _, comes⟩ := Script.comes_check comes
  obtain ⟨changes, _, comes⟩ := Script.comes_check comes
  obtain ⟨done, same⟩ := Script.comes_request comes
  exact ⟨changes, done, same⟩

theorem tells_of_updateInstance (single : p.query.operation.isBulk = false)
    (comes : p.updateInstance.Comes p.name s w after touched) :
    p.Tells s after touched w.events := by
  unfold updateInstance at comes
  obtain ⟨row, found, comes⟩ := Script.comes_reads asks_target comes
  obtain ⟨_, _, comes⟩ := Script.comes_check comes
  obtain ⟨data, _, comes⟩ := Script.comes_check comes
  obtain ⟨now, between, first, others, changed, further, rfl⟩ := Script.comes_bind comes
  obtain ⟨changes, done, rfl⟩ := comes_change changed
  obtain ⟨shown, further⟩ := comes_present further
  obtain ⟨rfl, rfl, rfl⟩ := Script.comes_pure further
  rw [List.append_nil]
  exact .changed single (target_ok found).1 done

theorem tells_of_deleteInstance (single : p.query.operation.isBulk = false)
    (comes : p.deleteInstance.Comes p.name s w after touched) :
    p.Tells s after touched w.events := by
  unfold deleteInstance at comes
  obtain ⟨row, _, comes⟩ := Script.comes_reads asks_target comes
  obtain ⟨_, _, comes⟩ := Script.comes_check comes
  obtain ⟨keys, between, others, done, further, rfl⟩ := Script.comes_settled rfl comes
  obtain ⟨rfl, rfl, rfl⟩ := Script.comes_pure further
  exact .removed single done

/-- The row that a miss creates. -/
theorem comes_createMissing {row : Row}
    (comes : p.createMissing.Comes p.name s row after touched) :
    (∃ made, s.insert p.name made = (.ok row, after)) ∧ touched = [] := by
  unfold createMissing at comes
  obtain ⟨_, _, comes⟩ := Script.comes_check comes
  obtain ⟨made, _, comes⟩ := Script.comes_check comes
  obtain ⟨done, same⟩ := Script.comes_request comes
  exact ⟨⟨made, Store.settle_ok_iff.1 done⟩, same⟩

theorem tells_of_getOrCreate (single : p.query.operation.isBulk = false)
    (comes : p.getOrCreate.Comes p.name s w after touched) : p.Tells s after touched w.events := by
  unfold getOrCreate at comes
  obtain ⟨found, _, comes⟩ := Script.comes_reads asks_lookUp comes
  cases found with
  | some row =>
    obtain ⟨_, _, comes⟩ := Script.comes_check comes
    obtain ⟨shown, comes⟩ := comes_present comes
    obtain ⟨rfl, rfl, rfl⟩ := Script.comes_pure comes
    exact .nothing
  | none =>
    obtain ⟨row, between, first, others, created, further, rfl⟩ := Script.comes_bind comes
    obtain ⟨⟨made, done⟩, rfl⟩ := comes_createMissing created
    obtain ⟨shown, further⟩ := comes_present further
    obtain ⟨rfl, rfl, rfl⟩ := Script.comes_pure further
    exact .inserted single done

theorem tells_of_updateOrCreate (single : p.query.operation.isBulk = false)
    (comes : p.updateOrCreate.Comes p.name s w after touched) :
    p.Tells s after touched w.events := by
  unfold updateOrCreate at comes
  obtain ⟨found, located, comes⟩ := Script.comes_reads asks_lookUp comes
  cases found with
  | some row =>
    obtain ⟨_, _, comes⟩ := Script.comes_check comes
    obtain ⟨now, between, first, others, changed, further, rfl⟩ := Script.comes_bind comes
    obtain ⟨changes, done, rfl⟩ := comes_change changed
    obtain ⟨shown, further⟩ := comes_present further
    obtain ⟨rfl, rfl, rfl⟩ := Script.comes_pure further
    rw [List.append_nil]
    exact .changed single (lookUp_ok located).1 done
  | none =>
    obtain ⟨row, between, first, others, created, further, rfl⟩ := Script.comes_bind comes
    obtain ⟨⟨made, done⟩, rfl⟩ := comes_createMissing created
    obtain ⟨shown, further⟩ := comes_present further
    obtain ⟨rfl, rfl, rfl⟩ := Script.comes_pure further
    exact .inserted single done

theorem tells_of_run {e : Engine} {script : Script Written}
    (writing : e.handling p = .writing script)
    (comes : script.Comes p.name s w after touched) : p.Tells s after touched w.events := by
  rw [Engine.handling] at writing
  split at writing <;> rename_i op <;> cases writing
  · exact tells_of_create (by rw [op]; rfl) comes
  · exact tells_of_bulkCreate (by rw [op]; rfl) comes
  · exact tells_of_update (by rw [op]; rfl) comes
  · exact tells_of_delete (by rw [op]; rfl) comes
  · exact tells_of_updateInstance (by rw [op]; rfl) comes
  · exact tells_of_deleteInstance (by rw [op]; rfl) comes
  · exact tells_of_getOrCreate (by rw [op]; rfl) comes
  · exact tells_of_updateOrCreate (by rw [op]; rfl) comes

theorem keysOf_eq_map {rows : List Row}
    (keyed : ∀ row ∈ rows, row.get? p.model.schema.key = some (p.keyOf row)) :
    Store.keysOf p.model rows = rows.map p.keyOf := by
  rw [Store.keysOf, ← List.filterMap_eq_map]
  exact List.filterMap_congr keyed

theorem keysOf_added {rows : List Row} (known : s.model p.name = .ok p.model)
    (kept : s.Keeps after) (indexed : s.Indexed) {m : Model}
    (grows : s.Extends after p.name m.schema.key rows) :
    Store.keysOf p.model ((s.added after p.name).map Prod.snd) =
      ((s.added after p.name).map Prod.snd).map p.keyOf := by
  refine keysOf_eq_map fun row mem => ?_
  obtain ⟨entry, among, rfl⟩ := List.mem_map.1 mem
  refine get?_key (kept.indexed indexed) ?_ (List.mem_map.2 ⟨entry, ?_, rfl⟩)
  · exact kept.model_ok known
  · rw [grows.appended]
    exact List.mem_append_right _ among

/-- The keys of selected rows, by the entries of the table. -/
theorem selected_keys (known : s.model p.name = .ok p.model) {sel : Selection} (plain : sel.Plain)
    (about : sel.model = p.name) {keys : List Value} (chosen : s.selectKeys sel = .ok keys) :
    keys = Store.keysOf p.model ((s.pickedEntries p.name sel.predicate).map Prod.snd) := by
  obtain ⟨m, rows, found, _, rfl, rfl⟩ := Store.selectKeys_spec plain chosen
  rw [about] at found ⊢
  rw [Except.ok.inj (known.symm.trans found)]

theorem mirrors_of_updateWhere (known : s.model p.name = .ok p.model) (indexed : s.Indexed)
    {sel : Selection} (plain : sel.Plain) (about : sel.model = p.name) {changes : Changes}
    {keys : List Value} (done : s.updateWhere sel changes = (.ok keys, after)) :
    s.Mirrors after p.name p.keyName (s.updatedBy p.name (.updateWhere sel changes)) .updated
      keys := by
  have kept : s.Keeps (s.updateWhere sel changes).2 := s.keeps_answer (.updateWhere sel changes)
  rw [done] at kept
  obtain ⟨chosen, effect⟩ := Store.updateWhere_rewrites indexed plain done
  rw [about] at effect
  have mirrors := effect.mirrors (indexed.table known) (kept.table indexed known)
  have numbers := (indexed.table known).numbers_of_keysOf
    (Store.pickedEntries_inside (p := sel.predicate))
  rw [← selected_keys known plain about chosen] at numbers
  rw [Store.updatedBy, if_pos about, chosen]
  change s.Mirrors after p.name p.keyName (keys.filterMap (s.table p.name).number?) .updated keys
  rw [numbers, selected_keys known plain about chosen]
  exact mirrors

theorem mirrors_of_updateRow (known : s.model p.name = .ok p.model) (indexed : s.Indexed)
    {row now : Row} (stored : s.Stored p.name row) {changes : Changes}
    (done : s.updateRow p.name (p.keyOf row) changes = (.ok now, after)) :
    s.Mirrors after p.name p.keyName
      (s.updatedBy p.name (.updateRow p.name (p.keyOf row) changes)) .updated [p.keyOf row] := by
  have kept : s.Keeps (s.updateRow p.name (p.keyOf row) changes).2 :=
    (s.works_updateRow _ _).keeps
  rw [done] at kept
  have before := indexed.table known
  have own := get?_key indexed known stored
  obtain ⟨entry, mem, rfl⟩ := List.mem_map.1 stored
  obtain ⟨key, own', _, numbered⟩ := before.keyed entry mem
  obtain rfl : p.keyOf entry.2 = key := Option.some.inj (own.symm.trans own')
  have mirrors := (Store.updateRow_rewrites known indexed mem own done).2.mirrors before
    (kept.table indexed known)
  rw [before.filter_number mem, List.map_singleton, List.map_singleton,
    Store.keysOf_cons own] at mirrors
  rw [Store.updatedBy, if_pos rfl, numbered]
  exact mirrors

theorem mirrors_of_deleteWhere (known : s.model p.name = .ok p.model) (indexed : s.Indexed)
    {sel : Selection} (plain : sel.Plain) (about : sel.model = p.name) {keys : List Value}
    (done : s.deleteWhere sel = (.ok keys, after)) :
    s.Mirrors after p.name p.keyName [] .removed keys := by
  have kept : s.Keeps (s.deleteWhere sel).2 := (s.works_deleteWhere sel).keeps
  rw [done] at kept
  obtain ⟨chosen, effect⟩ := Store.deleteWhere_removes indexed plain done
  rw [about] at effect
  rw [selected_keys known plain about chosen]
  exact effect.mirrors (indexed.table known) (kept.table indexed known)

/-- What is told is what has been done. -/
theorem Tells.mirrors (known : s.model p.name = .ok p.model) (about : p.selection.model = p.name)
    (indexed : s.Indexed) (tells : p.Tells s after touched events) :
    ∃ kind keys, events = p.eventsOf kind keys ∧ kind.isBulk = p.query.operation.isBulk ∧
      s.Mirrors after p.name p.keyName touched kind.change keys := by
  have before := indexed.table known
  cases tells with
  | nothing =>
    cases bulk : p.query.operation.isBulk with
    | true => exact ⟨.bulkCreate, [], rfl, rfl, Store.mirrors_refl s p.name _ _⟩
    | false => exact ⟨.create, [], rfl, rfl, Store.mirrors_refl s p.name _ _⟩
  | @inserted row stored after single done =>
    have kept : s.Keeps (s.insert p.name row).2 := (s.works_insert row).keeps
    rw [done] at kept
    obtain ⟨m, known', grows⟩ := Store.insert_extends done
    obtain rfl : p.model = m := Except.ok.inj (known.symm.trans known')
    have mirrors := grows.mirrors before (kept.table indexed known)
    rw [keysOf_added known kept indexed grows, Store.added_of_insert done] at mirrors
    exact ⟨.create, _, rfl, single.symm, mirrors⟩
  | @insertedAll rows stored after bulk done =>
    have kept : s.Keeps (s.insertMany p.name rows).2 := (s.works_insertMany rows).keeps
    rw [done] at kept
    obtain ⟨m, known', grows⟩ := Store.insertMany_extends done
    obtain rfl : p.model = m := Except.ok.inj (known.symm.trans known')
    have mirrors := grows.mirrors before (kept.table indexed known)
    rw [keysOf_added known kept indexed grows, Store.added_of_insertMany done] at mirrors
    exact ⟨.bulkCreate, _, rfl, bulk.symm, mirrors⟩
  | updated bulk done =>
    have mirrors := mirrors_of_updateWhere known indexed p.selection.plain_whole
      (p.selection.whole_model.trans about) done
    exact ⟨.bulkUpdate, _, rfl, bulk.symm, mirrors⟩
  | changed single stored done =>
    rw [about] at stored
    exact ⟨.update, _, rfl, single.symm, mirrors_of_updateRow known indexed stored done⟩
  | deleted bulk done =>
    have mirrors := mirrors_of_deleteWhere known indexed p.selection.plain_whole
      (p.selection.whole_model.trans about) done
    exact ⟨.bulkDelete, _, rfl, bulk.symm, mirrors⟩
  | removed single done =>
    have mirrors := mirrors_of_deleteWhere known indexed (Selection.plain_withKeys p.name _)
      (Selection.withKeys_model p.name _) done
    exact ⟨.delete, _, rfl, single.symm, mirrors⟩

end Plan

namespace Delivery

/-- What the events for one audience list: keys, each with what has become of its row. -/
def listed (audience : String) (deliveries : List Delivery) : List (RowChange × Value) :=
  (deliveries.filter (·.event.audience = audience)).flatMap fun d =>
    d.event.keys.map (d.event.kind.change, ·)

variable {emit : Event → Except String Unit} {kind : EventKind} {model keyName : String}
  {operation : Option String} {keys : List Value}

theorem listed_own (apart : model ≠ Event.globalAudience) :
    listed model (ofEvents emit (Event.ofWrite kind model keyName operation keys)) =
      keys.map (kind.change, ·) := by
  cases keys with
  | nil => rfl
  | cons key rest =>
    cases bulk : kind.isBulk <;>
      simp [listed, ofEvents, Event.ofWrite, Event.audiences, bulk, Ne.symm apart]

theorem listed_global (apart : model ≠ Event.globalAudience) :
    listed Event.globalAudience (ofEvents emit (Event.ofWrite kind model keyName operation keys)) =
      if kind.isBulk then keys.map (kind.change, ·) else [] := by
  cases keys with
  | nil => simp [listed, ofEvents, Event.ofWrite]
  | cons key rest =>
    cases bulk : kind.isBulk <;>
      simp [listed, ofEvents, Event.ofWrite, Event.audiences, bulk, apart]

theorem kind_of_mem {d : Delivery}
    (mem : d ∈ ofEvents emit (Event.ofWrite kind model keyName operation keys)) :
    d.event.kind = kind := by
  obtain ⟨event, among, rfl⟩ := List.mem_map.1 mem
  unfold Event.ofWrite at among
  split at among
  · cases among
  · obtain ⟨audience, _, rfl⟩ := List.mem_map.1 among
    rfl

end Delivery

namespace Plan
variable {p : Plan} {s after : Store} {w : Written}

/-- A hit tells that nothing has been created, and has no events. -/
theorem getOrCreate_hit (ran : p.getOrCreate.run s = (.ok w, after))
    (hit : w.response.flags.get? "created" = some (.bool false)) : w.events = [] := by
  rcases getOrCreate_cases ran with ⟨row, shown, _, _, _, _, rfl⟩ | ⟨row, shown, _, _, _, rfl⟩
  · rfl
  · cases (Entries.get?_insert_self _ _ _).symm.trans hit

end Plan

namespace Engine
variable {e : Engine} {st st' : State} {model : String} {q : Query} {request : Request}
  {r : Response} {deliveries : List Delivery}

/-- The numbers of the rows that a request changes. -/
def updated (e : Engine) (model : String) (q : Query) (request : Request) (st : State) : List Nat :=
  match (e.accessOf request).plan model q with
  | .ok p =>
    match e.handling p with
    | .writing script => script.updated model st.store.begin
    | .reading _ => []
  | .error _ => []

/-- An answer comes from a run that reads, or from one that has committed and hands its events
over. -/
theorem delivered_of_executed
    (executed : e.execute model q request st = (⟨.ok r, deliveries⟩, st')) :
    ∃ p, (e.accessOf request).plan model q = .ok p ∧
      ((∃ run, e.handling p = .reading run ∧ deliveries = [] ∧ st'.store = st.store) ∨
        ∃ script written after, e.handling p = .writing script ∧
          script.run st.store.begin = (.ok written, after) ∧ written.response = r ∧
          deliveries = Delivery.ofEvents e.emit written.events ∧ st'.store = after.commit) := by
  unfold execute at executed
  split at executed
  case h_2 => cases executed
  case h_1 p planned =>
    refine ⟨p, planned, ?_⟩
    unfold runPlan at executed
    split at executed
    · rename_i run reading
      have kept := Run.store_of_asks (fun _ => not_isWrite_of_readsWithin)
        (p.asks_handling reading) st
      obtain ⟨answered, rfl⟩ := Prod.mk.inj executed
      exact .inl ⟨run, reading, (congrArg Outcome.deliveries answered).symm, kept⟩
    · rename_i script writing
      unfold transact at executed
      split at executed
      · rename_i written after ran
        cases executed
        exact .inr ⟨script, written, after, writing, ran, rfl, rfl, rfl⟩
      · cases executed

theorem deliveries_of_failure (failed : (e.execute model q request st).1.answer.isOk = false) :
    (e.execute model q request st).1.deliveries = [] := by
  unfold execute at failed ⊢
  split
  case h_2 => rfl
  case h_1 p planned =>
    simp only [planned, runPlan] at failed ⊢
    split
    · rfl
    · rename_i script writing
      rw [writing] at failed
      exact (untouched_of_failure failed).deliveries

/-- What a request does, and what it tells, does not depend on what becomes of its events. -/
theorem execute_emit (emit : Event → Except String Unit) :
    ({ e with emit }.execute model q request st).2 = (e.execute model q request st).2 ∧
      ({ e with emit }.execute model q request st).1.answer =
        (e.execute model q request st).1.answer ∧
      ({ e with emit }.execute model q request st).1.deliveries.map Delivery.event =
        (e.execute model q request st).1.deliveries.map Delivery.event := by
  have access : ({ e with emit } : Engine).accessOf request = e.accessOf request := rfl
  have handled (p : Plan) : ({ e with emit } : Engine).handling p = e.handling p := rfl
  rw [execute, execute, access]
  cases (e.accessOf request).plan model q with
  | error fault => exact ⟨rfl, rfl, rfl⟩
  | ok p =>
    simp only [runPlan, handled]
    cases e.handling p with
    | reading run => exact ⟨rfl, rfl, rfl⟩
    | writing script =>
      simp only [transact]
      split
      · refine ⟨rfl, rfl, ?_⟩
        simp only [Delivery.ofEvents, List.map_map]
        rfl
      · exact ⟨rfl, rfl, rfl⟩

/-- What is handed over for an audience tells of the rows of a model that differ between two stores:
each key once, with what has become of its row, and no key that stands for another row. -/
structure Reports (st st' : State) (model keyName : String) (updated : List Nat)
    (listed : List (RowChange × Value)) : Prop where
  distinct : (listed.map Prod.snd).Nodup
  told : ∀ change key, (change, key) ∈ listed ↔ ∃ n row,
    st.store.Wrote st'.store model updated change n row ∧ row.get? keyName = some key
  kept : ∀ n old now, n ∉ updated → st.store.rowAt model n = some old →
    st'.store.rowAt model n = some now → now = old
  others : ∀ other, other ≠ model → st'.store.table other = st.store.table other

theorem reports_of_mirrors {keyName : String} {updated : List Nat} {change : RowChange}
    {keys : List Value} (mirrors : st.store.Mirrors st'.store model keyName updated change keys) :
    Reports st st' model keyName updated (keys.map (change, ·)) where
  distinct := by
    rw [List.map_map]
    simpa [Function.comp_def] using mirrors.distinct
  told other key := by
    constructor
    · intro mem
      obtain ⟨_, listed, same⟩ := List.mem_map.1 mem
      obtain ⟨rfl, rfl⟩ := Prod.mk.inj same
      exact (mirrors.listed _).1 listed
    · rintro ⟨n, row, wrote, own⟩
      obtain rfl : other = change := by
        by_contra differs
        exact mirrors.nothingElse other differs n row wrote
      exact List.mem_map_of_mem ((mirrors.listed key).2 ⟨n, row, wrote, own⟩)
  kept := mirrors.kept
  others := mirrors.others

theorem reports_of_executed (grown : st.store.Grown e.catalog)
    (apart : model ≠ Event.globalAudience)
    (executed : e.execute model q request st = (⟨.ok r, deliveries⟩, st')) :
    ∃ m, e.catalog.get model = .ok m ∧
      Reports st st' model m.schema.key (e.updated model q request st)
        (Delivery.listed model deliveries) ∧
      Delivery.listed Event.globalAudience deliveries =
        (if q.operation.isBulk then Delivery.listed model deliveries else []) ∧
      ∀ d ∈ deliveries, d.event.kind.isBulk = q.operation.isBulk := by
  obtain ⟨same, indexed⟩ := grown.spec
  obtain ⟨p, planned, ended⟩ := delivered_of_executed executed
  have plans := Access.plans_of_plan planned
  refine ⟨p.model, plans.found, ?_⟩
  obtain rfl : model = p.name := plans.named.symm
  obtain rfl : q = p.query := plans.asked.symm
  rcases ended with ⟨run, reading, rfl, kept⟩ |
    ⟨script, written, after, writing, ran, _, rfl, committed⟩
  · have silent : e.updated p.name p.query request st = [] := by
      simp only [updated, planned, reading]
    rw [silent]
    refine ⟨?_, (ite_self _).symm, nofun⟩
    have mirrors : st.store.Mirrors st'.store p.name p.model.schema.key [] .inserted [] := by
      rw [kept]
      exact Store.mirrors_refl _ _ _ _
    exact reports_of_mirrors mirrors
  · have known : st.store.begin.model p.name = .ok p.model :=
      Store.model_of_get same plans.found
    have counted : e.updated p.name p.query request st =
        script.updated p.name st.store.begin := by
      simp only [updated, planned, writing]
    obtain ⟨kind, keys, told, bulk, mirrors⟩ :=
      (Plan.tells_of_run writing ⟨ran, rfl⟩).mirrors known plans.about indexed.begin
    rw [counted, told]
    refine ⟨?_, ?_, fun d mem => (congrArg EventKind.isBulk (Delivery.kind_of_mem mem)).trans bulk⟩
    · rw [Plan.eventsOf, Delivery.listed_own apart]
      refine reports_of_mirrors ?_
      rw [committed]
      exact ⟨mirrors.distinct, mirrors.listed, mirrors.nothingElse, mirrors.kept, mirrors.others⟩
    · rw [Plan.eventsOf, Delivery.listed_own apart, Delivery.listed_global apart, bulk]

theorem silent_of_not_isMutation (reads : q.operation.isMutation = false) :
    (e.execute model q request st).1.deliveries = [] := by
  unfold execute
  split
  case h_2 => rfl
  case h_1 p planned =>
    rw [← (Access.plans_of_plan planned).asked] at reads
    obtain ⟨run, reading⟩ := reading_of_not_isMutation (e := e) reads
    rw [runPlan, reading]
    rfl

theorem silent_of_hit (executed : e.execute model q request st = (⟨.ok r, deliveries⟩, st'))
    (op : q.operation = .getOrCreate) (hit : r.flags.get? "created" = some (.bool false)) :
    deliveries = [] := by
  obtain ⟨p, planned, ended⟩ := delivered_of_executed executed
  rw [← (Access.plans_of_plan planned).asked] at op
  rcases ended with ⟨run, _, silent, _⟩ | ⟨script, written, after, writing, ran, rfl, rfl, _⟩
  · exact silent
  · have same : e.handling p = .writing p.getOrCreate := by rw [handling, op]
    obtain rfl : script = p.getOrCreate := by
      rw [same] at writing
      cases writing
      rfl
    rw [Plan.getOrCreate_hit ran hit]
    rfl

/-- The events of a model list each primary key of the rows that a request has inserted, changed or
removed once, with what has become of the row, and no other key; an operation on many rows lists the
same for the global audience, and any other operation lists nothing there. A request that fails,
one that is no mutation, and a lookup that finds its row hand over no event. Nothing of this depends
on what becomes of the events. -/
theorem events_mirror_the_store (grown : st.store.Grown e.catalog)
    (apart : model ≠ Event.globalAudience) :
    (∀ q request r deliveries st',
      e.execute model q request st = (⟨.ok r, deliveries⟩, st') →
      ∃ m, e.catalog.get model = .ok m ∧
        Reports st st' model m.schema.key (e.updated model q request st)
          (Delivery.listed model deliveries) ∧
        Delivery.listed Event.globalAudience deliveries =
          (if q.operation.isBulk then Delivery.listed model deliveries else []) ∧
        ∀ d ∈ deliveries, d.event.kind.isBulk = q.operation.isBulk) ∧
    (∀ q request, (e.execute model q request st).1.answer.isOk = false ∨
      q.operation.isMutation = false → (e.execute model q request st).1.deliveries = []) ∧
    (∀ q request r deliveries st',
      e.execute model q request st = (⟨.ok r, deliveries⟩, st') → q.operation = .getOrCreate →
      r.flags.get? "created" = some (.bool false) → deliveries = []) ∧
    (∀ ast request, (e.executeValue model ast request st).1.answer.isOk = false →
      (e.executeValue model ast request st).1.deliveries = []) ∧
    ∀ (emit : Event → Except String Unit) (q : Query) (request : Request),
      ({ e with emit }.execute model q request st).2 = (e.execute model q request st).2 ∧
      ({ e with emit }.execute model q request st).1.answer =
        (e.execute model q request st).1.answer ∧
      ({ e with emit }.execute model q request st).1.deliveries.map Delivery.event =
        (e.execute model q request st).1.deliveries.map Delivery.event := by
  refine ⟨fun q request r deliveries st' executed => reports_of_executed grown apart executed,
    fun q request idle => ?_, fun q request r deliveries st' executed op hit =>
      silent_of_hit executed op hit, fun ast request failed => ?_,
    fun emit q request => execute_emit emit⟩
  · rcases idle with failed | reads
    · exact deliveries_of_failure failed
    · exact silent_of_not_isMutation reads
  · unfold executeValue at failed ⊢
    split
    · rename_i q parsed
      rw [parsed] at failed
      exact deliveries_of_failure failed
    · rfl

end Engine

/-! Tasks that are finished while nobody takes events -/

namespace Tasks

def unheard : Engine := { engine with emit := fun _ => .error "nobody is there" }

theorem finished_tasks_are_told :
    (∃ (r : Response) (deliveries : List Delivery) (after : Engine.State),
      unheard.execute "task" finish .anonymous state = (⟨.ok r, deliveries⟩, after) ∧
      deliveries.length = 2 ∧
      Engine.Reports state after "task" "id" (unheard.updated "task" finish .anonymous state)
        (Delivery.listed "task" deliveries) ∧
      Delivery.listed Event.globalAudience deliveries = Delivery.listed "task" deliveries) ∧
    (unheard.execute "task" (.plain .read) .anonymous state).1.deliveries = [] := by
  have ok : (unheard.execute "task" finish .anonymous state).1.answer.isOk = true := by
    decide +kernel
  have two : (unheard.execute "task" finish .anonymous state).1.deliveries.length = 2 := by
    decide +kernel
  obtain ⟨r, deliveries, after, executed⟩ := Engine.executed_of_isOk ok
  rw [executed] at two
  have grown : state.store.Grown unheard.catalog := tasks_grown
  obtain ⟨told, silent, _⟩ := Engine.events_mirror_the_store grown
    (by decide : "task" ≠ Event.globalAudience)
  obtain ⟨m, found, reports, global, _⟩ := told finish .anonymous r deliveries after executed
  obtain rfl : task = m := Except.ok.inj found
  exact ⟨⟨r, deliveries, after, executed, two, reports, global⟩,
    silent (.plain .read) .anonymous (.inr rfl)⟩

end Tasks

end GuardedQuery
