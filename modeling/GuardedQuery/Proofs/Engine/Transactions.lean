import GuardedQuery.Proofs.Engine.Origins
import GuardedQuery.Proofs.Script.Runs
import GuardedQuery.Proofs.Store.Effects

/-! What executing a request does to the store. Reading leaves it as it was. A write runs its script
on the store of a transaction, whose selections see the same tables, and its effects last once the
transaction commits. -/

namespace GuardedQuery

namespace Store
variable {s after : Store} {model : String}

theorem select_begin (sel : Selection) : s.begin.select sel = s.select sel := by
  have keys (order : List OrderTerm) (row : Row) :
      s.begin.sortKeys sel.model order row = s.sortKeys sel.model order row := by
    simp only [sortKeys, valuesAlong_begin]
  unfold select matching
  simp only [holds_begin, Store.sorted, keys]
  rfl

/-- Effects within a transaction that commits. -/
theorem Rewrites.of_transaction {changes : Changes} {touched : Nat × Row → Bool}
    (h : s.begin.Rewrites after model changes touched) :
    s.Rewrites after.commit model changes touched := by
  have same : s.begin.catalog = s.catalog := rfl
  refine ⟨fun entry mem on => ?_, ?_, h.others⟩
  · rw [← changed_congr same]
    exact h.applied entry mem on
  · rw [← rewritten_congr same]
    exact h.rows

theorem Removes.of_transaction {gone : Nat × Row → Bool}
    (h : s.begin.Removes after model gone) : s.Removes after.commit model gone :=
  ⟨h.rows, h.others⟩

theorem Grown.run {α : Type} {c : Catalog} (script : Script α) (grown : Grown c s) :
    Grown c (script.run s).2 :=
  script.holds_run (fun _ call earlier => earlier.answer call) grown

end Store

namespace Engine
variable {e : Engine} {st st' : State} {model : String} {q : Query} {request : Request}
  {r : Response} {deliveries : List Delivery}

namespace Run

/-- A run whose calls do not write leaves the store as it was. -/
theorem store_of_asks {P : Store.Call → Prop} (reads : ∀ c, P c → c.isWrite = false) {α : Type}
    {run : Run α} (asks : Run.Asks P run) : ∀ st, (run.run st).2.store = st.store := by
  induction asks with
  | done outcome =>
    intro st
    cases outcome <;> rfl
  | script asks => exact fun st => Script.run_reads (asks.mono reads)
  | @inquiry inquiry asks =>
    intro st
    have kept : (inquiry.script.run st.store).2 = st.store := Script.run_reads (asks.mono reads)
    rcases Cache.run_cases st.cache inquiry.job inquiry.script.run st.store with
      ⟨_, _, _, _, _, same, _⟩ | ⟨_, same, _⟩
    · exact same
    · exact same.trans kept
  | @check _ _ outcome next _ ih =>
    intro st
    cases outcome with
    | ok a => exact ih a rfl st
    | error e => rfl
  | @bind _ _ run next _ _ first others =>
    intro st
    have kept := first st
    rw [run_bind]
    match ran : run.run st with
    | (.ok a, between) =>
      rw [ran] at kept
      exact (others a between).trans kept
    | (.error e, between) => rwa [ran] at kept

end Run

theorem not_isWrite_of_readsWithin {sel : Selection} {c : Store.Call} (h : c.ReadsWithin sel) :
    c.isWrite = false := by
  cases c with
  | select | count | aggregate | related => rfl
  | insert | insertMany | updateRow | updateWhere | deleteWhere => exact h.elim

/-- Requests lead from stores that have grown by calls and transactions to such stores. -/
theorem grown_execute {c : Catalog} (grown : st.store.Grown c) :
    (e.execute model q request st).2.store.Grown c := by
  unfold execute
  split
  case h_2 => exact grown
  case h_1 p planned =>
    unfold runPlan
    split
    case h_1 run reading =>
      have kept := Run.store_of_asks (fun _ => not_isWrite_of_readsWithin)
        (p.asks_handling reading) st
      change (run.run st).2.store.Grown c
      rwa [kept]
    case h_2 script writing =>
      have ran := grown.begin.run script
      unfold transact
      split
      · rename_i written after same
        rw [same] at ran
        exact ran.commit
      · rename_i fault after same
        rw [same] at ran
        exact ran.rollback

theorem executed_of_isOk (ok : (e.execute model q request st).1.answer.isOk = true) :
    ∃ r deliveries st', e.execute model q request st = (⟨.ok r, deliveries⟩, st') := by
  match executed : e.execute model q request st with
  | (⟨.ok r, deliveries⟩, st') => exact ⟨r, deliveries, st', rfl⟩
  | (⟨.error fault, deliveries⟩, st') =>
    rw [executed] at ok
    cases ok

/-- A write that is answered has run its script to the end and has committed. -/
theorem written_of_executed (executed : e.execute model q request st = (⟨.ok r, deliveries⟩, st')) :
    ∃ p, (e.accessOf request).plan model q = .ok p ∧
      ∀ script, e.handling p = .writing script →
        ∃ written after, script.run st.store.begin = (.ok written, after) ∧
          written.response = r ∧ after.commit = st'.store := by
  unfold execute at executed
  split at executed
  case h_2 => cases executed
  case h_1 p planned =>
    refine ⟨p, planned, fun script writing => ?_⟩
    simp only [runPlan, writing, transact] at executed
    split at executed
    · rename_i written after ran
      cases executed
      exact ⟨written, after, ran, rfl, rfl⟩
    · cases executed

end Engine

end GuardedQuery
