import GuardedQuery.Proofs.Cache.Watched
import GuardedQuery.Proofs.Store.Rollback
import GuardedQuery.Proofs.Writing.Outcomes

/-! Requests that fail and requests that only read leave no trace: rolling back brings the tables
back as they were, what is cached stays cached, and no event is handed over. -/

namespace GuardedQuery

namespace Engine
variable {e : Engine} {st : State} {p : Plan}

/-- Reading keeps what is cached. -/
theorem Run.retains_of_asks {P : Store.Call → Prop} {α : Type} {run : Run α}
    (asks : Run.Asks P run) : ∀ st, st.cache.Lasting →
      st.cache.Retains (run.run st).2.cache ∧ (run.run st).2.cache.Lasting := by
  induction asks with
  | done outcome =>
    intro st lasting
    cases outcome <;> exact ⟨.refl _, lasting⟩
  | script => exact fun st lasting => ⟨.refl _, lasting⟩
  | @inquiry inquiry =>
    exact fun st lasting => ⟨Cache.run_retains lasting _ _ _, Cache.lasting_settle _⟩
  | @check _ _ outcome next _ ih =>
    intro st lasting
    cases outcome with
    | ok a => exact ih a rfl st lasting
    | error fault => exact ⟨.refl _, lasting⟩
  | @bind _ _ run next _ _ first others =>
    intro st lasting
    obtain ⟨kept, lasts⟩ := first st lasting
    rw [run_bind]
    match ran : run.run st with
    | (.ok a, between) =>
      rw [ran] at kept lasts
      obtain ⟨further, last⟩ := others a between lasts
      exact ⟨kept.trans further, last⟩
    | (.error fault, between) =>
      rw [ran] at kept lasts
      exact ⟨kept, lasts⟩

theorem lasting_invalidated {cache : Cache} (lasting : cache.Lasting) (request : Request)
    (model : String) (events : List Event) : (invalidated cache request model events).Lasting := by
  unfold invalidated
  split
  · split
    · exact lasting
    · exact Cache.lasting_settle _
  · exact lasting

theorem lasting_execute (lasting : st.cache.Lasting) (model : String) (q : Query)
    (request : Request) : (e.execute model q request st).2.cache.Lasting := by
  unfold execute
  split
  · rename_i p planned
    unfold runPlan
    split
    · rename_i run reading
      exact (Run.retains_of_asks (p.asks_handling reading) st lasting).2
    · unfold transact
      split
      · exact lasting_invalidated lasting _ _ _
      · exact lasting
  · exact lasting

theorem lasting_of_reached (reached : e.Reached st) : st.cache.Lasting := by
  induction reached with
  | start s settings => exact fun _ key => rfl
  | step _ model q request ih => exact lasting_execute ih model q request

/-- A request that has left no trace: all tables are as they were, no event has been handed over,
and what was cached still is. -/
structure Untouched (st : State) (done : Outcome × State) : Prop where
  tables : done.2.store.tables = st.store.tables
  deliveries : done.1.deliveries = []
  cached : st.cache.Retains done.2.cache

theorem Untouched.refused (fault : Error) : Untouched st (⟨.error fault, []⟩, st) :=
  ⟨rfl, rfl, .refl _⟩

theorem untouched_of_reading (lasting : st.cache.Lasting) {run : Run Response}
    (reading : e.handling p = .reading run) : Untouched st (e.runPlan p st) := by
  have asks := p.asks_handling reading
  rw [runPlan, reading]
  refine ⟨?_, rfl, (Run.retains_of_asks asks st lasting).1⟩
  exact congrArg Store.tables (Run.store_of_asks (fun _ => not_isWrite_of_readsWithin) asks st)

/-- Whatever has failed, the tables are those that the transaction began with. -/
theorem untouched_of_failure {script : Script Written}
    (failed : (e.transact p script st).1.answer.isOk = false) :
    Untouched st (e.transact p script st) := by
  have undone := script.tables_rollback st.store
  unfold transact at failed ⊢
  split
  · rename_i written after ran
    rw [ran] at failed
    cases failed
  · rename_i fault after ran
    rw [ran] at undone
    exact ⟨undone, rfl, .refl _⟩

theorem untouched_execute (reached : e.Reached st) {model : String} {q : Query} {request : Request}
    (idle : (e.execute model q request st).1.answer.isOk = false ∨
      q.operation.isMutation = false) : Untouched st (e.execute model q request st) := by
  have lasting := lasting_of_reached reached
  unfold execute at idle ⊢
  split
  case h_2 fault _ => exact .refused fault
  case h_1 p planned =>
    simp only [planned] at idle
    cases handled : e.handling p with
    | reading run => exact untouched_of_reading lasting handled
    | writing script =>
      have mutates := isMutation_of_handling.2 ⟨script, handled⟩
      rw [(Access.plans_of_plan planned).asked] at mutates
      rw [mutates] at idle
      have failed := idle.resolve_right Bool.noConfusion
      rw [runPlan, handled] at failed ⊢
      exact untouched_of_failure failed

/-- A request that fails, at whatever step, leaves no trace, and neither does a request that is no
mutation. -/
theorem failures_and_reads_leave_no_trace (reached : e.Reached st) :
    (∀ (model : String) (q : Query) (request : Request),
      (e.execute model q request st).1.answer.isOk = false ∨ q.operation.isMutation = false →
        Untouched st (e.execute model q request st)) ∧
    ∀ (model : String) (ast : Value) (request : Request),
      (e.executeValue model ast request st).1.answer.isOk = false ∨
        (∀ q, Query.ofValue ast = .ok q → q.operation.isMutation = false) →
        Untouched st (e.executeValue model ast request st) := by
  refine ⟨fun model q request idle => untouched_execute reached idle,
    fun model ast request idle => ?_⟩
  unfold executeValue at idle ⊢
  split
  case h_2 fault _ => exact .refused fault
  case h_1 q parsed =>
    refine untouched_execute reached ?_
    simp only [parsed] at idle
    exact idle.imp_right fun reads => reads q rfl

end Engine

/-! Items whose amounts are not all numbers -/

namespace Stock

def item : Model :=
  { Model.ofSchema (((Schema.ofKey "item" "id").withField ⟨"amount", .scalar⟩).withField
      ⟨"former", .scalar⟩) with
    guards := [Guard.allowAll] }

def engine : Engine := ⟨⟨.ofList [("item", item)]⟩, .default, none, fun _ => .ok ()⟩

def row (id : Int) (amount : Value) : Row := [("amount", amount), ("id", .int id)]

def items : Store :=
  ((Store.ofCatalog engine.catalog).answer
    (.insertMany "item" [row 1 (.int 5), row 2 (.str "many")])).2

def guest : Request := { Request.anonymous with transaction := some "t" }

/-- The state after a list of all items, which is cached. -/
def listed : Engine.State :=
  (engine.execute "item" (.plain .read) guest ⟨items, .ofSettings .default⟩).2

theorem listed_reached : engine.Reached listed := .step (.start _ _) _ _ _

/-- The amount as a formula. -/
def amount : Value :=
  .obj [("__f_expr", .bool true),
    ("ast", .obj [("mathjs", .str "SymbolNode"), ("name", .str "amount")])]

/-- Remembers the amount of every item, which fails at the second one. -/
def remember : Query := { Query.plain .update with data := some (.obj [("former", amount)]) }

theorem failed_update_leaves_no_trace :
    (engine.execute "item" remember guest listed).1.answer.isOk = false ∧
    Engine.Untouched listed (engine.execute "item" remember guest listed) ∧
    Engine.Untouched listed (engine.executeValue "item" .null guest listed) := by
  have failed : (engine.execute "item" remember guest listed).1.answer.isOk = false := by
    decide +kernel
  obtain ⟨queries, values⟩ := Engine.failures_and_reads_leave_no_trace listed_reached
  exact ⟨failed, queries "item" remember guest (.inl failed),
    values "item" .null guest (.inl (by decide +kernel))⟩

end Stock

end GuardedQuery
