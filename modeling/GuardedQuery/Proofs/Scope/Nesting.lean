import GuardedQuery.Proofs.Engine.Origins
import GuardedQuery.Proofs.Scope.Composition
import Mathlib

/-! Rows that are nested in an answer. Relations are followed from a row that is shown without a
look at the guards of the models that they lead to, so the nested rows are in scope only as far as
all rows that are led to are. -/

namespace GuardedQuery

/-- The row is in the scope that its own model has for the caller. -/
def Access.Permits (a : Access) (s : Store) (entry : String × Row) : Prop :=
  ∃ m, a.catalog.get entry.1 = .ok m ∧ a.InScope m s entry.1 entry.2

namespace Engine
variable {e : Engine} {st st' : State} {model : String} {q : Query} {request : Request}
  {r : Response} {deliveries : List Delivery}

/-- What an answer shows: numbers or a truth value, or rows of the store as the request leaves it.
Within a transaction it may be what was cached, from a request that had another access. -/
theorem shown_of_execute (reached : e.Reached st)
    (executed : e.execute model q request st = (⟨.ok r, deliveries⟩, st')) :
    (r.kind = .number ∨ r.kind = .truth) ∨ (request.transaction ≠ none ∧ Aggregated r.data) ∨
      ∃ d : Display, d.Shows r.data ∧ d.access.catalog = e.catalog ∧
        (request.transaction = none → ∃ p s, (e.accessOf request).plan model q = .ok p ∧
          s.commit = st'.store.commit ∧ d.Of p s) := by
  obtain ⟨p, planned, ⟨s, same, number | truth | ⟨d, of, shows⟩⟩ | ⟨within, key, cached⟩⟩ :=
    execute_answers executed
  · exact .inl (.inl number)
  · exact .inl (.inr truth)
  · refine .inr (.inr ⟨d, shows, ?_, fun _ => ⟨p, s, planned, same, of⟩⟩)
    rw [of.accessed, (Access.plans_of_plan planned).accessed]
    rfl
  · rcases sound_of_reached reached key r.data cached with ⟨d, same, shows⟩ | aggregated
    · exact .inr (.inr ⟨d, shows, same, fun outside => absurd outside within⟩)
    · exact .inr (.inl ⟨within, aggregated⟩)

/-- The rows nested in an answer are in scope if and only if all rows are to which the relations
that are shown lead. -/
theorem nested_rows_in_scope_iff (reached : e.Reached st)
    (executed : e.execute model q request st = (⟨.ok r, deliveries⟩, st')) :
    (r.kind = .number ∨ r.kind = .truth) ∨ (request.transaction ≠ none ∧ Aggregated r.data) ∨
      ∃ d : Display, d.Shows r.data ∧ d.access.catalog = e.catalog ∧
        (request.transaction = none → ∃ p s, (e.accessOf request).plan model q = .ok p ∧
          s.commit = st'.store.commit ∧ d.Of p s) ∧
        ((∀ entry ∈ d.nested, (e.accessOf request).Permits d.store entry) ↔
          ∀ entry, d.Leads entry → (e.accessOf request).Permits d.store entry) := by
  rcases shown_of_execute reached executed with plain | aggregated | ⟨d, shows, same, fresh⟩
  · exact .inl plain
  · exact .inr (.inl aggregated)
  · refine .inr (.inr ⟨d, shows, same, fresh, ?_⟩)
    simp only [d.mem_nested_iff]

end Engine

/-! Users with their posts, of which only the published ones are in scope -/

namespace Drafts

def user : Model :=
  { Model.ofSchema (((Schema.ofKey "user" "id").withField ⟨"name", .scalar⟩).withField
      ⟨"posts", .reverse "post" "author"⟩) with
    exposure := .only (.ofList ["name", "posts"])
    guards := [.allowAll] }

def post : Model :=
  { Model.ofSchema ((((Schema.ofKey "post" "id").withField ⟨"title", .scalar⟩).withField
      ⟨"published", .scalar⟩).withField ⟨"author", .toOne "user"⟩) with
    guards := [{ Guard.reading ["title"] with
      admitted := fun _ => .eq "published" (.bool true) }] }

def engine : Engine :=
  ⟨⟨.ofList [("post", post), ("user", user)]⟩, .default, none, fun _ => .ok ()⟩

def ann : Row := [("id", .int 1), ("name", .str "ann")]

def article : Row :=
  [("author", .int 1), ("id", .int 1), ("published", .bool true), ("title", .str "out")]

def draft : Row :=
  [("author", .int 1), ("id", .int 2), ("published", .bool false), ("title", .str "draft")]

def store : Store :=
  ((((Store.ofCatalog engine.catalog).insert "user" ann).2.insert "post" article).2.insert "post"
    draft).2

def state : Engine.State := ⟨store, .ofSettings .default⟩

/-- All users, with one level of nested rows. -/
def users : Query := { Query.plain .read with options := ⟨some 1, [], none, none⟩ }

def plan : Plan where
  access := engine.accessOf .anonymous
  name := "user"
  model := user
  query := users
  selection := (user.scope .anonymous (.ofModel "user")).narrow .all
  depth := 1
  outline := .ofList [("post", .ofList ["title"]), ("user", .ofList ["id", "name", "posts"])]

def postCard (row : Row) (key : Int) (title : String) : Card :=
  .row "post" row [("id", .plain (.int key)), ("title", .plain (.str title))]

def userCard : Card :=
  .row "user" ann [("id", .plain (.int 1)), ("name", .plain (.str "ann")),
    ("posts", .list [postCard article 1 "out", postCard draft 2 "draft"])]

def display : Display :=
  .single plan.access store plan.outline 1 "user" ann userCard (by cbv)

def answer : Response := ⟨.arr [userCard.value], .rows, [("read", .bool true)]⟩

theorem planned : (engine.accessOf .anonymous).plan "user" users = .ok plan := rfl

theorem executed :
    ∃ after, engine.execute "user" users .anonymous state = (⟨.ok answer, []⟩, after) := by
  obtain ⟨inquiry, made, uncached, same⟩ : ∃ inquiry, plan.listInquiry none = .ok inquiry ∧
      inquiry.job.key = none ∧ inquiry.script = plan.showSelected plan.selection :=
    ⟨_, rfl, rfl, rfl⟩
  have ran : inquiry.script.run state.store = (.ok answer.data, store) := by
    rw [same]
    cbv
  obtain ⟨after, asked⟩ := Engine.Run.ofInquiry_ok uncached ran
  have listed : (plan.list none).run state = (.ok answer, after) := by
    rw [Plan.list, made]
    change (Engine.Run.ofInquiry inquiry >>= _).run state = _
    rw [Engine.Run.run_bind, asked]
    rfl
  have reading : engine.handling plan = .reading (plan.list none) := rfl
  refine ⟨after, ?_⟩
  rw [Engine.execute, planned]
  change engine.runPlan plan state = _
  rw [Engine.runPlan, reading]
  change (Prod.mk (Engine.Outcome.mk ((plan.list none).run state).1 [])
    ((plan.list none).run state).2) = _
  rw [listed]

theorem draft_not_permitted :
    ¬ (engine.accessOf .anonymous).Permits store ("post", draft) := by
  rintro ⟨m, found, inside⟩
  obtain rfl : post = m := Except.ok.inj found
  obtain ⟨g, mem, holds⟩ := inside.admitted
  obtain rfl := List.mem_singleton.1 mem
  have refused : store.Rejects "post" draft (.eq "published" (.bool true)) := by cbv
  exact refused.not_accepts holds

/-- The draft is shown along with its author, though no guard of its model admits it. -/
theorem hidden_draft_is_shown :
    Catalog.build [user, post] = .ok engine.catalog ∧ engine.Reached state ∧
    (∃ after, engine.execute "user" users .anonymous state = (⟨.ok answer, []⟩, after)) ∧
    display.Of plan store ∧ display.Shows answer.data ∧ ("post", draft) ∈ display.nested ∧
    ¬ (engine.accessOf .anonymous).Permits store ("post", draft) := by
  refine ⟨rfl, .start store .default, executed, ⟨rfl, rfl, rfl, .inr ⟨rfl, rfl⟩⟩, .inl rfl, ?_,
    draft_not_permitted⟩
  exact List.mem_cons_of_mem _ List.mem_cons_self

theorem nested_posts_in_scope_iff :
    ∃ d : Display, d.Shows answer.data ∧
      ((∀ entry ∈ d.nested, (engine.accessOf .anonymous).Permits d.store entry) ↔
        ∀ entry, d.Leads entry → (engine.accessOf .anonymous).Permits d.store entry) := by
  obtain ⟨after, ran⟩ := executed
  rcases Engine.nested_rows_in_scope_iff (.start store .default) ran with
    (number | truth) | ⟨within, _⟩ | ⟨d, shows, _, _, exact⟩
  · cases number
  · cases truth
  · exact absurd rfl within
  · exact ⟨d, shows, exact⟩

end Drafts

end GuardedQuery
