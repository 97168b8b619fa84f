import GuardedQuery.Proofs.Presentation.Delivery
import GuardedQuery.Proofs.Scope.Fields
import GuardedQuery.Proofs.Scope.Nesting

/-! Requested fields in answered lists. Where unknown fields are refused, a list shows every path
that was asked for in each of its rows, unless the path meets a key or leads deeper than the rules
allow. What is taken from the cache was shown for the list it was computed for: it serves as well if
that list is of the same model with the same outline, and only then it has to. -/

namespace GuardedQuery

/-- There are enough levels for all relations along a requested path. -/
theorem Query.separators_lt_depth {q : Query} {path : String} (asked : path ∈ q.requested) :
    Path.separators path < q.depth := by
  have some : q.requested.isEmpty = false := List.isEmpty_eq_false_iff.2 (List.ne_nil_of_mem asked)
  rw [depth, some, if_neg Bool.false_ne_true, List.foldl_eq_foldr, Nat.lt_succ_iff]
  exact List.le_max_of_le' 0 (List.mem_map_of_mem asked) le_rfl

namespace Plan
variable {p : Plan}

/-- The value is a list of rows, each shown as the plan shows it. -/
def ShowsRows (p : Plan) (value : Value) (_ : Store) : Prop :=
  ∃ (s : Store) (rows : List Row) (cards : List Card),
    rows.mapM (p.access.card s p.outline p.depth p.name) = .ok cards ∧
    value = .arr (cards.map Card.value)

theorem ends_presentAll_rows (rows : List Row) : (p.presentAll rows).Ends p.ShowsRows :=
  Access.ends_presentAll fun s cards made => ⟨s, rows, cards, made, rfl⟩

/-- The plans show rows of the same model in the same way. -/
structure Alike (p other : Plan) : Prop where
  catalog : other.access.catalog = p.access.catalog
  name : other.name = p.name
  outline : other.outline = p.outline
  depth : other.depth = p.depth

theorem Alike.refl (p : Plan) : p.Alike p := ⟨rfl, rfl, rfl, rfl⟩

end Plan

/-- The value is a list whose items show each of the requested paths, down to the deepest relation
that the rules allow. Paths that meet a key may end there. -/
def Access.DeliversAll (a : Access) (model : String) (q : Query) (value : Value) : Prop :=
  ∃ items, value = .arr items ∧ ∀ path ∈ q.requested,
    a.catalog.meetsKey model (fieldNames path) = false →
    (fieldNames path).length ≤ a.rules.maxDepth + 1 →
    ∀ item ∈ items, a.catalog.Delivers model (fieldNames path) item

/-- Plans that are alike show what is requested of one of them. -/
theorem Access.Plans.deliversAll {a : Access} {model : String} {q : Query} {p other : Plan}
    (plans : a.Plans model q p) (strict : a.rules.unknownFields = .reject) (alike : p.Alike other)
    {value : Value} {s : Store} (lists : other.ShowsRows value s) : a.DeliversAll model q value := by
  obtain ⟨s, rows, cards, made, rfl⟩ := lists
  refine ⟨cards.map Card.value, rfl, fun path asked keyless shallow item mem => ?_⟩
  obtain ⟨card, among, rfl⟩ := List.mem_map.1 mem
  obtain ⟨row, _, made⟩ := Checks.exists_of_mapM_ok made among
  have vetted : a.vetOutput model path = .ok () := by
    obtain ⟨_, outputs, _⟩ := Checks.bind_ok_iff.1 plans.vetted
    exact Checks.forM_ok_iff.1 outputs path asked
  have deep : (fieldNames path).length ≤ p.depth + 1 := by
    have := length_fieldNames_le path
    have := Query.separators_lt_depth asked
    have := plans.deep
    omega
  have same : other.access.catalog = a.catalog := by rw [alike.catalog, plans.accessed]
  rw [alike.outline, alike.depth, alike.name, plans.named] at made
  exact delivers_of_vetted same (decide_eq_true strict) vetted keyless plans.outlined asked deep made

namespace Engine
variable {e : Engine} {st st' : State} {model : String} {q : Query} {request : Request}
  {r : Response} {deliveries : List Delivery}

/-- The value was computed for an inquiry whose key is that of the plan's own list, but which is not
a list of the same model with the same outline. -/
def Confuses (e : Engine) (p : Plan) (value : Value) : Prop :=
  ∃ other selection context inquiry own key s, e.Planned other ∧
    e.Inquires other selection context inquiry ∧ p.listInquiry e.defaultLimit = .ok own ∧
    own.job.key = some key ∧ inquiry.job.key = some key ∧
    (inquiry.script.run s).1 = .ok value ∧
    ¬ (context = p.listContext ∧ other.name = p.name ∧ other.outline = p.outline)

/-- What the cache holds under the key of a list is a list of a plan that is alike, or was not
computed for such a list. -/
theorem lists_of_hits {p : Plan} (planned : e.Planned p) (reached : e.Reached st)
    (hit : p.Hits e.defaultLimit st r) :
    (∃ other s, p.Alike other ∧ other.ShowsRows r.data s) ∨ e.Confuses p r.data := by
  obtain ⟨own, key, made, named, found⟩ := hit.found
  obtain ⟨other, selection, context, inquiry, s, planned', inquires, named', computed⟩ :=
    recorded_of_reached reached key r.data found
  by_cases agree : context = p.listContext ∧ other.name = p.name ∧ other.outline = p.outline
  case neg =>
    exact .inr ⟨other, selection, context, inquiry, own, key, s, planned', inquires, made, named,
      named', computed, agree⟩
  obtain ⟨same, name, outline⟩ := agree
  obtain ⟨listed, depth, _⟩ := inquires.list_of_context same
  have catalog : other.access.catalog = p.access.catalog := by
    rw [planned'.catalog, planned.catalog]
  have lists := Plan.listInquiry_ends Plan.ends_presentAll_rows listed s r.data _
    (Prod.ext computed rfl)
  exact .inl ⟨other, _, ⟨catalog, name, outline, depth⟩, lists⟩

/-- Every item of an answered list has the requested fields, along all relations, if unknown fields
are refused. Only within a transaction a list can miss some: if it is answered with what was
computed under its key for another outline or model. -/
theorem requested_fields_are_delivered (reached : e.Reached st)
    (strict : e.rules.unknownFields = .reject) (read : q.operation = .read)
    (executed : e.execute model q request st = (⟨.ok r, deliveries⟩, st')) :
    (e.accessOf request).DeliversAll model q r.data ∨
      request.transaction ≠ none ∧
        ∃ p, (e.accessOf request).plan model q = .ok p ∧ e.Confuses p r.data := by
  obtain ⟨p, planned, lists | hit⟩ :=
    execute_lists (Q := Plan.ShowsRows) read (fun p _ => p.ends_presentAll_rows) executed
  · exact .inl ((Access.plans_of_plan planned).deliversAll strict (.refl p) lists)
  · have plans := Access.plans_of_plan planned
    rcases lists_of_hits ⟨request, model, q, planned⟩ reached hit with ⟨other, s, alike, lists⟩ |
      confused
    · exact .inl (plans.deliversAll strict alike lists)
    · refine .inr ⟨?_, p, planned, confused⟩
      have within := hit.transaction
      rwa [plans.requested] at within

end Engine

/-! Offers that everyone can read, with the column whose name reads like a list of two others -/

namespace Offers

def common : Model := { offer with guards := [.reading ["id", "net", "net,tax", "tax"]] }

def market : Engine := ⟨⟨.ofList [("offer", common)]⟩, .default, none, fun _ => .ok ()⟩

def supply : Engine.State :=
  ⟨((Store.ofCatalog market.catalog).insert "offer" row).2, .ofSettings .default⟩

/-- All rows, with some fields. -/
def asking (fields : List String) : Query := { Query.plain .read with fields := fields }

/-- The state after a list of the summaries. -/
def summarized : Engine.State := (market.execute "offer" (asking ["net,tax"]) guest supply).2

theorem summary_delivers_no_parts {data : Value}
    (keys : keysOf data = some [some ["id", "net,tax"]]) :
    ¬ (market.accessOf guest).DeliversAll "offer" (asking ["net", "tax"]) data := by
  rintro ⟨items, is, each⟩
  obtain ⟨shown, rfl, names⟩ := items_of_keysOf keys
  cases is
  have delivered : market.catalog.Delivers "offer" ["net"] (.obj shown) :=
    each "net" List.mem_cons_self (by decide +kernel) (by decide) _ List.mem_cons_self
  obtain ⟨m, value, _, found, _⟩ := delivered
  have named : "net" ∈ shown.names := List.mem_map_of_mem (Entries.mem_of_get? found)
  rw [names] at named
  revert named
  decide

/-- Who asks for the parts of the offers is answered with the summaries that are cached. -/
theorem parts_are_not_delivered :
    Catalog.build [common] = .ok market.catalog ∧ market.Reached summarized ∧
    market.rules.unknownFields = .reject ∧
    ∃ (r : Response) (deliveries : List Delivery) (after : Engine.State),
      market.execute "offer" (asking ["net", "tax"]) guest summarized =
        (⟨.ok r, deliveries⟩, after) ∧
      ¬ (market.accessOf guest).DeliversAll "offer" (asking ["net", "tax"]) r.data := by
  have keys : (market.execute "offer" (asking ["net", "tax"]) guest
      summarized).1.answer.toOption.map (fun r => keysOf r.data) =
      some (some [some ["id", "net,tax"]]) := by decide +kernel
  have ok : (market.execute "offer" (asking ["net", "tax"]) guest
      summarized).1.answer.isOk = true := by decide +kernel
  obtain ⟨r, deliveries, after, executed⟩ := Engine.executed_of_isOk ok
  rw [executed] at keys
  have shown : keysOf r.data = some [some ["id", "net,tax"]] := Option.some.inj keys
  exact ⟨rfl, .step (.start _ .default) "offer" (asking ["net,tax"]) guest, rfl, r, deliveries,
    after, executed, summary_delivers_no_parts shown⟩

end Offers

namespace Drafts

/-- All users, with the titles of their posts. -/
def titles : Query := { Query.plain .read with fields := ["posts__title"] }

/-- Behind every user the posts are shown with their titles. -/
theorem titles_are_delivered :
    ∃ (r : Response) (deliveries : List Delivery) (after : Engine.State) (items : List Value),
      engine.execute "user" titles .anonymous state = (⟨.ok r, deliveries⟩, after) ∧
      r.data = .arr items ∧
      ∀ item ∈ items, engine.catalog.Delivers "user" ["posts", "title"] item := by
  have ok : (engine.execute "user" titles .anonymous state).1.answer.isOk = true := by
    decide +kernel
  obtain ⟨r, deliveries, after, executed⟩ := Engine.executed_of_isOk ok
  rcases Engine.requested_fields_are_delivered (.start store .default) rfl rfl executed with
    ⟨items, is, each⟩ | ⟨within, _⟩
  · exact ⟨r, deliveries, after, items, executed, is,
      each "posts__title" List.mem_cons_self (by decide +kernel) (by decide)⟩
  · exact absurd rfl within

end Drafts

end GuardedQuery
