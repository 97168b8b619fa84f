import GuardedQuery.Proofs.Engine.Agreement
import GuardedQuery.Proofs.Selection.Reversal
import GuardedQuery.Proofs.Writing.Repeated

/-! The ends of a list. The last row is looked for at the head of the reversed selection. Where rows
are equal by the order, that is the first of them, and the list ends with another one. -/

namespace GuardedQuery

/-- The order that a query asks for is the order of its selection. -/
theorem Access.selection_order {a : Access} {model : String} {q : Query} {sel : Selection}
    (selected : a.selection model q = .ok sel) (ordered : q.order ≠ []) :
    sel.order = q.order.map .read := by
  rw [selection] at selected
  obtain ⟨m, _, selected⟩ := Checks.bind_ok_iff.1 selected
  obtain ⟨filter, _, selected⟩ := Checks.bind_ok_iff.1 selected
  have some : q.order.isEmpty ≠ true := by simpa using ordered
  simp only [if_neg some] at selected
  split at selected
  · rw [← Checks.pure_ok_iff.1 selected]
    rfl
  · obtain ⟨exclude, _, selected⟩ := Checks.bind_ok_iff.1 selected
    rw [← Checks.pure_ok_iff.1 selected]
    rfl

namespace Store
variable {s : Store} {model : String} {m : Model} {row other : Row}

/-- Stored rows that show one key are one row. -/
theorem eq_of_shown_key (indexed : s.Indexed) (known : s.model model = .ok m)
    (left : s.Stored model row) (right : s.Stored model other)
    (same : (row.get? m.schema.key).getD .null = (other.get? m.schema.key).getD .null) :
    row = other := by
  have table := indexed.table known
  obtain ⟨a, ha, rfl⟩ := List.mem_map.1 left
  obtain ⟨b, hb, rfl⟩ := List.mem_map.1 right
  obtain ⟨key, own, _, _⟩ := table.keyed a ha
  obtain ⟨key', own', _, _⟩ := table.keyed b hb
  rw [own, own', Option.getD_some, Option.getD_some] at same
  rw [table.eq_of_key ha hb (by rw [own, own', same])]

end Store

namespace Plan
variable {p : Plan} {s : Store}

namespace Lists
variable {front : List Row} {final : Row} {init : List Value} {item : Value} {m : Model}
  (lists : p.Lists s (front ++ [final]) (init ++ [item]))
include lists

theorem shows_final : (p.present final).run s = (.ok item, s) := by
  have shown := lists.shown
  rw [← List.forall₂_reverse_iff, List.reverse_concat, List.reverse_concat] at shown
  cases shown with
  | cons here _ => exact here

/-- The last row is shown as the list ends exactly if all other rows stand before the final one. -/
theorem last_iff (indexed : s.Indexed) (known : s.model p.selection.model = .ok p.model)
    (ordered : p.selection.order ≠ []) (allowed : p.requireRow final .read = .ok ()) :
    Carries (p.last.run s).1 item ↔ ∀ other ∈ front, s.StandsBefore p.selection other final := by
  obtain ⟨first, others, selected, inside, meet⟩ :=
    Store.select_reversed_iff indexed lists.free ordered lists.selected
  have free : p.selection.reversed.Unbounded := ⟨lists.free.offset, lists.free.limit⟩
  have looked := run_showFirst (p := p) free selected
  rw [← meet, Plan.last]
  constructor
  · intro carries
    obtain ⟨again, _, shown⟩ := Checks.exists_of_forall₂ lists.shown inside
    rcases run_checked lists.known shown with passed | denied
    · rw [Script.run_next (looked.trans passed)] at carries
      obtain ⟨_, ⟨⟩, rfl⟩ := carries
      have key := Access.key_of_present lists.known shown
      have key' := Access.key_of_present lists.known lists.shows_final
      exact Store.eq_of_shown_key indexed known (Store.accepts_of_mem_select lists.selected inside).1
        (Store.accepts_of_mem_select lists.selected (by simp)).1
        (Option.some.inj (key.symm.trans key'))
    · rw [Script.run_fault (looked.trans denied)] at carries
      obtain ⟨_, ⟨⟩, _⟩ := carries
  · rintro rfl
    have shown : (do p.requireRow first .read; p.present first : Script Value).run s =
        (.ok item, s) := (Script.run_check allowed).trans lists.shows_final
    rw [Script.run_next (looked.trans shown)]
    exact ⟨_, rfl, rfl⟩

end Lists

end Plan

namespace Engine

/-- A list begins with the first row. It ends with the last one exactly if all other rows stand
before its final row, so that none is equal to it by the order. -/
theorem last_is_end_of_list_iff (e : Engine) (s : Store) (d : Demand) (grown : s.Grown e.catalog)
    (unlimited : e.defaultLimit = none) (offset : d.query.options.offset = none)
    (limit : d.query.options.limit = none) (ordered : d.query.order ≠ []) {listed : Response}
    (replies : e.Replies s (d.by .read) (.ok listed)) :
    ∃ p rows items, e.planOf (d.by .read) = .ok p ∧ p.Lists s rows items ∧
      listed.data = .arr items ∧
      (∀ answer, e.Replies s (d.by .first) answer → CarriesFirst answer items) ∧
      ∀ front final init item, rows = front ++ [final] → items = init ++ [item] →
        p.requireRow final .read = .ok () →
        ((∀ answer, e.Replies s (d.by .last) answer → Carries answer item) ↔
          ∀ other ∈ front, s.StandsBefore p.selection other final) := by
  obtain ⟨p, rows, items, planned, data, lists, -⟩ := replies.lists rfl unlimited offset limit
  have plans := Access.plans_of_plan planned
  have other {op : Operation} (reads : op.action = .read) (plain : op.function? = none) :
      e.planOf (d.by op) = .ok { p with query := (d.by op).query } :=
    Access.plan_as planned reads (by rw [plain]; exact nofun)
  have shown (query : Query) : { p with query }.Lists s rows items :=
    ⟨lists.free, lists.known, lists.selected, lists.shown⟩
  have known : s.model p.selection.model = .ok p.model := by
    rw [plans.about, plans.named]
    exact Store.model_of_get grown.spec.1 plans.found
  have order : p.selection.order ≠ [] := by
    rw [Access.selection_order plans.selected ordered]
    exact fun none => ordered (List.map_eq_nil_iff.1 none)
  refine ⟨p, rows, items, planned, lists, data, fun answer asked => ?_,
    fun front final init item => ?_⟩
  · rw [asked.script (other rfl rfl) rfl]
    exact (shown _).first
  · rintro rfl rfl allowed
    have last := (shown (d.by .last).query).last_iff grown.spec.2 known order allowed
    rw [← last]
    constructor
    · intro all
      have asked : e.Replies s (d.by .last) _ :=
        ⟨_, current_ofSettings e _ s .default, rfl⟩
      have carries := all _ asked
      rwa [asked.script (other rfl rfl) rfl] at carries
    · intro carries answer asked
      rw [asked.script (other rfl rfl) rfl]
      exact carries

end Engine

/-! Scores, of which two are the highest -/

namespace Scores
open Engine

def score : Model :=
  { Model.ofSchema (((Schema.ofKey "score" "id").withField ⟨"points", .scalar⟩).withField
      ⟨"level", .scalar⟩) with guards := [.allowAll] }

def engine : Engine := ⟨⟨.ofList [("score", score)]⟩, .default, none, fun _ => .ok ()⟩

def row (id points level : Int) : Row :=
  [("id", .int id), ("points", .int points), ("level", .int level)]

def scores : Store := ((Store.ofCatalog engine.catalog).answer
  (.insertMany "score" [row 1 30 2, row 2 10 1, row 3 30 1])).2

def ranking (order : List String) : Demand where
  model := "score"
  query := { Query.plain .read with order }
  request := { Request.anonymous with transaction := some "t" }

/-- The answer on a new cache. -/
def answer (d : Demand) : Except Error Response :=
  (engine.execute d.model d.query d.request ⟨scores, .ofSettings .default⟩).1.answer

theorem replies (d : Demand) : engine.Replies scores d (answer d) :=
  ⟨_, current_ofSettings engine d scores .default, rfl⟩

/-- The key of a row that is shown, as text. -/
def keyOf (shown : Value) : Option String := (shown.field? "id").bind Value.plain?

/-- By points alone, the list ends with the third score, and the last score is the first one. -/
theorem tied_scores_end_elsewhere :
    engine.Replies scores ((ranking ["points"]).by .read)
      (answer ((ranking ["points"]).by .read)) ∧
    ((answer ((ranking ["points"]).by .read)).toOption.bind (·.data.arr?)).map (·.map keyOf) =
      some [some "2", some "1", some "3"] ∧
    engine.Replies scores ((ranking ["points"]).by .last)
      (answer ((ranking ["points"]).by .last)) ∧
    (answer ((ranking ["points"]).by .last)).toOption.map (keyOf ·.data) = some (some "1") :=
  ⟨replies _, by decide +kernel, replies _, by decide +kernel⟩

def ladder : Demand := ranking ["points", "level"]

/-- By points and level, the first score stands behind the others. -/
theorem ladder_ends_with_last :
    scores.Grown engine.catalog ∧ ∃ listed init item,
      engine.Replies scores (ladder.by .read) (.ok listed) ∧ listed.data = .arr (init ++ [item]) ∧
      ∀ answer, engine.Replies scores (ladder.by .last) answer → Carries answer item := by
  have grown : scores.Grown engine.catalog := .answer .new _
  obtain ⟨listed, shown⟩ : ∃ listed, answer (ladder.by .read) = .ok listed :=
    Checks.exists_ok_of_isOk (by decide +kernel)
  have listing : engine.Replies scores (ladder.by .read) (.ok listed) := shown ▸ replies _
  obtain ⟨p, rows, items, planned, lists, data, -, last⟩ :=
    last_is_end_of_list_iff engine scores ladder grown rfl rfl rfl (List.cons_ne_nil _ _) listing
  obtain ⟨p', planned', selected, allowed, behind⟩ : ∃ p',
      engine.planOf (ladder.by .read) = .ok p' ∧
      scores.select p'.selection = .ok ([row 2 10 1, row 3 30 1] ++ [row 1 30 2]) ∧
      p'.requireRow (row 1 30 2) .read = .ok () ∧
      ∀ other ∈ [row 2 10 1, row 3 30 1], scores.StandsBefore p'.selection other (row 1 30 2) := by
    refine ⟨_, rfl, rfl, rfl, List.forall_mem_cons.2 ⟨?_, List.forall_mem_singleton.2 ?_⟩⟩
    · exact ⟨[.int 10, .int 1], [.int 30, .int 2], rfl, rfl, rfl⟩
    · exact ⟨[.int 30, .int 1], [.int 30, .int 2], rfl, rfl, rfl⟩
  obtain rfl : p = p' := Except.ok.inj (planned.symm.trans planned')
  have rows' := Except.ok.inj (lists.selected.symm.trans selected)
  obtain rfl | ⟨init, item, rfl⟩ := items.eq_nil_or_concat
  · have length := lists.length_eq
    rw [rows'] at length
    cases length
  · rw [List.concat_eq_append] at data last
    exact ⟨grown, listed, init, item, listing, data,
      (last _ _ init item rows' rfl allowed).2 behind⟩

end Scores

end GuardedQuery
