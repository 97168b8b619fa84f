import GuardedQuery.Proofs.Engine.Courses
import GuardedQuery.Proofs.Presentation.Calls
import GuardedQuery.Proofs.Selection.Rows

/-! What the reading operations ask of the store. Whatever they read of the plan's own model, they
read through its selection, which they only order anew, reverse or look at through a window. -/

namespace GuardedQuery

/-- A read of related rows, or of rows of a selection that arranges a given one. -/
def Store.Call.ReadsWithin (sel : Selection) : Store.Call → Prop
  | .select s | .count s | .aggregate s _ _ => sel.Arranges s
  | .related .. => True
  | _ => False

namespace Engine

/-- The run is put together from checks, scripts and inquiries whose calls are as `P` says. -/
inductive Run.Asks (P : Store.Call → Prop) : {α : Type} → Run α → Prop where
  | done {α : Type} (outcome : Except Error α) : Asks P (liftM outcome : Run α)
  | script {α : Type} {script : Script α} (h : script.Asks P) : Asks P (Run.ofScript script)
  | inquiry {inquiry : Inquiry} (h : inquiry.script.Asks P) : Asks P (Run.ofInquiry inquiry)
  | check {α β : Type} {outcome : Except Error α} {next : α → Run β}
      (h : ∀ a, outcome = .ok a → Asks P (next a)) : Asks P ((liftM outcome : Run α) >>= next)
  | bind {α β : Type} {run : Run α} {next : α → Run β} (first : Asks P run)
      (others : ∀ a, Asks P (next a)) : Asks P (run >>= next)

theorem Run.Asks.mono {P Q : Store.Call → Prop} {α : Type} {run : Run α} (h : Run.Asks P run)
    (weaker : ∀ c, P c → Q c) : Run.Asks Q run := by
  induction h with
  | done outcome => exact .done outcome
  | script asks => exact .script (asks.mono weaker)
  | inquiry asks => exact .inquiry (asks.mono weaker)
  | check _ ih => exact .check ih
  | bind _ _ first others => exact .bind first others

theorem Course.Asks.run {P : Store.Call → Prop} {α : Type} {course : Course α}
    (h : course.Asks P) : Run.Asks P course.run := by
  induction course with
  | done result => exact .done result
  | script calls => exact .script h
  | ask inquiry next ih => exact .bind (.inquiry h.1) fun value => ih value (h.2 value)

end Engine

namespace Plan
open Engine Store
variable (p : Plan) {P : Call → Prop}

theorem asks_showSelected {s : Selection} (rows : P (.select s))
    (shown : ∀ rows, (p.presentAll rows).Asks P) : (p.showSelected s).Asks P :=
  Script.asks_bind (Script.asks_request rows) shown

theorem asks_only {s : Selection}
    (rows : ∀ windowed, s.window 0 (some 2) = .ok windowed → P (.select windowed)) :
    (p.only s).Asks P := by
  refine Script.asks_check fun windowed cut => ?_
  refine Script.asks_bind (Script.asks_request (rows windowed cut)) fun found => ?_
  match found with
  | [] | [row] | first :: second :: rest => exact Script.asks_done _

theorem asks_showFirst {s : Selection}
    (rows : ∀ windowed, s.window 0 (some 1) = .ok windowed → P (.select windowed))
    (shown : ∀ row, (p.present row).Asks P) : (p.showFirst s).Asks P := by
  refine Script.asks_check fun windowed cut => ?_
  refine Script.asks_bind (Script.asks_request (rows windowed cut)) fun found => ?_
  match found with
  | [] => exact Script.asks_done _
  | row :: rest => exact Script.asks_bind (Script.asks_done _) fun _ => shown row

theorem inquiry_script {s : Selection} {context : String} {o : Outline} {paths : List String}
    {script : Script Value} {inquiry : Inquiry}
    (h : p.inquiry s context o paths script = .ok inquiry) : inquiry.script = script := by
  obtain ⟨models, _, made⟩ := Checks.bind_ok_iff.1 h
  rw [← Checks.pure_ok_iff.1 made]

/-- The order in which an operation looks at the plan's rows. -/
def ordering (p : Plan) : List OrderTerm :=
  if p.query.operation = .last then p.selection.reversed.order else p.selection.order

/-- The fields that an operation aggregates. -/
def totals (p : Plan) : List String :=
  match p.query.operation with
  | .single _ => p.query.field.toList
  | .aggregate => p.query.aggregates.map AggregateTerm.field
  | _ => []

/-- What a plan that reads may ask of the store: the rows of its selection, through a window and in
the order of the operation, their number and their aggregates, and related rows to be shown. -/
structure Reads (p : Plan) (P : Call → Prop) : Prop where
  rows : ∀ sel, p.selection.Arranges sel → sel.order = p.ordering → P (.select sel)
  counted : P (.count p.selection.whole)
  total : ∀ function, ∀ field ∈ p.totals, P (.aggregate p.selection.whole function field)
  related : ∀ model row field target, p.access.Follows p.outline (p.depth != 0) model field target →
    P (.related model row field)

namespace Reads
variable {p} (reads : p.Reads P)
include reads

theorem asks_present (row : Row) : (p.present row).Asks P :=
  Access.asks_present_of_follows reads.related _ row

theorem asks_presentAll (rows : List Row) : (p.presentAll rows).Asks P :=
  Access.asks_presentAll_of_follows reads.related _ rows

theorem windowed {s windowed : Selection} {offset : Nat} {limit : Option Nat}
    (arranged : p.selection.Arranges s) (ordered : s.order = p.ordering)
    (cut : s.window offset limit = .ok windowed) : P (.select windowed) :=
  reads.rows windowed (arranged.trans (Selection.arranges_window cut))
    ((Selection.window_order cut).trans ordered)

theorem ordered (op : p.query.operation ≠ .last) {offset : Nat} {limit : Option Nat}
    {windowed : Selection} (cut : p.selection.window offset limit = .ok windowed) :
    P (.select windowed) :=
  reads.windowed p.selection.arranges_refl (by rw [ordering, if_neg op]) cut

theorem asks_get (op : p.query.operation = .get) : p.get.Asks P := by
  refine Script.asks_bind (p.asks_only fun windowed cut => ?_) fun row => ?_
  · exact reads.ordered (by simp [op]) cut
  refine Script.asks_bind (Script.asks_done _) fun _ => ?_
  exact Script.asks_bind (reads.asks_present row) fun _ => Script.asks_done _

theorem asks_first (op : p.query.operation = .first) : p.first.Asks P := by
  refine Script.asks_bind (p.asks_showFirst (fun windowed cut => ?_) reads.asks_present)
    fun _ => Script.asks_done _
  exact reads.ordered (by simp [op]) cut

theorem asks_last (op : p.query.operation = .last) : p.last.Asks P := by
  refine Script.asks_bind (p.asks_showFirst (fun windowed cut => ?_) reads.asks_present)
    fun _ => Script.asks_done _
  exact reads.windowed p.selection.arranges_reversed (by rw [ordering, if_pos op]) cut

theorem asks_exist : p.exist.Asks P :=
  Script.asks_bind (Script.asks_request reads.counted) fun _ => Script.asks_done _

theorem asks_listInquiry (op : p.query.operation = .read) {defaultLimit : Option Nat}
    {inquiry : Inquiry} (h : p.listInquiry defaultLimit = .ok inquiry) :
    inquiry.script.Asks P := by
  obtain ⟨page, cut, made⟩ := Checks.bind_ok_iff.1 h
  rw [p.inquiry_script made]
  exact p.asks_showSelected (reads.ordered (by simp [op]) cut) reads.asks_presentAll

theorem asks_aggregateInquiry {function : Aggregate} {field : String} (mem : field ∈ p.totals)
    {inquiry : Inquiry} (h : p.aggregateInquiry function field = .ok inquiry) :
    inquiry.script.Asks P := by
  rw [p.inquiry_script h]
  exact Script.asks_request (reads.total function field mem)

theorem asks_aggregateCourse {terms : List AggregateTerm}
    (inside : ∀ term ∈ terms, term.field ∈ p.totals) (found : Row) :
    (p.aggregateCourse terms found).Asks P := by
  induction terms generalizing found with
  | nil => trivial
  | cons term rest ih =>
    obtain ⟨here, others⟩ := List.forall_mem_cons.1 inside
    exact Course.asks_asking (fun _ made => reads.asks_aggregateInquiry here made)
      fun _ => ih others _

/-- Whatever operation reads, it asks nothing else. -/
theorem asks_course {e : Engine} {course : Course Response} (laid : e.course? p = some course) :
    course.Asks P := by
  rw [course?] at laid
  cases op : p.query.operation <;> simp only [op] at laid <;> cases laid
  case read =>
    exact Course.asks_asking (fun _ made => reads.asks_listInquiry op made) fun _ => trivial
  case get => exact reads.asks_get op
  case first => exact reads.asks_first op
  case last => exact reads.asks_last op
  case exist => exact reads.asks_exist
  case single function =>
    rw [singleCourse]
    cases given : p.query.field with
    | none => trivial
    | some field =>
      have mem : field ∈ p.totals := by simp [totals, op, given]
      exact Course.asks_asking (fun _ made => reads.asks_aggregateInquiry mem made) fun _ => trivial
  case aggregate =>
    refine reads.asks_aggregateCourse (fun term mem => ?_) []
    rw [totals, op]
    exact List.mem_map_of_mem mem

end Reads

theorem reads_readsWithin : p.Reads (Call.ReadsWithin p.selection) where
  rows _ arranged _ := arranged
  counted := p.selection.arranges_whole
  total _ _ _ := p.selection.arranges_whole
  related _ _ _ _ _ := trivial

/-- Every operation that reads keeps to the plan's selection. -/
theorem asks_handling {e : Engine} {run : Run Response} (h : e.handling p = .reading run) :
    Run.Asks (Call.ReadsWithin p.selection) run := by
  obtain ⟨course, laid, rfl⟩ := course_of_reading h
  exact (p.reads_readsWithin.asks_course laid).run

end Plan

end GuardedQuery
