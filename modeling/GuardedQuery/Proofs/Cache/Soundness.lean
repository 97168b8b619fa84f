import GuardedQuery.Proofs.Cache.Contexts
import GuardedQuery.Proofs.Cache.Keys
import GuardedQuery.Proofs.Engine.Origins
import GuardedQuery.Proofs.Selection.Legible

/-! What equal keys say. Two inquiries whose names contain no marks have the same key only if they
come to the same on every store. The names of a query can contain marks, since a JSON column takes
any name behind its own; then a name can read like several, and two lists that are sorted
differently share a key. -/

namespace GuardedQuery

open Text Cache.Key

namespace Engine

/-- The key of an inquiry tells what it asks for: no name reads like a part of a text, and every
component has a length that can be written in front of it. The outline counts for lists only, since
no other key contains it. -/
structure Clear (p : Plan) (sel : Selection) (context : String) : Prop where
  selection : sel.Legible
  outline : context = p.listContext → p.outline.Legible
  fits : ∀ component ∈ [sel.render.text, sel.render.paramsText,
    p.request.transaction.getD "", context], Fits component

/-- The bytes whose digest is the key of an inquiry. -/
def digested (p : Plan) (sel : Selection) (context : String) : List UInt8 :=
  frames sel.render.text sel.render.paramsText (p.request.transaction.getD "") context

end Engine

namespace Script
variable {α : Type} {s : Store} {sel sel' : Selection}

theorem run_select_congr (same : sel.bare = sel'.bare) (next : List Row → Script α) :
    (Script.select sel >>= next).run s = (Script.select sel' >>= next).run s := by
  have rows : s.select sel = s.select sel' := by
    rw [← Selection.select_bare, same, Selection.select_bare]
  change (Script.call (.select sel) _).run s = (Script.call (.select sel') _).run s
  rw [run, run, Store.answer, Store.answer, rows]
  cases s.select sel' <;> rfl

theorem run_aggregate_congr (same : sel.bare = sel'.bare) (function : Aggregate)
    (field : String) :
    (Script.aggregate sel function field).run s = (Script.aggregate sel' function field).run s := by
  have values : s.aggregate sel function field = s.aggregate sel' function field := by
    rw [← Selection.aggregate_bare, same, Selection.aggregate_bare]
  rw [Script.aggregate, Script.aggregate, request, request, run, run, Store.answer, Store.answer,
    values]
  cases s.aggregate sel' function field <;> rfl

end Script

namespace Engine
variable {e : Engine} {p p' : Plan} {sel sel' : Selection} {context context' : String}
  {inquiry inquiry' : Inquiry}

theorem Planned.selection_model (planned : e.Planned p) : p.selection.model = p.name := by
  obtain ⟨request, model, q, planned⟩ := planned
  have plans := Access.plans_of_plan planned
  rw [plans.named]
  exact Access.selection_model plans.found plans.selected

theorem Inquires.model (planned : e.Planned p) (inquires : e.Inquires p sel context inquiry) :
    sel.model = p.name := by
  cases inquires with
  | list cut => exact (Selection.arranges_window cut).1.trans planned.selection_model
  | aggregate => exact planned.selection_model

theorem Inquires.key (inquires : e.Inquires p sel context inquiry) {key : String}
    (named : inquiry.job.key = some key) : ∃ transaction, p.request.transaction = some transaction ∧
      make sel.render transaction context = key := by
  cases inquires with
  | list cut made =>
    obtain ⟨page, cut', made⟩ := Checks.bind_ok_iff.1 made
    obtain rfl := Except.ok.inj (cut.symm.trans cut')
    exact Plan.inquiry_key made named
  | aggregate made => exact Plan.inquiry_key made named

/-- Lists of one model with one context show rows alike. -/
theorem Planned.presentAll_eq (planned : e.Planned p) (planned' : e.Planned p')
    (outline : p.outline.Legible) (outline' : p'.outline.Legible) (models : p.name = p'.name)
    (contexts : p.listContext = p'.listContext) : p.presentAll = p'.presentAll := by
  obtain ⟨depths, texts⟩ := Plan.listContext_inj contexts
  have outlines := Outline.text_inj outline outline' texts
  have catalogs : p.access.catalog = p'.access.catalog :=
    planned.catalog.trans planned'.catalog.symm
  funext rows
  rw [Plan.presentAll, Plan.presentAll, Access.presentAll, Access.presentAll, depths, outlines,
    models, Access.present_congr catalogs]

/-- Inquiries about the same rows with the same context come to the same on every store. -/
theorem Inquires.run_eq (planned : e.Planned p) (planned' : e.Planned p')
    (inquires : e.Inquires p sel context inquiry) (inquires' : e.Inquires p' sel' context' inquiry')
    (clear : Clear p sel context) (clear' : Clear p' sel' context') (same : sel.bare = sel'.bare)
    (contexts : context = context') (s : Store) :
    inquiry.script.run s = inquiry'.script.run s := by
  have models : p.name = p'.name := by
    rw [← inquires.model planned, ← inquires'.model planned']
    exact congrArg (fun bare => bare.model) same
  cases inquires with
  | list cut made =>
    cases inquires' with
    | aggregate made' => exact absurd contexts (p.listContext_ne_aggregate _ _)
    | list cut' made' =>
      have shown := planned.presentAll_eq planned' (clear.outline rfl) (clear'.outline rfl) models
        contexts
      obtain ⟨page, cutting, made⟩ := Checks.bind_ok_iff.1 made
      obtain ⟨page', cutting', made'⟩ := Checks.bind_ok_iff.1 made'
      obtain rfl := Except.ok.inj (cut.symm.trans cutting)
      obtain rfl := Except.ok.inj (cut'.symm.trans cutting')
      rw [p.inquiry_script made, p'.inquiry_script made', Plan.showSelected, Plan.showSelected,
        shown]
      exact Script.run_select_congr same _
  | aggregate made =>
    cases inquires' with
    | list cut' made' => exact absurd contexts.symm (p'.listContext_ne_aggregate _ _)
    | aggregate made' =>
      obtain ⟨rfl, rfl⟩ := Plan.context_aggregate_inj contexts
      rw [p.inquiry_script made, p'.inquiry_script made']
      exact Script.run_aggregate_congr same _ _

/-- The selection of an inquiry can be told from its text if the query and the model bring no marks
into it. -/
theorem Inquires.legible (planned : e.Planned p) (inquires : e.Inquires p sel context inquiry)
    (name : Unmarked p.name) (model : p.model.Legible p.request) (query : p.query.Legible) :
    sel.Legible := by
  obtain ⟨request, _, _, planned⟩ := planned
  have plans := Access.plans_of_plan planned
  have selected := plans.selected
  have found := plans.found
  rw [← plans.accessed, ← plans.named] at found
  rw [← plans.accessed, ← plans.named, ← plans.asked] at selected
  have whole := Access.legible_selection found name model query selected
  cases inquires with
  | list cut => exact whole.window cut
  | aggregate => exact whole.whole

/-- An inquiry that a plan makes and that is answered under a key. -/
structure Keyed (e : Engine) (key : String) (p : Plan) (sel : Selection) (context : String)
    (inquiry : Inquiry) : Prop where
  planned : e.Planned p
  inquires : e.Inquires p sel context inquiry
  named : inquiry.job.key = some key

theorem Keyed.agree {key : String} (keyed : e.Keyed key p sel context inquiry)
    (keyed' : e.Keyed key p' sel' context' inquiry') (clear : Clear p sel context)
    (clear' : Clear p' sel' context')
    (distinct : Distinguishes (digested p sel context) (digested p' sel' context')) :
    p.request.transaction = p'.request.transaction ∧ sel.bare = sel'.bare ∧
      context = context' := by
  obtain ⟨transaction, within, key⟩ := keyed.inquires.key keyed.named
  obtain ⟨transaction', within', key'⟩ := keyed'.inquires.key keyed'.named
  have fits := clear.fits
  have fits' := clear'.fits
  rw [within, Option.getD_some] at fits
  rw [within', Option.getD_some] at fits'
  rw [digested, digested, within, within', Option.getD_some, Option.getD_some] at distinct
  obtain ⟨texts, params, transactions, contexts⟩ :=
    make_inj fits fits' distinct (key.trans key'.symm)
  exact ⟨by rw [within, within', transactions],
    Selection.bare_eq_of_render clear.selection clear'.selection texts params, contexts⟩

/-- Equal texts and parameters select the same rows in the same order, and inquiries under one key
come to the same on every store, as long as no name reads like a part of a text and the digest does
not take one inquiry for the other. -/
theorem equal_keys_answer_alike (e : Engine) :
    (∀ sel sel' : Selection, sel.Legible → sel'.Legible → sel.render.text = sel'.render.text →
      sel.render.paramsText = sel'.render.paramsText →
        ∀ s : Store, s.select sel = s.select sel') ∧
    ∀ (key : String) (p p' : Plan) (sel sel' : Selection) (context context' : String)
      (inquiry inquiry' : Inquiry), e.Keyed key p sel context inquiry →
      e.Keyed key p' sel' context' inquiry' → Clear p sel context → Clear p' sel' context' →
      Distinguishes (digested p sel context) (digested p' sel' context') →
        p.request.transaction = p'.request.transaction ∧
          ∀ s, inquiry.script.run s = inquiry'.script.run s := by
  constructor
  · intro sel sel' legible legible' texts params s
    rw [← Selection.select_bare, Selection.bare_eq_of_render legible legible' texts params,
      Selection.select_bare]
  · intro key p p' sel sel' context context' inquiry inquiry' keyed keyed' clear clear' distinct
    obtain ⟨transactions, same, contexts⟩ := keyed.agree keyed' clear clear' distinct
    exact ⟨transactions, keyed.inquires.run_eq keyed.planned keyed'.planned keyed'.inquires clear
      clear' same contexts⟩

end Engine

/-! Items with a column of free structure, sorted along two of its paths -/

namespace Samples
open Engine

def item : Model :=
  { Model.ofSchema ((Schema.ofKey "item" "id").withField ⟨"data", .json⟩) with
    guards := [Guard.reading ["id", "data"]] }

def engine : Engine := ⟨⟨.ofList [("item", item)]⟩, .default, none, fun _ => .ok ()⟩

def sample (id x : Int) : Row := [("data", .obj [("x", .int x)]), ("id", .int id)]

def store : Store :=
  ((Store.ofCatalog engine.catalog).answer (.insertMany "item" [sample 1 2, sample 2 1])).2

def guest : Request := { Request.anonymous with transaction := some "t" }

def staff : Request := { guest with identity := .staff (.int 1) }

def sorting (order : List String) : Query := { Query.plain .read with order }

def page (order : List String) : Selection :=
  { Selection.ofModel "item" with order := order.map .read }

def plan (request : Request) (order : List String) : Plan where
  access := engine.accessOf request
  model := item
  name := "item"
  query := sorting order
  selection := page order
  depth := 0
  outline := .ofList [("item", .ofList ["id", "data"])]

def inquiry (request : Request) (order : List String) : Inquiry where
  job.key := make? (page order).render request.transaction (plan request order).listContext
  job.transaction := "t"
  job.models := .ofList ["item"]
  script := (plan request order).showSelected (page order)

/-- Two terms. -/
def parts : List String := ["data__x", "data__y"]

/-- One term, with a path that reads like the two. -/
def joined : List String := ["data__x ASC, data__y"]

/-- The key of the list in two terms. -/
def key : String := make (page parts).render "t" (plan guest parts).listContext

theorem keyed_parts : engine.Keyed key (plan guest parts) (page parts)
    (plan guest parts).listContext (inquiry guest parts) where
  planned := ⟨guest, "item", sorting parts, rfl⟩
  inquires := .list rfl rfl
  named := rfl

theorem keyed_staff : engine.Keyed key (plan staff parts) (page parts)
    (plan staff parts).listContext (inquiry staff parts) where
  planned := ⟨staff, "item", sorting parts, rfl⟩
  inquires := .list rfl rfl
  named := rfl

theorem render_joined : (page joined).render = (page parts).render := rfl

theorem keyed_joined : engine.Keyed key (plan guest joined) (page joined)
    (plan guest joined).listContext (inquiry guest joined) where
  planned := ⟨guest, "item", sorting joined, rfl⟩
  inquires := .list rfl rfl
  named := congrArg (fun query => some (make query "t" _)) render_joined

def fresh : State := ⟨store, .ofSettings .default⟩

/-- The state after a list sorted by the two terms. -/
def listed : State := (engine.execute "item" (sorting parts) guest fresh).2

/-- The text of the list in an order, as the guest is answered. -/
def answered (order : List String) (st : State) : Option String :=
  (engine.execute "item" (sorting order) guest st).1.answer.toOption.map (·.data.text)

/-- The keys of the selected items. -/
def selected (order : List String) : Option (List String) :=
  (store.selectKeys (page order)).toOption.map (·.map Value.text)

/-- The two lists have one text and one key, though their rows differ in order. Whichever is asked
for first is the answer to both. -/
theorem differing_orders_share_key :
    Catalog.build [item] = .ok engine.catalog ∧
    engine.Keyed key (plan guest parts) (page parts) (plan guest parts).listContext
      (inquiry guest parts) ∧
    engine.Keyed key (plan guest joined) (page joined) (plan guest joined).listContext
      (inquiry guest joined) ∧
    (page joined).render = (page parts).render ∧
    store.select (page joined) ≠ store.select (page parts) ∧
    (inquiry guest joined).script.run store ≠ (inquiry guest parts).script.run store ∧
    answered joined listed = answered parts fresh ∧
    answered joined listed ≠ answered joined fresh := by
  refine ⟨rfl, keyed_parts, keyed_joined, rfl, fun same => ?_, fun same => ?_, ?_, ?_⟩
  · have keys : selected joined ≠ selected parts := by decide +kernel
    exact keys (by rw [selected, selected, Store.selectKeys, Store.selectKeys, same]; rfl)
  · have shown : (((inquiry guest joined).script.run store).1.toOption.map Value.text) ≠
        ((inquiry guest parts).script.run store).1.toOption.map Value.text := by decide +kernel
    exact shown (by rw [same])
  · decide +kernel
  · decide +kernel

theorem legible_parts : (page parts).Legible := ⟨by decide, .all, by decide⟩

theorem clear_parts (request : Request) (within : request.transaction = some "t") :
    Clear (plan request parts) (page parts) (plan request parts).listContext where
  selection := legible_parts
  outline _ entry mem := by
    obtain rfl := List.mem_singleton.1 mem
    have fields : ∀ field ∈ ["id", "data"], Unmarked field ∧ field ≠ "" := by decide
    exact ⟨by decide, fun field listed => fields field (NameSet.mem_ofList.1 listed)⟩
  fits := by
    have fits : ∀ component ∈ [(page parts).render.text, (page parts).render.paramsText, "t",
      (plan guest parts).listContext], Fits component := by decide +kernel
    change ∀ component ∈ [_, _, request.transaction.getD "", _], Fits component
    rw [within]
    exact fits

/-- The names of the relations to load do not matter, and the list is the same for everyone. -/
theorem lists_in_parts_agree :
    (∀ s : Store, s.select ((page parts).joining ["a,b"]) =
      s.select ((page parts).joining ["a", "b"])) ∧
    ∀ s, (inquiry guest parts).script.run s = (inquiry staff parts).script.run s := by
  obtain ⟨selections, inquiries⟩ := equal_keys_answer_alike engine
  exact ⟨selections _ _ (legible_parts.joining _) (legible_parts.joining _) rfl rfl,
    (inquiries _ _ _ _ _ _ _ _ _ keyed_parts keyed_staff (clear_parts guest rfl)
      (clear_parts staff rfl) (fun _ => rfl)).2⟩

end Samples

end GuardedQuery
