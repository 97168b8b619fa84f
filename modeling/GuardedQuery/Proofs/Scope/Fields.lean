import GuardedQuery.Proofs.Cache.Contexts
import GuardedQuery.Proofs.Engine.Transactions
import GuardedQuery.Proofs.Presentation.Objects
import GuardedQuery.Proofs.Presentation.Outlines

/-! The fields that answers show. Every row is shown by its key and by fields that the caller can
read, no deeper than was asked for and than the rules allow. A cached list is the exception: its
key tells the text of its outline only, and outlines of different fields can have one text. -/

namespace GuardedQuery

/-- The objects that are shown have only keys that the caller can read, besides the primary keys,
and are nested no deeper than the depth. -/
def Access.Confines (a : Access) (depth : Nat) (d : Display) : Prop :=
  ∀ object ∈ d.objects, object.level ≤ depth ∧ ∃ m, a.catalog.get object.model = .ok m ∧
    ∀ key ∈ object.keys, key = m.schema.key ∨ key ∈ m.fields a.request .read

theorem Access.confines_of_within {a : Access} {depth : Nat} {d : Display}
    (same : d.access.catalog = a.catalog) (deep : d.levels ≤ depth)
    (within : d.outline.Within (a.fieldsOf .read)) : a.Confines depth d := by
  intro object mem
  obtain ⟨level, m, found, keys⟩ := Display.fits_of_mem_objects mem
  rw [same] at found
  refine ⟨Nat.le_trans level deep, m, found, fun key shown => (keys key shown).imp_right ?_⟩
  intro listed
  rw [← Access.fieldsOf_eq found]
  exact within object.model key listed

namespace Plan
variable {p : Plan}

/-- The value shows rows from the store, with fields that the plan's caller can read. -/
def Confined (p : Plan) (value : Value) (_ : Store) : Prop :=
  ∃ d : Display, d.Shows value ∧ p.access.Confines p.depth d

/-- The value shows rows just as the plan would, whoever it was made for. -/
def ShowsAlike (p : Plan) (value : Value) (_ : Store) : Prop :=
  ∃ d : Display, d.Shows value ∧ d.access = p.access ∧ d.outline = p.outline ∧ d.levels = p.depth

theorem ends_presentAll_alike (rows : List Row) : (p.presentAll rows).Ends p.ShowsAlike :=
  Access.ends_presentAll fun s cards made =>
    ⟨⟨p.access, s, p.outline, p.depth, p.name, rows, cards, made⟩, .inl rfl, rfl, rfl, rfl⟩

variable (own : p.access.catalog.get p.name = .ok p.model)
  (within : p.outline.Within (p.access.fieldsOf .read))
include own within

theorem shows_confined : p.Shows p.Confined where
  null s := ⟨.none p.access s p.name, .inr (.inr ⟨rfl, rfl⟩), nofun⟩
  present row := Access.ends_present fun s card made =>
    ⟨.single p.access s p.outline p.depth p.name row card made, .inr (.inl ⟨card, rfl, rfl⟩),
      Access.confines_of_within rfl (Nat.le_refl _) within⟩
  presentAll rows := Access.ends_presentAll fun s cards made =>
    ⟨⟨p.access, s, p.outline, p.depth, p.name, rows, cards, made⟩, .inl rfl,
      Access.confines_of_within rfl (Nat.le_refl _) within⟩
  updated names rows := Access.ends_presentAll fun s cards made =>
    ⟨⟨p.access, s, p.updateOutline names, 0, p.name, rows, cards, made⟩, .inl rfl,
      Access.confines_of_within rfl (Nat.zero_le _) (within_updateOutline own names)⟩

end Plan

namespace Engine
variable {e : Engine} {st st' : State} {model : String} {q : Query} {request : Request}
  {r : Response} {deliveries : List Delivery}

/-- The value was computed for the inquiry of another plan whose key is that of the plan's own
list, though the contexts differ or the outlines do that have one text. -/
structure Mistakes (e : Engine) (p other : Plan) (value : Value) : Prop where
  planned : e.Planned other
  taken : ∃ selection context inquiry own key s, e.Inquires other selection context inquiry ∧
    p.listInquiry e.defaultLimit = .ok own ∧ own.job.key = some key ∧
    inquiry.job.key = some key ∧ (inquiry.script.run s).1 = .ok value ∧
    (context ≠ p.listContext ∨ other.outline.text = p.outline.text ∧ other.outline ≠ p.outline)

/-- An inquiry with the context of a list is that of a list of the same depth, whose outline has the
same text. -/
theorem Inquires.list_of_context {p other : Plan} {selection : Selection} {context : String}
    {inquiry : Inquiry} (inquires : e.Inquires other selection context inquiry)
    (same : context = p.listContext) :
    other.listInquiry e.defaultLimit = .ok inquiry ∧ other.depth = p.depth ∧
      other.outline.text = p.outline.text := by
  cases inquires with
  | aggregate _ => exact absurd same.symm (p.listContext_ne_aggregate _ _)
  | list _ listed => exact ⟨listed, Plan.listContext_inj same⟩

/-- What the cache holds under the key of a list shows the fields of the list, unless the list is
taken for another inquiry. -/
theorem confined_of_hits {p : Plan} (planned : e.Planned p) (reached : e.Reached st)
    (hit : p.Hits e.defaultLimit st r)
    (within : p.outline.Within (p.access.fieldsOf .read)) :
    (∃ d : Display, d.Shows r.data ∧ p.access.Confines p.depth d) ∨
      ∃ other, e.Mistakes p other r.data := by
  obtain ⟨own, key, made, named, found⟩ := hit.found
  obtain ⟨other, selection, context, inquiry, s, planned', inquires, named', computed⟩ :=
    recorded_of_reached reached key r.data found
  have mistaken (differ : context ≠ p.listContext ∨
      other.outline.text = p.outline.text ∧ other.outline ≠ p.outline) :
      ∃ other, e.Mistakes p other r.data :=
    ⟨other, planned', selection, context, inquiry, own, key, s, inquires, made, named, named',
      computed, differ⟩
  by_cases same : context = p.listContext
  case neg => exact .inr (mistaken (.inl same))
  obtain ⟨listed, depth, text⟩ := inquires.list_of_context same
  by_cases outline : other.outline = p.outline
  case neg => exact .inr (mistaken (.inr ⟨text, outline⟩))
  obtain ⟨d, shows, accessed, outlined, deep⟩ :=
    Plan.listInquiry_ends Plan.ends_presentAll_alike listed s r.data _ (Prod.ext computed rfl)
  refine .inl ⟨d, shows, Access.confines_of_within ?_ ?_ ?_⟩
  · rw [accessed, planned'.catalog, planned.catalog]
  · exact Nat.le_of_eq (deep.trans depth)
  · rwa [outlined, outline]

/-- Answers of all operations show rows by their keys and by fields that the caller can read, and
showing a row always comes to an end. A list that is answered from the cache does so unless its
key is also that of a list with another outline of the same text. -/
theorem answers_show_readable_fields (reached : e.Reached st)
    (executed : e.execute model q request st = (⟨.ok r, deliveries⟩, st')) :
    ∃ p, (e.accessOf request).plan model q = .ok p ∧ r.Flagged p.keyName ∧
      (∀ s row, (p.present row).run s =
        ((p.access.card s p.outline p.depth p.name row).map Card.value, s)) ∧
      ((r.kind = .number ∨ r.kind = .truth) ∨
        (∃ d : Display, d.Shows r.data ∧
          (e.accessOf request).Confines (min q.depth e.rules.maxDepth) d) ∨
        q.operation = .read ∧ ∃ other, e.Mistakes p other r.data) := by
  have facts (p : Plan) (planned : (e.accessOf request).plan model q = .ok p) :
      p.access.catalog.get p.name = .ok p.model ∧
        p.outline.Within (p.access.fieldsOf .read) := by
    have plans := Access.plans_of_plan planned
    rw [plans.accessed, plans.named]
    exact ⟨plans.found, Access.within_outline plans.outlined⟩
  obtain ⟨p, planned, result⟩ := execute_shows
    (fun p planned => Plan.shows_confined (facts p planned).1 (facts p planned).2) executed
  have plans := Access.plans_of_plan planned
  have depth : p.depth = min q.depth e.rules.maxDepth := plans.deep
  refine ⟨p, planned, ?_, fun s row => Access.run_present _ _ _ _ row s, ?_⟩
  · rcases result with ⟨_, _, _, flagged⟩ | ⟨_, hit⟩
    · exact flagged
    · exact hit.flagged
  · rw [← plans.accessed, ← depth]
    rcases result with ⟨_, _, number | truth | shown, _⟩ | ⟨read, hit⟩
    · exact .inl (.inl number)
    · exact .inl (.inr truth)
    · exact .inr (.inl shown)
    · refine .inr ((confined_of_hits ⟨request, model, q, planned⟩ reached hit
        (facts p planned).2).imp_right fun mistaken => ⟨read, mistaken⟩)

end Engine

/-! Offers with a column whose name reads like a list of two others -/

namespace Offers

/-- Staff reads the summary of an offer, and everyone else its parts. -/
def readable (request : Request) : List String :=
  if request.identity.isStaff then ["id", "net,tax"] else ["id", "net", "tax"]

def offer : Model :=
  { Model.ofSchema ((((Schema.ofKey "offer" "id").withField ⟨"net", .scalar⟩).withField
      ⟨"tax", .scalar⟩).withField ⟨"net,tax", .scalar⟩) with
    guards := [{ Guard.reading [] with
      fields := fun request _ => .only (.ofList (readable request)) }] }

def engine : Engine := ⟨⟨.ofList [("offer", offer)]⟩, .default, none, fun _ => .ok ()⟩

def row : Row :=
  [("id", .int 1), ("net", .int 10), ("net,tax", .str "10 at 20%"), ("tax", .int 2)]

def store : Store := ((Store.ofCatalog engine.catalog).insert "offer" row).2

def fresh : Engine.State := ⟨store, .ofSettings .default⟩

def staff : Request := { Request.anonymous with
  identity := .staff (.int 1)
  transaction := some "t" }

def guest : Request := { Request.anonymous with transaction := some "t" }

/-- The state after a list for staff. -/
def listed : Engine.State := (engine.execute "offer" (.plain .read) staff fresh).2

/-- The keys of each object of a list. -/
def keysOf (data : Value) : Option (List (Option (List String))) :=
  data.arr?.map fun items => items.map fun item => item.obj?.map Entries.names

theorem items_of_keysOf {data : Value} {keys : List String} (h : keysOf data = some [some keys]) :
    ∃ shown : Row, data = .arr [.obj shown] ∧ shown.names = keys := by
  cases data <;> simp [keysOf, Value.arr?] at h
  rename_i items
  obtain ⟨item, rfl, shown⟩ := h
  cases item <;> simp [Value.obj?] at shown
  rename_i entries
  exact ⟨entries, rfl, shown⟩

theorem summary_not_confined {data : Value} (keys : keysOf data = some [some ["id", "net,tax"]])
    {d : Display} (shows : d.Shows data) : ¬ (engine.accessOf guest).Confines 0 d := by
  intro confined
  obtain ⟨shown, rfl, names⟩ := items_of_keysOf keys
  obtain ⟨object, mem, _, same⟩ := Display.exists_object shows List.mem_cons_self
  obtain ⟨_, m, found, all⟩ := confined object mem
  obtain rfl : m = offer := by
    have only : Entries.get? [("offer", offer)] object.model = some m := Catalog.get_ok_iff.1 found
    rw [Entries.get?_cons] at only
    split at only <;> cases only
    rfl
  have readable : "net,tax" = offer.schema.key ∨ "net,tax" ∈ offer.fields guest .read :=
    all "net,tax" (by rw [same, names]; decide)
  revert readable
  decide +kernel

/-- The guest is answered with the summary that was cached for staff. -/
theorem summary_is_shown_to_guests :
    Catalog.build [offer] = .ok engine.catalog ∧ engine.Reached listed ∧
    ∃ (r : Response) (deliveries : List Delivery) (after : Engine.State),
      engine.execute "offer" (.plain .read) guest listed = (⟨.ok r, deliveries⟩, after) ∧
      keysOf r.data = some [some ["id", "net,tax"]] ∧
      ∀ d : Display, d.Shows r.data → ¬ (engine.accessOf guest).Confines 0 d := by
  have keys : (engine.execute "offer" (.plain .read) guest listed).1.answer.toOption.map
      (fun r => keysOf r.data) = some (some [some ["id", "net,tax"]]) := by decide +kernel
  have ok : (engine.execute "offer" (.plain .read) guest listed).1.answer.isOk = true := by
    decide +kernel
  obtain ⟨r, deliveries, after, executed⟩ := Engine.executed_of_isOk ok
  rw [executed] at keys
  have shown : keysOf r.data = some [some ["id", "net,tax"]] := Option.some.inj keys
  exact ⟨rfl, .step (.start store .default) "offer" (.plain .read) staff, r, deliveries, after,
    executed, shown, fun d shows => summary_not_confined shown shows⟩

/-- The first offer is shown to a guest with what the guest can read. -/
theorem first_offer_is_confined :
    ∃ (r : Response) (deliveries : List Delivery) (after : Engine.State) (d : Display),
      engine.execute "offer" (.plain .first) guest listed = (⟨.ok r, deliveries⟩, after) ∧
      d.Shows r.data ∧ (engine.accessOf guest).Confines 0 d := by
  have kind : (engine.execute "offer" (.plain .first) guest listed).1.answer.toOption.map
      Response.kind = some .row := by decide +kernel
  have ok : (engine.execute "offer" (.plain .first) guest listed).1.answer.isOk = true := by
    decide +kernel
  obtain ⟨r, deliveries, after, executed⟩ := Engine.executed_of_isOk ok
  rw [executed] at kind
  have row : r.kind = .row := Option.some.inj kind
  obtain ⟨p, _, _, _, (number | truth) | ⟨d, shows, confined⟩ | ⟨read, _⟩⟩ :=
    Engine.answers_show_readable_fields
      (.step (.start store .default) "offer" (.plain .read) staff) executed
  · rw [row] at number
    cases number
  · rw [row] at truth
    cases truth
  · exact ⟨r, deliveries, after, d, executed, shows, confined⟩
  · cases read

end Offers

end GuardedQuery
