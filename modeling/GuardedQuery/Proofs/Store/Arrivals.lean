import GuardedQuery.Proofs.Store.Failures
import GuardedQuery.Proofs.Store.Inverses
import GuardedQuery.Proofs.Store.Mirrors
import Mathlib.Data.Option.Defs

/-! The order in which the rows of a store have come. A chronicle follows a store through calls and
transactions, and writes down for each model which keys have been inserted, in the order of their
latest insertions; what is rolled back was never written. In every table, rows and index lead to
each other, and the rows stand in the order of the chronicle. -/

namespace GuardedQuery

namespace Store

namespace Table
variable {t : Table} {keyName : String}

/-- Rows and index of a table are inverse to each other. -/
structure Inverse (keyName : String) (t : Table) : Prop where
  ordered : t.rows.Pairwise fun a b => a.1 < b.1
  counted : ∀ entry ∈ t.rows, entry.1 ≤ t.count
  /-- A row is indexed under the text of its key, and under no other text. -/
  keyed : ∀ entry ∈ t.rows, ∃ key, entry.2.get? keyName = some key ∧ key.isNull = false ∧
    ∀ text, t.index.get? text = some entry.1 ↔ text = keyText key
  stored : ∀ text n, t.index.get? text = some n → ∃ row, (n, row) ∈ t.rows

theorem Turns.inverse (turns : empty.Turns keyName t) : t.Inverse keyName := by
  have indexed := turns.indexed indexed_empty
  refine ⟨indexed.ordered, indexed.counted, fun entry mem => ?_, fun text n found => ?_⟩
  · obtain ⟨key, own, nonnull, numbered⟩ := indexed.keyed entry mem
    refine ⟨key, own, nonnull, fun text => ⟨fun found => ?_, fun same => same ▸ numbered⟩⟩
    obtain ⟨row, its, mem', own', led⟩ := turns.traced text entry.1 found
    rw [← indexed.eq_of_number mem' mem rfl] at own
    rw [← led, Option.some.inj (own'.symm.trans own)]
  · obtain ⟨row, _, mem, _⟩ := turns.traced text n found
    exact ⟨row, mem⟩

end Table

/-! Keys of rows, as texts -/

variable {s after : Store} {model target : String} {m : Model} {c : Catalog}

def keyTexts (m : Model) (rows : List Row) : List String := (keysOf m rows).map keyText

theorem keyTexts_append (rows others : List Row) :
    keyTexts m (rows ++ others) = keyTexts m rows ++ keyTexts m others := by
  rw [keyTexts, keysOf, List.filterMap_append, List.map_append]
  rfl

theorem keyTexts_sublist {rows others : List Row} (part : rows.Sublist others) :
    (keyTexts m rows).Sublist (keyTexts m others) := (part.filterMap _).map _

theorem keyTexts_congr {rows others : List Row}
    (same : List.Forall₂ (fun row other => other.get? m.schema.key = row.get? m.schema.key)
      rows others) : keyTexts m others = keyTexts m rows := by
  refine congrArg (List.map keyText) ?_
  induction same with
  | nil => rfl
  | cons here _ ih =>
    rw [keysOf, keysOf] at ih ⊢
    rw [List.filterMap_cons, List.filterMap_cons, here, ih]

/-- No two rows of a table share a key. -/
theorem Table.Indexed.keyTexts_nodup {t : Table} (h : t.Indexed m.schema.key) :
    (keyTexts m t.values).Nodup :=
  h.nodup_keyTexts (fun _ mem => mem) h.nodup_numbers

/-! What a call does to the keys of a table -/

/-- The rows that a call has inserted into the table of a model, as its reply tells. -/
def Call.inserted (model : String) :
    (call : Call) → Except GuardedQuery.Error call.Reply → List Row
  | .insert target _, .ok row => if target = model then [row] else []
  | .insertMany target _, .ok rows => if target = model then rows else []
  | _, _ => []

/-- The keys of a table are some of those that were there before, in the order they had, and behind
them those of new rows. -/
def Follows (s after : Store) (m : Model) (model : String) (new : List Row) : Prop :=
  ∃ kept, kept.Sublist (keyTexts m (s.table model).values) ∧
    keyTexts m (after.table model).values = kept ++ keyTexts m new

theorem follows_of_sublist (part : (keyTexts m (after.table model).values).Sublist
    (keyTexts m (s.table model).values)) : s.Follows after m model [] :=
  ⟨_, part, (List.append_nil _).symm⟩

theorem SameRows.follows (same : s.SameRows after) : s.Follows after m model [] :=
  follows_of_sublist (by rw [same model])

theorem Extends.follows {keyName : String} {rows new : List Row}
    (grows : s.Extends after target keyName rows)
    (stored : (s.added after target).map Prod.snd = new) :
    s.Follows after m model (if target = model then new else []) := by
  by_cases here : target = model
  · subst here
    refine ⟨_, .refl _, ?_⟩
    rw [if_pos rfl, ← keyTexts_append, Table.values, grows.appended, List.map_append, stored]
    rfl
  · rw [if_neg here]
    exact follows_of_sublist (by rw [grows.others model (Ne.symm here)])

theorem Replaces.follows {rows : List Row} {changes : Changes}
    (h : s.Replaces after target rows fun old now => s.changed target changes old = .ok now)
    (known : s.model model = .ok m) : s.Follows after m model [] := by
  apply follows_of_sublist
  by_cases here : model = target
  · subst here
    rw [keyTexts_congr (h.rows.imp fun old now each => ?_)]
    by_cases mem : old ∈ rows
    · exact changed_key known (each.1 mem)
    · rw [each.2 mem]
  · rw [h.others model here]

theorem deleteWhere_follows {sel : Selection} {keys : List Value}
    (done : s.deleteWhere sel = (.ok keys, after)) : s.Follows after m model [] := by
  apply follows_of_sublist
  by_cases here : model = sel.model
  · subst here
    rw [deleteWhere_ok done, table_withTable_self]
    exact keyTexts_sublist ((foldl_remove_sublist _ keys).map _)
  · rw [(deleteWhere_drops done).others model here]

theorem updateWhere_follows (indexed : s.Indexed) (known : s.model model = .ok m)
    {sel : Selection} {changes : Changes} {reply : Except GuardedQuery.Error (List Value)}
    (done : s.updateWhere sel changes = (reply, after)) : s.Follows after m model [] := by
  cases reply with
  | error e =>
    rcases updateWhere_fails indexed done with ⟨rfl, _⟩ | ⟨front, _, _, _, _, replaces, _⟩
    · exact (sameRows_refl _).follows
    · exact replaces.follows known
  | ok keys =>
    obtain ⟨_, _, _, _, _, replaces⟩ := updateWhere_replaces indexed done
    exact replaces.follows known

/-- After any call, the rows that it has inserted stand behind those that are left. -/
theorem answer_follows (indexed : s.Indexed) (known : s.model model = .ok m) (call : Call) :
    s.Follows (s.answer call).2 m model (call.inserted model (s.answer call).1) := by
  cases call with
  | select | count | aggregate | related => exact (sameRows_refl s).follows
  | insert target row =>
    rw [answer]
    match done : s.insert target row with
    | (.error e, after) => exact (sameRows_of_insert done).follows
    | (.ok stored, after) =>
      obtain ⟨_, _, grows⟩ := insert_extends done
      exact grows.follows (added_of_insert done)
  | insertMany target rows =>
    rw [answer]
    match done : s.insertMany target rows with
    | (.error e, after) =>
      rw [eq_of_insertMany_error done]
      exact (sameRows_refl s).follows
    | (.ok stored, after) =>
      obtain ⟨_, _, grows⟩ := insertMany_extends done
      exact grows.follows (added_of_insertMany done)
  | updateRow target key changes =>
    rw [answer]
    match done : s.updateRow target key changes with
    | (.error e, after) =>
      rw [eq_of_updateRow_error done]
      exact (sameRows_refl s).follows
    | (.ok now, after) =>
      obtain ⟨_, _, _, replaces, _⟩ := updateRow_replaces indexed done
      exact replaces.follows known
  | updateWhere sel changes => exact updateWhere_follows indexed known rfl
  | deleteWhere sel =>
    rw [answer]
    match done : s.deleteWhere sel with
    | (.error e, after) =>
      rw [eq_of_deleteWhere_error done]
      exact (sameRows_refl s).follows
    | (.ok keys, after) => exact deleteWhere_follows done

/-! Chronicles -/

/-- What a store is asked to do. A transaction that is dropped while it is open is rolled back. -/
inductive Act where
  | call (call : Call)
  | begin
  | commit
  | rollback
  | drop

/-- A store and the keys that have come into it. -/
structure Chronicle where
  store : Store
  /-- The keys of each model, in the order of their latest insertions. -/
  arrivals : String → List String
  /-- The arrivals as they were when the open transaction began. -/
  saved : Option (String → List String)

namespace Chronicle
variable {h : Chronicle}

def new (c : Catalog) : Chronicle := ⟨.ofCatalog c, fun _ => [], none⟩

/-- A key that comes again is the last to have come. -/
def arrive (keys : List String) (key : String) : List String := keys.filter (· != key) ++ [key]

/-- The keys of a model after those of more rows have come. -/
def arrived (h : Chronicle) (model : String) (rows : List Row) : List String :=
  match h.store.catalog.model? model with
  | some m => (keyTexts m rows).foldl arrive (h.arrivals model)
  | none => h.arrivals model

def step (h : Chronicle) : Act → Chronicle
  | .call call =>
    let (reply, after) := h.store.answer call
    { h with store := after, arrivals := fun model => h.arrived model (call.inserted model reply) }
  | .begin => ⟨h.store.begin, h.arrivals, some h.arrivals⟩
  | .commit => ⟨h.store.commit, h.arrivals, none⟩
  | .rollback | .drop => ⟨h.store.rollback, h.saved.getD h.arrivals, none⟩

def run (h : Chronicle) (acts : List Act) : Chronicle := acts.foldl step h

theorem arrived_of_model (known : h.store.catalog.model? model = some m) (rows : List Row) :
    h.arrived model rows = (keyTexts m rows).foldl arrive (h.arrivals model) := by
  rw [arrived, known]

/-- Keys that come behind others, and are not among them, come to the end of the arrivals. -/
theorem sublist_arrive {kept keys new : List String} (part : kept.Sublist keys)
    (distinct : (kept ++ new).Nodup) : (kept ++ new).Sublist (new.foldl arrive keys) := by
  induction new generalizing kept keys with
  | nil => rwa [List.append_nil]
  | cons key rest ih =>
    rw [List.append_cons] at distinct ⊢
    refine ih (List.Sublist.append ?_ (.refl _)) distinct
    have fresh : kept.filter (· != key) = kept := by
      refine List.filter_eq_self.2 fun other mem => bne_iff_ne.2 ?_
      rintro rfl
      have apart := (List.nodup_append.1 (List.nodup_append.1 distinct).1).2.2
      exact apart other mem other List.mem_cons_self rfl
    rw [← fresh]
    exact part.filter _

/-- The keys of every table have come in the order in which they stand. -/
def Recent (c : Catalog) (tables : Dict Table) (arrivals : String → List String) : Prop :=
  ∀ model m, c.model? model = some m →
    (keyTexts m ((tables.get? model).getD .empty).values).Sublist (arrivals model)

/-- The chronicle tells of the tables, and of those that are saved as well. -/
structure Faithful (c : Catalog) (h : Chronicle) : Prop where
  grown : h.store.Grown c
  recent : Recent c h.store.tables h.arrivals
  saved : Option.Rel (Recent c) h.store.saved h.saved

theorem faithful_new (c : Catalog) : (new c).Faithful c := ⟨.new, fun _ _ _ => .refl _, .none⟩

namespace Faithful

theorem call (faithful : h.Faithful c) (call : Call) : (h.step (.call call)).Faithful c := by
  have works := h.store.works_answer call
  have grown := faithful.grown.answer call
  refine ⟨grown, fun model m known => ?_, ?_⟩
  · obtain ⟨rfl, indexed⟩ := faithful.grown.spec
    obtain ⟨kept, part, keys⟩ := answer_follows indexed (model_ok_iff.2 known) call
    have distinct := (grown.spec.2.table (works.model_ok (model_ok_iff.2 known))).keyTexts_nodup
    change (keyTexts m ((h.store.answer call).2.table model).values).Sublist
      (h.arrived model (call.inserted model (h.store.answer call).1))
    rw [arrived_of_model known, keys]
    refine sublist_arrive (part.trans (faithful.recent model m known)) ?_
    rw [← keys]
    exact distinct
  · change Option.Rel _ (h.store.answer call).2.saved h.saved
    rw [works.saved]
    exact faithful.saved

theorem rollback (faithful : h.Faithful c) : (h.step .rollback).Faithful c := by
  refine ⟨faithful.grown.rollback, ?_, .none⟩
  have told := faithful.saved
  change Recent c (h.store.saved.getD h.store.tables) (h.saved.getD h.arrivals)
  cases opened : h.store.saved <;> cases written : h.saved <;> rw [opened, written] at told
  · exact faithful.recent
  · cases told
  · cases told
  · cases told with
    | some before => exact before

theorem step (faithful : h.Faithful c) (act : Act) : (h.step act).Faithful c := by
  cases act with
  | call call => exact faithful.call call
  | begin => exact ⟨faithful.grown.begin, faithful.recent, .some faithful.recent⟩
  | commit => exact ⟨faithful.grown.commit, faithful.recent, .none⟩
  | rollback | drop => exact faithful.rollback

theorem run (faithful : h.Faithful c) (acts : List Act) : (h.run acts).Faithful c := by
  induction acts generalizing h with
  | nil => exact faithful
  | cons act rest ih => exact ih (faithful.step act)

end Faithful

end Chronicle

/-! Tables of models -/

/-- No table is of a name that is no model. -/
def Declared (c : Catalog) (tables : Dict Table) : Prop :=
  ∀ model, c.model? model = none → tables.get? model = none

theorem Grown.declared (grown : s.Grown c) :
    Declared c s.tables ∧ ∀ old ∈ s.saved, Declared c old := by
  induction grown with
  | new => exact ⟨fun _ _ => rfl, nofun⟩
  | @answer s earlier call ih =>
    have works := s.works_answer call
    refine ⟨fun model none => ?_, by rw [works.saved]; exact ih.2⟩
    rw [works.unknown model (earlier.spec.1 ▸ none), ih.1 model none]
  | begin _ ih =>
    refine ⟨ih.1, fun old mem => ?_⟩
    cases mem
    exact ih.1
  | commit _ ih => exact ⟨ih.1, nofun⟩
  | @rollback s _ ih =>
    refine ⟨?_, nofun⟩
    change Declared c (s.saved.getD s.tables)
    cases opened : s.saved with
    | none => exact ih.1
    | some old => exact ih.2 old opened

/-- Whatever a store has been asked to do, every row of a table is indexed under the text of its key
and under no other text, all entries of the index lead to rows, and no number exceeds the counter.
So all keys differ, and without an order rows are selected as they have come. -/
theorem rows_and_indexes_are_inverse (c : Catalog) (acts : List Act) :
    (∀ model t, ((Chronicle.new c).run acts).store.tables.get? model = some t →
      ∃ m, c.model? model = some m ∧ t.Inverse m.schema.key ∧ (keyTexts m t.values).Nodup) ∧
    ∀ sel rows, sel.order = [] → ((Chronicle.new c).run acts).store.select sel = .ok rows →
      ∃ m, c.model? sel.model = some m ∧
        rows.Sublist (((Chronicle.new c).run acts).store.table sel.model).values ∧
        (keyTexts m rows).Sublist (((Chronicle.new c).run acts).arrivals sel.model) := by
  have faithful := (Chronicle.faithful_new c).run acts
  obtain ⟨same, turned, _⟩ := faithful.grown.turned
  constructor
  · intro model t found
    cases known : c.model? model with
    | none => cases found.symm.trans (faithful.grown.declared.1 model known)
    | some m =>
      have turns := turned model m known
      rw [found] at turns
      exact ⟨m, rfl, turns.inverse, (turns.indexed Table.indexed_empty).keyTexts_nodup⟩
  · intro sel rows unordered selected
    obtain ⟨m, known⟩ := model_of_select selected
    rw [model_ok_iff, same] at known
    have part := select_sublist unordered selected
    exact ⟨m, known, part, (keyTexts_sublist part).trans (faithful.recent sel.model m known)⟩

end Store

/-! A line of guests -/

namespace Guests

def model : Model := Model.ofSchema (Schema.ofKey "guest" "id")

def catalog : Catalog := ⟨.ofList [("guest", model)]⟩

def guest (id : Int) : Row := [("id", .int id)]

/-- The first guest leaves and comes again; the third one comes, and this is taken back. -/
def acts : List Store.Act :=
  [.call (.insertMany "guest" [guest 1, guest 2]),
    .call (.deleteWhere ((Selection.ofModel "guest").withKeys [.int 1])),
    .call (.insert "guest" (guest 1)), .begin, .call (.insert "guest" (guest 3)), .drop]

def line : Store.Chronicle := (Store.Chronicle.new catalog).run acts

/-- Who has left comes in again at the end. What is taken back leaves no trace, not even of its
number. -/
theorem returning_guest_is_last :
    ∃ t, line.store.tables.get? "guest" = some t ∧ t.Inverse "id" ∧
      t.rows = [(2, guest 2), (3, guest 1)] ∧ t.count = 3 ∧
      t.index.get? "1" = some 3 ∧ t.index.get? "2" = some 2 ∧ t.index.get? "3" = none ∧
      line.arrivals "guest" = ["2", "1"] ∧
      line.store.select (.ofModel "guest") = .ok [guest 2, guest 1] ∧
      (Store.keyTexts model [guest 2, guest 1]).Sublist (line.arrivals "guest") := by
  obtain ⟨tables, queries⟩ := Store.rows_and_indexes_are_inverse catalog acts
  obtain ⟨m, known, inverse, _⟩ := tables "guest" _ rfl
  cases known
  have selected : line.store.select (.ofModel "guest") = .ok [guest 2, guest 1] := rfl
  obtain ⟨m, known, _, recent⟩ := queries _ _ rfl selected
  cases known
  exact ⟨_, rfl, inverse, rfl, rfl, rfl, rfl, rfl, rfl, selected, recent⟩

end Guests

end GuardedQuery
