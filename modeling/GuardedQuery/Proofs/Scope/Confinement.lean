import GuardedQuery.Proofs.Scope.Composition
import Mathlib

/-! Every read of the rows of a model stays within the model's scope, however the selection of the
query is ordered, reversed or looked at through a window. -/

namespace GuardedQuery.Access

/-- The call looks at rows of the model only, and at those in scope only. -/
def KeepsTo (a : Access) (m : Model) (model : String) (c : Store.Call) : Prop :=
  ∀ sel ∈ c.selection?, sel.model = model ∧
    ∀ (s : Store) (rows : List Row), s.select sel = .ok rows →
      ∀ row ∈ rows, s.Stored model row ∧ a.InScope m s model row

variable {a : Access} {m : Model} {model : String} {q : Query} {sel : Selection}

theorem inScope_of_accepts (found : a.catalog.get model = .ok m) (guarded : m.guards ≠ [])
    (selected : a.selection model q = .ok sel) {s : Store} {row : Row}
    (accepted : s.Accepts model row sel.predicate) :
    a.InScope m s model row ∧ a.Asked m s model row q := by
  obtain ⟨admitted, notHidden, asked⟩ :=
    ((selection_spec found guarded selected).2 s row).1 accepted
  obtain ⟨p, listed, holds⟩ := Store.exists_of_accepts_anyOf admitted
  obtain ⟨g, mem, rfl⟩ := List.mem_map.1 listed
  exact ⟨⟨⟨g, mem, holds⟩, notHidden⟩, asked⟩

theorem accepts_of_inScope (found : a.catalog.get model = .ok m) (guarded : m.guards ≠ [])
    (selected : a.selection model q = .ok sel) {s : Store} {row : Row}
    (decided : ∀ g ∈ m.guards, s.Decides model row (g.admitted a.request))
    (inside : a.InScope m s model row) (asked : a.Asked m s model row q) :
    s.Accepts model row sel.predicate := by
  refine ((selection_spec found guarded selected).2 s row).2 ⟨?_, inside.notHidden, asked⟩
  rw [Store.accepts_anyOf_iff (List.forall_mem_map.2 decided)]
  obtain ⟨g, mem, holds⟩ := inside.admitted
  exact ⟨_, List.mem_map_of_mem mem, holds⟩

theorem inScope_of_mem_select (found : a.catalog.get model = .ok m) (guarded : m.guards ≠ [])
    (selected : a.selection model q = .ok sel) {s : Store} {arranged : Selection}
    {rows : List Row} (same : sel.Arranges arranged) (yielded : s.select arranged = .ok rows) :
    ∀ row ∈ rows, s.Stored model row ∧ a.InScope m s model row := by
  intro row mem
  have about := (selection_spec found guarded selected).1
  obtain ⟨stored, accepted⟩ := Store.accepts_of_mem_select yielded mem
  rw [same.1, about] at stored accepted
  rw [same.2] at accepted
  exact ⟨stored, (inScope_of_accepts found guarded selected accepted).1⟩

theorem keepsTo_of_readsWithin (found : a.catalog.get model = .ok m) (guarded : m.guards ≠ [])
    (selected : a.selection model q = .ok sel) {c : Store.Call} (within : c.ReadsWithin sel) :
    a.KeepsTo m model c := by
  have about := (selection_spec found guarded selected).1
  cases c with
  | select arranged | count arranged | aggregate arranged =>
    rintro _ ⟨⟩
    exact ⟨within.1.trans about, fun _ _ => inScope_of_mem_select found guarded selected within⟩
  | related => simp [KeepsTo, Store.Call.selection?]
  | insert | insertMany | updateRow | updateWhere | deleteWhere => exact within.elim

/-- The selection of a query accepts the rows in scope that the query asks for, and these only.
Whatever order, window or reversal is put upon it, and whichever operation reads through it, the
rows of the model that are looked at are in scope. -/
theorem selection_stays_in_scope (found : a.catalog.get model = .ok m) (guarded : m.guards ≠ [])
    (selected : a.selection model q = .ok sel) :
    (∀ (s : Store) (row : Row),
      (∀ g ∈ m.guards, s.Decides model row (g.admitted a.request)) →
      (s.Accepts model row sel.predicate ↔
        a.InScope m s model row ∧ a.Asked m s model row q)) ∧
    (∀ (s : Store) (arranged : Selection) (rows : List Row), sel.Arranges arranged →
      s.select arranged = .ok rows →
      ∀ row ∈ rows, s.Stored model row ∧ a.InScope m s model row) ∧
    (∀ (e : Engine) (p : Plan) (run : Engine.Run Response), a.plan model q = .ok p →
      e.handling p = .reading run → run.Asks (a.KeepsTo m model)) := by
  refine ⟨fun s row decided => ⟨inScope_of_accepts found guarded selected, ?_⟩, ?_, ?_⟩
  · rintro ⟨inside, asked⟩
    exact accepts_of_inScope found guarded selected decided inside asked
  · intro s arranged rows same yielded
    exact inScope_of_mem_select found guarded selected same yielded
  · intro e p run planned reading
    have plans := plans_of_plan planned
    obtain rfl : sel = p.selection := Except.ok.inj (selected.symm.trans plans.selected)
    exact (p.asks_handling reading).mono fun _ => keepsTo_of_readsWithin found guarded selected

/-- Notes of their owner or shared with all, unless they are archived. -/
def notes : Model :=
  { Model.ofSchema ((((Schema.ofKey "note" "id").withField ⟨"owner", .scalar⟩).withField
      ⟨"shared", .scalar⟩).withField ⟨"archived", .scalar⟩) with
    guards := [
      { Guard.allowAll with admitted := fun _ => .eq "owner" (.str "ann") },
      { Guard.allowAll with
        admitted := fun _ => .eq "shared" (.bool true)
        hidden := fun _ => .eq "archived" (.bool true) }] }

def notesAccess : Access := ⟨⟨.ofList [("note", notes)]⟩, .anonymous, .default⟩

def sharedNote : Row := [("id", .int 1), ("owner", .str "bob"), ("shared", .bool true)]

def archivedNote : Row := [("archived", .bool true), ("id", .int 2), ("owner", .str "ann")]

def notesStore : Store :=
  ((Store.ofCatalog notesAccess.catalog).insertMany "note" [sharedNote, archivedNote]).2

def notesSelection : Selection := (notes.scope notesAccess.request (.ofModel "note")).narrow .all

theorem notes_stay_in_scope :
    notesAccess.selection "note" (.plain .last) = .ok notesSelection ∧
    (notesStore.Accepts "note" sharedNote notesSelection.predicate ↔
      notesAccess.InScope notes notesStore "note" sharedNote ∧
        notesAccess.Asked notes notesStore "note" sharedNote (.plain .last)) ∧
    notesStore.select notesSelection.reversed = .ok [sharedNote] ∧
    notesAccess.InScope notes notesStore "note" sharedNote ∧
    ∃ p, notesAccess.plan "note" (.plain .last) = .ok p ∧
      Engine.Run.Asks (notesAccess.KeepsTo notes "note") (Engine.Run.ofScript p.last) := by
  have selected : notesAccess.selection "note" (.plain .last) = .ok notesSelection := rfl
  have yielded : notesStore.select notesSelection.reversed = .ok [sharedNote] := by cbv
  obtain ⟨exact, confined, operations⟩ :=
    selection_stays_in_scope (m := notes) rfl (List.cons_ne_nil _ _) selected
  have decided : ∀ g ∈ notes.guards,
      notesStore.Decides "note" sharedNote (g.admitted notesAccess.request) := by
    simp only [notes, List.forall_mem_cons, Store.Decides, Predicate.eq, Predicate.conditions]
    exact ⟨⟨⟨false, by cbv⟩, by simp⟩, ⟨⟨true, by cbv⟩, by simp⟩, by simp⟩
  obtain ⟨p, planned, op⟩ : ∃ p, notesAccess.plan "note" (.plain .last) = .ok p ∧
      p.query.operation = .last := ⟨_, by rfl, rfl⟩
  refine ⟨selected, exact notesStore sharedNote decided, yielded, ?_, p, planned, ?_⟩
  · exact (confined _ _ _ notesSelection.arranges_reversed yielded _ List.mem_cons_self).2
  · refine operations ⟨notesAccess.catalog, .default, none, fun _ => .ok ()⟩ p _ planned ?_
    rw [Engine.handling, op]

end GuardedQuery.Access
