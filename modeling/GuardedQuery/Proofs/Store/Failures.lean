import GuardedQuery.Proofs.Store.Updates

/-! Calls that fail. A call that has failed leaves every row as it was, with one exception: an update
of selected rows ends at the first row that cannot be changed, and the rows before it stay changed.
-/

namespace GuardedQuery

namespace Store
variable {s after : Store} {model : String} {e : Error}

/-- All tables have the rows that they had. -/
def SameRows (s after : Store) : Prop :=
  ∀ model, (after.table model).values = (s.table model).values

theorem sameRows_refl (s : Store) : s.SameRows s := fun _ => rfl

theorem sameRows_withTable {t : Table} (same : t.rows = (s.table model).rows) :
    s.SameRows (s.withTable model t) := by
  intro other
  by_cases here : other = model
  · subst here
    rw [table_withTable_self, Table.values, same]
    rfl
  · rw [table_withTable_of_ne t here]

/-! Calls that write all or nothing -/

theorem Table.rows_of_insertKeyed_error {t after : Table} {key : Value} {row : Row}
    (failed : t.insertKeyed model key row = (.error e, after)) : after.rows = t.rows := by
  rw [insertKeyed] at failed
  split at failed
  · cases failed
    rfl
  · cases failed

/-- A refused row may still have raised the greatest key, but it is not in the table. -/
theorem Table.rows_of_insert_error {t after : Table} {keyName : String} {row : Row}
    (failed : t.insert model keyName row = (.error e, after)) : after.rows = t.rows := by
  rw [insert] at failed
  split at failed
  · exact rows_of_insertKeyed_error failed
  · split at failed
    · exact rows_of_insertKeyed_error failed
    · cases failed
      rfl

theorem sameRows_of_insert {row : Row} (failed : s.insert model row = (.error e, after)) :
    s.SameRows after := by
  rw [Store.insert] at failed
  split at failed
  · cases failed
    exact sameRows_refl s
  · rename_i m known
    obtain ⟨refused, rfl⟩ := Prod.mk.inj failed
    exact sameRows_withTable (Table.rows_of_insert_error (Prod.ext refused rfl))

theorem eq_of_insertMany_error {rows : List Row}
    (failed : s.insertMany model rows = (.error e, after)) : after = s := by
  rw [insertMany] at failed
  split at failed
  · cases failed
    rfl
  · split at failed
    · cases failed
      rfl
    · cases failed

theorem eq_of_updateRow_error {key : Value} {changes : Changes} {e : GuardedQuery.Error}
    (failed : s.updateRow model key changes = (.error e, after)) : after = s := by
  rw [updateRow] at failed
  split at failed
  · cases failed
    rfl
  · split at failed
    · cases failed
      rfl
    · cases failed

theorem eq_of_deleteWhere_error {sel : Selection}
    (failed : s.deleteWhere sel = (.error e, after)) : after = s := by
  rw [deleteWhere] at failed
  split at failed
  · cases failed
    rfl
  · cases failed

/-- A failure that is reported to the caller is one of the store. -/
theorem of_settle_error {α : Type} {outcome : Except Error α × Store} {e : GuardedQuery.Error}
    (failed : settle outcome = (.error e, after)) :
    ∃ reason, outcome = (.error reason, after) := by
  obtain ⟨result, left⟩ := outcome
  cases result with
  | error reason =>
    obtain ⟨_, rfl⟩ := Prod.mk.inj failed
    exact ⟨reason, rfl⟩
  | ok => cases failed

/-! Updates of selected rows -/

variable {sel : Selection} {changes : Changes}

/-- Replaced rows are the rows that there were iff each of them has become itself. -/
theorem Replaces.sameRows_iff {rows : List Row} {f : Row → Except GuardedQuery.Error Row}
    (h : s.Replaces after model rows fun old now => f old = .ok now)
    (inside : ∀ row ∈ rows, row ∈ (s.table model).values) :
    s.SameRows after ↔ ∀ old ∈ rows, f old = .ok old := by
  constructor
  · intro same old mem
    have each := h.rows
    rw [same model, List.forall₂_same] at each
    exact (each old (inside old mem)).1 mem
  · intro fixed other
    by_cases here : other = model
    · subst here
      have equal : List.Forall₂ Eq (s.table other).values (after.table other).values := by
        refine h.rows.imp fun old now each => ?_
        by_cases mem : old ∈ rows
        · exact Except.ok.inj ((fixed old mem).symm.trans (each.1 mem))
        · exact (each.2 mem).symm
      rw [List.forall₂_eq_eq_eq] at equal
      exact equal.symm
    · rw [h.others other here]

theorem updateWhere_fails (indexed : s.Indexed) {e : GuardedQuery.Error}
    (failed : s.updateWhere sel changes = (.error e, after)) :
    (after = s ∧ ∃ reason, s.select sel = .error reason) ∨
      ∃ front row back, s.select sel = .ok (front ++ row :: back) ∧
        s.changed sel.model changes row = .error e ∧
        (s.Replaces after sel.model front fun old now =>
          s.changed sel.model changes old = .ok now) ∧
        (s.SameRows after ↔ ∀ old ∈ front, s.changed sel.model changes old = .ok old) := by
  have updating := updateWhere_updating indexed sel changes
  rw [failed] at updating
  generalize ended : (Except.error e : Except GuardedQuery.Error (List Value)) = outcome
    at updating
  cases updating with
  | unselected fails same => exact .inl ⟨same, _, fails⟩
  | selected m picked known rows inside rewriting =>
    cases rewriting with
    | done => cases ended
    | failed front entry back split fails some =>
      obtain rfl := Except.error.inj ended
      subst split
      have inside : ∀ other ∈ front, other ∈ (s.table sel.model).rows := fun other mem =>
        inside other (List.mem_append_left _ mem)
      have replaces := some.replaces (indexed.table known) inside
      refine .inr ⟨front.map Prod.snd, entry.2, back.map Prod.snd, ?_, fails, replaces, ?_⟩
      · rw [rows, List.map_append, List.map_cons]
      · apply replaces.sameRows_iff
        intro row mem
        obtain ⟨other, among, rfl⟩ := List.mem_map.1 mem
        exact List.mem_map_of_mem (inside other among)

/-- A call that fails leaves all rows as they were, unless it updates selected rows. Such an update
fails with its selection, or else at a row that cannot be changed. It has then replaced the rows
selected before that one, and all rows are what they were iff none of these was changed by it. -/
theorem failed_calls_keep_rows {c : Catalog} (grown : s.Grown c) {call : Call}
    {e : GuardedQuery.Error} (failed : s.answer call = (.error e, after)) :
    match call with
    | .updateWhere sel changes =>
      (after = s ∧ ∃ reason, s.select sel = .error reason) ∨
        ∃ front row back, s.select sel = .ok (front ++ row :: back) ∧
          s.changed sel.model changes row = .error e ∧
          (s.Replaces after sel.model front fun old now =>
            s.changed sel.model changes old = .ok now) ∧
          (s.SameRows after ↔ ∀ old ∈ front, s.changed sel.model changes old = .ok old)
    | _ => s.SameRows after := by
  cases call with
  | select | count | aggregate | related =>
    have same := (Prod.mk.inj failed).2
    exact same ▸ sameRows_refl s
  | insert model row =>
    obtain ⟨reason, failed⟩ := of_settle_error failed
    exact sameRows_of_insert failed
  | insertMany model rows =>
    obtain ⟨reason, failed⟩ := of_settle_error failed
    exact eq_of_insertMany_error failed ▸ sameRows_refl s
  | updateRow model key changes => exact eq_of_updateRow_error failed ▸ sameRows_refl s
  | updateWhere sel changes => exact updateWhere_fails grown.spec.2 failed
  | deleteWhere sel =>
    obtain ⟨reason, failed⟩ := of_settle_error failed
    exact eq_of_deleteWhere_error failed ▸ sameRows_refl s

end Store

namespace Amounts

def item : Model :=
  Model.ofSchema ((Schema.ofKey "item" "id").withField ⟨"amount", .scalar⟩)

def catalog : Catalog := ⟨.ofList [("item", item)]⟩

def counted (id : Int) (amount : Value) : Row := [("amount", amount), ("id", .int id)]

/-- The amount of the second item is a text. -/
def store : Store :=
  ((Store.ofCatalog catalog).answer
    (.insertMany "item" [counted 1 (.int 5), counted 2 (.str "many")])).2

theorem store_grown : store.Grown catalog := Store.Grown.new.answer _

def raise : Changes :=
  [("amount", .compute (.binary .add (.field "amount") (.constant (.int 1))))]

/-- Outside of a transaction, an update fails at the second item and leaves the first one changed.
-/
theorem failed_update_changes_first_item :
    store.Grown catalog ∧ store.saved = none ∧
    (store.table "item").values = [counted 1 (.int 5), counted 2 (.str "many")] ∧
    ∃ e after, store.answer (.updateWhere (.ofModel "item") raise) = (.error e, after) ∧
      (after.table "item").values = [counted 1 (.int 6), counted 2 (.str "many")] ∧
      ¬ store.SameRows after := by
  refine ⟨store_grown, rfl, rfl, _, _, rfl, rfl, fun same => ?_⟩
  have first : counted 1 (.int 6) = counted 1 (.int 5) := (List.cons.inj (same "item")).1
  simp [counted, Value.int] at first

/-- What is left of the update is the raise of the first item. -/
theorem raise_stops_behind_first_item :
    ∃ e after, store.answer (.updateWhere (.ofModel "item") raise) = (.error e, after) ∧
      store.Replaces after "item" [counted 1 (.int 5)]
        fun old now => store.changed "item" raise old = .ok now := by
  have selected : store.select (.ofModel "item") =
    .ok [counted 1 (.int 5), counted 2 (.str "many")] := rfl
  have raised : store.changed "item" raise (counted 1 (.int 5)) = .ok (counted 1 (.int 6)) := rfl
  refine ⟨_, _, rfl, ?_⟩
  have stopped : store.answer (.updateWhere (.ofModel "item") raise) = (.error _, _) := rfl
  rcases Store.failed_calls_keep_rows store_grown stopped with
    ⟨_, reason, unselected⟩ | ⟨front, row, back, rows, fails, replaces, _⟩
  · cases selected.symm.trans unselected
  have split := Except.ok.inj (selected.symm.trans rows)
  cases front with
  | nil =>
    obtain rfl := (List.cons.inj split).1
    cases raised.symm.trans fails
  | cons first rest =>
    obtain ⟨rfl, others⟩ := List.cons.inj split
    cases rest with
    | nil => exact replaces
    | cons => simp at others

end Amounts

end GuardedQuery
