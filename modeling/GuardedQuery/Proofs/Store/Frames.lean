import GuardedQuery.Proofs.Store.Insertion
import Mathlib.Data.Option.Basic

/-! What changes and removals leave of a store, whether or not its tables are indexed. Rows keep
their numbers; a change reaches the columns that it names, and a removal takes whole rows. -/

namespace GuardedQuery

namespace Store

/-! Entries by number -/

section Lookup
variable {rows : List (Nat × Row)} {n k : Nat} {row : Row}

theorem lookup_entry :
    ((n, row) :: rows).lookup k = if k = n then some row else rows.lookup k := by
  by_cases same : k = n
  · simp [same]
  · simp [List.lookup_cons, beq_eq_false_iff_ne.2 same, same]

theorem lookup_replaced :
    (rows.map fun entry => if entry.1 = n then (n, row) else entry).lookup k =
      if k = n then (rows.lookup n).map fun _ => row else rows.lookup k := by
  induction rows with
  | nil => simp
  | cons entry rest ih =>
    obtain ⟨number, old⟩ := entry
    rw [List.map_cons, lookup_entry, lookup_entry]
    by_cases here : number = n
    · subst here
      rw [if_pos rfl, lookup_entry, ih, if_pos rfl]
      split <;> rfl
    · rw [if_neg here, lookup_entry, ih, if_neg (Ne.symm here)]
      by_cases same : k = n
      · rw [same, if_neg (Ne.symm here), if_pos rfl, if_pos rfl]
      · rw [if_neg same, if_neg same]

theorem lookup_removed :
    (rows.filter (·.1 != n)).lookup k = if k = n then none else rows.lookup k := by
  induction rows with
  | nil => simp
  | cons entry rest ih =>
    obtain ⟨number, old⟩ := entry
    rw [lookup_entry]
    by_cases here : number = n
    · subst here
      rw [List.filter_cons_of_neg (by simp), ih]
      split <;> rfl
    · rw [List.filter_cons_of_pos (by simpa using here), lookup_entry, ih]
      by_cases same : k = n
      · rw [same, if_neg (Ne.symm here), if_pos rfl, if_pos rfl]
      · rw [if_neg same, if_neg same]

end Lookup

variable {s after : Store} {model : String}

/-! Changes -/

/-- A row that differs from another one at most in some columns. -/
def Alters (columns : String → Prop) (old now : Row) : Prop :=
  ∀ column, now.get? column ≠ old.get? column → columns column

/-- Rows of a model have been changed in some columns, each in its place, and nothing else in the
store has changed. -/
structure Amends (s after : Store) (model : String) (columns : String → Prop) : Prop where
  rows : ∀ n, Option.Rel (Alters columns) (s.rowAt model n) (after.rowAt model n)
  others : ∀ other, other ≠ model → after.table other = s.table other

namespace Amends
variable {columns : String → Prop}

theorem refl (s : Store) (model : String) (columns : String → Prop) :
    s.Amends s model columns := by
  refine ⟨fun n => ?_, fun _ _ => rfl⟩
  cases s.rowAt model n with
  | none => exact .none
  | some row => exact .some fun column differs => absurd rfl differs

theorem trans {between : Store} (h : s.Amends between model columns)
    (h' : between.Amends after model columns) : s.Amends after model columns := by
  refine ⟨fun n => ?_, fun other ne => (h'.others other ne).trans (h.others other ne)⟩
  have first := h.rows n
  have second := h'.rows n
  generalize s.rowAt model n = old at first
  generalize between.rowAt model n = middle at first second
  generalize after.rowAt model n = now at second
  cases first with
  | none =>
    cases second
    exact .none
  | some changed =>
    cases second with
    | some again =>
      refine .some fun column differs => ?_
      by_contra never
      have first := not_not.1 (mt (changed column) never)
      have second := not_not.1 (mt (again column) never)
      exact differs (second.trans first)

end Amends

theorem alters_changed {changes : Changes} {row now : Row}
    (done : s.changed model changes row = .ok now) :
    Alters (fun column => column ∈ changes.names) row now := by
  intro column differs
  unfold changed at done
  obtain ⟨m, _, done⟩ := Checks.bind_ok_iff.1 done
  split at done
  · cases done
  have written := Checks.mapError_ok_iff.1 done
  cases sent : changes.get? column with
  | none => exact absurd (get?_of_write sent written) differs
  | some change => exact List.mem_map_of_mem (Entries.mem_of_get? sent)

theorem updateRow_amends {key : Value} {changes : Changes} {now : Row}
    (done : s.updateRow model key changes = (.ok now, after)) :
    s.Amends after model fun column => column ∈ changes.names := by
  obtain ⟨old, addressed, made, rfl⟩ := updateRow_ok done
  obtain ⟨n, numbered, found⟩ := Option.bind_eq_some_iff.1 addressed
  refine ⟨fun k => ?_, fun other ne => table_withTable_of_ne _ ne⟩
  rw [rowAt, rowAt, table_withTable_self, Table.replace, numbered, lookup_replaced]
  split
  · rename_i same
    rw [same, found]
    exact .some (alters_changed made)
  · exact (Amends.refl s model _).rows k

theorem updateRows_amends {changes : Changes} {keys : List Value}
    (done : updateRows model changes keys s = (.ok (), after)) :
    s.Amends after model fun column => column ∈ changes.names := by
  induction keys generalizing s with
  | nil =>
    obtain rfl : s = after := by simpa [updateRows] using done
    exact .refl s model _
  | cons key rest ih =>
    rw [updateRows] at done
    split at done
    · cases done
    rename_i now between first
    exact (updateRow_amends first).trans (ih done)

theorem updateWhere_ok {sel : Selection} {changes : Changes} {keys : List Value}
    (done : s.updateWhere sel changes = (.ok keys, after)) :
    updateRows sel.model changes keys s = (.ok (), after) := by
  unfold updateWhere at done
  split at done
  · cases done
  rename_i chosen selected
  match ran : updateRows sel.model changes chosen s with
  | (.error e, between) =>
    rw [ran] at done
    cases done
  | (.ok (), between) =>
    rw [ran] at done
    cases done
    exact ran

/-! Removals -/

/-- Rows of a model have been removed, and nothing else in the store has changed. -/
structure Drops (s after : Store) (model : String) : Prop where
  rows : ∀ n row, after.rowAt model n = some row → s.rowAt model n = some row
  others : ∀ other, other ≠ model → after.table other = s.table other

theorem lookup_remove {t : Table} {key : Value} {n : Nat} {row : Row}
    (found : (t.remove key).rows.lookup n = some row) : t.rows.lookup n = some row := by
  rw [Table.remove] at found
  split at found
  · rw [lookup_removed] at found
    split at found
    · cases found
    · exact found
  · exact found

theorem lookup_foldl_remove {keys : List Value} {t : Table} {n : Nat} {row : Row}
    (found : (keys.foldl Table.remove t).rows.lookup n = some row) :
    t.rows.lookup n = some row := by
  induction keys generalizing t with
  | nil => exact found
  | cons key rest ih => exact lookup_remove (ih found)

theorem remove_sublist (t : Table) (key : Value) : (t.remove key).rows.Sublist t.rows := by
  rw [Table.remove]
  split
  · exact List.filter_sublist
  · exact .refl _

theorem foldl_remove_sublist (t : Table) (keys : List Value) :
    (keys.foldl Table.remove t).rows.Sublist t.rows := by
  induction keys generalizing t with
  | nil => exact .refl _
  | cons key rest ih => exact (ih (t.remove key)).trans (remove_sublist t key)

theorem deleteWhere_ok {sel : Selection} {keys : List Value}
    (done : s.deleteWhere sel = (.ok keys, after)) :
    after = s.withTable sel.model (keys.foldl Table.remove (s.table sel.model)) := by
  unfold deleteWhere at done
  split at done
  · cases done
  · cases done
    rfl

theorem deleteWhere_drops {sel : Selection} {keys : List Value}
    (done : s.deleteWhere sel = (.ok keys, after)) : s.Drops after sel.model := by
  obtain rfl := deleteWhere_ok done
  refine ⟨fun n row found => ?_, fun other ne => table_withTable_of_ne _ ne⟩
  rw [rowAt, table_withTable_self] at found
  exact lookup_foldl_remove found

end Store

end GuardedQuery
