import GuardedQuery.Proofs.Store.Indexed

/-! What insertions do. Rows come to the end of a table under numbers that grow, each as it was
sent or, if it was sent without a primary key, with the integer after the greatest key so far. -/

namespace GuardedQuery

namespace Store

namespace Table
variable {t after : Table} {model keyName : String} {row stored : Row}

/-- The greatest key so far after the keys of more entries. -/
def keyThrough (keyName : String) (last : Int) (entries : List (Nat × Row)) : Int :=
  entries.foldl (fun last entry => keyAfter last ((entry.2.get? keyName).getD .null)) last

@[simp] theorem keyThrough_nil (last : Int) : keyThrough keyName last [] = last := rfl

@[simp] theorem keyThrough_cons (last : Int) (entry : Nat × Row) (rest : List (Nat × Row)) :
    keyThrough keyName last (entry :: rest) =
      keyThrough keyName (keyAfter last ((entry.2.get? keyName).getD .null)) rest := rfl

/-- A stored row is the row that was sent, with a key assigned if it was sent without one. -/
def Completes (keyName : String) (last : Int) (row stored : Row) : Prop :=
  (ownKey? keyName row).isSome ∧ stored = row ∨
    ownKey? keyName row = none ∧ stored = row.insert keyName (.int (last + 1))

/-- What one insertion does to a table. -/
structure Inserts (t : Table) (keyName : String) (row stored : Row) (after : Table) : Prop where
  rows : after.rows = t.rows ++ [(t.count + 1, stored)]
  count : after.count = t.count + 1
  lastKey : after.lastKey = keyAfter t.lastKey ((stored.get? keyName).getD .null)
  completes : Completes keyName t.lastKey row stored

theorem insertKeyed_ok {key : Value}
    (done : t.insertKeyed model key row = (.ok stored, after)) :
    stored = row ∧ after.rows = t.rows ++ [(t.count + 1, row)] ∧ after.count = t.count + 1 ∧
      after.lastKey = keyAfter t.lastKey key := by
  rw [insertKeyed] at done
  split at done
  · cases done
  · cases done
    exact ⟨rfl, rfl, rfl, rfl⟩

theorem insert_ok (done : t.insert model keyName row = (.ok stored, after)) :
    t.Inserts keyName row stored after := by
  rw [insert] at done
  split at done
  case h_1 key own =>
    obtain ⟨rfl, rows, count, last⟩ := insertKeyed_ok done
    obtain ⟨key', has, known⟩ := Option.bind_eq_some_iff.1 own
    obtain rfl : key' = key := by
      split at known
      · cases known
      · exact Option.some.inj known
    refine ⟨rows, count, ?_, .inl ⟨by rw [own]; rfl, rfl⟩⟩
    rw [last, has, Option.getD_some]
  case h_2 own =>
    split at done
    case isFalse => cases done
    case isTrue =>
      obtain ⟨rfl, rows, count, last⟩ := insertKeyed_ok done
      refine ⟨rows, count, ?_, .inr ⟨own, rfl⟩⟩
      rw [last, Entries.get?_insert_self, Option.getD_some]

/-- Added entries: their numbers grow from those given so far, and each of them completes a row that
was sent by the keys up to it. -/
structure Adds (t : Table) (keyName : String) (rows : List Row) (added : List (Nat × Row)) :
    Prop where
  ascends : added.Pairwise fun a b => a.1 < b.1
  fresh : ∀ entry ∈ added, t.count < entry.1
  completes : ∀ front entry back, added = front ++ entry :: back →
    ∃ row ∈ rows, Completes keyName (keyThrough keyName t.lastKey front) row entry.2

theorem Inserts.adds (first : t.Inserts keyName row stored after) {rows : List Row}
    {added : List (Nat × Row)} (others : after.Adds keyName rows added) :
    t.Adds keyName (row :: rows) ((t.count + 1, stored) :: added) where
  ascends := by
    refine List.pairwise_cons.2 ⟨fun entry mem => ?_, others.ascends⟩
    have later := others.fresh entry mem
    rwa [first.count] at later
  fresh entry mem := by
    rcases List.mem_cons.1 mem with rfl | mem
    · exact Nat.lt_succ_self _
    · have later := others.fresh entry mem
      rw [first.count] at later
      omega
  completes front entry back split := by
    cases front with
    | nil =>
      obtain ⟨rfl, rfl⟩ := List.cons.inj split
      exact ⟨row, List.mem_cons_self, first.completes⟩
    | cons head front =>
      obtain ⟨rfl, rfl⟩ := List.cons.inj split
      obtain ⟨sent, mem, completes⟩ := others.completes front entry back rfl
      refine ⟨sent, List.mem_cons_of_mem _ mem, ?_⟩
      rwa [keyThrough_cons, ← first.lastKey]

theorem adds_nil : t.Adds keyName [] [] :=
  ⟨.nil, nofun, fun front entry back split => by simp at split⟩

/-- Several rows are inserted one after another. -/
theorem insertAll_ok {rows all : List Row}
    (done : insertAll model keyName rows t = .ok (all, after)) :
    ∃ added, after.rows = t.rows ++ added ∧ added.map Prod.snd = all ∧
      t.Adds keyName rows added := by
  induction rows generalizing t all with
  | nil =>
    cases done
    exact ⟨[], (List.append_nil _).symm, rfl, adds_nil⟩
  | cons row rest ih =>
    rw [insertAll] at done
    split at done
    · cases done
    rename_i stored between inserted
    have first := insert_ok inserted
    obtain ⟨⟨others, last⟩, further, same⟩ := Checks.map_ok_iff.1 done
    cases same
    obtain ⟨added, rows, values, adds⟩ := ih further
    refine ⟨(t.count + 1, stored) :: added, ?_, by rw [List.map_cons, values], first.adds adds⟩
    rw [rows, first.rows, List.append_assoc]
    rfl

theorem Adds.takeWhile {rows : List Row} {added front back : List (Nat × Row)} {entry : Nat × Row}
    (h : t.Adds keyName rows added) (split : added = front ++ entry :: back) :
    added.takeWhile (·.1 < entry.1) = front := by
  have order := h.ascends
  rw [split, List.pairwise_append] at order
  rw [split, List.takeWhile_append_of_pos, List.takeWhile_cons_of_neg (by simp), List.append_nil]
  intro other mem
  simpa using order.2.2 other mem entry List.mem_cons_self

end Table

variable {s after : Store} {model : String}

/-- The row of a number, if there is one. -/
def rowAt (s : Store) (model : String) (n : Nat) : Option Row := (s.table model).rows.lookup n

/-- The entries at the end of a table that an earlier state of the store does not have. -/
def added (s after : Store) (model : String) : List (Nat × Row) :=
  (after.table model).rows.drop (s.table model).rows.length

/-- The greatest key so far at the time when the row of a number was added. -/
def keyBefore (s after : Store) (model keyName : String) (n : Nat) : Int :=
  Table.keyThrough keyName (s.table model).lastKey ((s.added after model).takeWhile (·.1 < n))

/-- New rows have come to the end of the table of a model, and nothing else in the store has
changed. -/
structure Extends (s after : Store) (model keyName : String) (rows : List Row) : Prop where
  appended : (after.table model).rows = (s.table model).rows ++ s.added after model
  adds : (s.table model).Adds keyName rows (s.added after model)
  others : ∀ other, other ≠ model → after.table other = s.table other

theorem extends_withTable {t : Table} {keyName : String} {rows : List Row}
    {added : List (Nat × Row)} (appended : t.rows = (s.table model).rows ++ added)
    (adds : (s.table model).Adds keyName rows added) :
    s.Extends (s.withTable model t) model keyName rows := by
  have same : s.added (s.withTable model t) model = added := by
    rw [Store.added, table_withTable_self, appended, List.drop_left]
  refine ⟨?_, by rwa [same], fun other ne => table_withTable_of_ne _ ne⟩
  rw [same, table_withTable_self, appended]

theorem insert_extends {row stored : Row} (done : s.insert model row = (.ok stored, after)) :
    ∃ m, s.model model = .ok m ∧ s.Extends after model m.schema.key [row] := by
  cases found : s.model model with
  | error e =>
    simp only [Store.insert, found] at done
    cases done
  | ok m =>
    simp only [Store.insert, found] at done
    obtain ⟨outcome, rfl⟩ := Prod.mk.inj done
    have inserts := Table.insert_ok (Prod.ext outcome rfl)
    have last : ((s.table model).insert model m.schema.key row).2.Adds m.schema.key [] [] :=
      Table.adds_nil
    exact ⟨m, rfl, extends_withTable inserts.rows (inserts.adds last)⟩

theorem insertMany_extends {rows stored : List Row}
    (done : s.insertMany model rows = (.ok stored, after)) :
    ∃ m, s.model model = .ok m ∧ s.Extends after model m.schema.key rows := by
  cases found : s.model model with
  | error e =>
    simp only [Store.insertMany, found] at done
    cases done
  | ok m =>
    simp only [Store.insertMany, found] at done
    split at done
    · cases done
    rename_i all t inserted
    obtain ⟨rfl, rfl⟩ : all = stored ∧ s.withTable model t = after := by simpa using done
    obtain ⟨added, appended, _, adds⟩ := Table.insertAll_ok inserted
    exact ⟨m, rfl, extends_withTable appended adds⟩

/-- Where nothing has been stored, nothing was sent. -/
theorem insertMany_nil {rows : List Row} (done : s.insertMany model rows = (.ok [], after)) :
    ∃ t, after = s.withTable model t ∧ t = s.table model := by
  obtain ⟨m, known, _⟩ := insertMany_extends done
  simp only [Store.insertMany, known] at done
  split at done
  · cases done
  rename_i all t inserted
  obtain ⟨rfl, rfl⟩ : all = [] ∧ s.withTable model t = after := by simpa using done
  refine ⟨t, rfl, ?_⟩
  cases rows with
  | nil =>
    cases inserted
    rfl
  | cons row rest =>
    rw [Table.insertAll] at inserted
    split at inserted
    · cases inserted
    · obtain ⟨others, _, same⟩ := Checks.map_ok_iff.1 inserted
      cases same

namespace Extends
variable {keyName : String} {rows : List Row} {n : Nat}

theorem rowAt (h : s.Extends after model keyName rows) :
    after.rowAt model n = (s.rowAt model n).or ((s.added after model).lookup n) := by
  rw [Store.rowAt, h.appended, List.lookup_append]
  rfl

/-- A row of a new number completes one of the rows that were sent. -/
theorem completes (h : s.Extends after model keyName rows) {row : Row}
    (none : s.rowAt model n = none) (some : after.rowAt model n = some row) :
    ∃ sent ∈ rows, Table.Completes keyName (s.keyBefore after model keyName n) sent row := by
  rw [h.rowAt, none, Option.none_or] at some
  obtain ⟨front, back, split, _⟩ := List.lookup_eq_some_iff.1 some
  obtain ⟨sent, mem, completes⟩ := h.adds.completes front (n, row) back split
  refine ⟨sent, mem, ?_⟩
  rwa [keyBefore, h.adds.takeWhile split]

end Extends

end Store

end GuardedQuery
