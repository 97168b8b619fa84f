import GuardedQuery.Proofs.Store.Effects
import GuardedQuery.Proofs.Store.Frames

/-! Lists of keys that mirror a write. Each way to write to the rows of a model comes with the keys
of the rows that have been inserted, changed or removed. Which rows have come or gone is seen from
the stores before and after; the numbers of those that were changed are given. -/

namespace GuardedQuery

/-- What can become of a row. -/
inductive RowChange where
  | inserted
  | updated
  | removed
  deriving DecidableEq

namespace Store

/-- A row that has come into a store, one that was written to, as it was before, or one that is
there no longer. -/
def Wrote (s after : Store) (model : String) (updated : List Nat) : RowChange → Nat → Row → Prop
  | .inserted, n, row => s.rowAt model n = none ∧ after.rowAt model n = some row
  | .updated, n, row => n ∈ updated ∧ s.rowAt model n = some row
  | .removed, n, row => s.rowAt model n = some row ∧ after.rowAt model n = none

/-- Keys that are those of the rows that have been written in one way, each listed once. No row has
been written in another way, and rows that were not written to are as they were. -/
structure Mirrors (s after : Store) (model keyName : String) (updated : List Nat)
    (change : RowChange) (keys : List Value) : Prop where
  distinct : keys.Nodup
  listed : ∀ key, key ∈ keys ↔
    ∃ n row, s.Wrote after model updated change n row ∧ row.get? keyName = some key
  nothingElse : ∀ other, other ≠ change → ∀ n row, ¬ s.Wrote after model updated other n row
  kept : ∀ n old now, n ∉ updated → s.rowAt model n = some old → after.rowAt model n = some now →
    now = old
  others : ∀ other, other ≠ model → after.table other = s.table other

variable {s after : Store} {model : String} {m : Model} {keyName : String}

theorem mirrors_refl (s : Store) (model keyName : String) (change : RowChange) :
    s.Mirrors s model keyName [] change [] := by
  have none (other : RowChange) (n : Nat) (row : Row) : ¬ s.Wrote s model [] other n row := by
    cases other with
    | inserted =>
      rintro ⟨before, there⟩
      cases before.symm.trans there
    | updated => exact fun h => nomatch h.1
    | removed =>
      rintro ⟨there, later⟩
      cases there.symm.trans later
  refine ⟨.nil, fun key => ⟨nofun, ?_⟩, fun other _ => none other, ?_, fun _ _ => rfl⟩
  · rintro ⟨n, row, wrote, _⟩
    exact absurd wrote (none change n row)
  · intro n old now _ before there
    exact Option.some.inj (there.symm.trans before)

/-! Keys of stored rows -/

theorem rowAt_eq_some_iff (table : (s.table model).Indexed keyName) {n : Nat} {row : Row} :
    s.rowAt model n = some row ↔ (n, row) ∈ (s.table model).rows := by
  constructor
  · intro found
    obtain ⟨front, back, split, _⟩ := List.lookup_eq_some_iff.1 found
    rw [split]
    simp
  · exact table.lookup_of_mem

theorem rowAt_eq_none_iff {n : Nat} :
    s.rowAt model n = none ↔ n ∉ (s.table model).rows.map Prod.fst := by
  rw [rowAt, List.lookup_eq_none_iff, List.mem_map]
  constructor
  · rintro none ⟨entry, mem, rfl⟩
    simpa using none entry mem
  · intro none entry mem
    exact bne_iff_ne.2 fun same => none ⟨entry, mem, same.symm⟩

namespace Table.Indexed
variable {t : Table} {picked : List (Nat × Row)}

/-- Rows of different numbers have keys of different texts. -/
theorem nodup_keyTexts (h : t.Indexed m.schema.key) (inside : ∀ entry ∈ picked, entry ∈ t.rows)
    (distinct : (picked.map Prod.fst).Nodup) :
    ((keysOf m (picked.map Prod.snd)).map keyText).Nodup := by
  induction picked with
  | nil => exact .nil
  | cons entry rest ih =>
    obtain ⟨fresh, distinct⟩ := List.nodup_cons.1 distinct
    obtain ⟨here, inside⟩ := List.forall_mem_cons.1 inside
    obtain ⟨key, own, _, numbered⟩ := h.keyed entry here
    rw [List.map_cons, keysOf_cons own, List.map_cons]
    refine List.nodup_cons.2 ⟨fun again => fresh ?_, ih inside distinct⟩
    obtain ⟨key', listed, same⟩ := List.mem_map.1 again
    obtain ⟨row, mem, its⟩ := List.mem_filterMap.1 listed
    obtain ⟨other, among, rfl⟩ := List.mem_map.1 mem
    rw [number?, ← same, ← number?, h.number?_of_mem (inside other among) its] at numbered
    rw [← Option.some.inj numbered]
    exact List.mem_map_of_mem among

theorem nodup_keysOf (h : t.Indexed m.schema.key) (inside : ∀ entry ∈ picked, entry ∈ t.rows)
    (distinct : (picked.map Prod.fst).Nodup) : (keysOf m (picked.map Prod.snd)).Nodup :=
  (h.nodup_keyTexts inside distinct).of_map _

theorem filter_number {keyName : String} (h : t.Indexed keyName) {entry : Nat × Row}
    (mem : entry ∈ t.rows) : t.rows.filter (fun other => other.1 == entry.1) = [entry] := by
  obtain ⟨front, back, split⟩ := List.append_of_mem mem
  have order := h.ordered
  rw [split, List.pairwise_append, List.pairwise_cons] at order
  obtain ⟨_, ⟨behind, _⟩, ahead⟩ := order
  have none : front.filter (fun other => other.1 == entry.1) = [] :=
    List.filter_eq_nil_iff.2 fun other among => by
      simpa using Nat.ne_of_lt (ahead other among entry List.mem_cons_self)
  have none' : back.filter (fun other => other.1 == entry.1) = [] :=
    List.filter_eq_nil_iff.2 fun other among => by
      simpa using Nat.ne_of_gt (behind other among)
  rw [split, List.filter_append, List.filter_cons_of_pos (by simp), none, none']
  rfl

/-- The index leads from the keys of rows to their numbers. -/
theorem numbers_of_keysOf (h : t.Indexed m.schema.key) (inside : ∀ entry ∈ picked, entry ∈ t.rows) :
    (keysOf m (picked.map Prod.snd)).filterMap t.number? = picked.map Prod.fst := by
  induction picked with
  | nil => rfl
  | cons entry rest ih =>
    obtain ⟨here, inside⟩ := List.forall_mem_cons.1 inside
    obtain ⟨key, own, _, numbered⟩ := h.keyed entry here
    rw [List.map_cons, keysOf_cons own, List.filterMap_cons_some numbered, ih inside, List.map_cons]

end Table.Indexed

theorem mem_keysOf_iff {picked : List (Nat × Row)} {key : Value} :
    key ∈ keysOf m (picked.map Prod.snd) ↔
      ∃ n row, (n, row) ∈ picked ∧ row.get? m.schema.key = some key := by
  simp only [keysOf, List.mem_filterMap, List.mem_map]
  constructor
  · rintro ⟨row, ⟨entry, mem, rfl⟩, own⟩
    exact ⟨entry.1, entry.2, mem, own⟩
  · rintro ⟨n, row, mem, own⟩
    exact ⟨row, ⟨(n, row), mem, rfl⟩, own⟩

/-! What each kind of write comes to -/

theorem added_of_insert {row stored : Row} (done : s.insert model row = (.ok stored, after)) :
    (s.added after model).map Prod.snd = [stored] := by
  obtain ⟨m, known, grows⟩ := insert_extends done
  simp only [Store.insert, known] at done
  obtain ⟨outcome, rfl⟩ := Prod.mk.inj done
  have inserts := Table.insert_ok (Prod.ext outcome rfl)
  rw [added, table_withTable_self, inserts.rows, List.drop_left]
  rfl

theorem added_of_insertMany {rows stored : List Row}
    (done : s.insertMany model rows = (.ok stored, after)) :
    (s.added after model).map Prod.snd = stored := by
  obtain ⟨m, known, grows⟩ := insertMany_extends done
  simp only [Store.insertMany, known] at done
  split at done
  · cases done
  rename_i all t inserted
  obtain ⟨rfl, rfl⟩ : all = stored ∧ s.withTable model t = after := by simpa using done
  obtain ⟨added, appended, values, _⟩ := Table.insertAll_ok inserted
  rw [Store.added, table_withTable_self, appended, List.drop_left, values]

theorem Extends.mirrors {rows : List Row} (grows : s.Extends after model m.schema.key rows)
    (before : (s.table model).Indexed m.schema.key)
    (later : (after.table model).Indexed m.schema.key) :
    s.Mirrors after model m.schema.key [] .inserted
      (keysOf m ((s.added after model).map Prod.snd)) := by
  have inside : ∀ entry ∈ s.added after model, entry ∈ (after.table model).rows := by
    intro entry mem
    rw [grows.appended]
    exact List.mem_append_right _ mem
  have there (n : Nat) (row : Row) :
      s.Wrote after model [] .inserted n row ↔ (n, row) ∈ s.added after model := by
    constructor
    · rintro ⟨none, some⟩
      rw [grows.rowAt, none, Option.none_or] at some
      obtain ⟨front, back, split, _⟩ := List.lookup_eq_some_iff.1 some
      rw [split]
      simp
    · intro mem
      refine ⟨?_, (rowAt_eq_some_iff later).2 (inside _ mem)⟩
      cases old : s.rowAt model n with
      | none => rfl
      | some other =>
        have given := before.counted (n, other) ((rowAt_eq_some_iff before).1 old)
        exact absurd (grows.adds.fresh (n, row) mem) (Nat.not_lt.2 given)
  have kept {n : Nat} {old : Row} (found : s.rowAt model n = some old) :
      after.rowAt model n = some old := by
    rw [grows.rowAt, found, Option.some_or]
  refine ⟨later.nodup_keysOf inside (List.pairwise_map.2
    (grows.adds.ascends.imp fun lt => Nat.ne_of_lt lt)), fun key => ?_, ?_, ?_, grows.others⟩
  · simp only [mem_keysOf_iff, there]
  · intro other ne n row wrote
    cases other with
    | inserted => exact ne rfl
    | updated => exact nomatch wrote.1
    | removed => cases (kept wrote.1).symm.trans wrote.2
  · intro n old now _ found found'
    exact Option.some.inj (found'.symm.trans (kept found))

theorem Rewrites.mirrors {changes : Changes} {touched : Nat × Row → Bool}
    (h : s.Rewrites after model changes touched) (before : (s.table model).Indexed m.schema.key)
    (later : (after.table model).Indexed m.schema.key) :
    s.Mirrors after model m.schema.key (((s.table model).rows.filter touched).map Prod.fst) .updated
      (keysOf m (((s.table model).rows.filter touched).map Prod.snd)) := by
  have inside : ∀ entry ∈ (s.table model).rows.filter touched, entry ∈ (s.table model).rows :=
    fun _ mem => List.mem_of_mem_filter mem
  have numbers : (after.table model).rows.map Prod.fst = (s.table model).rows.map Prod.fst := by
    rw [h.rows, List.map_map]
    refine List.map_congr_left fun entry _ => ?_
    change (if touched entry then _ else entry).1 = entry.1
    split <;> rfl
  have there (n : Nat) : after.rowAt model n = none ↔ s.rowAt model n = none := by
    rw [rowAt_eq_none_iff, rowAt_eq_none_iff, numbers]
  have listed (n : Nat) (row : Row) :
      s.Wrote after model (((s.table model).rows.filter touched).map Prod.fst) .updated n row ↔
        (n, row) ∈ (s.table model).rows.filter touched := by
    constructor
    · rintro ⟨mem, found⟩
      obtain ⟨entry, among, rfl⟩ := List.mem_map.1 mem
      rwa [before.eq_of_number ((rowAt_eq_some_iff before).1 found) (inside _ among) rfl]
    · exact fun mem => ⟨List.mem_map_of_mem mem, (rowAt_eq_some_iff before).2 (inside _ mem)⟩
  refine ⟨before.nodup_keysOf inside ((List.filter_sublist.map Prod.fst).nodup
    before.nodup_numbers), fun key => ?_, ?_, ?_, h.others⟩
  · simp only [mem_keysOf_iff, listed]
  · intro other ne n row wrote
    cases other with
    | inserted => cases wrote.2.symm.trans ((there n).2 wrote.1)
    | updated => exact ne rfl
    | removed => cases wrote.1.symm.trans ((there n).1 wrote.2)
  · intro n old now off found found'
    have mem := (rowAt_eq_some_iff before).1 found
    have untouched : touched (n, old) = false := by
      by_contra on
      exact off (List.mem_map.2 ⟨(n, old), List.mem_filter.2 ⟨mem, by simpa using on⟩, rfl⟩)
    have same := (rowAt_eq_some_iff later).2 (h.mem_of_untouched mem untouched)
    exact Option.some.inj (found'.symm.trans same)

theorem Removes.mirrors {gone : Nat × Row → Bool} (h : s.Removes after model gone)
    (before : (s.table model).Indexed m.schema.key)
    (later : (after.table model).Indexed m.schema.key) :
    s.Mirrors after model m.schema.key [] .removed
      (keysOf m (((s.table model).rows.filter gone).map Prod.snd)) := by
  have inside : ∀ entry ∈ (s.table model).rows.filter gone, entry ∈ (s.table model).rows :=
    fun _ mem => List.mem_of_mem_filter mem
  have kept {n : Nat} {row : Row} :
      after.rowAt model n = some row ↔ s.rowAt model n = some row ∧ gone (n, row) = false := by
    rw [rowAt_eq_some_iff later, rowAt_eq_some_iff before, h.rows, List.mem_filter]
    simp
  have listed (n : Nat) (row : Row) :
      s.Wrote after model [] .removed n row ↔ (n, row) ∈ (s.table model).rows.filter gone := by
    rw [List.mem_filter, ← rowAt_eq_some_iff before]
    refine and_congr_right fun found => ?_
    cases later : after.rowAt model n with
    | none =>
      refine iff_of_true rfl ?_
      by_contra stays
      cases later.symm.trans (kept.2 ⟨found, by simpa using stays⟩)
    | some other =>
      obtain ⟨found', stays⟩ := kept.1 later
      obtain rfl := Option.some.inj (found.symm.trans found')
      exact iff_of_false nofun (by simp [stays])
  refine ⟨before.nodup_keysOf inside ((List.filter_sublist.map Prod.fst).nodup
    before.nodup_numbers), fun key => ?_, ?_, ?_, h.others⟩
  · simp only [mem_keysOf_iff, listed]
  · intro other ne n row wrote
    cases other with
    | inserted => cases wrote.1.symm.trans (kept.1 wrote.2).1
    | updated => exact nomatch wrote.1
    | removed => exact ne rfl
  · intro n old now _ found found'
    exact Option.some.inj ((kept.1 found').1.symm.trans found)

end Store

end GuardedQuery
