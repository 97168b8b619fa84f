import GuardedQuery.Proofs.Checks
import GuardedQuery.Store.Script
import Mathlib.Data.List.Nodup

/-! Tables whose index is right. Rows are numbered upwards, every row has a primary key, and the
index leads from the text of the key to the number of the row. A call does no more to a table than
to insert, replace and remove rows one after another, so all tables of a store that has grown by
calls stay that way. -/

namespace GuardedQuery

namespace Store

namespace Table

structure Indexed (keyName : String) (t : Table) : Prop where
  ordered : t.rows.Pairwise fun a b => a.1 < b.1
  counted : ∀ entry ∈ t.rows, entry.1 ≤ t.count
  keyed : ∀ entry ∈ t.rows, ∃ key, entry.2.get? keyName = some key ∧ key.isNull = false ∧
    t.number? key = some entry.1

variable {t : Table} {keyName model : String}

/-- An insertion appends a row under a key of its own that no row had, or it appends none. In
either case the greatest key may have grown. -/
theorem insert_cases (t : Table) (model keyName : String) (row : Row) :
    ∃ last, (t.insert model keyName row).2 = { t with lastKey := last } ∨
      ∃ key stored, stored.get? keyName = some key ∧ key.isNull = false ∧
        t.index.contains (keyText key) = false ∧
        (t.insert model keyName row).2 = ({ t with lastKey := last } : Table).append key stored := by
  have keyed {key : Value} {stored : Row} (own : stored.get? keyName = some key)
      (known : key.isNull = false) :
      (t.insertKeyed model key stored).2 = { t with lastKey := keyAfter t.lastKey key } ∨
        ∃ key' stored', stored'.get? keyName = some key' ∧ key'.isNull = false ∧
          t.index.contains (keyText key') = false ∧ (t.insertKeyed model key stored).2 =
            ({ t with lastKey := keyAfter t.lastKey key } : Table).append key' stored' := by
    rw [insertKeyed]
    split
    case isTrue => exact .inl rfl
    case isFalse fresh => exact .inr ⟨key, stored, own, known, by simpa using fresh, rfl⟩
  rw [insert]
  split
  case h_1 key found =>
    obtain ⟨key', own, rest⟩ := Option.bind_eq_some_iff.1 found
    split at rest
    · cases rest
    · rename_i known
      cases rest
      exact ⟨_, keyed own (by simpa using known)⟩
  case h_2 =>
    split
    · exact ⟨_, keyed (Entries.get?_insert_self _ _ _) rfl⟩
    · exact ⟨t.lastKey, .inl rfl⟩

theorem indexed_empty : empty.Indexed keyName := ⟨.nil, nofun, nofun⟩

namespace Indexed

theorem nodup_numbers (h : t.Indexed keyName) : (t.rows.map Prod.fst).Nodup :=
  List.pairwise_map.2 (h.ordered.imp fun lt => Nat.ne_of_lt lt)

/-- Entries of one number are one entry. -/
theorem eq_of_number (h : t.Indexed keyName) {a b : Nat × Row} (ha : a ∈ t.rows)
    (hb : b ∈ t.rows) (same : a.1 = b.1) : a = b :=
  List.inj_on_of_nodup_map h.nodup_numbers ha hb same

/-- Entries with one key are one entry. -/
theorem eq_of_key (h : t.Indexed keyName) {a b : Nat × Row} (ha : a ∈ t.rows) (hb : b ∈ t.rows)
    (same : a.2.get? keyName = b.2.get? keyName) : a = b := by
  obtain ⟨key, own, _, numbered⟩ := h.keyed a ha
  obtain ⟨key', own', _, numbered'⟩ := h.keyed b hb
  obtain rfl : key = key' := Option.some.inj (own.symm.trans (same.trans own'))
  exact h.eq_of_number ha hb (Option.some.inj (numbered.symm.trans numbered'))

theorem lookup_of_mem (h : t.Indexed keyName) {entry : Nat × Row} (mem : entry ∈ t.rows) :
    t.rows.lookup entry.1 = some entry.2 := by
  obtain ⟨before, after, split⟩ := List.append_of_mem mem
  refine List.lookup_eq_some_iff.2 ⟨before, after, split, fun other among => ?_⟩
  have order := h.ordered
  rw [split, List.pairwise_append] at order
  have lt := order.2.2 other among entry List.mem_cons_self
  simp [Nat.ne_of_gt lt]

theorem number?_of_mem (h : t.Indexed keyName) {entry : Nat × Row} (mem : entry ∈ t.rows)
    {key : Value} (own : entry.2.get? keyName = some key) : t.number? key = some entry.1 := by
  obtain ⟨key', own', _, numbered⟩ := h.keyed entry mem
  obtain rfl : key = key' := Option.some.inj (own.symm.trans own')
  exact numbered

theorem get?_of_number (h : t.Indexed keyName) {entry : Nat × Row} (mem : entry ∈ t.rows)
    {key : Value} (numbered : t.number? key = some entry.1) : t.get? key = some entry.2 := by
  rw [get?, numbered]
  exact h.lookup_of_mem mem

theorem get?_of_mem (h : t.Indexed keyName) {entry : Nat × Row} (mem : entry ∈ t.rows)
    {key : Value} (own : entry.2.get? keyName = some key) : t.get? key = some entry.2 :=
  h.get?_of_number mem (h.number?_of_mem mem own)

/-- Equal rows of a table are one entry, for they have one key. -/
theorem eq_of_row (h : t.Indexed keyName) {a b : Nat × Row} (ha : a ∈ t.rows) (hb : b ∈ t.rows)
    (same : a.2 = b.2) : a = b := by
  apply h.eq_of_number ha hb
  obtain ⟨key, own, _, numbered⟩ := h.keyed a ha
  rw [same] at own
  exact Option.some.inj (numbered.symm.trans (h.number?_of_mem hb own))

/-- The greatest key so far plays no part. -/
theorem withLastKey (h : t.Indexed keyName) (last : Int) :
    ({ t with lastKey := last } : Table).Indexed keyName := ⟨h.ordered, h.counted, h.keyed⟩

theorem append (h : t.Indexed keyName) {key : Value} {row : Row}
    (own : row.get? keyName = some key) (known : key.isNull = false)
    (fresh : t.index.contains (keyText key) = false) : (t.append key row).Indexed keyName where
  ordered := by
    refine List.pairwise_append.2 ⟨h.ordered, List.pairwise_singleton _ _, fun a mem b last => ?_⟩
    have bound := h.counted a mem
    simp only [List.mem_singleton] at last
    simp only [last]
    omega
  counted entry mem := by
    rcases List.mem_append.1 mem with old | last
    · have bound := h.counted entry old
      simp only [Table.append]
      omega
    · simp only [List.mem_singleton] at last
      simp [last, Table.append]
  keyed entry mem := by
    rcases List.mem_append.1 mem with old | last
    · obtain ⟨other, its, nonnull, numbered⟩ := h.keyed entry old
      refine ⟨other, its, nonnull, ?_⟩
      have ne : keyText key ≠ keyText other := by
        intro same
        rw [number?] at numbered
        simp [Dict.contains, same, numbered] at fresh
      rw [number?, Table.append, Dict.get?_insert_of_ne _ ne]
      exact numbered
    · simp only [List.mem_singleton] at last
      rw [last]
      exact ⟨key, own, known, Dict.get?_insert_self _ _ _⟩

theorem insert (h : t.Indexed keyName) (row : Row) :
    (t.insert model keyName row).2.Indexed keyName := by
  obtain ⟨last, same | ⟨key, stored, own, known, fresh, same⟩⟩ := t.insert_cases model keyName row
  · exact same ▸ h.withLastKey last
  · exact same ▸ (h.withLastKey last).append own known fresh

/-- A row is replaced by one of the same key. -/
theorem replace (h : t.Indexed keyName) {key : Value} {before after : Row}
    (addressed : t.get? key = some before)
    (same : after.get? keyName = before.get? keyName) :
    (t.replace key after).Indexed keyName := by
  obtain ⟨n, numbered, found⟩ := Option.bind_eq_some_iff.1 addressed
  obtain ⟨front, back, split, _⟩ := List.lookup_eq_some_iff.1 found
  have there : (n, before) ∈ t.rows := by simp [split]
  have result : t.replace key after = { t with
      rows := t.rows.map fun entry => if entry.1 = n then (n, after) else entry } := by
    rw [Table.replace, numbered]
  have numbers (entry : Nat × Row) :
      (if entry.1 = n then (n, after) else entry).1 = entry.1 := by
    split <;> simp_all
  rw [result]
  refine ⟨?_, ?_, ?_⟩
  · rw [List.pairwise_map]
    simpa only [numbers] using h.ordered
  · intro entry mem
    obtain ⟨old, among, rfl⟩ := List.mem_map.1 mem
    rw [numbers]
    exact h.counted old among
  · intro entry mem
    obtain ⟨old, among, rfl⟩ := List.mem_map.1 mem
    obtain ⟨own, its, known, leads⟩ := h.keyed old among
    refine ⟨own, ?_, known, by rwa [numbers]⟩
    split
    case isFalse => exact its
    case isTrue here =>
      obtain rfl := h.eq_of_number among there here
      rwa [same]

theorem remove (h : t.Indexed keyName) (key : Value) : (t.remove key).Indexed keyName := by
  rw [Table.remove]
  split
  case h_2 => exact h
  case h_1 n numbered =>
    refine ⟨h.ordered.filter _, fun entry mem => h.counted entry (List.mem_of_mem_filter mem), ?_⟩
    intro entry mem
    obtain ⟨among, other⟩ := List.mem_filter.1 mem
    obtain ⟨own, its, known, leads⟩ := h.keyed entry among
    refine ⟨own, its, known, ?_⟩
    have ne : keyText key ≠ keyText own := by
      intro same
      rw [number?, same] at numbered
      rw [number?, numbered] at leads
      simp [Option.some.inj leads] at other
    rw [number?, Dict.get?_erase_of_ne _ ne]
    exact leads

end Indexed

/-- What can become of a table, one row after another. A row is replaced only by one of the same
primary key. -/
inductive Turns (keyName : String) (t : Table) : Table → Prop where
  | refl : Turns keyName t t
  | insert {u : Table} (earlier : Turns keyName t u) (model : String) (row : Row) :
      Turns keyName t (u.insert model keyName row).2
  | replace {u : Table} (earlier : Turns keyName t u) {key : Value} {before after : Row}
      (addressed : u.get? key = some before)
      (same : after.get? keyName = before.get? keyName) : Turns keyName t (u.replace key after)
  | remove {u : Table} (earlier : Turns keyName t u) (key : Value) : Turns keyName t (u.remove key)

namespace Turns
variable {u v : Table}

theorem trans (h : t.Turns keyName u) (h' : u.Turns keyName v) : t.Turns keyName v := by
  induction h' with
  | refl => exact h
  | insert _ model row ih => exact ih.insert model row
  | replace _ addressed same ih => exact ih.replace addressed same
  | remove _ key ih => exact ih.remove key

theorem insertAll {rows stored : List Row}
    (inserted : Table.insertAll model keyName rows t = .ok (stored, u)) : t.Turns keyName u := by
  induction rows generalizing t stored with
  | nil =>
    cases inserted
    exact .refl
  | cons row rest ih =>
    rw [Table.insertAll] at inserted
    have first : t.Turns keyName (t.insert model keyName row).2 := .insert .refl model row
    split at inserted
    · cases inserted
    · rename_i between outcome
      rw [outcome] at first
      obtain ⟨⟨others, last⟩, further, same⟩ := Checks.map_ok_iff.1 inserted
      cases same
      exact first.trans (ih further)

theorem foldl_remove (t : Table) (keys : List Value) :
    t.Turns keyName (keys.foldl Table.remove t) := by
  induction keys generalizing t with
  | nil => exact .refl
  | cons key rest ih => exact (Turns.remove .refl key).trans (ih (t.remove key))

theorem indexed (turns : t.Turns keyName u) (h : t.Indexed keyName) : u.Indexed keyName := by
  induction turns with
  | refl => exact h
  | insert _ _ row ih => exact ih.insert row
  | replace _ addressed same ih => exact ih.replace addressed same
  | remove _ key ih => exact ih.remove key

end Turns

end Table

/-! Stores -/

/-- The tables of all models are indexed by the primary keys that the catalog declares. -/
def AllIndexed (c : Catalog) (tables : Dict Table) : Prop :=
  ∀ name m, c.model? name = some m →
    ((tables.get? name).getD .empty).Indexed m.schema.key

structure Indexed (s : Store) : Prop where
  tables : AllIndexed s.catalog s.tables
  saved : ∀ old ∈ s.saved, AllIndexed s.catalog old

variable {s : Store} {model : String}

theorem model_ok_iff {m : Model} : s.model model = .ok m ↔ s.catalog.model? model = some m := by
  rw [Store.model]
  cases s.catalog.model? model <;> simp

/-- A store of a catalog knows its models. -/
theorem model_of_get {c : Catalog} {m : Model} (same : s.catalog = c)
    (found : c.get model = .ok m) : s.model model = .ok m := by
  rw [model_ok_iff, same, ← Catalog.get_ok_iff, found]

@[simp] theorem withTable_catalog (t : Table) : (s.withTable model t).catalog = s.catalog := rfl

@[simp] theorem table_withTable_self (t : Table) : (s.withTable model t).table model = t := by
  simp [withTable, table]

theorem table_withTable_of_ne (t : Table) {other : String} (ne : other ≠ model) :
    (s.withTable model t).table other = s.table other := by
  rw [withTable, table, table, Dict.get?_insert_of_ne _ (Ne.symm ne)]

namespace Indexed

theorem table (h : s.Indexed) {m : Model} (found : s.model model = .ok m) :
    (s.table model).Indexed m.schema.key :=
  h.tables model m (model_ok_iff.1 found)

theorem begin (h : s.Indexed) : s.begin.Indexed := by
  refine ⟨h.tables, fun old mem => ?_⟩
  obtain rfl : s.tables = old := by simpa [Store.begin] using mem
  exact h.tables

end Indexed

/-! Changes do not reach the primary key. -/

theorem get?_of_write {column : String} {before row after : Row} {changes : Changes}
    (fresh : changes.get? column = none) (written : changes.write before row = .ok after) :
    after.get? column = row.get? column := by
  induction changes generalizing row with
  | nil =>
    cases written
    rfl
  | cons entry rest ih =>
    obtain ⟨name, change⟩ := entry
    rw [Entries.get?_cons] at fresh
    split at fresh
    · cases fresh
    rename_i ne
    obtain ⟨value, _, further⟩ := Checks.bind_ok_iff.1 written
    rw [ih fresh further, Entries.get?_insert_of_ne ne]

theorem changed_key {m : Model} (found : s.model model = .ok m) {changes : Changes}
    {before after : Row} (h : s.changed model changes before = .ok after) :
    after.get? m.schema.key = before.get? m.schema.key := by
  rw [changed, found] at h
  obtain ⟨m', same, h⟩ := Checks.bind_ok_iff.1 h
  cases same
  split at h
  · cases h
  rename_i fresh
  refine get?_of_write ?_ (Checks.mapError_ok_iff.1 h)
  simpa [Entries.contains] using fresh

/-- A row is replaced by the row with the changes applied. -/
theorem updateRow_ok {after : Store} {key : Value} {changes : Changes} {now : Row}
    (done : s.updateRow model key changes = (.ok now, after)) :
    ∃ row, s.row? model key = some row ∧ s.changed model changes row = .ok now ∧
      after = s.withTable model ((s.table model).replace key now) := by
  rw [updateRow] at done
  split at done
  · cases done
  rename_i row addressed
  split at done
  · cases done
  rename_i made
  cases done
  exact ⟨row, addressed, made, rfl⟩

/-! Calls -/

/-- What a call does to a store: it turns the tables of models, and nothing else. -/
structure Works (s after : Store) : Prop where
  catalog : after.catalog = s.catalog
  saved : after.saved = s.saved
  tables : ∀ model m, s.model model = .ok m →
    (s.table model).Turns m.schema.key (after.table model)
  unknown : ∀ model, s.catalog.model? model = none →
    after.tables.get? model = s.tables.get? model

theorem Works.model_ok {after : Store} {m : Model} (works : s.Works after)
    (known : s.model model = .ok m) : after.model model = .ok m := by
  rw [model_ok_iff, works.catalog, ← model_ok_iff, known]

theorem Works.refl (s : Store) : s.Works s := ⟨rfl, rfl, fun _ _ _ => .refl, fun _ _ => rfl⟩

theorem Works.trans {a b c : Store} (h : a.Works b) (h' : b.Works c) : a.Works c :=
  ⟨h'.catalog.trans h.catalog, h'.saved.trans h.saved,
    fun model m known => (h.tables model m known).trans (h'.tables model m (h.model_ok known)),
    fun model none => (h'.unknown model (h.catalog ▸ none)).trans (h.unknown model none)⟩

theorem works_withTable {m : Model} (found : s.model model = .ok m) {t : Table}
    (turns : (s.table model).Turns m.schema.key t) : s.Works (s.withTable model t) := by
  refine ⟨rfl, rfl, fun name other known => ?_, fun name none => ?_⟩
  · by_cases same : name = model
    · subst same
      obtain rfl : m = other := Except.ok.inj (found.symm.trans known)
      rwa [table_withTable_self]
    · rw [table_withTable_of_ne _ same]
      exact .refl
  · have ne : model ≠ name := by
      rintro rfl
      cases none.symm.trans (model_ok_iff.1 found)
    exact Dict.get?_insert_of_ne _ ne t

theorem works_insert (row : Row) : s.Works (s.insert model row).2 := by
  rw [insert]
  split
  · exact .refl s
  · rename_i m found
    exact works_withTable found (.insert .refl model row)

theorem works_insertMany (rows : List Row) : s.Works (s.insertMany model rows).2 := by
  rw [insertMany]
  split
  · exact .refl s
  · rename_i m found
    split
    · exact .refl s
    · rename_i inserted
      exact works_withTable found (.insertAll inserted)

theorem works_updateRow (key : Value) (changes : Changes) :
    s.Works (s.updateRow model key changes).2 := by
  rw [updateRow]
  split
  · exact .refl s
  · rename_i before addressed
    split
    · exact .refl s
    · rename_i after made
      cases found : s.model model with
      | error e =>
        rw [changed, found] at made
        cases made
      | ok m => exact works_withTable found (.replace .refl addressed (changed_key found made))

theorem works_updateRows (changes : Changes) (keys : List Value) (s : Store) :
    s.Works (updateRows model changes keys s).2 := by
  induction keys generalizing s with
  | nil => exact .refl s
  | cons key rest ih =>
    rw [updateRows]
    have first : s.Works (s.updateRow model key changes).2 := s.works_updateRow key changes
    split
    · rename_i failed
      rwa [failed] at first
    · rename_i done
      rw [done] at first
      exact first.trans (ih _)

theorem works_deleteWhere (sel : Selection) : s.Works (s.deleteWhere sel).2 := by
  rw [deleteWhere]
  split
  · exact .refl s
  · rename_i keys selected
    rw [selectKeys] at selected
    obtain ⟨rows, _, selected⟩ := Checks.bind_ok_iff.1 selected
    obtain ⟨m, found, _⟩ := Checks.bind_ok_iff.1 selected
    exact works_withTable found (.foldl_remove _ keys)

theorem works_answer (s : Store) (c : Call) : s.Works (s.answer c).2 := by
  cases c with
  | select | count | aggregate | related => exact .refl s
  | insert model row => exact works_insert row
  | insertMany model rows => exact works_insertMany rows
  | updateRow model key changes => exact works_updateRow key changes
  | updateWhere sel changes =>
    change s.Works (s.updateWhere sel changes).2
    rw [updateWhere]
    split
    · exact .refl s
    · exact works_updateRows changes _ s
  | deleteWhere sel => exact works_deleteWhere sel

/-- What can become of a store by a call, as far as keys go. -/
structure Keeps (s after : Store) : Prop where
  catalog : after.catalog = s.catalog
  indexed : s.Indexed → after.Indexed

theorem Works.keeps {after : Store} (works : s.Works after) : s.Keeps after := by
  refine ⟨works.catalog, fun h => ⟨fun name m known => ?_, ?_⟩⟩
  · rw [works.catalog] at known
    exact (works.tables name m (model_ok_iff.2 known)).indexed (h.tables name m known)
  · rw [works.saved, works.catalog]
    exact h.saved

theorem Keeps.model_ok {after : Store} {m : Model} (kept : s.Keeps after)
    (known : s.model model = .ok m) : after.model model = .ok m := by
  rw [model_ok_iff, kept.catalog, ← model_ok_iff, known]

theorem Keeps.table {after : Store} {m : Model} (kept : s.Keeps after) (indexed : s.Indexed)
    (known : s.model model = .ok m) :
    (after.table model).Indexed m.schema.key :=
  (kept.indexed indexed).table (kept.model_ok known)

theorem keeps_answer (s : Store) (c : Call) : s.Keeps (s.answer c).2 := (s.works_answer c).keeps

/-- The stores that calls and transactions lead to from the empty one. -/
inductive Grown (c : Catalog) : Store → Prop where
  | new : Grown c (.ofCatalog c)
  | answer {s : Store} (earlier : Grown c s) (call : Call) : Grown c (s.answer call).2
  | begin {s : Store} (earlier : Grown c s) : Grown c s.begin
  | commit {s : Store} (earlier : Grown c s) : Grown c s.commit
  | rollback {s : Store} (earlier : Grown c s) : Grown c s.rollback

/-- Tables of models that have come about row by row. -/
def AllTurned (c : Catalog) (tables : Dict Table) : Prop :=
  ∀ name m, c.model? name = some m →
    Table.empty.Turns m.schema.key ((tables.get? name).getD .empty)

/-- Rolling back brings back tables that had come about row by row before. -/
theorem Grown.turned {c : Catalog} (grown : Grown c s) :
    s.catalog = c ∧ AllTurned c s.tables ∧ ∀ old ∈ s.saved, AllTurned c old := by
  induction grown with
  | new => exact ⟨rfl, fun _ _ _ => .refl, nofun⟩
  | @answer earlier _ call ih =>
    obtain ⟨same, tables, saved⟩ := ih
    have works := works_answer earlier call
    refine ⟨works.catalog.trans same, fun name m known => ?_, by rwa [works.saved]⟩
    exact (tables name m known).trans (works.tables name m (model_ok_iff.2 (same ▸ known)))
  | begin _ ih =>
    obtain ⟨same, tables, _⟩ := ih
    refine ⟨same, tables, fun old mem => ?_⟩
    cases mem
    exact tables
  | commit _ ih => exact ⟨ih.1, ih.2.1, nofun⟩
  | @rollback earlier _ ih =>
    obtain ⟨same, tables, saved⟩ := ih
    refine ⟨same, ?_, nofun⟩
    cases open' : earlier.saved with
    | none => simpa [Store.rollback, open'] using tables
    | some old => simpa [Store.rollback, open'] using saved old open'

theorem Grown.spec {c : Catalog} (grown : Grown c s) : s.catalog = c ∧ s.Indexed := by
  obtain ⟨rfl, tables, saved⟩ := grown.turned
  exact ⟨rfl, ⟨fun name m known => (tables name m known).indexed Table.indexed_empty,
    fun old mem name m known => (saved old mem name m known).indexed Table.indexed_empty⟩⟩

end Store

end GuardedQuery
