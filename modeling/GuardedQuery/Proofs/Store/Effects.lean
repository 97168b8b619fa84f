import GuardedQuery.Proofs.Selection.Rows
import GuardedQuery.Proofs.Store.Indexed

/-! What writes to selected rows do. A selection without a window takes the stored rows that its
predicate picks, in their order. Each row is then addressed by its key; where tables are indexed,
this reaches the selected rows, each once, and no other row of any table. -/

namespace GuardedQuery

theorem Sorting.sort_of_never {α : Type} {precedes : α → α → Bool}
    (never : ∀ a b, precedes a b = false) (xs : List α) : sort precedes xs = xs := by
  have placed (x : α) (sorted : List α) : place precedes x sorted = x :: sorted := by
    cases sorted with
    | nil => rfl
    | cons last rest => simp [place, never]
  simp [sort, placed]

/-- Selections that take every row that their predicate accepts, in the order of the table. -/
structure Selection.Plain (sel : Selection) : Prop where
  order : sel.order = []
  offset : sel.offset = 0
  limit : sel.limit = none

theorem Selection.plain_whole (sel : Selection) : sel.whole.Plain := ⟨rfl, rfl, rfl⟩

theorem Selection.plain_withKeys (model : String) (keys : List Value) :
    ((ofModel model).withKeys keys).Plain := by
  unfold withKeys
  split <;> exact ⟨rfl, rfl, rfl⟩

theorem Selection.withKeys_model (model : String) (keys : List Value) :
    ((ofModel model).withKeys keys).model = model := by
  unfold withKeys
  split <;> rfl

namespace Store
variable {s after : Store} {model : String} {p : Predicate}

/-! Which rows are selected -/

/-- Whether a predicate accepts a row; it does not where a condition fails. -/
def picks (s : Store) (model : String) (p : Predicate) (row : Row) : Bool :=
  match s.holds model row p with
  | .ok accepted => accepted
  | .error _ => false

theorem picks_iff {row : Row} : s.picks model p row = true ↔ s.Accepts model row p := by
  unfold picks Accepts
  cases s.holds model row p <;> simp

theorem keepIf_eq_filter {rows kept : List Row}
    (h : keepIf (fun row => s.holds model row p) rows = .ok kept) :
    kept = rows.filter (s.picks model p) := by
  induction rows generalizing kept with
  | nil =>
    cases h
    rfl
  | cons row rest ih =>
    rw [keepIf] at h
    obtain ⟨accepted, held, h⟩ := Checks.bind_ok_iff.1 h
    obtain ⟨others, found, h⟩ := Checks.bind_ok_iff.1 h
    have picked : s.picks model p row = accepted := by simp [picks, held]
    have same := Checks.pure_ok_iff.1 h
    rw [← same, ih found, List.filter_cons, picked]

theorem sorted_nil {rows sorted : List Row} (h : s.sorted model [] rows = .ok sorted) :
    sorted = rows := by
  unfold Store.sorted at h
  obtain ⟨keyed, found, h⟩ := Checks.bind_ok_iff.1 h
  have back : keyed.map Prod.snd = rows := by
    refine Checks.map_of_mapM_ok (fun row entry made => ?_) found
    obtain ⟨keys, _, made⟩ := Checks.bind_ok_iff.1 made
    rw [← Checks.pure_ok_iff.1 made]
  have same := Checks.pure_ok_iff.1 h
  rw [← same, ← back, Sorting.sort_of_never]
  intro a b
  rfl

theorem select_plain {sel : Selection} (plain : sel.Plain) {rows : List Row}
    (h : s.select sel = .ok rows) :
    rows = (s.table sel.model).values.filter (s.picks sel.model sel.predicate) := by
  unfold select at h
  obtain ⟨_, _, h⟩ := Checks.bind_ok_iff.1 h
  by_cases void : sel.isVoid = true
  · have nothing : sel.predicate = .nothing := by
      unfold Selection.isVoid at void
      cases e : sel.predicate <;> simp_all [plain.limit, Predicate.isNothing]
    have never (row : Row) : s.picks sel.model .nothing row = false := by simp [picks, holds]
    have same : rows = [] := by simpa [void, pure, Except.pure, eq_comm] using h
    simp [same, nothing, never]
  · simp only [void] at h
    obtain ⟨found, matched, h⟩ := Checks.bind_ok_iff.1 h
    obtain ⟨sorted, ordered, h⟩ := Checks.bind_ok_iff.1 h
    unfold matching at matched
    obtain ⟨stored, known, kept⟩ := Checks.bind_ok_iff.1 matched
    unfold Store.rows at known
    obtain ⟨_, _, known⟩ := Checks.bind_ok_iff.1 known
    have all := Checks.pure_ok_iff.1 known
    rw [plain.order] at ordered
    have cut := Checks.pure_ok_iff.1 h
    rw [← cut, Selection.page, plain.limit, plain.offset, List.drop_zero, sorted_nil ordered,
      keepIf_eq_filter kept, ← all]

/-! Selections look at the tables only, not at what an open transaction has saved. -/

theorem valuesAlong_begin (model : String) (row : Row) (segments : List String) :
    s.begin.valuesAlong model row segments = s.valuesAlong model row segments := by
  induction segments generalizing model row with
  | nil => rfl
  | cons first rest ih =>
    unfold valuesAlong
    simp only [ih]
    rfl

theorem holds_begin (row : Row) (p : Predicate) :
    s.begin.holds model row p = s.holds model row p :=
  holds_congr p fun c _ => valuesAlong_begin model row c.segments

theorem picks_begin : s.begin.picks model p = s.picks model p := by
  funext row
  simp only [picks, holds_begin]

/-! Effects -/

/-- The row with the changes applied, as far as they can be. -/
def rewritten (s : Store) (model : String) (changes : Changes) (row : Row) : Row :=
  match s.changed model changes row with
  | .ok now => now
  | .error _ => row

/-- The changes are applied to the touched rows of a model, each in its place, and nothing else in
the store changes. -/
structure Rewrites (s after : Store) (model : String) (changes : Changes)
    (touched : Nat × Row → Bool) : Prop where
  applied : ∀ entry ∈ (s.table model).rows, touched entry = true →
    ∃ now, s.changed model changes entry.2 = .ok now
  rows : (after.table model).rows = (s.table model).rows.map fun entry =>
    if touched entry then (entry.1, s.rewritten model changes entry.2) else entry
  others : ∀ other, other ≠ model → after.table other = s.table other

/-- Some rows of a model are removed, and nothing else in the store changes. -/
structure Removes (s after : Store) (model : String) (gone : Nat × Row → Bool) : Prop where
  rows : (after.table model).rows = (s.table model).rows.filter fun entry => !gone entry
  others : ∀ other, other ≠ model → after.table other = s.table other

variable {changes : Changes} {m : Model}

theorem changed_congr (same : after.catalog = s.catalog) :
    after.changed model changes = s.changed model changes := by
  funext row
  simp only [changed, Store.model, same]

theorem rewritten_congr (same : after.catalog = s.catalog) :
    after.rewritten model changes = s.rewritten model changes := by
  funext row
  simp only [rewritten, changed_congr same]

namespace Rewrites
variable {touched other : Nat × Row → Bool}

theorem congr (h : s.Rewrites after model changes touched)
    (same : ∀ entry ∈ (s.table model).rows, touched entry = other entry) :
    s.Rewrites after model changes other := by
  refine ⟨fun entry mem on => h.applied entry mem (by rwa [same entry mem]), ?_, h.others⟩
  rw [h.rows]
  refine List.map_congr_left fun entry mem => ?_
  simp only [same entry mem]

theorem refl (s : Store) (model : String) (changes : Changes) :
    s.Rewrites s model changes fun _ => false :=
  ⟨by simp, by simp, fun _ _ => rfl⟩

theorem mem_of_untouched (h : s.Rewrites after model changes touched) {entry : Nat × Row}
    (mem : entry ∈ (s.table model).rows) (off : touched entry = false) :
    entry ∈ (after.table model).rows := by
  rw [h.rows]
  exact List.mem_map.2 ⟨entry, mem, by simp [off]⟩

/-- Changes to rows of some numbers and then to rows of other numbers. -/
theorem append {between : Store} (first second : Nat → Bool)
    (h : s.Rewrites between model changes fun entry => first entry.1)
    (h' : between.Rewrites after model changes fun entry => second entry.1)
    (same : between.catalog = s.catalog) (disjoint : ∀ n, first n = true → second n = false) :
    s.Rewrites after model changes fun entry => first entry.1 || second entry.1 := by
  refine ⟨?_, ?_, fun other ne => (h'.others other ne).trans (h.others other ne)⟩
  · intro entry mem touched
    by_cases now : first entry.1 = true
    · exact h.applied entry mem now
    · have later : second entry.1 = true := by simpa [now] using touched
      rw [← changed_congr same]
      exact h'.applied entry (h.mem_of_untouched mem (by simpa using now)) later
  · rw [h'.rows, h.rows, List.map_map]
    refine List.map_congr_left fun entry _ => ?_
    by_cases now : first entry.1 = true
    · simp [now, disjoint _ now]
    · simp [now, rewritten_congr same]

end Rewrites

/-- A removal of some rows is one of others only if these are the same rows. -/
theorem Removes.iff_congr {gone other : Nat × Row → Bool} (h : s.Removes after model gone) :
    s.Removes after model other ↔ ∀ entry ∈ (s.table model).rows, gone entry = other entry := by
  constructor
  · intro h' entry mem
    have same : entry ∈ (s.table model).rows.filter (fun entry => !gone entry) ↔
        entry ∈ (s.table model).rows.filter fun entry => !other entry := by
      rw [← h.rows, h'.rows]
    simpa [List.mem_filter, mem] using same
  · intro same
    refine ⟨?_, h.others⟩
    rw [h.rows]
    refine List.filter_congr fun entry mem => ?_
    rw [same entry mem]

/-! Rows are addressed by their keys. -/

theorem keysOf_cons {row : Row} {rest : List Row} {key : Value}
    (own : row.get? m.schema.key = some key) : keysOf m (row :: rest) = key :: keysOf m rest := by
  simp [keysOf, own]

/-- An update reaches the row that the key leads to, and no other one. -/
theorem updateRow_at (table : (s.table model).Indexed m.schema.key) {entry : Nat × Row}
    (mem : entry ∈ (s.table model).rows) {key : Value}
    (numbered : (s.table model).number? key = some entry.1) {now : Row}
    (done : s.updateRow model key changes = (.ok now, after)) :
    s.changed model changes entry.2 = .ok now ∧
      s.Rewrites after model changes fun other => other.1 == entry.1 := by
  obtain ⟨row, addressed, made, rfl⟩ := updateRow_ok done
  obtain rfl : entry.2 = row := by
    simpa using (table.get?_of_number mem numbered).symm.trans addressed
  refine ⟨made, ?_, ?_, fun other ne => table_withTable_of_ne _ ne⟩
  · intro other among same
    obtain rfl := table.eq_of_number among mem (by simpa using same)
    exact ⟨now, made⟩
  · simp only [table_withTable_self, Table.replace, numbered, beq_iff_eq]
    refine List.map_congr_left fun other among => ?_
    by_cases here : other.1 = entry.1
    · obtain rfl := table.eq_of_number among mem here
      simp [rewritten, made]
    · simp [here]

theorem updateRow_rewrites (found : s.model model = .ok m) (indexed : s.Indexed)
    {entry : Nat × Row} (mem : entry ∈ (s.table model).rows) {key : Value}
    (own : entry.2.get? m.schema.key = some key) {now : Row}
    (done : s.updateRow model key changes = (.ok now, after)) :
    s.changed model changes entry.2 = .ok now ∧
      s.Rewrites after model changes fun other => other.1 == entry.1 := by
  have table := indexed.table found
  exact updateRow_at table mem (table.number?_of_mem mem own) done

/-- An update that fails changes nothing. -/
theorem updateRow_fails (found : s.model model = .ok m) (indexed : s.Indexed)
    {entry : Nat × Row} (mem : entry ∈ (s.table model).rows) {key : Value}
    (own : entry.2.get? m.schema.key = some key) {e : GuardedQuery.Error}
    (failed : s.updateRow model key changes = (.error e, after)) :
    s.changed model changes entry.2 = .error e ∧ after = s := by
  have addressed : s.row? model key = some entry.2 := (indexed.table found).get?_of_mem mem own
  unfold updateRow at failed
  simp only [addressed] at failed
  split at failed
  · rename_i reason fails
    cases failed
    exact ⟨fails, rfl⟩
  · cases failed

/-- What it comes to when picked rows are changed one after another: all of them are, or those are
that stand before the first one that cannot be. -/
inductive Rewriting (s after : Store) (model : String) (changes : Changes)
    (picked : List (Nat × Row)) : Except GuardedQuery.Error Unit → Prop where
  | done (all : s.Rewrites after model changes fun entry =>
      (picked.map Prod.fst).contains entry.1) : Rewriting s after model changes picked (.ok ())
  | failed (front : List (Nat × Row)) (entry : Nat × Row) (back : List (Nat × Row))
      {e : GuardedQuery.Error} (split : picked = front ++ entry :: back)
      (fails : s.changed model changes entry.2 = .error e)
      (some : s.Rewrites after model changes fun entry =>
        (front.map Prod.fst).contains entry.1) :
      Rewriting s after model changes picked (.error e)

/-- A row is changed first, and then rows of other numbers are. -/
theorem Rewrites.cons {between : Store} {entry : Nat × Row} {numbers : List Nat}
    (first : s.Rewrites between model changes fun other => other.1 == entry.1)
    (later : between.Rewrites after model changes fun other => numbers.contains other.1)
    (same : between.catalog = s.catalog) (fresh : entry.1 ∉ numbers) :
    s.Rewrites after model changes fun other => (entry.1 :: numbers).contains other.1 := by
  refine (append (· == entry.1) numbers.contains first later same fun n here => ?_).congr
    fun other _ => ?_
  · obtain rfl : n = entry.1 := by simpa using here
    simpa using fresh
  · rw [List.contains_cons]

/-- Rows that are changed one after another are each changed once, from what they were. -/
theorem updateRows_rewriting (found : s.model model = .ok m) (indexed : s.Indexed)
    {picked : List (Nat × Row)} (inside : ∀ entry ∈ picked, entry ∈ (s.table model).rows)
    (distinct : (picked.map Prod.fst).Nodup) {outcome : Except GuardedQuery.Error Unit}
    (ran : updateRows model changes (keysOf m (picked.map Prod.snd)) s = (outcome, after)) :
    s.Rewriting after model changes picked outcome := by
  induction picked generalizing s with
  | nil =>
    simp only [List.map_nil, keysOf, List.filterMap_nil, updateRows] at ran
    obtain ⟨rfl, rfl⟩ := Prod.mk.inj ran
    exact .done (.refl _ model changes)
  | cons entry rest ih =>
    obtain ⟨fresh, distinct⟩ := List.nodup_cons.1 distinct
    obtain ⟨here, inside⟩ := List.forall_mem_cons.1 inside
    obtain ⟨key, own, _⟩ := (indexed.table found).keyed entry here
    rw [List.map_cons, keysOf_cons own, updateRows] at ran
    split at ran
    · rename_i e between first
      cases ran
      obtain ⟨fails, rfl⟩ := updateRow_fails found indexed here own first
      exact .failed [] entry rest rfl fails (.refl _ model changes)
    rename_i now between first
    have step := (updateRow_rewrites found indexed here own first).2
    have kept : s.Keeps (s.updateRow model key changes).2 := (s.works_updateRow key changes).keeps
    rw [first] at kept
    have remain : ∀ other ∈ rest, other ∈ (between.table model).rows := by
      intro other mem
      apply step.mem_of_untouched (inside other mem)
      have ne : other.1 ≠ entry.1 := fun same => fresh (same ▸ List.mem_map_of_mem mem)
      simpa using ne
    cases ih (kept.model_ok found) (kept.indexed indexed) remain distinct ran with
    | done all => exact .done (step.cons all kept.catalog fresh)
    | failed front last back split fails some =>
      rw [changed_congr kept.catalog] at fails
      refine .failed (entry :: front) last back (congrArg (entry :: ·) split) fails
        (step.cons some kept.catalog ?_)
      intro among
      apply fresh
      rw [split, List.map_append]
      exact List.mem_append_left _ among

theorem updateRows_rewrites (found : s.model model = .ok m) (indexed : s.Indexed)
    {picked : List (Nat × Row)} (inside : ∀ entry ∈ picked, entry ∈ (s.table model).rows)
    (distinct : (picked.map Prod.fst).Nodup)
    (done : updateRows model changes (keysOf m (picked.map Prod.snd)) s = (.ok (), after)) :
    s.Rewrites after model changes fun entry => (picked.map Prod.fst).contains entry.1 := by
  cases updateRows_rewriting found indexed inside distinct done with
  | done all => exact all

theorem remove_rows {t : Table} {entry : Nat × Row} {key : Value}
    (numbered : t.number? key = some entry.1) :
    (t.remove key).rows = t.rows.filter fun other => !(other.1 == entry.1) := by
  simp [Table.remove, numbered, bne]

theorem foldl_remove_rows {t : Table} (table : t.Indexed m.schema.key)
    {picked : List (Nat × Row)} (inside : ∀ entry ∈ picked, entry ∈ t.rows)
    (distinct : (picked.map Prod.fst).Nodup) :
    ((keysOf m (picked.map Prod.snd)).foldl Table.remove t).rows =
      t.rows.filter fun entry => !(picked.map Prod.fst).contains entry.1 := by
  induction picked generalizing t with
  | nil => simp [keysOf]
  | cons entry rest ih =>
    obtain ⟨fresh, distinct⟩ := List.nodup_cons.1 distinct
    obtain ⟨here, inside⟩ := List.forall_mem_cons.1 inside
    obtain ⟨key, own, _, numbered⟩ := table.keyed entry here
    have first := remove_rows numbered
    rw [List.map_cons, keysOf_cons own, List.foldl_cons, ih (table.remove key) ?_ distinct, first,
      List.filter_filter]
    · refine List.filter_congr fun other _ => ?_
      simp [Bool.and_comm]
    · intro other mem
      have ne : other.1 ≠ entry.1 := fun same => fresh (same ▸ List.mem_map_of_mem mem)
      rw [first]
      exact List.mem_filter.2 ⟨inside other mem, by simpa using ne⟩

/-! Writes to selected rows -/

/-- The entries of the rows that a predicate picks. -/
def pickedEntries (s : Store) (model : String) (p : Predicate) : List (Nat × Row) :=
  (s.table model).rows.filter fun entry => s.picks model p entry.2

theorem select_entries {sel : Selection} (plain : sel.Plain) {rows : List Row}
    (h : s.select sel = .ok rows) :
    rows = (s.pickedEntries sel.model sel.predicate).map Prod.snd := by
  rw [select_plain plain h, Table.values, List.filter_map]
  rfl

theorem pickedEntries_inside : ∀ entry ∈ s.pickedEntries model p,
    entry ∈ (s.table model).rows := fun _ mem => List.mem_of_mem_filter mem

theorem pickedEntries_distinct (table : (s.table model).Indexed m.schema.key) :
    ((s.pickedEntries model p).map Prod.fst).Nodup :=
  (List.filter_sublist.map Prod.fst).nodup table.nodup_numbers

/-- Of the stored entries, those are picked whose numbers are. -/
theorem contains_picked (table : (s.table model).Indexed m.schema.key) {entry : Nat × Row}
    (mem : entry ∈ (s.table model).rows) :
    ((s.pickedEntries model p).map Prod.fst).contains entry.1 = s.picks model p entry.2 := by
  rw [Bool.eq_iff_iff, List.contains_iff_mem, List.mem_map]
  constructor
  · rintro ⟨other, among, same⟩
    obtain ⟨stored, picked⟩ := List.mem_filter.1 among
    obtain rfl := table.eq_of_number stored mem same
    exact picked
  · intro picked
    exact ⟨entry, List.mem_filter.2 ⟨mem, picked⟩, rfl⟩

/-- The keys of selected rows, which every row of an indexed table has. -/
theorem selectKeys_spec {sel : Selection} (plain : sel.Plain) {keys : List Value}
    (h : s.selectKeys sel = .ok keys) :
    ∃ m rows, s.model sel.model = .ok m ∧ s.select sel = .ok rows ∧ keys = keysOf m rows ∧
      rows = (s.pickedEntries sel.model sel.predicate).map Prod.snd := by
  unfold selectKeys at h
  obtain ⟨rows, selected, h⟩ := Checks.bind_ok_iff.1 h
  obtain ⟨m, found, h⟩ := Checks.bind_ok_iff.1 h
  exact ⟨m, rows, found, selected, (Checks.pure_ok_iff.1 h).symm, select_entries plain selected⟩

theorem updateWhere_rewrites (indexed : s.Indexed) {sel : Selection} (plain : sel.Plain)
    {keys : List Value} (done : s.updateWhere sel changes = (.ok keys, after)) :
    s.selectKeys sel = .ok keys ∧
      s.Rewrites after sel.model changes fun entry => s.picks sel.model sel.predicate entry.2 := by
  unfold updateWhere at done
  split at done
  · cases done
  rename_i selected chosen
  obtain ⟨m, rows, found, _, rfl, rfl⟩ := selectKeys_spec plain chosen
  have table := indexed.table found
  match ran : updateRows sel.model changes (keysOf m
      ((s.pickedEntries sel.model sel.predicate).map Prod.snd)) s with
  | (.error e, between) =>
    rw [ran] at done
    cases done
  | (.ok (), between) =>
    rw [ran] at done
    cases done
    refine ⟨chosen, ?_⟩
    refine (updateRows_rewrites found indexed pickedEntries_inside
      (pickedEntries_distinct table) ran).congr fun entry mem => ?_
    exact contains_picked table mem

theorem deleteWhere_removes (indexed : s.Indexed) {sel : Selection} (plain : sel.Plain)
    {keys : List Value} (done : s.deleteWhere sel = (.ok keys, after)) :
    s.selectKeys sel = .ok keys ∧
      s.Removes after sel.model fun entry => s.picks sel.model sel.predicate entry.2 := by
  unfold deleteWhere at done
  split at done
  · cases done
  rename_i selected chosen
  cases done
  obtain ⟨m, rows, found, _, rfl, rfl⟩ := selectKeys_spec plain chosen
  have table := indexed.table found
  refine ⟨chosen, ?_, fun other ne => table_withTable_of_ne _ ne⟩
  rw [table_withTable_self,
    foldl_remove_rows table pickedEntries_inside (pickedEntries_distinct table)]
  refine List.filter_congr fun entry mem => ?_
  rw [contains_picked table mem]

end Store

end GuardedQuery
