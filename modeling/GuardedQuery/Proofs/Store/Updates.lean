import GuardedQuery.Proofs.Store.Effects
import GuardedQuery.Proofs.Store.Frames
import Mathlib.Data.List.Perm.Subperm

/-! Updates as one step. However a selection orders its rows and cuts a window out of them, they are
distinct rows of the table. An update changes them one after another and column by column, each
addressed by its key, but nothing of this shows in the result: every column has the value that its
change takes on the row as it was, and all other rows stay as they are, in their places. -/

namespace GuardedQuery

/-! Columns -/

namespace Changes
variable {changes : Changes} {before row after : Row}

/-- A row after changes: changed columns have the values that the changes take on the old row, all
others have their old values. -/
def Applied (changes : Changes) (old now : Row) : Prop :=
  ∀ column,
    match changes.get? column with
    | none => now.get? column = old.get? column
    | some change => ∃ value, change.value old = .ok value ∧ now.get? column = some value

/-- Every change is computed from `before`, whatever has been written into the row by then. The
induction is on the changes yet to be written, none of which writes a column again. -/
theorem get?_write (once : changes.names.Nodup) (written : changes.write before row = .ok after)
    (column : String) :
    match changes.get? column with
    | none => after.get? column = row.get? column
    | some change => ∃ value, change.value before = .ok value ∧ after.get? column = some value := by
  induction changes generalizing row with
  | nil =>
    cases written
    rfl
  | cons entry rest ih =>
    obtain ⟨name, change⟩ := entry
    obtain ⟨fresh, once⟩ := List.nodup_cons.1 once
    obtain ⟨value, computed, further⟩ := Checks.bind_ok_iff.1 written
    have later := ih once further
    rw [Entries.get?_cons]
    by_cases same : name = column
    · subst same
      have unnamed : Entries.get? rest name = none := by
        by_contra named
        obtain ⟨other, found⟩ := Option.ne_none_iff_exists'.1 named
        exact fresh (List.mem_map.2 ⟨_, Entries.mem_of_get? found, rfl⟩)
      rw [if_pos rfl]
      refine ⟨value, computed, ?_⟩
      rw [Store.get?_of_write unnamed further, Entries.get?_insert_self]
    · rw [if_neg same]
      rwa [Entries.get?_insert_of_ne same] at later

theorem applied_of_apply (once : changes.names.Nodup) (done : changes.apply row = .ok after) :
    changes.Applied row after := get?_write once done

end Changes

/-! Selected rows -/

theorem Selection.page_sublist {α : Type} (sel : Selection) (rows : List α) :
    (sel.page rows).Sublist rows := by
  unfold page
  split
  · exact (List.take_sublist _ _).trans (List.drop_sublist _ _)
  · exact List.drop_sublist _ _

namespace Store
variable {s after : Store} {model : String} {m : Model} {changes : Changes} {sel : Selection}

/-- A selection that is not void takes a page of the rows that its predicate picks, once they are in
order. -/
theorem select_sorted {rows : List Row} (h : s.select sel = .ok rows) :
    rows = [] ∨ ∃ sorted, rows = sel.page sorted ∧ s.sorted sel.model sel.order
      ((s.table sel.model).values.filter (s.picks sel.model sel.predicate)) = .ok sorted := by
  unfold select at h
  obtain ⟨_, _, h⟩ := Checks.bind_ok_iff.1 h
  split at h
  · exact .inl (Checks.pure_ok_iff.1 h).symm
  obtain ⟨found, matched, h⟩ := Checks.bind_ok_iff.1 h
  obtain ⟨sorted, ordered, h⟩ := Checks.bind_ok_iff.1 h
  unfold matching at matched
  obtain ⟨stored, known, kept⟩ := Checks.bind_ok_iff.1 matched
  obtain ⟨_, _, known⟩ := Checks.bind_ok_iff.1 known
  rw [keepIf_eq_filter kept, ← Checks.pure_ok_iff.1 known] at ordered
  exact .inr ⟨sorted, (Checks.pure_ok_iff.1 h).symm, ordered⟩

theorem select_subperm {rows : List Row} (h : s.select sel = .ok rows) :
    rows.Subperm (s.table sel.model).values := by
  rcases select_sorted h with rfl | ⟨sorted, rfl, ordered⟩
  · exact List.nil_subperm
  · apply (sel.page_sublist sorted).subperm.trans
    apply (sorted_perm ordered).subperm.trans
    exact List.filter_sublist.subperm

/-- Without an order, rows are selected in the order of the table. -/
theorem select_sublist {rows : List Row} (unordered : sel.order = [])
    (h : s.select sel = .ok rows) : rows.Sublist (s.table sel.model).values := by
  rcases select_sorted h with rfl | ⟨sorted, rfl, ordered⟩
  · exact List.nil_sublist _
  · rw [unordered] at ordered
    rw [sorted_nil ordered]
    exact (sel.page_sublist _).trans List.filter_sublist

/-- Part of a mapped list, in any order, is part of the list mapped. -/
theorem exists_subperm_of_map {α β : Type} {f : α → β} {xs : List α} {ys : List β}
    (h : ys.Subperm (xs.map f)) : ∃ picked : List α, ys = picked.map f ∧ picked.Subperm xs := by
  obtain ⟨zs, alike, part⟩ := h
  obtain ⟨front, inside, rfl⟩ := List.sublist_map_iff.1 part
  have composed : Relation.Comp (· = List.map f ·) List.Perm ys front := by
    rw [List.eq_map_comp_perm]
    exact alike.symm
  obtain ⟨picked, same, permuted⟩ := composed
  exact ⟨picked, same, front, permuted.symm, inside⟩

/-- Selected rows are entries of the table, each taken once. -/
theorem exists_picked (indexed : (s.table sel.model).Indexed m.schema.key) {rows : List Row}
    (h : s.select sel = .ok rows) :
    ∃ picked : List (Nat × Row), rows = picked.map Prod.snd ∧
      (∀ entry ∈ picked, entry ∈ (s.table sel.model).rows) ∧ (picked.map Prod.fst).Nodup := by
  obtain ⟨picked, same, part⟩ := exists_subperm_of_map (select_subperm h)
  obtain ⟨front, alike, inside⟩ := part
  refine ⟨picked, same, fun entry mem => inside.subset (alike.mem_iff.2 mem), ?_⟩
  apply (alike.map Prod.fst).nodup_iff.1
  exact (inside.map Prod.fst).nodup indexed.nodup_numbers

/-- Every row of an indexed table has a key. -/
theorem keysOf_picked (indexed : (s.table model).Indexed m.schema.key)
    {picked : List (Nat × Row)} (inside : ∀ entry ∈ picked, entry ∈ (s.table model).rows) :
    (keysOf m (picked.map Prod.snd)).map some =
      (picked.map Prod.snd).map (·.get? m.schema.key) := by
  induction picked with
  | nil => rfl
  | cons entry rest ih =>
    obtain ⟨here, inside⟩ := List.forall_mem_cons.1 inside
    obtain ⟨key, own, _⟩ := indexed.keyed entry here
    rw [List.map_cons, keysOf_cons own, List.map_cons, List.map_cons, ih inside, own]

/-! Replaced rows -/

/-- Some rows of a model are replaced by what they become, each in its place, and nothing else in
the store changes. -/
structure Replaces (s after : Store) (model : String) (rows : List Row)
    (becomes : Row → Row → Prop) : Prop where
  rows : List.Forall₂ (fun old now => (old ∈ rows → becomes old now) ∧ (old ∉ rows → now = old))
    (s.table model).values (after.table model).values
  others : ∀ other, other ≠ model → after.table other = s.table other

theorem Replaces.mono {rows : List Row} {becomes other : Row → Row → Prop}
    (h : s.Replaces after model rows becomes) (weaker : ∀ old now, becomes old now → other old now) :
    s.Replaces after model rows other :=
  ⟨h.rows.imp fun old now each => ⟨fun mem => weaker old now (each.1 mem), each.2⟩, h.others⟩

theorem mem_numbers_iff (indexed : (s.table model).Indexed m.schema.key)
    {picked : List (Nat × Row)} (inside : ∀ entry ∈ picked, entry ∈ (s.table model).rows)
    {entry : Nat × Row} (mem : entry ∈ (s.table model).rows) :
    entry.1 ∈ picked.map Prod.fst ↔ entry.2 ∈ picked.map Prod.snd := by
  simp only [List.mem_map]
  constructor
  · rintro ⟨other, among, same⟩
    exact ⟨other, among, congrArg Prod.snd (indexed.eq_of_number (inside other among) mem same)⟩
  · rintro ⟨other, among, same⟩
    exact ⟨other, among, congrArg Prod.fst (indexed.eq_of_row (inside other among) mem same)⟩

theorem Rewrites.replaces (indexed : (s.table model).Indexed m.schema.key)
    {picked : List (Nat × Row)} (inside : ∀ entry ∈ picked, entry ∈ (s.table model).rows)
    (h : s.Rewrites after model changes fun entry => (picked.map Prod.fst).contains entry.1) :
    s.Replaces after model (picked.map Prod.snd)
      fun old now => s.changed model changes old = .ok now := by
  refine ⟨?_, h.others⟩
  rw [Table.values, Table.values, h.rows, List.map_map, List.forall₂_map_left_iff,
    List.forall₂_map_right_iff, List.forall₂_same]
  intro entry mem
  have picked_iff := mem_numbers_iff indexed inside mem
  by_cases touched : entry.1 ∈ picked.map Prod.fst
  · obtain ⟨now, made⟩ := h.applied entry mem (List.contains_iff_mem.2 touched)
    refine ⟨fun _ => ?_, fun off => absurd (picked_iff.1 touched) off⟩
    simp [touched, rewritten, made]
  · have off : (picked.map Prod.fst).contains entry.1 = false := by simpa using touched
    refine ⟨fun on => absurd (picked_iff.2 on) touched, fun _ => ?_⟩
    simp only [Function.comp, off, Bool.false_eq_true, if_false]

/-! Updates -/

theorem apply_of_changed {row now : Row} (done : s.changed model changes row = .ok now) :
    changes.apply row = .ok now := by
  unfold changed at done
  obtain ⟨_, _, done⟩ := Checks.bind_ok_iff.1 done
  split at done
  · cases done
  · exact Checks.mapError_ok_iff.1 done

theorem model_of_changed {row now : Row} (done : s.changed model changes row = .ok now) :
    ∃ m, s.model model = .ok m := by
  unfold changed at done
  obtain ⟨m, known, _⟩ := Checks.bind_ok_iff.1 done
  exact ⟨m, Checks.mapError_ok_iff.1 known⟩

/-- What an update of selected rows comes to. It fails with the selection, and then the store stays
as it is, or it changes the selected rows one after another. -/
inductive Updating (s after : Store) (sel : Selection) (changes : Changes) :
    Except GuardedQuery.Error (List Value) → Prop where
  | unselected {e : Error} (fails : s.select sel = .error e) (same : after = s) :
      Updating s after sel changes (.error e.toError)
  | selected (m : Model) (picked : List (Nat × Row)) {outcome : Except GuardedQuery.Error Unit}
      (known : s.model sel.model = .ok m) (rows : s.select sel = .ok (picked.map Prod.snd))
      (inside : ∀ entry ∈ picked, entry ∈ (s.table sel.model).rows)
      (rewriting : s.Rewriting after sel.model changes picked outcome) :
      Updating s after sel changes (outcome.map fun _ => keysOf m (picked.map Prod.snd))

theorem model_of_select {rows : List Row} (h : s.select sel = .ok rows) :
    ∃ m, s.model sel.model = .ok m := by
  unfold select at h
  obtain ⟨m, known, _⟩ := Checks.bind_ok_iff.1 h
  exact ⟨m, known⟩

theorem selectKeys_of_select {rows : List Row} (known : s.model sel.model = .ok m)
    (h : s.select sel = .ok rows) : s.selectKeys sel = .ok (keysOf m rows) := by
  simp only [selectKeys, h, known]
  rfl

theorem updateWhere_updating (indexed : s.Indexed) (sel : Selection) (changes : Changes) :
    s.Updating (s.updateWhere sel changes).2 sel changes (s.updateWhere sel changes).1 := by
  unfold updateWhere
  cases selected : s.select sel with
  | error e =>
    have fails : s.selectKeys sel = .error e := by
      simp only [selectKeys, selected]
      rfl
    rw [fails]
    exact .unselected selected rfl
  | ok rows =>
    obtain ⟨m, known⟩ := model_of_select selected
    obtain ⟨picked, rfl, inside, distinct⟩ := exists_picked (indexed.table known) selected
    rw [selectKeys_of_select known selected]
    exact .selected m picked known selected inside
      (updateRows_rewriting known indexed inside distinct rfl)

theorem updateWhere_replaces (indexed : s.Indexed) {keys : List Value}
    (done : s.updateWhere sel changes = (.ok keys, after)) :
    ∃ m rows, s.model sel.model = .ok m ∧ s.select sel = .ok rows ∧
      keys.map some = rows.map (·.get? m.schema.key) ∧
      s.Replaces after sel.model rows fun old now => s.changed sel.model changes old = .ok now := by
  have updating := updateWhere_updating indexed sel changes
  rw [done] at updating
  generalize ended : (Except.ok keys : Except GuardedQuery.Error (List Value)) = outcome at updating
  cases updating with
  | unselected => cases ended
  | selected m picked known rows inside rewriting =>
    cases rewriting with
    | failed => cases ended
    | done all =>
      obtain rfl := Except.ok.inj ended
      have table := indexed.table known
      exact ⟨m, picked.map Prod.snd, known, rows, keysOf_picked table inside,
        all.replaces table inside⟩

theorem updateRow_replaces (indexed : s.Indexed) {key : Value} {now : Row}
    (done : s.updateRow model key changes = (.ok now, after)) :
    ∃ row, s.fetch model key = .ok (some row) ∧ s.changed model changes row = .ok now ∧
      (s.Replaces after model [row] fun old now => s.changed model changes old = .ok now) ∧
      after.fetch model key = .ok (some now) := by
  obtain ⟨row, addressed, made, same⟩ := updateRow_ok done
  obtain ⟨m, known⟩ := model_of_changed made
  obtain ⟨n, numbered, found⟩ := Option.bind_eq_some_iff.1 addressed
  have table := indexed.table known
  have mem : (n, row) ∈ (s.table model).rows := by
    obtain ⟨front, back, split, _⟩ := List.lookup_eq_some_iff.1 found
    rw [split]
    simp
  have alone : s.Rewrites after model changes
      fun other => ([(n, row)].map Prod.fst).contains other.1 := by
    apply (updateRow_at table mem numbered done).2.congr
    intro other _
    simp only [List.map_cons, List.map_nil, List.contains_cons, List.contains_nil, Bool.or_false]
  refine ⟨row, ?_, made, ?_, ?_⟩
  · rw [fetch, known, addressed]
    rfl
  · exact alone.replaces table (List.forall_mem_singleton.2 mem)
  · subst same
    have still : (s.withTable model ((s.table model).replace key now)).model model = .ok m := known
    have there : (s.withTable model ((s.table model).replace key now)).row? model key =
        some now := by
      rw [row?, table_withTable_self, Table.replace, numbered, Table.get?, Table.number?]
      change ((s.table model).number? key).bind _ = _
      rw [numbered, Option.bind_some, lookup_replaced, if_pos rfl, found]
      rfl
    rw [fetch, still, there]
    rfl

/-- An update of selected rows answers with their keys, in the order of the selection. Each of these
rows has every changed column computed from what it was before, and keeps its other columns; all
other rows stay as they are, in their places. The same goes for the row of one key, which is then
found under this key. -/
theorem updates_are_simultaneous {c : Catalog} (grown : s.Grown c)
    (once : changes.names.Nodup) :
    (∀ sel keys after, s.updateWhere sel changes = (.ok keys, after) →
      ∃ m rows, s.model sel.model = .ok m ∧ s.select sel = .ok rows ∧
        keys.map some = rows.map (·.get? m.schema.key) ∧
        s.Replaces after sel.model rows changes.Applied) ∧
    ∀ model key now after, s.updateRow model key changes = (.ok now, after) →
      ∃ row, s.fetch model key = .ok (some row) ∧ changes.Applied row now ∧
        s.Replaces after model [row] changes.Applied ∧
        after.fetch model key = .ok (some now) := by
  have indexed := grown.spec.2
  have applied {model : String} (old now : Row) (made : s.changed model changes old = .ok now) :
      changes.Applied old now := Changes.applied_of_apply once (apply_of_changed made)
  constructor
  · intro sel keys after done
    obtain ⟨m, rows, known, selected, answered, replaces⟩ := updateWhere_replaces indexed done
    exact ⟨m, rows, known, selected, answered, replaces.mono applied⟩
  · intro model key now after done
    obtain ⟨row, found, made, replaces, there⟩ := updateRow_replaces indexed done
    exact ⟨row, found, applied row now made, replaces.mono applied, there⟩

end Store

namespace Pairs

def pair : Model :=
  Model.ofSchema (((Schema.ofKey "pair" "id").withField ⟨"left", .scalar⟩).withField
    ⟨"right", .scalar⟩)

def catalog : Catalog := ⟨.ofList [("pair", pair)]⟩

def paired (id left right : Int) : Row :=
  [("id", .int id), ("left", .int left), ("right", .int right)]

def store : Store :=
  ((Store.ofCatalog catalog).answer
    (.insertMany "pair" [paired 1 1 2, paired 2 3 4, paired 3 5 6])).2

/-- Each column takes the value of the other one. -/
def swap : Changes := [("left", .compute (.field "right")), ("right", .compute (.field "left"))]

/-- The two pairs that were added last, the latest first. -/
def latest : Selection :=
  { Selection.ofModel "pair" with order := [⟨"id", true⟩], limit := some 2 }

theorem store_grown : store.Grown catalog := Store.Grown.new.answer _

theorem latest_pairs_are_swapped :
    store.Grown catalog ∧ swap.names.Nodup ∧
    ∃ after, store.updateWhere latest swap = (.ok [.int 3, .int 2], after) ∧
      store.Replaces after "pair" [paired 3 5 6, paired 2 3 4] swap.Applied ∧
      (after.table "pair").values = [paired 1 1 2, paired 2 4 3, paired 3 6 5] := by
  have once : swap.names.Nodup := by decide
  have ran : store.updateWhere latest swap =
    (.ok [.int 3, .int 2], (store.updateWhere latest swap).2) := rfl
  have chosen : store.select latest = .ok [paired 3 5 6, paired 2 3 4] := rfl
  obtain ⟨m, rows, _, selected, _, replaces⟩ :=
    (Store.updates_are_simultaneous store_grown once).1 latest _ _ ran
  obtain rfl := Except.ok.inj (selected.symm.trans chosen)
  exact ⟨store_grown, once, _, ran, replaces, rfl⟩

end Pairs

end GuardedQuery
