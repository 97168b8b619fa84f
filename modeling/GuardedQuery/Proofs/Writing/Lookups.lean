import GuardedQuery.Proofs.Predicate.Conditions
import GuardedQuery.Proofs.Selection.Windows
import GuardedQuery.Proofs.Store.Dependencies
import GuardedQuery.Proofs.Value.Equality
import GuardedQuery.Proofs.Writing.Conformance

/-! Lookups of columns. What is looked up is stored in a new row as column values, and is found
again by conditions on these columns. The two agree except at a column that holds a list of keys,
whose items are compared one by one. -/

namespace GuardedQuery

/-! Conditions on columns -/

theorem FilterKey.read_of_separators {key : String} (single : Path.separators key = 0) :
    FilterKey.read key = ⟨[key], none, none⟩ := by
  rw [FilterKey.read, Path.segments_of_separators single]
  rfl

theorem Condition.eq_of_read {key : String} {value : Value} {c : Condition}
    (single : Path.separators key = 0) (read : Condition.read key value = .ok c) :
    c = .plain key .exact value := by
  rw [Condition.read, FilterKey.read_of_separators single] at read
  simp only at read
  split at read
  · cases read
  · cases read
    rw [Path.join, String.intercalate_singleton]
    rfl

/-- The conditions that a lookup of columns stands for. -/
def columnConditions (lookup : Row) : List Predicate :=
  lookup.map fun entry => .cond (.plain entry.1 .exact entry.2)

theorem FilterTree.eq_of_conjunction {lookup : Row} {p : Predicate}
    (single : ∀ name ∈ lookup.names, Path.separators name = 0)
    (read : FilterTree.conjunction lookup = .ok p) : p = .allOf (columnConditions lookup) := by
  obtain ⟨parts, all, rfl⟩ := Checks.map_ok_iff.1 read
  suffices parts = columnConditions lookup by rw [this]
  have each := Checks.mapM_ok_iff.1 all
  clear all read
  induction each with
  | nil => rfl
  | @cons entry part rest parts here _ ih =>
    obtain ⟨first, others⟩ := List.forall_mem_cons.1 single
    obtain ⟨c, read, rfl⟩ : ∃ c, Condition.read entry.1 entry.2 = .ok c ∧ .cond c = part :=
      Checks.map_ok_iff.1 here
    rw [Condition.eq_of_read first read, ih others]
    rfl

theorem Condition.acceptsAny_of_none {c : Condition} {values : List Value}
    (none : ∀ value ∈ values, c.accepts value = .ok false) : c.acceptsAny values = .ok false := by
  induction values with
  | nil => rfl
  | cons value rest ih =>
    obtain ⟨here, others⟩ := List.forall_mem_cons.1 none
    rw [acceptsAny, here]
    exact ih others

theorem Condition.accepts_plain {path : String} {actual expected : Value} :
    (Condition.plain path .exact expected).accepts actual =
      .ok (if actual.isNull then expected.isNull else actual.equal expected) := by
  rw [Condition.accepts, Condition.plain, Lookup.accepts]
  simp only [reduceCtorEq, if_false]
  split
  · simp
  · rfl

namespace Value
variable {v : Value}

theorem eq_null_of_isNull (null : v.isNull = true) : v = .null := by
  cases v with
  | null => rfl
  | bool | num | str | arr | obj => cases null

/-- What a column that holds `v` is compared with, when `v` is looked up, accepts it. -/
theorem accepts_self (path : String) (finite : v.Finite) :
    (Condition.plain path .exact v).acceptsAny [v] = .ok true := by
  have accepted : (Condition.plain path .exact v).accepts v = .ok true := by
    rw [Condition.accepts_plain]
    split
    · rename_i null
      rw [null]
    · rw [equal_self finite]
  rw [Condition.acceptsAny, accepted]
  rfl

/-- The items of a list are not the list. -/
theorem rejects_items (path : String) (held : v.isNull = false) :
    (Condition.plain path .exact v).acceptsAny (Store.orNull (v.arr?.getD [])) = .ok false := by
  refine Condition.acceptsAny_of_none fun item mem => ?_
  rw [Condition.accepts_plain, Except.ok.injEq]
  split
  · exact held
  · rename_i something
    cases v with
    | arr items =>
      refine eq_false_of_ne_true (not_equal_of_mem ?_)
      rw [Store.orNull] at mem
      split at mem
      · rw [List.mem_singleton.1 mem] at something
        exact absurd rfl something
      · exact mem
    | null | bool | num | str | obj =>
      rw [List.mem_singleton.1 mem] at something
      exact absurd rfl something

end Value

theorem Schema.kind?_of_mem_columns {s : Schema} {name : String} (column : name ∈ s.columns)
    (target via : String) : s.kind? name ≠ some (.reverse target via) := by
  intro reverse
  obtain ⟨field, among, named⟩ := List.mem_map.1 (NameSet.mem_ofList.1 column)
  obtain ⟨mem, forward⟩ := List.mem_filter.1 among
  rw [kind?, field?_eq_some_iff.2 ⟨mem, named⟩, Option.map_some, Option.some.injEq] at reverse
  rw [reverse] at forward
  cases forward

namespace Store
variable {s : Store} {model : String} {m : Model} {row : Row} {name : String} {v : Value}

/-- The values of a path that is a column. -/
theorem valuesAlong_column (known : s.model model = .ok m) (apart : m.isKey name = false)
    (column : name ∈ m.schema.columns) (held : row.get? name = some v) :
    s.valuesAlong model row [name] = .ok (match m.schema.kind? name with
      | some (.toMany _) => orNull (v.arr?.getD [])
      | _ => [v]) := by
  have stored := Schema.kind?_of_mem_columns column
  simp only [valuesAlong, known, bind, Except.bind, apart, Bool.false_eq_true, if_false]
  cases declared : m.schema.kind? name with
  | none => simp [held, pure, Except.pure]
  | some kind =>
    cases kind with
    | scalar | json | toOne | toMany => simp [held, pure, Except.pure]
    | reverse target via => exact absurd declared (stored target via)

/-- A column that holds the value that is looked up can always be compared with it, and accepts it
unless the value is one for a list of keys and not null. -/
theorem holds_column (known : s.model model = .ok m) (single : Path.separators name = 0)
    (apart : m.isKey name = false) (column : name ∈ m.schema.columns)
    (held : row.get? name = some v) (finite : v.Finite) :
    ∃ b, s.holds model row (.cond (.plain name .exact v)) = .ok b ∧
      (b = true ↔ ∀ target, m.schema.kind? name = some (.toMany target) → v.isNull = true) := by
  have along : s.valuesAlong model row (Condition.plain name .exact v).segments = _ :=
    (congrArg _ (Path.segments_of_separators single)).trans
      (valuesAlong_column known apart column held)
  rw [holds, along]
  change ∃ b, (Condition.plain name .exact v).acceptsAny _ = .ok b ∧ _
  split
  · rename_i target declared
    cases null : v.isNull with
    | true =>
      obtain rfl := Value.eq_null_of_isNull null
      exact ⟨true, Value.accepts_self name finite, iff_of_true rfl fun _ _ => rfl⟩
    | false =>
      refine ⟨false, Value.rejects_items name null, iff_of_false Bool.false_ne_true fun all => ?_⟩
      cases all target declared
  · rename_i other
    exact ⟨true, Value.accepts_self name finite,
      iff_of_true rfl fun target declared => absurd declared (other target)⟩

end Store

/-! The row that is created -/

namespace Entries
variable {α : Type}

theorem get?_filter (keep : String → Bool) {key : String} (kept : keep key = true)
    (entries : Entries α) :
    get? (entries.filter fun entry => keep entry.1) key = get? entries key := by
  induction entries with
  | nil => rfl
  | cons entry rest ih =>
    obtain ⟨name, value⟩ := entry
    rw [get?_cons, List.filter_cons]
    by_cases same : name = key
    · rw [same, if_pos kept, if_pos rfl, get?_cons, if_pos rfl]
    · rw [if_neg same, ← ih]
      split
      · rw [get?_cons, if_neg same]
      · rfl

theorem get?_foldl_of_not_mem {pairs : List (String × α)} {key : String}
    (absent : key ∉ pairs.map Prod.fst) (start : Entries α) :
    get? (pairs.foldl (fun entries pair => insert pair.1 pair.2 entries) start) key =
      get? start key := by
  induction pairs generalizing start with
  | nil => rfl
  | cons pair rest ih =>
    rw [List.map_cons, List.mem_cons, not_or] at absent
    rw [List.foldl_cons, ih absent.2, get?_insert_of_ne (Ne.symm absent.1)]

/-- A name that is listed once comes with its value. -/
theorem get?_ofList_of_mem {pairs others : List (String × α)} {key : String} {value : α}
    (mem : (key, value) ∈ pairs) (distinct : (pairs.map Prod.fst).Nodup)
    (absent : key ∉ others.map Prod.fst) : get? (ofList (pairs ++ others)) key = some value := by
  obtain ⟨front, back, rfl⟩ := List.append_of_mem mem
  rw [List.map_append, List.map_cons, List.nodup_append, List.nodup_cons] at distinct
  rw [ofList, List.foldl_append, get?_foldl_of_not_mem absent, List.foldl_append, List.foldl_cons,
    get?_foldl_of_not_mem distinct.2.1.1, get?_insert_self]

end Entries

/-- The lookup names columns other than the primary key that the caller may create, each of them
once. The defaults leave these columns alone, and the values are those of requests. -/
structure Query.LooksUp (q : Query) (m : Model) (request : Request) : Prop where
  single : ∀ name ∈ q.lookup.names, Path.separators name = 0
  apart : ∀ name ∈ q.lookup.names, m.isKey name = false
  writable : ∀ name ∈ q.lookup.names, m.MayWrite request .create name
  distinct : q.lookup.names.Nodup
  own : ∀ name ∈ q.lookup.names, name ∉ q.defaults.names
  finite : ∀ entry ∈ q.lookup, entry.2.Finite

/-- Without hooks, a new row holds what was sent for a column that the caller may create. -/
theorem Access.newRow_get? {a : Access} {m : Model} {model : String} {data row : Row}
    (found : a.catalog.get model = .ok m) (first : m.beforeHooks = []) (last : m.afterHooks = [])
    (done : a.newRow model data = .ok row) {name : String}
    (permitted : m.MayWrite a.request .create name) : row.get? name = data.get? name := by
  obtain ⟨hooked, kept, before, cut, after, _⟩ := prepare_ok found (newRow_ok done)
  rw [first, runHooks, List.foldlM_nil] at before
  rw [last, runHooks, List.foldlM_nil] at after
  obtain rfl := Checks.pure_ok_iff.1 before
  obtain rfl := Checks.pure_ok_iff.1 after
  rw [writable_ok found cut]
  refine Entries.get?_filter (fun name => (m.fields a.request .create).contains name &&
    m.schema.columns.contains name) ?_ data
  rw [Bool.and_eq_true, NameSet.contains_iff, NameSet.contains_iff]
  exact permitted

namespace Plan
variable {p : Plan} {s after : Store} {row : Row}

theorem creationData_get? (looksUp : p.query.LooksUp p.model p.request) {entry : String × Value}
    (mem : entry ∈ p.query.lookup) : p.creationData.get? entry.1 = some entry.2 := by
  have plain : p.query.lookup.filter (fun entry => Path.separators entry.1 = 0) =
      p.query.lookup :=
    List.filter_eq_self.2 fun other among => by
      simpa using looksUp.single _ (List.mem_map_of_mem among)
  have named : p.query.lookup.map
      (fun entry => (if entry.1 = keyAlias then p.keyName else entry.1, entry.2)) =
        p.query.lookup := by
    refine (List.map_congr_left fun other among => ?_).trans (List.map_id _)
    have apart := looksUp.apart _ (List.mem_map_of_mem among)
    rw [Model.isKey, Bool.or_eq_false_iff, decide_eq_false_iff_not] at apart
    rw [if_neg apart.1]
    rfl
  simp only [creationData]
  rw [plain, named]
  exact Entries.get?_ofList_of_mem mem looksUp.distinct
    (looksUp.own _ (List.mem_map_of_mem mem))

/-- The row that is created on a miss comes to the end of the table and holds what was looked up. -/
theorem createMissing_ok (looksUp : p.query.LooksUp p.model p.request)
    (found : p.access.catalog.get p.name = .ok p.model) (known : s.model p.name = .ok p.model)
    (first : p.model.beforeHooks = []) (last : p.model.afterHooks = [])
    (ran : p.createMissing.run s = (.ok row, after)) :
    (∃ n, (after.table p.name).rows = (s.table p.name).rows ++ [(n, row)]) ∧
      (∀ other, other ≠ p.name → after.table other = s.table other) ∧
      ∀ entry ∈ p.query.lookup, row.get? entry.1 = some entry.2 := by
  unfold createMissing at ran
  obtain ⟨_, _, ran⟩ := Script.run_check_ok ran
  obtain ⟨sent, made, ran⟩ := Script.run_check_ok ran
  rw [Script.insert, Script.run_request] at ran
  have done : s.insert p.name sent = (.ok row, after) := Store.settle_ok_iff.1 ran
  obtain ⟨_, _, grows⟩ := Store.insert_extends done
  simp only [Store.insert, known] at done
  obtain ⟨outcome, rfl⟩ := Prod.mk.inj done
  have inserts := Store.Table.insert_ok (Prod.ext outcome rfl)
  refine ⟨⟨_, by rw [Store.table_withTable_self, inserts.rows]⟩, grows.others, fun entry mem => ?_⟩
  have name := List.mem_map_of_mem (f := Prod.fst) mem
  have held : sent.get? entry.1 = some entry.2 := by
    rw [Access.newRow_get? found first last made (looksUp.writable _ name),
      creationData_get? looksUp mem]
  rcases inserts.completes with ⟨_, rfl⟩ | ⟨_, rfl⟩
  · exact held
  · have apart := looksUp.apart _ name
    rw [Model.isKey, Bool.or_eq_false_iff, decide_eq_false_iff_not,
      decide_eq_false_iff_not] at apart
    rw [Entries.get?_insert_of_ne (Ne.symm apart.2), held]

end Plan

/-! The row that is found -/

namespace Plan
variable {p : Plan} {s after : Store} {w : Written} {row : Row} {wanted : Predicate}

/-- What a lookup selects: two rows at most, as it needs to know of no more. -/
def lookupSelection (p : Plan) (wanted : Predicate) : Selection :=
  { p.selection.narrow wanted with offset := 0, limit := some 2 }

/-- The lookup turns the row down. -/
def Misses (p : Plan) (s : Store) (row : Row) : Prop :=
  ∃ wanted, p.lookupPredicate = .ok wanted ∧
    s.Rejects p.name row (p.lookupSelection wanted).predicate

theorem window_lookUp (free : p.selection.Unbounded) (wanted : Predicate) :
    (p.selection.narrow wanted).window 0 (some 2) = .ok (p.lookupSelection wanted) := by
  have narrowed := free.narrow wanted
  rw [Selection.window, narrowed.offset, narrowed.limit, if_pos (by decide)]
  rfl

/-- A lookup knows of every row whether it has found it or turned it down. -/
theorem found_or_rejects (about : p.selection.model = p.name) (free : p.selection.Unbounded)
    {found : Option Row} (ran : p.lookUp.run s = (.ok found, after)) :
    ∃ wanted, p.lookupPredicate = .ok wanted ∧
      (∀ row ∈ found, s.Stored p.name row ∧
        s.Accepts p.name row (p.lookupSelection wanted).predicate) ∧
      ∀ row, s.Stored p.name row →
        row ∈ found ∨ s.Rejects p.name row (p.lookupSelection wanted).predicate := by
  unfold lookUp at ran
  obtain ⟨wanted, read, ran⟩ := Script.run_check_ok ran
  obtain ⟨windowed, cut, ran⟩ := Script.run_check_ok ran
  obtain ⟨rows, selected, ran⟩ := Script.run_select_ok ran
  rw [window_lookUp free] at cut
  obtain rfl := Except.ok.inj cut
  have named : (p.lookupSelection wanted).model = p.name := about
  have listed (short : rows.length < 2) (row : Row) (stored : s.Stored p.name row) :
      row ∈ rows ∨ s.Rejects p.name row (p.lookupSelection wanted).predicate := by
    rw [← named] at stored ⊢
    exact Store.mem_or_rejects_of_select selected rfl rfl short stored
  refine ⟨wanted, read, ?_⟩
  match rows with
  | [] =>
    cases ran
    exact ⟨nofun, fun row stored => .inr ((listed (by decide) row stored).resolve_left nofun)⟩
  | [row] =>
    cases ran
    refine ⟨fun _ is => ?_, fun other stored => ?_⟩
    · cases is
      rw [← named]
      exact Store.accepts_of_mem_select selected List.mem_cons_self
    · exact (listed (by simp) other stored).imp_left fun mem =>
        Option.mem_some_iff.2 (List.mem_singleton.1 mem).symm
  | first :: second :: rest => cases ran

/-- Where the lookup turns all rows down but the last one, it finds that row. -/
theorem lookUp_last (about : p.selection.model = p.name) (free : p.selection.Unbounded)
    (closed : s.catalog.Closed) {m : Model} (known : s.model p.name = .ok m)
    (read : p.lookupPredicate = .ok wanted) {front : List Row}
    (values : (s.table p.name).values = front ++ [row])
    (others : ∀ other ∈ front, s.Rejects p.name other (p.lookupSelection wanted).predicate)
    (last : s.Accepts p.name row (p.lookupSelection wanted).predicate) :
    p.lookUp.run s = (.ok (some row), s) := by
  have named : (p.lookupSelection wanted).model = p.name := about
  rw [← named] at known values others last
  have selected := Store.select_last closed known values others last rfl rfl
  unfold lookUp
  rw [Script.run_check read, Script.run_check (window_lookUp free wanted),
    Script.run_select selected]
  rfl

/-- A request that finds its row shows it and leaves the store as it is. -/
theorem getOrCreate_of_lookUp {shown : Value} (found : p.lookUp.run s = (.ok (some row), s))
    (readable : p.requireRow row .read = .ok ()) (shows : (p.present row).run s = (.ok shown, s)) :
    p.getOrCreate.run s =
      (.ok ⟨(Response.ofData shown .row).withFlag "created" (.bool false), []⟩, s) := by
  unfold getOrCreate
  rw [Script.run_next found]
  simp only
  rw [Script.run_check readable, Script.run_next shows]
  rfl

theorem eq_of_lookupPredicate (single : ∀ name ∈ p.query.lookup.names, Path.separators name = 0)
    (read : p.lookupPredicate = .ok wanted) :
    wanted = .allOf (columnConditions p.query.lookup) :=
  FilterTree.eq_of_conjunction single (Checks.mapError_ok_iff.1 read)

/-- A column is compared without following it. -/
theorem avoids_lookup {catalog : Catalog} (found : catalog.get p.name = .ok p.model)
    {request : Request} (looksUp : p.query.LooksUp p.model request)
    (read : p.lookupPredicate = .ok wanted) {c : Condition} (mem : c ∈ wanted.conditions)
    (avoided : String) : catalog.Avoids avoided p.name c.segments := by
  rw [eq_of_lookupPredicate looksUp.single read] at mem
  obtain ⟨part, among, mem⟩ := Predicate.exists_of_mem_allOf mem
  obtain ⟨entry, listed, rfl⟩ := List.mem_map.1 among
  obtain rfl := List.mem_singleton.1 mem
  have name := List.mem_map_of_mem (f := Prod.fst) listed
  rw [Condition.segments, Condition.plain, Path.segments_of_separators (looksUp.single _ name)]
  intro m kind target known declared hop
  obtain rfl : p.model = m := Option.some.inj ((Catalog.get_ok_iff.1 found).symm.trans known)
  have column : p.model.column entry.1 = entry.1 := by
    rw [Model.column, looksUp.apart _ name]
    rfl
  rw [column] at declared
  cases kind with
  | scalar | json | toOne | toMany => cases hop
  | reverse other via =>
    exact absurd declared (Schema.kind?_of_mem_columns (looksUp.writable _ name).2 other via)

/-- A row that holds what is looked up is accepted unless a list of keys is looked up. -/
theorem accepts_lookup_iff (known : s.model p.name = .ok p.model)
    (looksUp : p.query.LooksUp p.model p.request) (read : p.lookupPredicate = .ok wanted)
    (held : ∀ entry ∈ p.query.lookup, row.get? entry.1 = some entry.2) :
    s.Accepts p.name row wanted ↔ ∀ entry ∈ p.query.lookup, ∀ target,
      p.model.schema.kind? entry.1 = some (.toMany target) → entry.2.isNull = true := by
  rw [eq_of_lookupPredicate looksUp.single read, Store.accepts_allOf_iff, columnConditions,
    List.forall_mem_map]
  refine forall₂_congr fun entry mem => ?_
  have name := List.mem_map_of_mem (f := Prod.fst) mem
  obtain ⟨b, holds, iff⟩ := Store.holds_column known (looksUp.single _ name) (looksUp.apart _ name)
    (looksUp.writable _ name).2 (held entry mem) (looksUp.finite entry mem)
  rw [Store.Accepts, holds, ← iff, Except.ok.injEq]

end Plan

end GuardedQuery
