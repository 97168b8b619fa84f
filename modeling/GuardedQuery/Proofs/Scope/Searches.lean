import GuardedQuery.Proofs.Path
import GuardedQuery.Proofs.Scope.Composition

/-! What a search does to the rows of a query. It looks through the searchable fields that the
caller can read, among those asked for. If there are any, only rows with the text in one of them are
left; if there are none, the query is one without a search. -/

namespace GuardedQuery

/-- One of the values that the names lead to has the text in it, whatever the case of letters. -/
def Store.Mentions (s : Store) (model : String) (row : Row) (names : List String)
    (text : String) : Prop :=
  ∃ values, s.valuesAlong model row names = .ok values ∧ ∃ value ∈ values,
    ∃ shown, value.plain? = some shown ∧ Lookup.ignoringCase Text.contains shown text = true

namespace Condition

/-- Any of the values is accepted if no test before it fails. -/
theorem acceptsAny_iff {c : Condition} {test : Value → Bool}
    (total : ∀ value, c.accepts value = .ok (test value)) {values : List Value} :
    c.acceptsAny values = .ok true ↔ ∃ value ∈ values, test value = true := by
  induction values with
  | nil => simp [acceptsAny]
  | cons value rest ih =>
    rw [acceptsAny, total, List.exists_mem_cons_iff, ← ih]
    cases test value <;> simp [bind, Except.bind, pure, Except.pure]

theorem accepts_icontains (field text : String) (value : Value) :
    (plain field .icontains (.str text)).accepts value =
      .ok (Lookup.onTexts (Lookup.ignoringCase Text.contains) value (.str text)) := by
  cases value <;> rfl

end Condition

namespace Lookup

theorem onTexts_iff {test : String → String → Bool} {actual : Value} {text : String} :
    onTexts test actual (.str text) = true ↔
      ∃ shown, actual.plain? = some shown ∧ test shown text = true := by
  rw [onTexts]
  cases actual.plain? <;> simp [Value.plain?]

end Lookup

theorem Store.accepts_icontains_iff {s : Store} {model : String} {row : Row}
    {field text : String} :
    s.Accepts model row (.cond (.plain field .icontains (.str text))) ↔
      s.Mentions model row (Path.segments field) text := by
  rw [Accepts, holds, Checks.bind_ok_iff]
  refine exists_congr fun values => and_congr_right fun _ => ?_
  rw [Condition.acceptsAny_iff (Condition.accepts_icontains field text)]
  exact exists_congr fun value => and_congr_right fun _ => Lookup.onTexts_iff

namespace Access
variable {a : Access} {m : Model} {model : String} {q : Query} {p : Plan} {search : Search}

/-- The field is searchable, the caller can read it, and it is among those asked for, if any are. -/
structure Searches (a : Access) (m : Model) (search : Search) (field : String) : Prop where
  searchable : field ∈ m.searchable
  readable : field ∈ m.fields a.request .read
  requested : ∀ names ∈ search.fields, field ∈ names

theorem mem_searchFields_iff {field : String} :
    field ∈ a.searchFields m search.fields ↔ a.Searches m search field := by
  have both : field ∈ (m.searchable.inter (m.fields a.request .read)).toList ↔
      field ∈ m.searchable ∧ field ∈ m.fields a.request .read := NameSet.mem_inter
  unfold searchFields
  cases asked : search.fields with
  | none =>
    rw [both]
    exact ⟨fun ⟨searchable, readable⟩ => ⟨searchable, readable, by simp [asked]⟩,
      fun h => ⟨h.searchable, h.readable⟩⟩
  | some names =>
    rw [List.mem_filter, both, List.contains_iff_mem]
    exact ⟨fun ⟨⟨searchable, readable⟩, listed⟩ => ⟨searchable, readable, by simp [asked, listed]⟩,
      fun h => ⟨⟨h.searchable, h.readable⟩, h.requested names asked⟩⟩

/-- The text that a search looks for. -/
def sought (search : Search) : String := Text.trim (search.text.getD "")

theorem searchPredicate?_eq_none_iff : a.searchPredicate? m search = none ↔
    sought search = "" ∨ ∀ field, ¬ a.Searches m search field := by
  rw [searchPredicate?]
  simp only [← mem_searchFields_iff, ← List.eq_nil_iff_forall_not_mem, sought]
  split
  · rename_i off
    simpa using off
  · rename_i on
    simpa using on

/-- A predicate of a search accepts rows with the text in a searched field only. -/
theorem mentions_of_searchPredicate {s : Store} {row : Row} {predicate : Predicate}
    (made : a.searchPredicate? m search = some predicate)
    (accepted : s.Accepts model row predicate) : ∃ field, a.Searches m search field ∧
      s.Mentions model row (Path.segments field) (sought search) := by
  rw [searchPredicate?] at made
  split at made
  · cases made
  obtain rfl := Option.some.inj made
  obtain ⟨part, listed, accepted⟩ := Store.exists_of_accepts_anyOf accepted
  obtain ⟨field, mem, rfl⟩ := List.mem_map.1 listed
  exact ⟨field, mem_searchFields_iff.1 mem, Store.accepts_icontains_iff.1 accepted⟩

/-- Whatever else a query asks for, the rows that its selection accepts are those of its search. -/
theorem accepts_search_of_selection {sel : Selection} (found : a.catalog.get model = .ok m)
    (selected : a.selection model q = .ok sel) {s : Store} {row : Row}
    (accepted : s.Accepts model row sel.predicate) :
    ∀ p ∈ q.search.bind (a.searchPredicate? m), s.Accepts model row p := by
  obtain ⟨filter, _, ⟨_, arranged⟩ | ⟨_, exclude, _, arranged⟩⟩ := selection_cases found selected
  · rw [arranged.2, searched] at accepted
    exact (accepts_narrowBySearch_iff.1 accepted).2
  · rw [arranged.2, Store.accepts_without_iff, searched] at accepted
    exact (accepts_narrowBySearch_iff.1 accepted.1).2

/-- A search that has no predicate does nothing. -/
theorem selection_unsearched (found : a.catalog.get model = .ok m)
    (off : q.search.bind (a.searchPredicate? m) = none) :
    a.selection model { q with search := none } = a.selection model q := by
  have same (sel : Selection) : a.narrowBySearch m none sel = a.narrowBySearch m q.search sel := by
    rw [narrowBySearch, narrowBySearch, off, Option.bind_none]
  have onward (next : Model → Except Error Selection) : (Except.ok m >>= next) = next m := rfl
  simp only [selection, found, onward, same]

/-- If the caller can read a searchable field among those asked for, every row that a query with a
search is about has the text in the values that such a field leads to, and in the field itself where
its name is not read as a path. If there is no such field, the search has no part in which rows the
query is about. -/
theorem search_restricts_where_fields_are_left (planned : a.plan model q = .ok p)
    (asked : q.search = some search) (blank : sought search ≠ "") :
    ((∃ field, a.Searches p.model search field) → ∀ (s : Store) (row : Row),
      s.Accepts model row p.selection.predicate →
        (∃ field, a.Searches p.model search field ∧
          s.Mentions model row (Path.segments field) (sought search)) ∧
        ((∀ field, a.Searches p.model search field → Path.separators field = 0) →
          ∃ field, a.Searches p.model search field ∧
            s.Mentions model row [field] (sought search))) ∧
    ((∀ field, ¬ a.Searches p.model search field) →
      a.selection model { q with search := none } = .ok p.selection) := by
  have plans := plans_of_plan planned
  refine ⟨fun ⟨field, searched⟩ s row accepted => ?_, fun nowhere => ?_⟩
  · have rows := accepts_search_of_selection plans.found plans.selected accepted
    obtain ⟨predicate, made⟩ : ∃ predicate, a.searchPredicate? p.model search = some predicate := by
      rw [← Option.ne_none_iff_exists', Ne, searchPredicate?_eq_none_iff, not_or]
      exact ⟨blank, fun nowhere => nowhere field searched⟩
    rw [asked, Option.bind_some] at rows
    obtain ⟨field, searched, mentioned⟩ := mentions_of_searchPredicate made (rows predicate made)
    refine ⟨⟨field, searched, mentioned⟩, fun plain => ⟨field, searched, ?_⟩⟩
    rw [← Path.segments_of_separators (plain field searched)]
    exact mentioned
  · rw [selection_unsearched plans.found, plans.selected]
    rw [asked, Option.bind_some, searchPredicate?_eq_none_iff]
    exact .inr nowhere

end Access

/-! Letters, whose bodies are searched and may be read by some only, and the stamps on them, which
hold a field of their own that is named like a path -/

namespace Letters

def schema : Schema := ((Schema.ofKey "letter" "id").withField ⟨"title", .scalar⟩).withField
  ⟨"body", .scalar⟩

/-- Anybody may shred letters; how much of them can be read is another matter. -/
def letter (fields : List String) : Model :=
  { Model.ofSchema schema with
    searchable := .ofList ["body"]
    guards := [{ Guard.allowAll with fields := fun _ _ => .only (.ofList fields) }] }

def stamp : Model :=
  { Model.ofSchema (((Schema.ofKey "stamp" "id").withField ⟨"letter", .toOne "letter"⟩).withField
      ⟨"letter__title", .scalar⟩) with
    searchable := .ofList ["letter__title"]
    guards := [.allowAll] }

def engine (fields : List String) : Engine :=
  ⟨⟨.ofList [("letter", letter fields), ("stamp", stamp)]⟩, .default, none, fun _ => .ok ()⟩

def access (fields : List String) : Access := ⟨(engine fields).catalog, .anonymous, .default⟩

def letters (fields : List String) : Store :=
  ((Store.ofCatalog (engine fields).catalog).answer (.insertMany "letter"
    [[("title", .str "a"), ("body", .str "Zebras")], [("title", .str "b"), ("body", .str "-")]])).2

def search : Search := ⟨some " zebra ", none⟩

def shred : Query := { Query.plain .delete with search := some search }

/-- A stamp on the first letter. -/
def stamped : Row := [("id", .int 1), ("letter", .int 1), ("letter__title", .str "-")]

def titled : Query := { Query.plain .read with search := some ⟨some "a", none⟩ }

/-- The keys of the letters that remain. -/
def remaining (fields : List String) : List (Option String) :=
  let state := ((engine fields).execute "letter" shred .anonymous
    ⟨letters fields, .ofSettings .default⟩).2
  (state.store.table "letter").values.map fun row => (row.get? "id").bind Value.plain?

/-- One who cannot read the bodies shreds all letters, whatever text they should contain; and a stamp
is found by the title of its letter, which is not what its own field says. -/
theorem searches_let_rows_through :
    ("body" ∈ (letter ["title"]).searchable ∧ Access.sought search ≠ "" ∧
      (∀ field, ¬ (access ["title"]).Searches (letter ["title"]) search field) ∧
      (∃ p, (access ["title"]).plan "letter" shred = .ok p ∧
        ∀ row ∈ ((letters ["title"]).table "letter").values,
          (letters ["title"]).Accepts "letter" row p.selection.predicate) ∧
      remaining ["title"] = []) ∧
    ∃ p, (access ["title"]).plan "stamp" titled = .ok p ∧
      (letters ["title"]).Accepts "stamp" stamped p.selection.predicate ∧
      ∀ field ∈ stamp.searchable, ¬ (letters ["title"]).Mentions "stamp" stamped [field] "a" := by
  refine ⟨⟨by decide, by decide, fun field searched => ?_, ?_, by decide +kernel⟩, ?_⟩
  · have fields : (access ["title"]).searchFields (letter ["title"]) search.fields = [] := by
      decide +kernel
    rw [← Access.mem_searchFields_iff, fields] at searched
    cases searched
  · exact ⟨_, rfl, fun row _ => Store.accepts_all⟩
  · refine ⟨_, rfl, rfl, fun field named => ?_⟩
    obtain rfl : field = "letter__title" := List.mem_singleton.1 (NameSet.mem_ofList.1 named)
    rintro ⟨values, along, value, mem, shown, text, inside⟩
    obtain rfl : [Value.str "-"] = values := Except.ok.inj along
    obtain rfl := List.mem_singleton.1 mem
    obtain rfl : "-" = shown := Option.some.inj text
    revert inside
    decide

def zebras : Row := [("id", .int 1), ("title", .str "a"), ("body", .str "Zebras")]

/-- One who can read them shreds what was looked for. -/
theorem search_shreds_zebras :
    (∃ p, (access ["title", "body"]).plan "letter" shred = .ok p ∧
      (letters ["title", "body"]).Accepts "letter" zebras p.selection.predicate ∧
      ∃ field, (access ["title", "body"]).Searches p.model search field ∧
        (letters ["title", "body"]).Mentions "letter" zebras [field] "zebra") ∧
    remaining ["title", "body"] = [some "2"] := by
  refine ⟨?_, by decide +kernel⟩
  obtain ⟨p, planned, own, accepted⟩ : ∃ p,
      (access ["title", "body"]).plan "letter" shred = .ok p ∧ p.model = letter ["title", "body"] ∧
      (letters ["title", "body"]).Accepts "letter" zebras p.selection.predicate :=
    ⟨_, rfl, rfl, rfl⟩
  have body : (access ["title", "body"]).Searches p.model search "body" := by
    rw [own]
    exact ⟨by decide, by decide, by decide⟩
  obtain ⟨restricts, -⟩ :=
    Access.search_restricts_where_fields_are_left planned rfl (by decide)
  obtain ⟨-, itself⟩ := restricts ⟨"body", body⟩ (letters ["title", "body"]) zebras accepted
  refine ⟨p, planned, accepted, itself fun field searched => ?_⟩
  have named := searched.searchable
  rw [own] at named
  obtain rfl : field = "body" := List.mem_singleton.1 (NameSet.mem_ofList.1 named)
  decide

end Letters

end GuardedQuery
