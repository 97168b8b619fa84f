import GuardedQuery.Proofs.Presentation.Nesting
import GuardedQuery.Proofs.Presentation.Unions
import GuardedQuery.Proofs.Vetting.Computed

/-! Requested paths are shown. Three rules have to agree on a path: the walk that vets it, the outline
that lists its names, and the showing of rows, which nests a relation while levels are left and the
outline lists something of the target. They do: every object along the path has the next name as a
key, down to the last one or to a column of structured values. -/

namespace GuardedQuery

theorem Model.ne_key_of_isKey {m : Model} {name : String} (notKey : m.isKey name = false) :
    name ≠ m.schema.key := by
  rw [isKey, Bool.or_eq_false_iff, decide_eq_false_iff_not, decide_eq_false_iff_not] at notKey
  exact notKey.2

theorem Outline.exists_of_has {o : Outline} {model field : String}
    (has : o.has model field = true) :
    ∃ names, o.get? model = some names ∧ names.isEmpty = false := by
  rw [Outline.has] at has
  split at has
  · rename_i names is
    have mem := NameSet.contains_iff.1 has
    exact ⟨names, is, List.isEmpty_eq_false_iff.2 (List.ne_nil_of_mem mem)⟩
  · cases has

/-- Along the names, every object has the next name as a key. Behind a relation that is not the last
name there is nothing, an object or a list of objects, where the names go on. -/
def Catalog.Delivers (c : Catalog) : String → List String → Value → Prop
  | _, [], _ => True
  | model, name :: rest, shown =>
    ∃ m value, c.model? model = some m ∧ shown.field? name = some value ∧
      ∀ next, m.target? name = some next → rest ≠ [] →
        value = .null ∨ c.Delivers next rest value ∨
          ∃ items, value = .arr items ∧ ∀ item ∈ items, c.Delivers next rest item

/-- A name that passes as output, unless it is a key, can be read. The walk ends at it if it is shown
by itself, and goes on where it leads otherwise. -/
theorem PathUse.inspect_output {path model name : String} {atRoot last : Bool} {m : Model}
    {allowed : NameSet} {next : Option String} (notKey : m.isKey name = false)
    (passed : PathUse.output.inspect path model atRoot m allowed name last = .ok next) :
    name ∈ allowed ∧
      (next = none ∧ ((m.computed? name).isSome = true ∨ (m.kind? name).isSome = true) ∧
          (m.target? name = none ∨ last = true) ∨
        ∃ target, next = some target ∧ m.computed? name = none ∧ m.target? name = some target) := by
  simp only [inspect, notKey, computed?, Bool.false_eq_true, if_false] at passed
  cases computed : m.computed? name with
  | some field =>
    simp only [computed, Option.isSome_some, if_true] at passed
    split at passed
    · cases passed
    rename_i readable
    split at passed
    · rename_i final
      cases passed
      exact ⟨by simpa using readable, .inl ⟨rfl, .inl rfl, .inr final⟩⟩
    · cases passed
  | none =>
    simp only [computed, Option.isSome_none, Bool.false_eq_true, if_false] at passed
    cases declared : m.kind? name with
    | none =>
      rw [declared] at passed
      cases passed
    | some kind =>
      simp only [declared] at passed
      split at passed
      · cases passed
      rename_i readable
      refine ⟨by simpa using readable, ?_⟩
      have leads : m.target? name = kind.target? := by
        rw [Model.target?, declared, Option.bind_some]
      cases kind with
      | json =>
        cases passed
        exact .inl ⟨rfl, .inr rfl, .inl leads⟩
      | scalar =>
        simp only at passed
        split at passed <;> cases passed
        exact .inl ⟨rfl, .inr rfl, .inl leads⟩
      | toOne target | toMany target | reverse target via =>
        cases passed
        exact .inr ⟨target, rfl, rfl, leads⟩

namespace Access
variable {a : Access} {model path : String} {names : List String} {o : Outline}

/-! Vetted paths -/

/-- The names lead along fields that the caller can read. None of them is a key, and none but the
last one is shown by itself, unless the path goes on into a column of structured values. -/
inductive Way (a : Access) : String → List String → Prop
  | last {model name : String} {rest : List String} {m : Model}
      (found : a.catalog.model? model = some m) (notKey : m.isKey name = false)
      (readable : name ∈ m.fields a.request .read)
      (shown : (m.computed? name).isSome = true ∨ (m.kind? name).isSome = true)
      (ends : m.target? name = none ∨ rest = []) : Way a model (name :: rest)
  | onward {model name next : String} {rest : List String} {m : Model}
      (found : a.catalog.model? model = some m) (notKey : m.isKey name = false)
      (stored : m.computed? name = none) (leads : a.Relates .read model name next)
      (further : Way a next rest) : Way a model (name :: rest)

theorem Way.ne_nil (way : a.Way model names) : names ≠ [] := by
  cases way <;> exact List.cons_ne_nil _ _

/-- What the walk of an output path has found out, as long as it meets no key. -/
theorem way_of_walk {atRoot : Bool} (some : names ≠ [])
    (walked : a.walk .output path atRoot model names = .ok ())
    (keyless : a.catalog.meetsKey model names = false) : a.Way model names := by
  induction names generalizing atRoot model with
  | nil => exact absurd rfl some
  | cons name rest ih =>
    rw [walk_cons] at walked
    split at walked
    · cases walked
    rename_i named
    obtain ⟨m, found, walked⟩ := Checks.bind_ok_iff.1 walked
    have known := Catalog.get_ok_iff.1 found
    simp only [Catalog.meetsKey, known, named, Bool.false_eq_true, if_false] at keyless
    cases notKey : m.isKey name with
    | true =>
      rw [if_pos notKey] at keyless
      cases keyless
    | false =>
      obtain ⟨next, passed, walked⟩ := Checks.bind_ok_iff.1 walked
      obtain ⟨readable, ⟨rfl, shown, ends⟩ | ⟨target, rfl, stored, leads⟩⟩ :=
        PathUse.inspect_output notKey passed
      · exact .last known notKey readable shown (ends.imp_right List.isEmpty_iff.1)
      · simp only [notKey, leads, Bool.false_eq_true, if_false] at keyless
        by_cases more : rest = []
        · refine .last known notKey readable (.inr ?_) (.inr more)
          obtain ⟨kind, declared, _⟩ := Option.bind_eq_some_iff.1 leads
          exact declared ▸ rfl
        · exact .onward known notKey stored ⟨m, known, readable, leads⟩ (ih more walked keyless)

/-! Outlines of vetted paths -/

end Access

/-- The outline has the names, each for the model that the names before lead to. -/
def Outline.Lists (o : Outline) (c : Catalog) : String → List String → Prop
  | _, [] => True
  | model, name :: rest =>
    o.has model name = true ∧
      ∀ m next, c.model? model = some m → m.target? name = some next → o.Lists c next rest

theorem Outline.Lists.mono {o o' : Outline} {c : Catalog} {model : String} {names : List String}
    (h : o.Lists c model names)
    (grows : ∀ model field, o.has model field = true → o'.has model field = true) :
    o'.Lists c model names := by
  induction names generalizing model with
  | nil => trivial
  | cons name rest ih =>
    exact ⟨grows model name h.1, fun m next found leads => ih (h.2 m next found leads)⟩

namespace Access
variable {a : Access} {use : FieldUse} {model path : String} {names : List String} {o o' : Outline}

/-- Following a path takes nothing away. -/
theorem has_of_follow {segments : List String} (followed : a.follow use model segments o = .ok o')
    {other field : String} (has : o.has other field = true) : o'.has other field = true := by
  obtain ⟨added, same⟩ : Outline.Adds (a.follow use model segments) :=
    a.adds_follow model segments
  rw [same] at followed
  cases added with
  | error e => cases followed
  | ok entries =>
    obtain rfl := Except.ok.inj followed
    exact (Outline.extendAll_iff (Q := fun o => o.has other field = true)
      (q := fun entry => entry.1 = other ∧ field ∈ entry.2)
      fun o _ names => Outline.has_extend o _ names).2 (.inl has)

theorem has_of_follow_cons {m : Model} (found : a.catalog.model? model = some m) {name : String}
    (permitted : name ∈ m.fields a.request use) {rest : List String}
    (followed : a.follow use model (name :: rest) o = .ok o') : o'.has model name = true := by
  have recorded : (o.extend model (.ofList [name])).has model name = true :=
    (Outline.has_extend o model _).2 (.inr ⟨rfl, by simp⟩)
  rw [follow, Catalog.get_ok_iff.2 found] at followed
  simp only [bind, Except.bind, NameSet.contains_iff.2 permitted, if_true, Bool.not_true,
    Bool.false_eq_true, if_false] at followed
  cases rest with
  | nil =>
    cases leads : m.target? name with
    | none =>
      rw [leads] at followed
      cases followed
      exact recorded
    | some target =>
      rw [leads] at followed
      cases followed
      rw [Outline.has_iff] at recorded ⊢
      exact mem_recordTarget_of_mem recorded
  | cons next others =>
    rcases kind : m.kind? name with _ | (_ | _ | target | target | ⟨target, via⟩)
    all_goals simp only [kind] at followed
    case some.json =>
      cases followed
      exact recorded
    case none | some.scalar =>
      split at followed <;> cases followed
      exact recorded
    all_goals exact has_of_follow followed recorded

/-- The walk of the outline goes along the vetted path, whatever comes behind it. -/
theorem lists_of_follow (way : a.Way model names) (more : List String)
    (followed : a.follow .read model (names ++ more) o = .ok o') :
    o'.Lists a.catalog model names := by
  induction way generalizing o with
  | last found notKey readable shown ends =>
    refine ⟨has_of_follow_cons found readable followed, fun m' next found' leads => ?_⟩
    obtain rfl := Option.some.inj (found.symm.trans found')
    rcases ends with none | rfl
    · rw [none] at leads
      cases leads
    · trivial
  | onward found notKey stored leads further ih =>
    obtain ⟨m', found', readable, target⟩ := id leads
    obtain rfl := Option.some.inj (found.symm.trans found')
    refine ⟨has_of_follow_cons found readable followed, fun m' next found' leads' => ?_⟩
    obtain rfl := Option.some.inj (found.symm.trans found')
    obtain rfl := Option.some.inj (target.symm.trans leads')
    rw [List.cons_append, follow_onward (List.append_ne_nil_of_left_ne_nil further.ne_nil more)
      leads] at followed
    exact ih followed

/-- Among several requested paths, the outline has the names of each. -/
theorem lists_of_outline {depth : Nat} {paths : List String}
    (made : a.outline model .read depth paths = .ok o) (asked : path ∈ paths)
    (way : a.Way model names) {more : List String}
    (segments : Path.segments path = names ++ more) : o.Lists a.catalog model names := by
  obtain ⟨added, h⟩ := exists_additions a model .read
  have some : paths ≠ [] := List.ne_nil_of_mem asked
  obtain ⟨single, own⟩ := (h.granted_iff some).1 ⟨o, made⟩ path asked
  have followed : a.follow .read model (names ++ more) (Dict.empty.insert model .empty) =
      .ok single := by
    rw [← segments]
    rw [outline] at own
    obtain ⟨m, _, own⟩ := Checks.bind_ok_iff.1 own
    simpa only [List.isEmpty_cons, Bool.false_eq_true, if_false, List.foldlM_cons,
      List.foldlM_nil, bind_pure] using own
  apply (lists_of_follow way more followed).mono
  intro other field has
  exact (h.has_iff some made other field).2 ⟨path, asked, single, own, has⟩

/-! Shown rows along vetted paths -/

section
variable {s : Store} {nested : Option Maker} {m : Model} {row : Row} {name : String}

/-- A name that the outline has and the model knows is a key of the row's object. -/
theorem slot_of_listed {card : Card} (made : a.rowCard s o nested model row = .ok card)
    (found : a.catalog.model? model = some m) (listed : o.has model name = true)
    (notKey : name ≠ m.schema.key)
    (known : (m.computed? name).isSome = true ∨ (m.kind? name).isSome = true) :
    ∃ c, card.value.field? name = some c.value ∧
      a.slot? s o nested m model row name = .ok (some c) := by
  obtain ⟨m', slots, found', rfl, slot, each⟩ := rowCard_cases made
  obtain rfl := Option.some.inj (found.symm.trans (Catalog.get_ok_iff.1 found'))
  have mem := Outline.has_iff.1 listed
  obtain ⟨shown, is⟩ := each name mem
  cases shown with
  | none =>
    cases slot_cases is with
    | absent unknown =>
      obtain ⟨uncomputed, undeclared⟩ := unknown.resolve_left notKey
      simp [uncomputed, undeclared] at known
  | some first =>
    have among : (name, first) ∈ slots := (slot (name, first)).2 (.inr ⟨mem, is⟩)
    have named : name ∈ (Entries.mapValues Card.value slots).names :=
      List.mem_map_of_mem (List.mem_map_of_mem among)
    obtain ⟨value, there⟩ := Entries.exists_get?_of_mem_names named
    obtain ⟨⟨other, c⟩, inside, same⟩ := List.mem_map.1 (Entries.mem_of_get? there)
    cases same
    refine ⟨c, by rw [Card.value_row]; exact there, ?_⟩
    rcases (slot (other, c)).1 inside with key | ⟨_, is⟩
    · cases key
      exact absurd rfl notKey
    · exact is

end

/-- What is behind a relation is null, the object of one row or the list of the objects of several,
each made for a row of the target. -/
theorem delivers_of_linkCard {c : Catalog} {kind : FieldKind} {make : Row → Except Error Card}
    {others : List Row} {card : Card} (linked : linkCard kind make others = .ok card)
    (each : ∀ other shown, make other = .ok shown → c.Delivers model names shown.value) :
    card.value = .null ∨ c.Delivers model names card.value ∨
      ∃ items, card.value = .arr items ∧ ∀ item ∈ items, c.Delivers model names item := by
  rcases linkCard_cases linked with ⟨_, rfl⟩ | ⟨other, _, made⟩ | ⟨cards, _, made, rfl⟩
  · exact .inl rfl
  · exact .inr (.inl (each other card made))
  · refine .inr (.inr ⟨cards.map Card.value, Card.value_list cards, fun item mem => ?_⟩)
    obtain ⟨shown, among, rfl⟩ := List.mem_map.1 mem
    obtain ⟨other, _, made⟩ := Checks.exists_of_mapM_ok made among
    exact each other shown made

/-- The card of a row shows the names of a way that the outline lists, with a level for each
relation that the way goes along. -/
theorem delivers_of_card {b : Access} (same : b.catalog = a.catalog) (way : a.Way model names)
    {s : Store} {levels : Nat} {row : Row} {card : Card} (listed : o.Lists a.catalog model names)
    (deep : names.length ≤ levels + 1) (made : b.card s o levels model row = .ok card) :
    a.catalog.Delivers model names card.value := by
  induction way generalizing levels row card with
  | @last model name rest m found notKey readable shown ends =>
    obtain ⟨nested, made⟩ : ∃ nested, b.rowCard s o nested model row = .ok card := by
      cases levels with
      | zero => exact ⟨_, made⟩
      | succ levels => exact ⟨_, made⟩
    obtain ⟨c, value, _⟩ :=
      slot_of_listed made (same ▸ found) listed.1 (Model.ne_key_of_isKey notKey) shown
    refine ⟨m, c.value, found, value, fun next leads more => ?_⟩
    rcases ends with none | rfl
    · rw [none] at leads
      cases leads
    · exact absurd rfl more
  | @onward model name next rest m found notKey stored leads further ih =>
    obtain ⟨m', found', _, target⟩ := leads
    obtain rfl := Option.some.inj (found.symm.trans found')
    obtain ⟨first, others, rfl⟩ := List.exists_cons_of_ne_nil further.ne_nil
    obtain ⟨kind, declared, leads⟩ := Option.bind_eq_some_iff.1 target
    have notKey := Model.ne_key_of_isKey notKey
    have beyond := listed.2 m next found target
    cases levels with
    | zero => simp at deep
    | succ levels =>
      obtain ⟨c, value, slot⟩ := slot_of_listed made (same ▸ found) listed.1 notKey
        (.inr (declared ▸ rfl))
      obtain ⟨_, _, _, linked, is⟩ := link_of_slot slot notKey stored declared leads
        (maker?_eq_some_iff.2 ⟨Outline.exists_of_has beyond.1, _, rfl, rfl⟩)
      cases is
      refine ⟨m, c.value, found, value, fun next' leads' _ => ?_⟩
      obtain rfl := Option.some.inj (target.symm.trans leads')
      exact delivers_of_linkCard linked fun other shown made =>
        ih beyond (Nat.le_of_succ_le_succ deep) made

/-- A requested path that is vetted, and meets no key, is shown as deep as there are levels. -/
theorem delivers_of_vetted {b : Access} (same : b.catalog = a.catalog)
    (strict : a.rejectsUnknown = true) (vetted : a.vetOutput model path = .ok ())
    (keyless : a.catalog.meetsKey model (fieldNames path) = false) {depth : Nat}
    {paths : List String} (outlined : a.outline model .read depth paths = .ok o)
    (asked : path ∈ paths) {s : Store} {levels : Nat} {row : Row} {card : Card}
    (deep : (fieldNames path).length ≤ levels + 1)
    (made : b.card s o levels model row = .ok card) :
    a.catalog.Delivers model (fieldNames path) card.value := by
  have walked : a.walk .output path true model (fieldNames path) = .ok () := by
    rw [vetOutput, vetPath, strict] at vetted
    split at vetted
    · cases vetted
    · exact vetted
  have way := way_of_walk (fieldNames_ne_nil path) walked keyless
  obtain ⟨n, names⟩ := fieldNames_eq_take path
  have segments : Path.segments path = fieldNames path ++ (Path.segments path).drop (n + 1) := by
    rw [names, List.take_append_drop]
  exact delivers_of_card same way (lists_of_outline outlined asked way segments) deep made

end Access

end GuardedQuery
