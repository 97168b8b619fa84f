import GuardedQuery.Proofs.Presentation.Cards

/-! Which rows are nested in a shown row: those that relations in the outline lead to, level by
level, and all of these. Nothing else about the rows is asked. -/

namespace GuardedQuery

theorem Entries.mem_insert {α : Type} {name : String} {value : α} {entries : Entries α}
    (fresh : name ∉ entries.names) {entry : String × α} :
    entry ∈ entries.insert name value ↔ entry = (name, value) ∨ entry ∈ entries := by
  induction entries with
  | nil => simp [insert]
  | cons first rest ih =>
    obtain ⟨other, old⟩ := first
    simp only [names, List.map_cons, List.mem_cons, not_or] at fresh
    simp only [insert, fresh.1, if_false]
    split
    · simp only [List.mem_cons]
    · rw [List.mem_cons, ih fresh.2, List.mem_cons]
      exact or_left_comm

/-- The rows behind a relation that are shown; of a to-one relation it is the first. -/
def FieldKind.shown : FieldKind → List Row → List Row
  | toOne _, rows => rows.take 1
  | _, rows => rows

/-- The field is a relation of the row that is shown by nested rows, among them the other row. -/
structure Behind (s : Store) (o : Outline) (m : Model) (model : String) (row : Row)
    (field target : String) (other : Row) : Prop where
  notKey : field ≠ m.schema.key
  stored : m.computed? field = none
  outlined : ∃ names, o.get? target = some names ∧ names.isEmpty = false
  related : ∃ kind others, m.kind? field = some kind ∧ kind.target? = some target ∧
    s.related model row field = .ok others ∧ other ∈ kind.shown others

namespace Access
variable {a : Access} {s : Store} {o : Outline} {nested : Option Maker} {m : Model}
  {model : String} {row : Row} {field : String}

theorem maker?_eq_some_iff {target : String} {make : Row → Except Error Card} :
    maker? o nested target = some make ↔
      (∃ names, o.get? target = some names ∧ names.isEmpty = false) ∧
        ∃ maker, nested = some maker ∧ maker target = make := by
  rw [maker?]
  cases o.get? target with
  | none => simp
  | some names => cases e : names.isEmpty <;> simp [e]

theorem related_ok_iff {others : List Row} :
    relatedRows s model row field = .ok others ↔ s.related model row field = .ok others :=
  Checks.mapError_ok_iff

/-- The card of a relation is that of the only row it shows, or the list of the cards of all. -/
theorem linkCard_cases {kind : FieldKind} {make : Row → Except Error Card} {others : List Row}
    {card : Card} (h : linkCard kind make others = .ok card) :
    kind.shown others = [] ∧ card = .plain .null ∨
    (∃ other, kind.shown others = [other] ∧ make other = .ok card) ∨
    ∃ cards, kind.shown others = others ∧ others.mapM make = .ok cards ∧ card = .list cards := by
  have listed {kind : FieldKind} (all : kind.shown others = others)
      (h : (do return Card.list (← others.mapM make)) = Except.ok card) :
      ∃ cards, kind.shown others = others ∧ others.mapM make = .ok cards ∧ card = .list cards := by
    obtain ⟨cards, made, h⟩ := Checks.bind_ok_iff.1 h
    exact ⟨cards, all, made, (Checks.pure_ok_iff.1 h).symm⟩
  cases kind with
  | toOne target =>
    cases others with
    | nil => exact .inl ⟨rfl, (Checks.pure_ok_iff.1 h).symm⟩
    | cons other rest => exact .inr (.inl ⟨other, rfl, h⟩)
  | scalar | json | toMany target | reverse target via => exact .inr (.inr (listed rfl h))

/-- Of each row behind a relation a card was made, and the card of the relation holds these. -/
theorem linkCard_spec {kind : FieldKind} {make : Row → Except Error Card} {others : List Row}
    {card : Card} (h : linkCard kind make others = .ok card) :
    (∀ other ∈ kind.shown others, ∃ c, make other = .ok c ∧ ∀ entry ∈ c.rows, entry ∈ card.rows) ∧
    ∀ entry ∈ card.rows, ∃ other ∈ kind.shown others, ∃ c, make other = .ok c ∧ entry ∈ c.rows := by
  rcases linkCard_cases h with ⟨shown, rfl⟩ | ⟨other, shown, one⟩ | ⟨cards, shown, made, rfl⟩
  · simp [shown, Card.rows]
  · simp [shown, one]
  · rw [shown, Card.rows]
    constructor
    · intro other among
      obtain ⟨c, mem, one⟩ := Checks.exists_ok_of_mapM_ok made among
      exact ⟨c, one, fun entry inside => Card.mem_listRows.2 ⟨c, mem, inside⟩⟩
    · intro entry inside
      obtain ⟨c, mem, inside⟩ := Card.mem_listRows.1 inside
      obtain ⟨other, among, one⟩ := Checks.exists_of_mapM_ok made mem
      exact ⟨other, among, c, one, inside⟩

/-- What becomes of a field: it is not shown, it is shown by a value that stands for no row, or it is
a relation that is shown by the rows behind it. -/
inductive Slot (a : Access) (s : Store) (o : Outline) (nested : Option Maker) (m : Model)
    (model : String) (row : Row) (field : String) : Option Card → Prop
  | absent (unknown : field = m.schema.key ∨ m.computed? field = none ∧ m.kind? field = none) :
      Slot a s o nested m model row field none
  | plain (value : Value) (notKey : field ≠ m.schema.key)
      (flat : m.computed? field = none →
        ∀ target, m.target? field = some target → maker? o nested target = none) :
      Slot a s o nested m model row field (some (.plain value))
  | link {kind : FieldKind} {target : String} {make : Row → Except Error Card} {others : List Row}
      {card : Card} (notKey : field ≠ m.schema.key) (stored : m.computed? field = none)
      (declared : m.kind? field = some kind) (leads : kind.target? = some target)
      (shows : maker? o nested target = some make)
      (related : relatedRows s model row field = .ok others)
      (linked : linkCard kind make others = .ok card) :
      Slot a s o nested m model row field (some card)

theorem slot_cases {made : Option Card} (h : a.slot? s o nested m model row field = .ok made) :
    Slot a s o nested m model row field made := by
  rw [slot?] at h
  by_cases key : field = m.schema.key
  · simp only [key, if_true] at h
    rw [← Checks.pure_ok_iff.1 h]
    exact .absent (.inl key)
  simp only [key, if_false] at h
  cases stored : m.computed? field with
  | some computed =>
    rw [stored] at h
    rw [← Checks.pure_ok_iff.1 h]
    refine .plain _ key fun none => ?_
    rw [stored] at none
    cases none
  | none =>
    rw [stored] at h
    cases declared : m.kind? field with
    | none =>
      rw [declared] at h
      rw [← Checks.pure_ok_iff.1 h]
      exact .absent (.inr ⟨stored, declared⟩)
    | some kind =>
      rw [declared] at h
      simp only at h
      cases nesting : kind.target?.bind (maker? o nested) with
      | some make =>
        rw [nesting] at h
        obtain ⟨others, related, h⟩ := Checks.bind_ok_iff.1 h
        obtain ⟨card, linked, h⟩ := Checks.bind_ok_iff.1 h
        obtain ⟨target, leads, maker⟩ := Option.bind_eq_some_iff.1 nesting
        rw [← Checks.pure_ok_iff.1 h]
        exact .link key stored declared leads maker related linked
      | none =>
        rw [nesting] at h
        obtain ⟨value, _, h⟩ := Checks.bind_ok_iff.1 h
        rw [← Checks.pure_ok_iff.1 h]
        refine .plain value key fun _ target leads => ?_
        rw [Model.target?, declared, Option.bind_some] at leads
        rwa [leads, Option.bind_some] at nesting

/-- A relation is shown by the rows behind it if there is a maker for its target. -/
theorem link_of_slot {target : String} {make : Row → Except Error Card} {made : Option Card}
    (h : a.slot? s o nested m model row field = .ok made) (notKey : field ≠ m.schema.key)
    (stored : m.computed? field = none) {kind : FieldKind} (declared : m.kind? field = some kind)
    (leads : kind.target? = some target) (shows : maker? o nested target = some make) :
    ∃ others card, relatedRows s model row field = .ok others ∧
      linkCard kind make others = .ok card ∧ made = some card := by
  cases slot_cases h with
  | absent unknown =>
    rcases unknown with key | ⟨_, undeclared⟩
    · exact absurd key notKey
    · rw [declared] at undeclared
      cases undeclared
  | plain value _ flat =>
    have leads : m.target? field = some target := by
      rw [Model.target?, declared, Option.bind_some, leads]
    rw [flat stored target leads] at shows
    cases shows
  | link _ _ declared' leads' shows' related linked =>
    obtain rfl := Option.some.inj (declared.symm.trans declared')
    obtain rfl := Option.some.inj (leads.symm.trans leads')
    obtain rfl := Option.some.inj (shows.symm.trans shows')
    exact ⟨_, _, related, linked, rfl⟩

/-- A row behind the relation has a card, which is a part of the card of the slot. -/
theorem card_of_behind {maker : Maker} {made : Option Card}
    (h : a.slot? s o (some maker) m model row field = .ok made) {target : String} {other : Row}
    (behind : Behind s o m model row field target other) :
    ∃ card c, made = some card ∧ maker target other = .ok c ∧
      ∀ entry ∈ c.rows, entry ∈ card.rows := by
  have shows : maker? o (some maker) target = some (maker target) :=
    maker?_eq_some_iff.2 ⟨behind.outlined, maker, rfl, rfl⟩
  obtain ⟨kind, others', declared, leads, related', among⟩ := behind.related
  obtain ⟨others, card, related, linked, rfl⟩ :=
    link_of_slot h behind.notKey behind.stored declared leads shows
  obtain rfl : others = others' := Except.ok.inj ((related_ok_iff.1 related).symm.trans related')
  obtain ⟨c, one, inside⟩ := (linkCard_spec linked).1 other among
  exact ⟨card, c, rfl, one, inside⟩

/-- A row that the card of a slot stands for is that of a row behind the relation. -/
theorem behind_of_mem {card : Card} (h : a.slot? s o nested m model row field = .ok (some card))
    {entry : String × Row} (mem : entry ∈ card.rows) :
    ∃ maker target other c, nested = some maker ∧ Behind s o m model row field target other ∧
      maker target other = .ok c ∧ entry ∈ c.rows := by
  cases slot_cases h with
  | plain => cases mem
  | @link kind target make others _ notKey stored declared leads shows related linked =>
    obtain ⟨other, among, c, one, inside⟩ := (linkCard_spec linked).2 entry mem
    obtain ⟨outlined, maker, rfl, rfl⟩ := maker?_eq_some_iff.1 shows
    exact ⟨maker, target, other, c, rfl,
      ⟨notKey, stored, outlined, kind, others, declared, leads, related_ok_iff.1 related, among⟩,
      one, inside⟩

theorem slot_ok_of_slots {fields : List String} {made result : Entries Card}
    (h : a.slots s o nested m model row fields made = .ok result) (mem : field ∈ fields) :
    ∃ shown, a.slot? s o nested m model row field = .ok shown := by
  induction fields generalizing made with
  | nil => cases mem
  | cons first rest ih =>
    rw [slots] at h
    obtain ⟨shown, here, h⟩ := Checks.bind_ok_iff.1 h
    rcases List.mem_cons.1 mem with rfl | mem
    · exact ⟨shown, here⟩
    · cases shown with
      | none => exact ih h mem
      | some card => exact ih h mem

/-- The slots made of some fields are those there were before and one for each of the fields that
has a card. -/
theorem mem_slots {fields : List String} {made result : Entries Card}
    (h : a.slots s o nested m model row fields made = .ok result) (nodup : fields.Nodup)
    (fresh : ∀ field ∈ fields, field ∈ made.names →
      a.slot? s o nested m model row field = .ok none) (slot : String × Card) :
    slot ∈ result ↔ slot ∈ made ∨ slot.1 ∈ fields ∧
      a.slot? s o nested m model row slot.1 = .ok (some slot.2) := by
  induction fields generalizing made with
  | nil =>
    rw [← Checks.pure_ok_iff.1 h]
    simp
  | cons field rest ih =>
    obtain ⟨new, nodup⟩ := List.nodup_cons.1 nodup
    rw [slots] at h
    obtain ⟨card, shown, h⟩ := Checks.bind_ok_iff.1 h
    cases card with
    | none =>
      rw [ih h nodup fun f mem => fresh f (List.mem_cons_of_mem _ mem)]
      constructor
      · rintro (old | ⟨mem, found⟩)
        · exact .inl old
        · exact .inr ⟨List.mem_cons_of_mem _ mem, found⟩
      · rintro (old | ⟨mem, found⟩)
        · exact .inl old
        · rcases List.mem_cons.1 mem with same | mem
          · rw [same, shown] at found
            cases found
          · exact .inr ⟨mem, found⟩
    | some card =>
      have unnamed : field ∉ made.names := by
        intro named
        have := (fresh field List.mem_cons_self named).symm.trans shown
        cases this
      rw [ih h nodup ?fresh, Entries.mem_insert unnamed]
      case fresh =>
        intro f mem named
        rcases Entries.mem_names_insert.1 named with rfl | named
        · exact absurd mem new
        · exact fresh f (List.mem_cons_of_mem _ mem) named
      constructor
      · rintro ((rfl | old) | ⟨mem, found⟩)
        · exact .inr ⟨List.mem_cons_self, shown⟩
        · exact .inl old
        · exact .inr ⟨List.mem_cons_of_mem _ mem, found⟩
      · rintro (old | ⟨mem, found⟩)
        · exact .inl (.inr old)
        · obtain ⟨name, other⟩ := slot
          rcases List.mem_cons.1 mem with same | mem
          · simp only at same found
            rw [same, shown] at found
            cases found
            exact .inl (.inl (by rw [same]))
          · exact .inr ⟨mem, found⟩

/-- Some field of the row that is in the outline is shown by nested rows, among them the other. -/
def Nests (a : Access) (s : Store) (o : Outline) (model : String) (row : Row) (target : String)
    (other : Row) : Prop :=
  ∃ m field, a.catalog.get model = .ok m ∧ field ∈ (o.get? model).getD .empty ∧
    Behind s o m model row field target other

/-- Within a number of levels, relations in the outline lead from one row to another. -/
inductive Leads (a : Access) (s : Store) (o : Outline) :
    Nat → String → Row → String → Row → Prop where
  | next {levels : Nat} {model target : String} {row other : Row}
      (nests : a.Nests s o model row target other) :
      Leads a s o (levels + 1) model row target other
  | further {levels : Nat} {model target last : String} {row other final : Row}
      (nests : a.Nests s o model row target other)
      (on : Leads a s o levels target other last final) :
      Leads a s o (levels + 1) model row last final

/-- A row is shown by its key and by the slots of its fields in the outline. -/
theorem rowCard_cases {card : Card} (h : a.rowCard s o nested model row = .ok card) :
    ∃ m slots, a.catalog.get model = .ok m ∧ card = .row model row slots ∧
      (∀ slot : String × Card, slot ∈ slots ↔
        slot = (m.schema.key, .plain ((row.get? m.schema.key).getD .null)) ∨
        slot.1 ∈ (o.get? model).getD .empty ∧
          a.slot? s o nested m model row slot.1 = .ok (some slot.2)) ∧
      ∀ field ∈ (o.get? model).getD .empty,
        ∃ shown, a.slot? s o nested m model row field = .ok shown := by
  obtain ⟨m, found, h⟩ := Checks.bind_ok_iff.1 h
  obtain ⟨slots, made, h⟩ := Checks.bind_ok_iff.1 h
  refine ⟨m, slots, found, (Checks.pure_ok_iff.1 h).symm, fun slot => ?_,
    fun field mem => slot_ok_of_slots made mem⟩
  have nodup : ((o.get? model).getD .empty).toList.Nodup := by
    refine ((o.get? model).getD .empty).sorted.imp fun {x y} lt same => ?_
    exact String.lt_irrefl x (same ▸ lt)
  rw [mem_slots made nodup, List.mem_singleton]
  · rfl
  · intro field _ named
    obtain rfl : field = m.schema.key := by simpa [Entries.names] using named
    simp [slot?, pure, Except.pure]

theorem card_eq_row {levels : Nat} {card : Card} (h : a.card s o levels model row = .ok card) :
    ∃ slots, card = .row model row slots := by
  have byRow {nested : Option Maker} (h : a.rowCard s o nested model row = .ok card) :
      ∃ slots, card = .row model row slots := by
    obtain ⟨m, slots, _, is, _⟩ := rowCard_cases h
    exact ⟨slots, is⟩
  cases levels with
  | zero => exact byRow h
  | succ levels => exact byRow h

theorem rows_card {levels : Nat} {card : Card} (h : a.card s o levels model row = .ok card) :
    card.rows = (model, row) :: card.nested := by
  obtain ⟨slots, rfl⟩ := card_eq_row h
  rfl

theorem mem_nested_rowCard {card : Card} (h : a.rowCard s o nested model row = .ok card)
    {entry : String × Row} (mem : entry ∈ card.nested) :
    ∃ maker target other c, nested = some maker ∧ a.Nests s o model row target other ∧
      maker target other = .ok c ∧ entry ∈ c.rows := by
  obtain ⟨m, slots, found, rfl, all, _⟩ := rowCard_cases h
  obtain ⟨slot, among, inside⟩ := Card.mem_slotRows.1 mem
  rcases (all slot).1 among with rfl | ⟨listed, made⟩
  · cases inside
  · obtain ⟨maker, target, other, c, is, behind, one, inside⟩ := behind_of_mem made inside
    exact ⟨maker, target, other, c, is, ⟨m, slot.1, found, listed, behind⟩, one, inside⟩

theorem card_of_nests {maker : Maker} {card : Card}
    (h : a.rowCard s o (some maker) model row = .ok card) {target : String} {other : Row}
    (nests : a.Nests s o model row target other) :
    ∃ c, maker target other = .ok c ∧ ∀ entry ∈ c.rows, entry ∈ card.nested := by
  obtain ⟨m, slots, found, rfl, all, each⟩ := rowCard_cases h
  obtain ⟨m', field, found', listed, behind⟩ := nests
  obtain rfl : m = m' := Except.ok.inj (found.symm.trans found')
  obtain ⟨made, shown⟩ := each field listed
  obtain ⟨card, c, rfl, one, inside⟩ := card_of_behind shown behind
  refine ⟨c, one, fun entry mem => Card.mem_slotRows.2 ⟨(field, card), ?_, inside entry mem⟩⟩
  exact (all (field, card)).2 (.inr ⟨listed, shown⟩)

theorem leads_of_mem_nested {levels : Nat} {card : Card}
    (h : a.card s o levels model row = .ok card) {last : String} {final : Row}
    (mem : (last, final) ∈ card.nested) : a.Leads s o levels model row last final := by
  induction levels generalizing model row card with
  | zero =>
    obtain ⟨_, _, _, _, none, _⟩ := mem_nested_rowCard h mem
    cases none
  | succ levels ih =>
    obtain ⟨_, target, other, c, is, nests, one, inside⟩ := mem_nested_rowCard h mem
    cases is
    rw [rows_card one] at inside
    rcases List.mem_cons.1 inside with here | deeper
    · cases here
      exact .next nests
    · exact .further nests (ih one deeper)

theorem mem_nested_of_leads {levels : Nat} {last : String} {final : Row}
    (leads : a.Leads s o levels model row last final) {card : Card}
    (h : a.card s o levels model row = .ok card) : (last, final) ∈ card.nested := by
  induction leads generalizing card with
  | next nests =>
    obtain ⟨c, one, inside⟩ := card_of_nests h nests
    refine inside _ ?_
    rw [rows_card one]
    exact List.mem_cons_self
  | further nests on ih =>
    obtain ⟨c, one, inside⟩ := card_of_nests h nests
    refine inside _ ?_
    rw [rows_card one]
    exact List.mem_cons_of_mem _ (ih one)

/-- The rows nested in a shown row are those that it leads to. -/
theorem mem_nested_iff {levels : Nat} {card : Card} (h : a.card s o levels model row = .ok card)
    {last : String} {final : Row} :
    (last, final) ∈ card.nested ↔ a.Leads s o levels model row last final :=
  ⟨leads_of_mem_nested h, fun leads => mem_nested_of_leads leads h⟩

end Access

end GuardedQuery
