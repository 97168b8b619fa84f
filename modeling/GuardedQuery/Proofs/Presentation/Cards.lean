import GuardedQuery.Presentation
import GuardedQuery.Proofs.Checks
import GuardedQuery.Proofs.Script.Runs

/-! Shown rows that remember where they come from. A card is a value together with the rows that its
parts stand for; the cards of a row are made from the store as the row is shown, and without what
they remember they are what is shown. -/

namespace GuardedQuery

inductive Card where
  | plain (value : Value)
  /-- A row of a model, shown by its slots. -/
  | row (model : String) (source : Row) (slots : List (String × Card))
  | list (cards : List Card)

namespace Card

mutual

/-- What is shown. -/
def value : Card → Value
  | plain value => value
  | row _ _ slots => .obj (slotValues slots)
  | list cards => .arr (listValues cards)

def slotValues : List (String × Card) → Row
  | [] => []
  | (name, card) :: rest => (name, card.value) :: slotValues rest

def listValues : List Card → List Value
  | [] => []
  | card :: rest => card.value :: listValues rest

end

mutual

/-- The rows that a card stands for, each with its model. -/
def rows : Card → List (String × Row)
  | plain _ => []
  | row model source slots => (model, source) :: slotRows slots
  | list cards => listRows cards

def slotRows : List (String × Card) → List (String × Row)
  | [] => []
  | (_, card) :: rest => card.rows ++ slotRows rest

def listRows : List Card → List (String × Row)
  | [] => []
  | card :: rest => card.rows ++ listRows rest

end

/-- The rows behind the row that a card stands for. -/
def nested : Card → List (String × Row)
  | row _ _ slots => slotRows slots
  | plain _ | list _ => []

theorem slotValues_eq (slots : List (String × Card)) :
    slotValues slots = Entries.mapValues value slots := by
  induction slots with
  | nil => rfl
  | cons slot rest ih => rw [slotValues, ih, Entries.mapValues, Entries.mapValues, List.map_cons]

theorem listValues_eq (cards : List Card) : listValues cards = cards.map value := by
  induction cards with
  | nil => rfl
  | cons card rest ih => rw [listValues, ih, List.map_cons]

theorem value_row (model : String) (source : Row) (slots : List (String × Card)) :
    (row model source slots).value = .obj (Entries.mapValues value slots) := by
  rw [value, slotValues_eq]

theorem value_list (cards : List Card) : (list cards).value = .arr (cards.map value) := by
  rw [value, listValues_eq]

theorem mem_slotRows {slots : List (String × Card)} {entry : String × Row} :
    entry ∈ slotRows slots ↔ ∃ slot ∈ slots, entry ∈ slot.2.rows := by
  induction slots with
  | nil => simp [slotRows]
  | cons slot rest ih => simp [slotRows, ih]

theorem mem_listRows {cards : List Card} {entry : String × Row} :
    entry ∈ listRows cards ↔ ∃ card ∈ cards, entry ∈ card.rows := by
  induction cards with
  | nil => simp [listRows]
  | cons card rest ih => simp [listRows, ih]

end Card

namespace Access

/-- How to make the cards of a model. -/
abbrev Maker := String → Row → Except Error Card

def maker? (o : Outline) (nested : Option Maker) (target : String) :
    Option (Row → Except Error Card) :=
  match o.get? target with
  | some names => if names.isEmpty then none else nested.map fun make => make target
  | none => none

def firstCard (make : Row → Except Error Card) : List Row → Except Error Card
  | [] => return .plain .null
  | row :: _ => make row

def relatedRows (s : Store) (model : String) (row : Row) (field : String) :
    Except Error (List Row) :=
  (s.related model row field).mapError Store.Error.toError

/-- The card of a relation whose rows are shown; of a to-one relation it is the first. -/
def linkCard (kind : FieldKind) (make : Row → Except Error Card) (others : List Row) :
    Except Error Card :=
  match kind with
  | .toOne _ => firstCard make others
  | _ => return .list (← others.mapM make)

/-- The value of a field that is not shown by nested rows. -/
def plainField (a : Access) (s : Store) (model : String) (row : Row) (field : String) :
    FieldKind → Except Error Value
  | .scalar | .json | .toOne _ => return (row.get? field).getD .null
  | .toMany _ => return (row.get? field).getD (.arr [])
  | .reverse target _ => do
    let t ← a.catalog.get target
    let others ← relatedRows s model row field
    return .arr (others.map fun other => (other.get? t.schema.key).getD .null)

/-- The card of one field, or nothing for a name that has none to show. -/
def slot? (a : Access) (s : Store) (o : Outline) (nested : Option Maker) (m : Model)
    (model : String) (row : Row) (field : String) : Except Error (Option Card) := do
  if field = m.schema.key then return none
  match m.computed? field, m.kind? field with
  | some computed, _ => return some (.plain (computed.compute row))
  | none, none => return none
  | none, some kind =>
    match kind.target?.bind (maker? o nested) with
    | some make => return some (← linkCard kind make (← relatedRows s model row field))
    | none => return some (.plain (← a.plainField s model row field kind))

def slots (a : Access) (s : Store) (o : Outline) (nested : Option Maker) (m : Model)
    (model : String) (row : Row) :
    List String → Entries Card → Except Error (Entries Card)
  | [], made => return made
  | field :: rest, made => do
    match ← a.slot? s o nested m model row field with
    | some card => a.slots s o nested m model row rest (made.insert field card)
    | none => a.slots s o nested m model row rest made

def rowCard (a : Access) (s : Store) (o : Outline) (nested : Option Maker) : Maker :=
  fun model row => do
    let m ← a.catalog.get model
    let key := (row.get? m.schema.key).getD .null
    let fields := (o.get? model).getD .empty
    return .row model row
      (← a.slots s o nested m model row fields.toList [(m.schema.key, .plain key)])

/-- The card of a row, with nested rows down to a number of levels. -/
def card (a : Access) (s : Store) (o : Outline) : Nat → Maker
  | 0 => a.rowCard s o none
  | levels + 1 => a.rowCard s o (some (a.card s o levels))

/-! Showing rows is making their cards and forgetting what they remember. -/

variable {a : Access} {s : Store} {o : Outline}

/-- What is shown is the value of the card that is made. -/
def Shows (s : Store) (shower : Shower) (make : Maker) : Prop :=
  ∀ model row, (shower model row).Yields s Card.value (make model row)

theorem yields_showFirst {shower : Row → Script Value} {make : Row → Except Error Card}
    (same : ∀ row, (shower row).Yields s Card.value (make row)) (rows : List Row) :
    (showFirst shower rows).Yields s Card.value (firstCard make rows) := by
  cases rows with
  | nil => exact Script.yields_pure Card.value (.plain .null)
  | cons row rest => exact same row

/-- A relation to many rows is shown by a list, which is the value of its card. -/
theorem yields_many {shower : Row → Script Value} {make : Row → Except Error Card}
    (same : ∀ row, (shower row).Yields s Card.value (make row)) {kind : FieldKind}
    (many : ∀ others, linkCard kind make others = (do return .list (← others.mapM make)))
    (model : String) (row : Row) (field : String) :
    (do return some (Value.arr (← (← Script.related model row field).mapM shower)) :
        Script (Option Value)).Yields s (Option.map Card.value)
      (do return some (← linkCard kind make (← relatedRows s model row field))) := by
  refine Script.yields_bind (Script.yields_related model row field) fun rows _ => ?_
  rw [many, bind_assoc]
  refine Script.yields_bind (Script.yields_mapM fun row _ => same row) fun cards _ => ?_
  rw [← Card.value_list]
  exact Script.yields_pure (Option.map Card.value) (some (Card.list cards))

theorem shower_cases {nested : Option Shower} {makers : Option Maker}
    (same : Option.Rel (Shows s) nested makers) (target : String) :
    shower? o nested target = none ∧ maker? o makers target = none ∨
      ∃ shower make, shower? o nested target = some shower ∧
        maker? o makers target = some make ∧
        ∀ row, (shower row).Yields s Card.value (make row) := by
  rw [shower?, maker?]
  cases o.get? target with
  | none => exact .inl ⟨rfl, rfl⟩
  | some names =>
    simp only
    split
    · exact .inl ⟨rfl, rfl⟩
    · cases same with
      | none => exact .inl ⟨rfl, rfl⟩
      | some shows => exact .inr ⟨_, _, rfl, rfl, shows target⟩

theorem yields_fieldValue {nested : Option Shower} {makers : Option Maker}
    (same : Option.Rel (Shows s) nested makers) (m : Model) (model : String) (row : Row)
    (field : String) :
    (a.fieldValue o nested m model row field).Yields s (Option.map Card.value)
      (a.slot? s o makers m model row field) := by
  have plain (value : Value) : (pure (some value) : Script (Option Value)).Yields s
      (Option.map Card.value) (pure (some (.plain value))) :=
    Script.yields_pure (Option.map Card.value) (some (Card.plain value))
  have nothing : (pure none : Script (Option Value)).Yields s (Option.map Card.value) (pure none) :=
    Script.yields_pure (Option.map Card.value) none
  rw [fieldValue, slot?]
  by_cases key : field = m.schema.key
  · simp only [key, if_true]
    exact nothing
  simp only [key, if_false]
  cases m.computed? field with
  | some computed => exact plain _
  | none =>
    cases m.kind? field with
    | none => exact nothing
    | some kind =>
      cases kind with
      | scalar | json => exact plain _
      | toOne target =>
        simp only [FieldKind.target?, Option.bind_some]
        rcases shower_cases (o := o) same target with ⟨off, off'⟩ | ⟨shower, make, on, on', shows⟩
        · simp only [off, off']
          exact plain _
        · simp only [on, on']
          refine Script.yields_bind (Script.yields_related model row field) fun rows _ => ?_
          refine Script.yields_bind (yields_showFirst shows rows) fun card _ => ?_
          exact Script.yields_pure (Option.map Card.value) (some card)
      | toMany target =>
        simp only [FieldKind.target?, Option.bind_some]
        rcases shower_cases (o := o) same target with ⟨off, off'⟩ | ⟨shower, make, on, on', shows⟩
        · simp only [off, off']
          exact plain _
        · simp only [on, on']
          exact yields_many shows (fun _ => rfl) model row field
      | reverse target via =>
        simp only [FieldKind.target?, Option.bind_some]
        rcases shower_cases (o := o) same target with ⟨off, off'⟩ | ⟨shower, make, on, on', shows⟩
        · simp only [off, off', plainField, bind_assoc, pure_bind]
          refine Script.yields_bind (Script.yields_lift _) fun t _ => ?_
          refine Script.yields_bind (Script.yields_related model row field) fun rows _ => ?_
          exact plain _
        · simp only [on, on']
          exact yields_many shows (fun _ => rfl) model row field

theorem mapValues_insert (f : Card → Value) (name : String) (card : Card) (made : Entries Card) :
    Entries.mapValues f (made.insert name card) = (made.mapValues f).insert name (f card) := by
  induction made with
  | nil => rfl
  | cons entry rest ih =>
    obtain ⟨other, old⟩ := entry
    simp only [Entries.insert, Entries.mapValues, List.map_cons]
    split
    · rfl
    · split
      · rfl
      · exact congrArg (_ :: ·) ih

theorem yields_showFields {nested : Option Shower} {makers : Option Maker}
    (same : Option.Rel (Shows s) nested makers) (m : Model) (model : String) (row : Row)
    (fields : List String) (made : Entries Card) :
    (a.showFields o nested m model row fields (made.mapValues Card.value)).Yields s
      (Entries.mapValues Card.value) (a.slots s o makers m model row fields made) := by
  induction fields generalizing made with
  | nil => exact Script.yields_pure (Entries.mapValues Card.value) made
  | cons field rest ih =>
    rw [showFields, slots]
    refine Script.yields_bind (yields_fieldValue same m model row field) fun card _ => ?_
    cases card with
    | none => exact ih made
    | some card =>
      have := ih (made.insert field card)
      rwa [mapValues_insert] at this

theorem shows_rowCard {nested : Option Shower} {makers : Option Maker}
    (same : Option.Rel (Shows s) nested makers) :
    Shows s (a.showRow o nested) (a.rowCard s o makers) := by
  intro model row
  rw [showRow, rowCard]
  refine Script.yields_bind (Script.yields_lift _) fun m _ => ?_
  refine Script.yields_bind (yields_showFields same m model row _
    [(m.schema.key, .plain ((row.get? m.schema.key).getD .null))]) fun made _ => ?_
  rw [← Card.value_row model row]
  exact Script.yields_pure Card.value (.row model row made)

/-- A row is shown as the value of its card. -/
theorem shows_card (levels : Nat) : Shows s (a.present o levels) (a.card s o levels) := by
  induction levels with
  | zero => exact shows_rowCard .none
  | succ levels ih => exact shows_rowCard (.some ih)

theorem yields_presentAll (levels : Nat) (model : String) (rows : List Row) :
    (a.presentAll o levels model rows).Yields s Card.value
      (do return .list (← rows.mapM (a.card s o levels model))) := by
  refine Script.yields_bind (Script.yields_mapM fun row _ => shows_card levels model row) ?_
  intro cards _
  rw [← Card.value_list]
  exact Script.yields_pure Card.value (.list cards)

/-! Where showing ends -/

variable {levels : Nat} {model : String} {Q : Value → Store → Prop}

theorem ends_present {row : Row}
    (h : ∀ s card, a.card s o levels model row = .ok card → Q card.value s) :
    (a.present o levels model row).Ends Q :=
  Script.ends_of_yields (fun _ => shows_card levels model row) h

theorem ends_presentAll {rows : List Row}
    (h : ∀ s cards, rows.mapM (a.card s o levels model) = .ok cards →
      Q (.arr (cards.map Card.value)) s) :
    (a.presentAll o levels model rows).Ends Q := by
  refine Script.ends_of_yields (fun _ => yields_presentAll levels model rows) fun s card made => ?_
  obtain ⟨cards, made, is⟩ := Checks.bind_ok_iff.1 made
  rw [← Checks.pure_ok_iff.1 is, Card.value_list]
  exact h s cards made

end Access

end GuardedQuery
