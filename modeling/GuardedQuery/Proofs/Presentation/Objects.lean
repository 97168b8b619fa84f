import GuardedQuery.Proofs.Engine.Displays

/-! The objects that stand for rows in what is shown. Whatever rows a relation leads to, cyclic or
not, the objects have the keys that the outline lists for their models and are nested no deeper
than there are levels. -/

namespace GuardedQuery

/-- An object that is shown for a row of a model; the level counts the relations that lead to it
from a row at the top. -/
structure RowObject where
  level : Nat
  model : String
  keys : List String

/-- Besides the primary key, the object has only keys that the outline lists for its model. -/
def RowObject.Fits (object : RowObject) (a : Access) (o : Outline) : Prop :=
  ∃ m, a.catalog.get object.model = .ok m ∧
    ∀ key ∈ object.keys, key = m.schema.key ∨ key ∈ (o.get? object.model).getD .empty

namespace Card

mutual

/-- The objects of a card whose rows are at a level. -/
def objects (level : Nat) : Card → List RowObject
  | plain _ => []
  | row model _ slots => ⟨level, model, (slotValues slots).names⟩ :: slotObjects (level + 1) slots
  | list cards => listObjects level cards

def slotObjects (level : Nat) : List (String × Card) → List RowObject
  | [] => []
  | (_, card) :: rest => card.objects level ++ slotObjects level rest

def listObjects (level : Nat) : List Card → List RowObject
  | [] => []
  | card :: rest => card.objects level ++ listObjects level rest

end

variable {level : Nat} {object : RowObject}

theorem mem_slotObjects {slots : List (String × Card)} :
    object ∈ slotObjects level slots ↔ ∃ slot ∈ slots, object ∈ slot.2.objects level := by
  induction slots with
  | nil => simp [slotObjects]
  | cons slot rest ih => simp [slotObjects, ih]

theorem mem_listObjects {cards : List Card} :
    object ∈ listObjects level cards ↔ ∃ card ∈ cards, object ∈ card.objects level := by
  induction cards with
  | nil => simp [listObjects]
  | cons card rest ih => simp [listObjects, ih]

theorem mem_slotValues_names {slots : List (String × Card)} {key : String} :
    key ∈ (slotValues slots).names ↔ ∃ card, (key, card) ∈ slots := by
  simp [slotValues_eq, Entries.mapValues, Entries.names]

end Card

namespace Access
variable {a : Access} {s : Store} {o : Outline} {nested : Option Maker} {m : Model}
  {model : String} {row : Row} {card : Card} {level : Nat} {object : RowObject}

theorem exists_of_mem_linkCard {kind : FieldKind} {make : Row → Except Error Card}
    {others : List Row} (h : linkCard kind make others = .ok card)
    (mem : object ∈ card.objects level) :
    ∃ other c, make other = .ok c ∧ object ∈ c.objects level := by
  rcases linkCard_cases h with ⟨_, rfl⟩ | ⟨other, _, one⟩ | ⟨cards, _, made, rfl⟩
  · cases mem
  · exact ⟨other, card, one, mem⟩
  · obtain ⟨c, among, inside⟩ := Card.mem_listObjects.1 mem
    obtain ⟨other, _, one⟩ := Checks.exists_of_mapM_ok made among
    exact ⟨other, c, one, inside⟩

/-- The objects in a slot are those of cards that were made one level further down. -/
theorem exists_of_mem_slot {field : String}
    (h : a.slot? s o nested m model row field = .ok (some card))
    (mem : object ∈ card.objects level) :
    ∃ maker target other c, nested = some maker ∧ maker target other = .ok c ∧
      object ∈ c.objects level := by
  cases slot_cases h with
  | plain => cases mem
  | @link _ target _ _ _ _ _ _ _ shows _ linked =>
    obtain ⟨_, maker, rfl, rfl⟩ := maker?_eq_some_iff.1 shows
    obtain ⟨other, c, one, inside⟩ := exists_of_mem_linkCard linked mem
    exact ⟨maker, target, other, c, rfl, one, inside⟩

/-- One step: the object of the row itself fits, and all others are nested in it. -/
theorem mem_objects_rowCard (h : a.rowCard s o nested model row = .ok card)
    (mem : object ∈ card.objects level) :
    (object.level = level ∧ object.Fits a o) ∨
      ∃ maker target other c, nested = some maker ∧ maker target other = .ok c ∧
        object ∈ c.objects (level + 1) := by
  obtain ⟨m, slots, found, rfl, all, _⟩ := rowCard_cases h
  rcases List.mem_cons.1 mem with rfl | deeper
  · refine .inl ⟨rfl, m, found, fun key named => ?_⟩
    obtain ⟨c, slot⟩ := Card.mem_slotValues_names.1 named
    rcases (all (key, c)).1 slot with same | ⟨listed, _⟩
    · exact .inl (congrArg Prod.fst same)
    · exact .inr listed
  · right
    obtain ⟨slot, among, inside⟩ := Card.mem_slotObjects.1 deeper
    rcases (all slot).1 among with rfl | ⟨_, made⟩
    · cases inside
    · exact exists_of_mem_slot made inside

/-- By induction on the levels that remain, whatever rows are shown. -/
theorem fits_of_mem_objects {levels : Nat} (h : a.card s o levels model row = .ok card)
    (mem : object ∈ card.objects level) :
    object.level ≤ level + levels ∧ object.Fits a o := by
  induction levels generalizing model row card level with
  | zero =>
    rcases mem_objects_rowCard h mem with ⟨here, fits⟩ | ⟨_, _, _, _, none, _⟩
    · exact ⟨Nat.le_of_eq here, fits⟩
    · cases none
  | succ levels ih =>
    rcases mem_objects_rowCard h mem with ⟨here, fits⟩ | ⟨maker, _, _, c, is, one, inside⟩
    · exact ⟨by omega, fits⟩
    · cases is
      obtain ⟨deep, fits⟩ := ih one inside
      exact ⟨by omega, fits⟩

/-- Showing a row comes to its card or to the error that making it comes to, whatever rows the
store relates to each other, and changes nothing. -/
theorem run_present (a : Access) (o : Outline) (levels : Nat) (model : String) (row : Row)
    (s : Store) :
    (a.present o levels model row).run s = ((a.card s o levels model row).map Card.value, s) :=
  shows_card levels model row

end Access

namespace Display

/-- The objects that are shown, those of the rows themselves at level 0. -/
def objects (d : Display) : List RowObject := d.cards.flatMap (Card.objects 0)

theorem fits_of_mem_objects {d : Display} {object : RowObject} (mem : object ∈ d.objects) :
    object.level ≤ d.levels ∧ object.Fits d.access d.outline := by
  obtain ⟨card, among, inside⟩ := List.mem_flatMap.1 mem
  obtain ⟨row, _, made⟩ := Checks.exists_of_mapM_ok d.made among
  obtain ⟨deep, fits⟩ := Access.fits_of_mem_objects made inside
  exact ⟨by omega, fits⟩

/-- Each item of a list that is shown is the value of an object at the top. -/
theorem exists_object {d : Display} {items : List Value} (shows : d.Shows (.arr items))
    {shown : Row} (mem : Value.obj shown ∈ items) :
    ∃ object ∈ d.objects, object.level = 0 ∧ object.keys = shown.names := by
  rcases shows with all | ⟨card, only, is⟩ | ⟨_, null⟩
  · cases all
    obtain ⟨card, among, value⟩ := List.mem_map.1 mem
    obtain ⟨row, _, made⟩ := Checks.exists_of_mapM_ok d.made among
    obtain ⟨slots, rfl⟩ := Access.card_eq_row made
    cases value
    exact ⟨⟨0, d.model, (Card.slotValues slots).names⟩,
      List.mem_flatMap.2 ⟨_, among, List.mem_cons_self⟩, rfl, rfl⟩
  · have among : card ∈ d.cards := by rw [only]; exact List.mem_singleton_self card
    obtain ⟨row, _, made⟩ := Checks.exists_of_mapM_ok d.made among
    obtain ⟨slots, rfl⟩ := Access.card_eq_row made
    cases is
  · cases null

end Display

end GuardedQuery
