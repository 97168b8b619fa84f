import GuardedQuery.Engine.Basic
import GuardedQuery.Proofs.Presentation.Nesting

/-! What the answers of operations show: rows of the plan's model, as they are in the store when the
operation ends. -/

namespace GuardedQuery

theorem Entries.mem_of_mem_insert {α : Type} {name : String} {value : α} {entries : Entries α}
    {entry : String × α} (h : entry ∈ entries.insert name value) :
    entry = (name, value) ∨ entry ∈ entries := by
  induction entries with
  | nil => simpa [insert] using h
  | cons first rest ih =>
    simp only [insert] at h
    split at h
    · simpa using h
    · split at h
      · simp only [List.mem_cons] at h ⊢
        exact h.imp_right .inr
      · rcases List.mem_cons.1 h with here | deeper
        · exact .inr (here ▸ List.mem_cons_self)
        · exact (ih deeper).imp_right (List.mem_cons_of_mem _)

namespace Response

/-- The flags are truth values and numbers, and rows that are named by their keys alone. -/
def Flagged (keyName : String) (r : Response) : Prop :=
  ∀ entry ∈ r.flags, (∃ b, entry.2 = .bool b) ∨ (∃ n, entry.2 = .int n) ∨
    ∃ keys : List Value, entry.2 = .arr (keys.map fun key => .obj [(keyName, key)])

variable {keyName name : String} {r : Response}

theorem flagged_ofData {data : Value} {kind : ResponseKind} :
    (ofData data kind).Flagged keyName := nofun

theorem Flagged.withBool (h : r.Flagged keyName) {b : Bool} :
    (r.withFlag name (.bool b)).Flagged keyName := by
  intro entry mem
  rcases Entries.mem_of_mem_insert mem with rfl | old
  · exact .inl ⟨b, rfl⟩
  · exact h entry old

theorem Flagged.withInt (h : r.Flagged keyName) {n : Int} :
    (r.withFlag name (.int n)).Flagged keyName := by
  intro entry mem
  rcases Entries.mem_of_mem_insert mem with rfl | old
  · exact .inr (.inl ⟨n, rfl⟩)
  · exact h entry old

theorem Flagged.withKeys (h : r.Flagged keyName) (keys : List Value) :
    (r.withFlag name (.arr (keys.map fun key => .obj [(keyName, key)]))).Flagged keyName := by
  intro entry mem
  rcases Entries.mem_of_mem_insert mem with rfl | old
  · exact .inr (.inr ⟨keys, rfl⟩)
  · exact h entry old

end Response

/-- Rows of a model with their cards. -/
structure Display where
  access : Access
  store : Store
  outline : Outline
  levels : Nat
  model : String
  rows : List Row
  cards : List Card
  made : rows.mapM (access.card store outline levels model) = .ok cards

namespace Display

/-- The value shows the rows as a list, or it shows the only row, or null without any row. -/
def Shows (d : Display) (value : Value) : Prop :=
  value = .arr (d.cards.map Card.value) ∨ (∃ card, d.cards = [card] ∧ value = card.value) ∨
    d.cards = [] ∧ value = .null

/-- The rows that are nested in the rows shown. -/
def nested (d : Display) : List (String × Row) := d.cards.flatMap Card.nested

/-- A display of one row. -/
def single (a : Access) (s : Store) (o : Outline) (levels : Nat) (model : String) (row : Row)
    (card : Card) (made : a.card s o levels model row = .ok card) : Display where
  access := a
  store := s
  outline := o
  levels
  model
  rows := [row]
  cards := [card]
  made := by
    rw [List.mapM_cons, made]
    rfl

def none (a : Access) (s : Store) (model : String) : Display where
  access := a
  store := s
  outline := .empty
  levels := 0
  model
  rows := []
  cards := []
  made := rfl

/-- The rows are of the plan's model and are shown to the depth of the plan, or without any nested
rows. -/
structure Of (d : Display) (p : Plan) (s : Store) : Prop where
  accessed : d.access = p.access
  named : d.model = p.name
  stored : d.store = s
  deep : d.levels = 0 ∨ d.levels = p.depth ∧ d.outline = p.outline

/-- Relations in the outline lead from a row that is shown to the row. -/
def Leads (d : Display) (entry : String × Row) : Prop :=
  ∃ row ∈ d.rows, d.access.Leads d.store d.outline d.levels d.model row entry.1 entry.2

theorem mem_nested_iff (d : Display) (entry : String × Row) :
    entry ∈ d.nested ↔ d.Leads entry := by
  rw [nested, List.mem_flatMap]
  constructor
  · rintro ⟨card, mem, inside⟩
    obtain ⟨row, among, made⟩ := Checks.exists_of_mapM_ok d.made mem
    exact ⟨row, among, (Access.mem_nested_iff made).1 inside⟩
  · rintro ⟨row, among, leads⟩
    obtain ⟨card, mem, made⟩ := Checks.exists_ok_of_mapM_ok d.made among
    exact ⟨card, mem, (Access.mem_nested_iff made).2 leads⟩

end Display

namespace Plan

/-- The value shows rows of the plan's model from the store. -/
def Displays (p : Plan) (value : Value) (s : Store) : Prop :=
  ∃ d : Display, d.Of p s ∧ d.Shows value

/-- The answer shows rows of the plan's model, or it is of a kind that shows no rows. -/
def Answers (p : Plan) (r : Response) (s : Store) : Prop :=
  r.kind = .number ∨ r.kind = .truth ∨ p.Displays r.data s

/-- Whatever a plan shows is as `Q` says: null, one row or several of its model, and the fields that
an update has touched. -/
structure Shows (p : Plan) (Q : Value → Store → Prop) : Prop where
  null : ∀ s, Q .null s
  present : ∀ row, (p.present row).Ends Q
  presentAll : ∀ rows, (p.presentAll rows).Ends Q
  updated : ∀ names rows, (p.access.presentAll (p.updateOutline names) 0 p.name rows).Ends Q

/-- The answer shows what is as `Q` says, or it is of a kind that shows no rows. -/
def Answered (p : Plan) (Q : Value → Store → Prop) (r : Response) (s : Store) : Prop :=
  (r.kind = .number ∨ r.kind = .truth ∨ Q r.data s) ∧ r.Flagged p.keyName

variable (p : Plan)

theorem ends_presentAll {o : Outline} {levels : Nat}
    (deep : levels = 0 ∨ levels = p.depth ∧ o = p.outline) (rows : List Row) :
    (p.access.presentAll o levels p.name rows).Ends p.Displays :=
  Access.ends_presentAll fun s cards made =>
    ⟨⟨p.access, s, o, levels, p.name, rows, cards, made⟩, ⟨rfl, rfl, rfl, deep⟩, .inl rfl⟩

theorem shows_displays : p.Shows p.Displays where
  null s := ⟨.none p.access s p.name, ⟨rfl, rfl, rfl, .inl rfl⟩, .inr (.inr ⟨rfl, rfl⟩)⟩
  present row := Access.ends_present fun s card made =>
    ⟨.single p.access s p.outline p.depth p.name row card made,
      ⟨rfl, rfl, rfl, .inr ⟨rfl, rfl⟩⟩, .inr (.inl ⟨card, rfl, rfl⟩)⟩
  presentAll rows := p.ends_presentAll (.inr ⟨rfl, rfl⟩) rows
  updated _ rows := p.ends_presentAll (.inl rfl) rows

variable {p} {Q : Value → Store → Prop}

theorem ends_showSelected (all : ∀ rows, (p.presentAll rows).Ends Q) (sel : Selection) :
    (p.showSelected sel).Ends Q :=
  Script.ends_bind all

variable (h : p.Shows Q)
include h

/-! Operations that read -/

theorem ends_get : p.get.Ends (p.Answered Q) :=
  Script.ends_bind fun row => Script.ends_bind fun _ =>
    Script.ends_map (h.present row) fun _ _ shown =>
      ⟨.inr (.inr shown), Response.flagged_ofData.withBool⟩

theorem ends_showFirst (sel : Selection) : (p.showFirst sel).Ends Q := by
  refine Script.ends_bind fun windowed => Script.ends_bind fun rows => ?_
  cases rows with
  | nil => exact Script.ends_pure h.null
  | cons row rest => exact Script.ends_bind fun _ => h.present row

theorem ends_first : p.first.Ends (p.Answered Q) :=
  Script.ends_map (ends_showFirst h _) fun _ _ shown =>
    ⟨.inr (.inr shown), Response.flagged_ofData.withBool⟩

theorem ends_last : p.last.Ends (p.Answered Q) :=
  Script.ends_map (ends_showFirst h _) fun _ _ shown =>
    ⟨.inr (.inr shown), Response.flagged_ofData.withBool⟩

omit h in
theorem ends_exist : p.exist.Ends (p.Answered Q) :=
  Script.ends_bind fun _ => Script.ends_pure fun _ =>
    ⟨.inr (.inl rfl), Response.flagged_ofData.withBool⟩

/-! Operations that write -/

theorem ends_create : p.create.Ends fun w => p.Answered Q w.response :=
  Script.ends_bind fun _ => Script.ends_bind fun _ => Script.ends_bind fun row =>
    Script.ends_map (h.present row) fun _ _ shown =>
      ⟨.inr (.inr shown), Response.flagged_ofData.withBool⟩

theorem ends_bulkCreate : p.bulkCreate.Ends fun w => p.Answered Q w.response :=
  Script.ends_bind fun _ => Script.ends_bind fun _ => Script.ends_bind fun created =>
    Script.ends_map (h.presentAll created) fun _ _ shown =>
      ⟨.inr (.inr shown), Response.flagged_ofData.withBool.withInt⟩

theorem ends_update : p.update.Ends fun w => p.Answered Q w.response :=
  Script.ends_bind fun _ => Script.ends_bind fun _ => Script.ends_bind fun _ =>
    Script.ends_bind fun _ => Script.ends_bind fun _ => Script.ends_bind fun _ =>
    Script.ends_bind fun rows =>
      Script.ends_map (h.updated _ rows) fun _ _ shown =>
        ⟨.inr (.inr shown), Response.flagged_ofData.withBool.withInt⟩

omit h in
theorem ends_delete : p.delete.Ends fun w => p.Answered Q w.response :=
  Script.ends_bind fun _ => Script.ends_bind fun _ => Script.ends_bind fun keys =>
    Script.ends_pure fun _ =>
      ⟨.inl rfl, Response.flagged_ofData.withBool.withInt.withKeys keys⟩

theorem ends_updateInstance : p.updateInstance.Ends fun w => p.Answered Q w.response :=
  Script.ends_bind fun _ => Script.ends_bind fun _ => Script.ends_bind fun _ =>
    Script.ends_bind fun updated =>
      Script.ends_map (h.present updated) fun _ _ shown =>
        ⟨.inr (.inr shown), Response.flagged_ofData.withBool⟩

omit h in
theorem ends_deleteInstance : p.deleteInstance.Ends fun w => p.Answered Q w.response :=
  Script.ends_bind fun _ => Script.ends_bind fun _ => Script.ends_bind fun _ =>
    Script.ends_pure fun _ => ⟨.inr (.inl rfl), Response.flagged_ofData.withBool⟩

theorem ends_getOrCreate : p.getOrCreate.Ends fun w => p.Answered Q w.response := by
  refine Script.ends_bind fun found => ?_
  cases found with
  | some row =>
    refine Script.ends_bind fun _ => ?_
    exact Script.ends_map (h.present row) fun _ _ shown =>
      ⟨.inr (.inr shown), Response.flagged_ofData.withBool⟩
  | none =>
    refine Script.ends_bind fun row => ?_
    exact Script.ends_map (h.present row) fun _ _ shown =>
      ⟨.inr (.inr shown), Response.flagged_ofData.withBool⟩

theorem ends_updateOrCreate : p.updateOrCreate.Ends fun w => p.Answered Q w.response := by
  refine Script.ends_bind fun found => ?_
  cases found with
  | some row =>
    refine Script.ends_bind fun _ => Script.ends_bind fun updated => ?_
    exact Script.ends_map (h.present updated) fun _ _ shown =>
      ⟨.inr (.inr shown), Response.flagged_ofData.withBool.withBool⟩
  | none =>
    refine Script.ends_bind fun row => ?_
    exact Script.ends_map (h.present row) fun _ _ shown =>
      ⟨.inr (.inr shown), Response.flagged_ofData.withBool.withBool⟩

theorem ends_writing {e : Engine} {script : Script Written}
    (op : e.handling p = .writing script) : script.Ends fun w => p.Answered Q w.response := by
  rw [Engine.handling] at op
  split at op <;> cases op
  · exact ends_create h
  · exact ends_bulkCreate h
  · exact ends_update h
  · exact ends_delete
  · exact ends_updateInstance h
  · exact ends_deleteInstance
  · exact ends_getOrCreate h
  · exact ends_updateOrCreate h

end Plan

end GuardedQuery
