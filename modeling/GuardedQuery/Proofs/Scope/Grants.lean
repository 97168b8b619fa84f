import GuardedQuery.Proofs.Plan

/-! The fields that guards grant together. Guards are asked in turn until one grants all fields.
What comes of it is the union of what each of them grants, so their order does not matter, and no
guard takes away what others grant. -/

namespace GuardedQuery

/-- The guard allows the action that the use needs, and grants the field, be it with all others. -/
def Guard.Grants (g : Guard) (request : Request) (use : FieldUse) (shown : NameSet)
    (name : String) : Prop :=
  use.action ∈ g.actions request ∧
    match g.fields request use with
    | .all => name ∈ shown
    | .only names => name ∈ names ∧ name ∈ shown

theorem Guard.Grants.mem_shown {g : Guard} {request : Request} {use : FieldUse} {shown : NameSet}
    {name : String} (granted : g.Grants request use shown name) : name ∈ shown := by
  obtain ⟨-, granted⟩ := granted
  split at granted
  · exact granted
  · exact granted.2

namespace Model
variable {m : Model} {request : Request} {use : FieldUse} {guards : List Guard} {name : String}

/-- Asks guards in turn. One that grants all fields decides, whatever the others say. -/
def grantedInTurn (m : Model) (request : Request) (use : FieldUse) :
    List Guard → NameSet → NameSet
  | [], names => names
  | g :: rest, names =>
    if use.action ∈ g.actions request then
      match g.fields request use with
      | .all => m.allFields
      | .only granted =>
        m.grantedInTurn request use rest (names.union (granted.inter m.allFields))
    else m.grantedInTurn request use rest names

theorem mem_granted_iff {g : Guard} :
    name ∈ m.granted request use g ↔ g.Grants request use m.allFields name := by
  rw [granted, Guard.Grants]
  split
  · rename_i allowed
    rw [and_iff_right allowed]
    cases g.fields request use with
    | all => rfl
    | only names => exact NameSet.mem_inter
  · rename_i refused
    simp [refused]

theorem mem_foldl_granted_iff {names : NameSet} :
    name ∈ guards.foldl (fun names g => names.union (m.granted request use g)) names ↔
      name ∈ names ∨ ∃ g ∈ guards, g.Grants request use m.allFields name := by
  induction guards generalizing names with
  | nil => simp
  | cons g rest ih =>
    rw [List.foldl_cons, ih, NameSet.mem_union, mem_granted_iff, List.exists_mem_cons_iff, or_assoc]

theorem mem_fields_iff :
    name ∈ m.fields request use ↔ ∃ g ∈ m.guards, g.Grants request use m.allFields name :=
  mem_foldl_granted_iff.trans (or_iff_right (NameSet.not_mem_empty name))

/-- What guards grant in turn lies within the fields of the model, so nothing can be missing from
them when one grants all. -/
theorem mem_grantedInTurn_iff {names : NameSet} (within : ∀ name ∈ names, name ∈ m.allFields) :
    name ∈ m.grantedInTurn request use guards names ↔
      name ∈ names ∨ ∃ g ∈ guards, g.Grants request use m.allFields name := by
  induction guards generalizing names with
  | nil => simp [grantedInTurn]
  | cons g rest ih =>
    rw [grantedInTurn, List.exists_mem_cons_iff]
    split
    · rename_i allowed
      split
      · rename_i whole
        have here : g.Grants request use m.allFields name ↔ name ∈ m.allFields := by
          rw [Guard.Grants, whole, and_iff_right allowed]
        rw [here]
        constructor
        · exact fun mem => .inr (.inl mem)
        · rintro (mem | mem | ⟨other, -, granted⟩)
          · exact within name mem
          · exact mem
          · exact granted.mem_shown
      · rename_i granted some
        have here : g.Grants request use m.allFields name ↔ name ∈ granted.inter m.allFields := by
          rw [Guard.Grants, some, and_iff_right allowed, NameSet.mem_inter]
        rw [ih, here, NameSet.mem_union, or_assoc]
        intro other mem
        rcases NameSet.mem_union.1 mem with mem | mem
        · exact within other mem
        · exact (NameSet.mem_inter.1 mem).2
    · rename_i refused
      rw [ih within]
      simp [Guard.Grants, refused]

theorem grantedInTurn_eq_fields :
    m.grantedInTurn request use m.guards .empty = m.fields request use :=
  NameSet.ext_mem fun name => by
    rw [mem_grantedInTurn_iff (fun name mem => absurd mem (NameSet.not_mem_empty name)),
      mem_fields_iff, or_iff_right (NameSet.not_mem_empty name)]

end Model

/-- The permitted fields of a model are the union of what its guards grant, each within the fields
of the model, and only those guards count that allow the action. With other guards for the model,
the same fields are permitted if these are the same in another order or number, and none is lost
where a guard is put in between, be it any; if that one does not allow the action, none is gained
either. -/
theorem Access.fields_are_gated_union {a : Access} {model : String} {m : Model}
    (known : a.catalog.model? model = some m) (use : FieldUse) :
    ∃ fields, a.fields model use = .ok fields ∧
      m.grantedInTurn a.request use m.guards .empty = fields ∧
      (∀ name, name ∈ fields ↔ ∃ g ∈ m.guards, g.Grants a.request use m.allFields name) ∧
      (∀ name ∈ fields, name ∈ m.allFields) ∧
      ∀ (a' : Access) (guards : List Guard), a'.request = a.request →
        a'.catalog.model? model = some { m with guards } →
        ∃ fields', a'.fields model use = .ok fields' ∧
          ((∀ g, g ∈ guards ↔ g ∈ m.guards) → fields' = fields) ∧
          ∀ before g after, m.guards = before ++ after → guards = before ++ g :: after →
            (∀ name ∈ fields, name ∈ fields') ∧
            (use.action ∉ g.actions a.request → fields' = fields) := by
  refine ⟨m.fields a.request use, by rw [fields, Catalog.get_ok_iff.2 known]; rfl,
    Model.grantedInTurn_eq_fields, fun name => Model.mem_fields_iff, fun name mem => ?_,
    fun a' guards asked known' => ?_⟩
  · obtain ⟨g, -, granted⟩ := Model.mem_fields_iff.1 mem
    exact granted.mem_shown
  · have own (name : String) : name ∈ { m with guards }.fields a'.request use ↔
        ∃ g ∈ guards, g.Grants a.request use m.allFields name := by
      rw [Model.mem_fields_iff, asked]
      rfl
    refine ⟨_, by rw [fields, Catalog.get_ok_iff.2 known']; rfl, fun same => ?_, ?_⟩
    · refine NameSet.ext_mem fun name => ?_
      rw [own, Model.mem_fields_iff]
      simp only [same]
    · rintro before g after listed rfl
      have placed (name : String) :
          name ∈ { m with guards := before ++ g :: after }.fields a'.request use ↔
            g.Grants a.request use m.allFields name ∨ name ∈ m.fields a.request use := by
        rw [own, Model.mem_fields_iff, listed]
        simp only [List.perm_middle.mem_iff, List.exists_mem_cons_iff]
      refine ⟨fun name mem => (placed name).2 (.inr mem),
        fun refused => NameSet.ext_mem fun name => ?_⟩
      rw [placed, or_iff_right fun granted => refused granted.1]

/-! Notes, whose secrets only trusted callers may read -/

namespace Notes

def schema : Schema :=
  ((Schema.ofKey "note" "id").withField ⟨"secret", .scalar⟩).withField ⟨"text", .scalar⟩

def note : Model :=
  { Model.ofSchema schema with guards := [.reading ["id", "phantom", "text"], .staff] }

/-- Whoever may create notes may use all their fields to do so. -/
def creating : Guard where
  actions _ := [.create]
  fields _ _ := .all
  admitted _ := .all
  hidden _ := .nothing
  rowActions _ _ := []
  allowsBulk := Guard.eachRow fun _ _ => []

def access : Access := ⟨⟨.ofList [("note", note)]⟩, .anonymous, .default⟩

def guards : List Guard := [.reading ["id", "phantom", "text"], creating, .staff]

def further : Access := ⟨⟨.ofList [("note", { note with guards })]⟩, .anonymous, .default⟩

theorem creators_read_no_more :
    access.catalog.model? "note" = some note ∧ further.request = access.request ∧
    further.catalog.model? "note" = some { note with guards } ∧
    FieldUse.read.action ∉ creating.actions access.request ∧
    ∃ fields, access.fields "note" .read = .ok fields ∧
      further.fields "note" .read = .ok fields ∧ "text" ∈ fields ∧ "phantom" ∉ fields := by
  have known : access.catalog.model? "note" = some note := rfl
  have known' : further.catalog.model? "note" = some { note with guards } := rfl
  have refused : FieldUse.read.action ∉ creating.actions access.request := by decide
  obtain ⟨fields, made, -, granted, within, others⟩ :=
    Access.fields_are_gated_union known .read
  obtain ⟨fields', made', -, placed⟩ := others further guards rfl known'
  obtain ⟨-, same⟩ := placed [.reading ["id", "phantom", "text"]] creating [.staff] rfl rfl
  refine ⟨known, rfl, known', refused, fields, made, same refused ▸ made', ?_, fun mem => ?_⟩
  · exact (granted "text").2 ⟨.reading ["id", "phantom", "text"], List.mem_cons_self, by decide,
      by decide, by decide⟩
  · exact absurd (within "phantom" mem) (by decide)

end Notes

end GuardedQuery
