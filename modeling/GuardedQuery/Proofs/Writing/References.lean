import GuardedQuery.Proofs.Formula.Columns
import GuardedQuery.Proofs.Formula.Grammar
import GuardedQuery.Proofs.Scope.Grants
import GuardedQuery.Proofs.Writing.Conformance

/-! Which fields the formulas of an update refer to. They are looked up among the fields that the
caller may read. These can be computed fields and listed reverse relations, which no stored row
holds: a formula that refers to one of them is accepted and yields null on every row. -/

namespace GuardedQuery

namespace Model
variable {m : Model} {name : String}

/-- A field that the model shows and no stored row holds: it is computed, or it is a reverse
relation that is listed. -/
def Derives (m : Model) (name : String) : Prop :=
  (∃ field ∈ m.computed, field.name = name) ∨
    ∃ field ∈ m.schema.fields, field.name = name ∧ field.kind.isReverse = true ∧
      m.exposure.lists name = true

theorem column_or_derives (shown : name ∈ m.allFields) :
    name ∈ m.schema.columns ∨ m.Derives name := by
  rcases List.mem_append.1 (NameSet.mem_ofList.1 shown) with declared | computed
  · obtain ⟨field, among, rfl⟩ := List.mem_map.1 declared
    obtain ⟨mem, visible⟩ := List.mem_filter.1 among
    have traversable := (Bool.and_eq_true_iff.1 visible).1
    rw [isTraversable] at traversable
    cases reverse : field.kind.isReverse with
    | false =>
      left
      have held : field ∈ m.schema.fields.filter (!·.kind.isReverse) :=
        List.mem_filter.2 ⟨mem, by rw [reverse]; rfl⟩
      exact NameSet.mem_ofList.2 (List.mem_map_of_mem held)
    | true =>
      rw [reverse] at traversable
      exact .inr (.inr ⟨field, mem, rfl, reverse, traversable⟩)
  · exact .inr (.inl (List.mem_map.1 computed))

end Model

namespace Access
variable {a : Access} {m : Model} {model : String} {data : Row} {formula : Formula} {name : String}

/-- The data is accepted for an update and sets one of its fields to the formula. -/
def Computes (a : Access) (model : String) (data : Row) (formula : Formula) : Prop :=
  ∃ changes column, a.changes model data = .ok changes ∧ (column, .compute formula) ∈ changes

theorem checkReference_ok_iff {readable : NameSet} {field : String} :
    checkReference m model readable field name = .ok () ↔
      name ∈ m.allFields ∧ name ∈ readable := by
  rw [checkReference]
  by_cases shown : name ∈ m.allFields <;> by_cases allowed : name ∈ readable <;>
    simp [shown, allowed, NameSet.contains, bind, Except.bind, pure, Except.pure, throw, throwThe,
      MonadExceptOf.throw]

theorem change_compute_iff {readable : NameSet} {field : String} {value : Value} :
    change m model readable field value = .ok (.compute formula) ↔
      Formula.isWrapped value = true ∧ Formula.unwrap field value = .ok formula ∧
        ∀ name ∈ formula.references, name ∈ m.allFields ∧ name ∈ readable := by
  rw [change]
  split
  · rename_i wrapped
    rw [Checks.bind_ok_iff]
    constructor
    · rintro ⟨read, unwrapped, done⟩
      obtain ⟨⟨⟩, checked, done⟩ := Checks.bind_ok_iff.1 done
      cases Checks.pure_ok_iff.1 done
      exact ⟨wrapped, unwrapped, fun name mem =>
        checkReference_ok_iff.1 (Checks.forM_ok_iff.1 checked name mem)⟩
    · rintro ⟨-, unwrapped, each⟩
      refine ⟨formula, unwrapped, Checks.bind_ok_iff.2 ⟨(), ?_, rfl⟩⟩
      exact Checks.forM_ok_iff.2 fun name mem => checkReference_ok_iff.2 (each name mem)
  · rename_i plain
    constructor
    · intro done
      cases Checks.pure_ok_iff.1 done
    · rintro ⟨wrapped, -⟩
      exact absurd wrapped plain

theorem Computes.checked (found : a.catalog.get model = .ok m)
    (computes : a.Computes model data formula) : ∃ field value,
      Formula.unwrap field value = .ok formula ∧
        ∀ name ∈ formula.references, name ∈ m.allFields ∧ name ∈ m.fields a.request .read := by
  obtain ⟨changes, column, done, mem⟩ := computes
  obtain ⟨m', known, done⟩ := Checks.bind_ok_iff.1 done
  obtain rfl := Except.ok.inj (found.symm.trans known)
  obtain ⟨⟨field, value⟩, _, made⟩ := Checks.exists_of_mapM_ok done mem
  obtain ⟨change, kept, made⟩ := Checks.bind_ok_iff.1 made
  cases Checks.pure_ok_iff.1 made
  exact ⟨_, _, (change_compute_iff.1 kept).2⟩

/-- Every readable field that a symbol can stand for is accepted. -/
theorem computes_field (found : a.catalog.get model = .ok m)
    (readable : name ∈ m.fields a.request .read) (named : Formula.IsName name) (column : String) :
    a.Computes model [(column, Formula.wrapped name)] (.field name) := by
  obtain ⟨g, _, granted⟩ := Model.mem_fields_iff.1 readable
  have kept : change m model (m.fields a.request .read) column (Formula.wrapped name) =
      .ok (.compute (.field name)) := by
    refine change_compute_iff.2 ⟨rfl, Formula.unwrap_wrapped _ named, fun other mem => ?_⟩
    obtain rfl := List.mem_singleton.1 (NameSet.mem_ofList.1 mem)
    exact ⟨granted.mem_shown, readable⟩
  refine ⟨[(column, .compute (.field name))], column, ?_, List.mem_singleton_self _⟩
  simp [changes, found, kept, bind, Except.bind, pure, Except.pure]

/-- The formulas of an accepted update refer to readable fields only. These are columns, unless
they are computed or listed reverse relations; a formula that refers to one of those yields nothing
but null on stored rows. Exactly where every readable field is a column, no accepted formula refers
to anything else, up to names that no symbol can spell. -/
theorem formulas_refer_to_readable_fields (found : a.catalog.get model = .ok m) :
    (∀ data formula, a.Computes model data formula → ∀ name ∈ formula.references,
      name ∈ m.fields a.request .read ∧ (name ∈ m.schema.columns ∨ m.Derives name) ∧
      (name ∉ m.schema.columns → ∀ row v, m.schema.Admits row → formula.evaluate row = .ok v →
        v = .null)) ∧
    ((∀ data formula, a.Computes model data formula →
        ∀ name ∈ formula.references, name ∈ m.schema.columns) ↔
      ∀ name ∈ m.fields a.request .read, Formula.IsName name → name ∈ m.schema.columns) := by
  refine ⟨fun data formula computes name mem => ?_, fun columns name readable named => ?_,
    fun columns data formula computes name mem => ?_⟩
  · obtain ⟨field, value, _, each⟩ := computes.checked found
    obtain ⟨shown, readable⟩ := each name mem
    refine ⟨readable, Model.column_or_derives shown, fun virtual row v admits done => ?_⟩
    have absent : row.get? name = none := by
      cases held : row.get? name with
      | none => rfl
      | some value =>
        have among : name ∈ row.names := List.mem_map_of_mem (Entries.mem_of_get? held)
        exact absurd (admits.columns name among) virtual
    obtain ⟨result, evaluated, rfl⟩ := Checks.map_ok_iff.1 done
    rw [Formula.eval_of_blank (Formula.column_eq_none_iff.2 (.inl absent))
      (NameSet.mem_ofList.1 mem) evaluated]
    rfl
  · exact columns _ _ (computes_field found readable named m.schema.key) name
      (NameSet.mem_ofList.2 (List.mem_singleton_self name))
  · obtain ⟨field, value, unwrapped, each⟩ := computes.checked found
    exact columns name (each name mem).2
      (Formula.isName_of_unwrap unwrapped name (NameSet.mem_ofList.1 mem))

end Access

/-! Items, which show a computed medal and the posts about them -/

namespace Medals

def postSchema : Schema := (Schema.ofKey "post" "id").withField ⟨"item", .toOne "item"⟩

def post : Model := { Model.ofSchema postSchema with guards := [.allowAll] }

def stored : Schema := (Schema.ofKey "item" "id").withField ⟨"n", .scalar⟩

def item : Model :=
  { Model.ofSchema (stored.withField ⟨"posts", .reverse "post" "item"⟩) with
    exposure := .only (.ofList ["n", "posts"])
    computed := [⟨"medal", fun _ => .int 7⟩]
    guards := [.allowAll] }

def engine : Engine :=
  ⟨⟨.ofList [("item", item), ("post", post)]⟩, .default, none, fun _ => .ok ()⟩

def access : Access := ⟨engine.catalog, .anonymous, .default⟩

def items : Store :=
  ((Store.ofCatalog engine.catalog).answer
    (.insertMany "item" [[("n", .int 5)], [("n", .int 8)]])).2

/-- Asks for the medal of each row in place of its number. -/
def data : Row := [("n", Formula.wrapped "medal")]

def award : Query := { Query.plain .update with data := some (.obj data) }

def awarded : Store :=
  (engine.execute "item" award .anonymous ⟨items, .ofSettings .default⟩).2.store

/-- A medal is no column, yet an update that refers to it is accepted, as is one that refers to the
posts. The numbers of all items are lost. -/
theorem award_empties_numbers :
    access.Computes "item" data (.field "medal") ∧
    "medal" ∈ (Formula.field "medal").references ∧ "medal" ∉ item.schema.columns ∧
    access.Computes "item" [("n", Formula.wrapped "posts")] (.field "posts") ∧
    "posts" ∈ (Formula.field "posts").references ∧ "posts" ∉ item.schema.columns ∧
    (engine.execute "item" award .anonymous ⟨items, .ofSettings .default⟩).1.answer.isOk = true ∧
    (items.table "item").values.map (·.get? "n") = [some (.int 5), some (.int 8)] ∧
    ((awarded.table "item").values.map fun row => (row.get? "n").map Value.isNull) =
      [some true, some true] :=
  ⟨Access.computes_field rfl (by decide) (by decide) "n", by decide, by decide,
    Access.computes_field rfl (by decide) (by decide) "n", by decide, by decide,
    by decide +kernel, rfl, by decide +kernel⟩

/-- Items that show nothing but what is stored. -/
def plainItem : Model := { Model.ofSchema stored with guards := [.allowAll] }

def plain : Access := { access with catalog := ⟨.ofList [("item", plainItem)]⟩ }

theorem plain_items_offer_columns :
    plain.Computes "item" [("n", Formula.wrapped "id")] (.field "id") ∧
    ∀ data formula, plain.Computes "item" data formula →
      ∀ name ∈ formula.references, name ∈ plainItem.schema.columns := by
  have found : plain.catalog.get "item" = .ok plainItem := rfl
  have columns := (Access.formulas_refer_to_readable_fields found).2
  refine ⟨Access.computes_field found (by decide) (by decide) "n", columns.2 ?_⟩
  decide

end Medals

end GuardedQuery
