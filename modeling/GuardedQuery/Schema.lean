import GuardedQuery.NameSet

/-! The declared shape of a model: its name, its primary key and its fields.
Field names are distinct and the primary key is one of them. -/

namespace GuardedQuery

inductive FieldKind where
  | scalar
  /-- A structured column; paths may lead into it freely. -/
  | json
  /-- Holds the primary key of one row. -/
  | toOne (target : String)
  /-- Holds a list of primary keys. -/
  | toMany (target : String)
  /-- The rows whose field `via` points back. -/
  | reverse (target via : String)
  deriving DecidableEq

namespace FieldKind

def target? : FieldKind → Option String
  | toOne target | toMany target | reverse target _ => some target
  | scalar | json => none

def isReverse : FieldKind → Bool
  | reverse _ _ => true
  | _ => false

end FieldKind

structure Field where
  name : String
  kind : FieldKind
  deriving DecidableEq

structure Schema where
  name : String
  key : String
  fields : List Field
  distinct : (fields.map Field.name).Nodup
  keyed : key ∈ fields.map Field.name

namespace Schema

/-- A model with its primary key only. -/
def ofKey (name key : String) : Schema where
  name
  key
  fields := [⟨key, .scalar⟩]
  distinct := by simp
  keyed := by simp

/-- Adds a field at the end, in place of any of the same name. -/
def withField (s : Schema) (field : Field) : Schema where
  name := s.name
  key := s.key
  fields := s.fields.filter (fun f => f.name != field.name) ++ [field]
  distinct := by
    rw [List.map_append, List.nodup_append]
    refine ⟨?_, by simp, ?_⟩
    · exact (List.filter_sublist.map Field.name).nodup s.distinct
    · intro a ha b hb
      obtain ⟨f, hf, rfl⟩ := List.mem_map.1 ha
      simp only [List.map_cons, List.map_nil, List.mem_singleton] at hb
      simp only [List.mem_filter, bne_iff_ne] at hf
      exact hb ▸ hf.2
  keyed := by
    obtain ⟨f, hf, e⟩ := List.mem_map.1 s.keyed
    by_cases h : f.name = field.name
    · exact List.mem_map.2 ⟨field, by simp, by rw [← e, h]⟩
    · exact List.mem_map.2 ⟨f, by simp [hf, h], e⟩

def field? (s : Schema) (name : String) : Option Field := s.fields.find? (·.name = name)

def kind? (s : Schema) (name : String) : Option FieldKind := (s.field? name).map Field.kind

/-- The columns that rows can hold. -/
def columns (s : Schema) : NameSet :=
  .ofList ((s.fields.filter (!·.kind.isReverse)).map Field.name)

end Schema

end GuardedQuery
