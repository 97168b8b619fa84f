import GuardedQuery.Predicate

/-! Selections: the rows of one model that satisfy a predicate, in an order, through a window.
A selection also names the relations to load along with its rows. -/

namespace GuardedQuery

/-- The name under which the primary key of every model is known. -/
def keyAlias : String := "pk"

structure OrderTerm where
  path : String
  descending : Bool
  deriving DecidableEq

namespace OrderTerm

/-- A leading minus sign asks for descending order. -/
def read (text : String) : OrderTerm :=
  match text.toList with
  | '-' :: path => ⟨String.ofList path, true⟩
  | _ => ⟨text, false⟩

def text (term : OrderTerm) : String :=
  term.path ++ (if term.descending then " DESC" else " ASC")

def flip (term : OrderTerm) : OrderTerm := { term with descending := !term.descending }

@[simp] theorem flip_flip (term : OrderTerm) : term.flip.flip = term := by
  simp [flip]

end OrderTerm

structure Selection where
  model : String
  predicate : Predicate
  order : List OrderTerm
  offset : Nat
  limit : Option Nat
  joined : List String
  preloaded : List String

/-- The text of a selection and the values bound to its parameters. -/
structure Selection.Rendered where
  text : String
  params : List Value

namespace Selection

/-- All rows of a model. -/
def ofModel (model : String) : Selection := ⟨model, .all, [], 0, none, [], []⟩

def narrow (s : Selection) (p : Predicate) : Selection :=
  { s with predicate := .allOf [s.predicate, p] }

def without (s : Selection) (p : Predicate) : Selection := s.narrow p.negate

def withKeys (s : Selection) (keys : List Value) : Selection :=
  if keys.isEmpty then s.narrow .nothing
  else s.narrow (.cond (.plain keyAlias .oneOf (.arr keys)))

def orderedBy (s : Selection) (terms : List OrderTerm) : Selection := { s with order := terms }

def offsetLimit : Nat := 0x10000000000000000

/-- The limit of a window of `inner` rows that starts `skipped` rows into one of `outer`. -/
def innerLimit (skipped : Nat) (outer inner : Option Nat) : Option Nat :=
  match outer, inner with
  | some outer, some inner => some (min (outer - skipped) inner)
  | some outer, none => some (outer - skipped)
  | none, inner => inner

/-- A window within the present one. Starts beyond the range of a word overflow. -/
def window (s : Selection) (offset : Nat) (limit : Option Nat) : Except Error Selection :=
  if s.offset + offset < offsetLimit then
    .ok { s with offset := s.offset + offset, limit := innerLimit offset s.limit limit }
  else .error .overflow

/-- The same rows without order and window. -/
def whole (s : Selection) : Selection := { s with order := [], offset := 0, limit := none }

/-- Reverses every term; without terms the order is by descending primary key. -/
def reversed (s : Selection) : Selection :=
  { s with order := if s.order.isEmpty then [⟨keyAlias, true⟩] else s.order.map .flip }

def joining (s : Selection) (fields : List String) : Selection := { s with joined := fields }

def preloading (s : Selection) (fields : List String) : Selection :=
  { s with preloaded := fields }

/-- Whether the selection can never hold a row. -/
def isVoid (s : Selection) : Bool := s.predicate.isNothing || s.limit == some 0

def text (s : Selection) : String :=
  "SELECT " ++ s.model ++ " WHERE " ++ s.predicate.text ++
    (if s.order.isEmpty then "" else " ORDER BY " ++ ", ".intercalate (s.order.map (·.text))) ++
    (match s.limit with
      | some n => " LIMIT " ++ toString n
      | none => "") ++
    (if s.offset = 0 then "" else " OFFSET " ++ toString s.offset) ++
    (if s.joined.isEmpty then "" else " JOIN " ++ ",".intercalate s.joined) ++
    (if s.preloaded.isEmpty then "" else " PREFETCH " ++ ",".intercalate s.preloaded)

def render (s : Selection) : Rendered := ⟨s.text, s.predicate.params⟩

/-- The bound values as one text. -/
def Rendered.paramsText (r : Rendered) : String := (Value.arr r.params).text

@[simp] theorem narrow_model (s : Selection) (p : Predicate) : (s.narrow p).model = s.model := rfl

@[simp] theorem whole_model (s : Selection) : s.whole.model = s.model := rfl

@[simp] theorem whole_predicate (s : Selection) : s.whole.predicate = s.predicate := rfl

end Selection

end GuardedQuery
