import GuardedQuery.Entries

/-! Dictionaries with text keys: entry lists that carry the proof that they are sorted.
Two dictionaries that answer every key alike are equal (`Dict.ext_get?`). -/

namespace GuardedQuery

structure Dict (α : Type) where
  entries : Entries α
  sorted : entries.Sorted

namespace Dict
variable {α β : Type}

def empty : Dict α := ⟨[], Entries.sorted_nil⟩

instance : Inhabited (Dict α) := ⟨empty⟩

def get? (d : Dict α) (key : String) : Option α := d.entries.get? key

def contains (d : Dict α) (key : String) : Bool := (d.get? key).isSome

def insert (d : Dict α) (key : String) (value : α) : Dict α :=
  ⟨d.entries.insert key value, d.sorted.insert key value⟩

def erase (d : Dict α) (key : String) : Dict α :=
  ⟨d.entries.erase key, d.sorted.erase key⟩

def ofList (pairs : List (String × α)) : Dict α :=
  ⟨Entries.ofList pairs, Entries.sorted_ofList pairs⟩

def mapValues (f : α → β) (d : Dict α) : Dict β :=
  ⟨d.entries.mapValues f, d.sorted.mapValues f⟩

def names (d : Dict α) : List String := d.entries.names

def values (d : Dict α) : List α := d.entries.map Prod.snd

def size (d : Dict α) : Nat := d.entries.length

@[simp] theorem get?_empty (key : String) : (empty : Dict α).get? key = none := rfl

@[simp] theorem get?_insert_self (d : Dict α) (key : String) (value : α) :
    (d.insert key value).get? key = some value :=
  Entries.get?_insert_self key value d.entries

theorem get?_insert_of_ne (d : Dict α) {key other : String} (h : key ≠ other) (value : α) :
    (d.insert key value).get? other = d.get? other :=
  Entries.get?_insert_of_ne h value d.entries

@[simp] theorem get?_erase_self (d : Dict α) (key : String) : (d.erase key).get? key = none :=
  Entries.get?_erase_self key d.entries

theorem get?_erase_of_ne (d : Dict α) {key other : String} (h : key ≠ other) :
    (d.erase key).get? other = d.get? other :=
  Entries.get?_erase_of_ne h d.entries

theorem ext_get? {a b : Dict α} (h : ∀ key, a.get? key = b.get? key) : a = b := by
  obtain ⟨xs, sx⟩ := a
  obtain ⟨ys, sy⟩ := b
  have : xs = ys := Entries.Sorted.eq_of_get? sx sy h
  subst this
  rfl

end Dict

end GuardedQuery
