/-! Lists of named entries, kept in increasing order of their names.
Insertion replaces the value of a name that is present already, so a list built by
`Entries.insert` alone holds each name once. The reading laws below need no such promise. -/

namespace GuardedQuery

abbrev Entries (α : Type) := List (String × α)

namespace Entries
variable {α β : Type}

def get? : Entries α → String → Option α
  | [], _ => none
  | (name, value) :: rest, key => if name = key then some value else get? rest key

def contains (entries : Entries α) (key : String) : Bool :=
  (get? entries key).isSome

def insert (key : String) (value : α) : Entries α → Entries α
  | [] => [(key, value)]
  | (name, old) :: rest =>
    if key < name then (key, value) :: (name, old) :: rest
    else if key = name then (key, value) :: rest
    else (name, old) :: insert key value rest

def erase (key : String) (entries : Entries α) : Entries α :=
  entries.filter fun entry => entry.1 != key

/-- Later entries win over earlier ones of the same name. -/
def ofList (pairs : List (String × α)) : Entries α :=
  pairs.foldl (fun entries pair => insert pair.1 pair.2 entries) []

def names (entries : Entries α) : List String := entries.map Prod.fst

def mapValues (f : α → β) (entries : Entries α) : Entries β :=
  entries.map fun entry => (entry.1, f entry.2)

def Sorted (entries : Entries α) : Prop :=
  entries.Pairwise fun a b => a.1 < b.1

theorem sorted_nil : Sorted ([] : Entries α) := List.Pairwise.nil

@[simp] theorem get?_nil (key : String) : get? ([] : Entries α) key = none := rfl

theorem get?_cons (name key : String) (value : α) (rest : Entries α) :
    get? ((name, value) :: rest) key = if name = key then some value else get? rest key := rfl

theorem mem_of_get? {key : String} {value : α} {entries : Entries α}
    (found : get? entries key = some value) : (key, value) ∈ entries := by
  induction entries with
  | nil => cases found
  | cons entry rest ih =>
    obtain ⟨name, first⟩ := entry
    rw [get?_cons] at found
    split at found
    · rename_i same
      rw [← Option.some.inj found, ← same]
      exact List.mem_cons_self
    · exact List.mem_cons_of_mem _ (ih found)

theorem exists_get?_of_mem_names {entries : Entries α} {name : String}
    (mem : name ∈ entries.names) : ∃ value, entries.get? name = some value := by
  induction entries with
  | nil => cases mem
  | cons entry rest ih =>
    obtain ⟨first, value⟩ := entry
    rw [get?_cons]
    split
    · exact ⟨value, rfl⟩
    · rename_i differs
      exact ih ((List.mem_cons.1 mem).resolve_left (Ne.symm differs))

@[simp] theorem get?_insert_self (key : String) (value : α) (entries : Entries α) :
    get? (insert key value entries) key = some value := by
  induction entries with
  | nil => simp [insert, get?]
  | cons entry rest ih =>
    obtain ⟨name, old⟩ := entry
    simp only [insert]
    split
    · simp [get?]
    · split
      · simp [get?]
      · rename_i h
        simp [get?, Ne.symm h, ih]

theorem get?_insert_of_ne {key other : String} (h : key ≠ other) (value : α)
    (entries : Entries α) : get? (insert key value entries) other = get? entries other := by
  induction entries with
  | nil => simp [insert, get?, h]
  | cons entry rest ih =>
    obtain ⟨name, old⟩ := entry
    simp only [insert]
    split
    · simp [get?, h]
    · split
      · rename_i e
        subst e
        simp [get?, h]
      · simp [get?, ih]

@[simp] theorem get?_erase_self (key : String) (entries : Entries α) :
    get? (erase key entries) key = none := by
  induction entries with
  | nil => rfl
  | cons entry rest ih =>
    obtain ⟨name, old⟩ := entry
    by_cases h : name = key
    · simpa [erase, h] using ih
    · simpa [erase, h, get?] using ih

theorem get?_erase_of_ne {key other : String} (h : key ≠ other) (entries : Entries α) :
    get? (erase key entries) other = get? entries other := by
  induction entries with
  | nil => rfl
  | cons entry rest ih =>
    obtain ⟨name, old⟩ := entry
    by_cases e : name = key
    · subst e
      simpa [erase, get?, h] using ih
    · simp only [erase, get?] at ih ⊢
      simp [e, get?, ih]

theorem mem_names_insert {key name : String} {value : α} {entries : Entries α} :
    name ∈ names (insert key value entries) ↔ name = key ∨ name ∈ names entries := by
  induction entries with
  | nil => simp [insert, names]
  | cons entry rest ih =>
    obtain ⟨first, old⟩ := entry
    simp only [insert]
    split
    · simp [names]
    · split
      · rename_i h
        subst h
        simp [names]
      · simp only [names, List.map_cons, List.mem_cons] at ih ⊢
        rw [ih]
        grind

theorem Sorted.insert {entries : Entries α} (h : Sorted entries) (key : String) (value : α) :
    Sorted (insert key value entries) := by
  induction entries with
  | nil => simp [Entries.insert, Sorted]
  | cons entry rest ih =>
    obtain ⟨name, old⟩ := entry
    obtain ⟨first, others⟩ := List.pairwise_cons.1 h
    simp only [Entries.insert]
    split
    · rename_i lt
      refine List.pairwise_cons.2 ⟨fun e mem => ?_, h⟩
      rcases List.mem_cons.1 mem with rfl | mem
      · exact lt
      · exact String.lt_trans lt (first e mem)
    · split
      · rename_i e
        subst e
        exact List.pairwise_cons.2 ⟨first, others⟩
      · rename_i ge ne
        refine List.pairwise_cons.2 ⟨fun e mem => ?_, ih others⟩
        have : e.1 = key ∨ e.1 ∈ names rest :=
          mem_names_insert.1 (List.mem_map_of_mem mem)
        rcases this with eq | old
        · rw [eq]
          exact Std.lt_of_le_of_ne (String.not_lt.1 ge) (Ne.symm ne)
        · obtain ⟨f, inRest, same⟩ := List.mem_map.1 old
          rw [← same]
          exact first f inRest

theorem Sorted.erase {entries : Entries α} (h : Sorted entries) (key : String) :
    Sorted (erase key entries) :=
  List.Pairwise.filter _ h

theorem Sorted.mapValues {entries : Entries α} (h : Sorted entries) (f : α → β) :
    Sorted (mapValues f entries) := by
  simpa [Sorted, Entries.mapValues, List.pairwise_map] using h

theorem sorted_ofList (pairs : List (String × α)) : Sorted (ofList pairs) := by
  suffices ∀ entries : Entries α, Sorted entries →
      Sorted (pairs.foldl (fun entries pair => insert pair.1 pair.2 entries) entries) from
    this [] sorted_nil
  induction pairs with
  | nil => exact fun _ h => h
  | cons pair rest ih => exact fun _ h => ih _ (h.insert _ _)

theorem get?_eq_none_of_lt {entries : Entries α} {key : String}
    (h : ∀ entry ∈ entries, key < entry.1) : get? entries key = none := by
  induction entries with
  | nil => rfl
  | cons entry rest ih =>
    obtain ⟨name, value⟩ := entry
    have lt : key < name := h (name, value) List.mem_cons_self
    have ne : name ≠ key := fun e => String.lt_irrefl key (e ▸ lt)
    rw [get?_cons, if_neg ne]
    exact ih fun e mem => h e (List.mem_cons_of_mem _ mem)

/-- Sorted lists that answer every name alike are equal. -/
theorem Sorted.eq_of_get? {xs ys : Entries α} (sx : Sorted xs) (sy : Sorted ys)
    (h : ∀ key, get? xs key = get? ys key) : xs = ys := by
  induction xs generalizing ys with
  | nil =>
    match ys with
    | [] => rfl
    | (name, value) :: rest => simpa [get?] using h name
  | cons x xs ih =>
    obtain ⟨a, v⟩ := x
    obtain ⟨first, others⟩ := List.pairwise_cons.1 sx
    match ys with
    | [] => simpa [get?] using h a
    | (b, w) :: ys =>
      obtain ⟨first', others'⟩ := List.pairwise_cons.1 sy
      have same : a = b := by
        apply Classical.byContradiction
        intro ne
        by_cases lt : a < b
        · have absent : get? ((b, w) :: ys) a = none := get?_eq_none_of_lt fun e mem => by
            rcases List.mem_cons.1 mem with rfl | mem
            · exact lt
            · exact String.lt_trans lt (first' e mem)
          rw [← h a] at absent
          simp [get?] at absent
        · have gt : b < a := Std.lt_of_le_of_ne (String.not_lt.1 lt) (Ne.symm ne)
          have absent : get? ((a, v) :: xs) b = none := get?_eq_none_of_lt fun e mem => by
            rcases List.mem_cons.1 mem with rfl | mem
            · exact gt
            · exact String.lt_trans gt (first e mem)
          rw [h b] at absent
          simp [get?] at absent
      subst same
      have value : v = w := by simpa [get?] using h a
      subst value
      rw [ih others others' fun key => ?_]
      by_cases e : a = key
      · subst e
        rw [get?_eq_none_of_lt first, get?_eq_none_of_lt first']
      · simpa [get?, e] using h key

end Entries

end GuardedQuery
