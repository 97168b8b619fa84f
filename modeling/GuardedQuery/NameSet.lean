import GuardedQuery.Entries

/-! Finite sets of names, listed in increasing order without repetition.
Sets with the same members are equal (`NameSet.ext_mem`). -/

namespace GuardedQuery

structure NameSet where
  toList : List String
  sorted : toList.Pairwise (· < ·)

namespace NameSet

instance : Membership String NameSet := ⟨fun s name => name ∈ s.toList⟩

instance (name : String) (s : NameSet) : Decidable (name ∈ s) :=
  inferInstanceAs (Decidable (name ∈ s.toList))

theorem mem_def {name : String} {s : NameSet} : name ∈ s ↔ name ∈ s.toList := Iff.rfl

def empty : NameSet := ⟨[], List.Pairwise.nil⟩

instance : Inhabited NameSet := ⟨empty⟩

def isEmpty (s : NameSet) : Bool := s.toList.isEmpty

def contains (s : NameSet) (name : String) : Bool := decide (name ∈ s)

def place (name : String) : List String → List String
  | [] => [name]
  | first :: rest =>
    if name < first then name :: first :: rest
    else if name = first then first :: rest
    else first :: place name rest

theorem mem_place {name other : String} {names : List String} :
    other ∈ place name names ↔ other = name ∨ other ∈ names := by
  induction names with
  | nil => simp [place]
  | cons first rest ih =>
    simp only [place]
    split
    · simp
    · split
      · rename_i e
        simp [e]
      · simp only [List.mem_cons, ih]
        grind

theorem sorted_place {names : List String} (h : names.Pairwise (· < ·)) (name : String) :
    (place name names).Pairwise (· < ·) := by
  induction names with
  | nil => simp [place]
  | cons first rest ih =>
    obtain ⟨least, others⟩ := List.pairwise_cons.1 h
    simp only [place]
    split
    · rename_i lt
      refine List.pairwise_cons.2 ⟨fun e mem => ?_, h⟩
      rcases List.mem_cons.1 mem with rfl | mem
      · exact lt
      · exact String.lt_trans lt (least e mem)
    · split
      · exact h
      · rename_i ge ne
        refine List.pairwise_cons.2 ⟨fun e mem => ?_, ih others⟩
        rcases mem_place.1 mem with rfl | mem
        · exact Std.lt_of_le_of_ne (String.not_lt.1 ge) (Ne.symm ne)
        · exact least e mem

def insert (s : NameSet) (name : String) : NameSet :=
  ⟨place name s.toList, sorted_place s.sorted name⟩

def insertAll (s : NameSet) (names : List String) : NameSet := names.foldl insert s

def ofList (names : List String) : NameSet := empty.insertAll names

def union (s t : NameSet) : NameSet := s.insertAll t.toList

def filter (keep : String → Bool) (s : NameSet) : NameSet :=
  ⟨s.toList.filter keep, s.sorted.filter keep⟩

def inter (s t : NameSet) : NameSet := s.filter t.contains

@[simp] theorem not_mem_empty (name : String) : ¬ name ∈ empty := by
  simp [mem_def, empty]

@[simp] theorem contains_iff {s : NameSet} {name : String} : s.contains name = true ↔ name ∈ s := by
  simp [contains]

@[simp] theorem mem_insert {s : NameSet} {name other : String} :
    other ∈ s.insert name ↔ other = name ∨ other ∈ s := mem_place

@[simp] theorem mem_insertAll {s : NameSet} {names : List String} {name : String} :
    name ∈ s.insertAll names ↔ name ∈ s ∨ name ∈ names := by
  induction names generalizing s with
  | nil => simp [insertAll]
  | cons first rest ih =>
    have := ih (s := s.insert first)
    simp only [insertAll, List.foldl_cons] at this ⊢
    rw [this]
    simp only [mem_insert, List.mem_cons]
    grind

@[simp] theorem mem_ofList {names : List String} {name : String} :
    name ∈ ofList names ↔ name ∈ names := by
  simp [ofList]

@[simp] theorem mem_union {s t : NameSet} {name : String} :
    name ∈ s.union t ↔ name ∈ s ∨ name ∈ t := by
  simp [union, mem_def (s := t)]

@[simp] theorem mem_filter {keep : String → Bool} {s : NameSet} {name : String} :
    name ∈ s.filter keep ↔ name ∈ s ∧ keep name = true := by
  simp [filter, mem_def]

@[simp] theorem mem_inter {s t : NameSet} {name : String} :
    name ∈ s.inter t ↔ name ∈ s ∧ name ∈ t := by
  simp [inter]

theorem eq_of_sorted {xs ys : List String} (sx : xs.Pairwise (· < ·)) (sy : ys.Pairwise (· < ·))
    (h : ∀ name, name ∈ xs ↔ name ∈ ys) : xs = ys := by
  induction xs generalizing ys with
  | nil =>
    match ys with
    | [] => rfl
    | y :: ys => exact absurd ((h y).2 List.mem_cons_self) (by simp)
  | cons x xs ih =>
    obtain ⟨first, others⟩ := List.pairwise_cons.1 sx
    match ys with
    | [] => exact absurd ((h x).1 List.mem_cons_self) (by simp)
    | y :: ys =>
      obtain ⟨first', others'⟩ := List.pairwise_cons.1 sy
      have same : x = y := by
        rcases List.mem_cons.1 ((h x).1 List.mem_cons_self) with e | above
        · exact e
        · rcases List.mem_cons.1 ((h y).2 List.mem_cons_self) with e | below
          · exact e.symm
          · exact absurd (first y below) (String.lt_asymm (first' x above))
      subst same
      rw [ih others others' fun name => ?_]
      constructor
      · intro mem
        rcases List.mem_cons.1 ((h name).1 (List.mem_cons_of_mem _ mem)) with rfl | inside
        · exact absurd (first name mem) (String.lt_irrefl name)
        · exact inside
      · intro mem
        rcases List.mem_cons.1 ((h name).2 (List.mem_cons_of_mem _ mem)) with rfl | inside
        · exact absurd (first' name mem) (String.lt_irrefl name)
        · exact inside

theorem ext_mem {s t : NameSet} (h : ∀ name, name ∈ s ↔ name ∈ t) : s = t := by
  obtain ⟨xs, sx⟩ := s
  obtain ⟨ys, sy⟩ := t
  have : xs = ys := eq_of_sorted sx sy h
  subst this
  rfl

end NameSet

end GuardedQuery
