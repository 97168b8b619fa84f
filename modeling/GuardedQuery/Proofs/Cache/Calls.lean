import GuardedQuery.Proofs.Cache.Steps

/-! What a cache answers. A call is answered by what its key is cached under or by its own
computation; and what is cached afterwards was cached before or is what the call computed. -/

namespace GuardedQuery.Cache

/-- Every cached value is as `P` says of its key. -/
def Keeps (P : String → Value → Prop) (c : Cache) : Prop :=
  ∀ key value, c.peek key = some value → P key value

/-- Nothing is cached that was not cached before under the same key. -/
def Within (c earlier : Cache) : Prop :=
  ∀ key value, c.peek key = some value → earlier.peek key = some value

variable {P : String → Value → Prop} {c d : Cache}

theorem Within.refl (c : Cache) : c.Within c := fun _ _ h => h

theorem Within.trans {c d b : Cache} (h : d.Within c) (h' : c.Within b) : d.Within b :=
  fun key value found => h' key value (h key value found)

theorem Keeps.within (h : c.Keeps P) (inside : d.Within c) : d.Keeps P :=
  fun key value found => h key value (inside key value found)

theorem within_of_entries (h : c.entries = d.entries) : c.Within d := by
  intro key value found
  rwa [peek, ← h]

/-! Removals -/

theorem remove_within (c : Cache) (key : String) : (c.remove key).Within c := by
  intro other value found
  by_cases same : other = key
  · rw [same, peek_remove_self] at found
    cases found
  · rwa [peek, remove, Dict.get?_erase_of_ne _ (Ne.symm same)] at found

theorem foldl_remove_within (keys : List String) (c : Cache) : (keys.foldl remove c).Within c := by
  induction keys generalizing c with
  | nil => exact .refl c
  | cons key rest ih => exact (ih _).trans (c.remove_within key)

theorem invalidate_within (c : Cache) (transaction model : String) :
    (c.invalidate transaction model).Within c :=
  (foldl_remove_within _ _).trans (within_of_entries rfl)

theorem settle_within (c : Cache) : c.settle.Within c := by
  have delivered (notices : List Notice) (c : Cache) : (notices.foldl deliver c).Within c := by
    induction notices generalizing c with
    | nil => exact .refl c
    | cons notice rest ih => exact (ih _).trans (within_of_entries rfl)
  refine (delivered _ _).trans ?_
  rw [expire]
  split
  · exact foldl_remove_within _ _
  · exact .refl c

/-! Calls -/

theorem peek_put_cases {key transaction other : String} {models : NameSet} {value found : Value}
    (h : (c.put key transaction models value).peek other = some found) :
    c.peek other = some found ∨ other = key ∧ found = value := by
  by_cases same : other = key
  · rw [same, peek_put_self] at h
    exact .inr ⟨same, (Option.some.inj h).symm⟩
  · rw [peek, put, Dict.get?_insert_of_ne _ (Ne.symm same)] at h
    exact .inl h

theorem keyOf_eq_some {job : Job} {key : String} (h : c.keyOf job = some key) :
    job.key = some key := by
  rw [keyOf] at h
  split at h
  · exact h
  · cases h

variable {σ : Type} {job : Job} {compute : σ → Except Error Value × σ} {s : σ}

/-- A call is answered from the cache, which it leaves alone, or it computes. -/
theorem run_cases (c : Cache) (job : Job) (compute : σ → Except Error Value × σ) (s : σ) :
    (∃ key value, job.key = some key ∧ c.peek key = some value ∧
      (c.run job compute s).1 = .ok value ∧ (c.run job compute s).2.2 = s ∧
      (c.run job compute s).2.1.Within c) ∨
    (c.run job compute s).1 = (compute s).1 ∧ (c.run job compute s).2.2 = (compute s).2 ∧
      ∀ key value, (c.run job compute s).2.1.peek key = some value →
        c.peek key = some value ∨ job.key = some key ∧ (compute s).1 = .ok value := by
  rcases run_spec c job compute s with
    ⟨key, value, named, found, d, ran, same⟩ | ⟨_, d, ran, stores⟩
  · rw [ran]
    exact .inl ⟨key, value, keyOf_eq_some named, found, rfl, rfl, within_of_entries same.entries⟩
  · rw [ran]
    refine .inr ⟨rfl, rfl, fun key value found => ?_⟩
    cases stores with
    | nothing same => exact .inl (within_of_entries same.entries key value found)
    | value named computed same =>
      rcases peek_put_cases (within_of_entries same.entries key value found) with old | ⟨rfl, rfl⟩
      · exact .inl old
      · exact .inr ⟨keyOf_eq_some named, computed⟩

theorem keeps_run (keeps : c.Keeps P)
    (computed : ∀ key value, job.key = some key → (compute s).1 = .ok value → P key value) :
    (c.run job compute s).2.1.Keeps P := by
  rcases run_cases c job compute s with ⟨_, _, _, _, _, _, within⟩ | ⟨_, _, cached⟩
  · exact keeps.within within
  · intro key value found
    rcases cached key value found with old | ⟨named, new⟩
    · exact keeps key value old
    · exact computed key value named new

end GuardedQuery.Cache
