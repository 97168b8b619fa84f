import GuardedQuery.Proofs.Cache.Watched
import Mathlib.Data.List.Induction

/-! Whatever happens to a cache. Values are put, invalidated and removed, and the notices of removed
values are delivered late and in any order. At every point each cached key is on record at the
generation of its value and is linked under every model that it was last put with, so an
invalidation of one of these models reaches it. What is on record without being cached is on record
only until the notice of its value is delivered. -/

namespace GuardedQuery.Cache

/-! Links and records -/

namespace Index
variable {i : Index} {key : String} {link : Link}

/-- Every link is that of a recorded key under one of the scopes of its record. -/
def Linked (i : Index) : Prop :=
  ∀ link ∈ i.links, ∃ record, i.records.get? link.key = some record ∧ link.scope ∈ record.scopes

theorem get?_forget_self (i : Index) (key : String) : (i.forget key).records.get? key = none := by
  rw [forget]
  split
  · exact Dict.get?_erase_self _ _
  · assumption

theorem get?_foldl_forget (keys : List String) (i : Index) (key : String) :
    (keys.foldl forget i).records.get? key = if key ∈ keys then none else i.records.get? key := by
  induction keys generalizing i with
  | nil => rfl
  | cons first rest ih =>
    rw [List.foldl_cons, ih]
    by_cases same : first = key
    · subst same
      simp [get?_forget_self]
    · simp [get?_forget same, Ne.symm same]

theorem mem_of_mem_forget (mem : link ∈ (i.forget key).links) : link ∈ i.links := by
  rw [forget] at mem
  split at mem
  · exact (List.mem_filter.1 mem).1
  · exact mem

namespace Linked

/-- The links of a key are forgotten with it, as its record lists all of their scopes. -/
theorem ne_of_mem_forget (h : i.Linked) (mem : link ∈ (i.forget key).links) : link.key ≠ key := by
  intro same
  obtain ⟨record, recorded, listed⟩ := h link (mem_of_mem_forget mem)
  rw [same] at recorded
  rw [forget, recorded] at mem
  have kept := (List.mem_filter.1 mem).2
  simp [same, listed] at kept

theorem forget (h : i.Linked) (key : String) : (i.forget key).Linked := by
  intro link mem
  rw [get?_forget (Ne.symm (h.ne_of_mem_forget mem))]
  exact h link (mem_of_mem_forget mem)

theorem foldl_forget (h : i.Linked) (keys : List String) : (keys.foldl Index.forget i).Linked := by
  induction keys generalizing i with
  | nil => exact h
  | cons key rest ih => exact ih (h.forget key)

theorem forgetGeneration (h : i.Linked) (key : String) (generation : Nat) :
    (i.forgetGeneration key generation).Linked := by
  rw [Index.forgetGeneration]
  split
  · split
    · exact h.forget key
    · exact h
  · exact h

theorem record (h : i.Linked) (key : String) (generation : Nat) (transaction : String)
    (models : NameSet) : (i.record key generation transaction models).Linked := by
  intro link mem
  rcases mem_link.1 mem with old | ⟨scope, listed, rfl⟩
  · have kept := h.forget key link old
    obtain ⟨record, recorded, within⟩ := kept
    refine ⟨record, ?_, within⟩
    exact (Dict.get?_insert_of_ne _ (Ne.symm (h.ne_of_mem_forget old)) _).trans recorded
  · exact ⟨_, Dict.get?_insert_self _ _ _, listed⟩

theorem take (h : i.Linked) (scope : Scope) : (i.take scope).2.Linked := by
  refine foldl_forget (fun link mem => ?_) _
  exact h link (List.mem_filter.1 mem).1

/-- A key without a record has no link. -/
theorem not_mem_keysOf (h : i.Linked) (unrecorded : i.records.get? key = none) (scope : Scope) :
    key ∉ i.keysOf scope := by
  intro mem
  obtain ⟨link, among, rfl⟩ := List.mem_map.1 mem
  obtain ⟨record, recorded, _⟩ := h link (List.mem_filter.1 among).1
  rw [unrecorded] at recorded
  cases recorded

end Linked

theorem get?_take (i : Index) (scope : Scope) (key : String) :
    (i.take scope).2.records.get? key =
      if key ∈ i.keysOf scope then none else i.records.get? key :=
  get?_foldl_forget _ _ _

end Index

/-! Records and notices -/

/-- Whatever is on record is cached at the generation of its record, or the notice that will clear
the record is on the way. -/
structure Accounted (c : Cache) : Prop where
  linked : c.index.Linked
  records : ∀ key record, c.index.records.get? key = some record →
    (∃ entry, c.entries.get? key = some entry ∧ entry.generation = record.generation) ∨
      ⟨key, record.generation⟩ ∈ c.notices

variable {c : Cache}

theorem accounted_ofSettings (settings : CacheSettings) : (ofSettings settings).Accounted :=
  ⟨nofun, nofun⟩

namespace Accounted

/-- A value that leaves sends the notice of its generation. -/
theorem remove (h : c.Accounted) (key : String) : (c.remove key).Accounted := by
  refine ⟨h.linked, fun other record recorded => ?_⟩
  rcases h.records other record recorded with ⟨entry, found, same⟩ | told
  · by_cases here : key = other
    · subst here
      refine .inr (List.mem_append_right _ (mem_noticesOf.2 ⟨entry, found, ?_⟩))
      rw [same]
    · exact .inl ⟨entry, (Dict.get?_erase_of_ne _ here).trans found, same⟩
  · exact .inr (List.mem_append_left _ told)

theorem put (h : c.Accounted) (key transaction : String) (models : NameSet) (value : Value) :
    (c.put key transaction models value).Accounted := by
  refine ⟨h.linked.record key c.generation transaction models, fun other record recorded => ?_⟩
  by_cases here : key = other
  · subst here
    have own := (Dict.get?_insert_self _ _ _).symm.trans recorded
    exact .inl ⟨_, Dict.get?_insert_self _ _ _, congrArg Record.generation (Option.some.inj own)⟩
  · have kept : c.index.records.get? other = some record :=
      (Index.get?_forget here).symm.trans
        ((Dict.get?_insert_of_ne _ here _).symm.trans recorded)
    rcases h.records other record kept with ⟨entry, found, same⟩ | told
    · exact .inl ⟨entry, (Dict.get?_insert_of_ne _ here _).trans found, same⟩
    · exact .inr (List.mem_append_left _ told)

theorem deliver (h : c.Accounted) (notice : Notice) : (c.deliver notice).Accounted := by
  refine ⟨h.linked.forgetGeneration _ _, fun key record recorded => ?_⟩
  have kept : c.index.records.get? key = some record ∧
      (notice.key = key → notice.generation ≠ record.generation) := by
    change (c.index.forgetGeneration notice.key notice.generation).records.get? key =
      some record at recorded
    rw [Index.forgetGeneration] at recorded
    by_cases here : notice.key = key
    · subst here
      cases found : c.index.records.get? notice.key with
      | none => simp [found] at recorded
      | some present =>
        simp only [found] at recorded
        split at recorded
        · rw [Index.get?_forget_self] at recorded
          cases recorded
        · rename_i ne
          rw [found] at recorded
          obtain rfl := Option.some.inj recorded
          exact ⟨rfl, fun _ same => ne same.symm⟩
    · refine ⟨?_, fun same => absurd same here⟩
      rw [← recorded]
      split
      · split
        · rw [Index.get?_forget here]
        · rfl
      · rfl
  rcases h.records key record kept.1 with cached | told
  · exact .inl cached
  · refine .inr ((List.mem_erase_of_ne fun same => ?_).2 told)
    exact kept.2 (congrArg Notice.key same).symm (congrArg Notice.generation same).symm

theorem foldl_remove (h : c.Accounted) (keys : List String) :
    (keys.foldl Cache.remove c).Accounted := by
  induction keys generalizing c with
  | nil => exact h
  | cons key rest ih => exact ih (h.remove key)

/-- The records are taken from the index before the values leave the cache. -/
theorem invalidate (h : c.Accounted) (transaction model : String) :
    (c.invalidate transaction model).Accounted := by
  obtain ⟨moved, kept⟩ := foldl_remove_index (c.index.take ⟨transaction, model⟩).1 c
    (c.index.take ⟨transaction, model⟩).2
  have without := h.foldl_remove (c.index.take ⟨transaction, model⟩).1
  change Accounted ((c.index.take ⟨transaction, model⟩).1.foldl Cache.remove
    { c with index := (c.index.take ⟨transaction, model⟩).2 })
  rw [moved]
  refine ⟨h.linked.take _, fun key record recorded => without.records key record ?_⟩
  rw [kept]
  change (c.index.take ⟨transaction, model⟩).2.records.get? key = some record at recorded
  rw [Index.get?_take] at recorded
  split at recorded
  · cases recorded
  · exact recorded

end Accounted

/-! Histories -/

/-- What can happen to a cache. -/
inductive Move where
  | put (key transaction : String) (models : NameSet) (value : Value)
  | invalidate (transaction model : String)
  /-- A value leaves because it has expired, to make room, or on demand. -/
  | remove (key : String)
  /-- One of the notices that are on the way is delivered, named by its place among them. -/
  | deliver (place : Nat)

/-- The key that a move puts. -/
def Move.put? : Move → Option String
  | put key .. => some key
  | _ => none

def move (c : Cache) : Move → Cache
  | .put key transaction models value => c.put key transaction models value
  | .invalidate transaction model => c.invalidate transaction model
  | .remove key => c.remove key
  | .deliver place =>
    match c.notices[place]? with
    | some notice => c.deliver notice
    | none => c

/-- The cache that some moves make of an empty one. -/
def after (settings : CacheSettings) (moves : List Move) : Cache :=
  moves.foldl move (ofSettings settings)

theorem after_concat (settings : CacheSettings) (moves : List Move) (next : Move) :
    after settings (moves ++ [next]) = (after settings moves).move next := by
  rw [after, List.foldl_append]
  rfl

/-- The last value that was put under a key, with the models that it was put with. -/
def LastPut (moves : List Move) (key transaction : String) (models : NameSet) (value : Value) :
    Prop :=
  ∃ before rest, moves = before ++ .put key transaction models value :: rest ∧
    ∀ next ∈ rest, next.put? ≠ some key

variable {moves : List Move} {key transaction : String} {models : NameSet} {value : Value}

theorem lastPut_concat (moves : List Move) :
    LastPut (moves ++ [.put key transaction models value]) key transaction models value :=
  ⟨moves, [], rfl, nofun⟩

theorem LastPut.concat (h : LastPut moves key transaction models value) {next : Move}
    (other : next.put? ≠ some key) :
    LastPut (moves ++ [next]) key transaction models value := by
  obtain ⟨before, rest, rfl, later⟩ := h
  refine ⟨before, rest ++ [next], by simp, fun move mem => ?_⟩
  rcases List.mem_append.1 mem with old | new
  · exact later move old
  · rw [List.mem_singleton.1 new]
    exact other

/-- The value is the last one put under the key, and the scopes are those that it was put with. -/
def PutWith (moves : List Move) (key : String) (value : Value) (scopes : List Scope) : Prop :=
  ∃ transaction models, LastPut moves key transaction models value ∧
    scopes = models.toList.map fun model => ⟨transaction, model⟩

theorem PutWith.concat {scopes : List Scope} (h : PutWith moves key value scopes) {next : Move}
    (other : next.put? ≠ some key) : PutWith (moves ++ [next]) key value scopes := by
  obtain ⟨transaction, models, last, listed⟩ := h
  exact ⟨transaction, models, last.concat other, listed⟩

theorem watched_after (settings : CacheSettings) (moves : List Move) :
    (after settings moves).Watched (PutWith moves) := by
  induction moves using List.reverseRecOn with
  | nil => exact watched_ofSettings settings
  | append_singleton moves next ih =>
    have later : next.put? = none → ∀ key value scopes, PutWith moves key value scopes →
        PutWith (moves ++ [next]) key value scopes :=
      fun silent key value scopes put => put.concat (by simp [silent])
    rw [after_concat]
    cases next with
    | put key transaction models value =>
      refine ih.replace (fun other value scopes ne put => put.concat ?_)
        ⟨transaction, models, lastPut_concat moves, rfl⟩
      exact fun same => ne (Option.some.inj same).symm
    | invalidate transaction model =>
      exact (ih.invalidate transaction model).mono fun key value scopes ⟨put, _⟩ =>
        later rfl key value scopes put
    | remove key => exact (ih.remove key).mono (later rfl)
    | deliver place =>
      rw [move]
      split
      · rename_i notice found
        exact (ih.deliver (List.mem_of_getElem? found)).mono (later rfl)
      · exact ih.mono (later rfl)

theorem accounted_after (settings : CacheSettings) (moves : List Move) :
    (after settings moves).Accounted := by
  induction moves using List.reverseRecOn with
  | nil => exact accounted_ofSettings settings
  | append_singleton moves next ih =>
    rw [after_concat]
    cases next with
    | put key transaction models value => exact ih.put key transaction models value
    | invalidate transaction model => exact ih.invalidate transaction model
    | remove key => exact ih.remove key
    | deliver place =>
      rw [move]
      split
      · exact ih.deliver _
      · exact ih

theorem generation_foldl_remove (keys : List String) (c : Cache) :
    (keys.foldl remove c).generation = c.generation := by
  induction keys generalizing c with
  | nil => rfl
  | cons key rest ih => exact ih (c.remove key)

/-- Generations are counted by the values that are put. -/
theorem generation_after (settings : CacheSettings) (moves : List Move) :
    (after settings moves).generation = moves.countP (·.put?.isSome) := by
  induction moves using List.reverseRecOn with
  | nil => rfl
  | append_singleton moves next ih =>
    rw [after_concat, List.countP_append, ← ih]
    cases next with
    | put key transaction models value => rfl
    | invalidate transaction model => exact generation_foldl_remove _ _
    | remove key => rfl
    | deliver place =>
      rw [move]
      split <;> rfl

/-- Invalidating one of the models that a key is linked under removes its value. -/
theorem get?_invalidate {model : String} (linked : ⟨⟨transaction, model⟩, key⟩ ∈ c.index.links) :
    (c.invalidate transaction model).entries.get? key = none := by
  refine get?_foldl_remove _ _ (.inl (List.mem_map.2 ⟨⟨⟨transaction, model⟩, key⟩, ?_, rfl⟩))
  exact List.mem_filter.2 ⟨linked, by simp⟩

/-- At every point of every history, each cached key is on record at the generation of its value
and is linked under every model that it was last put with, and invalidating any of these models
removes it. Once no notice is on the way, the index knows no key that is not cached. A generation is
the number of values put before, so none comes twice. -/
theorem cached_keys_stay_invalidatable (settings : CacheSettings) (moves : List Move) :
    (∀ key entry, (after settings moves).entries.get? key = some entry →
      ∃ transaction models, LastPut moves key transaction models entry.value ∧
        (after settings moves).index.records.get? key =
          some ⟨entry.generation, models.toList.map fun model => ⟨transaction, model⟩⟩ ∧
        ∀ model ∈ models,
          ⟨⟨transaction, model⟩, key⟩ ∈ (after settings moves).index.links ∧
          ((after settings moves).invalidate transaction model).entries.get? key = none) ∧
    ((after settings moves).notices = [] →
      ∀ key, (after settings moves).entries.get? key = none →
        (after settings moves).index.records.get? key = none ∧
        ∀ scope, key ∉ (after settings moves).index.keysOf scope) ∧
    (after settings moves).generation = moves.countP (·.put?.isSome) := by
  refine ⟨fun key entry found => ?_, fun settled key absent => ?_, generation_after settings moves⟩
  · obtain ⟨_, _, scopes, watches, transaction, models, last, rfl⟩ :=
      (watched_after settings moves).entries key entry found
    refine ⟨transaction, models, last, watches.recorded, fun model mem => ?_⟩
    have linked := watches.linked ⟨transaction, model⟩ (List.mem_map.2 ⟨model, mem, rfl⟩)
    exact ⟨linked, get?_invalidate linked⟩
  · have accounted := accounted_after settings moves
    have unrecorded : (after settings moves).index.records.get? key = none := by
      cases recorded : (after settings moves).index.records.get? key with
      | none => rfl
      | some record =>
        rcases accounted.records key record recorded with ⟨entry, found, _⟩ | told
        · rw [absent] at found
          cases found
        · rw [settled] at told
          cases told
    exact ⟨unrecorded, accounted.linked.not_mem_keysOf unrecorded⟩

/-! One key, put twice -/

/-- A list of books with their authors is replaced by one without, and the notice of the first list
comes late. -/
def shelf : List Move :=
  [.put "books" "t" (.ofList ["author", "book"]) (.int 1),
    .put "books" "t" (.ofList ["book"]) (.int 2), .deliver 0]

/-- The second list stays within reach of an invalidation, which leaves no trace of it. -/
theorem replaced_list_stays_within_reach :
    (after .default shelf).entries.get? "books" = some ⟨1, .int 2⟩ ∧
    ((after .default shelf).invalidate "t" "book").entries.get? "books" = none ∧
    (after .default (shelf ++ [.invalidate "t" "book", .deliver 0])).notices = [] ∧
    ∀ scope, "books" ∉
      (after .default (shelf ++ [.invalidate "t" "book", .deliver 0])).index.keysOf scope := by
  have found : (after .default shelf).entries.get? "books" = some ⟨1, .int 2⟩ := rfl
  have settled : (after .default (shelf ++ [.invalidate "t" "book", .deliver 0])).notices = [] := rfl
  obtain ⟨kept, _, _⟩ := cached_keys_stay_invalidatable .default shelf
  obtain ⟨_, gone, _⟩ :=
    cached_keys_stay_invalidatable .default (shelf ++ [.invalidate "t" "book", .deliver 0])
  obtain ⟨transaction, models, _, recorded, reached⟩ := kept "books" _ found
  have listed : (after .default shelf).index.records.get? "books" =
    some ⟨1, [⟨"t", "book"⟩]⟩ := rfl
  have scopes : models.toList.map (fun model => (⟨transaction, model⟩ : Scope)) =
      [⟨"t", "book"⟩] :=
    congrArg Record.scopes (Option.some.inj (recorded.symm.trans listed))
  obtain ⟨model, mem, same⟩ : ∃ model ∈ models, (⟨transaction, model⟩ : Scope) = ⟨"t", "book"⟩ := by
    have mem : (⟨"t", "book"⟩ : Scope) ∈ models.toList.map fun model => ⟨transaction, model⟩ := by
      rw [scopes]
      exact List.mem_cons_self
    exact List.mem_map.1 mem
  cases same
  exact ⟨found, (reached "book" mem).2, settled, (gone settled "books" rfl).2⟩

end GuardedQuery.Cache
