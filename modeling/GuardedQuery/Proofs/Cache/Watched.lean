import GuardedQuery.Proofs.Cache.Steps

/-! The index watches over everything that is cached. A cached value has a record of its generation,
its key is linked under every scope of the record, and no notice about it is on the way; so late
notices never clear a record that is still needed, and an invalidation reaches every value that
depends on what has changed. Values may leave the cache at any time. -/

namespace GuardedQuery.Cache

/-! The index -/

namespace Index
variable {i : Index} {key other : String}

theorem get?_forget (ne : key ≠ other) :
    (i.forget key).records.get? other = i.records.get? other := by
  rw [forget]
  split
  · exact Dict.get?_erase_of_ne _ ne
  · rfl

theorem mem_forget {link : Link} (mem : link ∈ i.links) (ne : link.key ≠ key) :
    link ∈ (i.forget key).links := by
  rw [forget]
  split
  · exact List.mem_filter.2 ⟨mem, by simp [ne]⟩
  · exact mem

theorem mem_addLink {links : List Link} {link added : Link} :
    link ∈ addLink links added ↔ link ∈ links ∨ link = added := by
  rw [addLink]
  split
  · rename_i there
    exact ⟨.inl, fun h => h.elim id fun same => same ▸ there⟩
  · rw [List.mem_append, List.mem_singleton]

theorem mem_link {link : Link} {scopes : List Scope} :
    link ∈ (i.link key scopes).links ↔ link ∈ i.links ∨ ∃ scope ∈ scopes, link = ⟨scope, key⟩ := by
  change link ∈ scopes.foldl (fun links scope => addLink links ⟨scope, key⟩) i.links ↔ _
  generalize i.links = links
  induction scopes generalizing links with
  | nil => simp
  | cons scope rest ih =>
    rw [List.foldl_cons, ih, mem_addLink, or_assoc]
    simp

/-- A key is watched with the scopes of its record, of the given generation, under all of which it
is linked. -/
structure Watches (i : Index) (key : String) (generation : Nat) (scopes : List Scope) : Prop where
  recorded : i.records.get? key = some ⟨generation, scopes⟩
  linked : ∀ scope ∈ scopes, ⟨scope, key⟩ ∈ i.links

namespace Watches
variable {generation : Nat} {scopes : List Scope}

theorem forget (h : i.Watches key generation scopes) (ne : other ≠ key) :
    (i.forget other).Watches key generation scopes :=
  ⟨(get?_forget ne).trans h.recorded, fun scope mem => mem_forget (h.linked scope mem) (Ne.symm ne)⟩

theorem foldl_forget {keys : List String} (h : i.Watches key generation scopes)
    (absent : key ∉ keys) : (keys.foldl Index.forget i).Watches key generation scopes := by
  induction keys generalizing i with
  | nil => exact h
  | cons first rest ih =>
    obtain ⟨ne, absent⟩ := not_or.1 (mt List.mem_cons.2 absent)
    exact ih (h.forget (Ne.symm ne)) absent

theorem forgetGeneration (h : i.Watches key generation scopes) {told : Nat}
    (older : other = key → told ≠ generation) :
    (i.forgetGeneration other told).Watches key generation scopes := by
  rw [Index.forgetGeneration]
  split
  case h_2 => exact h
  case h_1 record found =>
    split
    case isFalse => exact h
    case isTrue same =>
      refine h.forget fun here => older here ?_
      rw [here, h.recorded] at found
      rw [← same, ← Option.some.inj found]

theorem record (h : i.Watches key generation scopes) (ne : other ≠ key) (next : Nat)
    (transaction : String) (models : NameSet) :
    (i.record other next transaction models).Watches key generation scopes := by
  have kept := h.forget ne
  refine ⟨?_, fun scope mem => mem_link.2 (.inl (kept.linked scope mem))⟩
  exact (Dict.get?_insert_of_ne _ ne _).trans kept.recorded

/-- What is watched under a scope is taken with it. -/
theorem take {scope : Scope} (h : i.Watches key generation scopes)
    (absent : key ∉ (i.take scope).1) :
    (i.take scope).2.Watches key generation scopes ∧ scope ∉ scopes := by
  have outside : scope ∉ scopes := by
    intro mem
    refine absent (List.mem_map.2 ⟨⟨scope, key⟩, ?_, rfl⟩)
    exact List.mem_filter.2 ⟨h.linked scope mem, by simp⟩
  refine ⟨foldl_forget ⟨h.recorded, fun own mem => List.mem_filter.2 ⟨h.linked own mem, ?_⟩⟩ absent,
    outside⟩
  have ne : own ≠ scope := fun same => outside (same ▸ mem)
  simpa using ne

end Watches

theorem watches_record (i : Index) (key : String) (generation : Nat) (transaction : String)
    (models : NameSet) : (i.record key generation transaction models).Watches key generation
      (models.toList.map fun model => ⟨transaction, model⟩) :=
  ⟨Dict.get?_insert_self _ _ _, fun scope mem => mem_link.2 (.inr ⟨scope, mem, rfl⟩)⟩

end Index

/-! The invariant -/

/-- What is watched of one cached value: it is older than what comes next, no notice of it is on the
way, and it is as `P` says of its key and of the scopes of its record. -/
structure Tended (P : String → Value → List Scope → Prop) (c : Cache) (key : String)
    (entry : Entry) : Prop where
  earlier : entry.generation < c.generation
  unnoticed : ⟨key, entry.generation⟩ ∉ c.notices
  watched : ∃ scopes, c.index.Watches key entry.generation scopes ∧ P key entry.value scopes

/-- Everything in the cache is watched, and is as `P` says. -/
structure Watched (P : String → Value → List Scope → Prop) (c : Cache) : Prop where
  entries : ∀ key entry, c.entries.get? key = some entry → c.Tended P key entry
  notices : ∀ notice ∈ c.notices, notice.generation < c.generation

variable {P Q : String → Value → List Scope → Prop} {c d : Cache}

theorem watched_ofSettings (settings : CacheSettings) : (ofSettings settings).Watched P :=
  ⟨nofun, nofun⟩

theorem mem_noticesOf {key : String} {notice : Notice} :
    notice ∈ c.noticesOf key ↔
      ∃ entry, c.entries.get? key = some entry ∧ notice = ⟨key, entry.generation⟩ := by
  rw [noticesOf]
  cases c.entries.get? key with
  | none => simp
  | some entry => simp

namespace Watched

theorem value (h : c.Watched P) {key : String} {value : Value} (found : c.peek key = some value) :
    ∃ scopes, P key value scopes := by
  obtain ⟨entry, there, rfl⟩ := Option.map_eq_some_iff.1 found
  obtain ⟨scopes, _, holds⟩ := (h.entries key entry there).watched
  exact ⟨scopes, holds⟩

theorem mono (h : c.Watched P) (weaker : ∀ key value scopes, P key value scopes →
    Q key value scopes) : c.Watched Q := by
  refine ⟨fun key entry found => ?_, h.notices⟩
  obtain ⟨earlier, unnoticed, scopes, watches, holds⟩ := h.entries key entry found
  exact ⟨earlier, unnoticed, scopes, watches, weaker _ _ _ holds⟩

theorem alike (h : c.Watched P) (same : d.Alike c) : d.Watched P := by
  refine ⟨fun key entry found => ?_, ?_⟩
  · rw [same.entries] at found
    obtain ⟨earlier, unnoticed, watched⟩ := h.entries key entry found
    exact ⟨by rwa [same.generation], by rwa [same.notices], by rwa [same.index]⟩
  · rw [same.notices, same.generation]
    exact h.notices

/-- The notice of a value that leaves is about an earlier generation. -/
theorem noticesOf_earlier (h : c.Watched P) {key : String} {notice : Notice}
    (mem : notice ∈ c.notices ++ c.noticesOf key) : notice.generation < c.generation := by
  rcases List.mem_append.1 mem with old | new
  · exact h.notices notice old
  · obtain ⟨entry, found, rfl⟩ := mem_noticesOf.1 new
    exact (h.entries key entry found).earlier

theorem unnoticed_of_ne (h : c.Watched P) {key other : String} (ne : other ≠ key) {entry : Entry}
    (found : c.entries.get? key = some entry) :
    ⟨key, entry.generation⟩ ∉ c.notices ++ c.noticesOf other := by
  intro mem
  rcases List.mem_append.1 mem with old | new
  · exact (h.entries key entry found).unnoticed old
  · obtain ⟨_, _, same⟩ := mem_noticesOf.1 new
    exact ne (congrArg Notice.key same).symm

theorem remove (h : c.Watched P) (key : String) : (c.remove key).Watched P := by
  refine ⟨fun other entry found => ?_, fun notice mem => h.noticesOf_earlier mem⟩
  have ne : key ≠ other := by
    rintro rfl
    rw [Cache.remove, Dict.get?_erase_self] at found
    cases found
  rw [Cache.remove, Dict.get?_erase_of_ne _ ne] at found
  have tended := h.entries other entry found
  exact ⟨tended.earlier, h.unnoticed_of_ne ne found, tended.watched⟩

/-- What is put takes the place of what its key had, so nothing is asked of the earlier value. -/
theorem replace (h : c.Watched P) {key transaction : String} {models : NameSet} {value : Value}
    (others : ∀ other value scopes, other ≠ key → P other value scopes → Q other value scopes)
    (holds : Q key value (models.toList.map fun model => ⟨transaction, model⟩)) :
    (c.put key transaction models value).Watched Q := by
  refine ⟨fun other entry found => ?_, fun notice mem =>
    Nat.lt_succ_of_lt (h.noticesOf_earlier mem)⟩
  by_cases same : key = other
  · subst same
    rw [Cache.put, Dict.get?_insert_self] at found
    obtain rfl := Option.some.inj found
    -- The generation is new, so a notice that is on the way is about an earlier value of the key.
    refine ⟨Nat.lt_succ_self _, fun mem => ?_, _, Index.watches_record _ _ _ _ _, holds⟩
    exact Nat.lt_irrefl _ (h.noticesOf_earlier mem)
  · rw [Cache.put, Dict.get?_insert_of_ne _ same] at found
    have tended := h.entries other entry found
    obtain ⟨scopes, watches, holds⟩ := tended.watched
    exact ⟨Nat.lt_succ_of_lt tended.earlier, h.unnoticed_of_ne same found, scopes,
      watches.record same _ _ _, others _ _ _ (Ne.symm same) holds⟩

theorem put (h : c.Watched P) {key transaction : String} {models : NameSet} {value : Value}
    (holds : P key value (models.toList.map fun model => ⟨transaction, model⟩)) :
    (c.put key transaction models value).Watched P :=
  h.replace (fun _ _ _ _ holds => holds) holds

theorem deliver (h : c.Watched P) {notice : Notice} (pending : notice ∈ c.notices) :
    (c.deliver notice).Watched P := by
  refine ⟨fun key entry found => ?_, fun other mem => h.notices other (List.mem_of_mem_erase mem)⟩
  obtain ⟨earlier, unnoticed, scopes, watches, holds⟩ := h.entries key entry found
  refine ⟨earlier, fun mem => unnoticed (List.mem_of_mem_erase mem), scopes,
    watches.forgetGeneration fun same told => unnoticed ?_, holds⟩
  rw [← same, ← told]
  exact pending

theorem foldl_remove (h : c.Watched P) (keys : List String) :
    (keys.foldl Cache.remove c).Watched P := by
  induction keys generalizing c with
  | nil => exact h
  | cons key rest ih => exact ih (h.remove key)

end Watched

/-! Invalidation -/

theorem foldl_remove_index (keys : List String) (c : Cache) (index : Index) :
    keys.foldl remove { c with index } = { keys.foldl remove c with index } ∧
      (keys.foldl remove c).index = c.index := by
  induction keys generalizing c with
  | nil => exact ⟨rfl, rfl⟩
  | cons key rest ih => exact ih (c.remove key)

/-- What an invalidation leaves does not depend on the model. -/
theorem Watched.invalidate (h : c.Watched P) (transaction model : String) :
    (c.invalidate transaction model).Watched fun key value scopes =>
      P key value scopes ∧ ⟨transaction, model⟩ ∉ scopes := by
  obtain ⟨moved, kept⟩ := foldl_remove_index (c.index.take ⟨transaction, model⟩).1 c
    (c.index.take ⟨transaction, model⟩).2
  have without := h.foldl_remove (c.index.take ⟨transaction, model⟩).1
  change Watched _ ((c.index.take ⟨transaction, model⟩).1.foldl Cache.remove
    { c with index := (c.index.take ⟨transaction, model⟩).2 })
  -- The records are gone before the values are. As removing does not look at the index, the values
  -- can be taken to leave first, while everything is still watched.
  rw [moved]
  refine ⟨fun key entry found => ?_, without.notices⟩
  have stays : key ∉ (c.index.take ⟨transaction, model⟩).1 := by
    intro mem
    have gone := get?_foldl_remove _ c (.inl mem)
    exact Option.some_ne_none _ (found.symm.trans gone)
  obtain ⟨earlier, unnoticed, scopes, watches, holds⟩ := without.entries key entry found
  rw [kept] at watches
  obtain ⟨still, outside⟩ := watches.take stays
  exact ⟨earlier, unnoticed, scopes, still, holds, outside⟩

/-! Erosion -/

/-- What can become of a cache on its own: values leave, and notices are delivered, at any time and
in any order. -/
inductive Erodes (c : Cache) : Cache → Prop where
  | refl : Erodes c c
  | evict {d : Cache} (before : Erodes c d) (key : String) : Erodes c (d.remove key)
  | deliver {d : Cache} (before : Erodes c d) {notice : Notice} (pending : notice ∈ d.notices) :
      Erodes c (d.deliver notice)

namespace Erodes

theorem trans {b : Cache} (h : b.Erodes c) (h' : c.Erodes d) : b.Erodes d := by
  induction h' with
  | refl => exact h
  | evict _ key ih => exact ih.evict key
  | deliver _ pending ih => exact ih.deliver pending

theorem settings (h : c.Erodes d) : d.settings = c.settings := by
  induction h with
  | refl => rfl
  | evict _ _ ih => exact ih
  | deliver _ _ ih => exact ih

theorem watched (h : c.Erodes d) (watched : c.Watched P) : d.Watched P := by
  induction h with
  | refl => exact watched
  | evict _ key ih => exact ih.remove key
  | deliver _ pending ih => exact ih.deliver pending

theorem foldl_remove (keys : List String) (c : Cache) : c.Erodes (keys.foldl remove c) := by
  induction keys generalizing c with
  | nil => exact .refl
  | cons key rest ih => exact (Erodes.refl.evict key).trans (ih _)

theorem foldl_deliver (c : Cache) : c.Erodes (c.notices.foldl Cache.deliver c) := by
  generalize due : c.notices = notices
  induction notices generalizing c with
  | nil => exact .refl
  | cons notice rest ih =>
    have pending : notice ∈ c.notices := due ▸ List.mem_cons_self
    have left : (c.deliver notice).notices = rest := by simp [Cache.deliver, due]
    exact (Erodes.refl.deliver pending).trans (ih _ left)

/-- Expiry and the delivery of all notices are erosion. -/
theorem settle (c : Cache) : c.Erodes c.settle := by
  refine Erodes.trans (c := c.expire) ?_ (foldl_deliver c.expire)
  rw [expire]
  split
  · exact foldl_remove _ c
  · exact .refl

end Erodes

/-! Reading keeps what is cached. A call stores a value under a key that has none, and nothing
expires unless answers have no lifetime at all, in which case nothing has been kept. -/

section Retention
variable {b c d : Cache}

/-- Everything that is cached stays cached. -/
def Retains (c d : Cache) : Prop :=
  ∀ key entry, c.entries.get? key = some entry → d.entries.get? key = some entry

theorem Retains.refl (c : Cache) : c.Retains c := fun _ _ found => found

theorem Retains.trans (h : b.Retains c) (h' : c.Retains d) : b.Retains d :=
  fun key entry found => h' key entry (h key entry found)

theorem retains_of_entries (h : d.entries = c.entries) : c.Retains d := by
  intro key entry found
  rwa [h]

/-- Nothing is kept where answers have no lifetime. -/
def Lasting (c : Cache) : Prop := c.settings.lifetime = 0 → ∀ key, c.entries.get? key = none

/-- Delivering notices leaves the entries as they are. -/
theorem entries_settle (c : Cache) : c.settle.entries = c.expire.entries := by
  have delivered (notices : List Notice) (d : Cache) :
      (notices.foldl deliver d).entries = d.entries := by
    induction notices generalizing d with
    | nil => rfl
    | cons notice rest ih => exact ih _
  exact delivered _ _

theorem lasting_settle (c : Cache) : c.settle.Lasting := by
  intro brief key
  rw [(Erodes.settle c).settings] at brief
  rw [entries_settle, expire, if_pos brief]
  refine get?_foldl_remove _ c ?_
  cases found : c.entries.get? key with
  | none => exact .inr rfl
  | some entry => exact .inl (List.mem_map_of_mem (Entries.mem_of_get? found))

theorem Stores.retains {job : Job} {result : Except Error Value} (stores : Stores c job result d)
    (missing : ∀ key, c.keyOf job = some key → c.peek key = none) :
    d.settings = c.settings ∧ c.Retains d := by
  cases stores with
  | nothing same => exact ⟨same.settings, retains_of_entries same.entries⟩
  | @value own _ named _ same =>
    refine ⟨same.settings, fun key entry found => ?_⟩
    have ne : own ≠ key := by
      rintro rfl
      have absent := missing own named
      rw [peek, found] at absent
      cases absent
    rw [same.entries, put, Dict.get?_insert_of_ne _ ne]
    exact found

/-- A call by itself drops nothing from a cache. -/
theorem run_retains {σ : Type} (lasting : c.Lasting) (job : Job)
    (compute : σ → Except Error Value × σ) (s : σ) :
    c.Retains (c.run job compute s).2.1.settle := by
  have kept : (c.run job compute s).2.1.settings = c.settings ∧
      c.Retains (c.run job compute s).2.1 := by
    rcases run_spec c job compute s with ⟨_, _, _, _, d, ran, same⟩ | ⟨missing, d, ran, stores⟩
    · rw [ran]
      exact ⟨same.settings, retains_of_entries same.entries⟩
    · rw [ran]
      exact stores.retains missing
  by_cases lives : c.settings.lifetime = 0
  · intro key entry found
    rw [lasting lives key] at found
    cases found
  · refine kept.2.trans (retains_of_entries ?_)
    rw [entries_settle, expire, if_neg (by rwa [kept.1])]

end Retention

end GuardedQuery.Cache
