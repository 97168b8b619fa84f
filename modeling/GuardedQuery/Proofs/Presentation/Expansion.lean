import GuardedQuery.Proofs.Presentation.Routes
import Mathlib.Data.Finset.Card
import Mathlib.Data.Finset.SDiff

/-! Outlines from a queue. Models are taken from a queue together with the level they were reached
at, each such stop at most once, and what they lead to goes to the end of the queue. This comes to
an end however the relations go round, with the outline that spreads level by level: the models
within reach of the root, each with all its permitted fields. -/

namespace GuardedQuery

/-- A model together with the level that it is reached at. -/
structure Stop where
  model : String
  level : Nat
  deriving DecidableEq

namespace Access
variable {a : Access} {use : FieldUse} {depth : Nat} {root : String}

/-- Where a stop leads to, unless the depth is reached. -/
def behind (a : Access) (use : FieldUse) (depth : Nat) (stop : Stop) : List Stop :=
  if stop.level < depth then (a.nextModels use stop.model).map (⟨·, stop.level + 1⟩) else []

/-- The stops that lead on and have not been seen yet. -/
def unseen (a : Access) (depth : Nat) (seen : List Stop) : Finset Stop :=
  (a.catalog.names.flatMap fun name => (List.range depth).map (Stop.mk name)).toFinset \
    seen.toFinset

theorem mem_behind_iff {stop next : Stop} :
    next ∈ a.behind use depth stop ↔ stop.level < depth ∧ next.level = stop.level + 1 ∧
      ∃ segment, a.Relates use stop.model segment next.model := by
  obtain ⟨model, level⟩ := next
  rw [behind]
  split
  · rename_i deeper
    simp only [List.mem_map, Stop.mk.injEq, mem_nextModels_iff, deeper, true_and]
    constructor
    · rintro ⟨_, leads, rfl, rfl⟩
      exact ⟨rfl, leads⟩
    · rintro ⟨rfl, leads⟩
      exact ⟨model, leads, rfl, rfl⟩
  · rename_i last
    simp [last]

theorem unseen_cons (seen : List Stop) (stop : Stop) :
    a.unseen depth (stop :: seen) = (a.unseen depth seen).erase stop := by
  rw [unseen, unseen, List.toFinset_cons, Finset.sdiff_insert]

theorem mem_unseen {seen : List Stop} {stop next : Stop} (fresh : stop ∉ seen)
    (leads : next ∈ a.behind use depth stop) : stop ∈ a.unseen depth seen := by
  obtain ⟨deeper, -, segment, m, found, -⟩ := mem_behind_iff.1 leads
  have named : stop.model ∈ a.catalog.names := List.mem_map_of_mem (Entries.mem_of_get? found)
  rw [unseen, Finset.mem_sdiff, List.mem_toFinset, List.mem_toFinset]
  exact ⟨List.mem_flatMap.2 ⟨_, named, List.mem_map_of_mem (List.mem_range.2 deeper)⟩, fresh⟩

/-- Takes stops from a queue and passes those that have been seen. -/
def expand (a : Access) (use : FieldUse) (depth : Nat) :
    List Stop → List Stop → Outline → Outline
  | [], _, o => o
  | stop :: queue, seen, o =>
    if stop ∈ seen then a.expand use depth queue seen o
    else
      a.expand use depth (queue ++ a.behind use depth stop) (stop :: seen)
        (a.record use o stop.model)
  termination_by queue seen => ((a.unseen depth seen).card, queue.length)
  decreasing_by
  · exact .right _ (Nat.lt_succ_self _)
  · rename_i fresh
    rw [unseen_cons]
    cases leads : a.behind use depth stop with
    | nil =>
      -- the queue gets shorter
      rw [List.append_nil]
      have fewer := Finset.card_erase_le (s := a.unseen depth seen) (a := stop)
      exact Prod.lex_iff.2 (fewer.lt_or_eq.imp_right fun same => ⟨same, Nat.lt_succ_self _⟩)
    | cons next others =>
      have mem : stop ∈ a.unseen depth seen := mem_unseen fresh (leads ▸ List.mem_cons_self)
      exact .left _ _ (Finset.card_erase_lt_of_mem mem)

/-! What the queue keeps -/

/-- Every stop is reached by a route as long as its level; what has been seen is recorded, and what
it leads to is seen or waits in the queue. -/
structure Searched (a : Access) (use : FieldUse) (depth : Nat) (root : String)
    (queue seen : List Stop) (o : Outline) : Prop where
  begun : ⟨root, 0⟩ ∈ queue ∨ ⟨root, 0⟩ ∈ seen
  reached : ∀ stop, stop ∈ queue ∨ stop ∈ seen →
    stop.level ≤ depth ∧ ∃ path, path.length = stop.level ∧ a.Route use root path stop.model
  onward : ∀ stop ∈ seen, ∀ next ∈ a.behind use depth stop, next ∈ queue ∨ next ∈ seen
  recorded : ∀ model names, o.get? model = some names ↔
    (∃ level, ⟨model, level⟩ ∈ seen) ∧ names.isEmpty = false ∧ names = a.fieldsOf use model

namespace Searched
variable {queue seen : List Stop} {stop : Stop} {o : Outline}

theorem start : a.Searched use depth root [⟨root, 0⟩] [] .empty where
  begun := .inl List.mem_cons_self
  reached stop mem := by
    obtain rfl : stop = ⟨root, 0⟩ := by simpa using mem
    exact ⟨Nat.zero_le depth, [], rfl, .here root⟩
  onward := nofun
  recorded := by simp

/-- A stop that has been seen is passed. -/
theorem skip (h : a.Searched use depth root (stop :: queue) seen o) (known : stop ∈ seen) :
    a.Searched use depth root queue seen o := by
  have kept {other : Stop} (mem : other ∈ stop :: queue ∨ other ∈ seen) :
      other ∈ queue ∨ other ∈ seen := by
    rcases mem with mem | mem
    · rcases List.mem_cons.1 mem with rfl | mem
      · exact .inr known
      · exact .inl mem
    · exact .inr mem
  exact ⟨kept h.begun, fun other mem => h.reached other (mem.imp_left (List.mem_cons_of_mem _)),
    fun other mem next leads => kept (h.onward other mem next leads), h.recorded⟩

/-- A stop that has not been seen is recorded, and what it leads to goes to the queue. -/
theorem visit (h : a.Searched use depth root (stop :: queue) seen o) :
    a.Searched use depth root (queue ++ a.behind use depth stop) (stop :: seen)
      (a.record use o stop.model) := by
  have kept {other : Stop} (mem : other ∈ stop :: queue ∨ other ∈ seen) :
      other ∈ queue ++ a.behind use depth stop ∨ other ∈ stop :: seen := by
    simp only [List.mem_cons, List.mem_append] at mem ⊢
    tauto
  obtain ⟨-, here, long, route⟩ := h.reached stop (.inl List.mem_cons_self)
  refine ⟨kept h.begun, fun other mem => ?_, fun other mem next leads => ?_, fun model names => ?_⟩
  · have cases : other ∈ a.behind use depth stop ∨ other ∈ stop :: queue ∨ other ∈ seen := by
      simp only [List.mem_cons, List.mem_append] at mem ⊢
      tauto
    rcases cases with behind | mem
    · obtain ⟨deeper, level, segment, leads⟩ := mem_behind_iff.1 behind
      exact ⟨level ▸ deeper, here ++ [segment], by simp [long, level], route.append leads⟩
    · exact h.reached other mem
  · rcases List.mem_cons.1 mem with rfl | mem
    · exact .inl (List.mem_append_right _ leads)
    · exact kept (h.onward other mem next leads)
  · by_cases same : stop.model = model
    · subst same
      have listed : ∃ level, ⟨stop.model, level⟩ ∈ stop :: seen :=
        ⟨stop.level, List.mem_cons_self⟩
      rw [get?_record_self, noted]
      split
      · rename_i void
        rw [h.recorded]
        constructor
        · rintro ⟨-, rest⟩
          exact ⟨listed, rest⟩
        · rintro ⟨-, some, rfl⟩
          exact absurd void (by simp [some])
      · rename_i some
        constructor
        · rintro ⟨⟩
          exact ⟨listed, by simpa using some, rfl⟩
        · rintro ⟨-, -, rfl⟩
          rfl
    · have other (level : Nat) : (⟨model, level⟩ : Stop) ≠ stop := fun e => same (e ▸ rfl)
      rw [get?_record_of_ne same, h.recorded]
      simp only [List.mem_cons, other, false_or]

/-- Routes that start at a stop that has been seen end at such stops, once the queue is empty. -/
theorem mem_seen_of_route (h : a.Searched use depth root [] seen o) {first last : String}
    {path : List String} (route : a.Route use first path last) {level : Nat}
    (known : ⟨first, level⟩ ∈ seen) (short : level + path.length ≤ depth) :
    ⟨last, level + path.length⟩ ∈ seen := by
  induction route generalizing level with
  | here => exact known
  | @onward model segment next last names leads _ ih =>
    rw [List.length_cons] at short
    have waiting : ⟨next, level + 1⟩ ∈ a.behind use depth ⟨model, level⟩ :=
      mem_behind_iff.2 ⟨by simp only; omega, rfl, segment, leads⟩
    have there := (h.onward _ known _ waiting).resolve_left List.not_mem_nil
    have ended := ih there (by omega)
    rwa [List.length_cons, Nat.add_comm names.length 1, ← Nat.add_assoc]

/-- What is recorded once the queue is empty. -/
theorem done (h : a.Searched use depth root [] seen o) (model : String) (names : NameSet) :
    o.get? model = some names ↔
      (∃ path, path.length ≤ depth ∧ a.Route use root path model) ∧
        names.isEmpty = false ∧ names = a.fieldsOf use model := by
  rw [h.recorded]
  refine and_congr_left fun _ => ⟨?_, ?_⟩
  · rintro ⟨level, mem⟩
    obtain ⟨within, path, long, route⟩ := h.reached _ (.inr mem)
    exact ⟨path, long.trans_le within, route⟩
  · rintro ⟨path, short, route⟩
    have begun := h.begun.resolve_left List.not_mem_nil
    exact ⟨_, h.mem_seen_of_route route begun (by omega)⟩

end Searched

/-- The queue is worked off in the end. -/
theorem searched_expand {queue seen : List Stop} {o : Outline}
    (h : a.Searched use depth root queue seen o) :
    ∃ seen', a.Searched use depth root [] seen' (a.expand use depth queue seen o) := by
  fun_induction expand a use depth queue seen o with
  | case1 seen o => exact ⟨seen, h⟩
  | case2 seen o stop queue known ih => exact ih (h.skip known)
  | case3 seen o stop queue _ ih => exact ih h.visit

theorem get?_expand (use : FieldUse) (depth : Nat) (root model : String) (names : NameSet) :
    (a.expand use depth [⟨root, 0⟩] [] .empty).get? model = some names ↔
      (∃ path, path.length ≤ depth ∧ a.Route use root path model) ∧
        names.isEmpty = false ∧ names = a.fieldsOf use model := by
  obtain ⟨seen, searched⟩ := searched_expand (@Searched.start a use depth root)
  exact searched.done model names

theorem fields_ok_iff {model : String} {names : NameSet} (some : names.isEmpty = false) :
    a.fields model use = .ok names ↔ names = a.fieldsOf use model := by
  rw [fields, fieldsOf, Catalog.get]
  cases a.catalog.model? model with
  | none =>
    constructor
    · rintro ⟨⟩
    · rintro rfl
      cases some
  | some m => exact Checks.pure_ok_iff.trans eq_comm

theorem nearby_root_iff {model : String} :
    a.Nearby use (.ofList [root]) depth model ↔
      ∃ path, path.length ≤ depth ∧ a.Route use root path model := by
  simp [Nearby]

/-- The queue comes to the outline that spreads level by level. -/
theorem outline_eq_expand {m : Model} (known : a.catalog.model? root = some m) (depth : Nat) :
    a.outline root use depth [] =
      .ok (a.expand use (min depth a.rules.maxDepth) [⟨root, 0⟩] [] .empty) := by
  obtain ⟨whole, spread, recorded⟩ := @outline_whole a use root m known depth
  rw [spread]
  refine congrArg Except.ok (Dict.ext_get? fun model => Option.ext fun names => ?_)
  rw [get?_expand, recorded, nearby_root_iff]

/-- The outline of a root without requested paths is what a queue of stops comes to, and records
exactly the models that permitted relations lead to within the depth, each with all its permitted
fields, and those without any not at all. It grows with the depth. -/
theorem outline_is_bounded_reach {m : Model} (known : a.catalog.model? root = some m)
    (use : FieldUse) (depth : Nat) :
    ∃ whole, a.outline root use depth [] = .ok whole ∧
      a.expand use (min depth a.rules.maxDepth) [⟨root, 0⟩] [] .empty = whole ∧
      (∀ model names, whole.get? model = some names ↔
        a.fields model use = .ok names ∧ names.isEmpty = false ∧
          ∃ path, path.length ≤ min depth a.rules.maxDepth ∧ a.Route use root path model) ∧
      ∀ further, depth ≤ further → ∃ wider, a.outline root use further [] = .ok wider ∧
        ∀ model names, whole.get? model = some names → wider.get? model = some names := by
  obtain ⟨whole, spread, recorded⟩ := @outline_whole a use root m known depth
  refine ⟨whole, spread, Except.ok.inj ((outline_eq_expand known depth).symm.trans spread),
    fun model names => ?_, fun further deeper => ?_⟩
  · rw [recorded, nearby_root_iff]
    constructor
    · rintro ⟨near, some, same⟩
      exact ⟨(fields_ok_iff some).2 same, some, near⟩
    · rintro ⟨same, some, near⟩
      exact ⟨near, some, (fields_ok_iff some).1 same⟩
  · obtain ⟨wider, spreadWider, recordedWider⟩ := @outline_whole a use root m known further
    refine ⟨wider, spreadWider, fun model names found => ?_⟩
    obtain ⟨⟨start, mem, path, short, route⟩, same⟩ := (recorded model names).1 found
    exact (recordedWider model names).2 ⟨⟨start, mem, path, by omega, route⟩, same⟩

end Access

/-- The boss of a person is a person, so the queue never runs out of models that lead on. -/
theorem Bosses.persons_within_reach :
    access.catalog.model? "task" = some task ∧
    ∃ whole, access.outline "task" .read 3 [] = .ok whole ∧
      access.expand .read 3 [⟨"task", 0⟩] [] .empty = whole ∧
      whole.get? "person" = some (.ofList ["boss", "id"]) := by
  have known : access.catalog.model? "task" = some task := rfl
  obtain ⟨whole, spread, expanded, recorded, -⟩ :=
    Access.outline_is_bounded_reach known .read 3
  refine ⟨known, whole, spread, expanded, (recorded "person" _).2 ⟨rfl, rfl, ["owner"], ?_, ?_⟩⟩
  · decide
  · exact .onward owner_leads (.here "person")

end GuardedQuery
