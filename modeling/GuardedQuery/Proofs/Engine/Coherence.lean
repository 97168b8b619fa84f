import GuardedQuery.Proofs.Engine.Standing
import GuardedQuery.Proofs.Engine.Transparency

/-! How long a cached value can stay behind the store. An invalidation takes every value with it
that is cached by then, so what is cached is current, or depends on a mutation that is under way,
unless it was put after the invalidation of a mutation that had written since it was computed, or
was computed within a transaction that was rolled back. Nothing removes the latter two. -/

namespace GuardedQuery

namespace Engine.Traffic
open List
variable {ι κ : Type} {t : Traffic ι κ} {e : Engine} {acts : List (Act ι κ)} {m m' : Moment ι κ}
  {a : Act ι κ} {i : ι} {j l : κ} {value : Value}

/-! The cache -/

/-- What calls have computed, as far as they have. -/
abbrev Results (ι : Type) := ι → Option (Except Error Value)

/-- A value that is cached or answered, as the call has computed it: where a mutation has written
since and has invalidated by the given steps, the value was put after that. -/
structure Stems (t : Traffic ι κ) (before acts : List (Act ι κ)) (results : Results ι) (i : ι)
    (value : Value) : Prop where
  computed : results i = some (.ok value)
  overtaken : ∀ j, t.Depends i j → [.compute i, .write j, .invalidate j] <+ before →
    Overtaken acts i j

/-- What is known of a cached value: the call that it stems from, under all of whose models it is
linked. -/
def Cached (t : Traffic ι κ) (acts : List (Act ι κ)) (results : Results ι) (key : String)
    (value : Value) (scopes : List Cache.Scope) : Prop :=
  ∃ i, (t.inquiry i).job.key = some key ∧ t.Stems acts acts results i value ∧
    ∀ j, t.Depends i j → ⟨t.transaction, (t.plan j).name⟩ ∈ scopes

/-- What is known of an answered call: its value stems from a call under the same key, or from
itself. Only what has happened before the call has looked counts. -/
def Answered (t : Traffic ι κ) (acts : List (Act ι κ)) (results : Results ι) (k : ι)
    (value : Value) : Prop :=
  ∃ i, (i = k ∨ (t.inquiry i).job.key = (t.inquiry k).job.key) ∧
    ∀ before, before ++ [.look k] <+: acts → t.Stems before acts results i value

/-- What holds of the cache and of all answers. -/
structure Kept (t : Traffic ι κ) (acts : List (Act ι κ)) (m : Moment ι κ) : Prop where
  watched : m.cache.Watched (t.Cached acts m.result)
  keyed : ∀ i key, (m.phase i).key? = some key → (t.inquiry i).job.key = some key
  answered : ∀ k value, m.phase k = .ended (.ok value) → t.Answered acts m.result k value

theorem sublist_of_concat (earlier : List (Act ι κ)) {b : Act ι κ}
    (order : earlier ++ [b] <+ acts ++ [a]) (ne : b ≠ a) : earlier ++ [b] <+ acts := by
  obtain ⟨first, last, split, before, after⟩ := List.sublist_append_iff.1 order
  rcases List.sublist_singleton.1 after with rfl | rfl
  · rwa [split, List.append_nil]
  · exact absurd (List.append_inj' split rfl).2 (by simpa using ne)

theorem sublist_of_looked {before : List (Act ι κ)} {b : Act ι κ}
    (looked : before ++ [b] <+: acts ++ [a]) : before <+ acts := by
  rcases List.prefix_concat_iff.1 looked with same | earlier
  · rw [(List.append_inj' same rfl).1]
  · exact ((List.prefix_append before [b]).trans earlier).sublist

variable {results results' : Results ι} {k : ι} {key : String}

/-- What has been computed stays so. -/
def Remembers (results results' : Results ι) : Prop :=
  ∀ i result, results i = some result → results' i = some result

theorem Remembers.refl (results : Results ι) : Remembers results results := fun _ _ there => there

theorem Stems.earlier {before : List (Act ι κ)} (h : t.Stems acts acts results i value)
    (order : before <+ acts) (a : Act ι κ) : t.Stems before (acts ++ [a]) results i value :=
  ⟨h.computed, fun j depends late => grow (h.overtaken j depends (late.trans order)) a⟩

/-- A cached value stays what it is, unless an invalidation reaches it. -/
theorem Cached.keep {scopes : List Cache.Scope} (h : t.Cached acts results key value scopes)
    (remembers : Remembers results results')
    (spared : ∀ j, a = .invalidate j → ⟨t.transaction, (t.plan j).name⟩ ∉ scopes) :
    t.Cached (acts ++ [a]) results' key value scopes := by
  obtain ⟨i, named, stems, linked⟩ := h
  refine ⟨i, named, ⟨remembers i _ stems.computed, fun j depends late => ?_⟩, linked⟩
  have ne : .invalidate j ≠ a := fun same => spared j same.symm (linked j depends)
  exact grow (stems.overtaken j depends (sublist_of_concat [_, _] late ne)) a

theorem watched_keep {c : Cache} (h : c.Watched (t.Cached acts results))
    (remembers : Remembers results results') (spares : ∀ j, a ≠ .invalidate j) :
    c.Watched (t.Cached (acts ++ [a]) results') :=
  h.mono fun _ _ _ cached => cached.keep remembers fun j same => absurd same (spares j)

theorem Answered.keep (h : t.Answered acts results k value)
    (remembers : Remembers results results') (other : a ≠ .look k) :
    t.Answered (acts ++ [a]) results' k value := by
  obtain ⟨i, own, stems⟩ := h
  refine ⟨i, own, fun before looked => ?_⟩
  rcases List.prefix_concat_iff.1 looked with same | earlier
  · exact absurd (List.append_inj' same rfl).2 (by simpa using Ne.symm other)
  · obtain ⟨computed, overtaken⟩ := stems before earlier
    exact ⟨remembers i _ computed, fun j depends late => grow (overtaken j depends late) a⟩

/-- An answer from the cache stems from where the cached value does. -/
theorem answered_of_peek {c : Cache} (h : c.Watched (t.Cached acts results))
    (named : (t.inquiry k).job.key = some key) (found : c.peek key = some value) (a : Act ι κ) :
    t.Answered (acts ++ [a]) results k value := by
  obtain ⟨_, i, own, stems, _⟩ := h.value found
  exact ⟨i, .inr (own.trans named.symm), fun before looked =>
    stems.earlier (sublist_of_looked looked) a⟩

namespace Kept

theorem start (s : Store) (settings : CacheSettings) : t.Kept [] (.start s settings) :=
  ⟨Cache.watched_ofSettings settings, nofun, nofun⟩

/-- Steps that no call takes. -/
theorem keep (h : t.Kept acts m) (phase : m'.phase = m.phase)
    (remembers : Remembers m.result m'.result) (other : ∀ k, a ≠ .look k)
    (watched : m'.cache.Watched (t.Cached (acts ++ [a]) m'.result)) : t.Kept (acts ++ [a]) m' :=
  ⟨watched, fun i key held => h.keyed i key (phase ▸ held), fun k value ended =>
    (h.answered k value (phase ▸ ended)).keep remembers (other k)⟩

variable [DecidableEq ι]

theorem call {next : Cache.Phase × Cache} (h : t.Kept acts m) (other : ∀ k ≠ i, a ≠ .look k)
    (keyed : ∀ key, next.1.key? = some key → (t.inquiry i).job.key = some key)
    (answered : ∀ value, next.1 = .ended (.ok value) →
      t.Answered (acts ++ [a]) m.result i value)
    (watched : next.2.Watched (t.Cached (acts ++ [a]) m.result)) :
    t.Kept (acts ++ [a]) (m.call i next) := by
  refine ⟨watched, fun k key held => ?_, fun k value ended => ?_⟩ <;> by_cases same : k = i
  · subst same
    rw [Moment.call_phase_self] at held
    exact keyed key held
  · rw [Moment.call_phase_of_ne same] at held
    exact h.keyed k key held
  · subst same
    rw [Moment.call_phase_self] at ended
    exact answered value ended
  · rw [Moment.call_phase_of_ne same] at ended
    exact (h.answered k value ended).keep (.refl _) (other k same)

/-- Steps of a call that looks for its answer. -/
theorem follow {next : Cache.Phase × Cache} {held : Option String} (h : t.Kept acts m)
    (other : ∀ k ≠ i, a ≠ .look k) (spares : ∀ j, a ≠ .invalidate j)
    (own : ∀ key, held = some key → (t.inquiry i).job.key = some key)
    (step : m.cache.Follows held next.1 ∧ next.2.Alike m.cache) :
    t.Kept (acts ++ [a]) (m.call i next) := by
  refine h.call other (fun key there => own key (step.1.holds key there)) (fun value ended => ?_)
    ((watched_keep h.watched (.refl _) spares).alike step.2)
  obtain ⟨key, there, found⟩ := step.1.answer value ended
  exact answered_of_peek h.watched (own key there) found a

theorem finish (h : t.Kept acts m) (serves : t.Serves e) {result : Except Error Value}
    (computes : (m.phase i).computes = true) (computed : m.result i = some result) :
    t.Kept (acts ++ [.finish i])
      (m.call i (m.cache.finish (t.inquiry i).job result (m.phase i))) := by
  obtain ⟨ends, puts⟩ := m.cache.finish_puts (t.inquiry i).job result computes
  have kept : m.cache.Watched (t.Cached (acts ++ [.finish i]) m.result) :=
    watched_keep h.watched (.refl _) nofun
  -- Whatever has overtaken the call before, it puts its value now.
  have stems {value : Value} {before : List (Act ι κ)} (made : result = .ok value)
      (order : ∀ j, [.compute i, .write j, .invalidate j] <+ before →
        [.compute i, .write j, .invalidate j] <+ acts) :
      t.Stems before (acts ++ [.finish i]) m.result i value :=
    ⟨made ▸ computed, fun j _ late => then_act (order j late) (.finish i)⟩
  refine h.call nofun (fun key held => ?_) (fun value ended => ?_) ?_
  · rw [ends] at held
    cases held
  · rw [ends] at ended
    refine ⟨i, .inl rfl, fun before looked => stems ?_ fun j late => ?_⟩
    · simpa using ended
    · exact late.trans (sublist_of_looked looked)
  · rcases puts with alike | ⟨key, value, held, made, alike⟩
    · exact kept.alike alike
    · refine (kept.put
        ⟨i, h.keyed i key held, stems made fun j late => ?_, fun j depends => ?_⟩).alike
        alike
      · exact sublist_of_concat [_, _] late nofun
      · rw [serves.job_transaction]
        exact List.mem_map.2 ⟨_, depends, rfl⟩

theorem takes [DecidableEq κ] (serves : t.Serves e) (h : t.Kept acts m)
    (taken : t.Takes m a m') : t.Kept (acts ++ [a]) m' := by
  have same (spares : ∀ j, a ≠ .invalidate j) : m.cache.Watched (t.Cached (acts ++ [a]) m.result) :=
    watched_keep h.watched (.refl _) spares
  cases taken with
  | @look i fresh =>
    refine h.follow ?_ nofun (fun key named => ?_) (m.cache.look_follows (t.inquiry i).job)
    · rintro k ne ⟨⟩
      exact ne rfl
    · exact Cache.keyOf_eq_some named
  | claim missed =>
    refine h.follow nofun nofun (fun key same => ?_) (m.cache.claim_follows _)
    exact h.keyed _ key (by rw [missed]; exact same)
  | wake waiting =>
    refine h.follow nofun nofun (fun key same => ?_) (m.cache.wake_follows _ _)
    exact h.keyed _ key (by rw [waiting]; exact same)
  | giveUp waiting =>
    refine h.follow nofun nofun (fun key same => ?_) ⟨⟨fun key held => held, nofun⟩, .refl _⟩
    exact h.keyed _ key (by rw [waiting]; exact same)
  | @compute i computes new =>
    have remembers :
        Remembers m.result (m.compute i ((t.inquiry i).script.run m.store).1).result := by
      intro k result there
      rw [Moment.compute_result_of_ne, there]
      rintro rfl
      rw [new] at there
      cases there
    exact h.keep rfl remembers nofun (watched_keep h.watched remembers nofun)
  | finish computes computed => exact h.finish serves computes computed
  | @drop i =>
    obtain ⟨ended | dropped, alike⟩ := m.cache.drop_alike (m.phase i)
    · refine h.call nofun (fun key held => ?_) (fun value answer => ?_) ((same nofun).alike alike)
      · exact h.keyed i key (ended ▸ held)
      · exact (h.answered i value (ended ▸ answer)).keep (.refl _) nofun
    · refine h.call nofun (fun key held => ?_) (fun value answer => ?_) ((same nofun).alike alike)
      · rw [dropped] at held
        cases held
      · rw [dropped] at answer
        cases answer
  | begin | write | commit | rollback => exact h.keep rfl (.refl _) nofun (same nofun)
  | @invalidate j due =>
    refine h.keep rfl (.refl _) nofun ((h.watched.invalidate _ _).mono ?_)
    rintro key value scopes ⟨cached, unlinked⟩
    refine cached.keep (.refl _) ?_
    rintro l ⟨⟩
    exact unlinked
  | evict => exact h.keep rfl (.refl _) nofun ((same nofun).remove _)
  | deliver pending => exact h.keep rfl (.refl _) nofun ((same nofun).deliver pending)

end Kept

variable [DecidableEq ι] [DecidableEq κ]

theorem stored_and_kept {s : Store} {settings : CacheSettings} (serves : t.Serves e)
    (framed : t.Framed e.catalog) (same : s.catalog = e.catalog) (saved : s.saved = none)
    (ran : t.run (.start s settings) acts = some m) : t.Stored e.catalog acts m ∧ t.Kept acts m := by
  refine run_induction (P := fun acts m => t.Stored e.catalog acts m ∧ t.Kept acts m) ?_ ?_ ran
  · exact ⟨same ▸ .start saved settings, .start s settings⟩
  · rintro acts m a m' ⟨stored, kept⟩ taken
    exact ⟨stored.takes framed serves taken, kept.takes serves taken⟩

/-- However calls and mutations are interleaved, a cached value is what its call comes to at
present, or the call depends on a mutation that is still under way, that has overtaken the call, or
that was rolled back after the call had computed. And a call that looks after an invalidation is not
answered with a value from before the write, unless its computation was overtaken. -/
theorem stale_values_are_overtaken_or_unsettled (t : Traffic ι κ) (e : Engine)
    (serves : t.Serves e) (keys : e.catalog.PlainKeys) (relations : e.catalog.PlainRelations)
    (s : Store) (settings : CacheSettings) (same : s.catalog = e.catalog) (saved : s.saved = none)
    (acts : List (Act ι κ)) (m : Moment ι κ) (ran : t.run (.start s settings) acts = some m) :
    (∀ key value, m.cache.peek key = some value →
      ∃ i, (t.inquiry i).job.key = some key ∧ m.result i = some (.ok value) ∧
        (t.Current m.store i value ∨ ∃ j, t.Depends i j ∧
          ((m.stage j).isUnderWay = true ∨ Overtaken acts i j ∨ Unsettled acts i j))) ∧
    ∀ before after k value, acts = before ++ .look k :: after →
      m.phase k = .ended (.ok value) →
      ∃ i, (i = k ∨ (t.inquiry i).job.key = (t.inquiry k).job.key) ∧
        m.result i = some (.ok value) ∧ ∀ j, t.Depends i j →
          [.compute i, .write j, .invalidate j] <+ before → Overtaken acts i j := by
  obtain ⟨stored, kept⟩ := stored_and_kept serves (serves.framed keys relations) same saved ran
  refine ⟨fun key value found => ?_, fun before after k value split ended => ?_⟩
  · obtain ⟨_, i, named, stems, _⟩ := kept.watched.value found
    refine ⟨i, named, stems.computed, ?_⟩
    cases stored.standing i value stems.computed with
    | current _ now => exact .inl now
    | @before j _ wrote depends | @during j _ wrote depends =>
      exact .inr ⟨j, depends, .inl (by rw [wrote]; rfl)⟩
    | @due j due depends => exact .inr ⟨j, depends, .inl (by rw [due]; rfl)⟩
    | @late j depends order => exact .inr ⟨j, depends, .inr (.inl (stems.overtaken j depends order))⟩
    | @unsettled j depends unsettled => exact .inr ⟨j, depends, .inr (.inr unsettled)⟩
  · obtain ⟨i, own, stems⟩ := kept.answered k value ended
    have looked : before ++ [.look k] <+: acts :=
      ⟨after, by rw [split, List.append_assoc, List.singleton_append]⟩
    exact ⟨i, own, (stems before looked).computed, (stems before looked).overtaken⟩

end Engine.Traffic

/-! A list of items, and an update of all of them -/

namespace Stock
open Engine

def planOf (q : Query) : Plan where
  access := engine.accessOf guest
  model := item
  name := "item"
  query := q
  selection := item.scope guest (.ofModel "item")
  depth := 0
  outline := .ofList [("item", .ofList ["amount", "former", "id"])]

def list : Query := .plain .read

/-- Sets the amount of every item. -/
def restock : Query := { Query.plain .update with data := some (.obj [("amount", .int 7)]) }

theorem planOf_list : engine.planOf ⟨"item", list, guest⟩ = .ok (planOf list) := rfl

theorem planOf_restock : engine.planOf ⟨"item", restock, guest⟩ = .ok (planOf restock) := rfl

theorem planOf_remember : engine.planOf ⟨"item", remember, guest⟩ = .ok (planOf remember) := rfl

def inquiry : Inquiry :=
  match (planOf list).listInquiry none with
  | .ok made => made
  | .error _ => ⟨⟨none, "", .empty⟩, .done (.ok .null)⟩

theorem listInquiry_eq : (planOf list).listInquiry none = .ok inquiry := by
  have made : ((planOf list).listInquiry none).isOk = true := by decide +kernel
  unfold inquiry
  split
  · assumption
  · rename_i failed
    rw [failed] at made
    cases made

/-- Two calls for the list of all items, and one update. -/
def traffic (update : Query) : Traffic (Fin 2) (Fin 1) :=
  ⟨"t", fun _ => inquiry, fun _ => planOf update, fun _ => (planOf update).update⟩

theorem traffic_serves {update : Query} (updates : update.operation = .update)
    (planned : engine.planOf ⟨"item", update, guest⟩ = .ok (planOf update)) :
    (traffic update).Serves engine := by
  refine ⟨fun i => ⟨_, _, _, rfl, planOf_list, .list rfl rfl listInquiry_eq⟩, fun j => ?_⟩
  refine ⟨_, rfl, planned, ?_⟩
  have op : ((traffic update).plan j).query.operation = .update := updates
  simp only [handling, op]
  rfl

theorem plainKeys : engine.catalog.PlainKeys := Catalog.plainKeys_of_kinds (by decide +kernel)

theorem plainRelations : engine.catalog.PlainRelations :=
  Catalog.plainRelations_of_names (by decide +kernel)

instance (m : Moment (Fin 2) (Fin 1)) : Decidable m.Quiet :=
  inferInstanceAs (Decidable ((∀ _, _) ∧ ∀ _, _))

/-- The amounts and the former amounts that a list of items shows. -/
def columns (list : Value) : List (String × String) :=
  (list.arr?.getD []).map fun item =>
    (((item.field? "amount").getD .null).text, ((item.field? "former").getD .null).text)

/-- What is shown by the cached list, by the list as it is at present, and by the one that the
second call is answered. -/
def shown (m : Moment (Fin 2) (Fin 1)) : List (Option (List (String × String))) :=
  [(inquiry.job.key.bind m.cache.peek).map columns,
    (inquiry.script.run m.store).1.toOption.map columns,
    ((m.phase 1).outcome?.bind Except.toOption).map columns]

/-- All is quiet, and still the cached list is not what it comes to at present, nor is the one that
the second call is answered. -/
def Stale (m : Moment (Fin 2) (Fin 1)) : Prop :=
  m.Quiet ∧ ∃ key value answer, inquiry.job.key = some key ∧ m.cache.peek key = some value ∧
    m.phase 1 = .ended (.ok answer) ∧ (inquiry.script.run m.store).1 ≠ .ok value ∧
    (inquiry.script.run m.store).1 ≠ .ok answer

theorem ended_of_outcome? {phase : Cache.Phase} {value : Value}
    (outcome : phase.outcome?.bind Except.toOption = some value) : phase = .ended (.ok value) := by
  match phase with
  | .ended (.ok answer) =>
    obtain rfl : answer = value := Option.some.inj outcome
    rfl
  | .ended (.error _) | .fresh | .apart | .missed _ | .leading _ | .waiting .. | .alone _
  | .dropped => cases outcome

theorem stale_of_shown {run : Option (Moment (Fin 2) (Fin 1))}
    {cached present : List (String × String)}
    (seen : run.map (fun m => (decide m.Quiet, shown m)) =
      some (true, [some cached, some present, some cached])) (differ : present ≠ cached) :
    ∃ m, run = some m ∧ Stale m := by
  simp only [shown, Option.map_eq_some_iff, Prod.mk.injEq, decide_eq_true_eq, List.cons.injEq,
    and_true] at seen
  obtain ⟨m, rfl, quiet, ⟨value, kept, here⟩, ⟨list, now, there⟩, answer, answered, elsewhere⟩ :=
    seen
  obtain ⟨key, named, found⟩ := Option.bind_eq_some_iff.1 kept
  have stale {other : Value} (shows : columns other = cached) :
      (inquiry.script.run m.store).1 ≠ .ok other := by
    intro same
    rw [same] at now
    obtain rfl := Option.some.inj now
    exact differ (there.symm.trans shows)
  exact ⟨m, rfl, quiet, key, value, answer, named, found, ended_of_outcome? answered, stale here,
    stale elsewhere⟩

/-- The list is computed before the update and put after its invalidation. -/
def overtaken : List (Act (Fin 2) (Fin 1)) :=
  [.look 0, .claim 0, .compute 0, .begin 0, .write 0, .commit 0, .invalidate 0, .finish 0, .look 1]

/-- The list is computed and put while the first item has been updated; at the second one the
update fails and is rolled back. -/
def unsettled : List (Act (Fin 2) (Fin 1)) :=
  [.begin 0, .write 0, .look 0, .claim 0, .compute 0, .finish 0, .rollback 0, .look 1]

/-- Nothing is in progress any more, but a list from before an update is cached, and so is one that
shows an update that was rolled back; a call that looks only now is answered with it. -/
theorem quiet_caches_can_be_stale :
    (traffic restock).Serves engine ∧ (traffic remember).Serves engine ∧
    engine.catalog.PlainKeys ∧ engine.catalog.PlainRelations ∧
    items.catalog = engine.catalog ∧ items.saved = none ∧
    (∃ m, (traffic restock).run (.start items .default) overtaken = some m ∧ Stale m) ∧
    ∃ m, (traffic remember).run (.start items .default) unsettled = some m ∧ Stale m := by
  have before : ((traffic restock).run (.start items .default) overtaken).map
      (fun m => (decide m.Quiet, shown m)) = some (true,
        [some [("5", "null"), ("\"many\"", "null")], some [("7", "null"), ("7", "null")],
          some [("5", "null"), ("\"many\"", "null")]]) := by decide +kernel
  have within : ((traffic remember).run (.start items .default) unsettled).map
      (fun m => (decide m.Quiet, shown m)) = some (true,
        [some [("5", "5"), ("\"many\"", "null")], some [("5", "null"), ("\"many\"", "null")],
          some [("5", "5"), ("\"many\"", "null")]]) := by decide +kernel
  exact ⟨traffic_serves rfl planOf_restock, traffic_serves rfl planOf_remember, plainKeys,
    plainRelations, rfl, rfl, stale_of_shown before (by decide), stale_of_shown within (by decide)⟩

/-- The list is computed, put and invalidated, and computed again. -/
def renewed : List (Act (Fin 2) (Fin 1)) :=
  [.look 0, .claim 0, .compute 0, .finish 0, .begin 0, .write 0, .commit 0, .invalidate 0,
    .look 1, .claim 1, .compute 1, .finish 1]

/-- The second list is what the items come to at present. -/
theorem renewed_list_is_current :
    ∃ m key value, (traffic restock).run (.start items .default) renewed = some m ∧ m.Quiet ∧
      m.cache.peek key = some value ∧ (inquiry.script.run m.store).1 = .ok value := by
  have seen : ((traffic restock).run (.start items .default) renewed).map (fun m =>
      decide m.Quiet && (inquiry.job.key.bind m.cache.peek).isSome) = some true := by decide +kernel
  obtain ⟨m, ran, seen⟩ := Option.map_eq_some_iff.1 seen
  obtain ⟨quiet, kept⟩ : m.Quiet ∧ (inquiry.job.key.bind m.cache.peek).isSome = true := by
    simpa using seen
  obtain ⟨value, kept⟩ := Option.isSome_iff_exists.1 kept
  obtain ⟨key, _, found⟩ := Option.bind_eq_some_iff.1 kept
  have coherent := Traffic.stale_values_are_overtaken_or_unsettled (traffic restock) engine
    (traffic_serves rfl planOf_restock) plainKeys plainRelations items .default rfl rfl renewed m ran
  obtain ⟨i, _, _, current | ⟨j, _, under | late | early⟩⟩ := coherent.1 key value found
  · exact ⟨m, key, value, ran, quiet, found, current⟩
  · rw [quiet.2 j] at under
    cases under
  · have never : ∀ i j, ¬ Traffic.Overtaken renewed i j := by
      unfold Traffic.Overtaken
      decide
    exact absurd late (never i j)
  · have never : ∀ i j, ¬ Traffic.Unsettled renewed i j := by
      unfold Traffic.Unsettled
      decide
    exact absurd early (never i j)

end Stock

end GuardedQuery
