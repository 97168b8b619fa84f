import GuardedQuery.Proofs.Engine.Dependencies
import GuardedQuery.Proofs.Engine.Interleavings
import GuardedQuery.Proofs.Store.Rollback
import GuardedQuery.Proofs.Writing.Outcomes
import GuardedQuery.Proofs.Writing.Reach

/-! How what calls have computed stands to the store while mutations go on. A computed value is what
its inquiry comes to at present; or a mutation of a model that it depends on is open or waits for its
invalidation; or such a mutation has written since and has invalidated already, or had written
before and was rolled back. Nothing is said here of what is cached. -/

namespace GuardedQuery

namespace Engine.Traffic
open List
variable {ι κ : Type}

/-! What moves -/

/-- The calls are inquiries that requests of the transaction come to make, and the mutations are
requests of it that write. -/
structure Serves (t : Traffic ι κ) (e : Engine) : Prop where
  calls : ∀ i, ∃ d p subject, d.request.transaction = some t.transaction ∧
    e.planOf d = .ok p ∧ e.Asks p (t.inquiry i) subject
  mutations : ∀ j, ∃ d, d.request.transaction = some t.transaction ∧
    e.planOf d = .ok (t.plan j) ∧ e.handling (t.plan j) = .writing (t.script j)

/-- A call is linked under the model that a mutation writes. -/
def Depends (t : Traffic ι κ) (i : ι) (j : κ) : Prop := (t.plan j).name ∈ (t.inquiry i).job.models

/-- The inquiry of a call comes to a value on a store. -/
def Current (t : Traffic ι κ) (s : Store) (i : ι) (value : Value) : Prop :=
  ((t.inquiry i).script.run s).1 = .ok value

/-- Calls come to the same on stores that agree on the models that they are linked under. -/
def Framed (t : Traffic ι κ) (c : Catalog) : Prop :=
  ∀ i value s s', s.catalog = c → s.Agree (t.inquiry i).job.models s' →
    t.Current s i value → t.Current s' i value

/-- A call has computed before a mutation wrote, and puts its value after the invalidation. -/
def Overtaken (acts : List (Act ι κ)) (i : ι) (j : κ) : Prop :=
  [.compute i, .write j, .invalidate j, .finish i] <+ acts

/-- A call has computed after a mutation wrote, and the mutation is rolled back. -/
def Unsettled (acts : List (Act ι κ)) (i : ι) (j : κ) : Prop :=
  [.write j, .compute i, .rollback j] <+ acts

variable {t : Traffic ι κ} {e : Engine} {acts : List (Act ι κ)} {m m' : Moment ι κ} {a : Act ι κ}
  {i : ι} {j l : κ} {value : Value}

theorem grow {earlier : List (Act ι κ)} (order : earlier <+ acts) (a : Act ι κ) :
    earlier <+ acts ++ [a] :=
  order.trans (List.sublist_append_left acts [a])

/-- What has happened in an order has happened before a further step. -/
theorem then_act {earlier : List (Act ι κ)} (order : earlier <+ acts) (a : Act ι κ) :
    earlier ++ [a] <+ acts ++ [a] :=
  order.append (List.Sublist.refl [a])

namespace Serves

theorem framed (serves : t.Serves e) (keys : e.catalog.PlainKeys)
    (relations : e.catalog.PlainRelations) : t.Framed e.catalog := by
  intro i value s s' same agree current
  obtain ⟨d, p, subject, _, planned, asks⟩ := serves.calls i
  have about := asks.about planned
  rw [Current, about.script] at current ⊢
  rwa [Subject.run_eq keys relations about.models same agree]

theorem job_transaction (serves : t.Serves e) (i : ι) :
    (t.inquiry i).job.transaction = t.transaction := by
  obtain ⟨d, p, subject, within, planned, asks⟩ := serves.calls i
  have own : p.request = d.request :=
    congrArg Access.request (Access.plans_of_plan planned).accessed
  rw [asks.transaction, own, within, Option.getD_some]

/-- Calls do not see what mutations do that they do not depend on. -/
theorem agree_run (serves : t.Serves e) (apart : ¬ t.Depends i j) (s : Store) :
    s.Agree (t.inquiry i).job.models ((t.script j).run s).2 := by
  obtain ⟨d, _, planned, writing⟩ := serves.mutations j
  have about := (Access.plans_of_plan planned).about
  refine ⟨(t.script j).catalog_run s, fun model mem => ?_⟩
  refine Script.table_run_of_ne (Plan.asks_writing about writing) (fun same => apart ?_) s
  rwa [Depends, ← same]

/-- A mutation that succeeds in silence has changed nothing. -/
theorem agree_of_silent (serves : t.Serves e) {s after : Store} {written : Written}
    (ran : (t.script j).run s = (.ok written, after)) (silent : written.events.isEmpty = true)
    (models : NameSet) : s.Agree models after := by
  obtain ⟨d, _, planned, writing⟩ := serves.mutations j
  have writes := Plan.writes_of_run (Access.plans_of_plan planned).permitted writing ran
  refine ⟨?_, fun model _ => writes.table_of_silent (List.isEmpty_iff.1 silent) model⟩
  have kept := (t.script j).catalog_run s
  rwa [ran] at kept

end Serves

/-! The open transaction -/

/-- Where the transactions stand. The store that a rollback would bring back is the one that the
open transaction has begun with. -/
inductive Transacts (t : Traffic ι κ) (acts : List (Act ι κ)) (m : Moment ι κ) : Prop where
  | closed (saved : m.store.saved = none) (shut : ∀ j, (m.stage j).isOpen = false)
  | begun {j : κ} (only : ∀ l, (m.stage l).isOpen = true → l = j) (begun : m.stage j = .begun)
      (store : m.store = m.store.rollback.begin)
  | wrote {j : κ} {outcome : Except Error Written} (only : ∀ l, (m.stage l).isOpen = true → l = j)
      (wrote : m.stage j = .wrote outcome)
      (ran : (t.script j).run m.store.rollback.begin = (outcome, m.store))
      (written : .write j ∈ acts)

namespace Transacts

theorem only (h : t.Transacts acts m) (here : (m.stage j).isOpen = true)
    (there : (m.stage l).isOpen = true) : l = j := by
  cases h with
  | closed _ shut => rw [shut] at here; cases here
  | begun only | wrote only => rw [only l there, only j here]

/-- Only the mutation whose transaction is open has written and not ended. -/
theorem eq_of_wrote (h : t.Transacts acts m) (opened : (m.stage j).isOpen = true)
    {outcome : Except Error Written} (wrote : m.stage l = .wrote outcome) : l = j :=
  h.only opened (by rw [wrote]; rfl)

theorem saved_of_isOpen (h : t.Transacts acts m) (here : (m.stage j).isOpen = true) :
    m.store.saved ≠ none := by
  cases h with
  | closed _ shut => rw [shut] at here; cases here
  | begun _ _ store => rw [store]; exact nofun
  | @wrote k _ _ _ ran =>
    have saved := (t.script k).saved_run m.store.rollback.begin
    rw [ran] at saved
    rw [saved]
    exact nofun

theorem begun_store (h : t.Transacts acts m) (begun : m.stage j = .begun) :
    m.store = m.store.rollback.begin := by
  have here : (m.stage j).isOpen = true := by rw [begun]; rfl
  cases h with
  | closed _ shut => rw [shut] at here; cases here
  | begun _ _ store => exact store
  | wrote only wrote => rw [← only j here, begun] at wrote; cases wrote

theorem wrote_run (h : t.Transacts acts m) {outcome : Except Error Written}
    (wrote : m.stage j = .wrote outcome) :
    (t.script j).run m.store.rollback.begin = (outcome, m.store) ∧ .write j ∈ acts := by
  have here : (m.stage j).isOpen = true := by rw [wrote]; rfl
  cases h with
  | closed _ shut => rw [shut] at here; cases here
  | begun only begun => rw [← only j here, wrote] at begun; cases begun
  | wrote only wrote' ran written =>
    obtain rfl := only j here
    rw [wrote] at wrote'
    cases wrote'
    exact ⟨ran, written⟩

/-- Steps keep the transactions as they are that leave the store and all open stages alone. -/
theorem keep (h : t.Transacts acts m) (store : m'.store = m.store)
    (stages : ∀ l, (m.stage l).isOpen = true ∨ (m'.stage l).isOpen = true →
      m'.stage l = m.stage l) : t.Transacts (acts ++ [a]) m' := by
  have opened (l : κ) (there : (m'.stage l).isOpen = true) : (m.stage l).isOpen = true := by
    rwa [← stages l (.inr there)]
  cases h with
  | closed saved shut =>
    refine .closed (store ▸ saved) fun l => Bool.eq_false_iff.2 fun there => ?_
    have before := opened l there
    rw [shut] at before
    cases before
  | begun only begun same =>
    have stage := stages _ (.inl (by rw [begun]; rfl))
    exact .begun (fun l there => only l (opened l there)) (stage.trans begun) (store ▸ same)
  | wrote only wrote ran written =>
    have stage := stages _ (.inl (by rw [wrote]; rfl))
    exact .wrote (fun l there => only l (opened l there)) (stage.trans wrote) (store ▸ ran)
      (List.mem_append_left _ written)

variable [DecidableEq κ]

theorem shut (h : t.Transacts acts m) (here : (m.stage j).isOpen = true) {stage : Stage}
    (ended : stage.isOpen = false) {s : Store} (saved : s.saved = none) (a : Act ι κ) :
    t.Transacts (acts ++ [a]) (m.bring j stage s) := by
  refine .closed saved fun l => Bool.eq_false_iff.2 fun there => ?_
  by_cases same : l = j
  · rw [same, Moment.bring_stage_self, ended] at there
    cases there
  · rw [Moment.bring_stage_of_ne same] at there
    exact same (h.only here there)

theorem takes [DecidableEq ι] (h : t.Transacts acts m) (taken : t.Takes m a m') :
    t.Transacts (acts ++ [a]) m' := by
  cases taken with
  | look | claim | wake | giveUp | compute | finish | drop | evict | deliver =>
    exact h.keep rfl fun _ _ => rfl
  | @begin j idle saved =>
    refine .begun (fun l there => ?_) (Moment.bring_stage_self _ _) ?_
    · by_contra other
      rw [Moment.bring_stage_of_ne other] at there
      exact h.saved_of_isOpen there saved
    · exact congrArg Store.begin (Store.rollback_begin m.store saved).symm
  | @write j begun =>
    have here : (m.stage j).isOpen = true := by rw [begun]; rfl
    refine .wrote (fun l there => ?_) (Moment.bring_stage_self _ _) ?_ ?_
    · by_contra other
      rw [Moment.bring_stage_of_ne other] at there
      exact other (h.only here there)
    · have back := (t.script j).rollback_run (h.saved_of_isOpen here)
      change (t.script j).run ((t.script j).run m.store).2.rollback.begin = _
      rw [back, ← h.begun_store begun]
      rfl
    · exact List.mem_append_right _ List.mem_cons_self
  | @commit j written wrote =>
    refine h.shut (by rw [wrote]; rfl) ?_ rfl _
    cases written.events.isEmpty <;> rfl
  | rollback opened => exact h.shut opened rfl rfl _
  | @invalidate j due =>
    refine h.keep rfl fun l there => ?_
    refine Moment.bring_stage_of_ne ?_ _ _
    rintro rfl
    rw [due, Moment.bring_stage_self] at there
    simp [Stage.isOpen] at there

end Transacts

/-! The standing of what has been computed -/

/-- How a value that a call has computed stands to the store. -/
inductive Standing (t : Traffic ι κ) (acts : List (Act ι κ)) (m : Moment ι κ) (i : ι)
    (value : Value) : Prop where
  /-- It is current, and would be so after a rollback. -/
  | current (settled : t.Current m.store.rollback i value) (now : t.Current m.store i value)
  /-- The open transaction has written since. -/
  | before {j : κ} {outcome : Except Error Written} (wrote : m.stage j = .wrote outcome)
      (depends : t.Depends i j) (order : [.compute i, .write j] <+ acts)
      (settled : t.Current m.store.rollback i value)
  /-- The open transaction had written before. -/
  | during {j : κ} {outcome : Except Error Written} (wrote : m.stage j = .wrote outcome)
      (depends : t.Depends i j) (order : [.write j, .compute i] <+ acts)
      (now : t.Current m.store i value)
  /-- An invalidation is due that reaches it, if it has been put. -/
  | due {j : κ} (due : m.stage j = .due) (depends : t.Depends i j)
      (order : [.compute i, .write j] <+ acts)
  /-- The invalidation has taken place. -/
  | late {j : κ} (depends : t.Depends i j)
      (order : [.compute i, .write j, .invalidate j] <+ acts)
  | unsettled {j : κ} (depends : t.Depends i j) (unsettled : Unsettled acts i j)

namespace Standing

theorem keep (h : t.Standing acts m i value) (store : m'.store = m.store)
    (stage : m'.stage = m.stage) : t.Standing (acts ++ [a]) m' i value := by
  cases h with
  | current settled now => exact .current (store ▸ settled) (store ▸ now)
  | before wrote depends order settled =>
    exact .before (stage ▸ wrote) depends (grow order a) (store ▸ settled)
  | during wrote depends order now =>
    exact .during (stage ▸ wrote) depends (grow order a) (store ▸ now)
  | due due depends order => exact .due (stage ▸ due) depends (grow order a)
  | late depends order => exact .late depends (grow order a)
  | unsettled depends unsettled => exact .unsettled depends (grow unsettled a)

variable {c : Catalog} (framed : t.Framed c) (catalog : m.store.catalog = c)

section
variable [DecidableEq κ]

/-- While a mutation takes a step that is not its invalidation, only what is current, or has been
computed while a transaction was open, can change its standing. -/
theorem bring {stage : Stage} {s : Store} (h : t.Standing acts m i value)
    (other : m.stage j ≠ .due)
    (current : t.Current m.store.rollback i value → t.Current m.store i value →
      t.Standing (acts ++ [a]) (m.bring j stage s) i value)
    (before : ∀ l outcome, m.stage l = .wrote outcome → t.Depends i l →
      [.compute i, .write l] <+ acts → t.Current m.store.rollback i value →
      t.Standing (acts ++ [a]) (m.bring j stage s) i value)
    (during : ∀ l outcome, m.stage l = .wrote outcome → t.Depends i l →
      [.write l, .compute i] <+ acts → t.Current m.store i value →
      t.Standing (acts ++ [a]) (m.bring j stage s) i value) :
    t.Standing (acts ++ [a]) (m.bring j stage s) i value := by
  cases h with
  | current settled now => exact current settled now
  | before wrote depends order settled => exact before _ _ wrote depends order settled
  | during wrote depends order now => exact during _ _ wrote depends order now
  | @due l due depends order =>
    have ne : l ≠ j := fun same => other (by rw [← same, due])
    exact .due ((Moment.bring_stage_of_ne ne _ _).trans due) depends (grow order a)
  | late depends order => exact .late depends (grow order a)
  | unsettled depends unsettled => exact .unsettled depends (grow unsettled a)

theorem rollback (h : t.Standing acts m i value) (transacts : t.Transacts acts m)
    (opened : (m.stage j).isOpen = true) :
    t.Standing (acts ++ [.rollback j]) (m.bring j .ended m.store.rollback) i value := by
  refine h.bring (fun due => ?_) (fun settled _ => .current settled settled)
    (fun _ _ _ _ _ settled => .current settled settled) fun l _ wrote depends order _ => ?_
  · rw [due] at opened
    cases opened
  · obtain rfl := transacts.eq_of_wrote opened wrote
    exact .unsettled depends (then_act order _)

theorem invalidate (h : t.Standing acts m i value) (due : m.stage j = .due) (c : Cache) :
    t.Standing (acts ++ [.invalidate j]) (.bring { m with cache := c } j .ended m.store) i
      value := by
  have other {outcome : Except Error Written} {l : κ} (wrote : m.stage l = .wrote outcome) :
      l ≠ j := by
    rintro rfl
    rw [due] at wrote
    cases wrote
  cases h with
  | current settled now => exact .current settled now
  | before wrote depends order settled =>
    exact .before ((Moment.bring_stage_of_ne (other wrote) _ _).trans wrote) depends
      (grow order _) settled
  | during wrote depends order now =>
    exact .during ((Moment.bring_stage_of_ne (other wrote) _ _).trans wrote) depends
      (grow order _) now
  | @due l due' depends order =>
    by_cases same : l = j
    · subst same
      exact .late depends (then_act order _)
    · exact .due ((Moment.bring_stage_of_ne same _ _).trans due') depends (grow order _)
  | late depends order => exact .late depends (grow order _)
  | unsettled depends unsettled => exact .unsettled depends (grow unsettled _)

include framed catalog

theorem begin (h : t.Standing acts m i value) (transacts : t.Transacts acts m)
    (idle : m.stage j = .idle) (saved : m.store.saved = none) :
    t.Standing (acts ++ [.begin j]) (m.bring j .begun m.store.begin) i value := by
  have shut {outcome : Except Error Written} {l : κ} (wrote : m.stage l = .wrote outcome) : False :=
    transacts.saved_of_isOpen (by rw [wrote]; rfl) saved
  refine h.bring (by rw [idle]; exact nofun) (fun _ now => .current ?_ ?_)
    (fun _ _ wrote => (shut wrote).elim) fun _ _ wrote => (shut wrote).elim
  · rwa [← Store.rollback_begin m.store saved] at now
  · exact framed _ _ _ _ catalog ⟨rfl, fun _ _ => rfl⟩ now

theorem write (h : t.Standing acts m i value) (serves : t.Serves e)
    (transacts : t.Transacts acts m) (computed : .compute i ∈ acts) (begun : m.stage j = .begun) :
    t.Standing (acts ++ [.write j]) (m.bring j (.wrote ((t.script j).run m.store).1)
      ((t.script j).run m.store).2) i value := by
  have opened : (m.stage j).isOpen = true := by rw [begun]; rfl
  have back : ((t.script j).run m.store).2.rollback = m.store.rollback :=
    (t.script j).rollback_run (transacts.saved_of_isOpen opened)
  have first {outcome : Except Error Written} {l : κ} (wrote : m.stage l = .wrote outcome) :
      False := by
    obtain rfl := transacts.eq_of_wrote opened wrote
    rw [begun] at wrote
    cases wrote
  refine h.bring (by rw [begun]; exact nofun) (fun settled now => ?_)
    (fun _ _ wrote => (first wrote).elim) fun _ _ wrote => (first wrote).elim
  rw [← back] at settled
  by_cases depends : t.Depends i j
  · exact .before (Moment.bring_stage_self _ _) depends
      (then_act (List.singleton_sublist.2 computed) _) settled
  · exact .current settled (framed _ _ _ _ catalog (serves.agree_run depends _) now)

theorem commit (h : t.Standing acts m i value) (serves : t.Serves e)
    (transacts : t.Transacts acts m) {written : Written}
    (wrote : m.stage j = .wrote (.ok written)) :
    t.Standing (acts ++ [.commit j])
      (m.bring j (if written.events.isEmpty then .ended else .due) m.store.commit) i value := by
  have opened : (m.stage j).isOpen = true := by rw [wrote]; rfl
  have committed (now : t.Current m.store i value) : t.Standing (acts ++ [.commit j])
      (m.bring j (if written.events.isEmpty then .ended else .due) m.store.commit) i value := by
    have still : t.Current m.store.commit i value :=
      framed _ _ m.store _ catalog ⟨rfl, fun _ _ => rfl⟩ now
    exact .current still still
  refine h.bring (by rw [wrote]; exact nofun) (fun _ now => committed now)
    (fun l _ wrote' depends order settled => ?_) fun _ _ _ _ _ now => committed now
  obtain rfl := transacts.eq_of_wrote opened wrote'
  by_cases silent : written.events.isEmpty = true
  · -- No invalidation follows, and none is needed: the script has left everything as it was.
    have begun : t.Current m.store.rollback.begin i value :=
      framed _ _ m.store.rollback _ catalog ⟨rfl, fun _ _ => rfl⟩ settled
    have unchanged := serves.agree_of_silent (transacts.wrote_run wrote).1 silent
    exact committed (framed _ _ m.store.rollback.begin _ catalog (unchanged _) begun)
  · rw [if_neg silent]
    exact .due (Moment.bring_stage_self _ _) depends (grow order _)

end

include framed catalog in
/-- A value has its standing as soon as it is computed. -/
theorem computed [DecidableEq ι] (serves : t.Serves e) (transacts : t.Transacts acts m)
    {result : Except Error Value} (now : t.Current m.store i value) :
    t.Standing (acts ++ [.compute i]) (m.compute i result) i value := by
  cases transacts with
  | closed saved =>
    refine .current ?_ now
    rwa [← Store.rollback_of_closed saved] at now
  | begun _ _ store =>
    refine .current (framed _ _ m.store _ catalog ⟨rfl, fun _ _ => ?_⟩ now) now
    rw [store]
    rfl
  | @wrote j _ _ wrote ran written =>
    by_cases depends : t.Depends i j
    · exact .during wrote depends (then_act (List.singleton_sublist.2 written) _) now
    · have agree := (serves.agree_run depends m.store.rollback.begin).symm
      rw [ran] at agree
      exact .current (framed _ _ m.store _ catalog ⟨rfl, agree.tables⟩ now) now

end Standing

/-! All calls and mutations -/

/-- What holds of the store and of all computed values. -/
structure Stored (t : Traffic ι κ) (c : Catalog) (acts : List (Act ι κ)) (m : Moment ι κ) :
    Prop where
  catalog : m.store.catalog = c
  transacts : t.Transacts acts m
  computed : ∀ i result, m.result i = some result → .compute i ∈ acts
  standing : ∀ i value, m.result i = some (.ok value) → t.Standing acts m i value

namespace Stored

theorem start {s : Store} (saved : s.saved = none) (settings : CacheSettings) :
    t.Stored s.catalog [] (.start s settings) :=
  ⟨rfl, .closed saved fun _ => rfl, nofun, nofun⟩

variable [DecidableEq ι] [DecidableEq κ]

theorem takes {c : Catalog} (framed : t.Framed c) (serves : t.Serves e) (h : t.Stored c acts m)
    (taken : t.Takes m a m') : t.Stored c (acts ++ [a]) m' := by
  have transacts := h.transacts.takes taken
  have same (results : m'.result = m.result) (i : ι) (result : Except Error Value)
      (there : m'.result i = some result) : .compute i ∈ acts ++ [a] :=
    List.mem_append_left _ (h.computed i result (results ▸ there))
  cases taken with
  | look | claim | wake | giveUp | finish | drop | evict | deliver =>
    exact ⟨h.catalog, transacts, same rfl, fun i value there =>
      (h.standing i value there).keep rfl rfl⟩
  | @compute i =>
    refine ⟨h.catalog, transacts, fun k result there => ?_, fun k value there => ?_⟩ <;>
      by_cases new : k = i
    · exact List.mem_append_right _ (new ▸ List.mem_cons_self)
    · rw [Moment.compute_result_of_ne new] at there
      exact List.mem_append_left _ (h.computed k result there)
    · subst new
      rw [Moment.compute_result_self] at there
      exact .computed framed h.catalog serves h.transacts (Option.some.inj there)
    · rw [Moment.compute_result_of_ne new] at there
      exact (h.standing k value there).keep rfl rfl
  | begin idle saved =>
    exact ⟨h.catalog, transacts, same rfl, fun i value there =>
      (h.standing i value there).begin framed h.catalog h.transacts idle saved⟩
  | @write j begun =>
    refine ⟨((t.script j).catalog_run m.store).trans h.catalog, transacts, same rfl,
      fun i value there => ?_⟩
    exact (h.standing i value there).write framed h.catalog serves h.transacts
      (h.computed i _ there) begun
  | commit wrote =>
    exact ⟨h.catalog, transacts, same rfl, fun i value there =>
      (h.standing i value there).commit framed h.catalog serves h.transacts wrote⟩
  | rollback opened =>
    exact ⟨h.catalog, transacts, same rfl, fun i value there =>
      (h.standing i value there).rollback h.transacts opened⟩
  | invalidate due =>
    exact ⟨h.catalog, transacts, same rfl, fun i value there =>
      (h.standing i value there).invalidate due _⟩

end Stored

end Engine.Traffic

end GuardedQuery
