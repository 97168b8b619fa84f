import GuardedQuery.Proofs.Checks
import GuardedQuery.Proofs.Script.Calls

/-! Runs of scripts taken apart. A run that succeeds has succeeded in each of its checks and calls,
and whatever only reads leaves the store as it was and yields what is computed from it. -/

namespace GuardedQuery

theorem Store.settle_ok_iff {α : Type} {a : α} {after : Store}
    {outcome : Except Store.Error α × Store} :
    settle outcome = (.ok a, after) ↔ outcome = (.ok a, after) := by
  rw [settle, Prod.mk.injEq, Checks.mapError_ok_iff, ← Prod.mk.injEq]

namespace Script
variable {α β : Type} {s after : Store} {b : β}

theorem run_request (c : Store.Call) (s : Store) : (request c).run s = s.answer c := by
  rw [request, run]
  rcases s.answer c with ⟨_ | _, _⟩ <;> rfl

theorem run_check_ok {outcome : Except Error α} {next : α → Script β}
    (h : ((liftM outcome : Script α) >>= next).run s = (.ok b, after)) :
    ∃ a, outcome = .ok a ∧ (next a).run s = (.ok b, after) := by
  cases outcome with
  | ok a => exact ⟨a, rfl, h⟩
  | error e => cases h

theorem run_call_ok {c : Store.Call} {next : c.Reply → Script β}
    (h : (request c >>= next).run s = (.ok b, after)) :
    ∃ reply between, s.answer c = (.ok reply, between) ∧
      (next reply).run between = (.ok b, after) := by
  obtain ⟨reply, between, called, further⟩ := run_bind_ok h
  rw [run_request] at called
  exact ⟨reply, between, called, further⟩

/-- A call that the store answers by a write of its own. -/
theorem run_settled_ok {c : Store.Call} {next : c.Reply → Script β}
    {write : Except Store.Error c.Reply × Store} (settled : s.answer c = Store.settle write)
    (ran : (request c >>= next).run s = (.ok b, after)) :
    ∃ reply between, write = (.ok reply, between) ∧ (next reply).run between = (.ok b, after) := by
  obtain ⟨reply, between, called, further⟩ := run_call_ok ran
  rw [settled, Store.settle_ok_iff] at called
  exact ⟨reply, between, called, further⟩

theorem run_select_ok {sel : Selection} {next : List Row → Script β}
    (h : (select sel >>= next).run s = (.ok b, after)) :
    ∃ rows, s.select sel = .ok rows ∧ (next rows).run s = (.ok b, after) := by
  obtain ⟨rows, between, called, further⟩ := run_call_ok h
  have answered : ((s.select sel).mapError Store.Error.toError, s) =
    ((.ok rows : Except Error (List Row)), between) := called
  obtain ⟨selected, rfl⟩ := Prod.mk.inj answered
  exact ⟨rows, Checks.mapError_ok_iff.1 selected, further⟩

/-! Runs put together -/

theorem run_next {script : Script α} {next : α → Script β} {a : α} {between : Store}
    (ran : script.run s = (.ok a, between)) :
    (script >>= next).run s = (next a).run between := by
  refine (run_bind script next s).trans ?_
  rw [ran]

theorem run_check {outcome : Except Error α} {next : α → Script β} {a : α}
    (passed : outcome = .ok a) :
    ((liftM outcome : Script α) >>= next).run s = (next a).run s := by
  rw [passed]
  rfl

theorem run_select {sel : Selection} {next : List Row → Script β} {rows : List Row}
    (selected : s.select sel = .ok rows) : (select sel >>= next).run s = (next rows).run s := by
  refine run_next ?_
  rw [select, run_request, Store.answer, selected]
  rfl

theorem run_mapM {f : α → Script β} {xs : List α} {ys : List β}
    (each : List.Forall₂ (fun x y => (f x).run s = (.ok y, s)) xs ys) :
    (xs.mapM f).run s = (.ok ys, s) := by
  induction each with
  | nil => rfl
  | cons first _ ih =>
    rw [List.mapM_cons, run_next first, run_next ih]
    rfl

/-! What runs keep -/

/-- What no call breaks, no run breaks, whether it succeeds or fails. -/
theorem holds_run {P : Store → Prop} (kept : ∀ s c, P s → P (s.answer c).2) (script : Script α)
    (holds : P s) : P (script.run s).2 := by
  induction script generalizing s with
  | done result => exact holds
  | call c next ih =>
    have step := kept s c holds
    rw [run]
    rcases answered : s.answer c with ⟨e | reply, between⟩
    · rwa [answered] at step
    · rw [answered] at step
      exact ih reply step

/-- A script without writes leaves the store as it was, whether it succeeds or fails. -/
theorem run_reads {script : Script α} (reads : script.Asks fun c => c.isWrite = false) :
    (script.run s).2 = s := by
  induction script generalizing s with
  | done result => rfl
  | call c next ih =>
    have kept := s.answer_of_not_isWrite c reads.1
    rw [run]
    rcases answered : s.answer c with ⟨e | reply, between⟩
    · rwa [answered] at kept
    · obtain rfl : between = s := by rwa [answered] at kept
      exact ih reply (reads.2 reply)

/-- A script that reads comes to the same on two stores that answer its calls alike. -/
theorem run_congr {s' : Store} {script : Script α}
    (same : script.Asks fun c => c.isWrite = false ∧ (s'.answer c).1 = (s.answer c).1) :
    (script.run s').1 = (script.run s).1 := by
  induction script with
  | done result => rfl
  | call c next ih =>
    obtain ⟨⟨reads, answers⟩, others⟩ := same
    have kept := s.answer_of_not_isWrite c reads
    have kept' := s'.answer_of_not_isWrite c reads
    rw [run, run]
    rcases asked : s.answer c with ⟨e | reply, between⟩ <;>
      rcases asked' : s'.answer c with ⟨e' | reply', between'⟩ <;>
      rw [asked, asked'] at answers <;> cases answers
    · rfl
    · rw [asked] at kept
      rw [asked'] at kept'
      obtain rfl : between = s := kept
      obtain rfl : between' = s' := kept'
      exact ih reply (others reply)

theorem run_reads_ok {script : Script α} {next : α → Script β}
    (reads : script.Asks fun c => c.isWrite = false)
    (h : (script >>= next).run s = (.ok b, after)) :
    ∃ a, script.run s = (.ok a, s) ∧ (next a).run s = (.ok b, after) := by
  obtain ⟨a, between, ran, further⟩ := run_bind_ok h
  obtain rfl : between = s := by simpa [ran] using run_reads (s := s) reads
  exact ⟨a, ran, further⟩

/-! What a script yields that reads: an outcome that is computed from the store, up to a function
that forgets a part of it -/

variable {γ δ : Type}

def Yields (script : Script α) (s : Store) (f : β → α) (made : Except Error β) : Prop :=
  script.run s = (made.map f, s)

theorem yields_pure (f : β → α) (b : β) : (pure (f b) : Script α).Yields s f (.ok b) := rfl

theorem yields_lift (outcome : Except Error α) :
    (liftM outcome : Script α).Yields s id outcome := by
  cases outcome <;> rfl

theorem yields_related (model : String) (row : Row) (field : String) :
    (related model row field).Yields s id
      ((s.related model row field).mapError Store.Error.toError) := by
  rw [Yields, related, request, run, Store.answer, Store.ask]
  cases (s.related model row field).mapError Store.Error.toError <;> rfl

theorem yields_bind {script : Script α} {next : α → Script γ} {f : β → α} {g : δ → γ}
    {made : Except Error β} {further : β → Except Error δ} (first : script.Yields s f made)
    (others : ∀ b, made = .ok b → (next (f b)).Yields s g (further b)) :
    (script >>= next).Yields s g (made >>= further) := by
  change (script.bind next).run s = _
  rw [run_bind, first]
  cases made with
  | ok b => exact others b rfl
  | error e => rfl

theorem yields_mapM {f : α → Script γ} {g : δ → γ} {h : α → Except Error δ} {xs : List α}
    (each : ∀ x ∈ xs, (f x).Yields s g (h x)) :
    (xs.mapM f).Yields s (List.map g) (xs.mapM h) := by
  induction xs with
  | nil => exact yields_pure (List.map g) []
  | cons x rest ih =>
    rw [List.mapM_cons, List.mapM_cons]
    refine yields_bind (each x List.mem_cons_self) fun y _ => ?_
    refine yields_bind (ih fun z mem => each z (List.mem_cons_of_mem _ mem)) fun ys _ => ?_
    exact yields_pure (List.map g) (y :: ys)

theorem Yields.ok {script : Script α} {f : β → α} {made : Except Error β} {a : α} {after : Store}
    (h : script.Yields s f made) (ran : script.run s = (.ok a, after)) :
    after = s ∧ ∃ b, made = .ok b ∧ f b = a := by
  rw [h] at ran
  cases made with
  | error e => cases ran
  | ok b =>
    cases ran
    exact ⟨rfl, b, rfl, rfl⟩

theorem ends_of_yields {script : Script α} {f : β → α} {made : Store → Except Error β}
    {Q : α → Store → Prop} (reads : ∀ s, script.Yields s f (made s))
    (h : ∀ s b, made s = .ok b → Q (f b) s) : script.Ends Q := by
  intro s a after ran
  obtain ⟨rfl, b, here, rfl⟩ := (reads s).ok ran
  exact h _ b here

end Script

end GuardedQuery
