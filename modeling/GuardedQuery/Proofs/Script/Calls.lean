import GuardedQuery.Store.Script

/-! The calls of a script. `Script.Asks` tells of every call that a script may make, whatever the
replies before it; `Script.made` lists those that a run makes. -/

namespace GuardedQuery

/-- The selection whose rows a call is about, if it is about one. -/
def Store.Call.selection? : Store.Call → Option Selection
  | .select sel | .count sel | .aggregate sel _ _ => some sel
  | .updateWhere sel _ | .deleteWhere sel => some sel
  | .related .. | .insert .. | .insertMany .. | .updateRow .. => none

namespace Script
variable {α β : Type}

theorem bind_done (script : Script α) : (script.bind fun a => done (.ok a)) = script := by
  induction script with
  | done result => cases result <;> rfl
  | call c rest ih =>
    rw [bind]
    exact congrArg (call c) (funext ih)

theorem bind_assoc {γ : Type} (script : Script α) (f : α → Script β) (g : β → Script γ) :
    (script.bind f).bind g = script.bind fun a => (f a).bind g := by
  induction script with
  | done result => cases result <;> rfl
  | call c rest ih =>
    simp only [bind]
    exact congrArg (call c) (funext ih)

instance : LawfulMonad Script :=
  .mk' Script bind_done (fun _ _ => rfl) bind_assoc

/-- Every call of the script is as `P` says. -/
def Asks (P : Store.Call → Prop) : Script α → Prop
  | done _ => True
  | call c next => P c ∧ ∀ reply, (next reply).Asks P

variable {P : Store.Call → Prop}

theorem Asks.mono {Q : Store.Call → Prop} {script : Script α} (h : script.Asks P)
    (weaker : ∀ c, P c → Q c) : script.Asks Q := by
  induction script with
  | done result => trivial
  | call c next ih => exact ⟨weaker c h.1, fun reply => ih reply (h.2 reply)⟩

theorem asks_done (result : Except Error α) : (done result).Asks P := trivial

theorem asks_request {c : Store.Call} (h : P c) : (request c).Asks P := ⟨h, fun _ => trivial⟩

theorem asks_bind {script : Script α} {next : α → Script β} (first : script.Asks P)
    (others : ∀ a, (next a).Asks P) : (script >>= next).Asks P := by
  induction script with
  | done result =>
    cases result with
    | ok a => exact others a
    | error e => trivial
  | call c rest ih => exact ⟨first.1, fun reply => ih reply (first.2 reply)⟩

theorem asks_check {outcome : Except Error α} {next : α → Script β}
    (h : ∀ a, outcome = .ok a → (next a).Asks P) :
    ((liftM outcome : Script α) >>= next).Asks P := by
  cases outcome with
  | ok a => exact h a rfl
  | error e => trivial

theorem asks_mapM {f : α → Script β} {xs : List α} (h : ∀ x ∈ xs, (f x).Asks P) :
    (xs.mapM f).Asks P := by
  induction xs with
  | nil => exact asks_done _
  | cons x rest ih =>
    rw [List.mapM_cons]
    refine asks_bind (h x List.mem_cons_self) fun y => ?_
    exact asks_bind (ih fun z mem => h z (List.mem_cons_of_mem _ mem)) fun _ => asks_done _

/-! Where a script ends -/

/-- Whenever the script succeeds, its result and the store that it leaves are as `Q` says. -/
def Ends (script : Script α) (Q : α → Store → Prop) : Prop :=
  ∀ s a after, script.run s = (.ok a, after) → Q a after

variable {Q : α → Store → Prop} {R : β → Store → Prop}

theorem run_bind_ok {script : Script α} {next : α → Script β} {s after : Store} {b : β}
    (h : (script >>= next).run s = (.ok b, after)) :
    ∃ a between, script.run s = (.ok a, between) ∧ (next a).run between = (.ok b, after) := by
  change (script.bind next).run s = _ at h
  rw [run_bind] at h
  split at h
  case h_1 a between ran => exact ⟨a, between, ran, h⟩
  case h_2 => cases h

theorem ends_pure {a : α} (h : ∀ s, Q a s) : (pure a : Script α).Ends Q := by
  rintro s b after ⟨⟩
  exact h s

theorem ends_map {script : Script α} {next : α → β} (ends : script.Ends Q)
    (h : ∀ s a, Q a s → R (next a) s) : (script >>= fun a => pure (next a)).Ends R := by
  intro s b after ran
  obtain ⟨a, between, first, ran⟩ := run_bind_ok ran
  cases ran
  exact h _ a (ends s a _ first)

/-- Only what comes last tells where a script ends. -/
theorem ends_bind {script : Script α} {next : α → Script β} (h : ∀ a, (next a).Ends R) :
    (script >>= next).Ends R := by
  intro s b after ran
  obtain ⟨a, between, _, ran⟩ := run_bind_ok ran
  exact h a between b after ran

/-! The calls that a run makes, in their order. A call that fails is the last one. -/

/-- What is left of a script when a call has been answered. -/
def resume {c : Store.Call} (next : c.Reply → Script α) : Except Error c.Reply → Script α
  | .ok reply => next reply
  | .error e => done (.error e)

/-- The calls of a run. -/
def made : Script α → Store → List Store.Call
  | done _, _ => []
  | call c next, s =>
    c :: match s.answer c with
      | (.ok reply, s) => (next reply).made s
      | (.error _, _) => []

theorem run_call (c : Store.Call) (next : c.Reply → Script α) (s : Store) :
    (call c next).run s = (resume next (s.answer c).1).run (s.answer c).2 := by
  rw [run]
  rcases s.answer c with ⟨e | reply, between⟩ <;> rfl

theorem made_call (c : Store.Call) (next : c.Reply → Script α) (s : Store) :
    (call c next).made s = c :: (resume next (s.answer c).1).made (s.answer c).2 := by
  rw [made]
  rcases s.answer c with ⟨e | reply, between⟩ <;> rfl

/-- A run makes only calls that its script may make. -/
theorem Asks.made {script : Script α} (asks : script.Asks P) (s : Store) :
    ∀ c ∈ script.made s, P c := by
  induction script generalizing s with
  | done result => exact nofun
  | call c next ih =>
    intro c' mem
    rw [made_call] at mem
    rcases List.mem_cons.1 mem with rfl | mem
    · exact asks.1
    · cases answered : (s.answer c).1 with
      | ok reply =>
        rw [answered] at mem
        exact ih reply (asks.2 reply) _ c' mem
      | error e =>
        rw [answered] at mem
        cases mem

theorem made_bind {script : Script α} {next : α → Script β} {a : α} {s between : Store}
    (ran : script.run s = (.ok a, between)) :
    (script.bind next).made s = script.made s ++ (next a).made between := by
  induction script generalizing s with
  | done result =>
    cases ran
    rfl
  | call c rest ih =>
    rw [run_call] at ran
    rw [bind, made_call, made_call, List.cons_append]
    cases answered : (s.answer c).1 with
    | ok reply =>
      rw [answered] at ran
      exact congrArg (c :: ·) (ih reply ran)
    | error e =>
      rw [answered] at ran
      cases ran

end Script

end GuardedQuery
