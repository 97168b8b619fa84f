import GuardedQuery.Cache.Call

/-! What the steps of a call do to a cache, up to its flights and counters, which no answer depends
on. Looking up changes nothing else, and the end of a computation stores its value at most. -/

namespace GuardedQuery.Cache

/-- Caches that hold the same, whatever flies and however often they have been asked. -/
structure Alike (c d : Cache) : Prop where
  settings : c.settings = d.settings
  entries : c.entries = d.entries
  index : c.index = d.index
  generation : c.generation = d.generation
  notices : c.notices = d.notices

variable {b c d : Cache} {job : Job} {key : String}

theorem Alike.refl (c : Cache) : c.Alike c := ⟨rfl, rfl, rfl, rfl, rfl⟩

theorem Alike.trans (h : b.Alike c) (h' : c.Alike d) : b.Alike d :=
  ⟨h.settings.trans h'.settings, h.entries.trans h'.entries, h.index.trans h'.index,
    h.generation.trans h'.generation, h.notices.trans h'.notices⟩

theorem Alike.put (h : c.Alike d) (key transaction : String) (models : NameSet) (value : Value) :
    (c.put key transaction models value).Alike (d.put key transaction models value) := by
  refine ⟨h.settings, ?_, ?_, ?_, ?_⟩ <;>
    simp only [Cache.put, noticesOf, h.entries, h.index, h.generation, h.notices]

/-! Removing -/

theorem get?_foldl_remove (keys : List String) (c : Cache) {key : String}
    (gone : key ∈ keys ∨ c.entries.get? key = none) :
    (keys.foldl remove c).entries.get? key = none := by
  induction keys generalizing c with
  | nil => exact gone.resolve_left List.not_mem_nil
  | cons first rest ih =>
    refine ih _ ?_
    by_cases same : first = key
    · exact .inr (same ▸ Dict.get?_erase_self _ _)
    · rcases gone with mem | absent
      · exact .inl ((List.mem_cons.1 mem).resolve_left (Ne.symm same))
      · exact .inr ((Dict.get?_erase_of_ne _ same).trans absent)

/-! One step after another -/

/-- The key of a call that has not found it. -/
def Phase.key? : Phase → Option String
  | missed key | leading key | waiting key _ | alone key => some key
  | fresh | apart | ended _ | dropped => none

/-- Where a step of a call has come to: it holds on to the key that it had, or it is answered with
the value under this key. -/
structure Follows (c : Cache) (held : Option String) (phase : Phase) : Prop where
  holds : ∀ key, phase.key? = some key → held = some key
  answer : ∀ value, phase = .ended (.ok value) → ∃ key, held = some key ∧ c.peek key = some value

theorem look_follows (c : Cache) (job : Job) :
    c.Follows (c.keyOf job) (c.look job).1 ∧ (c.look job).2.Alike c := by
  rw [look]
  cases c.keyOf job with
  | none =>
    refine ⟨⟨fun own held => ?_, fun value ended => ?_⟩, rfl, rfl, rfl, rfl, rfl⟩
    · cases held
    · cases ended
  | some key =>
    simp only [get]
    cases found : c.peek key with
    | some value =>
      refine ⟨⟨fun own held => ?_, fun other ended => ⟨key, rfl, ?_⟩⟩, rfl, rfl, rfl, rfl, rfl⟩
      · cases held
      · cases ended
        exact found
    | none =>
      refine ⟨⟨fun own held => held, fun value ended => ?_⟩, rfl, rfl, rfl, rfl, rfl⟩
      cases ended

theorem claim_follows (c : Cache) (key : String) :
    c.Follows (some key) (c.claim (.missed key)).1 ∧ (c.claim (.missed key)).2.Alike c := by
  rw [claim]
  split <;> exact ⟨⟨fun own same => same, nofun⟩, rfl, rfl, rfl, rfl, rfl⟩

theorem wake_follows (c : Cache) (key : String) (ticket : Ticket) :
    c.Follows (some key) (c.wake (.waiting key ticket)).1 ∧
      (c.wake (.waiting key ticket)).2.Alike c := by
  rw [wake]
  split
  case h_1 | h_2 => exact ⟨⟨fun own same => same, nofun⟩, .refl c⟩
  case h_3 =>
    split
    case h_1 value found =>
      refine ⟨⟨nofun, fun other same => ⟨key, rfl, ?_⟩⟩, rfl, rfl, rfl, rfl, rfl⟩
      cases same
      exact found
    case h_2 => exact ⟨⟨fun own same => same, nofun⟩, .refl c⟩

theorem drop_alike (c : Cache) (phase : Phase) :
    ((c.drop phase).1 = phase ∨ (c.drop phase).1 = .dropped) ∧ (c.drop phase).2.Alike c := by
  cases phase with
  | ended outcome => exact ⟨.inl rfl, .refl c⟩
  | leading key => exact ⟨.inr rfl, rfl, rfl, rfl, rfl, rfl⟩
  | fresh | apart | missed | waiting | alone | dropped => exact ⟨.inr rfl, .refl c⟩

/-- A computation that ends is put if it has succeeded and its call has a key. -/
theorem finish_puts (c : Cache) (job : Job) (result : Except Error Value) {phase : Phase}
    (computes : phase.computes = true) :
    (c.finish job result phase).1 = .ended result ∧
      ((c.finish job result phase).2.Alike c ∨
        ∃ key value, phase.key? = some key ∧ result = .ok value ∧
          (c.finish job result phase).2.Alike (c.put key job.transaction job.models value)) := by
  cases phase with
  | fresh | missed | waiting | ended | dropped => cases computes
  | apart => exact ⟨rfl, .inl (.refl c)⟩
  | leading key =>
    cases result with
    | ok value => exact ⟨rfl, .inr ⟨key, value, rfl, rfl, rfl, rfl, rfl, rfl, rfl⟩⟩
    | error fault => exact ⟨rfl, .inl ⟨rfl, rfl, rfl, rfl, rfl⟩⟩
  | alone key =>
    cases result with
    | ok value => exact ⟨rfl, .inr ⟨key, value, rfl, rfl, .refl _⟩⟩
    | error fault => exact ⟨rfl, .inl (.refl c)⟩

/-! Starting -/

/-- What a call has found when it has started: the answer, or nothing under its key. -/
inductive Begins (c : Cache) (job : Job) : Phase → Prop where
  | hit {key : String} {value : Value} (named : c.keyOf job = some key)
      (found : c.peek key = some value) : Begins c job (.ended (.ok value))
  | apart (unnamed : c.keyOf job = none) : Begins c job .apart
  | leading {key : String} (named : c.keyOf job = some key) (missing : c.peek key = none) :
      Begins c job (.leading key)
  | waiting {key : String} {ticket : Ticket} (named : c.keyOf job = some key)
      (missing : c.peek key = none) : Begins c job (.waiting key ticket)

theorem start_begins (c : Cache) (job : Job) :
    c.Begins job (c.start job).1 ∧ (c.start job).2.Alike c := by
  rw [start, look]
  cases named : c.keyOf job with
  | none => exact ⟨.apart named, rfl, rfl, rfl, rfl, rfl⟩
  | some key =>
    simp only [get]
    cases found : c.peek key with
    | some value => exact ⟨.hit named found, rfl, rfl, rfl, rfl, rfl⟩
    | none =>
      simp only [claim]
      split
      · exact ⟨.leading named found, rfl, rfl, rfl, rfl, rfl⟩
      · exact ⟨.waiting named found, rfl, rfl, rfl, rfl, rfl⟩

/-! Ending -/

/-- What the computation of a call leaves behind: the cache as it was, or with the value under the
key of the job. -/
inductive Stores (c : Cache) (job : Job) (result : Except Error Value) : Cache → Prop where
  | nothing {d : Cache} (same : d.Alike c) : Stores c job result d
  | value {d : Cache} {key : String} {value : Value} (named : c.keyOf job = some key)
      (computed : result = .ok value)
      (same : d.Alike (c.put key job.transaction job.models value)) : Stores c job result d

theorem Begins.finish (begins : c.Begins job phase) (d : Cache) (enabled : d.settings = c.settings)
    (result : Except Error Value) (computes : ∀ outcome, phase ≠ .ended outcome) :
    (d.finish job result (giveUpWaiting phase)).1 = .ended result ∧
      Stores d job result (d.finish job result (giveUpWaiting phase)).2 := by
  have keyed (key : String) (named : c.keyOf job = some key) : d.keyOf job = some key := by
    rwa [keyOf, enabled]
  cases begins with
  | hit => exact absurd rfl (computes _)
  | apart => exact ⟨rfl, .nothing (.refl d)⟩
  | leading named =>
    cases result with
    | ok value => exact ⟨rfl, .value (keyed _ named) rfl ⟨rfl, rfl, rfl, rfl, rfl⟩⟩
    | error fault => exact ⟨rfl, .nothing ⟨rfl, rfl, rfl, rfl, rfl⟩⟩
  | waiting named =>
    cases result with
    | ok value => exact ⟨rfl, .value (keyed _ named) rfl (.refl _)⟩
    | error fault => exact ⟨rfl, .nothing (.refl d)⟩

/-! A call by itself -/

variable {σ : Type}

/-- A call by itself is answered from the cache, or it computes and stores what it has computed. -/
theorem run_spec (c : Cache) (job : Job) (compute : σ → Except Error Value × σ) (s : σ) :
    (∃ key value, c.keyOf job = some key ∧ c.peek key = some value ∧
      ∃ d, c.run job compute s = (.ok value, d, s) ∧ d.Alike c) ∨
    (∀ key, c.keyOf job = some key → c.peek key = none) ∧
      ∃ d, c.run job compute s = ((compute s).1, d, (compute s).2) ∧
        Stores c job (compute s).1 d := by
  rw [run]
  obtain ⟨begins, same⟩ := c.start_begins job
  generalize c.start job = started at begins same
  obtain ⟨phase, begun⟩ := started
  have missing (key : String) (named : c.keyOf job = some key) (h : c.peek key = none)
      (other : String) (also : c.keyOf job = some other) : c.peek other = none := by
    rwa [← Option.some.inj (named.symm.trans also)]
  have ended (computes : ∀ outcome, phase ≠ .ended outcome) :
      Stores c job (compute s).1
        (begun.finish job (compute s).1 (giveUpWaiting phase)).2 := by
    cases (begins.finish begun same.settings (compute s).1 computes).2 with
    | nothing alike => exact .nothing (alike.trans same)
    | value named computed alike =>
      have own : begun.keyOf job = c.keyOf job := by rw [keyOf, keyOf, same.settings]
      exact .value (own ▸ named) computed (alike.trans (same.put _ _ _ _))
  cases begins with
  | hit named found => exact .inl ⟨_, _, named, found, begun, rfl, same⟩
  | apart unnamed =>
    refine .inr ⟨fun key named => ?_, _, rfl, ended nofun⟩
    rw [unnamed] at named
    cases named
  | leading named absent => exact .inr ⟨missing _ named absent, _, rfl, ended nofun⟩
  | waiting named absent => exact .inr ⟨missing _ named absent, _, rfl, ended nofun⟩

end GuardedQuery.Cache
