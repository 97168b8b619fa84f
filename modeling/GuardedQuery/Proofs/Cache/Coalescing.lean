import GuardedQuery.Proofs.Cache.Crowds

/-! Calls for the same answer, of which one computes. The call that leads a key holds a guard from
its claim until its slot is released or given up. Whatever the order of the steps, a key is in
flight exactly while a guard of it is held, and what is handed out under a key has been computed
under it. -/

namespace GuardedQuery.Cache

/-! Guards and slots -/

/-- What a step of a call does to the keys in flight, beside the guard that the call holds before
and after it. -/
inductive Trades (f g : Flights) : Option String → Option String → Prop where
  | keeps {held : Option String} (same : g.airborne = f.airborne) : Trades f g held held
  | takes {key : String} {flight : Nat} (free : f.airborne.get? key = none)
      (taken : g.airborne = f.airborne.insert key flight) : Trades f g none (some key)
  | gives {key : String} (free : g.airborne.get? key = none)
      (rest : ∀ other, key ≠ other → g.airborne.get? other = f.airborne.get? other) :
      Trades f g (some key) none

namespace Trades
variable {c : Cache}

theorem crash (held : Option String) :
    Trades c.flights (held.elim c c.crash).flights held none := by
  cases held with
  | none => exact .keeps rfl
  | some key =>
    exact .gives (c.flights.get?_abandon key) fun other ne => Dict.get?_erase_of_ne _ ne

theorem landing (held : Option String) :
    Trades c.flights (held.elim c c.landing).flights held none := by
  cases held with
  | none => exact .keeps rfl
  | some key =>
    refine .gives (c.flights.get?_release key) fun other ne => ?_
    change (c.flights.release key).airborne.get? other = _
    rw [Flights.release]
    split
    · exact Dict.get?_erase_of_ne _ ne
    · rfl

end Trades

theorem Crowd.Point.Goes.trades {c d : Cache} {job : Job} {point next : Crowd.Point}
    {move : Crowd.Move} (goes : Goes c job point move next d) :
    Trades c.flights d.flights point.guard? next.guard? := by
  cases goes with
  | lead free => exact .takes free (by rw [Flights.acquire, free])
  | hand | drop => exact .crash _
  | answer => exact .landing _
  | skip | hit | miss | follow | heard | unheard | found | lost | giveUp | compute | record
  | insert => exact .keeps rfl

/-! One guard for each key in flight -/

/-- Nobody else holds the guard of a key, and the keys in flight are those with a guard. -/
structure Slots {ι : Type} (held : ι → Option String) (f : Flights) : Prop where
  single : ∀ key i j, held i = some key → held j = some key → i = j
  airborne : ∀ key, (f.airborne.get? key).isSome ↔ ∃ i, held i = some key

namespace Slots
variable {ι : Type} [DecidableEq ι] {held : ι → Option String} {f g : Flights} {i j : ι}
  {key : String} {next : Option String}

theorem update_eq_some_iff : Function.update held i next j = some key ↔
    j = i ∧ next = some key ∨ j ≠ i ∧ held j = some key := by
  by_cases same : j = i
  · subst same
    simp
  · simp [same]

omit [DecidableEq ι] in
theorem free_iff (h : Slots held f) :
    f.airborne.get? key = none ↔ ∀ i, held i ≠ some key := by
  rw [← Option.not_isSome_iff_eq_none, h.airborne, not_exists]

omit [DecidableEq ι] in
theorem size_eq_zero (h : Slots held f) (bare : ∀ i, held i = none) : f.size = 0 := by
  have empty : f.airborne = .empty := Dict.ext_get? fun key => by
    rw [Dict.get?_empty, h.free_iff]
    exact fun i => by simp [bare i]
  rw [Flights.size, empty]
  rfl

theorem takes (h : Slots held f) {flight : Nat} (bare : held i = none)
    (free : f.airborne.get? key = none)
    (taken : g.airborne = f.airborne.insert key flight) :
    Slots (Function.update held i (some key)) g := by
  constructor
  · -- nobody has held the key before, so the new holder is the only one
    intro other a b ha hb
    rcases update_eq_some_iff.1 ha with ⟨rfl, here⟩ | ⟨_, old⟩ <;>
      rcases update_eq_some_iff.1 hb with ⟨rfl, there⟩ | ⟨_, also⟩
    · rfl
    · exact absurd (here ▸ also) (h.free_iff.1 free b)
    · exact absurd (there ▸ old) (h.free_iff.1 free a)
    · exact h.single other a b old also
  · intro other
    simp only [update_eq_some_iff]
    rw [taken]
    by_cases same : key = other
    · subst same
      simp only [Dict.get?_insert_self, Option.isSome_some, true_iff]
      exact ⟨i, .inl ⟨rfl, trivial⟩⟩
    · rw [Dict.get?_insert_of_ne _ same, h.airborne]
      constructor
      · rintro ⟨j, holds⟩
        refine ⟨j, .inr ⟨fun here => ?_, holds⟩⟩
        rw [here, bare] at holds
        cases holds
      · rintro ⟨j, ⟨_, named⟩ | ⟨_, holds⟩⟩
        · exact absurd (Option.some.inj named) same
        · exact ⟨j, holds⟩

theorem gives (h : Slots held f) (holds : held i = some key)
    (free : g.airborne.get? key = none)
    (rest : ∀ other, key ≠ other → g.airborne.get? other = f.airborne.get? other) :
    Slots (Function.update held i none) g := by
  constructor
  · intro other a b ha hb
    obtain ⟨_, ⟨⟩⟩ | ⟨_, old⟩ := update_eq_some_iff.1 ha
    obtain ⟨_, ⟨⟩⟩ | ⟨_, also⟩ := update_eq_some_iff.1 hb
    exact h.single other a b old also
  · intro other
    simp only [update_eq_some_iff, reduceCtorEq, and_false, false_or]
    by_cases same : key = other
    · subst same
      simp only [free, Option.isSome_none, Bool.false_eq_true, false_iff]
      rintro ⟨j, ne, also⟩
      exact ne (h.single key j i also holds)
    · rw [rest other same, h.airborne]
      refine exists_congr fun j => ⟨fun also => ⟨fun here => ?_, also⟩, And.right⟩
      rw [here, holds] at also
      exact same (Option.some.inj also)

/-- A step of one call keeps the guards and the slots together. -/
theorem trade (h : Slots held f) (trades : Trades f g (held i) next) :
    Slots (Function.update held i next) g := by
  generalize own : held i = before at trades
  cases trades with
  | keeps same =>
    rw [← own, Function.update_eq_self]
    exact ⟨h.single, fun key => same ▸ h.airborne key⟩
  | takes free taken => exact h.takes own free taken
  | gives free rest => exact h.gives own free rest

end Slots

namespace Crowd
variable {ι : Type} {job : ι → Job} {m m' : Crowd ι} {act : Act ι}

/-- The keys whose guards are held by the calls. -/
def held (m : Crowd ι) (i : ι) : Option String := (m.point i).guard?

theorem slots_start {c : Cache} (grounded : c.flights.size = 0) :
    Slots (start c : Crowd ι).held c.flights := by
  refine ⟨nofun, fun key => ⟨fun flying => ?_, nofun⟩⟩
  rw [Dict.get?, List.length_eq_zero_iff.1 grounded] at flying
  cases flying

theorem Takes.slots [DecidableEq ι] (taken : m.Takes job act m')
    (h : Slots m.held m.cache.flights) : Slots m'.held m'.cache.flights := by
  cases taken with
  | @call i _ next d goes =>
    have moved : (⟨d, Function.update m.point i next⟩ : Crowd ι).held =
        Function.update m.held i next.guard? :=
      Function.comp_update Point.guard? m.point i next
    rw [moved]
    exact h.trade goes.trades
  | outside _ thins =>
    rw [thins.flights]
    exact h

/-- Guards and slots stay together on a cache that nothing flies on at first. -/
theorem slots_of_run [DecidableEq ι] {c : Cache} {acts : List (Act ι)}
    (grounded : c.flights.size = 0) (ran : (start c).run job acts = some m) :
    Slots m.held m.cache.flights :=
  run_induction (slots_start grounded) (fun _ _ _ _ slots taken => taken.slots slots) ran

/-! What is handed out -/

section
variable (key : ι → Option String) (acts : List (Act ι))

/-- The computation of a call has ended with a result. -/
def Made (i : ι) (result : Except Error Value) : Prop := .call i (.compute result) ∈ acts

/-- A call of the key has computed the value and stored it. -/
def Known (k : String) (value : Value) : Prop :=
  ∃ i, key i = some k ∧ Made acts i (.ok value) ∧ .call i .insert ∈ acts

/-- A value that a call may return: one known under its key, or its own if it has no key. -/
structure Handed (i : ι) (value : Value) : Prop where
  known : ∀ k, key i = some k → Known key acts k value
  own : key i = none → Made acts i (.ok value)

/-- What has happened to a call that has come to a point. -/
def Accounts (i : ι) : Point → Prop
  | .inPhase .fresh => ∀ result, ¬Made acts i result
  | .inPhase (.ended (.ok value)) => Handed key acts i value
  | .inPhase (.ended (.error fault)) => Made acts i (.error fault)
  | .inPhase .dropped => True
  | .inPhase phase => (∀ result, ¬Made acts i result) ∧ key i = phase.key?
  | .woken k => (∀ result, ¬Made acts i result) ∧ key i = some k
  | .computed phase result => Made acts i result ∧ key i = phase.key?
  | .recorded phase _ value => Made acts i (.ok value) ∧ key i = phase.key?
  | .stored phase value =>
    Made acts i (.ok value) ∧ key i = phase.key? ∧ .call i .insert ∈ acts

end

variable {key : ι → Option String} {acts : List (Act ι)} {i j : ι} {result : Except Error Value}
  {value : Value}

theorem Made.concat (h : Made acts i result) (act : Act ι) : Made (acts ++ [act]) i result :=
  List.mem_append_left _ h

theorem not_made_concat (h : ∀ result, ¬Made acts i result)
    (other : ∀ result, act ≠ .call i (.compute result)) (result : Except Error Value) :
    ¬Made (acts ++ [act]) i result := by
  intro made
  rcases List.mem_append.1 made with old | new
  · exact h result old
  · exact other result (List.mem_singleton.1 new).symm

theorem Known.concat {k : String} (h : Known key acts k value) (act : Act ι) :
    Known key (acts ++ [act]) k value := by
  obtain ⟨i, named, made, put⟩ := h
  exact ⟨i, named, made.concat act, List.mem_append_left _ put⟩

theorem Handed.concat (h : Handed key acts i value) (act : Act ι) :
    Handed key (acts ++ [act]) i value :=
  ⟨fun k named => (h.known k named).concat act, fun unnamed => (h.own unnamed).concat act⟩

theorem Handed.of_known {k : String} (named : key i = some k) (known : Known key acts k value) :
    Handed key acts i value := by
  constructor
  · intro other also
    obtain rfl := Option.some.inj (named.symm.trans also)
    exact known
  · intro unnamed
    rw [named] at unnamed
    cases unnamed

/-- What happens to others leaves a call with its account. -/
theorem Accounts.concat {point : Point} (h : Accounts key acts i point)
    (other : ∀ result, act ≠ .call i (.compute result)) :
    Accounts key (acts ++ [act]) i point := by
  cases point with
  | inPhase phase =>
    cases phase with
    | fresh => exact not_made_concat h other
    | apart | missed | leading | waiting | alone => exact ⟨not_made_concat h.1 other, h.2⟩
    | ended outcome =>
      cases outcome with
      | ok value => exact Handed.concat h act
      | error fault => exact Made.concat h act
    | dropped => trivial
  | woken k => exact ⟨not_made_concat h.1 other, h.2⟩
  | computed phase result => exact ⟨h.1.concat act, h.2⟩
  | recorded phase generation value => exact ⟨h.1.concat act, h.2⟩
  | stored phase value => exact ⟨h.1.concat act, h.2.1, List.mem_append_left _ h.2.2⟩

/-- A call that is about to compute has not computed before. -/
theorem Accounts.idle {phase : Phase} (h : Accounts key acts i (.inPhase phase))
    (computes : phase.computes = true) :
    (∀ result, ¬Made acts i result) ∧ key i = phase.key? := by
  cases phase with
  | fresh | missed | waiting | ended | dropped => cases computes
  | apart | leading | alone => exact h

section
variable {c d : Cache} {job : Job} {point next : Point} {move : Move}

theorem crash_alike (c : Cache) (held : Option String) : (held.elim c c.crash).Alike c := by
  cases held with
  | none => exact .refl c
  | some key => exact ⟨rfl, rfl, rfl, rfl, rfl⟩

theorem landing_alike (c : Cache) (held : Option String) : (held.elim c c.landing).Alike c := by
  cases held with
  | none => exact .refl c
  | some key => exact ⟨rfl, rfl, rfl, rfl, rfl⟩

theorem Point.Goes.settings (goes : Goes c job point move next d) : d.settings = c.settings := by
  cases goes with
  | hand | drop => exact (crash_alike c _).settings
  | answer => exact (landing_alike c _).settings
  | skip | hit | miss | lead | follow | heard | unheard | found | lost | giveUp | compute | record
  | insert => rfl

/-- A step of a call gives it the account of where it leads. -/
theorem Point.Goes.accounts (goes : Goes c job point move next d) (named : c.keyOf job = key i)
    (cached : c.Keeps (Known key acts)) (h : Accounts key acts i point) :
    Accounts key (acts ++ [.call i move]) i next := by
  cases goes with
  | skip unnamed => exact ⟨not_made_concat h nofun, named.symm.trans unnamed⟩
  | miss own => exact ⟨not_made_concat h nofun, named.symm.trans own⟩
  | lead | follow | heard | unheard | lost | giveUp => exact ⟨not_made_concat h.1 nofun, h.2⟩
  | hit own held => exact Handed.concat (.of_known (named.symm.trans own) (cached _ _ held)) _
  | found held => exact Handed.concat (.of_known h.2 (cached _ _ held)) _
  | compute computes =>
    exact ⟨List.mem_append_right _ List.mem_cons_self, (h.idle computes).2⟩
  | record => exact ⟨h.1.concat _, h.2⟩
  | insert => exact ⟨h.1.concat _, h.2, List.mem_append_right _ List.mem_cons_self⟩
  | @hand _ result nothing =>
    cases result with
    | ok value =>
      exact ⟨fun k own => absurd rfl (nothing k value (h.2.symm.trans own)),
        fun _ => h.1.concat _⟩
    | error fault => exact h.1.concat _
  | answer =>
    exact Handed.concat ⟨fun k own => ⟨i, own, h.1, h.2.2⟩, fun _ => h.1⟩ _
  | drop => trivial

/-- What is cached afterwards was cached before, or it is what a call with an account stores. -/
theorem Point.Goes.keeps (goes : Goes c job point move next d)
    (cached : c.Keeps (Known key acts)) (h : Accounts key acts i point) :
    d.Keeps (Known key (acts ++ [.call i move])) := by
  have before : c.Keeps (Known key (acts ++ [.call i move])) :=
    fun k value found => (cached k value found).concat _
  cases goes with
  | @insert phase k generation value named =>
    intro other found held
    rcases peek_insert_cases held with old | ⟨rfl, rfl⟩
    · exact before other found old
    · exact ⟨i, h.2.trans named, h.1.concat _, List.mem_append_right _ List.mem_cons_self⟩
  | hand | drop => exact before.within (within_of_entries (crash_alike c _).entries)
  | answer => exact before.within (within_of_entries (landing_alike c _).entries)
  | skip | hit | miss | lead | follow | heard | unheard | found | lost | giveUp | compute
  | record => exact before.within (within_of_entries rfl)

end

/-- What there is to tell of calls that have come to where they are. -/
structure Told (key : ι → Option String) (acts : List (Act ι)) (m : Crowd ι) : Prop where
  calls : ∀ i, Accounts key acts i (m.point i)
  cached : m.cache.Keeps (Known key acts)
  /-- No call computes twice. -/
  once : ∀ i result result', Made acts i result → Made acts i result' → result = result'
  /-- What is put has been computed. -/
  puts : ∀ i move, move.puts = true → .call i move ∈ acts → ∃ value, Made acts i (.ok value)

section Step
variable {job : ι → Job} {move : Move}

/-- Only a call that has not computed can compute. -/
theorem Told.idle [DecidableEq ι] (h : Told key acts m)
    (taken : m.Takes job (.call i (.compute result)) m') (other : Except Error Value) :
    ¬Made acts i other := by
  have account := h.calls i
  cases taken with
  | call goes =>
    generalize m.point i = point at goes account
    cases goes with
    | compute computes => exact (account.idle computes).1 other
  | outside silent => exact absurd rfl (silent i _)

/-- Only a call that has computed a value can put. -/
theorem Told.computed [DecidableEq ι] (h : Told key acts m)
    (taken : m.Takes job (.call i move) m') (puts : move.puts = true) :
    ∃ value, Made acts i (.ok value) := by
  have account := h.calls i
  cases taken with
  | call goes =>
    generalize m.point i = point at goes account
    cases goes with
    | record | insert => exact ⟨_, account.1⟩
    | skip | hit | miss | lead | follow | heard | unheard | found | lost | giveUp | compute | hand
    | answer | drop => cases puts
  | outside silent => exact absurd rfl (silent i move)

theorem Takes.told [DecidableEq ι] (taken : m.Takes job act m')
    (named : ∀ i, m.cache.keyOf (job i) = key i) (h : Told key acts m) :
    Told key (acts ++ [act]) m' := by
  constructor
  · intro j
    cases taken with
    | @call i move next d goes =>
      change Accounts key (acts ++ [.call i move]) j (Function.update m.point i next j)
      by_cases same : j = i
      · subst same
        rw [Function.update_self]
        exact goes.accounts (named j) h.cached (h.calls j)
      · rw [Function.update_of_ne same]
        exact (h.calls j).concat fun _ also => same (by cases also; rfl)
    | outside silent => exact (h.calls j).concat fun _ => silent j _
  · cases taken with
    | call goes => exact goes.keeps h.cached (h.calls _)
    | outside _ thins =>
      exact fun k value found => (h.cached k value (thins.within k value found)).concat _
  · intro i result result' made made'
    rcases List.mem_append.1 made with old | new <;> rcases List.mem_append.1 made' with old' | new'
    · exact h.once i result result' old old'
    · obtain rfl := List.mem_singleton.1 new'
      exact absurd old (h.idle taken result)
    · obtain rfl := List.mem_singleton.1 new
      exact absurd old' (h.idle taken result')
    · cases (List.mem_singleton.1 new).trans (List.mem_singleton.1 new').symm
      rfl
  · intro i move puts mem
    have known : ∃ value, Made acts i (.ok value) := by
      rcases List.mem_append.1 mem with old | new
      · exact h.puts i move puts old
      · obtain rfl := List.mem_singleton.1 new
        exact h.computed taken puts
    obtain ⟨value, made⟩ := known
    exact ⟨value, made.concat act⟩

end Step

theorem Takes.settings [DecidableEq ι] {job : ι → Job} (taken : m.Takes job act m') :
    m'.cache.settings = m.cache.settings := by
  cases taken with
  | call goes => exact goes.settings
  | outside _ thins => exact thins.settings

theorem keyOf_of_settings {c : Cache} {settings : CacheSettings} (same : c.settings = settings)
    (job : Job) : c.keyOf job = (ofSettings settings).keyOf job := by
  rw [keyOf, keyOf, same]
  rfl

theorem told_of_run [DecidableEq ι] {settings : CacheSettings} {job : ι → Job}
    (ran : (start (.ofSettings settings)).run job acts = some m) :
    m.cache.settings = settings ∧ Told (fun i => (ofSettings settings).keyOf (job i)) acts m := by
  refine run_induction (P := fun acts m => m.cache.settings = settings ∧ Told _ acts m) ⟨rfl, ?_⟩
    (fun acts m act m' earlier taken => ?_) ran
  · exact ⟨fun _ _ => List.not_mem_nil, nofun, nofun, nofun⟩
  · obtain ⟨same, told⟩ := earlier
    exact ⟨taken.settings.trans same, taken.told (fun i => keyOf_of_settings same (job i)) told⟩

theorem claim_leads_iff (c : Cache) (k : String) :
    (c.claim (.missed k)).1 = .leading k ↔ c.flights.airborne.get? k = none := by
  rw [← Flights.acquire_leader_iff, claim]
  split <;> simp_all

theorem Point.guard?_of_not_under_way {point : Point} (idle : point.isUnderWay = false) :
    point.guard? = none := by
  cases point with
  | inPhase phase =>
    cases phase with
    | fresh | ended | dropped => rfl
    | apart | missed | leading | waiting | alone => cases idle
  | woken | computed | recorded | stored => cases idle

/-- Whatever calls are made on a cache at the same time, in whatever order their steps come and
wherever they are dropped or stop waiting, while values leave the cache as they may: a key is in
flight exactly while the guard of the one call that leads it is held, so a call that has missed its
key comes to lead it unless another one does, and nothing is in flight when no call is under way. A
value is returned for a key only if a call of this key has computed it, and an error only to the
call whose computation it comes from. What is cached under a key has been computed and stored by a
call of this key, and a call whose computation has failed puts nothing. -/
theorem coalescing_is_single_flight [DecidableEq ι] (settings : CacheSettings) (job : ι → Job)
    (acts : List (Act ι)) (m : Crowd ι)
    (ran : (start (.ofSettings settings)).run job acts = some m) :
    let keyOf i := (ofSettings settings).keyOf (job i)
    (∀ key i j, m.held i = some key → m.held j = some key → i = j) ∧
    (∀ key, m.cache.flights.airborne.contains key ↔ ∃ i, m.held i = some key) ∧
    (∀ key, (m.cache.claim (.missed key)).1 = .leading key ↔ ∀ i, m.held i ≠ some key) ∧
    ((∀ i, (m.point i).isUnderWay = false) → m.cache.flights.size = 0) ∧
    (∀ i value, m.point i = .inPhase (.ended (.ok value)) → Handed keyOf acts i value) ∧
    (∀ i fault, m.point i = .inPhase (.ended (.error fault)) → Made acts i (.error fault)) ∧
    (∀ key value, m.cache.peek key = some value → Known keyOf acts key value) ∧
    ∀ i fault, Made acts i (.error fault) → ∀ move, move.puts = true → .call i move ∉ acts := by
  have slots := slots_of_run rfl ran
  obtain ⟨-, told⟩ := told_of_run ran
  refine ⟨slots.single, slots.airborne, fun key => ?_, fun idle => ?_, fun i value ended => ?_,
    fun i fault ended => ?_, told.cached, fun i fault failed move puts mem => ?_⟩
  · rw [claim_leads_iff, slots.free_iff]
  · exact slots.size_eq_zero fun i => Point.guard?_of_not_under_way (idle i)
  · have account := told.calls i
    rwa [ended] at account
  · have account := told.calls i
    rwa [ended] at account
  · obtain ⟨value, made⟩ := told.puts i move puts mem
    cases told.once i _ _ failed made

/-! One who leads, one who hears, one who stops waiting and one who leaves -/

namespace Morning

inductive Reader where
  | first
  | patient
  | hasty
  | late
  deriving DecidableEq

/-- Everybody asks for the same books. -/
def wish (_ : Reader) : Job := ⟨some "books", "t", .ofList ["book"]⟩

/-- The first reader leads. The patient one waits and hears, the hasty one waits, stops and fails,
and the late one is dropped when it leads after the books have left the cache. -/
def course : List (Act Reader) :=
  [.call .first .look, .call .patient .look, .call .hasty .look, .call .first .claim,
    .call .patient .claim, .call .hasty .claim, .call .hasty .giveUp,
    .call .hasty (.compute (.error (.internal "lost"))), .call .hasty .finish,
    .call .first (.compute (.ok (.int 7))), .call .first .record, .call .first .insert,
    .call .first .finish, .call .patient .hear, .call .patient .reread, .evict "books",
    .call .late .look, .call .late .claim, .call .late .drop]

/-- What the patient reader is answered has been computed by one who asked for the books, and the
error that the hasty one is answered is that of its own computation, which has put nothing. Nothing
is in flight afterwards. -/
theorem followers_are_served :
    ∃ m : Crowd Reader, (start (.ofSettings .default)).run wish course = some m ∧
      m.point .patient = .inPhase (.ended (.ok (.int 7))) ∧
      (∃ i, (ofSettings .default).keyOf (wish i) = some "books" ∧
        Made course i (.ok (.int 7)) ∧ .call i .insert ∈ course) ∧
      m.point .hasty = .inPhase (.ended (.error (.internal "lost"))) ∧
      Made course .hasty (.error (.internal "lost")) ∧ .call .hasty .insert ∉ course ∧
      m.cache.flights.size = 0 := by
  obtain ⟨m, ran⟩ : ∃ m, (start (.ofSettings .default)).run wish course = some m :=
    Option.isSome_iff_exists.1 (by decide +kernel)
  obtain ⟨-, -, -, quiet, values, errors, -, silent⟩ :=
    coalescing_is_single_flight .default wish course m ran
  have served : m.point .patient = .inPhase (.ended (.ok (.int 7))) := by
    have found : ((start (.ofSettings .default)).run wish course).map (·.point .patient) =
        some (.inPhase (.ended (.ok (.int 7)))) := rfl
    rw [ran] at found
    exact Option.some.inj found
  have failed : m.point .hasty = .inPhase (.ended (.error (.internal "lost"))) := by
    have found : ((start (.ofSettings .default)).run wish course).map (·.point .hasty) =
        some (.inPhase (.ended (.error (.internal "lost")))) := rfl
    rw [ran] at found
    exact Option.some.inj found
  have stopped (i : Reader) : (m.point i).isUnderWay = false := by
    have found : ((start (.ofSettings .default)).run wish course).map
        (fun m => (m.point i).isUnderWay) = some false := by
      cases i <;> rfl
    rw [ran] at found
    exact Option.some.inj found
  exact ⟨m, ran, served, (values .patient _ served).known "books" rfl, failed,
    errors .hasty _ failed, silent .hasty _ (errors .hasty _ failed) .insert rfl, quiet stopped⟩

end Morning

end Crowd

end GuardedQuery.Cache
