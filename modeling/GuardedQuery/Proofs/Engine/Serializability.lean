import GuardedQuery.Proofs.Engine.Races
import GuardedQuery.Proofs.Store.Rollback
import GuardedQuery.Proofs.Writing.Instance

/-! Races come to the same as serving their requests one after another. Only one transaction is open
at a time, so what its request has left to do always leads to where its script leads by itself from
the store that the requests before it have left. In the order in which they have begun, all answers,
all calls and the store in the end are those of serving the requests in turn. -/

namespace GuardedQuery

/-- A lookup that has found its row is followed by reading only. -/
theorem Plan.getOrCreate_reads {p : Plan} {s between : Store} {row : Row}
    (found : p.lookUp.run s = (.ok (some row), between)) :
    ∀ c ∈ p.getOrCreate.made s, c.isWrite = false := by
  intro c mem
  unfold getOrCreate at mem
  change c ∈ (p.lookUp.bind _).made s at mem
  rw [Script.made_bind found] at mem
  rcases List.mem_append.1 mem with looking | showing
  · exact asks_lookUp.made s c looking
  · refine Script.Asks.made (P := fun c => c.isWrite = false)
      (Script.asks_check fun _ _ => ?_) between c showing
    exact Script.asks_bind (Access.asks_present (fun _ _ _ => rfl) _ _ row) fun _ =>
      Script.asks_done _

namespace Engine

namespace Race
variable {κ : Type} {r : Race κ} {st : State} {pt pt' : Point κ} {moves : List (Move κ)}
  {order : List κ} {j k : κ} {script rest : Script Written}

/-- Serves requests of a race one after another. -/
def serve (r : Race κ) (st : State) (order : List κ) : List Outcome × State :=
  r.engine.serve (order.map r.demand) st

/-- The store that requests of a race leave behind when they are served one after another. -/
def past (r : Race κ) (st : State) (order : List κ) : Store := (r.serve st order).2.store

theorem serve_concat (r : Race κ) (st : State) (order : List κ) (j : κ) :
    r.serve st (order ++ [j]) =
      ((r.serve st order).1 ++ (r.serve (r.serve st order).2 [j]).1,
        (r.serve (r.serve st order).2 [j]).2) := by
  rw [serve, List.map_append, serve_append]
  rfl

/-! What has been settled -/

/-- Requests have been answered, and have called, as if they had been served in turn. -/
structure Agrees (r : Race κ) (st : State) (pt : Point κ) (order : List κ) : Prop where
  answers : (r.serve st order).1.map some = order.map fun j => (pt.progress j).outcome?
  calls : r.engine.trails (order.map r.demand) st = order.map pt.calls
  closed : (r.past st order).saved = none

theorem agrees_nil (closed : st.store.saved = none) : r.Agrees st pt [] := ⟨rfl, rfl, closed⟩

theorem Agrees.keep (h : r.Agrees st pt order)
    (same : ∀ j ∈ order, pt'.progress j = pt.progress j ∧ pt'.calls j = pt.calls j) :
    r.Agrees st pt' order := by
  refine ⟨h.answers.trans ?_, h.calls.trans ?_, h.closed⟩
  · exact List.map_congr_left fun j mem => by rw [(same j mem).1]
  · exact List.map_congr_left fun j mem => (same j mem).2.symm

/-- The calls of each request are those that it makes at its turn. -/
theorem Agrees.calls_at {before after : List κ} (h : r.Agrees st pt (before ++ k :: after)) :
    pt.calls k = r.engine.trail (r.demand k) (r.past st before) := by
  have calls := h.calls
  rw [List.map_append, trails_append, List.map_append] at calls
  have lengths : (r.engine.trails (before.map r.demand) st).length =
      (before.map pt.calls).length := by
    rw [length_trails, List.length_map, List.length_map]
  exact (List.cons.inj (List.append_inj calls lengths).2).1.symm

theorem past_concat (known : r.engine.script? (r.demand j) = some script) :
    r.past st (order ++ [j]) = close (script.run (r.past st order).begin).1
      (script.run (r.past st order).begin).2 := by
  rw [past, serve_concat]
  exact (execute_script known (r.serve st order).2).2

theorem Agrees.concat (h : r.Agrees st pt order)
    (known : r.engine.script? (r.demand j) = some script)
    (answered : (pt.progress j).outcome? =
      some (r.engine.outcomeOf (script.run (r.past st order).begin).1))
    (called : pt.calls j = script.made (r.past st order).begin) :
    r.Agrees st pt (order ++ [j]) := by
  refine ⟨?_, ?_, ?_⟩
  · have last : (r.serve (r.serve st order).2 [j]).1 =
        [r.engine.outcomeOf (script.run (r.past st order).begin).1] :=
      congrArg (fun outcome => [outcome]) (execute_script known (r.serve st order).2).1
    rw [serve_concat, List.map_append, List.map_append, h.answers, last, List.map_singleton,
      List.map_singleton, answered]
  · rw [List.map_append, trails_append, h.calls, List.map_append, List.map_singleton,
      List.map_singleton, called, trails, trails, trail, known]
    rfl
  · rw [past_concat known]
    exact saved_close _ _

/-! What is under way -/

/-- The request that has begun last has its transaction open. What is left of its script leads to
where the whole script leads from the store before. -/
structure Underway (r : Race κ) (st : State) (moves : List (Move κ)) (pt : Point κ)
    (order : List κ) (j : κ) (rest : Script Written) : Prop where
  running : pt.progress j = .running rest
  alone : ∀ k, k ≠ j → (pt.progress k).isRunning = false
  last : ∃ earlier, begun moves = earlier ++ [j]
  opened : pt.store.saved ≠ none
  undone : pt.store.rollback = r.past st order
  ahead : ∃ script, r.engine.script? (r.demand j) = some script ∧
    rest.run pt.store = script.run (r.past st order).begin ∧
    pt.calls j ++ rest.made pt.store = script.made (r.past st order).begin

/-- No transaction is open, or one is. -/
def Stands (r : Race κ) (st : State) (moves : List (Move κ)) (pt : Point κ) (order : List κ) :
    Prop :=
  pt.Quiet ∧ pt.store = r.past st order ∨ ∃ j rest, r.Underway st moves pt order j rest

theorem Stands.underway (h : r.Stands st moves pt order) (running : pt.progress j = .running rest) :
    r.Underway st moves pt order j rest := by
  rcases h with ⟨quiet, _⟩ | ⟨k, rest', under⟩
  · have still := quiet j
    rw [running] at still
    cases still
  · by_cases same : j = k
    · subst same
      obtain rfl := Progress.running.inj (running.symm.trans under.running)
      exact under
    · have still := under.alone j same
      rw [running] at still
      cases still

theorem Stands.quiet (h : r.Stands st moves pt order) (closed : pt.store.saved = none) :
    pt.Quiet ∧ pt.store = r.past st order :=
  h.resolve_right fun ⟨_, _, under⟩ => under.opened closed

/-- What is so all along a race. -/
structure Serial (r : Race κ) (st : State) (moves : List (Move κ)) (pt : Point κ) : Prop where
  distinct : (begun moves).Nodup
  waits : ∀ j, pt.progress j = .waiting → j ∉ begun moves ∧ pt.calls j = []
  refused : ∀ j outcome, pt.progress j = .ended outcome → j ∉ begun moves →
    ∃ fault, r.engine.planOf (r.demand j) = .error fault ∧ outcome = ⟨.error fault, []⟩
  agrees : r.Agrees st pt (pt.order moves)
  stands : r.Stands st moves pt (pt.order moves)

theorem serial_start (closed : st.store.saved = none) : r.Serial st [] (.start st.store) :=
  ⟨.nil, fun _ _ => ⟨List.not_mem_nil, rfl⟩, nofun, agrees_nil closed, .inl ⟨fun _ => rfl, rfl⟩⟩

theorem begun_concat (moves : List (Move κ)) (a : Move κ) :
    begun (moves ++ [a]) = begun moves ++ begun [a] := List.filterMap_append

theorem begun_concat_silent {a : Move κ} (silent : begun [a] = []) :
    begun (moves ++ [a]) = begun moves := by
  rw [begun_concat, silent, List.append_nil]

/-- The request under way moves: it is answered, or the order stays as it was. -/
theorem Underway.order_after (under : r.Underway st moves pt order j rest)
    (distinct : (begun moves).Nodup) {a : Move κ} (silent : begun [a] = [])
    (others : ∀ k, k ≠ j → pt'.progress k = pt.progress k) :
    pt'.order (moves ++ [a]) =
      pt.order moves ++ if (pt'.progress j).outcome?.isSome then [j] else [] := by
  obtain ⟨earlier, last⟩ := under.last
  rw [last] at distinct
  have ne {k : κ} (mem : k ∈ earlier) : k ≠ j := by
    rintro rfl
    exact (List.nodup_append.1 distinct).2.2 k mem k List.mem_cons_self rfl
  have unanswered : (pt.progress j).outcome?.isSome = false := by
    rw [under.running]
    rfl
  rw [Point.order, Point.order, begun_concat_silent silent, last, List.filter_append,
    List.filter_append, List.filter_singleton, List.filter_singleton, unanswered]
  refine congrArg₂ (· ++ ·) ?_ (Bool.cond_eq_ite _ _ _)
  refine (List.filter_congr fun k mem => ?_).trans (List.append_nil _).symm
  rw [others k (ne mem)]

/-- The request under way moves, and what is said of the others stays. -/
theorem Serial.move (h : r.Serial st moves pt)
    (under : r.Underway st moves pt (pt.order moves) j rest) {a : Move κ} (silent : begun [a] = [])
    (others : ∀ k, k ≠ j → pt'.progress k = pt.progress k ∧ pt'.calls k = pt.calls k)
    (begins : pt'.progress j ≠ .waiting)
    (agrees : r.Agrees st pt' (pt'.order (moves ++ [a])))
    (stands : r.Stands st (moves ++ [a]) pt' (pt'.order (moves ++ [a]))) :
    r.Serial st (moves ++ [a]) pt' := by
  have same : begun (moves ++ [a]) = begun moves := begun_concat_silent silent
  have there : j ∈ begun moves := by
    obtain ⟨earlier, last⟩ := under.last
    simp [last]
  refine ⟨by rw [same]; exact h.distinct, fun k waits => ?_, fun k outcome ended off => ?_, agrees,
    stands⟩
  · have ne : k ≠ j := by
      rintro rfl
      exact begins waits
    rw [same, (others k ne).2]
    exact h.waits k ((others k ne).1.symm.trans waits)
  · rw [same] at off
    have ne : k ≠ j := by
      rintro rfl
      exact off there
    exact h.refused k outcome ((others k ne).1.symm.trans ended) off

/-- The request under way is not among those that have been answered. -/
theorem Underway.ne_of_mem (under : r.Underway st moves pt order j rest)
    (mem : k ∈ pt.order moves) : k ≠ j := by
  rintro rfl
  have answered := (List.mem_filter.1 mem).2
  rw [under.running] at answered
  cases answered

section Moves
variable [DecidableEq κ]

/-- A request that has not begun leaves, refused or dropped. -/
theorem Serial.leave (h : r.Serial st moves pt) {a : Move κ} (silent : begun [a] = [])
    (waiting : pt.progress j = .waiting) {progress : Progress}
    (left : progress = .dropped ∨ ∃ fault, r.engine.planOf (r.demand j) = .error fault ∧
      progress = .ended ⟨.error fault, []⟩) :
    r.Serial st (moves ++ [a]) (pt.bring j progress pt.store) := by
  have same : begun (moves ++ [a]) = begun moves := begun_concat_silent silent
  have ne {k : κ} (mem : k ∈ begun moves) : k ≠ j := by
    rintro rfl
    exact (h.waits k waiting).1 mem
  have still : progress.isRunning = false := by
    rcases left with rfl | ⟨_, _, rfl⟩ <;> rfl
  have kept : (pt.bring j progress pt.store).order (moves ++ [a]) = pt.order moves := by
    rw [Point.order, same]
    exact List.filter_congr fun k mem => by rw [Point.bring_progress_of_ne (ne mem)]
  refine ⟨by rw [same]; exact h.distinct, fun k waits => ?_, fun k outcome ended off => ?_, ?_, ?_⟩
  · rw [same]
    refine h.waits k ?_
    by_cases here : k = j
    · rwa [here]
    · rwa [Point.bring_progress_of_ne here] at waits
  · rw [same] at off
    by_cases here : k = j
    · subst here
      rw [Point.bring_progress_self] at ended
      rcases left with rfl | ⟨fault, turned, rfl⟩
      · cases ended
      · exact ⟨fault, turned, (Progress.ended.inj ended).symm⟩
    · rw [Point.bring_progress_of_ne here] at ended
      exact h.refused k outcome ended off
  · rw [kept]
    exact h.agrees.keep fun k mem =>
      ⟨Point.bring_progress_of_ne (ne (List.mem_of_mem_filter mem)) _ _, rfl⟩
  · rw [kept]
    rcases h.stands with ⟨quiet, store⟩ | ⟨k, rest, under⟩
    · refine .inl ⟨fun k => ?_, store⟩
      by_cases here : k = j
      · rwa [here, Point.bring_progress_self]
      · rw [Point.bring_progress_of_ne here]
        exact quiet k
    · have other : k ≠ j := by
        rintro rfl
        cases waiting.symm.trans under.running
      refine .inr ⟨k, rest, ?_, fun l differs => ?_, ?_, under.opened, under.undone, under.ahead⟩
      · rw [Point.bring_progress_of_ne other]
        exact under.running
      · by_cases here : l = j
        · rwa [here, Point.bring_progress_self]
        · rw [Point.bring_progress_of_ne here]
          exact under.alone l differs
      · rw [same]
        exact under.last

theorem Serial.begin (h : r.Serial st moves pt) (waiting : pt.progress j = .waiting)
    (known : r.engine.script? (r.demand j) = some script) (closed : pt.store.saved = none) :
    r.Serial st (moves ++ [.begin j]) (pt.bring j (.running script) pt.store.begin) := by
  obtain ⟨fresh, silent⟩ := h.waits j waiting
  obtain ⟨quiet, store⟩ := h.stands.quiet closed
  have grown : begun (moves ++ [.begin j]) = begun moves ++ [j] := begun_concat _ _
  have ne {k : κ} (mem : k ∈ begun moves) : k ≠ j := by
    rintro rfl
    exact fresh mem
  have kept : (pt.bring j (.running script) pt.store.begin).order (moves ++ [.begin j]) =
      pt.order moves := by
    rw [Point.order, grown, List.filter_append, List.filter_singleton, Point.bring_progress_self]
    refine (List.append_nil _).trans (List.filter_congr fun k mem => ?_)
    rw [Point.bring_progress_of_ne (ne mem)]
  refine ⟨?_, fun k waits => ?_, fun k outcome ended off => ?_, ?_, ?_⟩
  · rw [grown]
    exact List.nodup_append.2 ⟨h.distinct, List.nodup_singleton j, fun k mem l last =>
      List.mem_singleton.1 last ▸ ne mem⟩
  · have here : k ≠ j := by
      rintro rfl
      rw [Point.bring_progress_self] at waits
      cases waits
    rw [Point.bring_progress_of_ne here] at waits
    obtain ⟨off, none⟩ := h.waits k waits
    refine ⟨?_, none⟩
    rw [grown, List.mem_append, List.mem_singleton]
    exact not_or.2 ⟨off, here⟩
  · rw [grown, List.mem_append, List.mem_singleton] at off
    rw [Point.bring_progress_of_ne (fun here => off (.inr here))] at ended
    exact h.refused k outcome ended fun mem => off (.inl mem)
  · rw [kept]
    exact h.agrees.keep fun k mem =>
      ⟨Point.bring_progress_of_ne (ne (List.mem_of_mem_filter mem)) _ _, rfl⟩
  · rw [kept]
    refine .inr ⟨j, script, Point.bring_progress_self _ _, fun k differs => ?_, ⟨_, grown⟩, nofun,
      ?_, script, known, ?_, ?_⟩
    · rw [Point.bring_progress_of_ne differs]
      exact quiet k
    · exact (Store.rollback_begin _ closed).trans store
    · exact congrArg (fun s => script.run s.begin) store
    · change pt.calls j ++ script.made pt.store.begin = _
      rw [silent, List.nil_append, store]

theorem Serial.call (h : r.Serial st moves pt) {c : Store.Call} {next : c.Reply → Script Written}
    (running : pt.progress j = .running (.call c next)) :
    r.Serial st (moves ++ [.call j]) (pt.make j c next) := by
  have under := h.stands.underway running
  have others (k : κ) (ne : k ≠ j) : (pt.make j c next).progress k = pt.progress k ∧
      (pt.make j c next).calls k = pt.calls k :=
    ⟨Point.make_progress_of_ne ne c next, Point.make_calls_of_ne ne c next⟩
  have now : (pt.make j c next).progress j = .running (.resume next (pt.store.answer c).1) :=
    Point.bring_progress_self _ (pt.store.answer c).2
  have kept : (pt.make j c next).order (moves ++ [.call j]) = pt.order moves := by
    rw [under.order_after h.distinct rfl fun k ne => (others k ne).1, now]
    exact List.append_nil _
  refine h.move under rfl others (by rw [now]; nofun) ?_ ?_
  · rw [kept]
    exact h.agrees.keep fun k mem => others k (under.ne_of_mem mem)
  · rw [kept]
    obtain ⟨script, known, ahead, calls⟩ := under.ahead
    refine .inr ⟨j, _, now, fun k ne => ?_, ?_, ?_, ?_, script, known, ?_, ?_⟩
    · rw [(others k ne).1]
      exact under.alone k ne
    · rw [begun_concat_silent rfl]
      exact under.last
    · change (pt.store.answer c).2.saved ≠ none
      rw [(pt.store.works_answer c).saved]
      exact under.opened
    · exact (Store.rollback_answer under.opened c).trans under.undone
    · exact (Script.run_call c next pt.store).symm.trans ahead
    · have own : (pt.make j c next).calls j = pt.calls j ++ [c] := by simp [Point.make]
      rw [own, List.append_assoc, ← calls, Script.made_call]
      rfl

/-- The transaction ends, and no other one is open. -/
theorem Underway.quiet (under : r.Underway st moves pt order j rest) {progress : Progress}
    (still : progress.isRunning = false) (store : Store) : (pt.bring j progress store).Quiet := by
  intro k
  by_cases here : k = j
  · rwa [here, Point.bring_progress_self]
  · rw [Point.bring_progress_of_ne here]
    exact under.alone k here

theorem Serial.finish (h : r.Serial st moves pt) {result : Except Error Written}
    (running : pt.progress j = .running (.done result)) :
    r.Serial st (moves ++ [.finish j])
      (pt.bring j (.ended (r.engine.outcomeOf result)) (close result pt.store)) := by
  have under := h.stands.underway running
  have others (k : κ) (ne : k ≠ j) :
      (pt.bring j (.ended (r.engine.outcomeOf result)) (close result pt.store)).progress k =
        pt.progress k := Point.bring_progress_of_ne ne _ _
  have now : (pt.bring j (.ended (r.engine.outcomeOf result)) (close result pt.store)).progress j =
      .ended (r.engine.outcomeOf result) := Point.bring_progress_self _ _
  have grown := under.order_after (a := .finish j) h.distinct rfl others
  rw [now] at grown
  obtain ⟨script, known, ahead, calls⟩ := under.ahead
  rw [Script.run_done] at ahead
  refine h.move under rfl (fun k ne => ⟨others k ne, rfl⟩) (by rw [now]; nofun) ?_ ?_
  · rw [grown]
    refine (h.agrees.keep fun k mem => ⟨others k (under.ne_of_mem mem), rfl⟩).concat known ?_ ?_
    · rw [now, ← ahead]
      rfl
    · exact (List.append_nil _).symm.trans calls
  · refine .inl ⟨under.quiet rfl _, ?_⟩
    rw [grown]
    refine Eq.trans ?_ (past_concat known).symm
    rw [← ahead]
    rfl

theorem Serial.abandon (h : r.Serial st moves pt) (running : pt.progress j = .running rest) :
    r.Serial st (moves ++ [.drop j]) (pt.bring j .dropped pt.store.rollback) := by
  have under := h.stands.underway running
  have others (k : κ) (ne : k ≠ j) :
      (pt.bring j .dropped pt.store.rollback).progress k = pt.progress k :=
    Point.bring_progress_of_ne ne _ _
  have now : (pt.bring j .dropped pt.store.rollback).progress j = .dropped :=
    Point.bring_progress_self _ _
  have kept : (pt.bring j .dropped pt.store.rollback).order (moves ++ [.drop j]) =
      pt.order moves := by
    rw [under.order_after h.distinct rfl others, now]
    exact List.append_nil _
  refine h.move under rfl (fun k ne => ⟨others k ne, rfl⟩) (by rw [now]; nofun) ?_ ?_
  · rw [kept]
    exact h.agrees.keep fun k mem => ⟨others k (under.ne_of_mem mem), rfl⟩
  · rw [kept]
    exact .inl ⟨under.quiet rfl _, under.undone⟩

theorem Serial.takes (h : r.Serial st moves pt) {a : Move κ} (taken : r.Takes pt a pt') :
    r.Serial st (moves ++ [a]) pt' := by
  cases taken with
  | @refuse j fault waiting turned => exact h.leave rfl waiting (.inr ⟨fault, turned, rfl⟩)
  | begin waiting known closed => exact h.begin waiting known closed
  | call running => exact h.call running
  | finish running => exact h.finish running
  | withdraw waiting => exact h.leave rfl waiting (.inl rfl)
  | abandon running => exact h.abandon running

theorem serial_of_run (closed : st.store.saved = none)
    (ran : r.run (.start st.store) moves = some pt) : r.Serial st moves pt :=
  run_induction (serial_start closed) (fun _ _ _ _ h taken => h.takes taken) ran

/-- When no transaction is open any more, the store is the one that the answered requests lead to
one after another in the order in which they had begun, and so is every answer; a request that was
answered without having begun would have been turned away at any time. A request whose lookup finds
a row at its turn has inserted none, so of two requests that look up the same only one has. -/
theorem mutations_are_serializable (r : Race κ) {s : Store} (closed : s.saved = none)
    (cache : Cache) {moves : List (Move κ)} {pt : Point κ}
    (ran : r.run (.start s) moves = some pt) (quiet : pt.Quiet) :
    (pt.order moves).Nodup ∧
    r.past ⟨s, cache⟩ (pt.order moves) = pt.store ∧
    (r.serve ⟨s, cache⟩ (pt.order moves)).1.map some =
      (pt.order moves).map (fun j => (pt.progress j).outcome?) ∧
    (∀ j outcome, pt.progress j = .ended outcome → j ∉ pt.order moves → ∀ st,
      r.engine.execute (r.demand j).model (r.demand j).query (r.demand j).request st =
        (outcome, st)) ∧
    ∀ before k after, pt.order moves = before ++ k :: after →
      ∀ p, r.engine.planOf (r.demand k) = .ok p → p.query.operation = .getOrCreate →
        ∀ row between, p.lookUp.run (r.past ⟨s, cache⟩ before).begin = (.ok (some row), between) →
          ∀ c ∈ pt.calls k, c.isWrite = false := by
  have serial : r.Serial ⟨s, cache⟩ moves pt := serial_of_run closed ran
  refine ⟨serial.distinct.filter _, ?_, serial.agrees.answers, ?_, ?_⟩
  · rcases serial.stands with ⟨_, store⟩ | ⟨j, rest, under⟩
    · exact store.symm
    · have still := quiet j
      rw [under.running] at still
      cases still
  · intro j outcome ended off st
    have before : j ∉ begun moves := fun mem =>
      off (List.mem_filter.2 ⟨mem, by rw [ended]; rfl⟩)
    obtain ⟨fault, turned, rfl⟩ := serial.refused j outcome ended before
    exact execute_refused turned st
  · intro before k after place p planned op row between found c made
    have agrees := serial.agrees
    rw [place] at agrees
    have writing : r.engine.handling p = .writing p.getOrCreate := by rw [handling, op]
    rw [agrees.calls_at, trail, script?_of_plan planned writing] at made
    exact Plan.getOrCreate_reads found c made

/-! Every order is that of some race. -/

theorem run_cons {a : Move κ} {more : List (Move κ)} {between : Point κ}
    (taken : r.Takes pt a between) (ran : r.run between more = some pt') :
    r.run pt (a :: more) = some pt' := by
  rw [run, List.foldlM_cons, step_of_takes taken]
  exact ran

/-- Some moves lead from one point to another at which a request has been answered, and no other
request has moved. -/
structure Ends (r : Race κ) (pt : Point κ) (j : κ) (moves : List (Move κ)) (pt' : Point κ) :
    Prop where
  ran : r.run pt moves = some pt'
  answered : (pt'.progress j).outcome?.isSome = true
  closed : pt'.store.saved = none
  others : ∀ k, k ≠ j → pt'.progress k = pt.progress k

theorem exists_ends_of_done {result : Except Error Written}
    (running : pt.progress j = .running (.done result)) :
    ∃ more pt', r.Ends pt j more pt' ∧ begun more = [] := by
  refine ⟨[.finish j], _, ⟨run_cons (.finish running) rfl, ?_, saved_close _ _, fun k ne => ?_⟩,
    rfl⟩
  · rw [Point.bring_progress_self]
    rfl
  · exact Point.bring_progress_of_ne ne _ _

/-- An open transaction can be brought to its end. -/
theorem exists_ends_of_running (running : pt.progress j = .running rest) :
    ∃ more pt', r.Ends pt j more pt' ∧ begun more = [] := by
  induction rest generalizing pt with
  | done result => exact exists_ends_of_done running
  | call c next ih =>
    have now : (pt.make j c next).progress j = .running (.resume next (pt.store.answer c).1) :=
      Point.bring_progress_self _ (pt.store.answer c).2
    have further : ∃ more pt', r.Ends (pt.make j c next) j more pt' ∧ begun more = [] := by
      cases answered : (pt.store.answer c).1 with
      | ok reply =>
        rw [answered] at now
        exact ih reply now
      | error fault =>
        rw [answered] at now
        exact exists_ends_of_done now
    obtain ⟨more, pt', ⟨ran, answered, closed, others⟩, silent⟩ := further
    exact ⟨.call j :: more, pt', ⟨run_cons (.call running) ran, answered, closed, fun k ne =>
      (others k ne).trans (Point.make_progress_of_ne ne c next)⟩, silent⟩

theorem exists_ends_of_waiting (waiting : pt.progress j = .waiting)
    (known : r.engine.script? (r.demand j) = some script) (closed : pt.store.saved = none) :
    ∃ more pt', r.Ends pt j more pt' ∧ begun more = [j] := by
  have now : (pt.bring j (.running script) pt.store.begin).progress j = .running script :=
    Point.bring_progress_self _ _
  obtain ⟨more, pt', ⟨ran, answered, closed', others⟩, silent⟩ :=
    exists_ends_of_running (r := r) now
  refine ⟨.begin j :: more, pt', ⟨run_cons (.begin waiting known closed) ran, answered, closed',
    fun k ne => (others k ne).trans (Point.bring_progress_of_ne ne _ _)⟩, ?_⟩
  exact congrArg (j :: ·) silent

/-- Whatever the order, requests that are not turned away can be put and answered in it. -/
theorem exists_race_in_order (r : Race κ) {s : Store} (closed : s.saved = none) {order : List κ}
    (distinct : order.Nodup) (scripts : ∀ j ∈ order, (r.engine.script? (r.demand j)).isSome) :
    ∃ moves pt, r.run (.start s) moves = some pt ∧ pt.Quiet ∧ pt.order moves = order := by
  -- requests that are not in the order are left waiting
  have whole : ∃ moves pt, r.run (.start s) moves = some pt ∧ begun moves = order ∧
      pt.store.saved = none ∧ (∀ j ∈ order, (pt.progress j).outcome?.isSome = true) ∧
      ∀ j, j ∉ order → pt.progress j = .waiting := by
    induction order using List.reverseRecOn with
    | nil => exact ⟨[], _, rfl, rfl, closed, nofun, fun _ _ => rfl⟩
    | append_singleton earlier j ih =>
      obtain ⟨first, _, apart⟩ := List.nodup_append.1 distinct
      obtain ⟨moves, pt, ran, begins, shut, done, others⟩ :=
        ih first fun k mem => scripts k (List.mem_append_left _ mem)
      have fresh : j ∉ earlier := fun mem => apart j mem j List.mem_cons_self rfl
      obtain ⟨script, known⟩ := Option.isSome_iff_exists.1 (scripts j (by simp))
      obtain ⟨more, pt', ends, last⟩ := exists_ends_of_waiting (others j fresh) known shut
      refine ⟨moves ++ more, pt', ?_, ?_, ends.closed, fun k mem => ?_, fun k off => ?_⟩
      · rw [run, List.foldlM_append]
        exact Option.bind_eq_some_iff.2 ⟨pt, ran, ends.ran⟩
      · rw [begun, List.filterMap_append]
        exact congrArg₂ (· ++ ·) begins last
      · by_cases here : k = j
        · exact here ▸ ends.answered
        · rw [ends.others k here]
          exact done k ((List.mem_append.1 mem).resolve_right (by simpa using here))
      · rw [List.mem_append, List.mem_singleton, not_or] at off
        rw [ends.others k off.2]
        exact others k off.1
  obtain ⟨moves, pt, ran, begins, _, done, others⟩ := whole
  refine ⟨moves, pt, ran, fun j => ?_, ?_⟩
  · by_cases mem : j ∈ order
    · have answered := done j mem
      cases progress : pt.progress j with
      | running rest =>
        rw [progress] at answered
        cases answered
      | waiting | ended | dropped => rfl
    · rw [others j mem]
      rfl
  · rw [Point.order, begins]
    exact List.filter_eq_self.2 done

end Moves

end Race

end Engine

namespace Pages
open Engine

def page : Model :=
  { Model.ofSchema ((Schema.ofKey "page" "id").withField ⟨"url", .scalar⟩) with
    guards := [Guard.allowAll] }

def engine : Engine := ⟨⟨.ofList [("page", page)]⟩, .default, none, fun _ => .ok ()⟩

/-- Finds the page of a text, or creates it. -/
def finding : Demand :=
  ⟨"page", { Query.plain .getOrCreate with lookup := [("url", .str "/")] }, .anonymous⟩

def adding : Demand :=
  ⟨"page", { Query.plain .create with data := some (.obj [("url", .str "/b")]) }, .anonymous⟩

def lost : Demand := ⟨"sheet", Query.plain .create, .anonymous⟩

/-- Two requests that look the same page up, one that creates another page, and one that is turned
away. -/
def race : Race (Fin 4) := ⟨engine, ![finding, finding, adding, lost]⟩

def plan : Plan where
  access := engine.accessOf .anonymous
  model := page
  name := "page"
  query := finding.query
  selection := page.scope .anonymous (.ofModel "page")
  depth := 0
  outline := .ofList [("page", .ofList ["id", "url"])]

theorem planned : engine.planOf finding = .ok plan := rfl

/-- The page of the third request is inserted, and gone when the request is dropped. -/
def moves : List (Move (Fin 4)) :=
  [.begin 2, .call 2, .drop 2, .begin 1, .call 1, .refuse 3, .call 1, .finish 1,
    .begin 0, .call 0, .finish 0]

def blank : Store := .ofCatalog engine.catalog

theorem page_is_inserted_once : ∃ pt, race.run (.start blank) moves = some pt ∧
    pt.Quiet ∧ race.past ⟨blank, .ofSettings .default⟩ [1, 0] = pt.store ∧
    pt.store.size "page" = 1 ∧ (pt.calls 1).any (·.isWrite) ∧
    ∀ c ∈ pt.calls 0, c.isWrite = false := by
  have good : (race.run (.start blank) moves).any (fun pt =>
      decide (∀ j, (pt.progress j).isRunning = false) && decide (pt.order moves = [1, 0]) &&
      decide (pt.store.size "page" = 1) && (pt.calls 1).any (·.isWrite)) = true := by
    decide +kernel
  have finds : (plan.lookUp.run (race.past ⟨blank, .ofSettings .default⟩ [1]).begin).1.toOption.any
      (·.isSome) = true := by
    decide +kernel
  cases ran : race.run (.start blank) moves with
  | none =>
    rw [ran] at good
    cases good
  | some pt =>
    simp only [ran, Option.any_some, Bool.and_eq_true, decide_eq_true_eq] at good
    obtain ⟨⟨⟨quiet, order⟩, size⟩, inserts⟩ := good
    obtain ⟨_, store, _, _, idle⟩ :=
      Engine.Race.mutations_are_serializable race rfl (.ofSettings .default) ran quiet
    rw [order] at store idle
    refine ⟨pt, rfl, quiet, store, size, inserts, ?_⟩
    generalize found : plan.lookUp.run _ = result at finds
    rcases result with ⟨_ | _ | row, between⟩
    · cases finds
    · cases finds
    · exact idle [1] 0 [] rfl plan planned rfl row between found

end Pages

end GuardedQuery
