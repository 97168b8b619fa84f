import GuardedQuery.Proofs.Plan
import GuardedQuery.Proofs.Vetting.Inspection
import GuardedQuery.Proofs.Vetting.Walk
import Mathlib.Data.Option.Basic

/-! Vetting under two sets of guards, the second of which lets more fields be read. What comes out
under the first comes out under the second as well, unless it was that a field may not be read. So
granting more turns away no query that was let through, and hides no fault of its form. -/

namespace GuardedQuery

namespace Checks
variable {α β : Type}

/-- Both outcomes are the same, unless the first is that something is not permitted. -/
def Persists (x y : Except Error α) : Prop :=
  (∀ detail, x ≠ .error (.permissionDenied detail)) → y = x

theorem Persists.refl (x : Except Error α) : Persists x x := fun _ => rfl

theorem persists_denied (detail : String) (y : Except Error α) :
    Persists (.error (.permissionDenied detail)) y := fun h => absurd rfl (h detail)

/-- The first outcome that is not a success decides a chain. -/
theorem Persists.bind {x y : Except Error α} {f g : α → Except Error β} (first : Persists x y)
    (others : ∀ a, Persists (f a) (g a)) : Persists (x >>= f) (y >>= g) := by
  intro permitted
  have same : y = x := first fun detail denied => by
    rw [denied] at permitted
    exact permitted detail rfl
  subst same
  cases y with
  | error e => rfl
  | ok a => exact others a permitted

theorem persists_forM {f g : α → Except Error Unit} (each : ∀ a, Persists (f a) (g a))
    (xs : List α) : Persists (xs.forM f) (xs.forM g) := by
  induction xs with
  | nil => exact .refl _
  | cons x rest ih => exact (each x).bind fun _ => ih

end Checks

/-- A model apart from who may do what with it. -/
def Model.bare (m : Model) : Model := { m with guards := [] }

theorem Model.isKey_of_bare {m n : Model} (same : n.bare = m.bare) (name : String) :
    n.isKey name = m.isKey name :=
  (congrArg (fun m : Model => m.isKey name) same :)

theorem NameSet.isEmpty_of_subset {s t : NameSet} (inside : ∀ name ∈ s, name ∈ t)
    (empty : t.isEmpty = true) : s.isEmpty = true := by
  rw [NameSet.isEmpty, List.isEmpty_iff] at empty ⊢
  refine List.eq_nil_iff_forall_not_mem.2 fun name mem => ?_
  have there := inside name mem
  rw [NameSet.mem_def, empty] at there
  cases there

/-- An inspection that more fields are permitted in comes to the same. -/
theorem PathUse.inspect_persists (use : PathUse) (path model : String) (atRoot : Bool) {m n : Model}
    (same : n.bare = m.bare) {allowed more : NameSet} (wider : ∀ name ∈ allowed, name ∈ more)
    (name : String) (last : Bool) :
    Checks.Persists (use.inspect path model atRoot m allowed name last)
      (use.inspect path model atRoot n more name last) := by
  have key : n.isKey name = m.isKey name := Model.isKey_of_bare same name
  have computed : n.computed? name = m.computed? name :=
    (congrArg (fun m : Model => m.computed? name) same :)
  have kinds : n.kind? name = m.kind? name := (congrArg (fun m : Model => m.kind? name) same :)
  -- without the field among the permitted ones nothing has to persist
  have granted {x y : Except Error (Option String)} (persists : Checks.Persists x y) :
      Checks.Persists (if !allowed.contains name then .error (use.denied path) else x)
        (if !more.contains name then .error (use.denied path) else y) := by
    cases permitted : allowed.contains name with
    | false => exact Checks.persists_denied _ _
    | true =>
      have still : more.contains name = true :=
        NameSet.contains_iff.2 (wider name (NameSet.contains_iff.1 permitted))
      rw [still]
      exact persists
  unfold inspect
  rw [key, computed, kinds]
  split
  · cases atRoot with
    | true => exact .refl _
    | false =>
      cases blank : allowed.isEmpty with
      | true => exact Checks.persists_denied _ _
      | false =>
        have still : more.isEmpty = false := by
          by_contra empty
          rw [NameSet.isEmpty_of_subset wider (by simpa using empty)] at blank
          cases blank
        rw [still]
        exact .refl _
  split
  · split
    · exact .refl _
    · exact granted (.refl _)
  · split
    · exact .refl _
    · exact granted (.refl _)

namespace Access
open Checks (Persists)

/-- Both have the same schemas and options, and the second can read all that the first can. -/
structure Widens (a b : Access) : Prop where
  unknown : b.rules.unknownFields = a.rules.unknownFields
  models : ∀ name, (b.catalog.model? name).map Model.bare = (a.catalog.model? name).map Model.bare
  reads : ∀ name m n, a.catalog.model? name = some m → b.catalog.model? name = some n →
    ∀ field ∈ m.fields a.request .read, field ∈ n.fields b.request .read

namespace Widens
variable {a b : Access}

/-- A model is looked up with the same success, and what is done with it may differ. -/
theorem get_bind {α : Type} (h : a.Widens b) (model : String) {f g : Model → Except Error α}
    (each : ∀ m n, n.bare = m.bare →
      (∀ field ∈ m.fields a.request .read, field ∈ n.fields b.request .read) →
      Persists (f m) (g n)) :
    Persists (a.catalog.get model >>= f) (b.catalog.get model >>= g) := by
  have same := h.models model
  unfold Catalog.get
  cases found : a.catalog.model? model with
  | none =>
    rw [found, Option.map_none, Option.map_eq_none_iff] at same
    rw [same]
    exact .refl _
  | some m =>
    rw [found, Option.map_some, Option.map_eq_some_iff] at same
    obtain ⟨n, found', bare⟩ := same
    rw [found']
    exact each m n bare (h.reads model m n found found')

theorem walk (h : a.Widens b) (use : PathUse) (path : String) (atRoot : Bool) (model : String)
    (names : List String) :
    Persists (a.walk use path atRoot model names) (b.walk use path atRoot model names) := by
  induction names generalizing atRoot model with
  | nil => exact .refl _
  | cons name rest ih =>
    rw [walk_cons, walk_cons]
    split
    · exact .refl _
    refine h.get_bind model fun m n bare wider => ?_
    refine (use.inspect_persists path model atRoot bare wider name rest.isEmpty).bind fun next => ?_
    cases next with
    | none => exact .refl _
    | some target => exact ih false target

theorem vetPath (h : a.Widens b) (model : String) (use : PathUse) (path : String) :
    Persists (a.vetPath model use path) (b.vetPath model use path) :=
  h.walk use path true model (fieldNames path)

theorem vetTree (h : a.Widens b) (model : String) (tree : FilterTree) :
    Persists (a.vetTree model tree) (b.vetTree model tree) :=
  Checks.persists_forM (fun key => h.vetPath model .filter key) tree.keys

theorem vetOutput (h : a.Widens b) (model path : String) :
    Persists (a.vetOutput model path) (b.vetOutput model path) := by
  intro permitted
  have same : b.vetPath model .output path = a.vetPath model .output path := by
    refine h.vetPath model .output path fun detail denied => ?_
    rw [Access.vetOutput, denied] at permitted
    exact permitted detail rfl
  have rule : b.rejectsUnknown = a.rejectsUnknown := by
    rw [rejectsUnknown, rejectsUnknown, h.unknown]
  rw [Access.vetOutput, Access.vetOutput, same, rule]

theorem vetOrder (h : a.Widens b) (model : String) (order : List String) :
    Persists (a.vetOrder model order) (b.vetOrder model order) := by
  refine h.get_bind model fun m n bare _ => Checks.persists_forM (fun text => ?_) order
  have orderable : n.orderable = m.orderable := (congrArg Model.orderable bare :)
  refine (h.vetPath model .order _).bind fun _ => ?_
  simp only [orderable, Model.isKey_of_bare bare]
  exact .refl _

theorem vetAggregate (h : a.Widens b) (model path : String) :
    Persists (a.vetAggregate model path) (b.vetAggregate model path) :=
  h.vetPath model .aggregate path

end Widens

/-- A query that is not turned away for a field that may not be read is vetted alike when more can
be read: it is let through, or it fails in the same way. -/
theorem vetting_persists {a b : Access} (wider : a.Widens b) (model : String) (q : Query)
    (permitted : ∀ detail, a.vet model q ≠ .error (.permissionDenied detail)) :
    b.vet model q = a.vet model q := by
  refine (?_ : Persists (a.vet model q) (b.vet model q)) permitted
  refine (Checks.persists_forM (wider.vetOutput model) _).bind fun _ => ?_
  refine (wider.vetTree model _).bind fun _ => ?_
  refine (wider.vetTree model _).bind fun _ => ?_
  refine (Checks.persists_forM (fun key => wider.vetPath model .filter key) _).bind fun _ => ?_
  refine (wider.vetOrder model _).bind fun _ => ?_
  have others := Checks.persists_forM (fun term : AggregateTerm =>
    wider.vetAggregate model term.field) q.aggregates
  split
  · exact (Checks.persists_forM (wider.vetAggregate model) _).bind fun _ => others
  · exact others

end Access

namespace Diaries

/-- Diaries whose title and text are kept; the guard says which of their fields can be read. -/
def diary (readable : FieldGrant) : Model :=
  { Model.ofSchema (((Schema.ofKey "diary" "id").withField ⟨"title", .scalar⟩).withField
      ⟨"entry", .scalar⟩) with
    guards := [{ Guard.allowAll with fields := fun _ _ => readable }] }

def access (readable : FieldGrant) : Access :=
  ⟨⟨.ofList [("diary", diary readable)]⟩, .anonymous, .default⟩

def titles : Access := access (.only (.ofList ["title"]))

def everything : Access := access .all

theorem model_of_name {readable : FieldGrant} {name : String} {m : Model}
    (found : (access readable).catalog.model? name = some m) : m = diary readable :=
  List.mem_singleton.1 (Catalog.mem_values_of_model? found)

theorem widens : titles.Widens everything where
  unknown := rfl
  models name := by
    change (Entries.get? [("diary", _)] name).map Model.bare =
      (Entries.get? [("diary", _)] name).map Model.bare
    rw [Entries.get?_cons, Entries.get?_cons]
    split <;> rfl
  reads name m n found found' := by
    rw [model_of_name found, model_of_name found']
    decide +kernel

def reading (fields : List String) : Query := { Query.plain .read with fields }

/-- What is let through stays so, and what does not exist stays missing. What may not be read is
turned away at first only. -/
theorem diaries_vetted_alike :
    everything.vet "diary" (reading ["title"]) = .ok () ∧
    everything.vet "diary" (reading ["title", "mood"]) =
      .error (PathUse.missing .output "mood" "diary") ∧
    titles.vet "diary" (reading ["entry", "mood"]) = .error (PathUse.denied .output "entry") ∧
    everything.vet "diary" (reading ["entry", "mood"]) =
      .error (PathUse.missing .output "mood" "diary") := by
  have shown : titles.vet "diary" (reading ["title"]) = .ok () := rfl
  have missing : titles.vet "diary" (reading ["title", "mood"]) =
    .error (PathUse.missing .output "mood" "diary") := rfl
  refine ⟨?_, ?_, rfl, rfl⟩
  · rw [Access.vetting_persists widens, shown]
    rw [shown]
    exact nofun
  · rw [Access.vetting_persists widens, missing]
    rw [missing]
    exact nofun

end Diaries

end GuardedQuery
