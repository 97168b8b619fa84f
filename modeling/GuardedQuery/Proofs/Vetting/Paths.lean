import GuardedQuery.Proofs.Plan
import GuardedQuery.Proofs.Predicate.Conditions
import GuardedQuery.Proofs.Vetting.Walk
import GuardedQuery.Store.Write
import Mathlib

/-! The paths of a query. The condition of a key leads along the field names that the key was vetted
by, so the store follows it no further than the walk, unless the walk ended at a primary key that is
a relation. The paths that rows are ordered by and aggregated over are vetted by their field names
as well, yet the store follows them to the end. -/

namespace GuardedQuery

/-- The predicates that the filter, the exclusion and the lookup of a query are turned into. -/
def Query.Builds (q : Query) (p : Predicate) : Prop :=
  Access.predicateOf q.filter = .ok p ∨ Access.predicateOf q.exclude = .ok p ∨
    FilterTree.conjunction q.lookup = .ok p

namespace Access
variable {a : Access} {s : Store} {model : String} {q : Query} {p : Predicate} {c : Condition}

theorem vetted_of_mem_conditions (vetted : a.vet model q = .ok ()) (built : q.Builds p)
    (mem : c ∈ p.conditions) :
    ∃ key, c.segments = fieldNames key ∧ a.vetPath model .filter key = .ok () := by
  have passed := vets_of_vet vetted
  rcases built with filter | exclude | lookup
  · obtain ⟨key, listed, same⟩ :=
      FilterTree.standsFor_of_predicate q.filter p (Checks.mapError_ok_iff.1 filter) c mem
    exact ⟨key, same, passed.filter key listed⟩
  · obtain ⟨key, listed, same⟩ :=
      FilterTree.standsFor_of_predicate q.exclude p (Checks.mapError_ok_iff.1 exclude) c mem
    exact ⟨key, same, passed.exclude key listed⟩
  · obtain ⟨key, listed, same⟩ := FilterTree.standsFor_of_conjunction lookup mem
    exact ⟨key, same, passed.lookup key listed⟩

/-- The columns that the store looks at along the path of a condition are open if and only if those
behind the names that the walk gets to are. They all are if no primary key is a relation. -/
theorem condition_paths_open_iff (vetted : a.vet model q = .ok ()) (same : s.catalog = a.catalog)
    (built : q.Builds p) (mem : c ∈ p.conditions) (row : Row) :
    (a.OpenFrom s model row c.segments 0 ↔
      a.OpenFrom s model row c.segments (a.catalog.inspected model c.segments)) ∧
    (a.catalog.PlainKeys → a.OpenFrom s model row c.segments 0) := by
  obtain ⟨key, names, walked⟩ := vetted_of_mem_conditions vetted built mem
  rw [names]
  constructor
  · have whole := openFrom_zero_iff same (by decide) walked row []
    rwa [List.append_nil] at whole
  · intro plain
    exact openFrom_zero_of_plainKeys same (by decide) plain walked row

end Access

/-! Profiles whose primary key is the user that they belong to -/

namespace Profiles

def user : Model :=
  { Model.ofSchema (((Schema.ofKey "user" "id").withField ⟨"name", .scalar⟩).withField
      ⟨"secret", .scalar⟩) with
    guards := [.reading ["id", "name"]] }

def profile : Model :=
  { Model.ofSchema (((Schema.ofKey "profile" "user").withField ⟨"user", .toOne "user"⟩).withField
      ⟨"bio", .scalar⟩) with
    guards := [.allowAll] }

def access : Access := ⟨⟨.ofList [("profile", profile), ("user", user)]⟩, .anonymous, .default⟩

def ann : Row := [("id", .int 1), ("name", .str "ann"), ("secret", .str "x")]

def own : Row := [("bio", .str "hi"), ("user", .int 1)]

def store : Store :=
  (((Store.ofCatalog access.catalog).insert "user" ann).2.insert "profile" own).2

def guess (key : String) (value : String) : Query :=
  { Query.plain .read with filter := .filter [(key, .str value)] [] }

/-- The walk ends at the key, and the store goes on to the secret of the user. -/
theorem hidden_secret_is_compared :
    Catalog.build [user, profile] = .ok access.catalog ∧
    access.vet "profile" (guess "user__secret" "x") = .ok () ∧
    (guess "user__secret" "x").Builds (.eq "user__secret" (.str "x")) ∧
    ¬ access.OpenFrom store "profile" own (Path.segments "user__secret") 0 ∧
    store.holds "profile" own (.eq "user__secret" (.str "x")) = .ok true := by
  refine ⟨rfl, rfl, .inl rfl, ?_, by cbv⟩
  have hops : store.hopsAlong "profile" own (Path.segments "user__secret") =
      [⟨0, "profile", "user"⟩, ⟨1, "user", "secret"⟩] := by cbv
  have noted : ⟨1, "user", "secret"⟩ ∈
      store.hopsAlong "profile" own (Path.segments "user__secret") := by
    rw [hops]
    exact List.mem_cons_of_mem _ List.mem_cons_self
  exact Access.not_openFrom_of_hidden noted (m := user) rfl (by decide) (by decide)

theorem bio_is_open_iff :
    access.OpenFrom store "profile" own (Condition.plain "bio" .exact (.str "hi")).segments 0 ↔
      access.OpenFrom store "profile" own (Condition.plain "bio" .exact (.str "hi")).segments 1 :=
  (Access.condition_paths_open_iff (q := guess "bio" "hi") rfl rfl (.inl rfl)
    List.mem_cons_self own).1

end Profiles

/-! Orders and aggregates. A last name that could be a lookup or a part of a date leads on to a
column that was not looked at. -/

namespace Query

/-- The paths to order by. -/
def sorted (q : Query) : List String := q.order.map fun text => (OrderTerm.read text).path

/-- The paths that the operation aggregates over. -/
def aggregated (q : Query) : List String :=
  match q.operation with
  | .single _ => q.field.toList
  | .aggregate => q.aggregates.map AggregateTerm.field
  | _ => []

end Query

namespace Access
variable {a : Access} {s : Store} {model path : String} {q : Query}

theorem vetPath_of_mem_sorted (vetted : a.vet model q = .ok ()) (used : path ∈ q.sorted) :
    a.vetPath model .order path = .ok () := by
  obtain ⟨text, mem, rfl⟩ := List.mem_map.1 used
  obtain ⟨m, _, terms⟩ := Checks.bind_ok_iff.1 (vets_of_vet vetted).order
  obtain ⟨_, walked, _⟩ := Checks.bind_ok_iff.1 (Checks.forM_ok_iff.1 terms text mem)
  exact walked

theorem vetPath_of_mem_aggregated (vetted : a.vet model q = .ok ()) (used : path ∈ q.aggregated) :
    a.vetPath model .aggregate path = .ok () := by
  have passed := vets_of_vet vetted
  rw [Query.aggregated] at used
  split at used
  case h_1 function op => exact passed.single (by rw [op]; rfl) path (by simpa using used)
  case h_2 =>
    obtain ⟨term, mem, rfl⟩ := List.mem_map.1 used
    exact passed.several term mem
  case h_3 => exact absurd used List.not_mem_nil

/-- The columns that the store looks at along an order or aggregate path are open if and only if
those behind the names that the walk gets to are. They all are if the path consists of field names
and no primary key is a relation. -/
theorem order_and_aggregate_paths_open_iff (vetted : a.vet model q = .ok ())
    (same : s.catalog = a.catalog) (used : path ∈ q.sorted ++ q.aggregated) (row : Row) :
    (a.OpenFrom s model row (Path.segments path) 0 ↔
      a.OpenFrom s model row (Path.segments path)
        (a.catalog.inspected model (fieldNames path))) ∧
    (a.catalog.PlainKeys → fieldNames path = Path.segments path →
      a.OpenFrom s model row (Path.segments path) 0) := by
  obtain ⟨use, looked, walked⟩ : ∃ use, use ≠ .output ∧ a.vetPath model use path = .ok () := by
    rcases List.mem_append.1 used with order | aggregate
    · exact ⟨.order, by decide, vetPath_of_mem_sorted vetted order⟩
    · exact ⟨.aggregate, by decide, vetPath_of_mem_aggregated vetted aggregate⟩
  constructor
  · obtain ⟨n, names⟩ := fieldNames_eq_take path
    have whole : Path.segments path = fieldNames path ++ (Path.segments path).drop (n + 1) := by
      rw [names, List.take_append_drop]
    rw [whole]
    exact openFrom_zero_iff same looked walked row _
  · intro plain names
    rw [← names]
    exact openFrom_zero_of_plainKeys same looked plain walked row

end Access

/-! Authors whose date is hidden -/

namespace Authors

def author : Model :=
  { Model.ofSchema (((Schema.ofKey "user" "id").withField ⟨"name", .scalar⟩).withField
      ⟨"date", .scalar⟩) with
    guards := [.reading ["id", "name"]] }

def post : Model :=
  { Model.ofSchema (((Schema.ofKey "post" "id").withField ⟨"title", .scalar⟩).withField
      ⟨"author", .toOne "user"⟩) with
    guards := [.allowAll] }

def access : Access := ⟨⟨.ofList [("post", post), ("user", author)]⟩, .anonymous, .default⟩

def ann : Row := [("date", .str "1990-05-17"), ("id", .int 1), ("name", .str "ann")]

def first : Row := [("author", .int 1), ("id", .int 1), ("title", .str "a")]

def store : Store :=
  (((Store.ofCatalog access.catalog).insert "user" ann).2.insert "post" first).2

def least (path : String) : Query :=
  { Query.plain (.single .min) with field := some path }

theorem plainKeys : access.catalog.PlainKeys := by
  intro model m found
  have listed : m ∈ [post, author] := Catalog.mem_values_of_model? found
  rcases List.mem_cons.1 listed with rfl | listed
  · rfl
  · obtain rfl := List.mem_singleton.1 listed
    rfl

/-- The last name of the path is also a part of a date, so only the author has been looked at. -/
theorem hidden_date_is_aggregated :
    Catalog.build [author, post] = .ok access.catalog ∧
    access.vet "post" (least "author__date") = .ok () ∧
    "author__date" ∈ (least "author__date").aggregated ∧
    ¬ access.OpenFrom store "post" first (Path.segments "author__date") 0 ∧
    store.aggregate (.ofModel "post") .min "author__date" = .ok (.str "1990-05-17") := by
  refine ⟨rfl, rfl, List.mem_singleton.2 rfl, ?_, by cbv⟩
  have hops : store.hopsAlong "post" first (Path.segments "author__date") =
      [⟨0, "post", "author"⟩, ⟨1, "user", "date"⟩] := by cbv
  have noted : ⟨1, "user", "date"⟩ ∈
      store.hopsAlong "post" first (Path.segments "author__date") := by
    rw [hops]
    exact List.mem_cons_of_mem _ List.mem_cons_self
  exact Access.not_openFrom_of_hidden noted (m := author) rfl (by decide) (by decide)

theorem names_are_open :
    access.OpenFrom store "post" first (Path.segments "author__name") 0 :=
  (Access.order_and_aggregate_paths_open_iff (q := least "author__name") rfl rfl
    (List.mem_singleton.2 rfl) first).2 plainKeys rfl

end Authors

end GuardedQuery
