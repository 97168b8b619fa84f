import GuardedQuery.Proofs.Engine.Transparency

/-! The dependencies that are listed for a selection, an outline and further paths are complete:
stores that hold the same rows of the listed models cannot be told apart by what is selected and
shown, nor by what is aggregated along the paths. Two kinds of names are to be kept away from this.
An alias of the primary key is followed by the store and not by the walk that lists the models, and
the name of a relation that is shown is cut where it reads like a path. -/

namespace GuardedQuery

/-- Selects rows and shows them. -/
def Access.showSelected (a : Access) (sel : Selection) (o : Outline) (depth : Nat) :
    Script Value := do
  a.presentAll o depth sel.model (← Script.select sel)

namespace Access
variable {a : Access} {sel : Selection} {o : Outline} {paths : List String} {models : NameSet}
  {s s' : Store}

theorem Follows.segments {further : Bool} {model field target : String}
    (follows : a.Follows o further model field target) (plain : a.catalog.PlainRelations) :
    Path.segments field = [field] := by
  obtain ⟨_, m, kind, found, known, hop⟩ := follows
  refine plain model m field (Catalog.get_ok_iff.1 found) ?_
  rw [Model.kind?_eq_some known, Option.bind_some, FieldKind.target?_of_hop? hop]
  rfl

/-- On stores that agree on the listed models, the same is selected and shown. -/
theorem showSelected_eq (depends : a.catalog.Depends sel o paths models)
    (direct : sel.Direct a.catalog) {depth : Nat}
    (whole : ∀ model field target, a.Follows o (depth != 0) model field target →
      Path.segments field = [field])
    (same : s.catalog = a.catalog) (agree : s.Agree models s') :
    ((a.showSelected sel o depth).run s').1 = ((a.showSelected sel o depth).run s).1 := by
  refine Script.run_congr (Script.asks_bind (Script.asks_request ⟨rfl, ?_⟩) fun rows => ?_)
  · simp only [Store.answer, Store.ask, agree.select same depends.looks direct]
  refine asks_presentAll_of_follows (fun model row field target follows => ⟨rfl, ?_⟩) sel.model rows
  have inside := whole model field target follows
  have related : s'.related model row field = s.related model row field := by
    refine agree.related (fun m target found leads => ?_) row
    rw [same] at found
    exact depends.target follows.1 inside found leads
  simp only [Store.answer, Store.ask, related]

end Access

/-- On stores with the same rows of every listed model, a selection selects and shows the same, and
the extra paths have the same aggregates. No condition, order or extra path may follow a relation by
an alias of the key, and the names of the relations that are shown must be read whole. -/
theorem Catalog.dependencies_are_complete (a : Access) (sel : Selection) (o : Outline) (depth : Nat)
    (paths : List String) {models : NameSet}
    (listed : a.catalog.dependencies sel o paths = .ok models) (direct : sel.Direct a.catalog)
    (along : ∀ path ∈ paths, a.catalog.Direct sel.model (Path.segments path))
    (whole : ∀ model field target, a.Follows o (depth != 0) model field target →
      Path.segments field = [field])
    {s s' : Store} (same : s.catalog = a.catalog) (agree : s.Agree models s') :
    ((a.showSelected sel o depth).run s').1 = ((a.showSelected sel o depth).run s).1 ∧
      ∀ path ∈ paths, ∀ function,
        s'.aggregate sel function path = s.aggregate sel function path := by
  have depends := depends_of_dependencies listed
  refine ⟨Access.showSelected_eq depends direct whole same agree, fun path mem function => ?_⟩
  exact agree.aggregate same depends.looks direct function (depends.paths path mem) (along path mem)

/-! Profiles, whose key is the user that they are about, and badges, which nothing leads to -/

namespace Badges

def user : Model :=
  { Model.ofSchema ((Schema.ofKey "user" "id").withField ⟨"name", .scalar⟩) with
    guards := [.allowAll] }

def profile : Model :=
  { Model.ofSchema (((Schema.ofKey "profile" "user").withField ⟨"user", .toOne "user"⟩).withField
      ⟨"bio", .scalar⟩) with guards := [.allowAll] }

def badge : Model := { Model.ofSchema (Schema.ofKey "badge" "id") with guards := [.allowAll] }

def access : Access :=
  ⟨⟨.ofList [("badge", badge), ("profile", profile), ("user", user)]⟩, .anonymous, .default⟩

/-- The profiles of two users, the first of whom has the name, and some badges. -/
def store (name : String) (badges : List Row) : Store :=
  ((((Store.ofCatalog access.catalog).answer (.insertMany "user"
    [[("id", .int 1), ("name", .str name)], [("id", .int 2), ("name", .str "ann")]])).2.answer
      (.insertMany "profile" [[("bio", .str "x"), ("user", .int 1)],
        [("bio", .str "y"), ("user", .int 2)]])).2.answer (.insertMany "badge" badges)).2

def byName : Selection := (Selection.ofModel "profile").orderedBy [⟨"user__name", false⟩]

def outline : Outline := .ofList [("profile", .ofList ["bio", "user"]), ("user", .ofList ["name"])]

theorem catalog_store (name : String) (badges : List Row) :
    (store name badges).catalog = access.catalog :=
  (Store.Grown.answer (.answer (.answer .new _) _) _).spec.1

theorem agree (name name' : String) (badges badges' : List Row) {models : List String}
    (shared : ∀ model ∈ models,
      (store name' badges').table model = (store name badges).table model) :
    (store name badges).Agree (.ofList models) (store name' badges') where
  catalog := (catalog_store name' badges').trans (catalog_store name badges).symm
  tables model mem := shared model (NameSet.mem_ofList.1 mem)

theorem direct_user_name : access.catalog.Direct "profile" ["user", "name"] := by
  intro m kind target found known hop
  cases found
  cases known
  cases hop
  refine ⟨rfl, fun m kind target found known hop => ?_⟩
  cases found
  cases known
  cases hop

theorem direct_byName : byName.Direct access.catalog where
  conditions := nofun
  order := List.forall_mem_singleton.2 direct_user_name

theorem plainRelations : access.catalog.PlainRelations :=
  Catalog.plainRelations_of_names (by decide +kernel)

/-- A badge is not among the dependencies of the profiles by the names of their users. -/
theorem badges_do_not_matter :
    access.catalog.dependencies byName outline ["user__name"] =
      .ok (.ofList ["profile", "user"]) ∧
    (store "bob" []).Agree (.ofList ["profile", "user"]) (store "bob" [[("id", .int 1)]]) ∧
    ((access.showSelected byName outline 1).run (store "bob" [[("id", .int 1)]])).1 =
      ((access.showSelected byName outline 1).run (store "bob" [])).1 ∧
    (store "bob" [[("id", .int 1)]]).aggregate byName .max "user__name" =
      (store "bob" []).aggregate byName .max "user__name" := by
  have shared : (store "bob" []).Agree (.ofList ["profile", "user"])
      (store "bob" [[("id", .int 1)]]) := by
    refine agree _ _ _ _ (List.forall_mem_cons.2 ⟨rfl, List.forall_mem_singleton.2 rfl⟩)
  have complete := Catalog.dependencies_are_complete access byName outline 1 ["user__name"] rfl
    direct_byName (List.forall_mem_singleton.2 direct_user_name)
    (fun _ _ _ follows => follows.segments plainRelations) rfl shared
  exact ⟨rfl, shared, complete.1, complete.2 _ List.mem_cons_self .max⟩

/-- The alias of the key leads to the users, which are not listed. -/
theorem alias_of_relation_is_missed :
    Catalog.build [badge, profile, user] = .ok access.catalog ∧
    access.catalog.dependencies (.ofModel "profile") .empty ["pk__name"] =
      .ok (.ofList ["profile"]) ∧
    (store "bob" []).Agree (.ofList ["profile"]) (store "0" []) ∧
    (store "0" []).aggregate (.ofModel "profile") .max "pk__name" ≠
      (store "bob" []).aggregate (.ofModel "profile") .max "pk__name" := by
  refine ⟨rfl, rfl, agree _ _ _ _ (List.forall_mem_singleton.2 rfl), fun same => ?_⟩
  have texts : ((store "0" []).aggregate (.ofModel "profile") .max "pk__name").toOption.map
        Value.text ≠
      ((store "bob" []).aggregate (.ofModel "profile") .max "pk__name").toOption.map
        Value.text := by decide +kernel
  exact texts (by rw [same])

end Badges

end GuardedQuery
