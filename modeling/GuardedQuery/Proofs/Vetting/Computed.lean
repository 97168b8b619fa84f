import GuardedQuery.Proofs.Presentation.Routes
import GuardedQuery.Proofs.Vetting.Inspection

/-! Computed fields in filters. A path along relations that the caller can read is refused as invalid
when it comes to a computed field, whatever else may be read there. It has to get there, though: a
name of a primary key ends the walk, be it the key of a model that is declared as a relation or a
computed field that is called like the alias of all keys. -/

namespace GuardedQuery

/-- Whether a way along visible relations comes to a name of a primary key before it comes to an
empty name. -/
def Catalog.meetsKey (c : Catalog) : String → List String → Bool
  | _, [] => false
  | model, name :: rest =>
    match c.model? model with
    | none => false
    | some m =>
      if name.isEmpty then false
      else if m.isKey name then true
      else
        match m.target? name with
        | some target => c.meetsKey target rest
        | none => false

namespace Model
variable {m : Model} {name target : String}

theorem target?_of_undeclared (undeclared : m.schema.field? name = none) :
    m.target? name = none := by
  rw [target?, kind?, undeclared]
  rfl

theorem isKey_of_undeclared (undeclared : m.schema.field? name = none) :
    m.isKey name = decide (name = keyAlias) := by
  have other : name ≠ m.schema.key := by
    rintro rfl
    obtain ⟨field, mem, named⟩ := List.mem_map.1 m.schema.keyed
    rw [Schema.field?_eq_some_iff.2 ⟨mem, named⟩] at undeclared
    cases undeclared
  simp [isKey, other]

end Model

namespace Catalog
variable {c : Catalog} {models : List Model} {model name : String} {m : Model}

theorem undeclared_of_computed (built : build models = .ok c) (found : c.model? model = some m)
    (computed : (m.computed? name).isSome = true) : m.schema.field? name = none := by
  obtain ⟨field, same⟩ := Option.isSome_iff_exists.1 computed
  obtain rfl : field.name = name := by simpa using List.find?_some same
  exact field?_of_computed built found (List.mem_of_find?_eq_some same)

/-- No relation is computed. -/
theorem not_computed_of_target (built : build models = .ok c) (found : c.model? model = some m)
    {target : String} (leads : m.target? name = some target) :
    (m.computed? name).isSome = false := by
  by_contra computed
  rw [Bool.not_eq_false] at computed
  rw [Model.target?_of_undeclared (undeclared_of_computed built found computed)] at leads
  cases leads

end Catalog

namespace PathUse
variable {use : PathUse}

theorem exists_missing (use : PathUse) (path model : String) :
    ∃ detail, use.missing path model = .validation detail := by
  cases use <;> exact ⟨_, rfl⟩

theorem exists_computed (used : use ≠ .output) (field : String) :
    ∃ detail, use.computed? field = some (.validation detail) := by
  cases use with
  | filter | order | aggregate => exact ⟨_, rfl⟩
  | output => exact absurd rfl used

end PathUse

namespace Access
variable {a : Access} {models : List Model} {use : PathUse} {path model name field : String}
  {atRoot : Bool} {rest : List String} {m : Model}

/-- The walk ends where it finds the path invalid. -/
def FindsInvalid (a : Access) (use : PathUse) (path : String) (atRoot : Bool) (model : String)
    (names : List String) : Prop :=
  ∃ detail, a.walk use path atRoot model names = .error (.validation detail)

/-! One name of a path -/

theorem findsInvalid_of_empty (empty : name.isEmpty = true) :
    a.FindsInvalid use path atRoot model (name :: rest) := by
  obtain ⟨detail, missing⟩ := use.exists_missing path model
  exact ⟨detail, by rw [walk_cons, if_pos empty, missing]⟩

theorem not_findsInvalid_of_key (found : a.catalog.model? model = some m)
    (named : name.isEmpty = false) (key : m.isKey name = true) :
    ¬ a.FindsInvalid use path atRoot model (name :: rest) := by
  rintro ⟨detail, refused⟩
  simp only [walk_cons, named, Catalog.get_ok_iff.2 found, PathUse.inspect, key, bind, Except.bind,
    Bool.false_eq_true, if_false, if_true] at refused
  cases shut : !atRoot && (m.fields a.request .read).isEmpty <;>
    rw [shut] at refused <;> cases refused

theorem findsInvalid_of_computed (used : use ≠ .output) (found : a.catalog.model? model = some m)
    (notKey : m.isKey name = false) (computed : (m.computed? name).isSome = true) :
    a.FindsInvalid use path atRoot model (name :: rest) := by
  cases empty : name.isEmpty with
  | true => exact findsInvalid_of_empty empty
  | false =>
    obtain ⟨detail, refused⟩ := PathUse.exists_computed used name
    refine ⟨detail, ?_⟩
    simp only [walk_cons, empty, Catalog.get_ok_iff.2 found, PathUse.inspect, notKey, computed,
      refused, bind, Except.bind, Bool.false_eq_true, if_false, if_true]

theorem findsInvalid_of_relates (built : Catalog.build models = .ok a.catalog)
    (found : a.catalog.model? model = some m) (named : name.isEmpty = false)
    (notKey : m.isKey name = false) {next : String} (leads : a.Relates .read model name next) :
    a.FindsInvalid use path atRoot model (name :: rest) ↔
      a.FindsInvalid use path false next rest := by
  obtain ⟨other, found', permitted, target⟩ := leads
  obtain rfl := Option.some.inj (found.symm.trans found')
  have stored := Catalog.not_computed_of_target built found target
  obtain ⟨kind, known, leads⟩ := Option.bind_eq_some_iff.1 target
  have onward : a.walk use path atRoot model (name :: rest) = a.walk use path false next rest := by
    simp only [walk_cons, named, Catalog.get_ok_iff.2 found, PathUse.inspect, notKey, stored, known,
      NameSet.contains_iff.2 permitted, bind, Except.bind, Bool.false_eq_true, if_false,
      Bool.not_true]
    cases kind with
    | toOne _ | toMany _ | reverse _ _ =>
      cases leads
      rfl
    | scalar | json => cases leads
  rw [FindsInvalid, onward, FindsInvalid]

/-! Ways to a computed field -/

/-- By induction on the route. Its hops are passed one after the other, unless one of them has an
empty name, which is invalid, or that of a primary key, which is not and ends the walk. -/
theorem findsInvalid_iff (built : Catalog.build models = .ok a.catalog) (used : use ≠ .output)
    {chain : List String} {last : String} (route : a.Route .read model chain last)
    (found : a.catalog.model? last = some m) (computed : (m.computed? field).isSome = true) :
    a.FindsInvalid use path atRoot model (chain ++ field :: rest) ↔
      a.catalog.meetsKey model (chain ++ [field]) = false := by
  induction route generalizing atRoot with
  | here model =>
    have undeclared := Catalog.undeclared_of_computed built found computed
    simp only [List.nil_append, Catalog.meetsKey, found, Model.target?_of_undeclared undeclared]
    cases empty : field.isEmpty with
    | true => simp [findsInvalid_of_empty empty]
    | false =>
      cases key : m.isKey field with
      | true => simp [not_findsInvalid_of_key found empty key]
      | false => simp [findsInvalid_of_computed used found key computed]
  | @onward model segment next last names leads route ih =>
    obtain ⟨r, there, _, target⟩ := id leads
    simp only [List.cons_append, Catalog.meetsKey, there, target]
    cases empty : segment.isEmpty with
    | true => simp [findsInvalid_of_empty empty]
    | false =>
      cases key : r.isKey segment with
      | true => simp [not_findsInvalid_of_key there empty key]
      | false =>
        rw [findsInvalid_of_relates built there empty key leads, ih found]
        simp

/-- Where no primary key is a relation, only the alias of the keys can be met. -/
theorem not_meetsKey (built : Catalog.build models = .ok a.catalog) (plain : a.catalog.PlainKeys)
    {chain : List String} {last : String} (route : a.Route .read model chain last)
    (found : a.catalog.model? last = some m) (computed : (m.computed? field).isSome = true)
    (fresh : keyAlias ∉ chain ++ [field]) :
    a.catalog.meetsKey model (chain ++ [field]) = false := by
  induction route with
  | here model =>
    have undeclared := Catalog.undeclared_of_computed built found computed
    have other : field ≠ keyAlias := fun same => fresh (by simp [same])
    simp [Catalog.meetsKey, found, Model.target?_of_undeclared undeclared,
      Model.isKey_of_undeclared undeclared, other]
  | @onward model segment next last names leads route ih =>
    obtain ⟨r, there, _, target⟩ := leads
    obtain ⟨other, fresh⟩ := not_or.1 (mt List.mem_cons.2 fresh)
    have notKey : r.isKey segment = false := by
      have stored : segment ≠ r.schema.key := by
        rintro rfl
        obtain ⟨kind, known, leads⟩ := Option.bind_eq_some_iff.1 target
        have none := plain model r there
        rw [Model.kind?_eq_some known, Option.bind_some, leads] at none
        cases none
      simp [Model.isKey, Ne.symm other, stored]
    simp [Catalog.meetsKey, there, notKey, target, ih found fresh]

/-- A filter key that leads along readable relations to a computed field, and perhaps further on, is
refused as invalid iff no name of a primary key comes up on its way. None does where no primary key
is a relation and neither the computed field nor a relation is called like the alias of the keys. -/
theorem computed_fields_are_refused_iff (built : Catalog.build models = .ok a.catalog)
    {key last : String} {chain : List String} (names : fieldNames key = chain ++ field :: rest)
    (route : a.Route .read model chain last) (found : a.catalog.model? last = some m)
    (computed : (m.computed? field).isSome = true) :
    ((∃ detail, a.vetFilter model key = .error (.validation detail)) ↔
      a.catalog.meetsKey model (chain ++ [field]) = false) ∧
    (a.catalog.PlainKeys → keyAlias ∉ chain ++ [field] →
      ∃ detail, a.vetFilter model key = .error (.validation detail)) := by
  have invalid : (∃ detail, a.vetFilter model key = .error (.validation detail)) ↔
      a.catalog.meetsKey model (chain ++ [field]) = false := by
    rw [vetFilter, vetPath, names]
    exact findsInvalid_iff built (by decide) route found computed
  exact ⟨invalid, fun plain fresh => invalid.2 (not_meetsKey built plain route found computed fresh)⟩

end Access

namespace Honours

def user : Model :=
  { Model.ofSchema ((Schema.ofKey "user" "id").withField ⟨"name", .scalar⟩) with
    guards := [.allowAll], computed := [⟨"badge", fun _ => .int 1⟩] }

/-- Its key is the user that it belongs to. -/
def profile : Model :=
  { Model.ofSchema ((Schema.ofKey "profile" "user").withField ⟨"user", .toOne "user"⟩) with
    guards := [.allowAll] }

def post : Model :=
  { Model.ofSchema ((Schema.ofKey "post" "id").withField ⟨"author", .toOne "user"⟩) with
    guards := [.allowAll] }

/-- Computes a field that is called like the alias of the keys. -/
def item : Model :=
  { Model.ofSchema ((Schema.ofKey "item" "id").withField ⟨"title", .scalar⟩) with
    guards := [.allowAll], computed := [⟨keyAlias, fun _ => .int 1⟩] }

def access : Access :=
  ⟨⟨.ofList [("item", item), ("post", post), ("profile", profile), ("user", user)]⟩, .anonymous,
    .default⟩

theorem built : Catalog.build [item, user, profile, post] = .ok access.catalog := rfl

/-- Two computed fields that can be filtered on. -/
theorem computed_fields_are_accepted :
    Catalog.build [item, user, profile, post] = .ok access.catalog ∧
    (fieldNames "pk__gt" = ["pk"] ∧ (item.computed? "pk").isSome = true ∧
      access.vetFilter "item" "pk__gt" = .ok ()) ∧
    fieldNames "user__badge" = ["user", "badge"] ∧
    access.Relates .read "profile" "user" "user" ∧ (user.computed? "badge").isSome = true ∧
    access.vetFilter "profile" "user__badge" = .ok () :=
  ⟨built, ⟨by decide, rfl, rfl⟩, by decide, ⟨profile, rfl, by decide, by decide⟩, rfl, rfl⟩

def authors : Access :=
  ⟨⟨.ofList [("post", post), ("user", user)]⟩, .anonymous, .default⟩

/-- The badge of an author is refused, also with more behind it. -/
theorem badge_of_author_is_refused :
    Catalog.build [user, post] = .ok authors.catalog ∧ authors.catalog.PlainKeys ∧
    ∃ detail, authors.vetFilter "post" "author__badge__size__gt" = .error (.validation detail) := by
  have built : Catalog.build [user, post] = .ok authors.catalog := rfl
  have plain : authors.catalog.PlainKeys := Catalog.plainKeys_of_kinds (by decide +kernel)
  have leads : authors.Relates .read "post" "author" "user" :=
    ⟨post, rfl, by decide, by decide⟩
  have names : fieldNames "author__badge__size__gt" = ["author"] ++ "badge" :: ["size"] := by decide
  have refused := Access.computed_fields_are_refused_iff built names
    (.onward leads (.here "user")) rfl rfl
  exact ⟨built, plain, refused.2 plain (by decide)⟩

end Honours

end GuardedQuery
