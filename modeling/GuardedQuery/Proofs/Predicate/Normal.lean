import GuardedQuery.Plan
import GuardedQuery.Proofs.Predicate.Legible

/-! Normal forms. Whatever is built from conditions, in whatever order, has nothing left to
flatten, to fold or to cancel. Filter trees that differ in their nesting only therefore come to the
same predicate, with the same text and the same parameters. -/

namespace GuardedQuery

namespace Predicate

/-- Nothing is left to flatten, to fold or to cancel, and no part is trivial, at any depth. -/
inductive Folded : Predicate → Prop where
  | cond (c : Condition) : Folded (.cond c)
  | and {parts : List Predicate} (several : 1 < parts.length)
      (each : ∀ part ∈ parts, Folded part) (flat : ∀ inner, .and inner ∉ parts) :
      Folded (.and parts)
  | or {parts : List Predicate} (several : 1 < parts.length)
      (each : ∀ part ∈ parts, Folded part) (flat : ∀ inner, .or inner ∉ parts) :
      Folded (.or parts)
  | not {inner : Predicate} (folded : Folded inner) (once : ∀ other, inner ≠ .not other) :
      Folded (.not inner)

/-- A predicate that is trivial as a whole, or not at all. -/
inductive Normal : Predicate → Prop where
  | all : Normal .all
  | nothing : Normal .nothing
  | folded {p : Predicate} (folded : p.Folded) : Normal p

/-- What conditions become by the builders, by filter trees and by narrowing selections, in any
order and any number of times. -/
inductive Built : Predicate → Prop where
  | all : Built .all
  | nothing : Built .nothing
  | cond (c : Condition) : Built (.cond c)
  | allOf {parts : List Predicate} (each : ∀ part ∈ parts, Built part) : Built (.allOf parts)
  | anyOf {parts : List Predicate} (each : ∀ part ∈ parts, Built part) : Built (.anyOf parts)
  | negate {p : Predicate} (built : Built p) : Built p.negate
  | tree {tree : FilterTree} {p : Predicate} (made : tree.predicate = .ok p) : Built p
  | narrow {s : Selection} {p : Predicate} (own : Built s.predicate) (built : Built p) :
      Built (s.narrow p).predicate
  | without {s : Selection} {p : Predicate} (own : Built s.predicate) (built : Built p) :
      Built (s.without p).predicate
  | withKeys {s : Selection} (own : Built s.predicate) (keys : List Value) :
      Built (s.withKeys keys).predicate

end Predicate

/-- Conjunctions and disjunctions are built alike. -/
inductive Junction where
  | and
  | or

namespace Junction
open Predicate

def join : Junction → List Predicate → Predicate
  | and => .and
  | or => .or

def tree : Junction → List FilterTree → FilterTree
  | and => .and
  | or => .or

def build : Junction → List Predicate → Predicate
  | and => allOf
  | or => anyOf

/-- The part that decides a junction whatever the others are. -/
def zero : Junction → Predicate
  | and => .nothing
  | or => .all

/-- The junction of no parts. -/
def unit : Junction → Predicate
  | and => .all
  | or => .nothing

def termsOf : Junction → Predicate → List Predicate
  | and => conjunctsOf
  | or => disjunctsOf

/-- The junction of terms that need no flattening. -/
def gather (j : Junction) : List Predicate → Predicate
  | [] => j.unit
  | [term] => term
  | terms => j.join terms

variable {j : Junction} {p : Predicate} {parts terms : List Predicate}

theorem build_of_mem (h : j.zero ∈ parts) : j.build parts = j.zero := by
  cases j with
  | and => exact Store.allOf_of_mem h
  | or => exact Store.anyOf_of_mem h

theorem build_of_not_mem (h : j.zero ∉ parts) :
    j.build parts = j.gather (parts.flatMap j.termsOf) := by
  cases j with
  | and =>
    rw [build, allOf, conjuncts_of_not_mem h, termsOf]
    rcases parts.flatMap conjunctsOf with _ | ⟨_, _ | _⟩ <;> rfl
  | or =>
    rw [build, anyOf, disjuncts_of_not_mem h, termsOf]
    rcases parts.flatMap disjunctsOf with _ | ⟨_, _ | _⟩ <;> rfl

/-- Terms that a junction of this kind takes as they are. -/
def Flat (j : Junction) (terms : List Predicate) : Prop :=
  ∀ term ∈ terms, term.Folded ∧ ∀ inner, term ≠ j.join inner

theorem flat_termsOf (normal : p.Normal) (some : p ≠ j.zero) : j.Flat (j.termsOf p) := by
  have alone (folded : p.Folded) (other : ∀ inner, p ≠ j.join inner) : j.Flat [p] :=
    List.forall_mem_singleton.2 ⟨folded, other⟩
  cases normal with
  | all =>
    cases j with
    | and => exact nofun
    | or => exact absurd rfl some
  | nothing =>
    cases j with
    | and => exact absurd rfl some
    | or => exact nofun
  | folded folded =>
    cases folded with
    | cond c => cases j <;> exact alone (.cond c) nofun
    | not folded once => cases j <;> exact alone (.not folded once) nofun
    | and several each flat =>
      cases j with
      | and => exact fun term mem => ⟨each term mem, fun inner same => flat inner (same.subst mem)⟩
      | or => exact alone (.and several each flat) nofun
    | or several each flat =>
      cases j with
      | and => exact alone (.or several each flat) nofun
      | or => exact fun term mem => ⟨each term mem, fun inner same => flat inner (same.subst mem)⟩

theorem flat_flatMap (each : ∀ part ∈ parts, part.Normal) (some : j.zero ∉ parts) :
    j.Flat (parts.flatMap j.termsOf) := by
  intro term mem
  obtain ⟨part, listed, inside⟩ := List.mem_flatMap.1 mem
  exact flat_termsOf (each part listed) (ne_of_mem_of_not_mem listed some) term inside

/-! Terms can be gathered and taken apart again. -/

theorem termsOf_of_folded (folded : p.Folded) (other : ∀ inner, p ≠ j.join inner) :
    j.termsOf p = [p] := by
  cases j <;> cases folded <;> first | rfl | exact absurd rfl (other _)

theorem termsOf_gather (flat : j.Flat terms) : j.termsOf (j.gather terms) = terms := by
  rcases terms with _ | ⟨term, _ | ⟨second, rest⟩⟩
  · cases j <;> rfl
  · obtain ⟨folded, other⟩ := flat term List.mem_cons_self
    exact termsOf_of_folded folded other
  · cases j <;> rfl

theorem gather_ne_zero (flat : j.Flat terms) : j.gather terms ≠ j.zero := by
  rcases terms with _ | ⟨term, _ | ⟨second, rest⟩⟩
  · cases j <;> exact nofun
  · obtain ⟨folded, -⟩ := flat term List.mem_cons_self
    rintro rfl
    cases j <;> cases folded
  · cases j <;> exact nofun

theorem gather_of_several (several : 1 < terms.length) : j.gather terms = j.join terms := by
  rcases terms with _ | ⟨term, _ | ⟨second, rest⟩⟩
  · cases several
  · exact absurd several (lt_irrefl 1)
  · rfl

theorem gather_termsOf (normal : p.Normal) (some : p ≠ j.zero) :
    j.gather (j.termsOf p) = p := by
  cases normal with
  | all =>
    cases j with
    | and => rfl
    | or => exact absurd rfl some
  | nothing =>
    cases j with
    | and => exact absurd rfl some
    | or => rfl
  | folded folded =>
    by_cases joined : ∃ terms, p = j.join terms
    · obtain ⟨terms, rfl⟩ := joined
      have several : 1 < terms.length := by
        cases j <;> cases folded <;> assumption
      have own : j.termsOf (j.join terms) = terms := by cases j <;> rfl
      rw [own, gather_of_several several]
    · rw [termsOf_of_folded folded fun inner same => joined ⟨inner, same⟩, gather]

theorem normal_gather (flat : j.Flat terms) : (j.gather terms).Normal := by
  rcases terms with _ | ⟨term, _ | ⟨second, rest⟩⟩
  · cases j with
    | and => exact .all
    | or => exact .nothing
  · exact .folded (flat term List.mem_cons_self).1
  · have several : 1 < (term :: second :: rest).length := by simp
    have each := fun part mem => (flat part mem).1
    have none := fun inner mem => (flat (j.join inner) mem).2 inner rfl
    cases j with
    | and => exact .folded (.and several each none)
    | or => exact .folded (.or several each none)

/-! The builders make normal forms, and leave them as they are. -/

theorem normal_build (each : ∀ part ∈ parts, part.Normal) : (j.build parts).Normal := by
  by_cases void : j.zero ∈ parts
  · rw [build_of_mem void]
    cases j with
    | and => exact .nothing
    | or => exact .all
  · rw [build_of_not_mem void]
    exact normal_gather (flat_flatMap each void)

theorem build_single (normal : p.Normal) : j.build [p] = p := by
  by_cases void : p = j.zero
  · rw [void, build_of_mem List.mem_cons_self]
  · rw [build_of_not_mem (by simpa using Ne.symm void), List.flatMap_singleton,
      gather_termsOf normal void]

/-- A junction within a junction of its kind can as well be spelled out. -/
theorem build_nested (before inner after : List Predicate)
    (each : ∀ part ∈ inner, part.Normal) :
    j.build (before ++ j.build inner :: after) = j.build (before ++ inner ++ after) := by
  by_cases within : j.zero ∈ inner
  · rw [build_of_mem within, build_of_mem (by simp), build_of_mem (by simp [within])]
  have flat := flat_flatMap each within
  rw [build_of_not_mem within]
  by_cases beside : j.zero ∈ before ∨ j.zero ∈ after
  · rw [build_of_mem (by simpa using beside.imp_right .inr),
      build_of_mem (by simpa [within] using beside)]
  · rw [not_or] at beside
    rw [build_of_not_mem (by simpa [beside] using (gather_ne_zero flat).symm),
      build_of_not_mem (by simp [beside, within]), List.flatMap_append, List.flatMap_cons,
      termsOf_gather flat, List.flatMap_append, List.flatMap_append, List.append_assoc]

theorem build_unit (before after : List Predicate) :
    j.build (before ++ j.unit :: after) = j.build (before ++ after) := by
  have empty : j.build [] = j.unit := by cases j <;> rfl
  rw [← empty, build_nested before [] after nofun, List.append_nil]

end Junction

namespace Predicate
variable {p : Predicate}

theorem normal_negate (normal : p.Normal) : p.negate.Normal := by
  cases normal with
  | all => exact .nothing
  | nothing => exact .all
  | folded folded =>
    cases folded with
    | not folded _ => exact .folded folded
    | cond c => exact .folded (.not (.cond c) nofun)
    | and several each flat => exact .folded (.not (.and several each flat) nofun)
    | or several each flat => exact .folded (.not (.or several each flat) nofun)

theorem negate_negate (normal : p.Normal) : p.negate.negate = p := by
  cases normal with
  | all | nothing => rfl
  | folded folded =>
    cases folded with
    | cond | and | or => rfl
    | not folded once =>
      cases folded with
      | cond | and | or => rfl
      | not => exact absurd rfl (once _)

end Predicate

/-! Trees -/

namespace FilterTree
variable {t u : FilterTree}

theorem normal_conjuncts {conditions : Row} {parts : List Predicate}
    (read : conditions.mapM readConjunct = .ok parts) : ∀ part ∈ parts, part.Normal := by
  intro part mem
  obtain ⟨entry, -, made⟩ := Checks.exists_of_mapM_ok read mem
  obtain ⟨c, -, rfl⟩ := Checks.map_ok_iff.1 made
  exact .folded (.cond c)

theorem normal_conjunction {conditions : Row} {p : Predicate}
    (h : conjunction conditions = .ok p) : p.Normal := by
  obtain ⟨parts, read, rfl⟩ := Checks.map_ok_iff.1 h
  exact Junction.normal_build (j := .and) (normal_conjuncts read)

theorem predicate_and (children : List FilterTree) :
    (and children).predicate = .allOf <$> children.mapM predicate := by
  rw [predicate, listPredicates_eq_mapM]

theorem predicate_tree (j : Junction) {children : List FilterTree} (some : children ≠ []) :
    (j.tree children).predicate = j.build <$> children.mapM predicate := by
  cases j with
  | and => exact predicate_and children
  | or =>
    rw [Junction.tree, predicate, listPredicates_eq_mapM]
    · rfl
    · exact some

theorem normal_predicate (t : FilterTree) {p : Predicate} (h : t.predicate = .ok p) :
    p.Normal := by
  have junction (j : Junction) {children : List FilterTree} {parts : List Predicate}
      (each : ∀ child ∈ children, ∀ {q : Predicate}, child.predicate = .ok q → q.Normal)
      (read : children.mapM predicate = .ok parts) : (j.build parts).Normal := by
    refine Junction.normal_build fun part mem => ?_
    obtain ⟨child, listed, made⟩ := Checks.exists_of_mapM_ok read mem
    exact each child listed made
  match t, h with
  | .filter conditions groups, h =>
    rw [predicate] at h
    obtain ⟨first, read, h⟩ := Checks.bind_ok_iff.1 h
    have first := normal_conjunction read
    split at h
    · rw [← Checks.pure_ok_iff.1 h]
      exact Junction.normal_build (j := .and) (by simpa using first)
    · obtain ⟨others, readGroups, h⟩ := Checks.bind_ok_iff.1 h
      have any : (Junction.or.build others).Normal := by
        refine Junction.normal_build fun part mem => ?_
        obtain ⟨group, -, made⟩ := Checks.exists_of_mapM_ok readGroups mem
        exact normal_conjunction made
      rw [← Checks.pure_ok_iff.1 h]
      exact Junction.normal_build (j := .and) (by simpa using ⟨first, any⟩)
  | .and children, h =>
    rw [predicate_and] at h
    obtain ⟨parts, read, rfl⟩ := Checks.map_ok_iff.1 h
    exact junction .and (fun child mem => normal_predicate child) read
  | .or [], h =>
    cases h
    exact .all
  | .or (child :: rest), h =>
    obtain ⟨parts, read, rfl⟩ :=
      Checks.map_ok_iff.1 ((predicate_tree .or (List.cons_ne_nil child rest)).symm.trans h)
    exact junction .or (fun child mem => normal_predicate child) read
  | .not child, h =>
    rw [predicate] at h
    obtain ⟨inner, read, rfl⟩ := Checks.map_ok_iff.1 h
    exact Predicate.normal_negate (normal_predicate child read)
  | .search, h | .empty, h =>
    cases h
    exact .all
termination_by sizeOf t

/-- The tree asks for nothing. -/
def MatchesAll (t : FilterTree) : Prop := t.predicate = .ok .all

/-- Trees that differ in how they are nested, in doubled negations, in parts of a conjunction
that ask for nothing and in how conditions are spread over filters. -/
inductive Alike : FilterTree → FilterTree → Prop where
  | refl (t : FilterTree) : Alike t t
  | symm {t u : FilterTree} (alike : Alike t u) : Alike u t
  | trans {t u v : FilterTree} (first : Alike t u) (second : Alike u v) : Alike t v
  | nested (j : Junction) (before after : List FilterTree) {inner : List FilterTree}
      (some : inner ≠ []) :
      Alike (j.tree (before ++ j.tree inner :: after)) (j.tree (before ++ inner ++ after))
  | single (j : Junction) (t : FilterTree) : Alike (j.tree [t]) t
  | twice (t : FilterTree) : Alike (.not (.not t)) t
  | idle (before after : List FilterTree) {t : FilterTree} (void : t.MatchesAll) :
      Alike (.and (before ++ t :: after)) (.and (before ++ after))
  | split (own further : Row) :
      Alike (.and [.filter own [], .filter further []]) (.filter (own ++ further) [])
  | inside (j : Junction) (before after : List FilterTree) {t u : FilterTree}
      (alike : Alike t u) : Alike (j.tree (before ++ t :: after)) (j.tree (before ++ u :: after))
  | not {t u : FilterTree} (alike : Alike t u) : Alike (.not t) (.not u)

instance : Trans Alike Alike Alike := ⟨Alike.trans⟩

theorem predicate_nested (j : Junction) (before after : List FilterTree)
    {inner : List FilterTree} (some : inner ≠ []) :
    (j.tree (before ++ j.tree inner :: after)).predicate =
      (j.tree (before ++ inner ++ after)).predicate := by
  rw [predicate_tree j (by simp), predicate_tree j (by simp [some]), List.mapM_append,
    List.mapM_cons, predicate_tree j some, List.mapM_append, List.mapM_append]
  cases before.mapM predicate with
  | error e => rfl
  | ok xs =>
    cases read : inner.mapM predicate with
    | error e => rfl
    | ok ys =>
      have each (part : Predicate) (mem : part ∈ ys) : part.Normal := by
        obtain ⟨child, -, made⟩ := Checks.exists_of_mapM_ok read mem
        exact normal_predicate child made
      cases after.mapM predicate with
      | error e => rfl
      | ok zs => exact congrArg Except.ok (Junction.build_nested xs ys zs each)

theorem predicate_single (j : Junction) (t : FilterTree) :
    (j.tree [t]).predicate = t.predicate := by
  rw [predicate_tree j (List.cons_ne_nil t []), List.mapM_cons, List.mapM_nil]
  cases made : t.predicate with
  | error e => rfl
  | ok p => exact congrArg Except.ok (Junction.build_single (normal_predicate t made))

theorem predicate_twice (t : FilterTree) : (FilterTree.not (.not t)).predicate = t.predicate := by
  rw [predicate, predicate]
  cases made : t.predicate with
  | error e => rfl
  | ok p => exact congrArg Except.ok (Predicate.negate_negate (normal_predicate t made))

theorem predicate_idle (before after : List FilterTree) (void : t.MatchesAll) :
    (and (before ++ t :: after)).predicate = (and (before ++ after)).predicate := by
  rw [predicate_and, predicate_and, List.mapM_append, List.mapM_cons, void, List.mapM_append]
  cases before.mapM predicate with
  | error e => rfl
  | ok xs =>
    cases after.mapM predicate with
    | error e => rfl
    | ok zs => exact congrArg Except.ok (Junction.build_unit (j := .and) xs zs)

theorem predicate_filter (conditions : Row) :
    (filter conditions []).predicate = conjunction conditions := by
  rw [predicate]
  cases made : conjunction conditions with
  | error e => rfl
  | ok p =>
    exact congrArg Except.ok (Junction.build_single (j := .and) (normal_conjunction made))

theorem predicate_split (own further : Row) :
    (and [.filter own [], .filter further []]).predicate =
      (filter (own ++ further) []).predicate := by
  rw [predicate_and, List.mapM_cons, List.mapM_cons, List.mapM_nil, predicate_filter,
    predicate_filter, predicate_filter, conjunction, conjunction, conjunction, List.mapM_append]
  cases read : own.mapM readConjunct with
  | error e => rfl
  | ok xs =>
    cases reads : further.mapM readConjunct with
    | error e => rfl
    | ok ys =>
      have first := Junction.build_nested (j := .and) [] xs [.allOf ys] (normal_conjuncts read)
      have second := Junction.build_nested (j := .and) xs ys [] (normal_conjuncts reads)
      rw [List.append_nil] at second
      exact congrArg Except.ok (first.trans second)

theorem predicate_inside (j : Junction) (before after : List FilterTree)
    (same : t.predicate = u.predicate) :
    (j.tree (before ++ t :: after)).predicate = (j.tree (before ++ u :: after)).predicate := by
  rw [predicate_tree j (by simp), predicate_tree j (by simp), List.mapM_append, List.mapM_append,
    List.mapM_cons, List.mapM_cons, same]

theorem Alike.predicate_eq (alike : Alike t u) : t.predicate = u.predicate := by
  induction alike with
  | refl => rfl
  | symm _ ih => exact ih.symm
  | trans _ _ first second => exact first.trans second
  | nested j before after some => exact predicate_nested j before after some
  | single j t => exact predicate_single j t
  | twice t => exact predicate_twice t
  | idle before after void => exact predicate_idle before after void
  | split own further => exact predicate_split own further
  | inside j before after _ ih => exact predicate_inside j before after ih
  | not _ ih => rw [predicate, predicate, ih]

/-- The text of the predicate of a tree, and the values of its parameters. -/
def rendered (t : FilterTree) : Except Condition.Fault Selection.Rendered :=
  t.predicate.map fun p => ⟨p.text, p.params⟩

end FilterTree

theorem Predicate.Built.normal {p : Predicate} (built : p.Built) : p.Normal := by
  have both {p q : Predicate} (first : p.Normal) (second : q.Normal) :
      (Junction.and.build [p, q]).Normal :=
    Junction.normal_build (by simpa using ⟨first, second⟩)
  induction built with
  | all => exact .all
  | nothing => exact .nothing
  | cond c => exact .folded (.cond c)
  | allOf _ ih => exact Junction.normal_build (j := .and) ih
  | anyOf _ ih => exact Junction.normal_build (j := .or) ih
  | negate _ ih => exact normal_negate ih
  | tree made => exact FilterTree.normal_predicate _ made
  | narrow _ _ own ih => exact both own ih
  | without _ _ own ih => exact both own (normal_negate ih)
  | withKeys _ keys own =>
    rw [Selection.withKeys]
    split
    · exact both own .nothing
    · exact both own (.folded (.cond _))

/-- Predicates are built in normal form, and trees that are alike come to one text with one list
of parameters, whatever the query that they are part of. -/
theorem FilterTree.alike_trees_share_normal_form :
    (∀ p : Predicate, p.Built → p.Normal) ∧
    ∀ t u : FilterTree, Alike t u → t.rendered = u.rendered ∧
      ∀ (a : Access) (model : String) (q : Query),
        a.selection model { q with filter := t } = a.selection model { q with filter := u } ∧
        (t.isEmpty = u.isEmpty → a.selection model { q with exclude := t } =
          a.selection model { q with exclude := u }) := by
  refine ⟨fun p built => built.normal, fun t u alike => ?_⟩
  have same := alike.predicate_eq
  refine ⟨by rw [rendered, rendered, same], fun a model q => ⟨?_, fun empty => ?_⟩⟩
  · simp only [Access.selection, Access.predicateOf, same]
  · simp only [Access.selection, Access.predicateOf, same, empty]

/-! A tree of large books by ann: nested in several ways, and plain. -/

namespace FilterTree.Books

def byAnn : Row := [("author", .str "ann")]

def large : Row := [("pages__gt", .int 500)]

def nested : FilterTree :=
  .and [.search, .and [.filter byAnn [], .not (.not (.or [.filter large []]))], .and []]

def plain : FilterTree := .filter (byAnn ++ large) []

theorem nested_alike_plain : Alike nested plain := by
  have flat : Alike (.or [.filter large []]) (.filter large []) := .single .or _
  have inner : Alike (.and [.filter byAnn [], .not (.not (.or [.filter large []]))])
      (.and [.filter byAnn [], .filter large []]) :=
    .inside .and [.filter byAnn []] [] ((Alike.twice _).trans flat)
  calc
    Alike nested _ := Alike.idle [] _ rfl
    Alike _ _ := Alike.idle [_] [] rfl
    Alike _ _ := Alike.single .and _
    Alike _ _ := inner
    Alike _ plain := Alike.split byAnn large

theorem books_render_alike :
    Alike nested plain ∧
    nested.rendered = .ok ⟨"(author EXACT $1 AND pages GT $2)", [.str "ann", .int 500]⟩ ∧
    plain.rendered = nested.rendered ∧
    ∀ p, nested.predicate = .ok p → p.Normal := by
  obtain ⟨normal, alike⟩ := alike_trees_share_normal_form
  refine ⟨nested_alike_plain, rfl, (alike nested plain nested_alike_plain).1.symm, ?_⟩
  exact fun p made => normal p (.tree made)

end FilterTree.Books

end GuardedQuery
