import GuardedQuery.Proofs.Predicate.Text
import GuardedQuery.Store.Select

/-! The text of selections. Behind the model and the predicate it is a row of clauses, each of them
optional and begun by a word of its own. Selections without marks in their names have equal texts
and equal parameters only if they select the same rows. -/

namespace GuardedQuery

open Text

/-! Clauses -/

namespace Clause

/-- A clause with its word, unless it is left out. -/
def text (word : List Char) (absent : Bool) (body : List Char) : List Char :=
  if absent then [] else ' ' :: (word ++ ' ' :: body)

/-- A text that is at its end or goes on with a clause of one of the words. -/
def Opens (words : List (List Char)) (cs : List Char) : Prop :=
  cs = [] ∨ ∃ word ∈ words, ∃ body, cs = ' ' :: (word ++ ' ' :: body)

variable {words : List (List Char)} {word body body' rest rest' : List Char} {absent absent' : Bool}

theorem opens_text (word : List Char) (absent : Bool) (body : List Char) (h : Opens words rest) :
    Opens (word :: words) (text word absent body ++ rest) := by
  cases absent with
  | true => exact h.imp_right fun ⟨word, mem, rest⟩ => ⟨word, List.mem_cons_of_mem _ mem, rest⟩
  | false =>
    refine .inr ⟨word, List.mem_cons_self, body ++ rest, ?_⟩
    simp only [text, Bool.false_eq_true, if_false, List.cons_append, List.append_assoc]

theorem Opens.stops {kind : Char → Bool} (h : Opens words rest) (blank : kind ' ' = false) :
    Stops kind rest := by
  rcases h with rfl | ⟨_, _, _, rfl⟩
  · exact stops_nil
  · exact stops_cons blank _

theorem Opens.ends (h : Opens words rest)
    (plain : ∀ word ∈ words, Consists isPlain word ∧ Predicate.isLookup word = false) :
    Predicate.Ends rest := by
  rcases h with rfl | ⟨word, mem, _, rfl⟩
  · exact Predicate.ends_nil
  · exact Predicate.ends_word _ (plain word mem).1 (plain word mem).2 (stops_cons rfl _)

theorem Opens.ne (h : Opens words rest) (plain : Consists isPlain word)
    (others : ∀ other ∈ words, other ≠ word ∧ Consists isPlain other) :
    rest ≠ ' ' :: (word ++ ' ' :: body) := by
  rcases h with rfl | ⟨other, mem, _, rfl⟩
  · exact nofun
  · intro same
    have words := run_inj (others other mem).2 plain (stops_cons rfl _) (stops_cons rfl _)
      (List.cons.inj same).2
    exact (others other mem).1 words.1

/-- In two equal texts a clause is left out of both or of none. -/
theorem text_inj (h : text word absent body ++ rest = text word absent' body' ++ rest')
    (opens : Opens words rest) (opens' : Opens words rest')
    (plain : Consists isPlain word)
    (others : ∀ other ∈ words, other ≠ word ∧ Consists isPlain other) :
    absent = absent' ∧ (absent = false → body ++ rest = body' ++ rest') ∧
      (absent = true → rest = rest') := by
  cases absent <;> cases absent' <;>
    simp only [text, if_true, Bool.false_eq_true, if_false, List.nil_append, List.cons_append,
      List.append_assoc] at h
  case false.false => exact ⟨rfl, fun _ => by simpa using h, nofun⟩
  case false.true => exact absurd h.symm (opens'.ne plain others)
  case true.false => exact absurd h (opens.ne plain others)
  case true.true => exact ⟨rfl, nofun, fun _ => h⟩

end Clause

/-! Order terms -/

namespace OrderTerm

theorem toList_text (term : OrderTerm) : term.text.toList =
    term.path.toList ++
      ' ' :: (if term.descending then ['D', 'E', 'S', 'C'] else ['A', 'S', 'C']) := by
  cases descending : term.descending <;>
    simp [text, descending, String.toList_append, String.reduceToList]

theorem text_inj {x y : OrderTerm} {rest rest' : List Char} (unmarked : Unmarked x.path)
    (unmarked' : Unmarked y.path) (h : x.text.toList ++ rest = y.text.toList ++ rest') :
    x = y ∧ rest = rest' := by
  simp only [toList_text, List.append_assoc, List.cons_append] at h
  obtain ⟨paths, left⟩ := run_inj unmarked unmarked' (stops_cons rfl _) (stops_cons rfl _) h
  cases x with
  | mk path descending =>
    cases y with
    | mk path' descending' =>
      obtain rfl : path = path' := String.toList_inj.1 paths
      cases descending <;> cases descending' <;> simp at left
      · exact ⟨rfl, left⟩
      · exact ⟨rfl, left⟩

end OrderTerm

namespace Selection

/-- Nothing in the names of the selection reads like a part of its text. -/
structure Legible (s : Selection) : Prop where
  model : Unmarked s.model
  predicate : s.predicate.Legible
  order : ∀ term ∈ s.order, Unmarked term.path

/-- The selection without the relations to load, which have no part in what is selected. -/
def bare (s : Selection) : Selection := { s with joined := [], preloaded := [] }

theorem select_bare (store : Store) (s : Selection) : store.select s.bare = store.select s := rfl

theorem aggregate_bare (store : Store) (s : Selection) (function : Aggregate) (field : String) :
    store.aggregate s.bare function field = store.aggregate s function field := rfl

def orderWord : List Char := ['O', 'R', 'D', 'E', 'R']

def limitWord : List Char := ['L', 'I', 'M', 'I', 'T']

def offsetWord : List Char := ['O', 'F', 'F', 'S', 'E', 'T']

def joinWord : List Char := ['J', 'O', 'I', 'N']

def prefetchWord : List Char := ['P', 'R', 'E', 'F', 'E', 'T', 'C', 'H']

/-- The clauses of the relations to load. -/
def loading (s : Selection) : List Char :=
  Clause.text joinWord s.joined.isEmpty (",".intercalate s.joined).toList ++
    (Clause.text prefetchWord s.preloaded.isEmpty (",".intercalate s.preloaded).toList ++ [])

/-- The clause of the offset with what follows it. -/
def skipping (s : Selection) : List Char :=
  Clause.text offsetWord (s.offset == 0) (Nat.toDigits 10 s.offset) ++ s.loading

/-- The clause of the limit with what follows it. -/
def limiting (s : Selection) : List Char :=
  Clause.text limitWord s.limit.isNone (Nat.toDigits 10 (s.limit.getD 0)) ++ s.skipping

/-- All clauses. -/
def clauses (s : Selection) : List Char :=
  Clause.text orderWord s.order.isEmpty
    ('B' :: 'Y' :: ' ' :: [',', ' '].intercalate (s.order.map (·.text.toList))) ++ s.limiting

theorem toList_text (s : Selection) : s.text.toList =
    ['S', 'E', 'L', 'E', 'C', 'T', ' '] ++ (s.model.toList ++ ([' ', 'W', 'H', 'E', 'R', 'E', ' '] ++
      ((s.predicate.textFrom 0).toList ++ s.clauses))) := by
  simp only [text, clauses, limiting, skipping, loading, Clause.text, Predicate.text,
    orderWord, limitWord, offsetWord, joinWord, prefetchWord]
  cases s.limit <;>
    simp [apply_ite String.toList, String.toList_append, String.toList_intercalate,
      String.reduceToList, Function.comp_def]

theorem opens_loading (s : Selection) : Clause.Opens [joinWord, prefetchWord] s.loading :=
  Clause.opens_text _ _ _ (Clause.opens_text _ _ _ (.inl rfl))

theorem opens_skipping (s : Selection) :
    Clause.Opens [offsetWord, joinWord, prefetchWord] s.skipping :=
  Clause.opens_text _ _ _ s.opens_loading

theorem opens_limiting (s : Selection) :
    Clause.Opens [limitWord, offsetWord, joinWord, prefetchWord] s.limiting :=
  Clause.opens_text _ _ _ s.opens_skipping

theorem ends_clauses (s : Selection) : Predicate.Ends s.clauses :=
  (Clause.opens_text orderWord _ _ s.opens_limiting).ends (by decide)

variable {s t : Selection}

theorem offset_inj (h : s.skipping = t.skipping) : s.offset = t.offset := by
  obtain ⟨absent, given, -⟩ := Clause.text_inj h s.opens_loading t.opens_loading (by decide)
    (by decide)
  cases zero : s.offset == 0 with
  | true =>
    rw [zero] at absent
    rw [beq_iff_eq.1 zero, beq_iff_eq.1 absent.symm]
  | false =>
    exact (numeral_inj (s.opens_loading.stops rfl) (t.opens_loading.stops rfl) (given zero)).1

theorem limit_inj (h : s.limiting = t.limiting) : s.limit = t.limit ∧ s.skipping = t.skipping := by
  obtain ⟨absent, given, left⟩ := Clause.text_inj h s.opens_skipping t.opens_skipping (by decide)
    (by decide)
  cases limit : s.limit <;> cases limit' : t.limit <;> rw [limit, limit'] at absent given <;>
    cases absent
  · exact ⟨rfl, left (by rw [limit]; rfl)⟩
  · obtain ⟨limits, left⟩ := numeral_inj (s.opens_skipping.stops rfl) (t.opens_skipping.stops rfl)
      (given rfl)
    exact ⟨congrArg some limits, left⟩

/-- Of windows within one selection, the text tells offset and limit. -/
theorem window_inj {offset offset' : Nat} {limit limit' : Option Nat}
    (h : { s with offset, limit }.text = { s with offset := offset', limit := limit' }.text) :
    offset = offset' ∧ limit = limit' := by
  have chars := congrArg String.toList h
  simp only [toList_text, List.append_cancel_left_eq, clauses] at chars
  obtain ⟨limits, left⟩ := limit_inj chars
  exact ⟨offset_inj left, limits⟩

theorem terms_inj {xs ys : List OrderTerm} {cs cs' : List Char} (some : xs ≠ []) (some' : ys ≠ [])
    (unmarked : ∀ term ∈ xs, Unmarked term.path) (unmarked' : ∀ term ∈ ys, Unmarked term.path)
    (last : ∀ rest, cs ≠ ',' :: rest) (last' : ∀ rest, cs' ≠ ',' :: rest)
    (h : [',', ' '].intercalate (xs.map (·.text.toList)) ++ cs =
      [',', ' '].intercalate (ys.map (·.text.toList)) ++ cs') : xs = ys ∧ cs = cs' := by
  obtain ⟨x, xs, rfl⟩ := List.exists_cons_of_ne_nil some
  obtain ⟨y, ys, rfl⟩ := List.exists_cons_of_ne_nil some'
  obtain ⟨same, left⟩ := parts_inj (g := id) (fun _ => True) [',', ' ']
    (fun _ => trivial) ⟨trivial, fun rest => last _⟩ ⟨trivial, fun rest => last' _⟩
    (fun x mem y mem' _ _ _ _ => OrderTerm.text_inj (unmarked x mem) (unmarked' y mem')) h
  rw [List.map_id, List.map_id] at same
  exact ⟨same, left⟩

theorem order_inj (unmarked : ∀ term ∈ s.order, Unmarked term.path)
    (unmarked' : ∀ term ∈ t.order, Unmarked term.path) (h : s.clauses = t.clauses) :
    s.order = t.order ∧ s.limiting = t.limiting := by
  obtain ⟨absent, given, left⟩ := Clause.text_inj h s.opens_limiting t.opens_limiting (by decide)
    (by decide)
  have last (s : Selection) (rest : List Char) : s.limiting ≠ ',' :: rest := by
    rcases s.opens_limiting with none | ⟨_, _, _, is⟩
    · rw [none]
      exact nofun
    · rw [is]
      exact fun same => absurd (List.cons.inj same).1 (by decide)
  cases none : s.order.isEmpty with
  | true =>
    rw [none] at absent
    exact ⟨by rw [List.isEmpty_iff.1 none, List.isEmpty_iff.1 absent.symm], left none⟩
  | false =>
    rw [none] at absent
    have terms := given none
    simp only [List.cons_append, List.cons.injEq, true_and] at terms
    exact terms_inj (List.isEmpty_eq_false_iff.1 none) (List.isEmpty_eq_false_iff.1 absent.symm)
      unmarked unmarked' (last s) (last t) terms

theorem params_inj (legible : s.Legible) (legible' : t.Legible)
    (h : s.render.paramsText = t.render.paramsText) : s.predicate.params = t.predicate.params := by
  have same := Value.text_inj (.arr legible.predicate.finite) (.arr legible'.predicate.finite)
    stops_nil stops_nil
    (congrArg (String.toList · ++ []) h)
  exact Value.arr.inj same.1

/-- Selections with the same text and the same text of parameters are the same but for the relations
to load. -/
theorem bare_eq_of_render (legible : s.Legible) (legible' : t.Legible)
    (texts : s.render.text = t.render.text)
    (params : s.render.paramsText = t.render.paramsText) : s.bare = t.bare := by
  have chars : s.text.toList = t.text.toList := congrArg String.toList texts
  simp only [toList_text, List.cons_append, List.nil_append, List.cons.injEq, true_and] at chars
  obtain ⟨models, left⟩ := run_inj legible.model legible'.model (stops_cons rfl _)
    (stops_cons rfl _) chars
  simp only [List.cons.injEq, true_and] at left
  obtain ⟨shape, left⟩ := legible.predicate.told legible'.predicate s.ends_clauses t.ends_clauses
    left
  have values := params_inj legible legible' params
  have predicates := (Predicate.eq_of_blank _ _ shape (congrArg (· ++ []) values)).1
  obtain ⟨orders, left⟩ := order_inj legible.order legible'.order left
  obtain ⟨limits, left⟩ := limit_inj left
  rw [bare, bare, String.toList_inj.1 models, predicates, orders, limits, offset_inj left]

end Selection

end GuardedQuery
