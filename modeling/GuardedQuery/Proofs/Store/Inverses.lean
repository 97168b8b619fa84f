import GuardedQuery.Proofs.Catalog
import GuardedQuery.Proofs.Selection.Rows
import GuardedQuery.Proofs.Store.Indexed
import GuardedQuery.Proofs.Value.Text
import GuardedQuery.Value.Compare

/-! Reverse relations and the relations that they reverse. The row that a column refers to is
looked up by the text of the column, and the rows that refer to a row are those whose column is
equal to its key as a value. The two directions are inverse where these two notions agree, and
only there. -/

namespace GuardedQuery

namespace Store

namespace Table
variable {t u : Table} {keyName : String}

/-- Every entry of the index leads to a row, by the text of the key of this row. -/
def Traced (keyName : String) (t : Table) : Prop :=
  ∀ text n, t.index.get? text = some n →
    ∃ row key, (n, row) ∈ t.rows ∧ row.get? keyName = some key ∧ keyText key = text

theorem traced_empty : empty.Traced keyName := by
  intro text n found
  cases found

namespace Traced

theorem append (h : t.Traced keyName) {key : Value} {row : Row}
    (own : row.get? keyName = some key) : (t.append key row).Traced keyName := by
  intro text n found
  by_cases same : keyText key = text
  · subst same
    obtain rfl : t.count + 1 = n := by simpa [Table.append] using found
    exact ⟨row, key, List.mem_append_right _ List.mem_cons_self, own, rfl⟩
  · rw [Table.append, Dict.get?_insert_of_ne _ same] at found
    obtain ⟨old, key', mem, its, led⟩ := h text n found
    exact ⟨old, key', List.mem_append_left _ mem, its, led⟩

theorem insert (h : t.Traced keyName) (model : String) (row : Row) :
    (t.insert model keyName row).2.Traced keyName := by
  obtain ⟨last, same | ⟨key, stored, own, _, _, same⟩⟩ := t.insert_cases model keyName row
  · exact same ▸ h
  · have raised : ({ t with lastKey := last } : Table).Traced keyName := h
    exact same ▸ raised.append own

theorem replace (h : t.Traced keyName) (indexed : t.Indexed keyName) {key : Value}
    {before after : Row} (addressed : t.get? key = some before)
    (same : after.get? keyName = before.get? keyName) : (t.replace key after).Traced keyName := by
  obtain ⟨n, numbered, there⟩ := Option.bind_eq_some_iff.1 addressed
  obtain ⟨front, back, split, _⟩ := List.lookup_eq_some_iff.1 there
  have stored : (n, before) ∈ t.rows := by simp [split]
  rw [Table.replace, numbered]
  intro text k found
  obtain ⟨old, own, mem, its, led⟩ := h text k found
  by_cases here : k = n
  · subst here
    obtain ⟨-, rfl⟩ := Prod.mk.inj (indexed.eq_of_number mem stored rfl)
    exact ⟨after, own, List.mem_map.2 ⟨(k, old), mem, if_pos rfl⟩, same.trans its, led⟩
  · exact ⟨old, own, List.mem_map.2 ⟨(k, old), mem, if_neg here⟩, its, led⟩

theorem remove (h : t.Traced keyName) (indexed : t.Indexed keyName) (key : Value) :
    (t.remove key).Traced keyName := by
  cases numbered : t.number? key with
  | none =>
    rw [Table.remove, numbered]
    exact h
  | some n =>
    rw [Table.remove, numbered]
    intro text k found
    simp only at found
    have ne : keyText key ≠ text := by
      rintro rfl
      rw [Dict.get?_erase_self] at found
      cases found
    rw [Dict.get?_erase_of_ne _ ne] at found
    obtain ⟨row, own, mem, its, led⟩ := h text k found
    refine ⟨row, own, List.mem_filter.2 ⟨mem, ?_⟩, its, led⟩
    -- another text cannot have led to the number that is removed
    obtain ⟨row', own', mem', its', led'⟩ := h (keyText key) n numbered
    simp only [bne_iff_ne]
    rintro rfl
    obtain ⟨-, rfl⟩ := Prod.mk.inj (indexed.eq_of_number mem mem' rfl)
    obtain rfl := Option.some.inj (its.symm.trans its')
    exact ne (led'.symm.trans led)

end Traced

theorem Turns.traced (turns : empty.Turns keyName t) : t.Traced keyName := by
  induction turns with
  | refl => exact traced_empty
  | insert _ model row ih => exact ih.insert model row
  | replace earlier addressed same ih =>
    exact ih.replace (earlier.indexed indexed_empty) addressed same
  | remove earlier key ih => exact ih.remove (earlier.indexed indexed_empty) key

/-- A stored row is addressed by the keys whose text is that of its own, and by no others. -/
theorem Turns.get?_eq_some_iff (turns : empty.Turns keyName t) {row : Row} {own : Value}
    (stored : row ∈ t.values) (its : row.get? keyName = some own) (key : Value) :
    t.get? key = some row ↔ keyText key = keyText own := by
  have indexed := turns.indexed indexed_empty
  obtain ⟨⟨n, row⟩, mem, rfl⟩ := List.mem_map.1 stored
  constructor
  · intro addressed
    obtain ⟨k, numbered, found⟩ := Option.bind_eq_some_iff.1 addressed
    obtain ⟨front, back, split, _⟩ := List.lookup_eq_some_iff.1 found
    obtain ⟨other, key', mem', its', led⟩ := turns.traced (keyText key) k numbered
    obtain ⟨-, rfl⟩ :=
      Prod.mk.inj (indexed.eq_of_number mem' (by simp [split] : (k, row) ∈ t.rows) rfl)
    obtain rfl := Option.some.inj (its.symm.trans its')
    exact led.symm
  · intro same
    have found := indexed.get?_of_mem mem its
    rwa [get?, number?, ← same] at found

end Table

/-! Both directions -/

/-- Whether a column refers to the row with a primary key when it is followed forward. -/
def Addresses (key : Value) (column : Option Value) : Prop :=
  ∃ value, column = some value ∧ value.isNull = false ∧ keyText value = keyText key

/-- Values of one kind that a key can have. Their texts are equal iff they are. -/
inductive OfOneKind : Value → Value → Prop where
  | texts (s t : String) : OfOneKind (.str s) (.str t)
  | wholes {i j : Int} (first : fitsWord i = true) (second : fitsWord j = true) :
      OfOneKind (.int i) (.int j)

theorem OfOneKind.equal_iff {value key : Value} (kind : OfOneKind value key) :
    value.equal key = true ↔ keyText value = keyText key := by
  cases kind with
  | texts s t => exact beq_iff_eq
  | @wholes i j first second =>
    have decided : (Value.int i).equal (.int j) = (i == j) := by
      simp only [Value.equal, Value.int, Number.equal, Number.word?_int first,
        Number.word?_int second]
    rw [decided, beq_iff_eq]
    exact ⟨congrArg toString, Number.intText_inj⟩

theorem OfOneKind.isNull {value key : Value} (kind : OfOneKind value key) :
    value.isNull = false := by
  cases kind <;> rfl

theorem OfOneKind.pointsAt {value key : Value} (kind : OfOneKind value key) :
    Store.pointsAt key (some value) = value.equal key := by
  cases kind <;> rfl

/-- Columns that are blank or of the kind of the key are followed alike in both directions. -/
theorem pointsAt_iff_addresses {key : Value} {column : Option Value} (known : key.isNull = false)
    (plain : ∀ value, column = some value → value.isNull = true ∨ OfOneKind value key) :
    pointsAt key column = true ↔ Addresses key column := by
  cases column with
  | none => exact iff_of_false Bool.false_ne_true nofun
  | some value =>
    rcases plain value rfl with null | kind
    · cases value with
      | null =>
        refine iff_of_false ?_ fun ⟨_, same, nonnull, _⟩ => ?_
        · cases key with
          | null => cases known
          | bool | num | str | arr | obj => exact Bool.false_ne_true
        · cases same
          cases nonnull
      | bool | num | str | arr | obj => cases null
    · rw [kind.pointsAt, kind.equal_iff]
      constructor
      · exact fun same => ⟨value, rfl, kind.isNull, same⟩
      · rintro ⟨other, column, _, same⟩
        rwa [Option.some.inj column]

variable {c : Catalog} {s : Store}

theorem Grown.stored_key (grown : s.Grown c) {model : String} {m : Model}
    (known : c.model? model = some m) {row : Row} (stored : s.Stored model row) :
    ∃ key, row.get? m.schema.key = some key ∧ key.isNull = false := by
  obtain ⟨rfl, indexed⟩ := grown.spec
  obtain ⟨entry, mem, rfl⟩ := List.mem_map.1 stored
  obtain ⟨key, own, nonnull, _⟩ := (indexed.table (model_ok_iff.2 known)).keyed entry mem
  exact ⟨key, own, nonnull⟩

theorem Grown.row?_eq_some_iff (grown : s.Grown c) {model : String} {m : Model}
    (known : c.model? model = some m) {row : Row} (stored : s.Stored model row) {own : Value}
    (its : row.get? m.schema.key = some own) (key : Value) :
    s.row? model key = some row ↔ keyText key = keyText own :=
  (grown.turned.2.1 model m known).get?_eq_some_iff stored its key

/-- Going back, the rows found are those whose column is equal to the key. -/
theorem related_reverse (grown : s.Grown c) {model target field via : String} {a b : Model}
    (known : c.model? model = some a) (led : c.model? target = some b)
    (reverse : a.schema.kind? field = some (.reverse target via)) {x : Row} {key : Value}
    (own : x.get? a.schema.key = some key) :
    s.related model x field =
      .ok ((s.table target).values.filter fun other => pointsAt key (other.get? via)) := by
  obtain ⟨rfl, _⟩ := grown.spec
  rw [related, model_ok_iff.2 known]
  change s.relatedRows a x field = _
  rw [relatedRows, reverse]
  simp only [own, rows, model_ok_iff.2 led]
  rfl

/-- Going forward, the row found is the one that the column addresses. -/
theorem related_toOne (grown : s.Grown c) {model target field : String} {b : Model}
    (known : c.model? target = some b) (toOne : b.schema.kind? field = some (.toOne model))
    (y : Row) :
    s.related target y field = .ok ((Table.ownKey? field y).bind (s.row? model)).toList := by
  obtain ⟨rfl, _⟩ := grown.spec
  rw [related, model_ok_iff.2 known]
  change s.relatedRows b y field = _
  rw [relatedRows, toOne]

/-- A row is found going back iff its column is equal to the key, and finds its way forward iff its
column has the text of the key. So the relations are inverse for two rows iff these conditions
agree, as they do for a column that is blank or of the kind of the key. -/
theorem reverse_relations_invert_iff {models : List Model} (built : Catalog.build models = .ok c)
    (grown : s.Grown c) {model target field via : String} {a : Model}
    (known : c.model? model = some a)
    (reverse : a.schema.kind? field = some (.reverse target via)) {x y : Row}
    (left : s.Stored model x) (right : s.Stored target y) :
    ∃ key backward forward, x.get? a.schema.key = some key ∧
      s.related model x field = .ok backward ∧ s.related target y via = .ok forward ∧
      (y ∈ backward ↔ pointsAt key (y.get? via) = true) ∧
      (forward = [x] ↔ Addresses key (y.get? via)) ∧
      ((y ∈ backward ↔ forward = [x]) ↔
        (pointsAt key (y.get? via) = true ↔ Addresses key (y.get? via))) ∧
      ((∀ value, y.get? via = some value → value.isNull = true ∨ OfOneKind value key) →
        (y ∈ backward ↔ forward = [x])) := by
  obtain ⟨key, own, nonnull⟩ := grown.stored_key known left
  obtain ⟨f, declared, kind⟩ := Option.map_eq_some_iff.1 reverse
  obtain ⟨b, led, toOne⟩ := Catalog.found_of_reverseFault?
    ((Catalog.checks_of_build built known).1 f (List.mem_of_find?_eq_some declared)) kind
  rw [(Catalog.mem_of_build built known).2] at toOne
  refine ⟨key, _, _, own, related_reverse grown known led reverse own,
    related_toOne grown led toOne y, ?_⟩
  have back : y ∈ (s.table target).values.filter (fun other => pointsAt key (other.get? via)) ↔
      pointsAt key (y.get? via) = true := by
    rw [List.mem_filter]
    exact and_iff_right right
  have forth : ((Table.ownKey? via y).bind (s.row? model)).toList = [x] ↔
      Addresses key (y.get? via) := by
    rw [Option.toList_eq_singleton_iff, Option.bind_eq_some_iff]
    constructor
    · rintro ⟨value, stored, found⟩
      obtain ⟨value', column, rest⟩ := Option.bind_eq_some_iff.1 stored
      split at rest
      · cases rest
      · rename_i nonnull
        cases rest
        exact ⟨value, column, by simpa using nonnull,
          (grown.row?_eq_some_iff known left own value).1 found⟩
    · rintro ⟨value, column, nonnull, same⟩
      refine ⟨value, ?_, (grown.row?_eq_some_iff known left own value).2 same⟩
      rw [Table.ownKey?, column, Option.bind_some, nonnull]
      rfl
  refine ⟨back, forth, by rw [back, forth], fun plain => ?_⟩
  rw [back, forth]
  exact pointsAt_iff_addresses nonnull plain

end Store

namespace Bylines

def user : Model :=
  Model.ofSchema ((Schema.ofKey "user" "id").withField ⟨"posts", .reverse "post" "author"⟩)

def post : Model :=
  Model.ofSchema ((Schema.ofKey "post" "id").withField ⟨"author", .toOne "user"⟩)

def catalog : Catalog := ⟨.ofList [("user", user), ("post", post)]⟩

theorem built : Catalog.build [user, post] = .ok catalog := rfl

def ann : Row := [("id", .int 1)]

def postBy (id : Int) (author : Value) : Row := [("author", author), ("id", .int id)]

/-- Names the author by a text. -/
def quoted : Row := postBy 1 (.str "1")

/-- Names the author by a fraction. -/
def rounded : Row := postBy 2 (.num (.float 1.0))

def plain : Row := postBy 3 (.int 1)

def store : Store :=
  (((Store.ofCatalog catalog).answer (.insert "user" ann)).2.answer
    (.insertMany "post" [quoted, rounded, plain])).2

theorem store_grown : store.Grown catalog := .answer (.answer .new _) _

/-- The post with a text leads to its author, who does not have it; the post with a fraction leads
to no author, and the author has it. -/
theorem bylines_not_inverse :
    Catalog.build [user, post] = .ok catalog ∧ store.Grown catalog ∧
    user.schema.kind? "posts" = some (.reverse "post" "author") ∧
    store.Stored "user" ann ∧ store.Stored "post" quoted ∧ store.Stored "post" rounded ∧
    ∃ backward, store.related "user" ann "posts" = .ok backward ∧
      quoted ∉ backward ∧ store.related "post" quoted "author" = .ok [ann] ∧
      rounded ∈ backward ∧ store.related "post" rounded "author" = .ok [] := by
  refine ⟨built, store_grown, rfl, ?_, ?_, ?_, [rounded, plain], rfl, ?_, rfl, ?_, rfl⟩
  · exact List.mem_cons_self
  · exact List.mem_cons_self
  · exact List.mem_cons_of_mem _ List.mem_cons_self
  · simp [quoted, rounded, plain, postBy, Value.int]
  · exact List.mem_cons_self

/-- Where keys and columns are whole numbers, posts and authors lead to each other. -/
theorem plain_byline_is_inverse :
    ∃ backward forward, store.related "user" ann "posts" = .ok backward ∧
      store.related "post" plain "author" = .ok forward ∧ plain ∈ backward ∧ forward = [ann] := by
  have left : store.Stored "user" ann := List.mem_cons_self
  have right : store.Stored "post" plain :=
    List.mem_cons_of_mem _ (List.mem_cons_of_mem _ List.mem_cons_self)
  have known : catalog.model? "user" = some user := rfl
  have reverse : user.schema.kind? "posts" = some (.reverse "post" "author") := rfl
  obtain ⟨key, backward, forward, own, back, forth, listed, _, _, inverse⟩ :=
    Store.reverse_relations_invert_iff built store_grown known reverse left right
  cases own
  have among : plain ∈ backward := listed.2 rfl
  have alike := inverse fun value column => .inr (by cases column; exact .wholes rfl rfl)
  exact ⟨backward, forward, back, forth, among, alike.1 among⟩

end Bylines

end GuardedQuery
