import GuardedQuery.Proofs.Store.Failures
import GuardedQuery.Proofs.Store.Insertion
import GuardedQuery.Proofs.Store.Inverses

/-! Assigned primary keys. The greatest key so far is no less than the integer keys of all rows, so
the integer after it is new among the numbers. Keys are told apart by their texts, though, and the
digits of a number are also a text that a row can have brought along as its key. -/

namespace GuardedQuery

namespace Store

/-! Texts of integers -/

/-- The text of an integer is the text of that integer and of one string. -/
theorem keyText_eq_numeral_iff {key : Value} {i : Int} :
    keyText key = toString i ↔ key = .int i ∨ key = .str (toString i) := by
  constructor
  · intro same
    have numeral (c : Char) (mem : c ∈ (keyText key).toList) :
        isNumeral c = true ∧ c ≠ '.' ∧ c ≠ 'e' :=
      Number.intText_chars i c (same ▸ mem)
    have word (text : String) (is : keyText key = text) {c : Char} (mem : c ∈ text.toList)
        (other : isNumeral c = false) : False := by
      have := (numeral c (is ▸ mem)).1
      rw [other] at this
      cases this
    cases key with
    | null => exact (word "null" (c := 'n') rfl (by decide) (by decide)).elim
    | bool b =>
      cases b with
      | false => exact (word "false" (c := 'f') rfl (by decide) (by decide)).elim
      | true => exact (word "true" (c := 't') rfl (by decide) (by decide)).elim
    | num n =>
      cases n with
      | int j => exact .inl (congrArg Value.int (Number.intText_inj same))
      | float x =>
        by_cases finite : x.isFinite = true
        · have text : keyText (.num (.float x)) = Number.floatText x := if_pos finite
          obtain ⟨_, c, mem, mark⟩ := floatText_chars x
          obtain ⟨_, point, exponent⟩ := numeral c (text ▸ mem)
          exact (mark.elim point exponent).elim
        · have text : keyText (.num (.float x)) = "null" := if_neg finite
          exact (word _ text (c := 'n') (by decide) (by decide)).elim
    | str s => exact .inr (congrArg Value.str same)
    | arr items =>
      have opened : '[' ∈ (keyText (.arr items)).toList := by
        change '[' ∈ (Value.arr items).text.toList
        rw [Value.toList_text_arr]
        exact List.mem_cons_self
      exact (word _ rfl opened (by decide)).elim
    | obj entries =>
      have opened : '\x7b' ∈ (keyText (.obj entries)).toList := by
        change '\x7b' ∈ (Value.obj entries).text.toList
        rw [Value.toList_text_obj]
        exact List.mem_cons_self
      exact (word _ rfl opened (by decide)).elim
  · rintro (rfl | rfl) <;> rfl

namespace Table
variable {t : Table} {keyName model : String} {row : Row}

/-! The greatest key so far -/

theorem le_keyAfter (last : Int) (key : Value) : last ≤ keyAfter last key := by
  rw [keyAfter]
  split
  · exact Int.le_max_left _ _
  · exact Int.le_refl _

theorem word_le_keyAfter {last i : Int} {key : Value} (word : key.word? = some i) :
    i ≤ keyAfter last key := by
  rw [keyAfter, word]
  exact Int.le_max_right _ _

theorem lastKey_insertKeyed (t : Table) (model : String) (key : Value) (row : Row) :
    (t.insertKeyed model key row).2.lastKey = keyAfter t.lastKey key := by
  rw [insertKeyed]
  split <;> rfl

/-- Neither a row that is inserted nor one that is refused takes the greatest key back. -/
theorem lastKey_le_insert (t : Table) (model keyName : String) (row : Row) :
    t.lastKey ≤ (t.insert model keyName row).2.lastKey := by
  rw [insert]
  split
  · rw [lastKey_insertKeyed]
    exact le_keyAfter _ _
  · split
    · rw [lastKey_insertKeyed]
      exact le_keyAfter _ _
    · exact Int.le_refl _

/-- No row has an integer key beyond the greatest key so far. -/
structure Bounded (keyName : String) (t : Table) : Prop where
  nonneg : 0 ≤ t.lastKey
  bound : ∀ entry ∈ t.rows, ∀ key i, entry.2.get? keyName = some key → key.word? = some i →
    i ≤ t.lastKey

namespace Bounded

theorem empty : Table.empty.Bounded keyName := ⟨Int.le_refl _, nofun⟩

theorem insert (h : t.Bounded keyName) (model : String) (row : Row) :
    (t.insert model keyName row).2.Bounded keyName := by
  have grows := lastKey_le_insert t model keyName row
  refine ⟨Int.le_trans h.nonneg grows, fun entry mem key i own word => ?_⟩
  cases inserted : t.insert model keyName row with
  | mk outcome after =>
    rw [inserted] at grows mem
    cases outcome with
    | error e =>
      rw [rows_of_insert_error inserted] at mem
      exact Int.le_trans (h.bound entry mem key i own word) grows
    | ok stored =>
      have inserts := insert_ok inserted
      rw [inserts.rows] at mem
      rcases List.mem_append.1 mem with old | last
      · exact Int.le_trans (h.bound entry old key i own word) grows
      · obtain rfl := List.mem_singleton.1 last
        rw [inserts.lastKey, own, Option.getD_some]
        exact word_le_keyAfter word

/-- A row is replaced by one of the same key. -/
theorem replace (h : t.Bounded keyName) {key : Value} {before after : Row}
    (addressed : t.get? key = some before)
    (same : after.get? keyName = before.get? keyName) : (t.replace key after).Bounded keyName := by
  obtain ⟨n, numbered, found⟩ := Option.bind_eq_some_iff.1 addressed
  obtain ⟨front, back, split, _⟩ := List.lookup_eq_some_iff.1 found
  have there : (n, before) ∈ t.rows := by simp [split]
  rw [Table.replace, numbered]
  refine ⟨h.nonneg, fun entry mem key i own word => ?_⟩
  obtain ⟨old, among, rfl⟩ := List.mem_map.1 mem
  split at own
  · exact h.bound _ there key i (same ▸ own) word
  · exact h.bound old among key i own word

theorem remove (h : t.Bounded keyName) (key : Value) : (t.remove key).Bounded keyName := by
  rw [Table.remove]
  split
  · exact ⟨h.nonneg, fun entry mem => h.bound entry (List.mem_of_mem_filter mem)⟩
  · exact h

end Bounded

theorem Turns.bounded (turns : empty.Turns keyName t) : t.Bounded keyName := by
  induction turns with
  | refl => exact .empty
  | insert _ model row ih => exact ih.insert model row
  | replace _ addressed same ih => exact ih.replace addressed same
  | remove _ key ih => exact ih.remove key

/-! Keys that are taken -/

/-- The index has the texts of the keys of all rows, and no others. -/
theorem Turns.contains_iff (turns : empty.Turns keyName t) {text : String} :
    t.index.contains text = true ↔
      ∃ row ∈ t.values, ∃ key, row.get? keyName = some key ∧ keyText key = text := by
  constructor
  · intro taken
    obtain ⟨n, found⟩ := Option.isSome_iff_exists.1 taken
    obtain ⟨row, key, mem, own, led⟩ := turns.traced text n found
    exact ⟨row, List.mem_map_of_mem mem, key, own, led⟩
  · rintro ⟨row, stored, key, own, rfl⟩
    obtain ⟨entry, mem, rfl⟩ := List.mem_map.1 stored
    have numbered := (turns.indexed indexed_empty).number?_of_mem mem own
    exact Option.isSome_iff_exists.2 ⟨entry.1, numbered⟩

/-- A row has the next integer for its key as a string. -/
def NextTaken (keyName : String) (t : Table) : Prop :=
  ∃ row ∈ t.values, row.get? keyName = some (.str (toString (t.lastKey + 1)))

/-- Only a string can have taken the text of the next integer, as all integers are smaller. -/
theorem Turns.contains_next_iff (turns : empty.Turns keyName t)
    (fits : fitsWord (t.lastKey + 1) = true) :
    t.index.contains (toString (t.lastKey + 1)) = true ↔ t.NextTaken keyName := by
  rw [turns.contains_iff]
  constructor
  · rintro ⟨row, stored, key, own, numeral⟩
    rcases keyText_eq_numeral_iff.1 numeral with rfl | rfl
    · obtain ⟨entry, mem, rfl⟩ := List.mem_map.1 stored
      have bound := turns.bounded.bound entry mem _ _ own (Number.word?_int fits)
      omega
    · exact ⟨row, stored, own⟩
  · rintro ⟨row, stored, own⟩
    exact ⟨row, stored, _, own, rfl⟩

open Classical in
/-- A row without a key gets the next integer, unless there is none left or its text is taken. -/
theorem Turns.insert_assigned (turns : empty.Turns keyName t) (model : String)
    (blank : ownKey? keyName row = none) :
    (t.insert model keyName row).1 =
      if fitsWord (t.lastKey + 1) then
        if t.NextTaken keyName then .error (.duplicateKey model (toString (t.lastKey + 1)))
        else .ok (row.insert keyName (.int (t.lastKey + 1)))
      else .error (.keysExhausted model) := by
  have text : keyText (.int (t.lastKey + 1)) = toString (t.lastKey + 1) := rfl
  rw [Table.insert, blank]
  by_cases fits : fitsWord (t.lastKey + 1) = true
  · simp only [fits, if_true, insertKeyed, text]
    by_cases taken : t.NextTaken keyName
    · rw [if_pos ((turns.contains_next_iff fits).2 taken), if_pos taken]
    · rw [if_neg (mt (turns.contains_next_iff fits).1 taken), if_neg taken]
  · simp only [fits, Bool.false_eq_true, if_false]

theorem ownKey?_eq_none_iff :
    ownKey? keyName row = none ↔ ∀ key, row.get? keyName = some key → key.isNull = true := by
  rw [ownKey?]
  cases row.get? keyName with
  | none => simp
  | some key => cases null : key.isNull <;> simp [null]

end Table

variable {c : Catalog} {s : Store} {model : String} {m : Model} {row : Row}

/-- A key that no row of a table has, as far as the index can tell. -/
def Fresh (t : Table) (keyName : String) (key : Value) : Prop :=
  ∀ row ∈ t.values, ∀ own, row.get? keyName = some own → keyText own ≠ keyText key

open Classical in
theorem Grown.insert_assigned (grown : s.Grown c) (known : c.model? model = some m)
    (blank : ∀ key, row.get? m.schema.key = some key → key.isNull = true) :
    (s.insert model row).1 =
      if fitsWord ((s.table model).lastKey + 1) then
        if (s.table model).NextTaken m.schema.key then
          .error (.duplicateKey model (toString ((s.table model).lastKey + 1)))
        else .ok (row.insert m.schema.key (.int ((s.table model).lastKey + 1)))
      else .error (.keysExhausted model) := by
  obtain ⟨rfl, turned, _⟩ := grown.turned
  rw [Store.insert, model_ok_iff.2 known]
  exact (turned model m known).insert_assigned model (Table.ownKey?_eq_none_iff.2 blank)

/-- A row without a primary key is inserted under a fresh one iff there is an integer left after the
greatest key so far and no row has brought along the digits of this integer as a string. The key
that it gets is that integer. -/
theorem assigned_keys_are_fresh_iff (grown : s.Grown c) (known : c.model? model = some m)
    (blank : ∀ key, row.get? m.schema.key = some key → key.isNull = true) :
    ((∃ stored key, (s.insert model row).1 = .ok stored ∧ stored.get? m.schema.key = some key ∧
        Fresh (s.table model) m.schema.key key) ↔
      fitsWord ((s.table model).lastKey + 1) = true ∧
        ¬ (s.table model).NextTaken m.schema.key) ∧
    ∀ stored, (s.insert model row).1 = .ok stored →
      stored = row.insert m.schema.key (.int ((s.table model).lastKey + 1)) := by
  have turns := grown.turned.2.1 model m known
  change Table.empty.Turns m.schema.key (s.table model) at turns
  have outcome := grown.insert_assigned known blank
  refine ⟨⟨?_, ?_⟩, fun stored done => ?_⟩
  · rintro ⟨stored, key, done, _⟩
    rw [done] at outcome
    split at outcome
    · rename_i fits
      split at outcome
      · cases outcome
      · rename_i free
        exact ⟨fits, free⟩
    · cases outcome
  · rintro ⟨fits, free⟩
    rw [if_pos fits, if_neg free] at outcome
    refine ⟨_, _, outcome, Entries.get?_insert_self _ _ _, fun other stored own its same => free ?_⟩
    exact (turns.contains_next_iff fits).1 (turns.contains_iff.2 ⟨other, stored, own, its, same⟩)
  · rw [done] at outcome
    split at outcome
    · split at outcome
      · cases outcome
      · exact Except.ok.inj outcome
    · cases outcome

end Store

namespace Parcels

def parcel : Model :=
  Model.ofSchema ((Schema.ofKey "parcel" "id").withField ⟨"name", .scalar⟩)

def catalog : Catalog := ⟨.ofList [("parcel", parcel)]⟩

/-- A store that holds one row of a given key. -/
def holding (key : Value) : Store :=
  ((Store.ofCatalog catalog).answer (.insert "parcel" [("id", key)])).2

theorem holding_grown (key : Value) : (holding key).Grown catalog := .answer .new _

def unnamed : Row := [("name", .str "a")]

/-- After the string `"1"` the first key to be assigned is a duplicate, and after the greatest word
no key can be assigned at all. -/
theorem parcels_without_fresh_keys :
    (holding (.str "1")).Grown catalog ∧ (holding (.int 0x7fffffffffffffff)).Grown catalog ∧
    unnamed.get? "id" = none ∧
    ((holding (.str "1")).insert "parcel" unnamed).1 = .error (.duplicateKey "parcel" "1") ∧
    ((holding (.int 0x7fffffffffffffff)).insert "parcel" unnamed).1 =
      .error (.keysExhausted "parcel") :=
  ⟨holding_grown _, holding_grown _, rfl, rfl, rfl⟩

/-- After a number the next one is free. -/
theorem parcel_after_ten_is_eleven :
    ∃ stored key, ((holding (.int 10)).insert "parcel" unnamed).1 = .ok stored ∧
      stored.get? "id" = some key ∧ Store.Fresh ((holding (.int 10)).table "parcel") "id" key ∧
      stored = [("id", .int 11), ("name", .str "a")] := by
  have known : catalog.model? "parcel" = some parcel := rfl
  have blank : ∀ key, unnamed.get? parcel.schema.key = some key → key.isNull = true := nofun
  obtain ⟨fresh, next⟩ := Store.assigned_keys_are_fresh_iff (holding_grown (.int 10)) known blank
  have free : ¬ ((holding (.int 10)).table "parcel").NextTaken "id" := by
    rintro ⟨row, stored, own⟩
    obtain rfl := List.mem_singleton.1 stored
    cases own
  obtain ⟨stored, key, done, own, unused⟩ := fresh.2 ⟨rfl, free⟩
  exact ⟨stored, key, done, own, unused, next stored done⟩

end Parcels

end GuardedQuery
