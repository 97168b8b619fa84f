import GuardedQuery.Condition
import Mathlib.Data.List.Infix

/-! Paths that are cut, shortened and joined again. Cutting goes from left to right, so no name but
the last can end in an underscore, and the first names of a path make a path of these names. -/

namespace GuardedQuery.Path

/-- The names with separators between them, as characters. -/
def glue (names : List (List Char)) : List Char := ['_', '_'].intercalate names

theorem glue_cons {name : List Char} {names : List (List Char)} (h : names ≠ []) :
    glue (name :: names) = name ++ '_' :: '_' :: glue names := by
  rw [glue, List.intercalate_cons_of_ne_nil h, List.append_assoc]
  rfl

theorem glue_cons_head (c : Char) (name : List Char) (names : List (List Char)) :
    glue ((c :: name) :: names) = c :: glue (name :: names) := by
  cases names with
  | nil => rfl
  | cons other rest =>
    rw [glue_cons (List.cons_ne_nil other rest), glue_cons (List.cons_ne_nil other rest),
      List.cons_append]

/-- The first names of a path are where the path begins. -/
theorem glue_take_cut_prefix (cs : List Char) (n : Nat) : glue ((cut cs).take n) <+: cs := by
  induction cs using cut.induct generalizing n with
  | case1 rest ih =>
    rw [cut]
    rcases n with _ | _ | n
    · simp [glue]
    · simp [glue]
    · rw [List.take_succ_cons, glue_cons (by simp [cut_ne_nil])]
      simpa using ih (n + 1)
  | case2 c rest _ empty => exact absurd empty (cut_ne_nil rest)
  | case3 c rest plain name names found ih =>
    rw [cut, found]
    · cases n with
      | zero => simp [glue]
      | succ n =>
        rw [List.take_succ_cons, glue_cons_head, List.cons_prefix_cons]
        have begins := ih (n + 1)
        rw [found, List.take_succ_cons] at begins
        exact ⟨rfl, begins⟩
    · exact plain
  | case4 => cases n <;> simp [cut, glue]

/-- The first names of a path, put together again, are cut into the same names. -/
theorem cut_glue_take_cut (cs : List Char) (n : Nat) :
    cut (glue ((cut cs).take (n + 1))) = (cut cs).take (n + 1) := by
  induction cs using cut.induct generalizing n with
  | case1 rest ih =>
    rw [cut, List.take_succ_cons]
    cases n with
    | zero => rfl
    | succ n => rw [glue_cons (by simp [cut_ne_nil]), List.nil_append, cut, ih n]
  | case2 c rest _ empty => exact absurd empty (cut_ne_nil rest)
  | case3 c rest plain name names found ih =>
    rw [cut, found]
    · have again := ih n
      have begins := glue_take_cut_prefix rest (n + 1)
      rw [found, List.take_succ_cons] at again begins
      simp only
      rw [List.take_succ_cons, glue_cons_head, cut, again]
      -- what follows the character is a part of what followed it before
      rintro others rfl same
      rw [same] at begins
      obtain ⟨tail, rfl⟩ := begins
      exact plain (others ++ tail) rfl rfl
    · exact plain
  | case4 => cases n <;> rfl

theorem glue_cut (cs : List Char) : glue (cut cs) = cs := by
  induction cs using cut.induct with
  | case1 rest ih => rw [cut, glue_cons (cut_ne_nil rest), ih, List.nil_append]
  | case2 c rest _ empty => exact absurd empty (cut_ne_nil rest)
  | case3 c rest plain name names found ih =>
    rw [cut, found]
    · rw [found] at ih
      simp only
      rw [glue_cons_head, ih]
    · exact plain
  | case4 => rfl

/-- A path without separators is a single name. -/
theorem segments_of_separators {path : String} (single : separators path = 0) :
    segments path = [path] := by
  have cuts := glue_cut path.toList
  rw [separators, segments, List.length_map] at single
  rw [segments]
  cases found : cut path.toList with
  | nil => exact absurd found (cut_ne_nil _)
  | cons name others =>
    obtain rfl : others = [] := by
      rw [found] at single
      exact List.length_eq_zero_iff.1 single
    rw [found, glue, List.intercalate_singleton] at cuts
    rw [cuts, List.map_singleton, String.ofList_toList]

theorem toList_join_take (path : String) (n : Nat) :
    (join ((segments path).take n)).toList = glue ((cut path.toList).take n) := by
  rw [join, String.toList_intercalate, segments, ← List.map_take, List.map_map, glue]
  simp [Function.comp_def, separator]

theorem segments_join_take (path : String) (n : Nat) :
    segments (join ((segments path).take (n + 1))) = (segments path).take (n + 1) := by
  rw [segments, toList_join_take, cut_glue_take_cut, segments, List.map_take]

end GuardedQuery.Path

namespace GuardedQuery.FilterKey

theorem takeLast_names {α : Type} (modifier? : String → Option α) {names : List String}
    (h : names ≠ []) :
    ∃ n, (takeLast modifier? names).1 = names.take (n + 1) := by
  have whole : names = names.take (names.length - 1 + 1) := by
    have := List.length_pos_of_ne_nil h
    rw [Nat.sub_add_cancel this, List.take_length]
  rw [takeLast]
  split
  case isFalse => exact ⟨_, whole⟩
  case isTrue long =>
    split
    · refine ⟨names.length - 2, ?_⟩
      have shorter : names.length - 2 + 1 = names.length - 1 := by omega
      rw [List.dropLast_eq_take, shorter]
    · exact ⟨_, whole⟩

end GuardedQuery.FilterKey

namespace GuardedQuery

/-- The field names of a key are the first segments of its path, at least one of them. -/
theorem fieldNames_eq_take (key : String) :
    ∃ n, fieldNames key = (Path.segments key).take (n + 1) := by
  obtain ⟨m, first⟩ := FilterKey.takeLast_names Lookup.ofName? (Path.segments_ne_nil key)
  have kept : (Path.segments key).take (m + 1) ≠ [] := by simp [Path.segments_ne_nil]
  obtain ⟨n, second⟩ := FilterKey.takeLast_names DatePart.ofName? kept
  refine ⟨min n m, ?_⟩
  rw [fieldNames, FilterKey.read]
  simp only
  rw [first, second, List.take_take, Nat.add_min_add_right]

theorem length_fieldNames_le (key : String) :
    (fieldNames key).length ≤ Path.separators key + 1 := by
  obtain ⟨n, names⟩ := fieldNames_eq_take key
  rw [names, List.length_take, Path.separators]
  omega

theorem fieldNames_ne_nil (key : String) : fieldNames key ≠ [] := by
  obtain ⟨n, names⟩ := fieldNames_eq_take key
  simp [names, Path.segments_ne_nil]

theorem segments_join_fieldNames (key : String) :
    Path.segments (Path.join (fieldNames key)) = fieldNames key := by
  obtain ⟨n, names⟩ := fieldNames_eq_take key
  rw [names, Path.segments_join_take]

/-- The field names, put together again, are where the key begins. -/
theorem join_fieldNames_begins (key : String) :
    (Path.join (fieldNames key)).toList <+: key.toList := by
  obtain ⟨n, names⟩ := fieldNames_eq_take key
  rw [names, Path.toList_join_take]
  exact Path.glue_take_cut_prefix key.toList (n + 1)

example : Path.segments (Path.join (fieldNames "a___b__date__gte")) = ["a", "_b"] := by rfl

end GuardedQuery
