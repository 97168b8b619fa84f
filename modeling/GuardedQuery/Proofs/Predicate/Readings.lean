import GuardedQuery.Proofs.Predicate.Acceptance
import GuardedQuery.Proofs.Predicate.Legible
import GuardedQuery.Store.Write

/-! What filter trees say. A tree can be read directly: a filter asks for all of its conditions and
for those of some group, a conjunction for all of its children, a negation for the opposite of its
child. Reading a node into a tree keeps what it says, and so does the predicate of the tree, however
much of it has been flattened, folded and cancelled. -/

namespace GuardedQuery

namespace FilterTree

/-! Direct readings, where `P` tells which conditions hold -/

/-- All conditions hold, and if there are groups, so do all conditions of one of them. -/
def Meets (P : String × Value → Prop) (conditions : Row) (groups : List Row) : Prop :=
  (∀ entry ∈ conditions, P entry) ∧ (groups ≠ [] → ∃ group ∈ groups, ∀ entry ∈ group, P entry)

/-- The conditions that stand in a node itself. -/
def conditionsOf (node : Value) : Row := ((node.field? "conditions").bind Value.obj?).getD []

/-- The groups that stand in a node itself. -/
def groupsOf (node : Value) : List Row := (node.items "Q").filterMap Value.obj?

/-- What a node says as it is written. A node without a type says something only if it has
conditions, and a negation without a child is about what stands in the node itself. -/
def Says (P : String × Value → Prop) (node : Value) : Prop :=
  match (node.field? "type").bind Value.str? with
  | some "filter" => Meets P (conditionsOf node) (groupsOf node)
  | some "and" => ∀ child, (_ : child ∈ node.items "children") → Says P child
  | some "or" =>
    node.items "children" = [] ∨ ∃ child, ∃ _ : child ∈ node.items "children", Says P child
  | some "exclude" | some "not" => ¬
    match _ : node.field? "child" with
    | none | some .null => Meets P (conditionsOf node) (groupsOf node)
    | some child => Says P child
  | some _ => True
  | none =>
    (node.field? "conditions").isSome = true → Meets P (conditionsOf node) (groupsOf node)
termination_by sizeOf node
decreasing_by
  all_goals first
    | exact Value.sizeOf_lt_of_mem_items ‹_›
    | exact Value.sizeOf_lt_of_field? ‹_›

/-- What a tree says. -/
def Reads (P : String × Value → Prop) : FilterTree → Prop
  | filter conditions groups => Meets P conditions groups
  | and children => ∀ child ∈ children, Reads P child
  | or children => children = [] ∨ ∃ child, ∃ _ : child ∈ children, Reads P child
  | not child => ¬ Reads P child
  | search | empty => True
termination_by tree => sizeOf tree

/-- The conditions that stand anywhere in a tree. -/
def States : FilterTree → String × Value → Prop
  | filter conditions groups, entry => entry ∈ conditions ∨ ∃ group ∈ groups, entry ∈ group
  | and children, entry | or children, entry =>
    ∃ child, ∃ _ : child ∈ children, States child entry
  | not child, entry => States child entry
  | search, _ | empty, _ => False
termination_by tree => sizeOf tree

variable {P : String × Value → Prop} {node : Value} {tree : FilterTree}

/-! Reading a node -/

theorem field?_of_obj? {entries : Row} (h : node.obj? = some entries) (key : String) :
    node.field? key = Entries.get? entries key := by
  cases node <;> cases h
  rfl

theorem field?_of_not_obj? (h : node.obj? = none) (key : String) : node.field? key = none := by
  cases node <;> first | rfl | cases h

theorem isSome_field?_of_obj? {entries : Row} (h : node.obj? = some entries) (key : String) :
    (node.field? key).isSome = entries.contains key := by
  rw [field?_of_obj? h, Entries.contains]

theorem readConditions_ok {conditions : Row} (h : readConditions node = .ok conditions) :
    conditions = conditionsOf node := by
  rw [readConditions] at h
  split at h <;> cases h <;> simp_all [conditionsOf, Value.obj?]

theorem readGroups_ok {groups : List Row} (h : readGroups node = .ok groups) :
    groups = groupsOf node := by
  rw [readGroups] at h
  split at h
  case h_1 | h_2 =>
    cases h
    simp_all [groupsOf, Value.items, Value.arr?]
  case h_3 items given =>
    have read := Checks.mapM_ok_iff.1 h
    rw [groupsOf, Value.items, given, Option.bind_some, Value.arr?, Option.getD_some]
    clear given h
    induction read with
    | nil => rfl
    | @cons item group _ _ here _ ih =>
      cases item <;> cases here
      exact congrArg _ ih
  case h_4 => cases h

theorem reads_of_readFilter (h : readFilter node = .ok tree) :
    tree.Reads P ↔ Meets P (conditionsOf node) (groupsOf node) := by
  obtain ⟨conditions, own, h⟩ := Checks.bind_ok_iff.1 h
  obtain ⟨groups, others, h⟩ := Checks.bind_ok_iff.1 h
  rw [← Checks.pure_ok_iff.1 h, Reads, readConditions_ok own, readGroups_ok others]

/-- The children of a node are read one by one. -/
theorem reads_children {children : List FilterTree}
    (h : ((node.items "children").attach.mapM fun ⟨child, _⟩ => ofValue child) = .ok children)
    (ih : ∀ child ∈ node.items "children", ∀ {tree}, ofValue child = .ok tree →
      (tree.Reads P ↔ Says P child)) :
    List.Forall₂ (fun child tree => tree.Reads P ↔ Says P child) (node.items "children")
      children := by
  have read := (Checks.mapM_ok_iff.1 h).imp fun child tree made => ih child.1 child.2 made
  rwa [← List.attach_map_subtype_val (node.items "children"), List.forall₂_map_left_iff]

theorem says_own {kind : String} (typed : (node.field? "type").bind Value.str? = some kind)
    (negation : kind = "exclude" ∨ kind = "not")
    (childless : node.field? "child" = none ∨ node.field? "child" = some .null) :
    Says P node ↔ ¬ Meets P (conditionsOf node) (groupsOf node) := by
  rw [Says]
  rcases negation with rfl | rfl <;> simp only [typed]
  · split <;> simp_all
  · split <;> simp_all

theorem says_child {kind : String} {child : Value}
    (typed : (node.field? "type").bind Value.str? = some kind)
    (negation : kind = "exclude" ∨ kind = "not") (given : node.field? "child" = some child)
    (known : child ≠ .null) : Says P node ↔ ¬ Says P child := by
  rw [Says]
  rcases negation with rfl | rfl <;> simp only [typed]
  · split <;> simp_all
  · split <;> simp_all

/-- Reading a node into a tree keeps what it says. -/
theorem reads_ofValue_iff (h : ofValue node = .ok tree) : tree.Reads P ↔ Says P node := by
  fun_induction ofValue node generalizing tree
  case case1 node void _ =>
    cases h
    simp [Says, Reads, field?_of_not_obj? void]
  case case3 node is =>
    cases h
    simp [Says, Reads, field?_of_obj? is]
  case case4 node entries _ is untyped given =>
    rw [Says, reads_of_readFilter h]
    simp only [untyped, isSome_field?_of_obj? is, given, forall_const]
  case case5 node entries _ is untyped lacking =>
    cases h
    rw [Says, Reads]
    simp [untyped, isSome_field?_of_obj? is, lacking]
  case case6 node entries _ is typed =>
    rw [Says, reads_of_readFilter h]
    simp only [typed]
  case case8 node entries _ is typed _ _ ih =>
    obtain ⟨children, read, h⟩ := Checks.bind_ok_iff.1 h
    rw [← Checks.pure_ok_iff.1 h, Reads, Says]
    simp only [typed]
    exact Checks.forall_mem_iff_of_forall₂ (reads_children read fun child mem _ => ih child mem)
  case case10 node entries _ is typed _ _ ih =>
    obtain ⟨children, read, h⟩ := Checks.bind_ok_iff.1 h
    have each := reads_children read fun child mem _ => ih child mem
    have none : children = [] ↔ node.items "children" = [] := by
      rw [← List.length_eq_zero_iff, ← each.length_eq, List.length_eq_zero_iff]
    rw [← Checks.pure_ok_iff.1 h, Reads, Says]
    simp only [typed, exists_prop, none, Checks.exists_mem_iff_of_forall₂ each]
  case case13 node entries _ is typed child known given _ ih =>
    obtain ⟨inner, read, rfl⟩ := Checks.map_ok_iff.1 h
    rw [Reads, says_child typed (.inl rfl) given known, ih read]
  case case16 node entries _ is typed child known given _ ih =>
    obtain ⟨inner, read, rfl⟩ := Checks.map_ok_iff.1 h
    rw [Reads, says_child typed (.inr rfl) given known, ih read]
  case case11 node entries _ is typed childless | case12 node entries _ is typed childless =>
    obtain ⟨inner, read, rfl⟩ := Checks.map_ok_iff.1 h
    rw [Reads, reads_of_readFilter read, says_own typed (.inl rfl) (by simp [childless])]
  case case14 node entries _ is typed childless | case15 node entries _ is typed childless =>
    obtain ⟨inner, read, rfl⟩ := Checks.map_ok_iff.1 h
    rw [Reads, reads_of_readFilter read, says_own typed (.inr rfl) (by simp [childless])]
  case case17 node entries _ is typed =>
    cases h
    rw [Reads, Says]
    simp [typed]
  case case2 | case7 | case9 | case18 => cases h

end FilterTree

/-! What the predicate of a tree says -/

namespace Store
variable (s : Store) (model : String) (row : Row)

/-- The row meets the condition that an entry states. -/
def Meets (entry : String × Value) : Prop :=
  ∃ c, Condition.read entry.1 entry.2 = .ok c ∧ s.Accepts model row (.cond c)

/-- The condition that an entry states does not fail on the row. -/
def Tells (entry : String × Value) : Prop :=
  ∀ c, Condition.read entry.1 entry.2 = .ok c → s.Evaluates model row (.cond c)

/-- The predicate comes to a truth value on the row, which is whether `Q` holds. -/
structure Expresses (p : Predicate) (Q : Prop) : Prop where
  evaluates : s.Evaluates model row p
  accepts_iff : s.Accepts model row p ↔ Q

variable {s model row}

namespace Expresses
variable {α : Type} {Q : α → Prop} {xs : List α} {parts : List Predicate}

theorem each_evaluates (each : List.Forall₂ (fun x p => s.Expresses model row p (Q x)) xs parts) :
    ∀ p ∈ parts, s.Evaluates model row p := by
  intro p mem
  obtain ⟨x, _, here⟩ := Checks.exists_of_forall₂ each.flip mem
  exact here.evaluates

theorem allOf (each : List.Forall₂ (fun x p => s.Expresses model row p (Q x)) xs parts) :
    s.Expresses model row (.allOf parts) (∀ x ∈ xs, Q x) where
  evaluates := evaluates_allOf (each_evaluates each)
  accepts_iff := accepts_allOf_iff.trans
    (Checks.forall_mem_iff_of_forall₂ (each.imp fun _ _ here => here.accepts_iff))

theorem anyOf (each : List.Forall₂ (fun x p => s.Expresses model row p (Q x)) xs parts) :
    s.Expresses model row (.anyOf parts) (∃ x ∈ xs, Q x) where
  evaluates := evaluates_anyOf (each_evaluates each)
  accepts_iff := Iff.trans
    ⟨exists_of_accepts_anyOf, accepts_anyOf_of_exists (each_evaluates each)⟩
    (Checks.exists_mem_iff_of_forall₂ (each.imp fun _ _ here => here.accepts_iff))

section
variable {p p' : Predicate} {Q Q' : Prop}

theorem alone (h : s.Expresses model row p Q) : s.Expresses model row (.allOf [p]) Q where
  evaluates := evaluates_allOf (by simpa using h.evaluates)
  accepts_iff := accepts_allOf_iff.trans (by simpa using h.accepts_iff)

theorem and (h : s.Expresses model row p Q) (h' : s.Expresses model row p' Q') :
    s.Expresses model row (.allOf [p, p']) (Q ∧ Q') where
  evaluates := evaluates_allOf (by simpa using ⟨h.evaluates, h'.evaluates⟩)
  accepts_iff := accepts_allOf_iff.trans (by simp [h.accepts_iff, h'.accepts_iff])

theorem negate (h : s.Expresses model row p Q) :
    s.Expresses model row p.negate (¬ Q) where
  evaluates := h.evaluates.negate
  accepts_iff := h.evaluates.accepts_negate_iff.trans (not_congr h.accepts_iff)

theorem all : s.Expresses model row .all True := ⟨evaluates_all, iff_true_intro accepts_all⟩

theorem congr (h : s.Expresses model row p Q) (same : Q ↔ Q') : s.Expresses model row p Q' :=
  ⟨h.evaluates, h.accepts_iff.trans same⟩

end

end Expresses

theorem expresses_conjunct {entry : String × Value} {p : Predicate}
    (h : FilterTree.readConjunct entry = .ok p) (tells : s.Tells model row entry) :
    s.Expresses model row p (s.Meets model row entry) := by
  obtain ⟨c, read, rfl⟩ := Checks.map_ok_iff.1 h
  refine ⟨tells c read, fun accepted => ⟨c, read, accepted⟩, ?_⟩
  rintro ⟨c', read', accepted⟩
  cases read.symm.trans read'
  exact accepted

theorem expresses_conjunction {conditions : Row} {p : Predicate}
    (h : FilterTree.conjunction conditions = .ok p)
    (tells : ∀ entry ∈ conditions, s.Tells model row entry) :
    s.Expresses model row p (∀ entry ∈ conditions, s.Meets model row entry) := by
  obtain ⟨parts, read, rfl⟩ := Checks.map_ok_iff.1 h
  exact .allOf (Checks.forall₂_of_mapM_ok
    (fun entry mem _ here => expresses_conjunct here (tells entry mem)) read)

/-- A filter comes to its own conditions and the disjunction of its groups. -/
theorem expresses_filter {conditions : Row} {groups : List Row} {p : Predicate}
    (h : (FilterTree.filter conditions groups).predicate = .ok p)
    (tells : ∀ entry, (FilterTree.filter conditions groups).States entry →
      s.Tells model row entry) :
    s.Expresses model row p (FilterTree.Meets (s.Meets model row) conditions groups) := by
  rw [FilterTree.predicate] at h
  obtain ⟨own, read, h⟩ := Checks.bind_ok_iff.1 h
  have first := expresses_conjunction read fun entry mem =>
    tells entry (by simp [FilterTree.States, mem])
  split at h
  case isTrue void =>
    cases Checks.pure_ok_iff.1 h
    refine first.alone.congr ?_
    simp only [FilterTree.Meets, List.isEmpty_iff.1 void, ne_eq, not_true_eq_false,
      false_implies, and_true]
  case isFalse some =>
    obtain ⟨others, reads, h⟩ := Checks.bind_ok_iff.1 h
    cases Checks.pure_ok_iff.1 h
    have second := Expresses.anyOf (Checks.forall₂_of_mapM_ok (fun group among _ here =>
      expresses_conjunction here fun entry mem =>
        tells entry (by rw [FilterTree.States]; exact .inr ⟨group, among, mem⟩)) reads)
    refine (first.and second).congr ?_
    simp only [FilterTree.Meets, List.isEmpty_eq_false_iff.1 (Bool.eq_false_iff.2 some), ne_eq,
      not_false_eq_true, forall_const]

/-- The predicate of a tree says what the tree says. -/
theorem expresses_tree (tree : FilterTree) {p : Predicate} (h : tree.predicate = .ok p)
    (tells : ∀ entry, tree.States entry → s.Tells model row entry) :
    s.Expresses model row p (tree.Reads (s.Meets model row)) := by
  match tree, h with
  | .filter conditions groups, h =>
    rw [FilterTree.Reads]
    exact expresses_filter h tells
  | .and children, h =>
    rw [FilterTree.predicate, FilterTree.listPredicates_eq_mapM] at h
    obtain ⟨parts, read, rfl⟩ := Checks.map_ok_iff.1 h
    rw [FilterTree.Reads]
    exact .allOf (Checks.forall₂_of_mapM_ok (fun child among _ here =>
      expresses_tree child here fun entry states => 
        tells entry (by rw [FilterTree.States]; exact ⟨child, among, states⟩)) read)
  | .or [], h =>
    cases h
    rw [FilterTree.Reads]
    exact Expresses.all.congr (by simp)
  | .or (child :: rest), h =>
    rw [FilterTree.predicate, FilterTree.listPredicates_eq_mapM] at h
    case x_1 => exact List.cons_ne_nil child rest
    obtain ⟨parts, read, rfl⟩ := Checks.map_ok_iff.1 h
    rw [FilterTree.Reads]
    refine Expresses.congr (.anyOf (Checks.forall₂_of_mapM_ok (fun child among _ here =>
      expresses_tree child here fun entry states => 
        tells entry (by rw [FilterTree.States]; exact ⟨child, among, states⟩)) read)) ?_
    simp
  | .not child, h =>
    rw [FilterTree.predicate] at h
    obtain ⟨inner, read, rfl⟩ := Checks.map_ok_iff.1 h
    rw [FilterTree.Reads]
    exact (expresses_tree child read fun entry states =>
      tells entry (by rwa [FilterTree.States])).negate
  | .search, h | .empty, h =>
    cases h
    rw [FilterTree.Reads]
    exact .all
termination_by sizeOf tree

/-- Filter trees keep their meaning: on a row on which no condition of the tree fails, its
predicate comes to a truth value, which is what the node says as it is written. -/
theorem filter_trees_keep_their_meaning (s : Store) (model : String) (row : Row) {node : Value}
    {tree : FilterTree} {p : Predicate} (read : FilterTree.ofValue node = .ok tree)
    (made : tree.predicate = .ok p) (tells : ∀ entry, tree.States entry → s.Tells model row entry) :
    ∃ b, s.holds model row p = .ok b ∧ (b = true ↔ FilterTree.Says (s.Meets model row) node) := by
  obtain ⟨⟨b, held⟩, accepts⟩ := expresses_tree tree made tells
  refine ⟨b, held, ?_⟩
  rw [← FilterTree.reads_ofValue_iff read, ← accepts, Accepts, held, Except.ok.injEq]

/-! A tree of chores that are open and belong to ann, and are large or late besides. The search
and the empty disjunction ask for nothing. -/

def chores : Model :=
  Model.ofSchema ((((Schema.ofKey "chore" "id").withField ⟨"owner", .scalar⟩).withField
    ⟨"done", .scalar⟩).withField ⟨"size", .scalar⟩)

def largeChore : Row :=
  [("done", .bool false), ("id", .int 1), ("owner", .str "ann"), ("size", .int 8)]

def choreStore : Store :=
  ((Store.ofCatalog ⟨.ofList [("chore", chores)]⟩).insertMany "chore" [largeChore]).2

def openChores : Value :=
  .obj [("children", .arr [
      .obj [("type", .str "search")],
      .obj [("children", .arr []), ("type", .str "or")],
      .obj [("child", .obj [("conditions", .obj [("owner", .str "ann")]), ("type", .str "not")]),
        ("type", .str "exclude")],
      .obj [("Q", .arr [.obj [("late", .bool true)], .obj [("size__gt", .int 5)]]),
        ("conditions", .obj [("done", .bool false)])]]),
    ("type", .str "and")]

def openChoresTree : FilterTree :=
  .and [.search, .or [], .not (.not (.filter [("owner", .str "ann")] [])),
    .filter [("done", .bool false)] [[("late", .bool true)], [("size__gt", .int 5)]]]

def openChoresPredicate : Predicate :=
  .and [.cond (.plain "owner" .exact (.str "ann")), .cond (.plain "done" .exact (.bool false)),
    .or [.cond (.plain "late" .exact (.bool true)), .cond (.plain "size" .gt (.int 5))]]

theorem accepts_owner : choreStore.Accepts "chore" largeChore
    (.cond (.plain "owner" .exact (.str "ann"))) := rfl

theorem accepts_undone : choreStore.Accepts "chore" largeChore
    (.cond (.plain "done" .exact (.bool false))) := rfl

theorem rejects_late : choreStore.Rejects "chore" largeChore
    (.cond (.plain "late" .exact (.bool true))) := rfl

theorem accepts_large : choreStore.Accepts "chore" largeChore
    (.cond (.plain "size" .gt (.int 5))) := rfl

theorem openChores_tell (entry : String × Value) (states : openChoresTree.States entry) :
    choreStore.Tells "chore" largeChore entry := by
  intro c read
  simp only [openChoresTree, FilterTree.States, List.mem_cons, List.not_mem_nil, or_false,
    exists_prop, exists_eq_or_imp, IsEmpty.exists_iff, exists_const, false_and, ↓existsAndEq,
    true_and, false_or] at states
  rcases states with rfl | rfl | rfl | rfl <;> cases read
  · exact ⟨true, accepts_owner⟩
  · exact ⟨true, accepts_undone⟩
  · exact ⟨false, rejects_late⟩
  · exact ⟨true, accepts_large⟩

theorem accepts_openChores : choreStore.Accepts "chore" largeChore openChoresPredicate := by
  rw [openChoresPredicate, Accepts, holds, holdAll_iff]
  refine List.forall_mem_cons.2 ⟨accepts_owner, List.forall_mem_cons.2 ⟨accepts_undone,
    List.forall_mem_singleton.2 ?_⟩⟩
  rw [Accepts, holds, holdAny, rejects_late, holdAny, accepts_large]
  rfl

theorem large_chore_is_open :
    FilterTree.ofValue openChores = .ok openChoresTree ∧
    openChoresTree.predicate = .ok openChoresPredicate ∧
    (∀ entry, openChoresTree.States entry → choreStore.Tells "chore" largeChore entry) ∧
    choreStore.Accepts "chore" largeChore openChoresPredicate ∧
    FilterTree.Says (choreStore.Meets "chore" largeChore) openChores := by
  have read : FilterTree.ofValue openChores = .ok openChoresTree := by cbv
  have made : openChoresTree.predicate = .ok openChoresPredicate := rfl
  obtain ⟨b, held, direct⟩ :=
    filter_trees_keep_their_meaning choreStore "chore" largeChore read made openChores_tell
  have yes := Except.ok.inj (held.symm.trans accepts_openChores)
  exact ⟨read, made, openChores_tell, accepts_openChores, direct.1 yes⟩

end Store

end GuardedQuery
