import GuardedQuery.Cache.Key
import Mathlib.Algebra.Ring.Nat
import Mathlib.Data.List.Pairwise

/-! Keys of cached answers. Components that are framed by their lengths can be taken apart, so two
keys are equal only if all components are, or else the digest takes two framings to one. -/

namespace GuardedQuery

/-! Bytes -/

theorem byteLoop_eq (bytes : ByteArray) (i : Nat) (taken : List UInt8) :
    ByteArray.toList.loop bytes i taken = taken.reverse ++ bytes.data.toList.drop i := by
  fun_induction ByteArray.toList.loop bytes i taken with
  | case1 i taken inside ih =>
    have next : bytes.data.toList.drop i = bytes.get! i :: bytes.data.toList.drop (i + 1) := by
      rw [List.drop_eq_getElem_cons (Array.length_toList.symm ▸ inside)]
      exact congrArg (· :: _) (getElem!_pos bytes.data i inside).symm
    rw [ih, next, List.reverse_cons, List.append_assoc, List.singleton_append]
  | case2 i taken outside =>
    rw [List.drop_eq_nil_of_le (Array.length_toList.symm ▸ Nat.le_of_not_lt outside),
      List.append_nil]

namespace Digest

theorem digitChar_inj {n m : Nat} (small : n < 16) (small' : m < 16)
    (h : Nat.digitChar n = Nat.digitChar m) : n = m := by
  have all : ∀ n < 16, ∀ m < 16, Nat.digitChar n = Nat.digitChar m → n = m := by decide
  exact all n small m small' h

theorem hex_inj {xs ys : List UInt8} (h : hex xs = hex ys) : xs = ys := by
  have chars := String.ofList_inj.1 h
  induction xs generalizing ys with
  | nil => cases ys with
    | nil => rfl
    | cons y ys => cases chars
  | cons x xs ih =>
    cases ys with
    | nil => cases chars
    | cons y ys =>
      simp only [List.flatMap_cons, List.cons_append, List.nil_append, List.cons.injEq] at chars
      obtain ⟨high, low, others⟩ := chars
      have high := digitChar_inj (by have := x.toNat_lt; omega) (by have := y.toNat_lt; omega) high
      have low := digitChar_inj (by omega) (by omega) low
      have same : x.toNat = y.toNat := by omega
      rw [UInt8.toNat_inj.1 same, ih (congrArg String.ofList others) others]

end Digest

namespace Cache.Key

theorem bytesOf_inj {s t : String} (h : bytesOf s = bytesOf t) : s = t := by
  simp only [bytesOf, ByteArray.toList, byteLoop_eq, List.reverse_nil, List.nil_append,
    List.drop_zero] at h
  exact String.toByteArray_inj.1 (ByteArray.ext (Array.toList_inj.1 h))

theorem length_littleEndian (n width : Nat) : (littleEndian n width).length = width := by
  induction width generalizing n with
  | zero => rfl
  | succ width ih => rw [littleEndian, List.length_cons, ih]

theorem littleEndian_inj {width n m : Nat} (fits : n < 256 ^ width) (fits' : m < 256 ^ width)
    (h : littleEndian n width = littleEndian m width) : n = m := by
  induction width generalizing n m with
  | zero => omega
  | succ width ih =>
    rw [pow_succ] at fits fits'
    obtain ⟨first, others⟩ := List.cons.inj h
    have digits := congrArg UInt8.toNat first
    rw [UInt8.toNat_ofNat', UInt8.toNat_ofNat'] at digits
    have rest := ih (by omega) (by omega) others
    omega

/-- The length of the component can be written in front of it. -/
def Fits (component : String) : Prop := (bytesOf component).length < 2 ^ 64

instance (component : String) : Decidable (Fits component) :=
  inferInstanceAs (Decidable ((bytesOf component).length < 2 ^ 64))

theorem frame_inj {s t : String} {rest rest' : List UInt8} (fits : Fits s) (fits' : Fits t)
    (h : frame s ++ rest = frame t ++ rest') : s = t ∧ rest = rest' := by
  simp only [frame, List.append_assoc] at h
  obtain ⟨lengths, left⟩ := List.append_inj h (by simp only [length_littleEndian])
  obtain ⟨same, left⟩ := List.append_inj left (littleEndian_inj fits fits' lengths)
  exact ⟨bytesOf_inj same, left⟩

/-- The digest does not take the two texts for one another. -/
def Distinguishes (xs ys : List UInt8) : Prop := Digest.sha256 xs = Digest.sha256 ys → xs = ys

instance : Std.Symm Distinguishes := ⟨fun _ _ told same => (told same.symm).symm⟩

instance (xs ys : List UInt8) : Decidable (Distinguishes xs ys) :=
  inferInstanceAs (Decidable (Digest.sha256 xs = Digest.sha256 ys → xs = ys))

/-- The digest takes none of the texts for another one. -/
def CollisionFree (texts : List (List UInt8)) : Prop := texts.Pairwise Distinguishes

instance (texts : List (List UInt8)) : Decidable (CollisionFree texts) :=
  inferInstanceAs (Decidable (texts.Pairwise Distinguishes))

theorem CollisionFree.distinguishes {texts : List (List UInt8)} (free : CollisionFree texts)
    {xs ys : List UInt8} (left : xs ∈ texts) (right : ys ∈ texts) : Distinguishes xs ys :=
  List.Pairwise.forall_of_forall (R := Distinguishes) (fun _ _ _ => rfl) free left right

variable {text params transaction context text' params' transaction' context' : String}

theorem frames_inj (fits : ∀ component ∈ [text, params, transaction, context], Fits component)
    (fits' : ∀ component ∈ [text', params', transaction', context'], Fits component)
    (h : frames text params transaction context = frames text' params' transaction' context') :
    text = text' ∧ params = params' ∧ transaction = transaction' ∧ context = context' := by
  simp only [List.forall_mem_cons] at fits fits'
  obtain ⟨fits₁, fits₂, fits₃, fits₄, -⟩ := fits
  obtain ⟨fits₁', fits₂', fits₃', fits₄', -⟩ := fits'
  simp only [frames, List.append_assoc] at h
  obtain ⟨texts, h⟩ := frame_inj fits₁ fits₁' h
  obtain ⟨values, h⟩ := frame_inj fits₂ fits₂' h
  obtain ⟨transactions, h⟩ := frame_inj fits₃ fits₃' h
  obtain ⟨contexts, -⟩ := frame_inj fits₄ fits₄' (congrArg (· ++ []) h)
  exact ⟨texts, values, transactions, contexts⟩

/-- Before equal components, whatever their lengths, the texts are told. -/
theorem text_eq_of_frames
    (h : frames text params transaction context = frames text' params transaction context) :
    text = text' := by
  have framed : frame text = frame text' :=
    List.append_cancel_right (List.append_cancel_right (List.append_cancel_right h))
  exact bytesOf_inj (List.append_inj framed (by simp only [length_littleEndian])).2

theorem digest_eq_of_make {query query' : Selection.Rendered}
    (h : make query transaction context = make query' transaction' context') :
    Digest.sha256 (frames query.text query.paramsText transaction context) =
      Digest.sha256 (frames query'.text query'.paramsText transaction' context') := by
  have chars := congrArg String.toList h
  rw [make, make, String.toList_append, String.toList_append] at chars
  exact Digest.hex_inj (String.toList_inj.1 (List.append_cancel_left chars))

/-- Equal keys stand for the same selection, parameters, transaction and context. -/
theorem make_inj {query query' : Selection.Rendered}
    (fits : ∀ component ∈ [query.text, query.paramsText, transaction, context], Fits component)
    (fits' : ∀ component ∈ [query'.text, query'.paramsText, transaction', context'],
      Fits component)
    (distinct : Distinguishes (frames query.text query.paramsText transaction context)
      (frames query'.text query'.paramsText transaction' context'))
    (h : make query transaction context = make query' transaction' context') :
    query.text = query'.text ∧ query.paramsText = query'.paramsText ∧
      transaction = transaction' ∧ context = context' :=
  frames_inj fits fits' (distinct (digest_eq_of_make h))

/-- Components that are shorter than 2 ^ 64 bytes are told from the bytes that are digested, whatever
stands in them. So keys are equal exactly if all components are, unless the digest takes one of the
two texts for the other; no digest tells all texts apart, since there are more texts than digests. -/
theorem framing_is_injective :
    (∀ text params transaction context text' params' transaction' context' : String,
      (∀ component ∈ [text, params, transaction, context], Fits component) →
      (∀ component ∈ [text', params', transaction', context'], Fits component) →
        (frames text params transaction context = frames text' params' transaction' context' ↔
          text = text' ∧ params = params' ∧ transaction = transaction' ∧ context = context')) ∧
    ∀ (query query' : Selection.Rendered) (transaction context transaction' context' : String),
      (∀ component ∈ [query.text, query.paramsText, transaction, context], Fits component) →
      (∀ component ∈ [query'.text, query'.paramsText, transaction', context'], Fits component) →
      Distinguishes (frames query.text query.paramsText transaction context)
        (frames query'.text query'.paramsText transaction' context') →
        (make query transaction context = make query' transaction' context' ↔
          query.text = query'.text ∧ query.paramsText = query'.paramsText ∧
            transaction = transaction' ∧ context = context') := by
  constructor
  · intro text params transaction context text' params' transaction' context' fits fits'
    constructor
    · exact frames_inj fits fits'
    · rintro ⟨rfl, rfl, rfl, rfl⟩
      rfl
  · intro query query' transaction context transaction' context' fits fits' distinct
    constructor
    · exact make_inj fits fits' distinct
    · rintro ⟨texts, values, rfl, rfl⟩
      rw [make, make, texts, values]

/-! A transaction whose name goes on like the frame of a context -/

namespace Imitation

/-- The items with one value. -/
def query : Selection.Rendered := ((Selection.ofModel "item").narrow (.eq "value" (.int 1))).render

def name : String := "t\x01\x00\x00\x00\x00\x00\x00\x00r"

/-- Behind its length, the longer name has the bytes of the shorter one and of the framed context
that stands next to it. The lengths differ, so the keys do. -/
theorem imitated_frame_is_told :
    bytesOf name = bytesOf "t" ++ frame "r" ∧
    frames query.text query.paramsText name "" ≠ frames query.text query.paramsText "t" "r" ∧
    make query name "" ≠ make query "t" "r" := by
  have fits : ∀ component ∈ [query.text, query.paramsText, name, ""], Fits component := by
    decide +kernel
  have fits' : ∀ component ∈ [query.text, query.paramsText, "t", "r"], Fits component := by
    decide +kernel
  have distinct : Distinguishes (frames query.text query.paramsText name "")
      (frames query.text query.paramsText "t" "r") := by decide +kernel
  obtain ⟨told, keys⟩ := framing_is_injective
  refine ⟨by decide +kernel, fun same => ?_, fun same => ?_⟩
  · obtain ⟨_, _, names, _⟩ := (told _ _ _ _ _ _ _ _ fits fits').1 same
    exact absurd names (by decide)
  · obtain ⟨_, _, names, _⟩ := (keys _ _ _ _ _ _ fits fits' distinct).1 same
    exact absurd names (by decide)

end Imitation

end Cache.Key

end GuardedQuery
