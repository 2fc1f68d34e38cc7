import Mathlib.Data.Finset.Card

/-!
Keys in the order of their last use. `touch` moves a key to the front; `recency` is the
order after uses, the latest first; its first `c` keys are those since whose last use
fewer than `c` distinct other keys were used, and they can be kept without the rest.
-/
namespace FifthD.Library.Recency

variable {κ : Type*} [DecidableEq κ]

/-- Use a key: it moves to the front, or comes in there. -/
def touch (key : κ) (order : List κ) : List κ := key :: order.erase key

/-- The order after uses, the latest use first. -/
def recency (uses : List κ) : List κ := uses.foldr touch []

theorem recency_cons (key : κ) (uses : List κ) :
    recency (key :: uses) = touch key (recency uses) := rfl

theorem touch_nodup {order : List κ} (key : κ) (nodup : order.Nodup) : (touch key order).Nodup :=
  List.nodup_cons.mpr ⟨nodup.not_mem_erase, nodup.erase key⟩

theorem mem_touch {key other : κ} {order : List κ} :
    other ∈ touch key order ↔ other = key ∨ other ∈ order := by
  unfold touch
  rw [List.mem_cons]
  constructor
  · rintro (same | kept)
    · exact .inl same
    · exact .inr (List.mem_of_mem_erase kept)
  · rintro (same | member)
    · exact .inl same
    · by_cases same : other = key
      · exact .inl same
      · exact .inr ((List.mem_erase_of_ne same).mpr member)

theorem recency_nodup (uses : List κ) : (recency uses).Nodup := by
  induction uses with
  | nil => exact List.nodup_nil
  | cons key uses ih => exact touch_nodup key ih

theorem mem_recency {key : κ} {uses : List κ} : key ∈ recency uses ↔ key ∈ uses := by
  induction uses with
  | nil => rfl
  | cons used uses ih => rw [recency_cons, mem_touch, ih, List.mem_cons]

/-! ## The first keys -/

/-- Erasing from the first `n + 1` keys gives the first `n` of the others. -/
theorem take_erase_take (key : κ) (order : List κ) (n : Nat) :
    ((order.take (n + 1)).erase key).take n = (order.erase key).take n := by
  induction order generalizing n with
  | nil => rfl
  | cons first rest ih =>
    rw [List.take_succ_cons]
    by_cases same : first = key
    · subst same
      rw [List.erase_cons_head, List.erase_cons_head, List.take_take, Nat.min_self]
    · have differ : (first == key) = false := beq_false_of_ne same
      rw [List.erase_cons, List.erase_cons, differ]
      cases n with
      | zero => rfl
      | succ n =>
        have tail := ih n
        simpa using tail

/-- The first `c` keys after a use need the first `c` keys before it only. -/
theorem take_touch_take (key : κ) (order : List κ) (c : Nat) :
    (touch key (order.take c)).take c = (touch key order).take c := by
  cases c with
  | zero => rfl
  | succ n => rw [touch, touch, List.take_succ_cons, List.take_succ_cons, take_erase_take]

/-- A key is among the first `n` when fewer than `n` keys stand before it. -/
theorem mem_take_iff {key : κ} {order : List κ} {n : Nat} :
    key ∈ order.take n ↔ key ∈ order ∧ (order.takeWhile (· ≠ key)).length < n := by
  induction order generalizing n with
  | nil => simp
  | cons first rest ih =>
    cases n with
    | zero => simp
    | succ n =>
      rw [List.take_succ_cons, List.mem_cons, List.mem_cons]
      by_cases same : first = key
      · simp [same]
      · simp [same, Ne.symm same, ih]

/-! ## Distinct keys since a use -/

/-- The keys used since the last use of `key`. -/
def usedSince (key : κ) (uses : List κ) : Finset κ := (uses.takeWhile (· ≠ key)).toFinset

theorem takeWhile_erase {key other : κ} (differ : other ≠ key) (order : List κ) :
    (order.erase other).takeWhile (· ≠ key) = (order.takeWhile (· ≠ key)).erase other := by
  induction order with
  | nil => rfl
  | cons first rest ih =>
    by_cases same : first = other
    · subst same
      simp [differ]
    · by_cases stop : first = key
      · simp [stop, Ne.symm differ]
      · simpa [same, stop] using ih

/-- The keys before `key` in the order are those used since its last use. -/
theorem toFinset_takeWhile_recency (key : κ) (uses : List κ) :
    ((recency uses).takeWhile (· ≠ key)).toFinset = usedSince key uses := by
  induction uses with
  | nil => rfl
  | cons used uses ih =>
    unfold usedSince at ih ⊢
    rw [recency_cons, touch]
    by_cases same : used = key
    · simp [same]
    · rw [List.takeWhile_cons_of_pos (by simpa using same),
        List.takeWhile_cons_of_pos (by simpa using same), takeWhile_erase same,
        List.toFinset_cons, List.toFinset_cons, ← ih]
      ext other
      by_cases first : other = used
      · simp [first]
      · simp [first, List.mem_erase_of_ne first]

/-- The first `c` keys of the order are those since whose last use fewer than `c` distinct
other keys were used. -/
theorem mem_take_recency {key : κ} {uses : List κ} {c : Nat} :
    key ∈ (recency uses).take c ↔ key ∈ uses ∧ (usedSince key uses).card < c := by
  have nodup : ((recency uses).takeWhile (· ≠ key)).Nodup :=
    (recency_nodup uses).sublist (List.takeWhile_sublist _)
  rw [mem_take_iff, mem_recency, ← toFinset_takeWhile_recency, List.toFinset_card_of_nodup nodup]

/-! ## Two sizes side by side -/

omit [DecidableEq κ] in
theorem dropLast_sublist_dropLast {few many : List κ} (sublist : few.Sublist many) :
    few.dropLast.Sublist many.dropLast := by
  rw [← List.reverse_sublist, ← List.tail_reverse, ← List.tail_reverse]
  exact (List.reverse_sublist.mpr sublist).tail

/-- The keys kept by two sizes after the same uses: the smaller keeps some of the larger's,
in the larger's order, and as many as it has room for. -/
structure Included (small large : Nat) (few many : List κ) : Prop where
  sublist : few.Sublist many
  length : few.length = min small many.length

namespace Included

variable {small large : Nat} {few many : List κ}

omit [DecidableEq κ] in
/-- A key that the smaller does not keep and the larger does: the smaller is full. -/
theorem full (both : Included small large few many) {key : κ} (off : key ∉ few)
    (kept : key ∈ many) : few.length = small := by
  by_contra room
  have length := both.length
  have same : few = many := by
    apply both.sublist.eq_of_length
    omega
  rw [same] at off
  exact off kept

/-- A use that both keep room for: the larger drops its last key only when the smaller
drops its own. -/
theorem touch (both : Included small large few many) (pos : 0 < small) (le : small ≤ large)
    (bounded : many.length ≤ large) (key : κ) :
    Included small large ((touch key few).take small) ((touch key many).take large) := by
  have length := both.length
  have erased := both.sublist.erase key
  unfold Recency.touch
  by_cases kept : key ∈ many
  · have sizeMany := List.length_erase_of_mem kept
    have someMany := List.length_pos_of_mem kept
    have whole : (key :: many.erase key).take large = key :: many.erase key := by
      apply List.take_of_length_le
      rw [List.length_cons]
      omega
    rw [whole]
    constructor
    · exact (List.take_sublist _ _).trans (erased.cons_cons key)
    · rw [List.length_take, List.length_cons, List.length_cons, sizeMany]
      by_cases keptFew : key ∈ few
      · have sizeFew := List.length_erase_of_mem keptFew
        have someFew := List.length_pos_of_mem keptFew
        omega
      · have full := both.full keptFew kept
        rw [List.erase_of_not_mem keptFew]
        omega
  · have keptFew : key ∉ few := fun member => kept (both.sublist.subset member)
    rw [List.erase_of_not_mem kept, List.erase_of_not_mem keptFew]
    constructor
    · rcases Nat.lt_or_eq_of_le bounded with free | full
      · have whole : (key :: many).take large = key :: many := List.take_of_length_le free
        rw [whole]
        exact (List.take_sublist _ _).trans (both.sublist.cons_cons key)
      · -- Both are full, and both drop their last key.
        have fullFew : few.length = small := by omega
        rw [List.take_cons pos, List.take_cons (pos.trans_le le), ← full, ← fullFew,
          ← List.dropLast_eq_take, ← List.dropLast_eq_take]
        exact (dropLast_sublist_dropLast both.sublist).cons_cons key
    · rw [List.length_take, List.length_take, List.length_cons, List.length_cons]
      omega

/-- A use of a key that both keep. -/
theorem hit (both : Included small large few many) {key : κ} (kept : key ∈ few) :
    Included small large (Recency.touch key few) (Recency.touch key many) := by
  have length := both.length
  have keptMany := both.sublist.subset kept
  have sizeFew := List.length_erase_of_mem kept
  have sizeMany := List.length_erase_of_mem keptMany
  have someFew := List.length_pos_of_mem kept
  have someMany := List.length_pos_of_mem keptMany
  constructor
  · exact (both.sublist.erase key).cons_cons key
  · rw [Recency.touch, Recency.touch, List.length_cons, List.length_cons]
    omega

/-- A use of a key that is kept by the larger alone. -/
theorem hit_large (both : Included small large few many) {key : κ} (off : key ∉ few)
    (kept : key ∈ many) : Included small large few (Recency.touch key many) := by
  have erased := both.sublist.erase key
  rw [List.erase_of_not_mem off] at erased
  have size := List.length_erase_of_mem kept
  have some := List.length_pos_of_mem kept
  constructor
  · exact erased.cons key
  · rw [Recency.touch, List.length_cons, size, both.length]
    omega

end Included

end FifthD.Library.Recency
