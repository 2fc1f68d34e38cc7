import Mathlib.Algebra.Ring.Nat
import Mathlib.Data.List.Basic

/-!
Packed records: fields at fixed places of a string of bytes, and integers as their bytes,
the low one first. Nothing here names a particular program.
-/
namespace FifthD.Library.Record

/-! ## Fields -/

section Fields

variable {α : Type*}

/-- The `n` elements from a place on. -/
def slice (l : List α) (k n : Nat) : List α := (l.drop k).take n

/-- A write to a place. -/
def splice (l : List α) (k : Nat) (src : List α) : List α :=
  l.take k ++ src ++ l.drop (k + src.length)

theorem getElem?_slice (l : List α) (k n i : Nat) :
    (slice l k n)[i]? = if i < n then l[k + i]? else none := by
  unfold slice
  rw [List.getElem?_take, List.getElem?_drop]

theorem length_splice {l : List α} {k : Nat} {src : List α} (fits : k + src.length ≤ l.length) :
    (splice l k src).length = l.length := by
  unfold splice
  simp only [List.length_append, List.length_take, List.length_drop]
  omega

theorem getElem?_splice {l : List α} {k : Nat} {src : List α} (fits : k + src.length ≤ l.length)
    (i : Nat) :
    (splice l k src)[i]? = if k ≤ i ∧ i < k + src.length then src[i - k]? else l[i]? := by
  unfold splice
  have front : (l.take k).length = k := by
    rw [List.length_take]
    omega
  rw [List.append_assoc]
  by_cases before : i < k
  · rw [List.getElem?_append_left (by omega), List.getElem?_take_of_lt before,
      if_neg (by omega)]
  · rw [List.getElem?_append_right (by omega), front]
    by_cases inside : i < k + src.length
    · rw [List.getElem?_append_left (by omega), if_pos (by omega)]
    · rw [List.getElem?_append_right (by omega), List.getElem?_drop, if_neg (by omega)]
      congr 1
      omega

/-- A field that was written is read back. -/
theorem slice_splice {l : List α} {k : Nat} {src : List α} (fits : k + src.length ≤ l.length) :
    slice (splice l k src) k src.length = src := by
  apply List.ext_getElem?
  intro i
  rw [getElem?_slice, getElem?_splice fits]
  by_cases inside : i < src.length
  · rw [if_pos inside, if_pos (by omega), Nat.add_sub_cancel_left]
  · rw [if_neg inside, List.getElem?_eq_none (by omega)]

/-- A field elsewhere stays. -/
theorem slice_splice_apart {l : List α} {k k' n : Nat} {src : List α}
    (fits : k + src.length ≤ l.length) (apart : k' + n ≤ k ∨ k + src.length ≤ k') :
    slice (splice l k src) k' n = slice l k' n := by
  apply List.ext_getElem?
  intro i
  rw [getElem?_slice, getElem?_slice, getElem?_splice fits]
  by_cases inside : i < n
  · rw [if_pos inside, if_neg (by omega), if_pos inside]
  · rw [if_neg inside, if_neg inside]

/-- Two neighbouring fields are one. -/
theorem slice_add (l : List α) (k m n : Nat) :
    slice l k (m + n) = slice l k m ++ slice l (k + m) n := by
  unfold slice
  rw [List.take_add, List.drop_drop]

theorem slice_all (l : List α) : slice l 0 l.length = l := by
  unfold slice
  rw [List.drop_zero, List.take_length]

/-- The fields of a first part, and of a second. -/
theorem slice_append_left (first second : List α) :
    slice (first ++ second) 0 first.length = first := by
  unfold slice
  rw [List.drop_zero, List.take_left]

theorem slice_append_right (first second : List α) (k n : Nat) :
    slice (first ++ second) (first.length + k) n = slice second k n := by
  unfold slice
  rw [List.drop_append, List.drop_eq_nil_of_le (Nat.le_add_right _ _), List.nil_append,
    Nat.add_sub_cancel_left]

theorem length_slice {l : List α} {k n : Nat} (fits : k + n ≤ l.length) :
    (slice l k n).length = n := by
  unfold slice
  rw [List.length_take, List.length_drop]
  omega

end Fields

/-! ## Integers -/

/-- The integer of some bytes. -/
def leValue (bytes : List UInt8) : Nat := bytes.foldr (fun b acc => b.toNat + 256 * acc) 0

/-- The first `n` bytes of an integer. -/
def leBytes : Nat → Nat → List UInt8
  | 0, _ => []
  | n + 1, v => UInt8.ofNat v :: leBytes n (v / 256)

@[simp] theorem length_leBytes (n v : Nat) : (leBytes n v).length = n := by
  induction n generalizing v with
  | zero => rfl
  | succ n ih => rw [leBytes, List.length_cons, ih]

theorem leValue_cons (b : UInt8) (bytes : List UInt8) :
    leValue (b :: bytes) = b.toNat + 256 * leValue bytes := rfl

/-- `n` bytes hold an integer below `256 ^ n`. -/
theorem leValue_leBytes (n v : Nat) : leValue (leBytes n v) = v % 256 ^ n := by
  induction n generalizing v with
  | zero => simp [leBytes, leValue, Nat.mod_one]
  | succ n ih =>
    rw [leBytes, leValue_cons, ih, pow_succ, Nat.mul_comm (256 ^ n) 256, Nat.mod_mul]
    rfl

/-- The bytes of an integer that was read are the bytes it was read from. -/
theorem leBytes_leValue (bytes : List UInt8) : leBytes bytes.length (leValue bytes) = bytes := by
  induction bytes with
  | nil => rfl
  | cons b bytes ih =>
    have low := b.toNat_lt
    have first : UInt8.ofNat (b.toNat + 256 * leValue bytes) = b := by
      apply UInt8.toNat_inj.mp
      rw [UInt8.toNat_ofNat']
      omega
    have later : (b.toNat + 256 * leValue bytes) / 256 = leValue bytes := by omega
    rw [List.length_cons, leValue_cons, leBytes, first, later, ih]

theorem leValue_lt (bytes : List UInt8) : leValue bytes < 256 ^ bytes.length := by
  have bound := leValue_leBytes bytes.length (leValue bytes)
  rw [leBytes_leValue] at bound
  rw [bound]
  exact Nat.mod_lt _ (Nat.pow_pos (by decide))

end FifthD.Library.Record
