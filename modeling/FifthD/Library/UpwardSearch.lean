import Mathlib.Order.Bounds.Defs
import Mathlib.Order.Interval.Set.Basic

/-!
Search for a member of a set, step by step upwards from a start. The limit is tested behind a
step, so the start itself is always tried. Steps leave nothing out: what is above an element
is not below the next one. Nothing here names a particular program.
-/
namespace FifthD.Library.UpwardSearch

variable {α : Type*} [LinearOrder α]

/-- The elements that may be tried: up to the limit, and the start always. -/
def range (limit a : α) : Set α := Set.Icc a (max a limit)

theorem start_mem_range (limit a : α) : a ∈ range limit a := ⟨le_rfl, le_max_left a limit⟩

/-- What a search from a start ends with. -/
inductive Finds (next : α → α) (S : Set α) (limit : α) : α → Option α → Prop
  | found {a : α} (member : a ∈ S) : Finds next S limit a (some a)
  | exhausted {a : α} (off : a ∉ S) (above : limit < next a) : Finds next S limit a none
  | step {a : α} {r : Option α} (off : a ∉ S) (within : next a ≤ limit)
    (later : Finds next S limit (next a) r) : Finds next S limit a r

variable {next : α → α} {S : Set α} {limit a r : α} (covers : ∀ {a b}, a < b ↔ next a ≤ b)

include covers

/-- Without a member at the start the rest of the range counts. -/
theorem inter_range_next (off : a ∉ S) (within : next a ≤ limit) :
    S ∩ range limit a = S ∩ range limit (next a) := by
  have above : a < next a := covers.mpr le_rfl
  unfold range
  rw [max_eq_right (above.le.trans within), max_eq_right within]
  ext x
  constructor
  · rintro ⟨member, low, high⟩
    have other : a ≠ x := fun same => off (same ▸ member)
    exact ⟨member, covers.mp (lt_of_le_of_ne low other), high⟩
  · rintro ⟨member, low, high⟩
    exact ⟨member, above.le.trans low, high⟩

/-- A search past its limit has only its start to try. -/
theorem range_of_above (above : limit < next a) : range limit a = {a} := by
  have limited : limit ≤ a := not_lt.mp fun below => above.not_ge (covers.mp below)
  rw [range, max_eq_left limited, Set.Icc_self]

/-- What is found is the least member in the range. -/
theorem Finds.isLeast (finds : Finds next S limit a (some r)) :
    IsLeast (S ∩ range limit a) r := by
  generalize ended : some r = result at finds
  induction finds with
  | @found a member =>
    cases ended
    exact ⟨⟨member, start_mem_range limit r⟩, fun _ other => other.2.1⟩
  | exhausted off above => cases ended
  | step off within later ih =>
    rw [inter_range_next covers off within]
    exact ih ended

/-- With nothing found there is no member in the range. -/
theorem Finds.empty (finds : Finds next S limit a none) : S ∩ range limit a = ∅ := by
  generalize ended : none = result at finds
  induction finds with
  | found member => cases ended
  | exhausted off above =>
    rw [range_of_above covers above, Set.inter_singleton_eq_empty]
    exact off
  | step off within later ih =>
    rw [inter_range_next covers off within]
    exact ih ended

end FifthD.Library.UpwardSearch
