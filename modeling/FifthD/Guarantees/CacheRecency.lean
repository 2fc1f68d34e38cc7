import FifthD.Guarantees.CacheStep
import FifthD.Library.Machine

/-!
# The cache keeps the most recently used keys

Any pushes and gets on a cache with room for a node. The list is always the first
`_max_size` keys in the order of their last use, each with the value of its latest push; so
a get hits when fewer than `_max_size` distinct other keys were used since.
-/
namespace FifthD.Guarantees.CacheRecency

open FifthD.Library FifthD.Source LruCache CacheStep

variable {Tkey Tval : Type*}

/-! ## Histories -/

/-- The key that a call used. -/
def usedKey : CacheEvent Tkey Tval → Option Tkey
  | .pushed key _ | .hit key _ => some key
  | .missed _ => none

/-- The keys used, the latest first. -/
def usesOf (events : List (CacheEvent Tkey Tval)) : List Tkey := events.reverse.filterMap usedKey

/-- The value that a call gave to a key. -/
def pushedTo [DecidableEq Tkey] (key : Tkey) : CacheEvent Tkey Tval → Option Tval
  | .pushed other value => if other = key then some value else none
  | .hit _ _ | .missed _ => none

/-- The value of the latest push of a key. -/
def lastPushed [DecidableEq Tkey] (key : Tkey) (events : List (CacheEvent Tkey Tval)) :
    Option Tval :=
  events.reverse.findSome? (pushedTo key)

theorem usesOf_snoc (events : List (CacheEvent Tkey Tval)) (event : CacheEvent Tkey Tval) :
    usesOf (events ++ [event]) = (usedKey event).toList ++ usesOf events := by
  unfold usesOf
  rw [List.reverse_concat, List.filterMap_cons]
  cases usedKey event <;> rfl

/-- A key that was pushed was used. -/
theorem mem_usesOf_of_pushed {key : Tkey} {value : Tval} {events : List (CacheEvent Tkey Tval)}
    (pushed : .pushed key value ∈ events) : key ∈ usesOf events :=
  List.mem_filterMap.mpr ⟨_, List.mem_reverse.mpr pushed, rfl⟩

variable [DecidableEq Tkey]

theorem pushedTo_eq_some_iff {key : Tkey} {value : Tval} {event : CacheEvent Tkey Tval} :
    pushedTo key event = some value ↔ event = .pushed key value := by
  cases event with
  | pushed used given =>
    unfold pushedTo
    by_cases same : used = key
    · simp [same]
    · simp [same]
  | hit used given => simp [pushedTo]
  | missed used => simp [pushedTo]

theorem lastPushed_pushed (key : Tkey) (value : Tval) (events : List (CacheEvent Tkey Tval)) :
    lastPushed key (events ++ [.pushed key value]) = some value := by
  unfold lastPushed
  rw [List.reverse_concat, List.findSome?_cons, pushedTo_eq_some_iff.mpr rfl]

/-- Only a push of the key itself changes its latest value. -/
theorem lastPushed_snoc {key : Tkey} {event : CacheEvent Tkey Tval}
    (other : ∀ value, event ≠ .pushed key value) (events : List (CacheEvent Tkey Tval)) :
    lastPushed key (events ++ [event]) = lastPushed key events := by
  have skipped : pushedTo key event = none := by
    rw [Option.eq_none_iff_forall_ne_some]
    intro value given
    exact other value (pushedTo_eq_some_iff.mp given)
  unfold lastPushed
  rw [List.reverse_concat, List.findSome?_cons, skipped]

/-- The latest value was pushed. -/
theorem pushed_of_lastPushed {key : Tkey} {value : Tval} {events : List (CacheEvent Tkey Tval)}
    (last : lastPushed key events = some value) : .pushed key value ∈ events := by
  obtain ⟨event, member, given⟩ := List.exists_of_findSome?_eq_some last
  rw [pushedTo_eq_some_iff.mp given] at member
  exact List.mem_reverse.mp member

/-! ## One call -/

/-- The cache is what the history says. -/
structure CacheInv (c : UInt16) (s : LruCache Tkey Tval) (events : List (CacheEvent Tkey Tval)) :
    Prop where
  wired : Wired s
  maxSize : s.maxSize = c
  order : order s = (Recency.recency (usesOf events)).take c.toNat
  values : ∀ node ∈ s.cacheItemsList, lastPushed node.first events = some node.second

variable {c : UInt16} {s : LruCache Tkey Tval} {events : List (CacheEvent Tkey Tval)}

theorem new_inv (c : UInt16) : CacheInv c (new c : LruCache Tkey Tval) [] := by
  constructor
  · constructor
    · exact List.nodup_nil
    · exact List.nodup_nil
    · exact fun _ => nofun
    · intro key it
      constructor
      · nofun
      · rintro ⟨_, member, _⟩
        cases member
  · rfl
  · exact List.take_nil.symm
  · exact fun _ => nofun

theorem CacheInv.bounded (inv : CacheInv c s events) :
    s.cacheItemsList.length ≤ s.maxSize.toNat := by
  have sizes : (CacheStep.order s).length = s.cacheItemsList.length := List.length_map _
  rw [← sizes, inv.order, inv.maxSize]
  exact List.length_take_le _ _

/-- A push is the latest use of its key, and its value the latest of it. -/
theorem push_inv {next : LruCache Tkey Tval} {key : Tkey} {value : Tval}
    (inv : CacheInv c s events) (effect : PushEffect key value s next) :
    CacheInv c next (events ++ [.pushed key value]) := by
  constructor
  · exact effect.wired
  · exact effect.maxSize.trans inv.maxSize
  · rw [effect.order, inv.maxSize, inv.order, Recency.take_touch_take, usesOf_snoc]
    rfl
  · intro node member
    rcases effect.nodes node member with ⟨rfl, rfl⟩ | ⟨other, old⟩
    · exact lastPushed_pushed _ _ _
    · rw [lastPushed_snoc]
      · exact inv.values node old
      · intro value' same
        cases same
        exact other rfl

/-- A get that hits is a use of its key. -/
theorem hit_inv {next : LruCache Tkey Tval} {key : Tkey} {value : Tval}
    (inv : CacheInv c s events) (effect : HitEffect key value s next) :
    CacheInv c next (events ++ [.hit key value]) := by
  have sizes : (CacheStep.order next).length = next.cacheItemsList.length := List.length_map _
  have bounded : (CacheStep.order next).length ≤ c.toNat := by
    rw [sizes, effect.nodes.length_eq, ← inv.maxSize]
    exact inv.bounded
  constructor
  · exact effect.wired
  · exact effect.maxSize.trans inv.maxSize
  · rw [← List.take_of_length_le bounded, effect.order, inv.order, Recency.take_touch_take,
      usesOf_snoc]
    rfl
  · intro node member
    rw [lastPushed_snoc]
    · exact inv.values node (effect.nodes.mem_iff.mp member)
    · exact fun _ => nofun

/-- A get that misses is no use. -/
theorem missed_inv (inv : CacheInv c s events) (key : Tkey) :
    CacheInv c s (events ++ [.missed key]) := by
  constructor
  · exact inv.wired
  · exact inv.maxSize
  · rw [inv.order, usesOf_snoc]
    rfl
  · intro node member
    rw [lastPushed_snoc]
    · exact inv.values node member
    · exact fun _ => nofun

/-- Every call returns, and the cache is again what the history says. -/
theorem call_inv (inv : CacheInv c s events) (room : 0 < c.toNat) (call : CacheCall Tkey Tval) :
    ∃ next event, s.call call = some (next, event) ∧ CacheInv c next (events ++ [event]) := by
  cases call with
  | push key value =>
    rw [← inv.maxSize] at room
    obtain ⟨next, code, effect⟩ := push_spec inv.wired room inv.bounded key value
    refine ⟨next, .pushed key value, ?_, push_inv inv effect⟩
    rw [LruCache.call, code]
    rfl
  | get key =>
    by_cases known : key ∈ CacheStep.order s
    · obtain ⟨next, value, code, effect⟩ := get_hit inv.wired known
      refine ⟨next, .hit key value, ?_, hit_inv inv effect⟩
      rw [LruCache.call, code]
      rfl
    · refine ⟨s, .missed key, ?_, missed_inv inv key⟩
      rw [LruCache.call, get_missed inv.wired known]
      rfl

/-! ## Whole runs -/

/-- Every run returns, and the cache is what the history says. -/
theorem run_inv (room : 0 < c.toNat) (calls : List (CacheCall Tkey Tval)) :
    ∃ s events, Machine.run LruCache.call (new c) calls = some (s, events) ∧
      CacheInv c s events := by
  exact Machine.run_returns_keeping (CacheInv c) (fun _ _ call inv => call_inv inv room call) calls
    (new_inv c)

/-- What a get of a key is to return after a history. -/
structure Answers (c : UInt16) (events : List (CacheEvent Tkey Tval)) (key : Tkey)
    (answer : Option Tval) : Prop where
  found : answer.isSome = true ↔ (∃ value, .pushed key value ∈ events) ∧
    (Recency.usedSince key (usesOf events)).card < c.toNat
  value : ∀ value, answer = some value → lastPushed key events = some value

/-- A get hits exactly when its key is among the most recent ones. -/
theorem get_answers (inv : CacheInv c s events) (key : Tkey) :
    ∃ next answer, s.get key = some (next, answer) ∧ Answers c events key answer ∧
      (answer = none → next = s) := by
  have kept : key ∈ CacheStep.order s ↔
      key ∈ usesOf events ∧ (Recency.usedSince key (usesOf events)).card < c.toNat := by
    rw [inv.order]
    exact Recency.mem_take_recency
  by_cases known : key ∈ CacheStep.order s
  · obtain ⟨next, value, code, effect⟩ := get_hit inv.wired known
    obtain ⟨node, member, rfl, rfl⟩ := effect.found
    have latest := inv.values node member
    refine ⟨next, some node.second, code, ⟨?_, ?_⟩, nofun⟩
    · simp only [Option.isSome_some, true_iff]
      exact ⟨⟨_, pushed_of_lastPushed latest⟩, (kept.mp known).2⟩
    · intro value same
      cases same
      exact latest
  · refine ⟨s, none, get_missed inv.wired known, ⟨?_, nofun⟩, fun _ => rfl⟩
    simp only [Option.isSome_none, Bool.false_eq_true, false_iff]
    rintro ⟨⟨value, pushed⟩, few⟩
    exact known (kept.mpr ⟨mem_usesOf_of_pushed pushed, few⟩)

/-- For every capacity of at least one and every sequence of pushes and gets: the calls
return, and a get of any key then hits if and only if the key was pushed and fewer distinct
other keys than the capacity were pushed or hit since its last push or hit, with the value
of its latest push; a get that misses changes no result of any later call. -/
theorem cache_keeps_most_recent (c : UInt16) (room : 0 < c.toNat)
    (calls : List (CacheCall Tkey Tval)) :
    ∃ s events, Machine.run LruCache.call (new c) calls = some (s, events) ∧
      ∀ key, ∃ next answer, s.get key = some (next, answer) ∧ Answers c events key answer ∧
        (answer = none → ∀ later final outs,
          Machine.run LruCache.call (new c) (calls ++ .get key :: later) =
              some (final, events ++ .missed key :: outs) ↔
            Machine.run LruCache.call (new c) (calls ++ later) = some (final, events ++ outs)) := by
  obtain ⟨s, events, ran, inv⟩ := run_inv room calls
  refine ⟨s, events, ran, fun key => ?_⟩
  obtain ⟨next, answer, code, answers, unchanged⟩ := get_answers inv key
  refine ⟨next, answer, code, answers, fun missed later final outs => ?_⟩
  obtain rfl := unchanged missed
  subst missed
  have returned : next.call (.get key) = some (next, .missed key) := by
    rw [LruCache.call, code]
    rfl
  rw [Machine.run_append_of_run ran, Machine.run_append_of_run ran, Machine.run_cons_iff]
  constructor
  · rintro ⟨after, event, rest, first, same, split⟩
    cases returned.symm.trans first
    cases split
    exact same
  · intro same
    exact ⟨next, .missed key, outs, returned, same, rfl⟩

/-- Two entries: a hit of key 1 makes key 2 the one that the third push evicts. -/
theorem hit_saves_key :
    ∃ (s : LruCache Nat Nat) (events : List (CacheEvent Nat Nat)) (next : LruCache Nat Nat),
      Machine.run LruCache.call (new 2) [.push 1 10, .push 2 20, .get 1, .push 3 30] =
        some (s, events) ∧
      s.get 1 = some (next, some 10) ∧ ∃ same, s.get 2 = some (same, none) := by
  obtain ⟨s, events, ran, gets⟩ := cache_keeps_most_recent 2 (by decide)
    [CacheCall.push 1 10, .push 2 20, .get 1, .push 3 30]
  have returned : (Machine.run LruCache.call (new 2 : LruCache Nat Nat)
      [.push 1 10, .push 2 20, .get 1, .push 3 30]).map Prod.snd =
        some [.pushed 1 10, .pushed 2 20, .hit 1 10, .pushed 3 30] := by decide
  rw [ran] at returned
  obtain rfl := Option.some.inj returned
  obtain ⟨next, first, hit, found, _⟩ := gets 1
  obtain ⟨same, second, missed, gone, _⟩ := gets 2
  refine ⟨s, _, next, ran, ?_, same, ?_⟩
  · obtain ⟨value, rfl⟩ := Option.isSome_iff_exists.mp
      (found.found.mpr ⟨⟨10, List.mem_cons_self⟩, by decide⟩)
    have latest := found.value value rfl
    obtain rfl : 10 = value := Option.some.inj latest
    exact hit
  · have evicted : second = none := by
      by_contra there
      have few := (gone.found.mp (Option.isSome_iff_ne_none.mpr there)).2
      revert few
      decide
    rw [missed, evicted]

end FifthD.Guarantees.CacheRecency
