import FifthD.Guarantees.CacheRecency

/-!
# A larger cache hits where a smaller one does

The same pushes and gets on two caches. A get that hits in the larger one only reorders that
one, so the lists differ; but the smaller list is always part of the larger, in the same
order, and is shorter only when it is full.
-/
namespace FifthD.Guarantees.CacheInclusion

open FifthD.Library FifthD.Source LruCache CacheStep CacheRecency

variable {Tkey Tval : Type*}

/-- A hit in the smaller cache is the same hit in the larger. -/
def HitToo (small large : CacheEvent Tkey Tval) : Prop :=
  ∀ key value, small = .hit key value → large = .hit key value

theorem HitToo.refl (event : CacheEvent Tkey Tval) : HitToo event event := fun _ _ same => same

theorem HitToo.of_missed (key : Tkey) (large : CacheEvent Tkey Tval) :
    HitToo (.missed key) large := by
  intro key' value hit
  cases hit

variable [DecidableEq Tkey]

/-- Two caches after the same calls. -/
structure BothInv (c₁ c₂ : UInt16) (s : LruCache Tkey Tval) (events : List (CacheEvent Tkey Tval))
    (t : LruCache Tkey Tval) (events' : List (CacheEvent Tkey Tval)) : Prop where
  small : CacheInv c₁ s events
  large : CacheInv c₂ t events'
  keys : Recency.Included c₁.toNat c₂.toNat (order s) (order t)
  pushes : ∀ key, lastPushed key events = lastPushed key events'

variable {c₁ c₂ : UInt16} {s t : LruCache Tkey Tval} {events events' : List (CacheEvent Tkey Tval)}

theorem new_both (c₁ c₂ : UInt16) :
    BothInv c₁ c₂ (new c₁ : LruCache Tkey Tval) [] (new c₂) [] := by
  constructor
  · exact new_inv c₁
  · exact new_inv c₂
  · exact ⟨List.Sublist.refl [], (Nat.min_zero _).symm⟩
  · exact fun _ => rfl

/-- The value of a hit is the latest that was pushed. -/
theorem hit_value {c : UInt16} {next : LruCache Tkey Tval} {key : Tkey} {value : Tval}
    (effect : HitEffect key value s next) (inv : CacheInv c s events) :
    lastPushed key events = some value := by
  obtain ⟨node, member, rfl, rfl⟩ := effect.found
  exact inv.values node member

/-- Gets do not change the latest pushes. -/
theorem BothInv.pushes_get (inv : BothInv c₁ c₂ s events t events')
    {event event' : CacheEvent Tkey Tval} (got : ∀ key value, event ≠ .pushed key value)
    (got' : ∀ key value, event' ≠ .pushed key value)
    (key : Tkey) : lastPushed key (events ++ [event]) = lastPushed key (events' ++ [event']) := by
  rw [lastPushed_snoc (got key), lastPushed_snoc (got' key)]
  exact inv.pushes key

/-- A push on both. -/
theorem push_both (inv : BothInv c₁ c₂ s events t events') (room : 0 < c₁.toNat)
    (le : c₁.toNat ≤ c₂.toNat) (key : Tkey) (value : Tval) :
    ∃ next next', s.push key value = some next ∧ t.push key value = some next' ∧
      BothInv c₁ c₂ next (events ++ [.pushed key value]) next'
        (events' ++ [.pushed key value]) := by
  have roomSmall : 0 < s.maxSize.toNat := by rwa [inv.small.maxSize]
  have roomLarge : 0 < t.maxSize.toNat := by
    rw [inv.large.maxSize]
    exact room.trans_le le
  obtain ⟨next, code, effect⟩ := push_spec inv.small.wired roomSmall inv.small.bounded key value
  obtain ⟨next', code', effect'⟩ :=
    push_spec inv.large.wired roomLarge inv.large.bounded key value
  have bounded : (order t).length ≤ c₂.toNat := by
    rw [inv.large.order]
    exact List.length_take_le _ _
  refine ⟨next, next', code, code', push_inv inv.small effect, push_inv inv.large effect', ?_, ?_⟩
  · rw [effect.order, effect'.order, inv.small.maxSize, inv.large.maxSize]
    exact inv.keys.touch room le bounded key
  · intro other
    by_cases same : other = key
    · subst same
      rw [lastPushed_pushed, lastPushed_pushed]
    · have differ : ∀ given, CacheEvent.pushed key value ≠ .pushed other given := by
        intro given equal
        cases equal
        exact same rfl
      rw [lastPushed_snoc differ, lastPushed_snoc differ]
      exact inv.pushes other

/-- A get that hits in both moves the key to the front of both, with the value of its last
push. -/
theorem hit_both (inv : BothInv c₁ c₂ s events t events') {key : Tkey} (known : key ∈ order s) :
    ∃ next value next', s.get key = some (next, some value) ∧
      t.get key = some (next', some value) ∧
      BothInv c₁ c₂ next (events ++ [.hit key value]) next' (events' ++ [.hit key value]) := by
  obtain ⟨next, value, code, effect⟩ := get_hit inv.small.wired known
  obtain ⟨next', value', code', effect'⟩ :=
    get_hit inv.large.wired (inv.keys.sublist.subset known)
  obtain rfl : value = value' := by
    have latest := hit_value effect inv.small
    rw [inv.pushes, hit_value effect' inv.large] at latest
    exact (Option.some.inj latest).symm
  refine ⟨next, value, next', code, code', hit_inv inv.small effect, hit_inv inv.large effect', ?_,
    ?_⟩
  · rw [effect.order, effect'.order]
    exact inv.keys.hit known
  · exact inv.pushes_get (fun _ _ => nofun) fun _ _ => nofun

/-- A get that hits in the larger alone reorders the larger. -/
theorem hit_large (inv : BothInv c₁ c₂ s events t events') {key : Tkey} (unknown : key ∉ order s)
    (known : key ∈ order t) :
    ∃ value next', s.get key = some (s, none) ∧ t.get key = some (next', some value) ∧
      BothInv c₁ c₂ s (events ++ [.missed key]) next' (events' ++ [.hit key value]) := by
  obtain ⟨next', value, code', effect'⟩ := get_hit inv.large.wired known
  refine ⟨value, next', get_missed inv.small.wired unknown, code', missed_inv inv.small key,
    hit_inv inv.large effect', ?_, ?_⟩
  · rw [effect'.order]
    exact inv.keys.hit_large unknown known
  · exact inv.pushes_get (fun _ _ => nofun) fun _ _ => nofun

/-- A get that misses in both. -/
theorem missed_both (inv : BothInv c₁ c₂ s events t events') {key : Tkey}
    (unknown : key ∉ order t) :
    s.get key = some (s, none) ∧ t.get key = some (t, none) ∧
      BothInv c₁ c₂ s (events ++ [.missed key]) t (events' ++ [.missed key]) := by
  have unknownSmall : key ∉ order s := fun known => unknown (inv.keys.sublist.subset known)
  refine ⟨get_missed inv.small.wired unknownSmall, get_missed inv.large.wired unknown,
    missed_inv inv.small key, missed_inv inv.large key, inv.keys, ?_⟩
  exact inv.pushes_get (fun _ _ => nofun) fun _ _ => nofun

/-- A get on both. -/
theorem get_both (inv : BothInv c₁ c₂ s events t events') (key : Tkey) :
    ∃ next event next' event', s.call (.get key) = some (next, event) ∧
      t.call (.get key) = some (next', event') ∧ HitToo event event' ∧
      BothInv c₁ c₂ next (events ++ [event]) next' (events' ++ [event']) := by
  simp only [LruCache.call]
  by_cases knownSmall : key ∈ order s
  · obtain ⟨next, value, next', code, code', both⟩ := hit_both inv knownSmall
    rw [code, code']
    exact ⟨next, _, next', _, rfl, rfl, .refl _, both⟩
  · by_cases known : key ∈ order t
    · obtain ⟨value, next', code, code', both⟩ := hit_large inv knownSmall known
      rw [code, code']
      exact ⟨s, _, next', _, rfl, rfl, .of_missed key _, both⟩
    · obtain ⟨code, code', both⟩ := missed_both inv known
      rw [code, code']
      exact ⟨s, _, t, _, rfl, rfl, .of_missed key _, both⟩

/-- One call on both. -/
theorem call_both (inv : BothInv c₁ c₂ s events t events') (room : 0 < c₁.toNat)
    (le : c₁.toNat ≤ c₂.toNat) (call : CacheCall Tkey Tval) :
    ∃ next event next' event', s.call call = some (next, event) ∧
      t.call call = some (next', event') ∧ HitToo event event' ∧
      BothInv c₁ c₂ next (events ++ [event]) next' (events' ++ [event']) := by
  cases call with
  | push key value =>
    obtain ⟨next, next', code, code', both⟩ := push_both inv room le key value
    refine ⟨next, .pushed key value, next', .pushed key value, ?_, ?_, .refl _, both⟩
    · rw [LruCache.call, code]
      rfl
    · rw [LruCache.call, code']
      rfl
  | get key => exact get_both inv key

/-- For every two capacities of which the first is at least one and at most the second, and
every sequence of pushes and gets: the calls return on both caches, and every get that hits
in the first hits in the second, with the same value. -/
theorem larger_cache_hits_too (c₁ c₂ : UInt16) (room : 0 < c₁.toNat) (le : c₁.toNat ≤ c₂.toNat)
    (calls : List (CacheCall Tkey Tval)) :
    ∃ small events large events',
      Machine.run LruCache.call (new c₁) calls = some (small, events) ∧
      Machine.run LruCache.call (new c₂) calls = some (large, events') ∧
      List.Forall₂ HitToo events events' := by
  exact Machine.runs_returns_keeping (BothInv c₁ c₂)
    (fun _ _ _ _ call inv => call_both inv room le call) calls (new_both c₁ c₂)

/-- Two entries against one: the larger keeps key 1 through the push of key 2, and the later
hit of key 2 in the smaller is one in the larger. -/
theorem two_entries_hit_too :
    ∃ (small : LruCache Nat Nat) (events : List (CacheEvent Nat Nat)) (large : LruCache Nat Nat)
      (events' : List (CacheEvent Nat Nat)),
      Machine.run LruCache.call (new 1) [.push 1 10, .push 2 20, .get 1, .get 2] =
        some (small, events) ∧
      Machine.run LruCache.call (new 2) [.push 1 10, .push 2 20, .get 1, .get 2] =
        some (large, events') ∧
      List.Forall₂ HitToo events events' :=
  larger_cache_hits_too 1 2 (by decide) (by decide) [.push 1 10, .push 2 20, .get 1, .get 2]

end FifthD.Guarantees.CacheInclusion
