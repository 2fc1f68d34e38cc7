import Mathlib.Data.List.AList

/-!
The cache: core/5thdlru_cache.h:15-64. The list is a list of nodes, each under an address
of its own, and an iterator is the address of its node; a node that `push_front` makes gets
a new address. A call whose iterator has no node, or that steps back from the end of an
empty list, has no result.
-/
namespace FifthD.Source

/-- A node of `std::list<std::pair<Tkey, Tval>>`. -/
structure CacheNode (Tkey Tval : Type*) where
  address : Nat
  first : Tkey
  second : Tval
  deriving DecidableEq

/-- An `LRU_Cache`. -/
structure LruCache (Tkey Tval : Type*) where
  /-- `_cache_items_list`, front first. -/
  cacheItemsList : List (CacheNode Tkey Tval)
  /-- `_cache_items_map`, with iterators into the list. -/
  cacheItemsMap : AList fun _ : Tkey => Nat
  /-- `_max_size`. -/
  maxSize : UInt16
  /-- The address of the next new node. -/
  nextAddress : Nat

/-- A call on the cache. -/
inductive CacheCall (Tkey Tval : Type*) where
  | push (key : Tkey) (value : Tval)
  | get (key : Tkey)

/-- What a call did. -/
inductive CacheEvent (Tkey Tval : Type*) where
  | pushed (key : Tkey) (value : Tval)
  | hit (key : Tkey) (value : Tval)
  | missed (key : Tkey)
  deriving DecidableEq

namespace LruCache

variable {Tkey Tval : Type*}

/-- The constructor. -/
def new (maxSize : UInt16) : LruCache Tkey Tval := ⟨[], ∅, maxSize, 0⟩

/-- `_cache_items_map.size()`. -/
def mapSize (s : LruCache Tkey Tval) : Nat := s.cacheItemsMap.keys.length

/-- The node that an iterator is at. -/
def nodeAt (it : Nat) (s : LruCache Tkey Tval) : Option (CacheNode Tkey Tval) :=
  s.cacheItemsList.find? fun node => node.address = it

/-- The list without the node that an iterator is at. -/
def without (it : Nat) (s : LruCache Tkey Tval) : List (CacheNode Tkey Tval) :=
  s.cacheItemsList.eraseP fun node => node.address = it

variable [DecidableEq Tkey]

/-- `push_front` of a new pair, and its iterator into the map. -/
def pushFront (key : Tkey) (value : Tval) (s : LruCache Tkey Tval) : LruCache Tkey Tval :=
  { s with
    cacheItemsList := ⟨s.nextAddress, key, value⟩ :: s.cacheItemsList
    cacheItemsMap := s.cacheItemsMap.insert key s.nextAddress
    nextAddress := s.nextAddress + 1 }

/-- `push`. -/
def push (key : Tkey) (value : Tval) (s : LruCache Tkey Tval) : Option (LruCache Tkey Tval) :=
  match s.cacheItemsMap.lookup key with
  | some it =>
    match s.nodeAt it with
    | none => none
    | some _ => some ({ s with cacheItemsList := s.without it }.pushFront key value)
  | none =>
    if s.maxSize.toNat ≤ s.mapSize then
      match s.cacheItemsList.getLast? with
      | none => none
      | some last =>
        let evicted :=
          { s with
            cacheItemsMap := s.cacheItemsMap.erase last.first
            cacheItemsList := s.cacheItemsList.dropLast }
        some (evicted.pushFront key value)
    else some (s.pushFront key value)

/-- `get`: the value when it returns true. -/
def get (key : Tkey) (s : LruCache Tkey Tval) : Option (LruCache Tkey Tval × Option Tval) :=
  match s.cacheItemsMap.lookup key with
  | none => some (s, none)
  | some it =>
    match s.nodeAt it with
    | none => none
    | some node => some ({ s with cacheItemsList := node :: s.without it }, some node.second)

/-- One call. -/
def call (s : LruCache Tkey Tval) :
    CacheCall Tkey Tval → Option (LruCache Tkey Tval × CacheEvent Tkey Tval)
  | .push key value => (s.push key value).map fun next => (next, .pushed key value)
  | .get key =>
    (s.get key).map fun
      | (next, some value) => (next, .hit key value)
      | (next, none) => (next, .missed key)

end LruCache
end FifthD.Source
