import FifthD.Library.Mutex
import FifthD.Source.LruCache

/-!
The member functions of `LRU_Cache` an operation at a time: core/5thdlru_cache.h:19-57.
`std::lock_guard` holds `_mutex` for the whole of each. An operation of the list or the map is
one access; an iterator without a node, and the end of an empty list, have no defined
behaviour, and the program then ends without a result.
-/
namespace FifthD.Source

open FifthD.Library

/-- An operation of `_cache_items_list` or `_cache_items_map`, or a read of `_max_size`. -/
inductive CacheAccess (Tkey Tval : Type) where
  | find (key : Tkey)
  | size
  | maxSize
  | erase (it : Nat)
  | pushFront (key : Tkey) (value : Tval)
  | setIterator (key : Tkey) (it : Nat)
  | last
  | eraseKey (key : Tkey)
  | popBack
  | splice (it : Nat)
  | value (it : Nat)

variable {Tkey Tval : Type}

/-- What an operation gives: `push_front` the `begin()` after it, and one that can be undefined
whether it is defined. -/
abbrev CacheAccess.Reply : CacheAccess Tkey Tval → Type
  | .find _ => Option Nat
  | .size => Nat
  | .maxSize => UInt16
  | .erase _ | .popBack | .splice _ => Bool
  | .pushFront _ _ => Nat
  | .setIterator _ _ | .eraseKey _ => Unit
  | .last => Option Tkey
  | .value _ => Option Tval

variable [DecidableEq Tkey]

/-- One access. -/
def LruCache.access (s : LruCache Tkey Tval) :
    (op : CacheAccess Tkey Tval) → LruCache Tkey Tval × op.Reply
  | .find key => (s, s.cacheItemsMap.lookup key)
  | .size => (s, s.mapSize)
  | .maxSize => (s, s.maxSize)
  | .erase it =>
    match s.nodeAt it with
    | none => (s, false)
    | some _ => ({ s with cacheItemsList := s.without it }, true)
  | .pushFront key value =>
    ({ s with
      cacheItemsList := ⟨s.nextAddress, key, value⟩ :: s.cacheItemsList
      nextAddress := s.nextAddress + 1 }, s.nextAddress)
  | .setIterator key it => ({ s with cacheItemsMap := s.cacheItemsMap.insert key it }, ())
  | .last => (s, s.cacheItemsList.getLast?.map CacheNode.first)
  | .eraseKey key => ({ s with cacheItemsMap := s.cacheItemsMap.erase key }, ())
  | .popBack =>
    if s.cacheItemsList.isEmpty then (s, false)
    else ({ s with cacheItemsList := s.cacheItemsList.dropLast }, true)
  | .splice it =>
    match s.nodeAt it with
    | none => (s, false)
    | some node => ({ s with cacheItemsList := node :: s.without it }, true)
  | .value it => (s, (s.nodeAt it).map CacheNode.second)

def CacheAccess.ask (op : CacheAccess Tkey Tval) :
    Prog (CacheAccess Tkey Tval) CacheAccess.Reply op.Reply := Prog.ask op

/-- The code of a member function under the mutex. -/
abbrev CacheProg (Tkey Tval α : Type) := Prog (CacheAccess Tkey Tval) CacheAccess.Reply α

namespace CacheProg

/-- The end of both branches of `push`. -/
def pushFront (key : Tkey) (value : Tval) :
    CacheProg Tkey Tval (Option (CacheEvent Tkey Tval)) := do
  let first ← CacheAccess.ask (.pushFront key value)
  CacheAccess.ask (.setIterator key first)
  return some (.pushed key value)

/-- `push`. -/
def push (key : Tkey) (value : Tval) :
    CacheProg Tkey Tval (Option (CacheEvent Tkey Tval)) := do
  match ← CacheAccess.ask (.find key) with
  | some it =>
    let erased ← CacheAccess.ask (.erase it)
    if erased = false then return none
    pushFront key value
  | none =>
    let size ← CacheAccess.ask .size
    let maxSize ← CacheAccess.ask .maxSize
    if maxSize.toNat ≤ size then
      match ← CacheAccess.ask .last with
      | none => return none
      | some last =>
        CacheAccess.ask (.eraseKey last)
        let popped ← CacheAccess.ask .popBack
        if popped = false then return none
        pushFront key value
    else pushFront key value

/-- `get`. -/
def get (key : Tkey) : CacheProg Tkey Tval (Option (CacheEvent Tkey Tval)) := do
  match ← CacheAccess.ask (.find key) with
  | none => return some (.missed key)
  | some it =>
    let spliced ← CacheAccess.ask (.splice it)
    if spliced = false then return none
    let value ← CacheAccess.ask (.value it)
    return value.map (.hit key)

end CacheProg

/-- The member functions. -/
def cacheCode : Mutex.Code (CacheCall Tkey Tval) (CacheEvent Tkey Tval) (CacheAccess Tkey Tval)
    CacheAccess.Reply where
  early _ := none
  body
    | .push key value => CacheProg.push key value
    | .get key => CacheProg.get key

end FifthD.Source
