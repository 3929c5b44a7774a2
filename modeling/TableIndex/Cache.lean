import TableIndex.ErrorCode
import TableIndex.Map.Sorted
import TableIndex.Schema.Basic

/-!
# Caches

A `Store` keeps copies of values under text keys. The schema cache is a store of schemas under the
physical names of collections, read with `Store.lookup`, for which a store that cannot be reached is one
that holds nothing. What it holds is advisory: nobody tells it of changes made elsewhere.
-/

namespace TableIndex

/-- The stores that can be asked for. -/
inductive CacheKind where
  | unbounded
  | nop
deriving DecidableEq, Repr, Inhabited

/-- Why a store has no answer. -/
structure CacheError where
  detail : String
deriving DecidableEq, Repr, Inhabited

namespace CacheError

/-- The text of the error. -/
def message (e : CacheError) : String := "Cache is unavailable: " ++ e.detail

/-- A store that does not answer is unavailable. -/
def code (_ : CacheError) : ErrorCode := .unavailable

end CacheError

/-- A store of values under text keys. -/
inductive Store (β : Type) where
  /-- Keeps everything. -/
  | unbounded (entries : SortedMap β)
  /-- Keeps nothing. -/
  | nop
  /-- Cannot be reached: it answers no question and takes no value. -/
  | unreachable
deriving Repr

namespace Store

variable {β : Type}

/-- An empty store of a kind. -/
def ofKind : CacheKind → Store β
  | .unbounded => .unbounded .empty
  | .nop => .nop

instance : Inhabited (Store β) := ⟨ofKind .unbounded⟩

/-- The value under a key. -/
def get (s : Store β) (key : String) : Except CacheError (Option β) :=
  match s with
  | .unbounded entries => .ok (entries.get? key)
  | .nop => .ok none
  | .unreachable => .error ⟨"store is down"⟩

/-- Puts a value under a key. -/
def insert (s : Store β) (key : String) (value : β) : Store β :=
  match s with
  | .unbounded entries => .unbounded (entries.insert key value)
  | s => s

/-- Drops the value under a key. -/
def remove (s : Store β) (key : String) : Store β :=
  match s with
  | .unbounded entries => .unbounded (entries.erase key)
  | s => s

/-- Drops all values. -/
def clear (s : Store β) : Except CacheError (Store β) :=
  match s with
  | .unbounded _ => .ok (.unbounded .empty)
  | .nop => .ok .nop
  | .unreachable => .error ⟨"store is down"⟩

/-- The number of values, where the store can tell. -/
def size? (s : Store β) : Option Nat :=
  match s with
  | .unbounded entries => some entries.size
  | _ => none

/-- The value under a key; a store that cannot be reached has none. -/
def lookup (s : Store β) (key : String) : Option β :=
  match s.get key with
  | .ok v => v
  | .error _ => none

/-- Drops all values; a store that cannot be reached stays as it is. -/
def cleared (s : Store β) : Store β :=
  match s.clear with
  | .ok s => s
  | .error _ => s

@[simp] theorem lookup_unbounded (entries : SortedMap β) (key : String) :
    (unbounded entries).lookup key = entries.get? key := rfl

@[simp] theorem lookup_nop (key : String) : (nop : Store β).lookup key = none := rfl

@[simp] theorem lookup_unreachable (key : String) : (unreachable : Store β).lookup key = none := rfl

end Store

/-- The schemas last seen, under the physical names of their collections. -/
abbrev SchemaCache := Store Schema

/-- A state together with the schemas cached for it. -/
structure Cached (σ : Type) where
  cache : SchemaCache
  remote : σ

namespace Cached

variable {σ ε α : Type}

/-- Acts on the state behind the cache. -/
def onRemote (act : EStateM ε σ α) : EStateM ε (Cached σ) α := fun s =>
  match act s.remote with
  | .ok a r => .ok a { s with remote := r }
  | .error e r => .error e { s with remote := r }

/-- Acts on the state behind the cache, and puts an error into the words of the caller. -/
def onRemoteOr {ε' : Type} (describe : ε → ε') (act : EStateM ε σ α) :
    EStateM ε' (Cached σ) α :=
  onRemote (EStateM.adaptExcept describe act)

/-- The cached schema of a collection. -/
def lookup (collection : String) : EStateM ε (Cached σ) (Option Schema) := fun s =>
  .ok (s.cache.lookup collection) s

/-- Caches the schema of a collection. -/
def put (collection : String) (schema : Schema) : EStateM ε (Cached σ) Unit := fun s =>
  .ok () { s with cache := s.cache.insert collection schema }

/-- Forgets the schema of a collection. -/
def forget (collection : String) : EStateM ε (Cached σ) Unit := fun s =>
  .ok () { s with cache := s.cache.remove collection }

end Cached

end TableIndex
