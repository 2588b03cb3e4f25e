import TopicBridge.Bridge.Proxy

/-!
# The table of live proxies

Handles are reused, so each creation also draws a generation, a number that is
never drawn again.  The handle and the generation together name one incarnation
of a proxy.
-/

namespace TopicBridge

/-- A live proxy and the generation it was created in. -/
structure Entry where
  generation : Nat
  proxy : Proxy

/-- The live proxies under their handles, the allocator of the handles, and the
next generation. -/
structure Table where
  entries : Dict Handle Entry := []
  allocator : Allocator := .empty
  nextGeneration : Nat := 1

namespace Table

/-- The live proxy under a handle. -/
def get? (table : Table) (handle : Handle) : Option Entry :=
  Dict.get? table.entries handle

/-- Draw a handle and a generation for a proxy about to be created. -/
def reserve? (table : Table) : Option (Handle × Nat × Table) :=
  table.allocator.allocate?.map fun (handle, allocator) =>
    (handle, table.nextGeneration,
      { table with allocator, nextGeneration := table.nextGeneration + 1 })

/-- Give back the handle of a proxy that was not created after all. -/
def abandon (table : Table) (handle : Handle) : Table :=
  { table with allocator := table.allocator.release handle }

/-- Put a proxy under the handle drawn for it. -/
def commit (table : Table) (handle : Handle) (entry : Entry) : Table :=
  { table with entries := Dict.insert table.entries handle entry }

/-- Take a proxy out and give back its handle. -/
def remove (table : Table) (handle : Handle) : Table :=
  { table with
    entries := Dict.erase table.entries handle
    allocator := table.allocator.release handle }

/-- The callback of the subscriber under a handle, if it is the incarnation of
a generation. -/
def callbackOf? (table : Table) (handle : Handle) (generation : Nat) : Option Callback :=
  (table.get? handle).bind fun entry =>
    if entry.generation = generation then entry.proxy.callback? else none

/-- Handles in ascending order. -/
def sortHandles (handles : List Handle) : List Handle :=
  handles.mergeSort fun a b => decide (a.index ≤ b.index)

/-- The live handles, ascending. -/
def handles (table : Table) : List Handle :=
  sortHandles (Dict.keys table.entries)

/-- The live handles whose proxy satisfies a condition, ascending. -/
def select (table : Table) (condition : Proxy → Bool) : List Handle :=
  sortHandles (Dict.keys (table.entries.filter fun entry => condition entry.2.proxy))

/-- The number of live proxies of a kind. -/
def count (table : Table) (kind : ProxyKind) : Nat :=
  table.entries.countP fun entry => entry.2.proxy.kind = kind

/-- The number of live proxies. -/
def size (table : Table) : Nat :=
  table.entries.length

end Table

end TopicBridge
