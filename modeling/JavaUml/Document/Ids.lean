/-
# Identifiers

Nodes are numbered one after the other, from a seed upwards, with the numbers below 2^64. When these
are used up, no further node can be made.
-/

namespace JavaUml

/-- The number of a node. -/
structure NodeId where
  value : Nat
deriving DecidableEq, Repr

/-- The decimal digits of an identifier. -/
def NodeId.text (id : NodeId) : String := toString id.value

/-- The seed that is used if no other is given. -/
def defaultSeed : UInt64 := 0x11111111

/-- A source of identifiers: its seed, and how many it has issued. -/
structure IdAllocator where
  seed : UInt64 := defaultSeed
  used : Nat := 0
deriving DecidableEq, Repr

namespace IdAllocator

/-- A source that has not issued an identifier. -/
def new (seed : UInt64) : IdAllocator := { seed }

/-- The next identifier and the source after it is issued, if one is left. -/
def next? (ids : IdAllocator) : Option (NodeId × IdAllocator) :=
  if ids.seed.toNat + ids.used < UInt64.size then
    some (⟨ids.seed.toNat + ids.used⟩, { ids with used := ids.used + 1 })
  else none

/-- How many identifiers were issued, as far as this can be told in 64 bits. -/
def issued (ids : IdAllocator) : Nat := min ids.used (UInt64.size - 1)

end IdAllocator

end JavaUml
