import Mathlib.Algebra.Group.Nat.Defs
import Mathlib.Data.List.Basic
import Mathlib.Data.Nat.Notation

/-!
# Internet addresses and name lookups

Addresses as bit vectors, networks as leading bits, and the special-purpose ranges of the
address registries.  A connection to a name goes to the first address of a lookup's answer
that accepts it.
-/

namespace Network

/-! ## Networks -/

/-- A network, given by an address in it and the number of its leading bits. -/
structure Prefix (width : ℕ) where
  base : BitVec width
  length : ℕ

namespace Prefix

variable {width : ℕ} {outer inner network : Prefix width} {address : BitVec width}

/-- The bits after the network's. -/
def hostBits (network : Prefix width) : ℕ := width - network.length

def contains (network : Prefix width) (address : BitVec width) : Bool :=
  address >>> network.hostBits = network.base >>> network.hostBits

end Prefix

/-- The address of four decimal parts. -/
def quad (first second third fourth : ℕ) : BitVec 32 :=
  BitVec.ofNat 32 (((first * 256 + second) * 256 + third) * 256 + fourth)

/-- The address whose first two groups of sixteen bits are given. -/
def groups (first second : ℕ) : BitVec 128 := BitVec.ofNat 128 ((first * 2 ^ 16 + second) * 2 ^ 96)

/-! ## Addresses -/

inductive Address
  | v4 (value : BitVec 32)
  | v6 (value : BitVec 128)
  deriving DecidableEq, Repr

/-- The networks that are not globally reachable, and the exceptions within them. -/
def privateNetworks : List (Prefix 32) :=
  [⟨quad 0 0 0 0, 8⟩, ⟨quad 10 0 0 0, 8⟩, ⟨quad 127 0 0 0, 8⟩, ⟨quad 169 254 0 0, 16⟩,
   ⟨quad 172 16 0 0, 12⟩, ⟨quad 192 0 0 0, 24⟩, ⟨quad 192 0 0 170, 31⟩,
   ⟨quad 192 0 2 0, 24⟩, ⟨quad 192 168 0 0, 16⟩, ⟨quad 198 18 0 0, 15⟩,
   ⟨quad 198 51 100 0, 24⟩, ⟨quad 203 0 113 0, 24⟩, ⟨quad 240 0 0 0, 4⟩,
   ⟨quad 255 255 255 255, 32⟩]

def privateNetworksExceptions : List (Prefix 32) := [⟨quad 192 0 0 9, 32⟩, ⟨quad 192 0 0 10, 32⟩]

def privateNetworks6 : List (Prefix 128) :=
  [⟨1, 128⟩, ⟨0, 128⟩, ⟨BitVec.ofNat 128 (0xFFFF * 2 ^ 32), 96⟩,
   ⟨BitVec.ofNat 128 (0x64FF9B0001 * 2 ^ 80), 48⟩, ⟨groups 0x100 0, 64⟩,
   ⟨groups 0x2001 0, 23⟩, ⟨groups 0x2001 0xDB8, 32⟩, ⟨groups 0x2002 0, 16⟩,
   ⟨groups 0xFC00 0, 7⟩, ⟨groups 0xFE80 0, 10⟩]

def privateNetworksExceptions6 : List (Prefix 128) :=
  [⟨groups 0x2001 1 + 1, 128⟩, ⟨groups 0x2001 1 + 2, 128⟩, ⟨groups 0x2001 3, 32⟩,
   ⟨groups 0x2001 4 + BitVec.ofNat 128 (0x112 * 2 ^ 80), 48⟩, ⟨groups 0x2001 0x20, 28⟩,
   ⟨groups 0x2001 0x30, 28⟩]

def reservedNetworks6 : List (Prefix 128) :=
  [⟨groups 0 0, 8⟩, ⟨groups 0x100 0, 8⟩, ⟨groups 0x200 0, 7⟩, ⟨groups 0x400 0, 6⟩,
   ⟨groups 0x800 0, 5⟩, ⟨groups 0x1000 0, 4⟩, ⟨groups 0x4000 0, 3⟩,
   ⟨groups 0x6000 0, 3⟩, ⟨groups 0x8000 0, 3⟩, ⟨groups 0xA000 0, 3⟩,
   ⟨groups 0xC000 0, 3⟩, ⟨groups 0xE000 0, 4⟩, ⟨groups 0xF000 0, 5⟩,
   ⟨groups 0xF800 0, 6⟩, ⟨groups 0xFE00 0, 9⟩]

namespace Address

/-- The address of the older family that this one stands for. -/
def mapped (value : BitVec 128) : Option (BitVec 32) :=
  if value >>> 32 = 0xFFFF then some (value.setWidth 32) else none

def isPrivate4 (value : BitVec 32) : Bool :=
  privateNetworks.any (·.contains value) &&
    !privateNetworksExceptions.any (·.contains value)

def isPrivate : Address → Bool
  | v4 value => isPrivate4 value
  | v6 value =>
      match mapped value with
      | some inner => isPrivate4 inner
      | none =>
          privateNetworks6.any (·.contains value) &&
            !privateNetworksExceptions6.any (·.contains value)

def isLoopback : Address → Bool
  | v4 value => (⟨quad 127 0 0 0, 8⟩ : Prefix 32).contains value
  | v6 value => value = 1

def isLinkLocal : Address → Bool
  | v4 value => (⟨quad 169 254 0 0, 16⟩ : Prefix 32).contains value
  | v6 value => (⟨groups 0xFE80 0, 10⟩ : Prefix 128).contains value

def isUnspecified : Address → Bool
  | v4 value => value = 0
  | v6 value => value = 0

def isMulticast : Address → Bool
  | v4 value => (⟨quad 224 0 0 0, 4⟩ : Prefix 32).contains value
  | v6 value => (⟨groups 0xFF00 0, 8⟩ : Prefix 128).contains value

def isReserved : Address → Bool
  | v4 value => (⟨quad 240 0 0 0, 4⟩ : Prefix 32).contains value
  | v6 value => reservedNetworks6.any (·.contains value)

end Address

/-! ## Lookups -/

/-- An entry of a lookup's answer: an address, or something of another family. -/
inductive AddrInfo
  | ip (address : Address)
  | foreign
  deriving DecidableEq, Repr

/-- How a lookup ends. -/
inductive Answer
  | found (infos : List AddrInfo)
  | gaierror
  | raises
  deriving DecidableEq, Repr

namespace Answer

/-- What the answer offers to connect to. -/
def offered : Answer → List AddrInfo
  | found infos => infos
  | gaierror => []
  | raises => []

/-- The entry a connection goes to: the first that accepts. -/
def connect (answer : Answer) (accepts : AddrInfo → Bool) : Option AddrInfo :=
  answer.offered.find? accepts

theorem connect_mem {answer : Answer} {accepts : AddrInfo → Bool} {info : AddrInfo}
    (hconnect : answer.connect accepts = some info) : info ∈ answer.offered :=
  List.mem_of_find?_eq_some hconnect

/-- A network in which only this entry accepts. -/
theorem connect_only {answer : Answer} {info : AddrInfo} (hinfo : info ∈ answer.offered) :
    answer.connect (fun candidate => candidate = info) = some info := by
  cases hfirst : answer.connect fun candidate => candidate = info with
  | none =>
      have hrefused := List.find?_eq_none.mp hfirst info hinfo
      exact absurd (decide_eq_true rfl) hrefused
  | some first =>
      have haccepts := List.find?_some hfirst
      rw [of_decide_eq_true haccepts]

end Answer

end Network
