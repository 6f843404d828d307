/-!
# Addresses

An address is a word of 64 bits. The model keeps addresses as natural numbers, of which those
below `Address.count` stand for words, and sums of addresses are sums of numbers as long as they
stay below it. Beyond it the program is built in one of two ways: a checked build stops at such a
sum, and a wrapping build goes on at address 0.
-/

set_option autoImplicit false

namespace ByteMachine

namespace Address

/-- The number of addresses. -/
def count : Nat := UInt64.size

/-- The address some distance behind another one, where the first address follows the last. -/
def ahead (address distance : Nat) : Nat :=
  (address + distance) % count

/-- A sum that is an address is taken as it is. -/
theorem ahead_of_lt {address distance : Nat} (h : address + distance < count) :
    ahead address distance = address + distance :=
  Nat.mod_eq_of_lt h

end Address

/-- How a program is built, as far as sums of addresses go. -/
inductive Build where
  /-- A sum beyond the last address stops the program. -/
  | checked
  /-- A sum beyond the last address starts again at 0. -/
  | wrapping
deriving DecidableEq

/-- The address some distance behind another one; none where the program stops. -/
def Build.ahead? (build : Build) (address distance : Nat) : Option Nat :=
  match build with
  | .checked => if address + distance < Address.count then some (address + distance) else none
  | .wrapping => some (Address.ahead address distance)

end ByteMachine
