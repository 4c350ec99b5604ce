import SpecGraph.Data.Order

/-!
# The order of a set

The members of a set stand in a table, each at the first free place on a way that its hash determines,
and they are met in the order of the table. Numbers that are the same have the same hash, which is the
number modulo a prime, so that a fraction has one too: two has an inverse. Only numbers have a hash that
is the same in every run. A set with any other member keeps the order in which its members came.
-/

namespace SpecGraph

namespace Data

/-- The prime `2 ^ 61 - 1`, modulo which numbers are hashed. -/
def hashModulus : Nat := 2305843009213693951

/-- The hash of `significand * 2 ^ exponent`. The powers of two repeat after 61 of them. -/
def hashOfMagnitude (significand : Nat) (exponent : Int) : Nat :=
  significand * Binary64.power 2 (exponent % 61).toNat % hashModulus

/-- A hash with a sign; minus one is no hash. -/
def signedHash (negative : Bool) (size : Nat) : Int :=
  if !negative then Int.ofNat size else if size = 1 then -2 else -Int.ofNat size

/-- The hash of a number. -/
def hash? (value : Data) : Option Int :=
  match value.integer?, value with
  | some number, _ => some (signedHash (number < 0) (number.natAbs % hashModulus))
  | none, .float number =>
      if number.isNaN then none
      else if number.isInfinite then some (signedHash number.isNegative 314159)
      else some (signedHash number.isNegative (hashOfMagnitude number.significand number.exponent))
  | none, _ => none

/-- The number of places in the table of a set: a power of two, more than twice its members. -/
def tableSize (members : Nat) : Nat :=
  if members < 5 then 8 else (2 * members + 1).nextPowerOfTwo

/-- A table whose places are free or taken. -/
abbrev Places := Array (Option Data)

/-- The first free place of a number of places. -/
def firstFree? (table : Places) (start : Nat) : (count : Nat) → Option Nat
  | 0 => none
  | count + 1 =>
      if (table.getD start none).isNone then some start else firstFree? table (start + 1) count

/-- The first free place on a way: ten places in a row if there are as many, and on from another place
that depends on what is left of the hash. -/
def freePlace (table : Places) : (fuel hash place : Nat) → Nat
  | 0, _, place => place
  | fuel + 1, hash, place =>
      match firstFree? table place (if place + 9 < table.size then 10 else 1) with
      | some found => found
      | none => freePlace table fuel (hash / 32) ((place * 5 + 1 + hash / 32) % table.size)

/-- The table with a value at the first free place on the way of its hash. -/
def takePlace (table : Places) (value : Data) (hash : Int) : Places :=
  let bits := (hash % 18446744073709551616).toNat
  table.setIfInBounds (freePlace table (table.size + 64) bits (bits % table.size)) (some value)

/-- The members of a set in the order in which they are met. -/
def setOrder (members : List Data) : List Data :=
  match members.mapM hash? with
  | none => members
  | some hashes =>
      let table := (members.zip hashes).foldl (fun table (value, hash) => takePlace table value hash)
        (Array.replicate (tableSize members.length) none)
      table.toList.filterMap id

end Data

end SpecGraph
