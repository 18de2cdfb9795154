/-!
# Powers

The powers of two and of ten that numerals and floating-point numbers are made of, and the sizes of
machine words.
-/

namespace RangeServer

/-- A power of two. -/
def twoTo (exponent : Nat) : Nat := Nat.pow 2 exponent

/-- A power of ten. -/
def tenTo (exponent : Nat) : Nat := Nat.pow 10 exponent

namespace Word

/-- How many words have 16 bits. -/
def count16 : Nat := 65536

/-- How many words have 32 bits. -/
def count32 : Nat := 4294967296

/-- How many words have 64 bits. -/
def count64 : Nat := 18446744073709551616

/-- The first number that a word of 64 bits with a sign does not hold. -/
def signedBound64 : Nat := 9223372036854775808

/-- The first number that a word of 32 bits with a sign does not hold. -/
def signedBound32 : Nat := 2147483648

end Word

end RangeServer
