/-!
# Words

How many numbers fit words of a width: `size` of those without a sign, and `half` as many from zero
on of those with one. The numbers are written out, so that arithmetic sees them.
-/

namespace LinkGauge.Word

/-- Words of 16 bits. -/
abbrev size16 : Nat := 65536

/-- Words of 32 bits. -/
abbrev size32 : Nat := 4294967296

/-- Words of 32 bits that are not negative. -/
abbrev half32 : Nat := 2147483648

/-- Words of 64 bits. -/
abbrev size64 : Nat := 18446744073709551616

/-- Words of 64 bits that are not negative. -/
abbrev half64 : Nat := 9223372036854775808

/-- The number fits a word of 32 bits with a sign. -/
def isInt32 (n : Int) : Bool := -(half32 : Int) ≤ n && n < half32

/-- The number fits a word of 64 bits with a sign. -/
def isInt64 (n : Int) : Bool := -(half64 : Int) ≤ n && n < half64

end LinkGauge.Word
