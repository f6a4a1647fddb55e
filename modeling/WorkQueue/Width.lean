/-!
# Widths of numbers

How far numbers of 32 and of 64 bits reach. Without a sign they are below `UInt32.size` and
`UInt64.size`. With a sign, half of the values are negative: such a number is at least `-half32`
and below `half32`, or at least `-half64` and below `half64`.
-/

namespace WorkQueue

/-- Half of the values of 32 bits. -/
abbrev half32 : Nat :=
  0x80000000

/-- Half of the values of 64 bits. -/
abbrev half64 : Nat :=
  0x8000000000000000

end WorkQueue
