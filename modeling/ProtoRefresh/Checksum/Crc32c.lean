-- The checksum by which two files are told apart: the 32-bit cyclic code
-- of the Castagnoli polynomial. Bits go in from the lowest of each byte,
-- the register starts with all bits set and is inverted at the end.

namespace ProtoRefresh.Checksum

/-- The polynomial, its highest coefficient but one in the lowest bit. -/
def polynomial : UInt32 := 0x82F63B78

/-- The register after one bit has left it. -/
def shift (register : UInt32) : UInt32 :=
  if register &&& 1 = 1 then (register >>> 1) ^^^ polynomial else register >>> 1

/-- The register after some bits have left it. -/
def shifts : Nat → UInt32 → UInt32
  | 0, register => register
  | n + 1, register => shifts n (shift register)

/-- The register after one byte. -/
def feed (register : UInt32) (byte : UInt8) : UInt32 := shifts 8 (register ^^^ byte.toUInt32)

/-- The register after a row of bytes. -/
def feedAll (register : UInt32) (bytes : List UInt8) : UInt32 := bytes.foldl feed register

/-- The checksum of a row of bytes. -/
def crc32c (bytes : List UInt8) : UInt32 := feedAll 0xFFFFFFFF bytes ^^^ 0xFFFFFFFF

end ProtoRefresh.Checksum
