/-!
# Checksums of archived files

An archive stores the CRC-32 of each file: the remainder of the polynomial division of its bits by
the generator 0x04C11DB7, with the bits of every byte taken from the low end.
-/

namespace Pagewright

/-- One step of the division, by one bit. -/
def checksumBit (r : UInt32) : UInt32 :=
  if r &&& 1 = 1 then (r >>> 1) ^^^ 0xEDB88320 else r >>> 1

/-- The division by the eight bits of a byte. -/
def checksumByte (r : UInt32) (b : UInt8) : UInt32 :=
  Nat.repeat checksumBit 8 (r ^^^ b.toUInt32)

/-- The CRC-32 of a sequence of bytes. -/
def checksum (bytes : List UInt8) : UInt32 :=
  bytes.foldl checksumByte 0xFFFFFFFF ^^^ 0xFFFFFFFF

end Pagewright
