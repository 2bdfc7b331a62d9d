/-
  Checksums.

  Key definitions include:
    * `SiteSearch.Bytes.checksum`

  The checksum is the cyclic redundancy check of 32 bits with
  the reflected polynomial EDB88320, taken from all ones and
  complemented at the end.
-/

------------------------------------------------------------
-- Cyclic Redundancy Check
------------------------------------------------------------

namespace SiteSearch.Bytes

/- Divide one bit out of the remainder. -/
def checksumBit
    (remainder : UInt32) :
    UInt32 :=
  if remainder &&& 1 = 1 then (remainder >>> 1) ^^^ 0xEDB88320
  else remainder >>> 1

/- Take one byte into the remainder. -/
def checksumByte
    (remainder : UInt32)
    (byte : UInt8) :
    UInt32 :=
  Nat.repeat checksumBit 8 (remainder ^^^ byte.toUInt32)

/- The checksum of some bytes. -/
def checksum
    (bytes : List UInt8) :
    UInt32 :=
  bytes.foldl checksumByte 0xFFFFFFFF ^^^ 0xFFFFFFFF

end SiteSearch.Bytes
