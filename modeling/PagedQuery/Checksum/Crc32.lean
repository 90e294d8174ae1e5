/-
# CRC-32

The cyclic redundancy check of IEEE 802.3: polynomial `EDB88320` with the low bit
first, all ones before the first byte and inverted at the end.
-/

namespace PagedQuery
namespace Checksum

/-- One bit of the division by the polynomial. -/
def crcBit (state : UInt32) : UInt32 :=
  if state &&& 1 = 1 then (state >>> 1) ^^^ 0xEDB88320 else state >>> 1

/-- The state after one more byte. -/
def crcByte (state : UInt32) (byte : UInt8) : UInt32 :=
  let mixed := state ^^^ byte.toUInt32
  crcBit (crcBit (crcBit (crcBit (crcBit (crcBit (crcBit (crcBit mixed)))))))

/-- The checksum of a sequence of bytes. -/
def crc32 (bytes : List UInt8) : UInt32 :=
  bytes.foldl crcByte 0xFFFFFFFF ^^^ 0xFFFFFFFF

/-- The character of a hexadecimal digit, in lower case. -/
def hexDigit (n : Nat) : Char :=
  if n < 10 then Char.ofNat (48 + n) else Char.ofNat (87 + n)

/-- A 32-bit number as eight hexadecimal digits. -/
def hex8 (n : UInt32) : List Char :=
  [28, 24, 20, 16, 12, 8, 4, 0].map fun (shift : Nat) => hexDigit ((n.toNat >>> shift) % 16)

end Checksum
end PagedQuery
