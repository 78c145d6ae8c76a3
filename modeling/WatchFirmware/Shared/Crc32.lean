import Mathlib

set_option autoImplicit false

namespace Crc32

def shiftBit (crc : UInt32) : UInt32 := if crc % 2 = 1 then (crc >>> 1) ^^^ 0xEDB88320 else crc >>> 1

def takeByte (crc : UInt32) (byte : UInt8) : UInt32 := shiftBit^[8] (crc ^^^ byte.toUInt32)

/-- The reflected CRC-32 of the bytes, carried on from the one of the bytes before them. -/
def checksum (crc : UInt32) (bytes : List UInt8) : UInt32 :=
  bytes.foldl takeByte (crc ^^^ 0xFFFFFFFF) ^^^ 0xFFFFFFFF

example : checksum 0 [0x31, 0x32, 0x33, 0x34, 0x35, 0x36, 0x37, 0x38, 0x39] = 0xCBF43926 := by decide +kernel

end Crc32
