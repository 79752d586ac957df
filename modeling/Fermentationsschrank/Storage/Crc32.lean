import Fermentationsschrank.Core.Format

/-!
# CRC-32/ISO-HDLC

The reflected polynomial `0xEDB88320`, initial value and final exclusive-or
`0xFFFFFFFF`.  The accumulator accepts its input in pieces; the result depends
on the concatenation only.
-/

namespace Fermentationsschrank.Crc32

/-- One of the eight shift steps that build a table entry. -/
def shiftStep (crc : UInt32) : UInt32 :=
  if crc &&& 1 ≠ 0 then (0xEDB88320 : UInt32) ^^^ (crc >>> 1) else crc >>> 1

/-- Entry `index` of `crcTable`. -/
def crcTable (index : UInt8) : UInt32 :=
  Nat.iterate shiftStep 8 index.toUInt32

def updateByte (crc : UInt32) (byte : Byte) : UInt32 :=
  crcTable (crc ^^^ byte.toUInt32).toUInt8 ^^^ (crc >>> 8)

def update (crc : UInt32) (data : Bytes) : UInt32 :=
  data.foldl updateByte crc

def finalize (crc : UInt32) : UInt32 := crc ^^^ 0xFFFFFFFF

def computeCrc32IsoHdlc (data : Bytes) : UInt32 :=
  finalize (update 0xFFFFFFFF data)

/-- The catalogued check value, on the bytes of `"123456789"`. -/
example : computeCrc32IsoHdlc [49, 50, 51, 52, 53, 54, 55, 56, 57] = 0xCBF43926 := by
  decide +kernel

end Fermentationsschrank.Crc32
