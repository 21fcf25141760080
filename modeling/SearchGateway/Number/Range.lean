/-!
# Ranges of whole numbers

Whole numbers of 64 bits, signed and unsigned.
-/

namespace SearchGateway.Number

def minInt64 : Int := -0x8000000000000000
def maxInt64 : Int := 0x7FFFFFFFFFFFFFFF
def maxUInt64 : Nat := 0xFFFFFFFFFFFFFFFF

def fitsInt64 (i : Int) : Bool := minInt64 ≤ i && i ≤ maxInt64

end SearchGateway.Number
