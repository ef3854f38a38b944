/-!
# Words

The bounds of the integers that fit 32 and 64 bits.
-/

namespace OvsdbClient

def maxUnsigned32 : Nat := 4294967295

def maxUnsigned64 : Nat := 18446744073709551615

def minSigned64 : Int := -9223372036854775808

def maxSigned64 : Int := 9223372036854775807

end OvsdbClient
