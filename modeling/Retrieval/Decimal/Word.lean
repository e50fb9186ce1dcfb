namespace Retrieval.Decimal

def bound32 : Nat := 0x100000000

def bound63 : Nat := 0x8000000000000000

def bound64 : Nat := 0x10000000000000000

def isUnsigned64 (number : Int) : Bool :=
  0 ≤ number && number < bound64

def isSigned64 (number : Int) : Bool :=
  -bound63 ≤ number && number < bound63

end Retrieval.Decimal
