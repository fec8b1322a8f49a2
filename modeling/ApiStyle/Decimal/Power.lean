/-! Powers of two and of ten, and the integers that fit into so many bits. -/

namespace ApiStyle

def twoTo (exponent : Nat) : Nat := Nat.pow 2 exponent

def tenTo (exponent : Nat) : Nat := Nat.pow 10 exponent

/-- Whether an integer fits into so many bits, one of them for the sign. -/
def fitsSigned (bits : Nat) (value : Int) : Bool :=
  -(twoTo (bits - 1) : Int) ≤ value && value < (twoTo (bits - 1) : Int)

/-- Whether an integer fits into so many bits without a sign. -/
def fitsUnsigned (bits : Nat) (value : Int) : Bool := 0 ≤ value && value < (twoTo bits : Int)

/-- The bits of a word. -/
def wordSize : Nat := 64

/-- Whether a word can hold an integer, be it with a sign or without. -/
def fitsWord (value : Int) : Bool := fitsSigned wordSize value || fitsUnsigned wordSize value

end ApiStyle
