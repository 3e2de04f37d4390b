/-!
# Decimal.Power

Powers of two and ten, and the integers that fit into 64 bits.
-/

namespace PromptScript

def twoTo (n : Nat) : Nat := Nat.pow 2 n

def tenTo (n : Nat) : Nat := Nat.pow 10 n

/-- Whether an integer with its sign fits into 64 bits. -/
def fitsSigned64 (n : Int) : Bool := -(twoTo 63 : Int) ≤ n && n < (twoTo 63 : Int)

end PromptScript
