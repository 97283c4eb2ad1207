/-!
# Words of bits

How many numbers a word of so many bits can hold.
-/

namespace ChatRules

/-- The number of words of so many bits: the numbers below it are the words. -/
def wordSize (bits : Nat) : Nat := Nat.pow 2 bits

end ChatRules
