import ChainWatch.Text.Hex

/-!
# Natural numbers as digits

`readDigits?` reads digits of a base up to sixteen, and no digits as zero.
-/

namespace ChainWatch

/-- Read digits of a base. -/
def readDigits? (base : Nat) (cs : List Char) : Option Nat :=
  cs.foldlM (fun n c => do
    let d ← if c.toNat < 128 then hexValue? (UInt8.ofNat c.toNat) else none
    if d < base then some (n * base + d) else none) 0

example : readDigits? 16 "7f".toList = some 127 := by decide
example : readDigits? 8 "8".toList = none := by decide

end ChainWatch
