/-! Characters written by their number in hexadecimal digits. -/

namespace Navigation

/-- The value of a hexadecimal digit of either case. -/
def hexDigit? (c : Char) : Option Nat :=
  if c.isDigit then some (c.toNat - '0'.toNat)
  else if 'a' ≤ c && c ≤ 'f' then some (c.toNat - 'a'.toNat + 10)
  else if 'A' ≤ c && c ≤ 'F' then some (c.toNat - 'A'.toNat + 10)
  else none

/-- The number that hexadecimal digits write, most significant first. -/
def hexNumber? (digits : List Char) : Option Nat :=
  digits.foldlM (fun value c => (hexDigit? c).map (16 * value + ·)) 0

/-- Reads a number of exactly so many digits, and gives it with the text behind it. -/
def readHex? (width : Nat) (text : List Char) : Option (Nat × List Char) :=
  let digits := text.take width
  if digits.length = width then (hexNumber? digits).map fun value => (value, text.drop width)
  else none

/-- The character with a number, unless the number is a surrogate's or too large. -/
def charOf? (code : Nat) : Option Char :=
  if code.isValidChar then some (Char.ofNat code) else none

/-- Reading a number leaves no more text than there was. -/
theorem length_le_of_readHex? {width value : Nat} {text rest : List Char}
    (found : readHex? width text = some (value, rest)) : rest.length ≤ text.length := by
  -- What is left is the text with its digits dropped.
  simp only [readHex?] at found
  split at found
  · obtain ⟨_, _, same⟩ := Option.map_eq_some_iff.1 found
    simp only [Prod.mk.injEq] at same
    rw [← same.2, List.length_drop]
    omega
  · simp at found

end Navigation
