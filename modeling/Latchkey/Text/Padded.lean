set_option autoImplicit false

/-! # Numbers with leading zeros -/

namespace Latchkey.Text

/-- A natural number in decimal, with zeros in front up to `width` digits. -/
def padded (width n : Nat) : String :=
  let digits := toString n
  "".pushn '0' (width - digits.length) ++ digits

end Latchkey.Text
