import Latchkey.Session.Request
import Latchkey.Settings.Sections

set_option autoImplicit false

/-! # The rotation window

The newest usable keys form a window. One of them, drawn at random, signs the next token, and all of
them are published. -/

namespace Latchkey

/-- How many of the newest usable keys may sign. -/
structure KeyWindow where
  size : Nat
deriving DecidableEq, Repr

namespace KeyWindow

/-- The window where nothing is configured. -/
def default : KeyWindow := ⟨20⟩

/-- The window of the settings; it holds at least one key. -/
def ofSettings (s : RotationSettings) : KeyWindow :=
  ⟨max s.selectionWindow 1⟩

/-- The candidate that a drawn number stands for. -/
def pick? (candidates : List SigningKey) (draw : Nat) : Option SigningKey :=
  candidates[draw % candidates.length]?

/-- Picks a key to sign with. -/
def select (window : KeyWindow) (draw : Nat) : Operation SigningKey := do
  let candidates ← Operation.signing (.recentUsable window.size)
  match pick? candidates draw with
  | some key => return key
  | none => throw .noUsableKey

/-- The public keys of the window. -/
def publicKeys (window : KeyWindow) : Operation (List WebKey) := do
  let keys ← Operation.signing (.recentUsable window.size)
  return keys.map SigningKey.webKey

end KeyWindow

end Latchkey
