import Latchkey.Bytes.Basic

set_option autoImplicit false

/-! # Text as bytes

The UTF-8 bytes of a text read back as the text, and go along with joining texts. -/

namespace Latchkey.Bytes

@[simp] theorem toText?_ofText (text : String) : toText? (ofText text) = some text := by
  have same : (⟨(ofText text).toArray⟩ : ByteArray) = text.toByteArray := by simp [ofText]
  rw [toText?, same, String.fromUTF8?, dif_pos text.isValidUTF8]
  rfl

theorem ofText_injective {s t : String} (same : ofText s = ofText t) : s = t := by
  have read := congrArg toText? same
  simpa using read

@[simp] theorem ofText_append (s t : String) : ofText (s ++ t) = ofText s ++ ofText t := by
  simp [ofText]

theorem ofText_ofList (chars : List Char) :
    ofText (String.ofList chars) = chars.flatMap String.utf8EncodeChar := by
  simp [ofText, List.utf8Encode]

/-- A character below 128 is one byte. -/
theorem ofText_ofList_of_ascii {chars : List Char} (ascii : ∀ c ∈ chars, c.utf8Size = 1) :
    ofText (String.ofList chars) = chars.map fun c => c.val.toUInt8 := by
  rw [ofText_ofList]
  induction chars with
  | nil => rfl
  | cons c rest ih =>
    rw [List.flatMap_cons, List.map_cons, ih fun d mem => ascii d (List.mem_cons_of_mem c mem),
      String.utf8EncodeChar_eq_singleton (ascii c List.mem_cons_self)]
    rfl

end Latchkey.Bytes
