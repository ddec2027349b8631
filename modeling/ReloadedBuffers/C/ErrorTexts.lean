import ReloadedBuffers.Buffers
import ReloadedBuffers.Foundation.Numeral

/-! The texts of errors, as C callers get them. A text is turned into a C string, which
cannot hold a null character, and the conversion is unwrapped.
-/

set_option autoImplicit false

namespace ReloadedBuffers

/-- `CString::new`, which fails on a null character. -/
def cString (text : String) : Option (List Char) := if '\x00' ∈ text.toList then none else some text.toList

/-- What `{:?}` makes of the settings. -/
def BufferSearchSettings.debugText (settings : BufferSearchSettings) : String :=
  "BufferSearchSettings \x7b min_address: " ++ toString settings.minAddress ++ ", max_address: " ++
    toString settings.maxAddress ++ ", size: " ++ toString settings.size.toNat ++ " \x7d"

/-- `to_string`, with the feature `no_format` and without. -/
def BufferSearchError.toText (noFormat : Bool) (error : BufferSearchError) : String :=
  if noFormat then "Buffer Search Error: " ++ error.text
  else "Buffer Search Error: " ++ error.text ++ ". Settings: " ++ error.settings.debugText

/-- No null character. -/
def Terminable (text : String) : Prop := '\x00' ∉ text.toList

namespace Terminable

instance (text : String) : Decidable (Terminable text) := inferInstanceAs (Decidable ('\x00' ∉ text.toList))

theorem append {first second : String} (left : Terminable first) (right : Terminable second) :
    Terminable (first ++ second) := by
  unfold Terminable at *
  simp [left, right]

end Terminable

variable {σ : Type} {target : Target} {os : Os σ} {fuel : Nat}

end ReloadedBuffers
