/-!
# Text as bytes

Text outside the library is UTF-8 without exception: bytes that are none are no text.
-/

namespace Pagewright.Text

/-- The text of bytes, if they are UTF-8. -/
def ofUtf8? (bytes : List UInt8) : Option String := String.fromUTF8? ⟨bytes.toArray⟩

end Pagewright.Text
