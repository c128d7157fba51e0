/-!
# Text as bytes

Screens, reports and packets hold bytes; texts enter them as UTF-8.
-/

namespace SplitPanel.Text

/-- The UTF-8 bytes of a text. -/
def utf8 (text : String) : List UInt8 :=
  text.toUTF8.data.toList

/-- The text with these UTF-8 bytes, if they are the bytes of one. -/
def ofUtf8? (bytes : List UInt8) : Option String :=
  String.fromUTF8? ⟨bytes.toArray⟩

end SplitPanel.Text
