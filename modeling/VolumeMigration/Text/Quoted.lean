import VolumeMigration.Text.Escaped
import VolumeMigration.Text.Hexadecimal

/-!
# Quoted text

`Text.quoted` writes a text between double quotes so that it can be shown inside a longer message.
A backslash stands before a quote and a backslash; NUL, tab, line feed and carriage return have
letters of their own; every other character without a visible form becomes its code point in
hexadecimal between braces. All other characters stand for themselves, the apostrophe included.
-/

namespace VolumeMigration

namespace Text

/-- Whether a character is written as its code point. -/
def needsCodePoint (char : Char) : Bool :=
  char.toNat < 0x20 || (0x7e < char.toNat && isEscaped char.toNat)

/-- The form of one character inside a quoted text. -/
def quotedChar (char : Char) : String :=
  match char with
  | '\x00' => "\\0"
  | '\t' => "\\t"
  | '\n' => "\\n"
  | '\r' => "\\r"
  | '\\' => "\\\\"
  | '"' => "\\\""
  | char =>
      if needsCodePoint char then
        "\\u\x7b" ++ hexadecimal char.toNat ++ "\x7d"
      else
        String.singleton char

/-- A text between double quotes, with its special characters escaped. -/
def quoted (text : String) : String :=
  "\"" ++ String.join (text.toList.map quotedChar) ++ "\""

/-- A list of texts, each quoted, between square brackets. -/
def quotedList (texts : List String) : String :=
  "[" ++ String.intercalate ", " (texts.map quoted) ++ "]"

end Text

end VolumeMigration
