/-!
# YAML tokens

The tokens of a YAML text. Where indentation opens and closes a collection there is a token for it,
and a key is announced by a token in front of it, whether or not the text has a character for that.
-/

namespace VolumeMigration

namespace Yaml

/-- A token of a YAML text. -/
inductive Token where
  /-- The version that a text asks for. -/
  | version (major minor : Nat)
  /-- What the handle of a tag stands for, in octets. -/
  | handle (name : String) (meaning : List UInt8)
  | documentStart
  | documentEnd
  | sequenceStart
  | mappingStart
  /-- The end of a collection that indentation delimits. -/
  | blockEnd
  | openBracket
  | closeBracket
  | openBrace
  | closeBrace
  /-- The dash before an element. -/
  | dash
  | comma
  /-- The start of a key. -/
  | key
  /-- The start of a value. -/
  | value
  | alias (anchor : String)
  | anchor (name : String)
  /-- A tag: its handle, which may be empty, and the octets behind it. -/
  | tag (handle : String) (suffix : List UInt8)
  | scalar (plain : Bool) (text : String)
  deriving DecidableEq

end Yaml

end VolumeMigration
