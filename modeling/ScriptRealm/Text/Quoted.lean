import ScriptRealm.Text.GraphemeExtend
import ScriptRealm.Text.Printable

/-!
# Quoted text

Text and characters between quotes, with everything escaped that would not stand for itself.
-/

namespace ScriptRealm.Text

/-- The escape of a character by its code point. -/
def codeEscape (c : Char) : List Char :=
  '\\' :: 'u' :: '{' :: (Nat.toDigits 16 c.toNat ++ ['}'])

/-- One character inside the quotes `quote`. -/
def escapeChar (quote c : Char) : List Char :=
  if c = '\x00' then ['\\', '0']
  else if c = '\t' then ['\\', 't']
  else if c = '\r' then ['\\', 'r']
  else if c = '\n' then ['\\', 'n']
  else if c = '\\' ∨ c = quote then ['\\', c]
  else if isGraphemeExtend c ∨ ¬ isPrintable c then codeEscape c
  else [c]

/-- A text between the quotes `quote`. -/
def quoted (quote : Char) (s : List Char) : String :=
  String.ofList (quote :: (s.flatMap (escapeChar quote) ++ [quote]))

/-- A text between double quotes. -/
def quoteString (s : String) : String :=
  quoted '"' s.toList

/-- A character between single quotes. -/
def quoteChar (c : Char) : String :=
  quoted '\'' [c]

end ScriptRealm.Text
