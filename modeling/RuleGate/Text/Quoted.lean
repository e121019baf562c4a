import RuleGate.Text.PrintableTable

/-!
# Quoted text

Two ways of writing a text between quotation marks: `quoted` for messages that show a nested value,
and `jsonQuoted` for JSON in ASCII. Both escape the mark itself, the backslash and whatever has no
printed form of its own, halves of surrogate pairs among them.
-/

namespace RuleGate.Text

def hexDigit (n : Nat) : CodePoint :=
  Nat.digitChar (n % 16)

/-- The last `width` hexadecimal digits of a number. -/
def hex : (width : Nat) → Nat → Text
  | 0, _ => []
  | width + 1, n => hex width (n / 16) ++ [hexDigit n]

/-- The escape of a character by its code point, in the shortest of three widths. -/
def codeEscape (c : CodePoint) : Text :=
  if c.toNat < 0x100 then '\\' :: 'x' :: hex 2 c.toNat
  else if c.toNat < 0x10000 then '\\' :: 'u' :: hex 4 c.toNat
  else '\\' :: 'U' :: hex 8 c.toNat

/-- The apostrophe, unless the text holds one and no double quote. -/
def quoteMark (t : Text) : CodePoint :=
  if t.contains '\'' && !t.contains '"' then '"' else '\''

def quoteChar (mark c : CodePoint) : Text :=
  if c = '\\' || c = mark then ['\\', c]
  else if c = '\t' then ['\\', 't']
  else if c = '\n' then ['\\', 'n']
  else if c = '\r' then ['\\', 'r']
  else if isPrintable c then [c]
  else codeEscape c

def quoted (t : Text) : Text :=
  let mark := quoteMark t
  mark :: t.flatMap (quoteChar mark) ++ [mark]

def unitEscape (n : Nat) : Text :=
  '\\' :: 'u' :: hex 4 n

/-- Outside the printable ASCII characters a code point is written as one or two UTF-16 units. -/
def jsonQuoteChar (c : CodePoint) : Text :=
  if c = '\\' || c = '"' then ['\\', c]
  else if c = '\n' then ['\\', 'n']
  else if c = '\r' then ['\\', 'r']
  else if c = '\t' then ['\\', 't']
  else if c = '\x0c' then ['\\', 'f']
  else if c = '\x08' then ['\\', 'b']
  else if 0x20 ≤ c.toNat && c.toNat ≤ 0x7e then [c]
  else if c.toNat < 0x10000 then unitEscape c.toNat
  else
    let n := c.toNat - 0x10000
    unitEscape (0xd800 + n / 0x400) ++ unitEscape (0xdc00 + n % 0x400)

def jsonQuoted (t : Text) : Text :=
  "\"" ++ t.flatMap jsonQuoteChar ++ "\""

end RuleGate.Text
