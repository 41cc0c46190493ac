import Summand.Text.Printable

/-!
# Escaped text

Text from a program or from the environment is shown in messages with its invisible characters
spelled out.  A few characters have a short escape; all others that cannot be shown are written as
their code point in hexadecimal.  Two forms are in use: `shown`, for text inside backquotes, and
`quoted`, for text inside double quotes.
-/

namespace Summand.Text

/-- What is escaped besides the characters that cannot be shown. -/
structure EscapeRule where
  /-- The quotation marks that take a backslash. -/
  quotes : List Char
  /-- Characters that extend a grapheme are spelled out as well. -/
  extenders : Bool

namespace EscapeRule

/-- The code point of the character in lower-case hexadecimal, in braces. -/
def codePoint (c : Char) : String :=
  "\\u\x7b" ++ String.ofList (Nat.toDigits 16 c.toNat) ++ "\x7d"

/-- The escaped form of one character. -/
def escapeChar (rule : EscapeRule) (c : Char) : String :=
  if c = '\x00' then "\\0"
  else if c = '\t' then "\\t"
  else if c = '\r' then "\\r"
  else if c = '\n' then "\\n"
  else if c = '\\' || rule.quotes.contains c then "\\" ++ c.toString
  else if (rule.extenders && isExtender c) || !isPrintable c then codePoint c
  else c.toString

/-- The escaped form of a sequence of characters. -/
def escape (rule : EscapeRule) (cs : List Char) : String :=
  String.join (cs.map rule.escapeChar)

end EscapeRule

/-- Text as it appears inside backquotes: quotation marks of both kinds are escaped, and a character
that extends a grapheme is spelled out only where it starts the text. -/
def shown (text : String) : String :=
  let quotes := ['\'', '"']
  let start : EscapeRule := ⟨quotes, true⟩
  let inside : EscapeRule := ⟨quotes, false⟩
  match text.toList with
  | [] => ""
  | c :: rest => start.escapeChar c ++ inside.escape rest

/-- Text inside double quotes: only the double quote is escaped, and every character that extends a
grapheme is spelled out. -/
def quoted (text : String) : String :=
  "\"" ++ EscapeRule.escape ⟨['"'], true⟩ text.toList ++ "\""

end Summand.Text
