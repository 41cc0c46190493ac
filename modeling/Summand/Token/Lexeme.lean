import Summand.Token.Basic
import Summand.Text.Blank
import Summand.Text.WordChar

/-!
# Lexemes

Each kind of token has a pattern that matches some number of characters at the start of a text.
`Token.Kind.extent` gives that number, with zero for no match.  The kinds are tried in a fixed
order, and the first that matches wins, whether or not a later one would match more.  The last kind
matches any single character, so that some kind matches every text but the empty one
(`extent_leading_pos`).
-/

namespace Summand.Token.Kind

open Summand.Text

/-- A keyword matches where no word character follows it. -/
def keywordExtent (keyword : String) (cs : List Char) : Nat :=
  let letters := keyword.toList
  if letters.isPrefixOf cs && !(cs.drop letters.length).head?.any isWordChar then letters.length
  else 0

/-- A number is a run of digits, with a point and a second run if both are there. -/
def numberExtent (cs : List Char) : Nat :=
  let whole := cs.takeWhile Char.isDigit
  match whole.isEmpty, cs.drop whole.length with
  | false, '.' :: rest =>
    let fraction := rest.takeWhile Char.isDigit
    if fraction.isEmpty then whole.length else whole.length + 1 + fraction.length
  | _, _ => whole.length

/-- A line break is a line feed or a carriage return, or the two of them in this order: return,
feed. -/
def lineBreakExtent : List Char → Nat
  | '\r' :: '\n' :: _ => 2
  | c :: _ => if isLineEnd c then 1 else 0
  | [] => 0

/-- One character out of a few. -/
def oneOf (choices : List Char) : List Char → Nat
  | c :: _ => if choices.contains c then 1 else 0
  | [] => 0

/-- How many characters at the start of a text a kind matches. -/
def extent : Kind → List Char → Nat
  | .functionKeyword => keywordExtent "function"
  | .returnKeyword => keywordExtent "return"
  | .letKeyword => keywordExtent "let"
  | .number => numberExtent
  | .word => fun cs => (cs.takeWhile isNameChar).length
  | .space => fun cs => (cs.takeWhile isInlineBlank).length
  | .semicolon => oneOf [';']
  | .lineBreak => lineBreakExtent
  | .brace => oneOf ['\x7b', '\x7d']
  | .paren => oneOf ['(', ')']
  | .punctuator => oneOf ['=', '+']
  | .other => fun cs => min 1 cs.length

/-- The kinds that have a pattern of their own, in the order in which they are tried. -/
def patterned : List Kind :=
  [.functionKeyword, .returnKeyword, .letKeyword, .number, .word, .space, .semicolon, .lineBreak,
   .brace, .paren, .punctuator]

/-- The kind of the token at the start of a text: the first that matches. -/
def leading (cs : List Char) : Kind :=
  (patterned.find? fun kind => 0 < kind.extent cs).getD .other

/-- Every text but the empty one starts with a token that is not empty. -/
theorem extent_leading_pos {cs : List Char} (h : cs ≠ []) : 0 < (leading cs).extent cs := by
  unfold leading
  cases found : patterned.find? fun kind => 0 < kind.extent cs with
  | none =>
    have := List.length_pos_iff.2 h
    simp only [Option.getD_none, extent]
    omega
  | some kind => simpa using List.find?_some found

end Summand.Token.Kind
