import VolumeOverlay.Document.Json.Reader
import VolumeOverlay.Document.Toml.Rule

/-!
# Texts of a configuration file

A text comes in four forms: in double quotes with escapes or in single quotes without, on one line or
on several between triple quotes.

## Main definitions

* `escape`: an escape
* `quotedText`, `literalText`: texts on one line
* `longQuotedText`, `longLiteralText`: texts of several lines
* `text`: a text in any form
-/

namespace VolumeOverlay.Document.Toml

/-! ### Escapes -/

/-- The character of a code point. -/
def codePoint? (n : Nat) : Except Mistake Char :=
  if n < 0xD800 ∨ (0xDFFF < n ∧ n < 0x110000) then .ok (.ofNat n) else .error .outOfRange

/-- A code point in some number of hexadecimal digits. -/
def codePoint (digits : Nat) : Rule Char :=
  checked (do
    let cs ← remaining
    let code := (cs.take digits).takeWhile fun c => (Json.hexDigit? c).isSome
    if code.length = digits then
      set (cs.drop digits)
      return (Json.hexNumber? code).getD 0
    else fail) codePoint?

/-- What may follow a backslash. -/
def escapeLetters : List String :=
  ["`b`", "`f`", "`n`", "`r`", "`t`", "`u`", "`U`", "`\\`", "`\"`"]

/-- A letter that may not follow a backslash. It counts as read if it takes a single byte. -/
def badEscape (c : Char) (cs : List Char) : Failure where
  rest := if c.utf8Size = 1 then cs else c :: cs
  isFinal := true
  fault := { construct := some .escape, expected := escapeLetters }

/-- What an escape stands for, after its backslash. -/
def escapeLetter : Rule Char
  | [] => .error { rest := [] }
  | 'b' :: cs => .ok ('\x08', cs)
  | 'f' :: cs => .ok ('\x0c', cs)
  | 'n' :: cs => .ok ('\n', cs)
  | 'r' :: cs => .ok ('\r', cs)
  | 't' :: cs => .ok ('\t', cs)
  | 'u' :: cs => within .shortCodePoint (final (codePoint 4)) cs
  | 'U' :: cs => within .longCodePoint (final (codePoint 8)) cs
  | '\\' :: cs => .ok ('\\', cs)
  | '"' :: cs => .ok ('"', cs)
  | c :: cs => .error (badEscape c cs)

/-- An escape. -/
def escape : Rule Char := do
  let _ ← char '\\'
  escapeLetter

/-! ### Texts on one line -/

/-- Characters that stand for themselves in a text with escapes. -/
def isPlain (c : Char) : Bool :=
  isTextChar c && c != '"' && c != '\\'

/-- Characters that stand for themselves in a text without escapes. -/
def isLiteral (c : Char) : Bool :=
  isTextChar c && c != '\''

/-- A text in double quotes. -/
def quotedText : Rule (List Char) := do
  let _ ← char '"'
  let pieces ← many ((someIf isPlain).or (List.singleton <$> escape)) (← remaining).length
  let _ ← within .quotedText (final (char '"'))
  return pieces.flatten

/-- A text in single quotes. -/
def literalText : Rule (List Char) :=
  within .literalText do
    let _ ← char '\''
    let content ← runIf isLiteral
    let _ ← final (char '\'')
    return content

/-! ### Texts of several lines -/

/-- What is left after spaces, tabs and line breaks. -/
def afterBlanks : List Char → List Char
  | '\r' :: '\n' :: cs => afterBlanks cs
  | c :: cs => if isSpace c || c == '\n' then afterBlanks cs else c :: cs
  | [] => []

/-- A backslash at the end of a line. It stands for nothing, and so do the blanks that follow. -/
def lineContinuation : Rule (List Char) := do
  let _ ← char '\\'
  spaces
  lineBreak
  modify afterBlanks
  return []

/-- A line break inside a text. -/
def innerBreak : Rule (List Char) := do
  lineBreak
  return ['\n']

/-- A piece of a text of several lines with escapes. -/
def longQuotedPiece : Rule (List Char) :=
  ((someIf isPlain).or lineContinuation).or
    ((List.singleton <$> escape).or innerBreak)

/-- A piece of a text of several lines without escapes. -/
def longLiteralPiece : Rule (List Char) :=
  (someIf isLiteral).or innerBreak

/-- Three quotes. -/
def delimiter (quote : Char) : Rule Unit :=
  chars [quote, quote, quote]

/-- One or two quotes in front of something else. -/
def quotesBefore {α : Type} (quote : Char) (next : Rule α) : Rule (List Char) :=
  Rule.or (do chars [quote, quote]; let _ ← ahead next; return [quote, quote])
    (do chars [quote]; let _ ← ahead next; return [quote])

/-- The content of a text of several lines. One or two quotes belong to it where more of it follows,
as `inner` reads it, or where the closing quotes follow. -/
def longContent (quote : Char) (piece inner : Rule (List Char)) : Rule (List Char) := do
  let pieces ← many (piece.or (quotesBefore quote inner)) (← remaining).length
  let quotes ← attempt (quotesBefore quote (delimiter quote))
  return pieces.flatten ++ quotes.getD []

/-- A text of several lines. A line break right after the opening quotes does not count. -/
def longText (quote : Char) (piece inner : Rule (List Char)) : Rule (List Char) := do
  delimiter quote
  let _ ← attempt lineBreak
  let content ← final (longContent quote piece inner)
  final (delimiter quote)
  return content

/-- A text of several lines with escapes. Quotes inside it may have any other character after them, so
that a fault is looked for behind them. -/
def longQuotedText : Rule (List Char) :=
  within .longQuotedText
    (longText '"' longQuotedPiece (List.singleton <$> charIf (· != '"')))

/-- A text of several lines without escapes. -/
def longLiteralText : Rule (List Char) :=
  within .longLiteralText (longText '\'' longLiteralPiece longLiteralPiece)

/-- A text in any form. -/
def text : Rule (List Char) :=
  (longQuotedText.or quotedText).or (longLiteralText.or literalText)

end VolumeOverlay.Document.Toml
