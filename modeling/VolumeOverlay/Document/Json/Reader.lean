import VolumeOverlay.Binary64
import VolumeOverlay.Document.Basic

/-!
# JSON texts

The document that a JSON text denotes. Blanks are the four of JSON; nothing may follow the value.
A number without fraction and exponent is an integer, except `-0`.

## Main definitions

* `readText`: a text up to its closing quote, with its escapes resolved
* `readNumber`: a number
* `readValue fuel`: a value; every step into a value, an item or a member spends one unit of fuel
* `Document.ofJson? s`: the document of a whole text
-/

namespace VolumeOverlay.Document.Json

/-- The blanks of JSON. -/
def isBlank (c : Char) : Bool :=
  c == ' ' || c == '\n' || c == '\t' || c == '\r'

/-- What is left after leading blanks. -/
def skipBlanks (cs : List Char) : List Char :=
  cs.dropWhile isBlank

/-! ### Texts -/

/-- An element of a text: a character, or the UTF-16 unit that an escape stands for. -/
inductive Piece where
  | char (c : Char)
  | unit (n : Nat)

/-- The value of a hexadecimal digit, in either case. -/
def hexDigit? (c : Char) : Option Nat :=
  if c.isDigit then some (c.toNat - '0'.toNat)
  else if 'a' ≤ c ∧ c ≤ 'f' then some (c.toNat - 'a'.toNat + 10)
  else if 'A' ≤ c ∧ c ≤ 'F' then some (c.toNat - 'A'.toNat + 10)
  else none

/-- The number that hexadecimal digits denote. -/
def hexNumber? (cs : List Char) : Option Nat :=
  cs.foldl (fun n c => do pure ((← n) * 16 + (← hexDigit? c))) (some 0)

/-- The character that a one-letter escape stands for. -/
def escaped? : Char → Option Char
  | '"' => some '"'
  | '\\' => some '\\'
  | '/' => some '/'
  | 'b' => some '\x08'
  | 'f' => some '\x0c'
  | 'n' => some '\n'
  | 'r' => some '\r'
  | 't' => some '\t'
  | _ => none

/-- The elements of a text up to its closing quote, and what follows. Control characters have to be
escaped. -/
def readPieces : List Char → Option (List Piece × List Char)
  | [] => none
  | '"' :: cs => some ([], cs)
  | ['\\'] => none
  | '\\' :: 'u' :: a :: b :: c :: d :: cs => do
    let n ← hexNumber? [a, b, c, d]
    let (ps, rest) ← readPieces cs
    pure (.unit n :: ps, rest)
  | '\\' :: e :: cs => do
    let c ← escaped? e
    let (ps, rest) ← readPieces cs
    pure (.char c :: ps, rest)
  | c :: cs =>
    if c < ' ' then none
    else do
      let (ps, rest) ← readPieces cs
      pure (.char c :: ps, rest)

/-- The first unit of a surrogate pair. -/
def isHighSurrogate (n : Nat) : Bool := 0xD800 ≤ n && n ≤ 0xDBFF

/-- The second unit of a surrogate pair. -/
def isLowSurrogate (n : Nat) : Bool := 0xDC00 ≤ n && n ≤ 0xDFFF

/-- The characters of a text, unless half a surrogate pair stands alone. -/
def joinPieces : List Piece → Option (List Char)
  | [] => some []
  | .char c :: ps => (joinPieces ps).map (c :: ·)
  | .unit h :: ps =>
    if isHighSurrogate h then
      match ps with
      | .unit l :: ps =>
        if isLowSurrogate l then
          (joinPieces ps).map (.ofNat (0x10000 + (h - 0xD800) * 0x400 + (l - 0xDC00)) :: ·)
        else none
      | _ => none
    else if isLowSurrogate h then none
    else (joinPieces ps).map (.ofNat h :: ·)

/-- A text after its opening quote, and what follows it; the text itself is missing when half a
surrogate pair stands alone in it. -/
def readText (cs : List Char) : Option (Option String × List Char) :=
  (readPieces cs).map fun p => ((joinPieces p.1).map String.ofList, p.2)

/-! ### Numbers -/

/-- The number of the first digits that stay below 2^64, behind the digits of `n`, and the digits that
are left. -/
def leadingDigits (n : Nat) : List Char → Nat × List Char
  | [] => (n, [])
  | c :: cs =>
    let next := n * 10 + (c.toNat - '0'.toNat)
    if next < UInt64.size then leadingDigits next cs else (n, c :: cs)

/-- The greatest power of ten that is a floating point number. -/
def greatestPower : Nat := 308

/-- Whether a number is beyond all floating point numbers. Its first digits count, as many as make a
number of 64 bits; they and the power of ten are rounded on their own, and so is their product. -/
def overflows (whole fraction : List Char) (exponent : Int) : Bool :=
  let (n, uncounted) := leadingDigits 0 whole
  let (n, ignored) := leadingDigits n fraction
  let places := fraction.length - ignored.length
  match exponent + uncounted.length - places with
  | .negSucc _ => false
  | .ofNat e =>
    n ≠ 0 && (greatestPower < e ||
      Binary64.leastOverflow ≤ Binary64.nearest n * Binary64.nearest (Nat.pow 10 e))

/-- A run of digits and what follows it. -/
def readDigits (cs : List Char) : List Char × List Char :=
  (cs.takeWhile Char.isDigit, cs.dropWhile Char.isDigit)

/-- The digits after a decimal point; without a point there are none. -/
def readFraction : List Char → Option (List Char × List Char)
  | '.' :: cs =>
    match readDigits cs with
    | ([], _) => none
    | (ds, rest) => some (ds, rest)
  | cs => some ([], cs)

/-- The digits of an exponent with their sign. -/
def readSignedDigits : List Char → Option (Int × List Char)
  | '+' :: cs => unsigned cs 1
  | '-' :: cs => unsigned cs (-1)
  | cs => unsigned cs 1
where
  /-- The digits of an exponent, times a sign. -/
  unsigned (cs : List Char) (sign : Int) : Option (Int × List Char) :=
    match readDigits cs with
    | ([], _) => none
    | (ds, rest) => some (sign * Nat.ofDigitChars 10 ds 0, rest)

/-- The exponent after its letter; without one there is none. -/
def readExponent : List Char → Option (Option Int × List Char)
  | 'e' :: cs => (readSignedDigits cs).map fun p => (some p.1, p.2)
  | 'E' :: cs => (readSignedDigits cs).map fun p => (some p.1, p.2)
  | cs => some (none, cs)

/-- The digits before a fraction: a single zero, or digits that begin with another one. -/
def readWhole (cs : List Char) : Option (List Char × List Char) :=
  match cs with
  | '0' :: cs => some (['0'], cs)
  | cs =>
    match readDigits cs with
    | ([], _) => none
    | (ds, rest) => some (ds, rest)

/-- The number with these parts. -/
def numberOf (negative : Bool) (whole fraction : List Char) (exponent : Option Int) : Document :=
  if overflows whole fraction (exponent.getD 0) then .broken
  else if fraction = [] ∧ exponent = none then
    let n := Nat.ofDigitChars 10 whole 0
    if negative then (if n = 0 then .real else .integer (-n)) else .integer n
  else .real

/-- A number after its sign. -/
def readUnsigned (negative : Bool) (cs : List Char) : Option (Document × List Char) := do
  let (whole, cs) ← readWhole cs
  let (fraction, cs) ← readFraction cs
  let (exponent, cs) ← readExponent cs
  pure (numberOf negative whole fraction exponent, cs)

/-- A number and what follows it. -/
def readNumber : List Char → Option (Document × List Char)
  | '-' :: cs => readUnsigned true cs
  | cs => readUnsigned false cs

/-! ### Values -/

/-- A member whose name is a text. -/
def named? (m : Option String × Document) : Option (String × Document) :=
  m.1.map fun name => (name, m.2)

/-- A table with these members; one name that is no text breaks it. -/
def tableOf (members : List (Option String × Document)) : Document :=
  match members.mapM named? with
  | some ms => .table ms
  | none => .broken

mutual

/-- A value and what follows it. -/
def readValue : Nat → List Char → Option (Document × List Char)
  | 0, _ => none
  | fuel + 1, cs =>
    match skipBlanks cs with
    | '"' :: cs => do
      let (s, rest) ← readText cs
      pure (match s with
        | some s => .text s
        | none => .broken, rest)
    | '[' :: cs =>
      match skipBlanks cs with
      | ']' :: rest => some (.list [], rest)
      | cs => do
        let (items, rest) ← readItems fuel cs
        pure (.list items, rest)
    | '{' :: cs =>
      match skipBlanks cs with
      | '}' :: rest => some (.table [], rest)
      | cs => do
        let (members, rest) ← readMembers fuel cs
        pure (tableOf members, rest)
    | 'n' :: 'u' :: 'l' :: 'l' :: rest => some (.null, rest)
    | 't' :: 'r' :: 'u' :: 'e' :: rest => some (.bool true, rest)
    | 'f' :: 'a' :: 'l' :: 's' :: 'e' :: rest => some (.bool false, rest)
    | cs => readNumber cs

/-- The items of a list, of which there is at least one, and what follows its bracket. -/
def readItems : Nat → List Char → Option (List Document × List Char)
  | 0, _ => none
  | fuel + 1, cs => do
    let (item, cs) ← readValue fuel cs
    match skipBlanks cs with
    | ',' :: cs => do
      let (items, rest) ← readItems fuel cs
      pure (item :: items, rest)
    | ']' :: rest => pure ([item], rest)
    | _ => none

/-- The members of a table, of which there is at least one, and what follows its brace. -/
def readMembers : Nat → List Char → Option (List (Option String × Document) × List Char)
  | 0, _ => none
  | fuel + 1, cs =>
    match skipBlanks cs with
    | '"' :: cs => do
      let (name, cs) ← readText cs
      match skipBlanks cs with
      | ':' :: cs => do
        let (value, cs) ← readValue fuel cs
        match skipBlanks cs with
        | ',' :: cs => do
          let (members, rest) ← readMembers fuel cs
          pure ((name, value) :: members, rest)
        | '}' :: rest => pure ([(name, value)], rest)
        | _ => none
      | _ => none
    | _ => none

end

/-- The document of the characters of a JSON text. A level of nesting takes a character and spends
two units of fuel. -/
def read (cs : List Char) : Option Document := do
  let (value, rest) ← readValue (2 * cs.length + 2) cs
  if skipBlanks rest = [] then some value else none

end Json

/-- The document that a JSON text denotes. -/
def ofJson? (s : String) : Option Document :=
  Json.read s.toList

end VolumeOverlay.Document
