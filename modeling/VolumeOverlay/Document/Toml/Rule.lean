import VolumeOverlay.Document.Toml.Fault

/-!
# Rules of the grammar

A rule reads a beginning of the remaining characters. Where it fails, it says where it got and what is
wrong. A failure that is final rules out every other reading; after any other one the next alternative
is tried from where the first began.

## Main definitions

* `Failure`: where and why a rule failed
* `Rule`: a rule; rules in sequence are a `do` block
* `char`, `charIf`, `runIf`, `someIf`, `atEnd`: single characters, runs of them, the end
* `Rule.or`, `attempt`, `ahead`, `final`: alternatives, optional parts, looking ahead, committing
* `within`, `expecting`, `checked`: what a failure says
* `spaces`, `lineBreak`, `comment`, `lineRest`, `blankLines`: what stands between tokens
-/

namespace VolumeOverlay.Document.Toml

/-- Where a rule failed, and why: what was left to read, whether no other reading is possible, and
what is wrong. -/
structure Failure where
  rest : List Char
  isFinal : Bool := false
  fault : Fault := {}
  deriving DecidableEq

/-- A rule reads a beginning of the remaining characters. -/
abbrev Rule := StateT (List Char) (Except Failure)

/-! ### Characters -/

/-- Fails without a word. -/
def fail {α : Type} : Rule α :=
  fun cs => .error { rest := cs }

/-- Fails with a mistake. -/
def refuse {α : Type} (mistake : Mistake) : Rule α :=
  fun cs => .error { rest := cs, fault := { mistake := some mistake } }

/-- A character of some kind. -/
def charIf (p : Char → Bool) : Rule Char
  | [] => .error { rest := [] }
  | c :: cs => if p c then .ok (c, cs) else .error { rest := c :: cs }

/-- A given character. -/
def char (c : Char) : Rule Char :=
  charIf (· == c)

/-- Given characters in sequence. -/
def chars (expected : List Char) : Rule Unit := fun cs =>
  if expected.isPrefixOf cs then .ok ((), cs.drop expected.length) else .error { rest := cs }

/-- The longest run of characters of some kind. -/
def runIf (p : Char → Bool) : Rule (List Char) :=
  fun cs => .ok (cs.takeWhile p, cs.dropWhile p)

/-- The longest run of characters of some kind, at least one. -/
def someIf (p : Char → Bool) : Rule (List Char) := do
  let first ← charIf p
  return first :: (← runIf p)

/-- The end of the text. -/
def atEnd : Rule Unit
  | [] => .ok ((), [])
  | cs => .error { rest := cs }

/-- What is left to read. -/
def remaining : Rule (List Char) :=
  get

/-! ### Alternatives -/

/-- The first rule, or the second one where that fails. -/
def Rule.or {α : Type} (p q : Rule α) : Rule α := fun cs =>
  match p cs with
  | .ok r => .ok r
  | .error f => if f.isFinal then .error f else q cs

/-- What a rule reads, or nothing where it fails. -/
def attempt {α : Type} (p : Rule α) : Rule (Option α) :=
  (some <$> p).or (pure none)

/-- What a rule would read. Nothing counts as read, even if it fails. -/
def ahead {α : Type} (p : Rule α) : Rule α := fun cs =>
  match p cs with
  | .ok (a, _) => .ok (a, cs)
  | .error f => .error { f with rest := cs }

/-- A rule after which no other reading is possible. -/
def final {α : Type} (p : Rule α) : Rule α := fun cs =>
  match p cs with
  | .ok r => .ok r
  | .error f => .error { f with isFinal := true }

/-- A rule whose failures lie in a construct, unless they lie in one inside it. -/
def within {α : Type} (construct : Construct) (p : Rule α) : Rule α := fun cs =>
  match p cs with
  | .ok r => .ok r
  | .error f => .error { f with fault.construct := f.fault.construct <|> some construct }

/-- A rule whose failures say what was expected. -/
def expecting {α : Type} (expected : List String) (p : Rule α) : Rule α := fun cs =>
  match p cs with
  | .ok r => .ok r
  | .error f => .error { f with fault.expected := f.fault.expected ++ expected }

/-- A rule whose result is checked. A mistake counts for the whole of what was read. -/
def checked {α β : Type} (p : Rule α) (check : α → Except Mistake β) : Rule β := fun cs =>
  match p cs with
  | .ok (a, rest) =>
    match check a with
    | .ok b => .ok (b, rest)
    | .error mistake => .error { rest := cs, fault := { mistake := some mistake } }
  | .error f => .error f

/-- A rule, and the stretch that it read. -/
def located {α : Type} (p : Rule α) : Rule (α × Extent) := do
  let start ← remaining
  let a ← p
  return (a, { start, stop := ← remaining })

/-- What a rule reads again and again, as long as it succeeds, but at most `n` times. -/
def many {α : Type} (p : Rule α) : Nat → Rule (List α)
  | 0 => return []
  | n + 1 => do
    match ← attempt p with
    | some a => return a :: (← many p n)
    | none => return []

/-- What a rule reads between separators, as long as it succeeds, but at most `n` times. A separator
without anything after it is left. -/
def separated {α β : Type} (separator : Rule α) (p : Rule β) (n : Nat) : Rule (List β) := do
  match ← attempt p with
  | none => return []
  | some b => return b :: (← many (do let _ ← separator; p) n)

/-! ### Between tokens -/

/-- Spaces and tabs. -/
def isSpace (c : Char) : Bool :=
  c == ' ' || c == '\t'

/-- Characters that may stand in a comment or text: all but control characters other than the tab. -/
def isTextChar (c : Char) : Bool :=
  c == '\t' || (' ' ≤ c && c != '\x7f')

/-- Any spaces. -/
def spaces : Rule Unit := do
  let _ ← runIf isSpace

/-- A line break. -/
def lineBreak : Rule Unit :=
  Rule.or (do let _ ← char '\n') (do let _ ← char '\r'; let _ ← char '\n')

/-- A comment, up to the end of its line. -/
def comment : Rule Unit := do
  let _ ← char '#'
  let _ ← runIf isTextChar

/-- The end of a line. -/
def lineEnd : Rule Unit :=
  lineBreak.or atEnd

/-- What may follow on the line of a statement. -/
def lineRest : Rule Unit :=
  expecting ["newline", "`#`"] do
    spaces
    let _ ← attempt comment
    lineEnd

/-- Spaces, line breaks and comments, at most `n` of them in a row. A comment has to end with a line
break. -/
def blankLines : Nat → Rule Unit
  | 0 => fail
  | n + 1 => do
    spaces
    match ← remaining with
    | '#' :: _ => do comment; lineBreak; blankLines n
    | '\n' :: _ | '\r' :: _ => do lineBreak; blankLines n
    | _ => return ()

/-- All spaces, line breaks and comments that follow. -/
def blankSpace : Rule Unit := do
  blankLines ((← remaining).length + 1)

end VolumeOverlay.Document.Toml
