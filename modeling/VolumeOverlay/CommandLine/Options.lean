import VolumeOverlay.Text.Cut
import VolumeOverlay.Text.Decimal

/-!
# Options and operands

The words of a command line are options, values of options and operands. A long option is written
`--name`, `--name value` or `--name=value`, a short one `-n`, `-n value`, `-nvalue` or `-n=value`,
and short options may share a word. After `--` every word is an operand. A value that is a word of
its own does not begin with `-`, unless it is exactly `-`.

Words are read from left to right and the first one that is out of place decides the answer.

## Main definitions

* `Word.ofString s`: the form of a word
* `OptionRule`: an option and what it takes
* `UsageFault`, `Stop`: why reading ends without a command to run
* `Reading`: what has been read so far
* `Reading.readCommand`: reads options up to the name of a command
* `Reading.readOperands`: reads options and operands to the end
-/

namespace VolumeOverlay.CommandLine

/-! ### Words -/

/-- The form of a word. -/
inductive Word where
  | separator
  | long (name : String) (value : Option String)
  | short (letters : List Char)
  | plain (text : String)
  deriving DecidableEq

/-- The form of a word by its first characters. -/
def Word.ofString (s : String) : Word :=
  match s.toList with
  | ['-', '-'] => .separator
  | '-' :: '-' :: cs =>
    match Text.cutChars '=' cs with
    | some (name, value) => .long (.ofList name) (some (.ofList value))
    | none => .long (.ofList cs) none
  | '-' :: c :: cs => .short (c :: cs)
  | _ => .plain s

/-! ### Rules -/

/-- What an option takes: nothing, one text, one integer, or a text each time that it is given. The
last two stand for the help text and for the version of the program. -/
inductive OptionKind where
  | flag
  | text
  | integer
  | texts
  | help
  | version
  deriving DecidableEq

/-- An option with its names. -/
structure OptionRule where
  long : String
  short : Option Char := none
  kind : OptionKind
  deriving DecidableEq

/-- Whether an option is followed by a value. -/
def OptionRule.takesValue (rule : OptionRule) : Bool :=
  match rule.kind with
  | .text | .integer | .texts => true
  | .flag | .help | .version => false

/-! ### Faults -/

/-- How words fail to be a command. -/
inductive UsageFault where
  | unknownOption (name : String)
  | repeatedOption (name : String)
  | missingOption (name : String)
  | missingValue (name : String)
  | unexpectedValue (name : String)
  | malformedInteger (name value : String)
  | unknownCommand (name : String)
  | missingCommand
  | unexpectedOperand (text : String)
  | missingOperand
  deriving DecidableEq

/-- The text of a fault. -/
def UsageFault.message : UsageFault → String
  | .unknownOption name => s!"unexpected option '{name}'"
  | .repeatedOption name => s!"option '--{name}' cannot be used more than once"
  | .missingOption name => s!"option '--{name}' is required"
  | .missingValue name => s!"option '--{name}' requires a value"
  | .unexpectedValue name => s!"option '--{name}' takes no value"
  | .malformedInteger name value => s!"invalid value '{value}' for option '--{name}'"
  | .unknownCommand name => s!"unrecognized command '{name}'"
  | .missingCommand => "a command is required"
  | .unexpectedOperand text => s!"unexpected argument '{text}'"
  | .missingOperand => "a required argument is missing"

/-- Why reading ends without a command to run. -/
inductive Stop where
  | usage (fault : UsageFault)
  | help
  | version
  deriving DecidableEq

/-! ### Reading -/

/-- What has been read: options in order with their values, operands in order, and the option whose
value comes next. -/
structure Reading where
  options : List (String × String) := []
  operands : List String := []
  pending : Option OptionRule := none

namespace Reading

/-- Whether an option was given. -/
def has (r : Reading) (name : String) : Bool :=
  r.options.any fun o => o.1 = name

/-- The value of an option that is given at most once. -/
def value? (r : Reading) (name : String) : Option String :=
  r.options.lookup name

/-- The values of an option that may be given several times. -/
def values (r : Reading) (name : String) : List String :=
  (r.options.filter fun o => o.1 = name).map (·.2)

/-- The integer that an option gives, which is zero without it. -/
def integer (r : Reading) (name : String) : Int64 :=
  ((r.value? name).bind Text.Decimal.int64?).getD 0

/-- The text that an option gives, which is empty without it. -/
def text (r : Reading) (name : String) : String :=
  (r.value? name).getD ""

/-- Records an option with its value; a flag has the empty value. -/
def record (r : Reading) (rule : OptionRule) (value : String) : Except Stop Reading :=
  let recorded := { r with options := r.options ++ [(rule.long, value)], pending := none }
  match rule.kind with
  | .help => .error .help
  | .version => .error .version
  | .texts => .ok recorded
  | .flag | .text =>
    if r.has rule.long then .error (.usage (.repeatedOption rule.long)) else .ok recorded
  | .integer =>
    if r.has rule.long then .error (.usage (.repeatedOption rule.long))
    else if (Text.Decimal.int64? value).isNone then
      .error (.usage (.malformedInteger rule.long value))
    else .ok recorded

/-- Reads a long option. -/
def long (rules : List OptionRule) (r : Reading) (name : String) (value : Option String) :
    Except Stop Reading :=
  match rules.find? (·.long = name), value with
  | none, _ => .error (.usage (.unknownOption ("--" ++ name)))
  | some rule, some value =>
    if rule.takesValue then r.record rule value else .error (.usage (.unexpectedValue name))
  | some rule, none =>
    if rule.takesValue then .ok { r with pending := some rule } else r.record rule ""

/-- Reads the short options of a word. One that takes a value has the rest of the word for it. -/
def short (rules : List OptionRule) (r : Reading) : List Char → Except Stop Reading
  | [] => .ok r
  | c :: cs =>
    match rules.find? (·.short = some c) with
    | none => .error (.usage (.unknownOption (.ofList ['-', c])))
    | some rule =>
      if rule.takesValue then
        match cs with
        | [] => .ok { r with pending := some rule }
        -- A sign between option and value belongs to neither.
        | '=' :: value => r.record rule (.ofList value)
        | value => r.record rule (.ofList value)
      else do
        let r ← r.record rule ""
        short rules r cs

/-- Reads a word that is an option or the value of one. Any other word is left to the caller. -/
def takeOption (rules : List OptionRule) (r : Reading) (word : Word) :
    Except Stop (Option Reading) :=
  match r.pending, word with
  | some rule, .plain value => some <$> r.record rule value
  | some rule, _ => .error (.usage (.missingValue rule.long))
  | none, .long name value => some <$> r.long rules name value
  | none, .short letters => some <$> r.short rules letters
  | none, .plain _ => .ok none
  | none, .separator => .ok none

/-- Checks at the end of the words that no option wants a value. -/
def finish (r : Reading) : Except Stop Unit :=
  match r.pending with
  | some rule => .error (.usage (.missingValue rule.long))
  | none => .ok ()

/-- Reads options up to the name of a command. The words after the name are left. -/
def readCommand (rules : List OptionRule) (r : Reading) :
    List String → Except Stop (Reading × String × List String)
  | [] => do
    r.finish
    throw (.usage .missingCommand)
  | s :: rest => do
    match ← r.takeOption rules (.ofString s) with
    | some r => readCommand rules r rest
    | none =>
      if Word.ofString s = .separator then throw (.usage .missingCommand)
      else return (r, s, rest)

/-- Appends an operand, if there is room for it. -/
def addOperand (most : Option Nat) (r : Reading) (text : String) : Except Stop Reading :=
  match most with
  | some n =>
    if r.operands.length < n then .ok { r with operands := r.operands ++ [text] }
    else .error (.usage (.unexpectedOperand text))
  | none => .ok { r with operands := r.operands ++ [text] }

/-- Reads options and operands, of which there are at most `most`, to the end. -/
def readOperands (rules : List OptionRule) (most : Option Nat) (r : Reading) :
    List String → Except Stop Reading
  | [] => do
    r.finish
    return r
  | s :: rest => do
    match ← r.takeOption rules (.ofString s) with
    | some r => readOperands rules most r rest
    | none =>
      -- After the separator even a word that looks like an option is an operand.
      if Word.ofString s = .separator then rest.foldlM (addOperand most) r
      else
        let r ← r.addOperand most s
        readOperands rules most r rest

end Reading

end VolumeOverlay.CommandLine
