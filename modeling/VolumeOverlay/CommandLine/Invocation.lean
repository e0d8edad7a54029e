import VolumeOverlay.CommandLine.Options
import VolumeOverlay.Volume

/-!
# Invocations

A command line names the configuration, settings that override it, and one action. Actions fall in
two groups: those of the group `store` maintain the overlay store, those of the group `volume` work
on volumes. The options of the program stand before the group, those of an action after its name.

## Main definitions

* `StoreAction`, `VolumeAction`, `Action`: what can be asked for
* `Invocation`: an action with the options of the program
* `Invocation.ofArguments`: the invocation that the words of a command line are
-/

namespace VolumeOverlay.CommandLine

/-! ### Actions -/

/-- An action on the overlay store. -/
inductive StoreAction where
  | erase (category : Option String)
  | ids
  | version
  deriving DecidableEq

/-- An action on volumes. Filter terms and labels are still as they were written. -/
inductive VolumeAction where
  | list (all : Bool) (terms : List String)
  | inspect (id : String)
  | offer (id : String) (schedulers : List String)
  | revoke (id : String) (schedulers : List String)
  | label (id : String) (labels : List String)
  | unlabel (id : String) (keys : List String)
  | create (request : CreateRequest) (labels : List String)
  | remove (id : String)
  deriving DecidableEq

/-- An action of either group. -/
inductive Action where
  | store (action : StoreAction)
  | volume (action : VolumeAction)
  deriving DecidableEq

/-- An action with the options of the program. -/
structure Invocation where
  config : Option String
  backend : Option String
  endpoint : Option String
  root : Option String
  logLevel : Option String
  json : Bool
  action : Action
  deriving DecidableEq

/-! ### Rules -/

/-- The option that asks for help. -/
def helpRule : OptionRule := ⟨"help", some 'h', .help⟩

/-- The options of the program. -/
def programRules : List OptionRule :=
  [⟨"config", some 'c', .text⟩, ⟨"backend", none, .text⟩, ⟨"endpoint", none, .text⟩,
    ⟨"root", none, .text⟩, ⟨"log-level", none, .text⟩, ⟨"json", none, .flag⟩,
    ⟨"version", some 'V', .version⟩, helpRule]

/-- The options of `erase`. -/
def eraseRules : List OptionRule :=
  [⟨"category", none, .text⟩, helpRule]

/-- The options of `list`. -/
def listRules : List OptionRule :=
  [⟨"all", some 'a', .flag⟩, ⟨"filter", some 'f', .texts⟩, helpRule]

/-- The options of `create`. -/
def createRules : List OptionRule :=
  [⟨"service", some 's', .text⟩, ⟨"size", none, .integer⟩, ⟨"iops", none, .integer⟩,
    ⟨"type", none, .text⟩, ⟨"availability-zone", none, .text⟩, ⟨"scheduler", none, .texts⟩,
    ⟨"label", none, .texts⟩, helpRule]

/-- The names of the groups and of their actions. -/
def groups : List (String × List String) :=
  [("store", ["erase", "ids", "version"]),
    ("volume", ["list", "inspect", "offer", "revoke", "label", "unlabel", "create", "remove"])]

/-- The command that explains the others. -/
def helpName : String := "help"

/-- The answer to a request for help on the words after `help`, which lead from group to action. Where
there are names to choose from, `help` is one more; below it and below an action there are none. -/
def helpOn (names : List String) (inner : String → List String) : List String → Stop
  | [] => .help
  | name :: rest =>
    if names.contains name ∨ (name = helpName ∧ names ≠ []) then
      helpOn (inner name) (fun _ => []) rest
    else .usage (.unknownCommand name)

/-! ### Reading actions -/

/-- Reads an action that takes no operands and has no options of its own. -/
def bare {α : Type} (action : α) (words : List String) : Except Stop α := do
  let _ ← Reading.readOperands [helpRule] (some 0) {} words
  return action

/-- Reads an action on one volume. -/
def withId {α : Type} (action : String → α) (words : List String) : Except Stop α := do
  let r ← Reading.readOperands [helpRule] (some 1) {} words
  match r.operands with
  | [id] => return action id
  | _ => throw (.usage .missingOperand)

/-- Reads an action on one volume with further operands, at least one. -/
def withIdAndTexts {α : Type} (action : String → List String → α) (words : List String) :
    Except Stop α := do
  let r ← Reading.readOperands [helpRule] none {} words
  match r.operands with
  | id :: text :: texts => return action id (text :: texts)
  | _ => throw (.usage .missingOperand)

/-- Reads the operands and options of `create`. -/
def createAction (words : List String) : Except Stop VolumeAction := do
  let r ← Reading.readOperands createRules (some 1) {} words
  match r.operands, r.value? "service" with
  | [name], some serviceName =>
    let request : CreateRequest := {
      serviceName
      name
      volumeType := r.text "type"
      size := r.integer "size"
      iops := r.integer "iops"
      availabilityZone := r.text "availability-zone"
      schedulers := r.values "scheduler" }
    return .create request (r.values "label")
  | [_], none => throw (.usage (.missingOption "service"))
  | _, _ => throw (.usage .missingOperand)

/-- The action on the overlay store that some words are. -/
def StoreAction.ofArguments (words : List String) : Except Stop StoreAction := do
  let (_, name, rest) ← Reading.readCommand [helpRule] {} words
  match name with
  | "erase" =>
    let r ← Reading.readOperands eraseRules (some 0) {} rest
    return .erase (r.value? "category")
  | "ids" => bare .ids rest
  | "version" => bare .version rest
  | _ =>
    if name = helpName then throw (helpOn ((groups.lookup "store").getD []) (fun _ => []) rest)
    else throw (.usage (.unknownCommand name))

/-- The action on volumes that some words are. -/
def VolumeAction.ofArguments (words : List String) : Except Stop VolumeAction := do
  let (_, name, rest) ← Reading.readCommand [helpRule] {} words
  match name with
  | "list" =>
    let r ← Reading.readOperands listRules (some 0) {} rest
    return .list (r.has "all") (r.values "filter")
  | "inspect" => withId .inspect rest
  | "offer" => withIdAndTexts .offer rest
  | "revoke" => withIdAndTexts .revoke rest
  | "label" => withIdAndTexts .label rest
  | "unlabel" => withIdAndTexts .unlabel rest
  | "create" => createAction rest
  | "remove" => withId .remove rest
  | _ =>
    if name = helpName then throw (helpOn ((groups.lookup "volume").getD []) (fun _ => []) rest)
    else throw (.usage (.unknownCommand name))

/-- The action that the words from the name of its group on are. -/
def Action.ofArguments (group : String) (words : List String) : Except Stop Action :=
  match group with
  | "store" => .store <$> StoreAction.ofArguments words
  | "volume" => .volume <$> VolumeAction.ofArguments words
  | _ =>
    if group = helpName then
      .error (helpOn (groups.map (·.1)) (fun g => (groups.lookup g).getD []) words)
    else .error (.usage (.unknownCommand group))

/-- The invocation that the words of a command line are. -/
def Invocation.ofArguments (words : List String) : Except Stop Invocation := do
  let (r, group, rest) ← Reading.readCommand programRules {} words
  return {
    config := r.value? "config"
    backend := r.value? "backend"
    endpoint := r.value? "endpoint"
    root := r.value? "root"
    logLevel := r.value? "log-level"
    json := r.has "json"
    action := ← Action.ofArguments group rest }

end VolumeOverlay.CommandLine
