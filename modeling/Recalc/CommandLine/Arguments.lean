import Recalc.CommandLine.Failure
import Recalc.Text.Similarity

/-!
# Arguments

A command takes operands, each at its place, and switches, each by its name. A switch may have a
value, in the same argument after an equals sign or in the next one; two dashes alone end the
switches.
-/

namespace Recalc.CommandLine

/-- What kind of path is asked for. -/
inductive PathKind where
  | any
  | file
  | directory
  deriving DecidableEq, Repr

def PathKind.text : PathKind → String
  | .any => "Path"
  | .file => "File"
  | .directory => "Directory"

/-- What a value has to be. -/
inductive Demand where
  | text
  | integer
  | oneOf (choices : List String)
  | path (kind : PathKind) (present : Bool)

structure Operand where
  name : String
  demand : Demand

structure Switch where
  name : String
  /-- What the value has to be; without one the switch takes no value. -/
  demand : Option Demand
  /-- How help calls the value. -/
  valueName : String
  /-- What help says, line by line. -/
  help : List String

/-- What is wrong with a value. -/
inductive ValueFault where
  | notOneOf (value : String) (choices : List String)
  | notInteger (value : String)
  | notThere (kind : PathKind) (value : String)
  | isFile (kind : PathKind) (value : String)
  | isDirectory (kind : PathKind) (value : String)
  | notReadable (kind : PathKind) (value : String)

def ValueFault.text : ValueFault → String
  | .notOneOf value choices =>
    Text.quoted value ++ " is not one of " ++ ", ".intercalate (choices.map Text.quoted) ++ "."
  | .notInteger value => Text.quoted value ++ " is not a valid integer."
  | .notThere kind value => kind.text ++ " " ++ Text.quoted value ++ " does not exist."
  | .isFile kind value => kind.text ++ " " ++ Text.quoted value ++ " is a file."
  | .isDirectory kind value => kind.text ++ " " ++ Text.quoted value ++ " is a directory."
  | .notReadable kind value => kind.text ++ " " ++ Text.quoted value ++ " is not readable."

/-- What is wrong with the arguments. -/
inductive Misuse where
  | missingCommand
  | unknownCommand (name : String)
  | unknownSwitch (name : String) (similar : List String)
  | switchNeedsValue (name : String)
  | switchTakesNoValue (name : String)
  | missingOperand (name : String)
  | badValue (name : String) (fault : ValueFault)
  | extraArguments (args : List String)

namespace Misuse

def text : Misuse → String
  | .missingCommand => "Missing command."
  | .unknownCommand name => "No such command " ++ Text.quoted name ++ "."
  | .unknownSwitch name similar =>
    "No such option: " ++ name ++
      match similar with
      | [] => ""
      | [one] => " Did you mean " ++ one ++ "?"
      | several => " (Possible options: " ++ ", ".intercalate (several.mergeSort (· ≤ ·)) ++ ")"
  | .switchNeedsValue name => "Option " ++ Text.quoted name ++ " requires an argument."
  | .switchTakesNoValue name => "Option " ++ Text.quoted name ++ " does not take a value."
  | .missingOperand name => "Missing argument '" ++ name ++ "'."
  | .badValue name fault => "Invalid value for '" ++ name ++ "': " ++ fault.text
  | .extraArguments args =>
    "Got unexpected extra argument" ++ (if args.length = 1 then "" else "s") ++ " (" ++
      " ".intercalate args ++ ")"

/-- Whether the usage of the command is shown, too. -/
def showsUsage : Misuse → Bool
  | .switchNeedsValue _ | .switchTakesNoValue _ => false
  | _ => true

end Misuse

/-! ### Taking arguments apart -/

/-- The switches in the order of the arguments, with their values, and the other arguments. -/
structure Parts where
  switches : List (String × Option String)
  others : List String

namespace Parts

def addSwitch (name : String) (value : Option String) (p : Parts) : Parts :=
  { p with switches := (name, value) :: p.switches }

def addOther (arg : String) (p : Parts) : Parts :=
  { p with others := arg :: p.others }

end Parts

/-- A switch with its value, if it has one in the same argument. -/
def splitSwitch (arg : String) : String × Option String :=
  let cs := arg.toList
  let name := cs.takeWhile (· ≠ '=')
  match cs.drop name.length with
  | _ :: value => (String.ofList name, some (String.ofList value))
  | [] => (arg, none)

/-- The misuse of a switch that there is not. With a single dash it is known by one letter. -/
def unknownSwitch (switches : List Switch) (name : String) : Misuse :=
  match name.toList with
  | '-' :: c :: _ =>
    if c = '-' then .unknownSwitch name (Text.similar name (switches.map Switch.name))
    else .unknownSwitch (String.ofList ['-', c]) []
  | _ => .unknownSwitch name []

/-- Takes arguments apart. Switches may come after other arguments where they are `mixed`. -/
def takeApart (switches : List Switch) (mixed : Bool) : List String → Except Misuse Parts
  | [] => .ok ⟨[], []⟩
  | arg :: rest =>
    if arg = "--" then .ok ⟨[], rest⟩
    else if arg.toList.head? = some '-' ∧ arg ≠ "-" then
      let (name, value) := splitSwitch arg
      match switches.find? (·.name = name) with
      | none => .error (unknownSwitch switches (if name = "-" then arg else name))
      | some s =>
        match s.demand, value with
        | some _, some v => (takeApart switches mixed rest).map (.addSwitch name (some v))
        | some _, none =>
          match rest with
          | v :: rest => (takeApart switches mixed rest).map (.addSwitch name (some v))
          | [] => .error (.switchNeedsValue name)
        | none, some _ => .error (.switchTakesNoValue name)
        | none, none => (takeApart switches mixed rest).map (.addSwitch name none)
    else if mixed then (takeApart switches mixed rest).map (.addOther arg)
    else .ok ⟨[], arg :: rest⟩

/-! ### Checking values -/

/-- Why a command does not start: the arguments are wrong, or a path cannot even be looked up. -/
inductive NoStart where
  | misuse (m : Misuse)
  | failure (f : Failure)

/-- Checks the path that a text writes. What cannot be reached is not there. -/
def checkPath (disk : Disk) (name value : String) (kind : PathKind) (present : Bool) :
    Except NoStart Unit :=
  let refuse (fault : ValueFault) : Except NoStart Unit := .error (.misuse (.badValue name fault))
  match disk.findText value with
  | .error fault =>
    if fault.isUnasked then .error (.failure (.disk ⟨fault, none⟩))
    else if present then refuse (.notThere kind value)
    else .ok ()
  | .ok n =>
    if n = .directory ∧ kind = .file then refuse (.isDirectory kind value)
    else if n ≠ .directory ∧ kind = .directory then refuse (.isFile kind value)
    else if !disk.isReadable (.ofText value) then refuse (.notReadable kind value)
    else .ok ()

/-- Checks the value of the switch or operand with a name. -/
def Demand.check (disk : Disk) (name value : String) : Demand → Except NoStart Unit
  | .text => .ok ()
  | .integer =>
    if (Number.parseInt? value).isSome then .ok ()
    else .error (.misuse (.badValue name (.notInteger value)))
  | .oneOf choices =>
    if value ∈ choices then .ok ()
    else .error (.misuse (.badValue name (.notOneOf value choices)))
  | .path kind present => checkPath disk name value kind present

/-- Checks operands against arguments, and returns the arguments that are left. -/
def checkOperands (disk : Disk) : List Operand → List String → Except NoStart (List String)
  | [], args => .ok args
  | o :: _, [] => .error (.misuse (.missingOperand o.name))
  | o :: os, arg :: args => do
    o.demand.check disk o.name arg
    checkOperands disk os args

namespace Parts

def has (p : Parts) (name : String) : Bool :=
  p.switches.any (·.1 = name)

/-- The values of a switch, in order. -/
def values (p : Parts) (name : String) : List String :=
  (p.switches.filter (·.1 = name)).filterMap Prod.snd

/-- The value of a switch; of several the last one counts. -/
def value? (p : Parts) (name : String) : Option String :=
  (p.values name).getLast?

def operand (p : Parts) (n : Nat) : String :=
  p.others[n]?.getD ""

/-- Checks the switches in the order in which they first came, then the operands. -/
def check (p : Parts) (disk : Disk) (switches : List Switch) (operands : List Operand) :
    Except NoStart Unit := do
  for name in (p.switches.map Prod.fst).eraseDups do
    if let some s := switches.find? (·.name = name) then
      if let (some d, some v) := (s.demand, p.value? name) then
        d.check disk name v
  let left ← checkOperands disk operands p.others
  if !left.isEmpty then throw (.misuse (.extraArguments left))

end Parts

end Recalc.CommandLine
