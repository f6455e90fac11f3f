import QueryGateway.Number.Decimal
import QueryGateway.Text.Split

/-!
Arguments of the command line.

A command is followed by its settings.  The value of a setting stands after an equals
sign or in the next argument.  In the latter case it is looked at only when the setting
is settled, at the next one or at the end; an argument that means nothing ends the
reading before that.
-/

namespace QueryGateway.CommandLine

/-- A command with its settings. -/
inductive Command where
  | serve (config : String) (port : Option Nat)
  | check (config : String)
  | routes (config : String)
deriving DecidableEq, Repr

/-- Why no command is run: an error, or a wish for help or for the version. -/
inductive Usage where
  | help
  | version
  | missingCommand
  | invalidCommand
  | unknownArgument
  | missingValue
  | unneededValue
  | invalidValue
  | repeatedSetting
deriving DecidableEq, Repr

/-- A setting that takes a value. -/
inductive Setting where
  | config
  | port
deriving DecidableEq, Repr

/-- The form of an argument. -/
inductive Form where
  | separator
  | long (name : String) (value : Option String)
  | short (letter : Char)
  | word (text : String)
deriving DecidableEq, Repr

/-- The form of an argument. -/
def formOf (argument : String) : Form :=
  match argument.toList with
  | ['-', '-'] => .separator
  | '-' :: '-' :: rest =>
    match Text.breakOn? ['='] rest with
    | some (name, value) => .long (String.ofList name) (some (String.ofList value))
    | none => .long (String.ofList rest) none
  | '-' :: letter :: _ => .short letter
  | _ => .word argument

/-- What is known so far.  `pending` is a setting that is not settled, with its value
if it has come. -/
structure Reading where
  config : Option String := none
  port : Option Nat := none
  pending : Option (Setting × Option String) := none
deriving DecidableEq, Repr

/-- The port that a text stands for: an integer, signed or not, from 0 to 65535. -/
def port? (s : String) : Option Nat :=
  let (negative, digits) := match s.toList with
    | '+' :: rest => (false, rest)
    | '-' :: rest => (true, rest)
    | chars => (false, chars)
  let port := Decimal.digitsValue digits
  if digits.isEmpty || !digits.all Char.isDigit || (negative && port != 0) then none
  else if port < 65536 then some port
  else none

namespace Reading

/-- Settles the pending setting. -/
def settle (r : Reading) : Except Usage Reading :=
  match r.pending with
  | none => .ok r
  | some (_, none) => .error .missingValue
  | some (.config, some value) =>
    if r.config.isSome then .error .repeatedSetting
    else if value.isEmpty then .error .missingValue
    else .ok { r with config := some value, pending := none }
  | some (.port, some value) =>
    if r.port.isSome then .error .repeatedSetting
    else
      match port? value with
      | some port => .ok { r with port := some port, pending := none }
      | none => .error .invalidValue

/-- Begins a setting; one with its value attached is settled at once. -/
def begin (setting : Setting) (value : Option String) (r : Reading) : Except Usage Reading := do
  let r ← r.settle
  let r := { r with pending := some (setting, value) }
  if value.isSome then r.settle else return r

end Reading

/-- The setting of a name, among those that a command knows. -/
def setting? (known : List Setting) (name : String) : Option Setting :=
  known.find? fun
    | .config => name == "config"
    | .port => name == "port"

/-- Reads the settings of a command. -/
def readSettings (known : List Setting) : Reading → List String → Except Usage Reading
  | r, [] => r.settle
  | r, argument :: rest =>
    match formOf argument with
    | .separator => if rest.isEmpty then r.settle else .error .unknownArgument
    | .long "help" value =>
      if value.isSome then .error .unneededValue else r.settle.bind fun _ => .error .help
    | .long name value =>
      match setting? known name with
      | none => .error .unknownArgument
      | some setting => (r.begin setting value).bind fun r => readSettings known r rest
    | .short letter =>
      if letter = 'h' then r.settle.bind fun _ => .error .help else .error .unknownArgument
    | .word text =>
      match r.pending with
      | some (setting, none) =>
        readSettings known { r with pending := some (setting, some text) } rest
      | _ => .error .unknownArgument

/-- The file that is read when no other is named. -/
def defaultConfig : String := "./aeroquery.json"

/-- The names of the commands. -/
def commandNames : List String := ["serve", "check", "routes", "help"]

/-- Reads the names of commands after the command `help`.  Only one can follow. -/
def readHelp : List String → Usage
  | [] => .help
  | [name] => if commandNames.contains name then .help else .invalidCommand
  | _ => .invalidCommand

/-- Reads the arguments after the name of the program. -/
def read : List String → Except Usage Command
  | [] => .error .missingCommand
  | argument :: rest =>
    match formOf argument with
    | .separator =>
      match rest with
      | [] => .error .missingCommand
      | name :: _ =>
        .error (if commandNames.contains name then .unknownArgument else .invalidCommand)
    | .long "help" value => .error (if value.isSome then .unneededValue else .help)
    | .long "version" value => .error (if value.isSome then .unneededValue else .version)
    | .long _ _ => .error .unknownArgument
    | .short 'h' => .error .help
    | .short 'V' => .error .version
    | .short _ => .error .unknownArgument
    | .word "serve" =>
      (readSettings [.config, .port] {} rest).map fun r =>
        .serve (r.config.getD defaultConfig) r.port
    | .word "check" =>
      (readSettings [.config] {} rest).map fun r => .check (r.config.getD defaultConfig)
    | .word "routes" =>
      (readSettings [.config] {} rest).map fun r => .routes (r.config.getD defaultConfig)
    | .word "help" => .error (readHelp rest)
    | .word _ => .error .invalidCommand

end QueryGateway.CommandLine
