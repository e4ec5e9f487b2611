/-
What the command line asks for.

There is one command, `connect`. It takes an address and the name of an endpoint, each as an option
or from a variable of the environment, a limit in seconds for the attempt to connect, and a switch
for more log lines. An option is given at most once, as `--name value` or `--name=value`; a value
that follows its option does not begin with a hyphen, unless it is nothing else. Switches of one
letter can be run together. The first fault that is met decides, and so does a call for help before
it.

Main definitions:

* `Request` — what is asked for;
* `Misuse`, `Misuse.message` — why a command line is refused;
* `CommandLine.parse` — reading a command line.
-/
import BridgeChannel.Channel.Config

set_option autoImplicit false

namespace BridgeChannel

/-- What a command line asks for. -/
inductive Request where
  | help
  | version
  | connect (config : Config) (isVerbose : Bool)
  deriving DecidableEq

/-- Why a command line is refused. -/
inductive Misuse where
  | noCommand
  | unexpected (argument : String)
  | missingValue (option : String)
  | badValue (option value : String)
  | repeated (option : String)
  | missing (option : String)
  deriving DecidableEq, Repr

namespace Misuse

def message : Misuse → String
  | noCommand => "a command is required"
  | unexpected argument => "unexpected argument '" ++ argument ++ "'"
  | missingValue option => "a value is required for '" ++ option ++ "'"
  | badValue option value => "invalid value '" ++ value ++ "' for '" ++ option ++ "'"
  | repeated option => "the argument '" ++ option ++ "' cannot be used multiple times"
  | missing option => "the argument '" ++ option ++ "' was not provided"

end Misuse

namespace CommandLine

/-- The number that a text of decimal digits gives; a plus sign may precede them. -/
def natural? (text : String) : Option Nat :=
  let digits := match text.toList with
    | '+' :: rest => rest
    | cs => cs
  if digits ≠ [] ∧ digits.all Char.isDigit then
    some (digits.foldl (fun n c => 10 * n + (c.toNat - '0'.toNat)) 0)
  else none

/-- A number of seconds, which fits into 64 bits. -/
def seconds? (text : String) : Option UInt64 :=
  match natural? text with
  | some n => if n < UInt64.size then some (UInt64.ofNat n) else none
  | none => none

/-- The options of `connect` that were given. -/
structure Given where
  address : Option String := none
  endpoint : Option String := none
  seconds : Option UInt64 := none
  isVerbose : Bool := false
  deriving DecidableEq, Repr

/-- An option that takes a value. -/
inductive Key where
  | address
  | endpoint
  | seconds
  deriving DecidableEq, Repr

namespace Key

def name : Key → String
  | address => "--url"
  | endpoint => "--endpoint-id"
  | seconds => "--connect-timeout-secs"

def ofName? (name : String) : Option Key :=
  [address, endpoint, seconds].find? fun k => k.name == name

end Key

namespace Given

/-- Takes the value of an option. -/
def set (key : Key) (value : String) (g : Given) : Except Misuse Given :=
  match key with
  | .address => if g.address.isSome then .error (.repeated key.name)
    else .ok { g with address := some value }
  | .endpoint => if g.endpoint.isSome then .error (.repeated key.name)
    else .ok { g with endpoint := some value }
  | .seconds =>
    match seconds? value with
    | none => .error (.badValue key.name value)
    | some n => if g.seconds.isSome then .error (.repeated key.name)
      else .ok { g with seconds := some n }

/-- Turns the switch for more log lines on. -/
def verbose (g : Given) : Except Misuse Given :=
  if g.isVerbose then .error (.repeated "--verbose") else .ok { g with isVerbose := true }

end Given

/-- The name and the value of an argument such as `--name=value`. -/
def splitAtEquals (argument : String) : String × Option String :=
  let cs := argument.toList
  let name := String.ofList (cs.takeWhile (· ≠ '='))
  match cs.dropWhile (· ≠ '=') with
  | [] => (name, none)
  | _ :: value => (name, some (String.ofList value))

/-- Whether an argument can be the value of the option before it. -/
def isValue (argument : String) : Bool := argument = "-" || !argument.startsWith "-"

/-- Takes switches of one letter; the answer is `none` if they call for help. -/
def switches (argument : String) : List Char → Given → Except Misuse (Option Given)
  | [], g => return g
  | 'h' :: _, _ => return none
  | 'v' :: rest, g => do switches argument rest (← g.verbose)
  | _ :: _, _ => throw (.unexpected argument)

/-- Takes the arguments of `connect`; the answer is `none` if they call for help. -/
def options : List String → Given → Except Misuse (Option Given)
  | [], g | ["--"], g => return g
  | "--" :: extra :: _, _ => throw (.unexpected extra)
  | argument :: rest, g =>
    let (name, attached) := splitAtEquals argument
    match Key.ofName? name with
    | some key =>
      match attached, rest with
      | some value, rest => do options rest (← g.set key value)
      | none, value :: rest =>
        if isValue value then do options rest (← g.set key value) else throw (.missingValue name)
      | none, [] => throw (.missingValue name)
    | none =>
      if argument = "--help" then return none
      else if argument = "--verbose" then do options rest (← g.verbose)
      else
        match argument.toList with
        | '-' :: c :: cs => do
          match ← switches argument (c :: cs) g with
          | some g => options rest g
          | none => return none
        | _ => throw (.unexpected argument)

/-- The variable of the environment that may hold the address. -/
def addressVariable : String := "COLIBRI_WS_URL"

/-- The variable of the environment that may hold the name of the endpoint. -/
def endpointVariable : String := "COLIBRI_ENDPOINT_ID"

/-- What `connect` is asked for, with the environment in the place of options that are absent. -/
def complete (environment : String → Option String) (g : Given) : Except Misuse Request :=
  let address := g.address.or (environment addressVariable)
  let endpoint := g.endpoint.or (environment endpointVariable)
  match address, endpoint with
  | none, _ => throw (.missing Key.address.name)
  | _, none => throw (.missing Key.endpoint.name)
  | some address, some endpoint =>
    let connectTimeout := (g.seconds.map Duration.ofSeconds).getD defaultConnectTimeout
    return .connect { address, endpoint, connectTimeout } g.isVerbose

/-- Reads a command line. -/
def parse (environment : String → Option String) : List String → Except Misuse Request
  | [] => throw .noCommand
  | "connect" :: rest => do
    match ← options rest {} with
    | some g => complete environment g
    | none => return .help
  | ["help"] | ["help", "connect"] | ["help", "help"] | "--help" :: _ => return .help
  | "--version" :: _ => return .version
  | argument :: _ =>
    match argument.toList with
    | '-' :: 'h' :: _ => return .help
    | '-' :: 'V' :: _ => return .version
    | _ => throw (.unexpected argument)

end CommandLine

end BridgeChannel
