import DirectoryServer.Config
import DirectoryServer.Route.Handlers
import DirectoryServer.Text.Decimal

set_option autoImplicit false

namespace DirectoryServer

inductive BackendChoice where
  | ldif
  | debug
deriving DecidableEq, Repr

namespace BackendChoice

def ofName? : String → Option BackendChoice
  | "ldif" => some .ldif
  | "debug" => some .debug
  | _ => none

def backend : BackendChoice → Backend Store
  | .ldif => .ldif
  | .debug => .debug Store

end BackendChoice

structure CommandLine where
  backend : BackendChoice := .ldif
  namingContext : String := "dc=enterprise,dc=org"
  -- How many seconds an idle connection may send nothing.
  readTimeout : Option Nat := none
  writeTimeout : Option Nat := none
deriving DecidableEq, Repr

namespace CommandLine

inductive Fault where
  | unknownOption (name : String)
  | missingValue (name : String)
  | badValue (name value : String)
deriving DecidableEq, Repr

def Fault.message : Fault → String
  | .unknownOption name => s!"unexpected argument {name}"
  | .missingValue name => s!"a value is required for {name}"
  | .badValue name value => s!"invalid value {value} for {name}"

def maxSeconds : Nat := UInt64.size - 1

def seconds? (text : String) : Option Nat :=
  (Text.readMagnitude maxSeconds .tooLarge text.toList).toOption

def withOption (line : CommandLine) (name value : String) : Except Fault CommandLine :=
  let needed {α : Type} : Option α → Except Fault α
    | some known => .ok known
    | none => .error (.badValue name value)
  match name with
  | "--backend" =>
      (needed (BackendChoice.ofName? value)).map fun backend => { line with backend }
  | "--naming-context" => .ok { line with namingContext := value }
  | "--read-timeout-secs" =>
      (needed (seconds? value)).map fun limit => { line with readTimeout := some limit }
  | "--write-timeout-secs" =>
      (needed (seconds? value)).map fun limit => { line with writeTimeout := some limit }
  | _ => .error (.unknownOption name)

def splitArgument (argument : String) : String × Option String :=
  let (name, value) := argument.toList.span (· ≠ '=')
  (String.ofList name, value.tail?.map String.ofList)

def withArguments (line : CommandLine) : List String → Except Fault CommandLine
  | [] => .ok line
  | [argument] =>
      match splitArgument argument with
      | (name, some value) => line.withOption name value
      | (name, none) => .error (.missingValue name)
  | argument :: next :: rest =>
      match splitArgument argument with
      | (name, some value) =>
          match line.withOption name value with
          | .ok line => line.withArguments (next :: rest)
          | .error fault => .error fault
      | (name, none) =>
          match line.withOption name next with
          | .ok line => line.withArguments rest
          | .error fault => .error fault

def parse (arguments : List String) : Except Fault CommandLine :=
  withArguments {} arguments

def config (line : CommandLine) : Config Store where
  address := "stdio"
  routes := .default line.backend.backend { namingContext := line.namingContext }
  readTimeout := line.readTimeout.map (1000 * ·)
  writeTimeout := line.writeTimeout.map (1000 * ·)

end CommandLine

end DirectoryServer
