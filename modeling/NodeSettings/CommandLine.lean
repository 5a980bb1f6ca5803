/-
# NodeSettings.CommandLine -- the arguments of the program

The program takes one option, the path of its configuration file, and the usual
two that ask for help and for the version.  The option is spelled `--config path`
or `--config=path`; a single dash does as well.

The single-dash spelling is put right first (`normalize`), without looking at
what an argument is for beyond that the argument after a bare flag is its value,
and that everything after a lone `--` is left alone.  The arguments are then read
from left to right (`resolve`).  A bare flag and its value are judged only when
the next flag is met, or at the end; what no flag accounts for is refused at
once.
-/
import NodeSettings.Config
import NodeSettings.Source
import NodeSettings.Text.Ascii

namespace NodeSettings.CommandLine

open NodeSettings.Text

set_option autoImplicit false

/-- An argument: bytes, usually text. -/
abbrev Argument := Bytes

def terminator : Argument := Utf8.encode "--"
def flag : Argument := Utf8.encode "--config"
def shortFlag : Argument := Utf8.encode "-config"
def shortFlagEquals : Argument := Utf8.encode "-config="

/-! ## The single-dash spelling -/

/-- What the next argument is. -/
inductive Expected where
  | flag
  | value
  | operand
deriving DecidableEq, Repr

def expectedAfter (arg : Argument) : Expected :=
  if arg = terminator then .operand
  else if arg = flag ∨ arg = shortFlag then .value
  else .flag

/-- Put a second dash in front of the single-dash spelling.  An argument that
carries its path is only known by its text, so it has to be text. -/
def doubled (arg : Argument) : Argument :=
  if arg = shortFlag then flag
  else if shortFlagEquals.isPrefixOf arg ∧ (Utf8.decode? arg).isSome then ascii '-' :: arg
  else arg

def normalizeFrom : Expected → List Argument → List Argument
  | _, [] => []
  | .flag, arg :: rest => doubled arg :: normalizeFrom (expectedAfter arg) rest
  | .value, arg :: rest => arg :: normalizeFrom .flag rest
  | .operand, arg :: rest => arg :: normalizeFrom .operand rest

def normalize (args : List Argument) : List Argument :=
  normalizeFrom .flag args

/-! ## Reading arguments -/

inductive Rejection where
  | missingValue
  | repeatedFlag
  | unexpected (shown : String)
  | unneededValue (flag value : String)
deriving DecidableEq, Repr

def Rejection.text : Rejection → String
  | missingValue => "error: a value is required for '--config <CONFIG>' but none was supplied"
  | repeatedFlag => "error: the argument '--config <CONFIG>' cannot be used multiple times"
  | unexpected shown => s!"error: unexpected argument '{shown}' found"
  | unneededValue flag value =>
      s!"error: unexpected value '{value}' for '{flag}' found; no more were expected"

/-- Why no path comes of the arguments. -/
inductive Stop where
  | help
  | version
  | rejected (r : Rejection)
deriving DecidableEq, Repr

/-- What an argument in flag position is. -/
inductive Token where
  | terminator
  | flag (value : Option Bytes)
  | help
  | version
  | wrong (r : Rejection)
deriving DecidableEq, Repr

/-- The part of an argument before its first `=`, and what follows that. -/
def cutAtEquals : Bytes → Bytes × Option Bytes
  | [] => ([], none)
  | b :: rest =>
      if b = ascii '=' then ([], some rest)
      else
        let (name, value) := cutAtEquals rest
        (b :: name, value)

/-- An argument after its two dashes. -/
def longToken (body : Bytes) : Token :=
  let plain (name : String) (token : Token) : Option Bytes → Token
    | none => token
    | some value => .wrong (.unneededValue ("--" ++ name) (Utf8.lossy value))
  let (name, value) := cutAtEquals body
  if name = Utf8.encode "config" then .flag value
  else if name = Utf8.encode "help" then plain "help" .help value
  else if name = Utf8.encode "version" then plain "version" .version value
  else .wrong (.unexpected ("--" ++ Utf8.lossy name))

/-- An argument after its one dash: letters that are flags on their own.  The
first one decides, since both flags act at once. -/
def lettersToken (body : Bytes) : Token :=
  match Utf8.pieces body with
  | .char 'h' :: _ => .help
  | .char 'V' :: _ => .version
  | .char c :: _ => .wrong (.unexpected (String.ofList ['-', c]))
  | _ => .wrong (.unexpected ("-" ++ Utf8.lossy body))

def token (arg : Argument) : Token :=
  if arg = terminator then .terminator
  else match arg with
    | first :: second :: rest =>
        if first ≠ ascii '-' then .wrong (.unexpected (Utf8.lossy arg))
        else if second = ascii '-' then longToken rest
        else lettersToken (second :: rest)
    | _ => .wrong (.unexpected (Utf8.lossy arg))

/-! ## Resolving the path -/

/-- A bare flag that has not been judged yet. -/
inductive Pending where
  | nothing
  | bare
  | withValue (value : Bytes)
deriving DecidableEq, Repr

/-- Take a value for the path: given once, and not empty. -/
def giveValue (path : Option Bytes) (value : Bytes) : Except Rejection (Option Bytes) :=
  if path.isSome then .error .repeatedFlag
  else if value = [] then .error .missingValue
  else .ok (some value)

/-- Judge a bare flag. -/
def judge (path : Option Bytes) : Pending → Except Rejection (Option Bytes)
  | .nothing => .ok path
  | .bare => .error .missingValue
  | .withValue value => giveValue path value

/-- Judge a bare flag before stopping. -/
def stopAfter (path : Option Bytes) (pending : Pending) (stop : Stop) : Stop :=
  match judge path pending with
  | .ok _ => stop
  | .error r => .rejected r

/-- Read the arguments that are left, with the path and the bare flag so far. -/
def resolveFrom : Option Bytes → Pending → List Argument → Except Stop (Option Bytes)
  | path, pending, [] => (judge path pending).mapError .rejected
  | path, .bare, value :: rest => resolveFrom path (.withValue value) rest
  | path, pending, arg :: rest =>
      match token arg with
      | .terminator =>
          match rest with
          | [] => (judge path pending).mapError .rejected
          | operand :: _ => .error (.rejected (.unexpected (Utf8.lossy operand)))
      | .flag none =>
          match judge path pending with
          | .error r => .error (.rejected r)
          | .ok path => resolveFrom path .bare rest
      | .flag (some value) =>
          match (judge path pending).bind (giveValue · value) with
          | .error r => .error (.rejected r)
          | .ok path => resolveFrom path .nothing rest
      | .help => .error (stopAfter path pending .help)
      | .version => .error (stopAfter path pending .version)
      | .wrong r => .error (.rejected r)

/-- The path that the arguments of a program ask for, its own name first. -/
def resolve (argv : List Argument) : Except Stop Bytes :=
  (resolveFrom none .nothing (normalize argv).tail).map
    fun path => path.getD (Utf8.encode defaultPath)

/-! ## Help -/

def helpText : String :=
  "Load and check the node configuration file\n\n" ++
  "Usage: node-config [OPTIONS]\n\n" ++
  "Options:\n" ++
  s!"      --config <CONFIG>  Path to configuration file [default: {defaultPath}]\n" ++
  "  -h, --help             Print help\n" ++
  "  -V, --version          Print version\n"

def versionText : String := "node-config 0.1.0\n"

end NodeSettings.CommandLine
