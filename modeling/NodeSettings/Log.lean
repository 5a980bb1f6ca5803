/-
# NodeSettings.Log -- log lines and which of them are written

A log record has a level, the target it comes from, a message and named values.
Values are written as they are.  A filter is a list of directives; of those whose
target begins the record's target, the longest decides up to which level records
are written, and where none does, nothing is.
-/
import NodeSettings.Text.Utf8
import NodeSettings.Text.White

namespace NodeSettings.Log

open NodeSettings.Text

set_option autoImplicit false

inductive Level where
  | error
  | warn
  | info
  | debug
  | trace
deriving DecidableEq, Repr

namespace Level

/-- How much a level lets through: more, the further down. -/
def rank : Level → Nat
  | error => 1
  | warn => 2
  | info => 3
  | debug => 4
  | trace => 5

/-- Five columns, to the right. -/
def column : Level → String
  | error => "ERROR"
  | warn => " WARN"
  | info => " INFO"
  | debug => "DEBUG"
  | trace => "TRACE"

end Level

structure LogRecord where
  level : Level
  target : String
  message : String
  values : List (String × String)
deriving DecidableEq, Repr

def LogRecord.line (r : LogRecord) : String :=
  let values := String.join (r.values.map fun (name, value) => s!" {name}={value}")
  s!"{r.level.column} {r.target}: {r.message}{values}\n"

/-! ## Filters -/

/-- Records whose target begins with `target` are written up to rank `most`;
zero shuts all out. -/
structure Directive where
  target : String
  most : Nat
deriving DecidableEq, Repr

abbrev Filter := List Directive

namespace Filter

def covers (d : Directive) (r : LogRecord) : Bool :=
  d.target.toList.isPrefixOf r.target.toList

/-- The directive with the longest target of those that cover a record; of two
with the same target the later. -/
def deciding? (filter : Filter) (r : LogRecord) : Option Directive :=
  (filter.filter (covers · r)).foldl
    (fun best d => match best with
      | none => some d
      | some b => if b.target.length ≤ d.target.length then some d else some b)
    none

def admits (filter : Filter) (r : LogRecord) : Bool :=
  match filter.deciding? r with
  | none => false
  | some d => r.level.rank ≤ d.most

/-- What is written unless the environment says otherwise. -/
def standard : Filter :=
  [⟨"", Level.info.rank⟩]

/-! ## Filters as text -/

/-- The value of decimal digits, with or without a plus sign. -/
def numeral? (word : List Char) : Option Nat :=
  let digits := match word with
    | '+' :: rest => rest
    | _ => word
  if digits ≠ [] ∧ digits.all Char.isDigit then
    some (digits.foldl (fun value digit => value * 10 + (digit.toNat - '0'.toNat)) 0)
  else none

/-- The names of the ranks, from shutting all out to letting everything through. -/
def rankNames : List (String × Nat) :=
  [("off", 0), ("error", 1), ("warn", 2), ("info", 3), ("debug", 4), ("trace", 5)]

/-- The rank a level is asked for by: its number, or its name in any letter
case. -/
def rank? (word : List Char) : Option Nat :=
  match numeral? word with
  | some n => if n ≤ Level.trace.rank then some n else none
  | none => rankNames.lookup (String.ofList (word.map Char.toLower))

def split (mark : Char) : List Char → List (List Char)
  | [] => [[]]
  | c :: rest =>
      if c = mark then [] :: split mark rest
      else match split mark rest with
        | [] => [[c]]
        | word :: others => (c :: word) :: others

/-- Whether a character may begin a directive, white space apart. -/
def mayBegin (c : Char) : Bool :=
  c.isAlphanum || c = '-' || c = ':' || c = '_' || (0x80 ≤ c.toNat && !isWhite c)

/-- A directive is a level, a target, or a target and a level with an equals sign
between them.  A target on its own lets everything through, and so does one whose
level is left empty.

White space is never stripped.  A level has none around it, so a word that is
nothing but a level in white space is a target, and hardly the target of a
record.  White space is refused only before a target that has a level.

Directives about spans and their fields, such as `[span{field}]=level`, are not
modelled: they are refused here, and with them the filter they stand in. -/
def directive? (word : List Char) : Option Directive :=
  if !(word.dropWhile isWhite).head?.any mayBegin then none
  else match word.dropWhile (· ≠ '=') with
    | [] => match rank? word with
        | some most => some ⟨"", most⟩
        | none => some ⟨String.ofList word, Level.trace.rank⟩
    | _ :: level =>
        if word.head?.any isWhite then none
        else
          let target := String.ofList (word.takeWhile (· ≠ '='))
          if level = [] then some ⟨target, Level.trace.rank⟩
          else (rank? level).map (⟨target, ·⟩)

/-- Directives stand between commas; a text with none writes nothing. -/
def parse? (text : String) : Option Filter :=
  ((split ',' text.toList).filter (· ≠ [])).mapM directive?

/-- The filter the environment asks for.  One that is not text, or cannot be
understood, asks for nothing in particular. -/
def ofEnvironment (value : Option (List UInt8)) : Filter :=
  ((value.bind Utf8.decode?).bind parse?).getD standard

end Filter

end NodeSettings.Log
