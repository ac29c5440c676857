/-!
Command lines, read by the options and subcommands that a program has.

An option that takes a value waits for it: the value is taken and checked when the next argument is
accepted or the command line ends.
-/

namespace SpecTest.CommandLine

/-- Why a command line is not run: it breaks a rule, or it asks for a text about the program. -/
inductive UsageError where
  | displayHelp
  | displayVersion (text : String)
  | displayHelpOnMissing
  | missingSubcommand
  | missingRequiredArgument
  | invalidSubcommand
  | unknownArgument
  | invalidValue
  | tooManyValues
  | argumentConflict
deriving DecidableEq, Repr, Inhabited

namespace UsageError

def name : UsageError → String
  | displayHelp => "DisplayHelp"
  | displayVersion _ => "DisplayVersion"
  | displayHelpOnMissing => "DisplayHelpOnMissingArgumentOrSubcommand"
  | missingSubcommand => "MissingSubcommand"
  | missingRequiredArgument => "MissingRequiredArgument"
  | invalidSubcommand => "InvalidSubcommand"
  | unknownArgument => "UnknownArgument"
  | invalidValue => "InvalidValue"
  | tooManyValues => "TooManyValues"
  | argumentConflict => "ArgumentConflict"

def exitStatus : UsageError → UInt8
  | displayHelp => 0
  | displayVersion _ => 0
  | _ => 2

end UsageError

inductive OptionKind where
  | value (accepts : String → Bool)
  | toggle
  | counter
  | help
  | version (text : String)

/-- An option: its name behind two hyphens, and its letter behind one. -/
structure Opt where
  name : String
  letter : Option Char := none
  kind : OptionKind

structure Command where
  name : String
  options : List Opt
  argument : Option Opt := none

structure Level where
  given : List (String × String) := []
  /-- The option whose value is not checked yet, with that value if it is there. -/
  pending : Option (Opt × Option String) := none
  waiting : Bool := false
  trailing : Bool := false
  filled : Bool := false

namespace Level

def has (l : Level) (name : String) : Bool := (l.given.lookup name).isSome

def value? (l : Level) (name : String) : Option String := l.given.lookup name

def count (l : Level) (name : String) : Nat := (l.given.filter (·.1 == name)).length

/-- Adds an option with its value; only a counter may be given again. -/
def add (l : Level) (o : Opt) (v : String) : Except UsageError Level :=
  match o.kind with
  | .counter => .ok { l with given := l.given ++ [(o.name, v)] }
  | .help => .error .displayHelp
  | .version text => .error (.displayVersion text)
  | .toggle =>
    if l.has o.name then .error .argumentConflict
    else .ok { l with given := l.given ++ [(o.name, v)] }
  | .value accepts =>
    if l.has o.name then .error .argumentConflict
    else if accepts v then .ok { l with given := l.given ++ [(o.name, v)] }
    else .error .invalidValue

def settle (l : Level) : Except UsageError Level :=
  match l.pending with
  | none => .ok l
  | some (_, none) => .error .invalidValue
  | some (o, some v) => { l with pending := none, waiting := false }.add o v

def give (l : Level) (o : Opt) (v : String) : Except UsageError Level := do (← l.settle).add o v

def giveValue (l : Level) (o : Opt) (attached : Option String) : Except UsageError Level := do
  match attached with
  | some v => l.give o v
  | none => return { (← l.settle) with pending := some (o, none), waiting := true }

end Level

def Opt.takesValue (o : Opt) : Bool :=
  match o.kind with
  | .value _ => true
  | _ => false

def divideLong (cs : List Char) : String × Option String :=
  let name := cs.takeWhile (· ≠ '=')
  match cs.drop name.length with
  | [] => (String.ofList name, none)
  | _ :: rest => (String.ofList name, some (String.ofList rest))

namespace Command

def long (c : Command) (l : Level) (cs : List Char) : Except UsageError Level :=
  let (name, attached) := divideLong cs
  match c.options.find? (·.name == name) with
  | none => .error .unknownArgument
  | some o =>
    if o.takesValue then l.giveValue o attached
    else if attached.isSome then .error .tooManyValues
    else l.give o ""

/-- An argument that starts with one hyphen, without it: letters of options, up to one that takes a
value. -/
def short (c : Command) (l : Level) : List Char → Except UsageError Level
  | [] => .ok l
  | letter :: rest =>
    match c.options.find? (·.letter == some letter) with
    | none => .error .unknownArgument
    | some o =>
      if o.takesValue then
        match rest with
        | [] => l.giveValue o none
        | '=' :: value => l.giveValue o (some (String.ofList value))
        | value => l.giveValue o (some (String.ofList value))
      else do short c (← l.give o "") rest

def plain (c : Command) (subcommands : List String) (l : Level) (arg : String) :
    Except UsageError Level :=
  match c.argument with
  | some o =>
    if l.filled then .error .unknownArgument
    else do
      return { (← l.settle) with pending := some (o, some arg), waiting := false, filled := true }
  | none =>
    if l.trailing && subcommands.contains arg then .error .unknownArgument
    else .error .invalidSubcommand

/-- Reads arguments up to the name of a subcommand, and gives it with the arguments behind it. -/
def read (c : Command) (subcommands : List String) :
    Level → List String → Except UsageError (Level × Option (String × List String))
  | l, [] => .ok (l, none)
  | l, arg :: rest =>
    if l.trailing then do read c subcommands (← c.plain subcommands l arg) rest
    else if !l.waiting && subcommands.contains arg then .ok (l, some (arg, rest))
    else
      match arg.toList with
      | ['-', '-'] => read c subcommands { l with trailing := true, waiting := false } rest
      | '-' :: '-' :: cs => do read c subcommands (← c.long l cs) rest
      | '-' :: ch :: cs => do read c subcommands (← c.short l (ch :: cs)) rest
      | _ =>
        if l.waiting then
          read c subcommands { l with
            pending := l.pending.map fun p => (p.1, some arg), waiting := false } rest
        else do read c subcommands (← c.plain subcommands l arg) rest

def readAll (c : Command) (args : List String) : Except UsageError Level := do
  let (l, _) ← c.read [] {} args
  let l ← l.settle
  if c.argument.isSome && !l.filled then .error .missingRequiredArgument else return l

end Command

def helpError (subcommands : List String) (words : List String) : UsageError :=
  match words with
  | [] => .displayHelp
  | [w] => if subcommands.contains w then .displayHelp else .invalidSubcommand
  | _ => .invalidSubcommand

/-- Reads a command line whose first word is one of the commands, or asks for help.  Gives the
options in front of that word, the command and what was given to it. -/
def readProgram (root : Command) (commands : List Command) (args : List String) :
    Except UsageError (Level × String × Level) := do
  let names := "help" :: commands.map (·.name)
  let (l, found) ← root.read names {} args
  match found with
  | none =>
    let l ← l.settle
    if l.given.isEmpty then .error .displayHelpOnMissing else .error .missingSubcommand
  | some (name, rest) =>
    match commands.find? (·.name == name) with
    | none => .error (helpError names rest)
    | some c =>
      let inner ← c.readAll rest
      return (← l.settle, name, inner)

end SpecTest.CommandLine
