import FontPreferences.Binary64.Decimal

/-
The command line.

Arguments belong to a level: those before the command's name to the program, those after it to the
command.  An option may stand anywhere in its level; `--verbose` and `--config` may stand in both,
and of two configuration files the one given to the command counts.  After `--` there are only
operands.

* `Level.read` takes the arguments of one level;
* `Request.ofArguments` is what a whole command line asks for, or why it asks for nothing.

The command `fonts`, which lists the fonts that are installed, is left out: what it shows is in no file
that the program is given, so that here its name is that of no command.
-/
namespace FontPreferences

/-- A command with its arguments. -/
inductive Command where
  | encodings
  | prefs (prefs policy : Option String)
  | set (key value : String) (prefs policy : Option String)
  | snap (value : Binary64) (minimum : Bool)
deriving DecidableEq

/-- What a command line asks for. -/
inductive Request where
  | help
  | version
  /-- A command, under a configuration file if one is given. -/
  | command (config : Option String) (c : Command)
deriving DecidableEq

/-- Why a command line asks for nothing. -/
inductive UsageError where
  | missingCommand
  | unknownCommand (name : String)
  | unknownOption (option : String)
  | repeatedOption (name : String)
  | missingValue (name : String)
  | unwantedValue (name : String)
  | missingOperand (name : String)
  | unwantedOperand (text : String)
  | unfitOperand (text : String)
deriving DecidableEq, Repr

/-- The message shown for a command line that asks for nothing. -/
def UsageError.message : UsageError → String
  | .missingCommand => "a command is required"
  | .unknownCommand name => "unrecognized command '" ++ name ++ "'"
  | .unknownOption option => "unexpected option '" ++ option ++ "'"
  | .repeatedOption name => "the option '--" ++ name ++ "' cannot be used multiple times"
  | .missingValue name => "a value is required for '--" ++ name ++ "'"
  | .unwantedValue name => "the option '--" ++ name ++ "' takes no value"
  | .missingOperand name => "the argument <" ++ name ++ "> is required"
  | .unwantedOperand text => "unexpected argument '" ++ text ++ "'"
  | .unfitOperand text => "invalid value '" ++ text ++ "'"

/-- One argument by its form. -/
inductive Argument where
  /-- `--name` or `--name=value`. -/
  | long (name : String) (value : Option String)
  /-- A dash and letters. -/
  | letters (ls : List Char)
  /-- `--` alone. -/
  | escape
  /-- Any other text, a dash alone among them. -/
  | word
deriving DecidableEq, Repr

namespace Argument

/-- Splits a long option at its first equals sign. -/
def ofLong (cs : List Char) : Argument :=
  let name := String.ofList (cs.takeWhile (· ≠ '='))
  match cs.dropWhile (· ≠ '=') with
  | [] => .long name none
  | _ :: value => .long name (some (String.ofList value))

/-- The form of an argument. -/
def ofText (s : String) : Argument :=
  match s.toList with
  | ['-', '-'] => .escape
  | '-' :: '-' :: cs => ofLong cs
  | ['-'] => .word
  | '-' :: ls => .letters ls
  | _ => .word

end Argument

/-- What an option does. -/
inductive OptionKind where
  /-- It takes a value that is not empty, once. -/
  | value
  /-- It is given once or not at all. -/
  | switch
  /-- It may be given any number of times and changes no answer. -/
  | verbosity
  | help
  | version
deriving DecidableEq, Repr

/-- What has been given in a level. -/
structure Given where
  values : List (String × String)
  switches : List String
  operands : List String
deriving DecidableEq, Repr

namespace Given

/-- Nothing given. -/
def nothing : Given :=
  ⟨[], [], []⟩

/-- The value given to an option. -/
def value? (g : Given) (name : String) : Option String :=
  g.values.lookup name

/-- Gives an option a value. -/
def addValue (g : Given) (name value : String) : Except UsageError Given :=
  if value = "" then .error (.missingValue name)
  else if (g.value? name).isSome then .error (.repeatedOption name)
  else .ok { g with values := (name, value) :: g.values }

/-- Sets a switch. -/
def addSwitch (g : Given) (name : String) : Except UsageError Given :=
  if g.switches.contains name then .error (.repeatedOption name)
  else .ok { g with switches := name :: g.switches }

end Given

/-- How the arguments of a level end. -/
inductive LevelEnd where
  /-- With the last argument. -/
  | finished
  /-- With a word that names a command, before the command's arguments. -/
  | word (name : String) (rest : List String)
  /-- With a wish that settles the command line. -/
  | settled (r : Request)
deriving DecidableEq

/-- The arguments that a level knows. -/
structure Level where
  /-- The long options by name. -/
  options : List (String × OptionKind)
  /-- Whether a word names a command. -/
  hasCommands : Bool
  /-- The names of the operands. -/
  operands : List String
  /-- Whether a text can be an operand. -/
  fits : String → Bool

namespace Level

/-- The options that every level knows. -/
def globalOptions : List (String × OptionKind) :=
  [("verbose", .verbosity), ("config", .value), ("help", .help)]

/-- The long option that a letter stands for. -/
def optionOfLetter? : Char → Option String
  | 'v' => some "verbose"
  | 'h' => some "help"
  | 'V' => some "version"
  | _ => none

/-- Takes options that stand as letters, until one settles the command line.  No letter stands for
an option with a value. -/
def readLetters (l : Level) : List Char → Except UsageError (Option Request)
  | [] => .ok none
  | c :: rest =>
    match (optionOfLetter? c).bind fun name => l.options.lookup name with
    | some .verbosity => l.readLetters rest
    | some .help => .ok (some .help)
    | some .version => .ok (some .version)
    | some .value | some .switch | none => .error (.unknownOption (String.ofList ['-', c]))

/-- Takes an operand. -/
def addOperand (l : Level) (g : Given) (text : String) : Except UsageError Given :=
  if l.operands.length ≤ g.operands.length then .error (.unwantedOperand text)
  else if l.fits text then .ok { g with operands := g.operands ++ [text] }
  else .error (.unfitOperand text)

/-- Takes operands alone. -/
def addOperands (l : Level) (g : Given) (texts : List String) : Except UsageError Given :=
  texts.foldlM l.addOperand g

/-- A text that may follow an option as its value: only one that looks like an option may not. -/
def separateValue (name text : String) : Except UsageError String :=
  match Argument.ofText text with
  | .word => .ok text
  | _ => .error (.missingValue name)

/-- Takes the arguments of a level from the left. -/
def read (l : Level) (g : Given) : List String → Except UsageError (Given × LevelEnd)
  | [] => .ok (g, .finished)
  | arg :: rest =>
    match Argument.ofText arg with
    | .escape => (l.addOperands g rest).map fun g => (g, .finished)
    | .word =>
      if l.hasCommands then .ok (g, .word arg rest)
      else
        match l.addOperand g arg with
        | .error e => .error e
        | .ok g => l.read g rest
    | .letters ls =>
      match l.readLetters ls with
      | .error e => .error e
      | .ok (some r) => .ok (g, .settled r)
      | .ok none => l.read g rest
    | .long name attached =>
      match l.options.lookup name, attached with
      | none, _ => .error (.unknownOption arg)
      | some .value, some value =>
        match g.addValue name value with
        | .error e => .error e
        | .ok g => l.read g rest
      | some .value, none =>
        match rest with
        | [] => .error (.missingValue name)
        | value :: rest =>
          match separateValue name value >>= g.addValue name with
          | .error e => .error e
          | .ok g => l.read g rest
      | some _, some _ => .error (.unwantedValue name)
      | some .switch, none =>
        match g.addSwitch name with
        | .error e => .error e
        | .ok g => l.read g rest
      | some .verbosity, none => l.read g rest
      | some .help, none => .ok (g, .settled .help)
      | some .version, none => .ok (g, .settled .version)

/-- The level before the command. -/
def program : Level :=
  ⟨("version", .version) :: globalOptions, true, [], fun _ => true⟩

/-- The options that name the files of the preferences. -/
def fileOptions : List (String × OptionKind) :=
  [("prefs", .value), ("policy", .value)]

/-- The level of each command, by the command's name. -/
def ofCommand? : String → Option Level
  | "encodings" => some ⟨globalOptions, false, [], fun _ => true⟩
  | "prefs" => some ⟨fileOptions ++ globalOptions, false, [], fun _ => true⟩
  | "set" => some ⟨fileOptions ++ globalOptions, false, ["KEY", "VALUE"], fun _ => true⟩
  | "snap" =>
    some ⟨("minimum", .switch) :: globalOptions, false, ["VALUE"],
      fun s => (Binary64.read? s).isSome⟩
  | _ => none

end Level

namespace Command

/-- The command of a name, with what was given to it; none if an operand is missing. -/
def ofGiven? (name : String) (g : Given) : Option Command :=
  match name, g.operands with
  | "encodings", _ => some .encodings
  | "prefs", _ => some (.prefs (g.value? "prefs") (g.value? "policy"))
  | "set", [key, value] => some (.set key value (g.value? "prefs") (g.value? "policy"))
  | "snap", [value] =>
    (Binary64.read? value).map fun value => .snap value (g.switches.contains "minimum")
  | _, _ => none

end Command

namespace Request

/-- What the words after `help` ask for: help on the program, or on one command. -/
def ofHelpWords : List String → Except UsageError Request
  | [] => .ok .help
  | name :: rest =>
    match rest with
    | extra :: _ => .error (.unknownCommand extra)
    | [] =>
      if name = "help" || (Level.ofCommand? name).isSome then .ok .help
      else .error (.unknownCommand name)

/-- What a command's name and its arguments ask for, after a configuration file given to the
program. -/
def ofCommandArguments (config : Option String) (name : String) (args : List String) :
    Except UsageError Request :=
  match Level.ofCommand? name with
  | none => if name = "help" then ofHelpWords args else .error (.unknownCommand name)
  | some level =>
    match level.read .nothing args with
    | .error e => .error e
    | .ok (_, .settled r) => .ok r
    | .ok (g, _) =>
      match Command.ofGiven? name g with
      | some c => .ok (.command ((g.value? "config").or config) c)
      | none =>
        .error (.missingOperand ((level.operands.drop g.operands.length).headD "VALUE"))

/-- What the arguments of the program ask for. -/
def ofArguments (args : List String) : Except UsageError Request :=
  match Level.program.read .nothing args with
  | .error e => .error e
  | .ok (_, .settled r) => .ok r
  | .ok (_, .finished) => .error .missingCommand
  | .ok (g, .word name rest) => ofCommandArguments (g.value? "config") name rest

end Request
end FontPreferences
