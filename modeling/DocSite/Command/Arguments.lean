/-
  DocSite.Command.Arguments

  The command line: options of one letter and of a word, their values, and
  operands. General options may stand before and after the name of a command.
-/
import DocSite.Config.Format
import DocSite.Text.Split

namespace DocSite.Command

/-! ## Options -/

/-- The options there are. -/
inductive OptionName where
  | verbose
  | configFile
  | override
  | output
  | format
  | force
  deriving Repr, DecidableEq

namespace OptionName

/-- The word of an option, which follows two dashes. -/
def word : OptionName → String
  | verbose => "verbose"
  | configFile => "config-file"
  | override => "config"
  | output => "output"
  | format => "format"
  | force => "force"

/-- The letter of an option, which follows one dash. -/
def letter? : OptionName → Option Char
  | verbose => some 'v'
  | configFile => some 'c'
  | override => none
  | output => some 'o'
  | format => some 'F'
  | force => some 'f'

/-- Whether an option has a value. -/
def takesValue : OptionName → Bool
  | verbose | force => false
  | _ => true

/-- Whether an option may be given more than once. -/
def isRepeatable : OptionName → Bool
  | configFile | override => true
  | _ => false

/-- Whether a text may be the value of an option. Paths are not empty. -/
def accepts : OptionName → String → Bool
  | configFile, value | output, value => value != ""
  | format, value => (ConfigFormat.ofName? value).isSome
  | _, _ => true

/-- The options of every command. -/
def general : List OptionName := [verbose, configFile, override]

end OptionName

/-! ## Reading -/

/-- What arguments give: options in order, each with its value, and operands. -/
structure Given where
  options : List (OptionName × String)
  operands : List String

namespace Given

/-- Nothing. -/
def empty : Given := ⟨[], []⟩

/-- An option in front. -/
def withOption (option : OptionName) (value : String) (given : Given) : Given :=
  { given with options := (option, value) :: given.options }

/-- An operand in front. -/
def withOperand (operand : String) (given : Given) : Given :=
  { given with operands := operand :: given.operands }

/-- The values of an option. -/
def values (given : Given) (option : OptionName) : List String :=
  (given.options.filter fun o => o.1 == option).map Prod.snd

/-- Whether an option is given. -/
def has (given : Given) (option : OptionName) : Bool := !(given.values option).isEmpty

/-- Whether every option has a value that it accepts and is given as often as it
    may be. -/
def isValid (given : Given) : Bool :=
  given.options.all fun (option, value) =>
    option.accepts value && (option.isRepeatable || (given.values option).length ≤ 1)

end Given

/-- What an argument is. -/
inductive Argument where
  /-- The mark after which there are operands only. -/
  | endOfOptions
  /-- An option by its word, maybe with a value after an equals sign. -/
  | word (name : String) (value : Option String)
  /-- Options by their letters. -/
  | letters (letters : List Char)
  | operand (text : String)
  deriving Repr, DecidableEq

/-- Tells what an argument is. A single dash is an operand. -/
def Argument.ofText (s : String) : Argument :=
  match s.toList with
  | '-' :: '-' :: rest =>
    if rest.isEmpty then .endOfOptions
    else
      match Text.splitOnce '=' rest with
      | some (name, value) => .word (String.ofList name) (some (String.ofList value))
      | none => .word (String.ofList rest) none
  | '-' :: c :: rest => .letters (c :: rest)
  | _ => .operand s

/-- What options by their letters give: flags, and at the end maybe an option with
    a value. The value is the rest of the letters, after an equals sign if there
    is one, or else the next argument. -/
inductive Cluster where
  | flags (options : List OptionName)
  | valued (flags : List OptionName) (option : OptionName) (value : Option String)

/-- Reads options by their letters. -/
def Cluster.read? (known flags : List OptionName) : List Char → Option Cluster
  | [] => some (.flags flags)
  | c :: rest =>
    (known.find? fun o => o.letter? == some c).bind fun option =>
      if option.takesValue then
        let value :=
          match rest with
          | [] => none
          | '=' :: value => some (String.ofList value)
          | value => some (String.ofList value)
        some (.valued flags option value)
      else read? known (flags ++ [option]) rest

/-- The flags and what follows them. -/
def Given.withFlags (flags : List OptionName) (given : Given) : Given :=
  { given with options := flags.map (·, "") ++ given.options }

/-- Reads arguments, given an option that still waits for its value. In front of a
    command's name the first operand ends the options. -/
def readArguments? (known : List OptionName) (beforeCommand : Bool) :
    Option OptionName → List String → Option Given
  | none, [] => some .empty
  | some _, [] => none
  | waiting, text :: rest =>
    match waiting, Argument.ofText text with
    | some option, .operand value =>
      (readArguments? known beforeCommand none rest).map (.withOption option value)
    -- A value that looks like an option is none.
    | some _, _ => none
    | none, .operand text =>
      -- The name of the command: all that follows is read with the command's own options.
      if beforeCommand then some ⟨[], text :: rest⟩
      else (readArguments? known beforeCommand none rest).map (.withOperand text)
    | none, .endOfOptions => if beforeCommand then none else some ⟨[], rest⟩
    | none, .word name value =>
      (known.find? fun o => o.word == name).bind fun option =>
        match option.takesValue, value with
        | true, none => readArguments? known beforeCommand (some option) rest
        | true, some value =>
          (readArguments? known beforeCommand none rest).map (.withOption option value)
        | false, none => (readArguments? known beforeCommand none rest).map (.withOption option "")
        | false, some _ => none
    | none, .letters letters =>
      (Cluster.read? known [] letters).bind fun
        | .flags flags => (readArguments? known beforeCommand none rest).map (.withFlags flags)
        | .valued flags option (some value) =>
          (readArguments? known beforeCommand none rest).map fun given =>
            (given.withOption option value).withFlags flags
        | .valued flags option none =>
          (readArguments? known beforeCommand (some option) rest).map (.withFlags flags)

/-! ## Commands -/

/-- What to do. -/
inductive Action where
  /-- Write the navigation manifest. -/
  | toc
  /-- Render a page to standard output or to a file. -/
  | render (file : String) (output : Option String)
  /-- Write a configuration file to begin with. -/
  | init (output : String) (format : ConfigFormat) (force : Bool)
  deriving Repr, DecidableEq

/-- A command line that has been read. -/
structure Invocation where
  /-- Whether to log more. -/
  verbose : Bool
  configFiles : List String
  overrides : List String
  action : Action
  deriving Repr, DecidableEq

/-- The options of a command besides the general ones. -/
def ownOptions? (name : String) : Option (List OptionName) :=
  if name == "toc" then some []
  else if name == "render" then some [.output]
  else if name == "init" then some [.output, .format, .force]
  else none

/-- The action of a command. -/
def actionOf? (name : String) (given : Given) : Option Action :=
  let output := (given.values .output).head?
  match name, given.operands with
  | "toc", [] => some .toc
  | "render", [file] => if file == "" then none else some (.render file output)
  | "init", [] =>
    let format := (given.values .format).head?.bind ConfigFormat.ofName?
    some (.init (output.getD "webhelp.toml") (format.getD .toml) (given.has .force))
  | _, _ => none

/-- The values of a general option: those after the command's name, or else those
    before it. -/
def innermost (outer inner : Given) (option : OptionName) : List String :=
  if inner.has option then inner.values option else outer.values option

/-- Reads a command line. There is none where the arguments break its rules. -/
def Invocation.read? (arguments : List String) : Option Invocation := do
  let outer ← (readArguments? OptionName.general true none arguments).filter Given.isValid
  let name :: rest := outer.operands | none
  let own ← ownOptions? name
  let inner ← (readArguments? (OptionName.general ++ own) false none rest).filter Given.isValid
  let action ← actionOf? name inner
  pure
    { verbose := outer.has .verbose || inner.has .verbose
      configFiles := innermost outer inner .configFile
      overrides := innermost outer inner .override
      action }

end DocSite.Command
