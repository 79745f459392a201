/-!
# Command-line options

An option is written long (`--execute`) or, if it has a letter, short (`-e`). Some options take a
value, which follows as the next argument, behind an equals sign, or directly behind the letter;
the others are flags. Each may be given once, nothing else is understood, and `--` announces
arguments that are no options.

A value is checked late: an option that got its value, or still waits for one, is *pending* until
the next option is understood or the arguments end. Until then an argument that is not understood
is the graver fault. Of two faults in different arguments the first one counts.
-/

namespace SqlShell.CommandLine

/-! ## Options -/

/-- Options that take a value. -/
inductive ValueOption where
  | execute
  | file
  | prompt
  | logLevel
  deriving Repr, DecidableEq

/-- Options that do not. -/
inductive Flag where
  | noColor
  | showAst
  deriving Repr, DecidableEq

/-- What an option's name stands for. -/
inductive Switch where
  | value (option : ValueOption)
  | flag (flag : Flag)
  | help
  | version
  deriving Repr, DecidableEq

/-- The option of a long name. -/
def Switch.ofName? : String → Option Switch
  | "execute" => some (.value .execute)
  | "file" => some (.value .file)
  | "prompt" => some (.value .prompt)
  | "log-level" => some (.value .logLevel)
  | "no-color" => some (.flag .noColor)
  | "show-ast" => some (.flag .showAst)
  | "help" => some .help
  | "version" => some .version
  | _ => none

/-- The option of a letter. -/
def Switch.ofLetter? : Char → Option Switch
  | 'e' => some (.value .execute)
  | 'f' => some (.value .file)
  | 'h' => some .help
  | 'V' => some .version
  | _ => none

/-- The options that were given. -/
structure Options where
  execute : Option String := none
  file : Option String := none
  prompt : Option String := none
  logLevel : Option String := none
  noColor : Bool := false
  showAst : Bool := false
  deriving Repr, DecidableEq

/-- Why the arguments do not start the program: a fault, or a request that is answered at once. -/
inductive Refusal where
  | unknownArgument
  | invalidValue
  | argumentConflict
  | tooManyValues
  | help
  | version
  deriving Repr, DecidableEq

/-- The value of an option so far. -/
def Options.value? (options : Options) : ValueOption → Option String
  | .execute => options.execute
  | .file => options.file
  | .prompt => options.prompt
  | .logLevel => options.logLevel

/-- The options with a value for one of them. -/
def Options.put (options : Options) (value : String) : ValueOption → Options
  | .execute => { options with execute := some value }
  | .file => { options with file := some value }
  | .prompt => { options with prompt := some value }
  | .logLevel => { options with logLevel := some value }

/-- Whether a flag was given. -/
def Options.has (options : Options) : Flag → Bool
  | .noColor => options.noColor
  | .showAst => options.showAst

/-- The options with a flag. -/
def Options.raise (options : Options) : Flag → Options
  | .noColor => { options with noColor := true }
  | .showAst => { options with showAst := true }

/-- Give an option its value. An option has one value at most, and a file has a name. -/
def Options.assign (options : Options) (option : ValueOption) (value : String) :
    Except Refusal Options :=
  if (options.value? option).isSome then .error .argumentConflict
  else if option = .file ∧ value.isEmpty then .error .invalidValue
  else .ok (options.put value option)

/-! ## Arguments -/

/-- The form of an argument. -/
inductive Argument where
  /-- `--` -/
  | escape
  /-- `--name` or `--name=value` -/
  | long (name : String) (value : Option String)
  /-- `-l` and what is attached to the letter -/
  | short (letter : Char) (attached : List Char)
  /-- Anything else, a lone `-` included. -/
  | plain (text : String)
  deriving Repr, DecidableEq

/-- The form of an argument. -/
def Argument.ofString (text : String) : Argument :=
  match text.toList with
  | ['-', '-'] => .escape
  | '-' :: '-' :: cs =>
    let name := String.ofList (cs.takeWhile (· != '='))
    match cs.dropWhile (· != '=') with
    | [] => .long name none
    | _ :: value => .long name (some (String.ofList value))
  | '-' :: letter :: attached => .short letter attached
  | _ => .plain text

/-- The value attached to a letter: what follows, less an equals sign in front. -/
def attachedValue? : List Char → Option String
  | [] => none
  | '=' :: value => some (String.ofList value)
  | value => some (String.ofList value)

/-! ## Reading -/

/-- The options so far, and the pending option with its value, if it has got one. -/
structure Reading where
  options : Options := {}
  pending : Option (ValueOption × Option String) := none
  deriving Repr, DecidableEq

namespace Reading

/-- The options with the pending one. -/
def settle (reading : Reading) : Except Refusal Options :=
  match reading.pending with
  | none => .ok reading.options
  | some (_, none) => .error .invalidValue
  | some (option, some value) => reading.options.assign option value

/-- Take an option with the value attached to it, if any. -/
def takeSwitch (reading : Reading) (switch : Switch) (attached : Option String) :
    Except Refusal Reading :=
  match switch, attached with
  | .value option, none => do
    let options ← reading.settle
    return { options, pending := some (option, none) }
  | .value option, some value => do
    let options ← reading.settle
    let options ← options.assign option value
    return { options }
  | _, some _ => .error .tooManyValues
  | .flag flag, none => do
    let options ← reading.settle
    if options.has flag then .error .argumentConflict else .ok { options := options.raise flag }
  | .help, none => do
    let _ ← reading.settle
    .error .help
  | .version, none => do
    let _ ← reading.settle
    .error .version

/-- Take an argument other than `--`. Behind the letter of a flag nothing is read, since each of
them is answered at once. -/
def take (reading : Reading) : Argument → Except Refusal Reading
  | .long name value =>
    match Switch.ofName? name with
    | some switch => reading.takeSwitch switch value
    | none => .error .unknownArgument
  | .short letter attached =>
    match Switch.ofLetter? letter with
    | some (.value option) => reading.takeSwitch (.value option) (attachedValue? attached)
    | some switch => reading.takeSwitch switch none
    | none => .error .unknownArgument
  | .plain text =>
    match reading.pending with
    | some (option, none) => .ok { reading with pending := some (option, some text) }
    | _ => .error .unknownArgument
  | .escape => .error .unknownArgument

/-- The options once the arguments have ended. A text and a file exclude each other. -/
def finish (reading : Reading) : Except Refusal Options := do
  let options ← reading.settle
  if options.execute.isSome && options.file.isSome then .error .argumentConflict else .ok options

/-- Take the arguments in order. Nothing may follow `--`. -/
def takeAll (reading : Reading) : List String → Except Refusal Options
  | [] => reading.finish
  | text :: rest =>
    match Argument.ofString text with
    | .escape => if rest.isEmpty then reading.finish else .error .unknownArgument
    | argument => do
      let reading ← reading.take argument
      reading.takeAll rest

end Reading

/-- The options that the arguments of the program give. -/
def Options.parse (arguments : List String) : Except Refusal Options :=
  Reading.takeAll {} arguments

end SqlShell.CommandLine
