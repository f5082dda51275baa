/-
Surrogates.CommandLine.Arguments — what the arguments of a call ask for.

Arguments are read from left to right into occurrences of flags and settings
(`scan`), first those before the name of a command and then those behind it.
The occurrences of each part are then taken one after another (`Given.add`),
and `parse` checks what has to be there and what excludes what.
-/

namespace Surrogates.CommandLine

/-! ## §1 Types -/

/-- What a command makes from a generation. -/
inductive Product where
  /-- The generation as a document. -/
  | plan
  /-- Source files. -/
  | sources
  deriving DecidableEq, Repr

/-- A call for a product. -/
structure Command where
  product : Product
  /-- Paths and patterns of catalogs. -/
  catalogs : List String
  /-- Paths and patterns of configurations. -/
  configurations : List String
  surrogateSuffix : Option String
  serializerSuffix : Option String
  moduleSuffix : Option String
  /-- Where the product goes; without it, to standard output. -/
  out : Option String
  /-- Whether to do nothing. -/
  idle : Bool
  deriving DecidableEq, Repr

/-- Why arguments ask for no command. -/
inductive Stop where
  /-- They break the rules of the command line. -/
  | misuse
  | help
  | version
  deriving DecidableEq, Repr

/-- An option without a value. -/
inductive Flag where
  | verbose
  | quiet
  | noOp
  | help
  | version
  deriving DecidableEq, Repr

/-- An option with values. -/
inductive Setting where
  | catalog
  | config
  | surrogateSuffix
  | serializerSuffix
  | moduleSuffix
  | out
  deriving DecidableEq, Repr

/-- Whether a setting takes any number of values and may occur again. -/
def Setting.isList : Setting → Bool
  | catalog => true
  | config => true
  | _ => false

/-- Whether a setting takes a value. -/
def Setting.admits (value : String) : Setting → Bool
  | out => value != ""
  | _ => true

/-- An option. -/
inductive Switch where
  | flag (flag : Flag)
  | setting (setting : Setting)
  deriving DecidableEq, Repr

/-! ## §2 Names -/

/-- The names that one part of a call knows. -/
structure Vocabulary where
  long : List (String × Switch)
  short : List (Char × Switch)
  commands : List String

/-- The names before the command. -/
def Vocabulary.general : Vocabulary where
  long := [("verbose", .flag .verbose), ("quiet", .flag .quiet), ("help", .flag .help),
    ("version", .flag .version)]
  short := [('v', .flag .verbose), ('q', .flag .quiet), ('h', .flag .help), ('V', .flag .version)]
  commands := ["plan", "rust", "help"]

/-- The names behind the command. -/
def Vocabulary.ofCommand : Vocabulary where
  long := [("verbose", .flag .verbose), ("quiet", .flag .quiet), ("help", .flag .help),
    ("no-op", .flag .noOp), ("catalog", .setting .catalog), ("config", .setting .config),
    ("surrogate-suffix", .setting .surrogateSuffix),
    ("serializer-suffix", .setting .serializerSuffix),
    ("module-suffix", .setting .moduleSuffix), ("out", .setting .out)]
  short := [('v', .flag .verbose), ('q', .flag .quiet), ('h', .flag .help), ('o', .setting .out)]
  commands := []

/-! ## §3 Occurrences -/

/-- The form of an argument. -/
inductive Argument where
  /-- The argument `--`. -/
  | separator
  /-- Behind `--`, a name and perhaps `=` and a value. -/
  | long (name : String) (value : Option String)
  /-- Behind `-`, letters of options. -/
  | short (letters : List Char)
  | plain (text : String)
  deriving DecidableEq, Repr

/-- The form of an argument; `-` alone is plain. -/
def Argument.ofString (text : String) : Argument :=
  match text.toList with
  | ['-', '-'] => .separator
  | '-' :: '-' :: rest =>
    .long (String.ofList (rest.takeWhile (· != '=')))
      (match rest.dropWhile (· != '=') with
        | [] => none
        | _ :: value => some (String.ofList value))
  | '-' :: c :: rest => .short (c :: rest)
  | _ => .plain text

/-- What is met in arguments. -/
inductive Occurrence where
  | flag (flag : Flag)
  | setting (setting : Setting) (values : List String)
  /-- Something that no rule allows here; reading ends with it. -/
  | stray
  deriving DecidableEq, Repr

/-- A setting whose values are still being read. -/
abbrev Open := Option (Setting × List String)

/-- The occurrence of a setting whose values have been read. -/
def close : Open → List Occurrence
  | none => []
  | some (setting, values) => [.setting setting values]

/-- Reads letters of options: what they are, and a setting among them that takes
its values from the arguments that follow. `none` stands for letters that are
not understood. -/
def scanLetters (vocabulary : Vocabulary) : List Char → List Occurrence × Option Open
  | [] => ([], some none)
  | c :: rest =>
    match vocabulary.short.lookup c with
    | none => ([.stray], none)
    | some (.flag flag) =>
      let (occurrences, last) := scanLetters vocabulary rest
      (.flag flag :: occurrences, last)
    | some (.setting setting) =>
      match rest with
      | [] => ([], some (some (setting, [])))
      | '=' :: value => ([.setting setting [String.ofList value]], some none)
      | value => ([.setting setting [String.ofList value]], some none)

/-- The occurrences in arguments up to the name of a command, that name, and the
arguments behind it. -/
def scan (vocabulary : Vocabulary) :
    Open → List String → List Occurrence × Option (String × List String)
  | current, [] => (close current, none)
  | current, argument :: rest =>
    let goOn (met : List Occurrence) (next : Open) :=
      let (occurrences, command) := scan vocabulary next rest
      (met ++ occurrences, command)
    let stray := (close current ++ [Occurrence.stray], none)
    match Argument.ofString argument with
    | .separator => if rest.isEmpty then (close current, none) else stray
    | .long name value =>
      match vocabulary.long.lookup name, value with
      | some (.flag flag), none => goOn (close current ++ [.flag flag]) none
      | some (.setting setting), none => goOn (close current) (some (setting, []))
      | some (.setting setting), some value =>
        goOn (close current ++ [.setting setting [value]]) none
      | _, _ => stray
    | .short letters =>
      match scanLetters vocabulary letters with
      | (occurrences, some next) => goOn (close current ++ occurrences) next
      | (occurrences, none) => (close current ++ occurrences, none)
    | .plain text =>
      match current with
      | some (setting, values) =>
        if setting.isList || values.isEmpty then goOn [] (some (setting, values ++ [text]))
        else stray
      | none =>
        if vocabulary.commands.contains text then ([], some (text, rest)) else stray

/-! ## §4 What is given -/

/-- What the occurrences of one part of a call add up to. -/
structure Given where
  verbose : Bool
  quiet : Bool
  noOp : Bool
  settings : List (Setting × List String)
  deriving DecidableEq, Repr

namespace Given

/-- Nothing is given. -/
def none : Given := ⟨false, false, false, []⟩

/-- The values of all occurrences of a setting. -/
def values (given : Given) (setting : Setting) : List String :=
  (given.settings.filter (·.1 = setting)).flatMap (·.2)

/-- The value of a setting that takes one. -/
def value? (given : Given) (setting : Setting) : Option String :=
  (given.values setting).head?

/-- Takes one more occurrence. Of flags only the verbose one may occur again. -/
def add (given : Given) : Occurrence → Except Stop Given
  | .stray => .error .misuse
  | .flag .help => .error .help
  | .flag .version => .error .version
  | .flag .verbose => .ok { given with verbose := true }
  | .flag .quiet => if given.quiet then .error .misuse else .ok { given with quiet := true }
  | .flag .noOp => if given.noOp then .error .misuse else .ok { given with noOp := true }
  | .setting setting values =>
    if values.isEmpty || !values.all setting.admits then .error .misuse
    else if !setting.isList && given.settings.any (·.1 = setting) then .error .misuse
    else .ok { given with settings := given.settings ++ [(setting, values)] }

/-- What occurrences add up to. -/
def ofOccurrences (occurrences : List Occurrence) : Except Stop Given :=
  occurrences.foldlM add none

/-- Whether what is given may be given together. -/
def isConsistent (given : Given) : Bool :=
  !(given.verbose && given.quiet)

/-- The command that is given behind its name. -/
def command (given : Given) (product : Product) : Except Stop Command :=
  let catalogs := given.values .catalog
  let configurations := given.values .config
  if given.isConsistent && !catalogs.isEmpty && !configurations.isEmpty then
    .ok
      { product, catalogs, configurations
        surrogateSuffix := given.value? .surrogateSuffix
        serializerSuffix := given.value? .serializerSuffix
        moduleSuffix := given.value? .moduleSuffix
        out := given.value? .out
        idle := given.noOp }
  else .error .misuse

end Given

/-! ## §5 Calls -/

/-- The product of a command's name. -/
def Product.ofName? : String → Option Product
  | "plan" => some .plan
  | "rust" => some .sources
  | _ => none

/-- Whether there is help on what follows the command `help`. -/
def hasHelp : List String → Bool
  | [] => true
  | [name] => Vocabulary.general.commands.contains name
  | _ => false

/-- What the arguments of a call ask for. -/
def parse (arguments : List String) : Except Stop Command := do
  let (occurrences, command) := scan .general none arguments
  let given ← Given.ofOccurrences occurrences
  match command with
  | none => .error .misuse
  | some (name, rest) =>
    match Product.ofName? name with
    | none => .error (if hasHelp rest then .help else .misuse)
    | some product =>
      let command ← (← Given.ofOccurrences (scan .ofCommand none rest).1).command product
      if given.isConsistent then .ok command else .error .misuse

end Surrogates.CommandLine
