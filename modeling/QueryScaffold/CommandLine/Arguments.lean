import QueryScaffold.Text.Digit
import QueryScaffold.Text.Quoted

/-!
# Command line arguments

* `Flag`: the options of the program, with their names;
* `Word`: an argument by what it looks like, `Word.ofText`;
* `Arguments`: what the arguments ask for;
* `Arguments.parse`: reads them, or says why the program stops.

A long option can be shortened as long as no other one starts alike, and takes its value from the
next argument or after an equals sign. Short options can share one argument, also with an equals
sign after the first of them. After `--` nothing is an option, and as a value it names nothing.
-/

namespace QueryScaffold

/-- An option of the program. -/
inductive Flag
  | help
  | config
  | schemaFile
  | yes
  | verbose
deriving DecidableEq, Repr

namespace Flag

/-- The names of the options, in order. -/
def names : List (Text × Flag) :=
  [("-h", .help), ("--help", .help), ("--config", .config), ("--schema-file", .schemaFile),
    ("-y", .yes), ("--yes", .yes), ("-v", .verbose), ("--verbose", .verbose)]

/-- The option of a name. -/
def ofName? (name : Text) : Option Flag :=
  (names.find? (·.1 = name)).map (·.2)

/-- All names of an option, as messages give them. -/
def title (flag : Flag) : Text :=
  Text.joined ("/" : Text) ((names.filter (·.2 = flag)).map (·.1))

/-- The option has a value. -/
def takesValue : Flag → Bool
  | .config | .schemaFile => true
  | .help | .yes | .verbose => false

end Flag

/-- What is attached to an option in the same argument. -/
inductive Attachment
  | nothing
  /-- The text after an equals sign. -/
  | afterEquals (text : Text)
  /-- The text right after a short option. -/
  | direct (text : Text)
deriving DecidableEq

/-- An argument by what it looks like. -/
inductive Word
  | plain
  /-- The argument `--`. -/
  | separator
  /-- An option under a name that the program knows. -/
  | known (name : Text) (flag : Flag) (attachment : Attachment)
  | unknownOption
deriving DecidableEq

/-- Why the program stops at its arguments. -/
inductive ArgumentStop
  /-- Help was asked for. -/
  | help
  | ambiguous (argument : Text) (candidates : List Text)
  | missingValue (flag : Flag)
  /-- An option without a value was given one. -/
  | ignoredValue (flag : Flag) (value : Text)
  | unrecognized (arguments : List Text)
deriving DecidableEq

namespace ArgumentStop

/-- What is wrong with the arguments, in words. -/
def message : ArgumentStop → Text
  | .help => []
  | .ambiguous argument candidates =>
    ("ambiguous option: " : Text) ++ argument ++ (" could match " : Text) ++
      Text.joined (", " : Text) candidates
  | .missingValue flag =>
    ("argument " : Text) ++ flag.title ++ (": expected one argument" : Text)
  | .ignoredValue flag value =>
    ("argument " : Text) ++ flag.title ++ (": ignored explicit argument " : Text) ++ value.quote
  | .unrecognized arguments =>
    ("unrecognized arguments: " : Text) ++ Text.joined (" " : Text) arguments

end ArgumentStop

namespace Word

/-- The text without a line feed at its end. -/
def withoutFinalNewline (t : Text) : Text :=
  if t.getLast? = some (CodePoint.ofChar '\n') then t.dropLast else t

/-- The text is a number without a sign: digits, or a point between digits with at least one after
it. A line feed may follow. -/
def isUnsignedNumber (t : Text) : Bool :=
  match (withoutFinalNewline t).dropWhile CodePoint.isDecimalDigit with
  | [] => !(withoutFinalNewline t).isEmpty
  | c :: fraction =>
    c = CodePoint.ofChar '.' && !fraction.isEmpty && fraction.all CodePoint.isDecimalDigit

/-- The readings of an argument as a shortened option, or as a short one with something attached. -/
def readings (argument : Text) : List Word :=
  if ("--" : Text).isPrefixOf argument then
    let (stem, attachment) :=
      match argument.cut? (CodePoint.ofChar '=') with
      | some (stem, value) => (stem, Attachment.afterEquals value)
      | none => (argument, .nothing)
    (Flag.names.filter fun entry => stem.isPrefixOf entry.1).map fun (name, flag) =>
      .known name flag attachment
  else
    Flag.names.filterMap fun (name, flag) =>
      if name = argument.take 2 then some (.known name flag (.direct (argument.drop 2)))
      else if argument.isPrefixOf name then some (.known name flag .nothing)
      else none

/-- The name of an option. -/
def name? : Word → Option Text
  | .known name _ _ => some name
  | _ => none

/-- What an argument that starts with a hyphen looks like. -/
def ofHyphenated (argument : Text) : Except ArgumentStop Word :=
  match Flag.ofName? argument with
  | some flag => .ok (.known argument flag .nothing)
  | none =>
    if argument.length = 1 then .ok .plain
    else
      let exact := do
        let (name, value) ← argument.cut? (CodePoint.ofChar '=')
        let flag ← Flag.ofName? name
        return Word.known name flag (.afterEquals value)
      match exact, readings argument with
      | some word, _ => .ok word
      | none, [word] => .ok word
      | none, first :: second :: rest =>
        .error (.ambiguous argument ((first :: second :: rest).filterMap name?))
      | none, [] =>
        if isUnsignedNumber (argument.drop 1) || argument.contains (CodePoint.ofChar ' ') then
          .ok .plain
        else .ok .unknownOption

/-- What an argument looks like. -/
def ofText (argument : Text) : Except ArgumentStop Word :=
  match argument with
  | [] => .ok .plain
  | c :: _ => if c = CodePoint.ofChar '-' then ofHyphenated argument else .ok .plain

/-- The arguments with what they look like. -/
def listOfTexts : List Text → Except ArgumentStop (List (Text × Word))
  | [] => .ok []
  | argument :: rest =>
    if argument = ("--" : Text) then
      .ok ((argument, .separator) :: rest.map fun later => (later, .plain))
    else
      match ofText argument with
      | .error stop => .error stop
      | .ok word =>
        match listOfTexts rest with
        | .error stop => .error stop
        | .ok words => .ok ((argument, word) :: words)

end Word

/-- The schema file that is asked for. -/
inductive SchemaFile
  | named (path : Text)
  /-- The option is there, and its value names nothing. -/
  | unnamed
deriving DecidableEq

/-- What the arguments ask for. -/
structure Arguments where
  config : Option Text
  schemaFile : Option SchemaFile
  yes : Bool
  verbose : Bool
  /-- The arguments that mean nothing. -/
  extras : List Text
deriving DecidableEq

namespace Arguments

/-- No argument. -/
def empty : Arguments :=
  { config := none, schemaFile := none, yes := false, verbose := false, extras := [] }

/-- The value names nothing. -/
def namesNothing (value : Text) : Bool :=
  value = ("--" : Text)

/-- The arguments with an option. -/
def set (arguments : Arguments) (flag : Flag) (value : Text) : Except ArgumentStop Arguments :=
  match flag with
  | .help => .error .help
  | .config => .ok { arguments with config := if namesNothing value then none else some value }
  | .schemaFile =>
    .ok { arguments with
      schemaFile := some (if namesNothing value then .unnamed else .named value) }
  | .yes => .ok { arguments with yes := true }
  | .verbose => .ok { arguments with verbose := true }

/-- The arguments with one that means nothing. -/
def addExtra (arguments : Arguments) (extra : Text) : Arguments :=
  { arguments with extras := arguments.extras ++ [extra] }

/-- The short options that share an argument with one before them. -/
def readCluster (flag : Flag) : Text → Except ArgumentStop (List Flag)
  | [] => .error (.ignoredValue flag [])
  | c :: rest =>
    match Flag.ofName? [CodePoint.ofChar '-', c] with
    | none => .error (.ignoredValue flag (c :: rest))
    | some next =>
      if rest = [] then .ok [flag, next]
      else (readCluster next rest).map (flag :: ·)

/-- The arguments with options that share one argument. -/
def setCluster (arguments : Arguments) (flag : Flag) (text : Text) :
    Except ArgumentStop Arguments :=
  match readCluster flag text with
  | .error stop => .error stop
  | .ok flags => flags.foldlM (fun arguments flag => arguments.set flag []) arguments

/-- The name of an option is a long one. -/
def isLongName (name : Text) : Bool :=
  ("--" : Text).isPrefixOf name

/-- Reads words one after the other. -/
def readWords (arguments : Arguments) : List (Text × Word) → Except ArgumentStop Arguments
  | [] => .ok arguments
  | (text, .plain) :: rest | (text, .separator) :: rest | (text, .unknownOption) :: rest =>
    readWords (arguments.addExtra text) rest
  | (_, .known _ flag .nothing) :: rest =>
    if flag.takesValue then
      match rest with
      | (value, .plain) :: rest =>
        match arguments.set flag value with
        | .ok arguments => readWords arguments rest
        | .error stop => .error stop
      | _ => .error (.missingValue flag)
    else
      match arguments.set flag [] with
      | .ok arguments => readWords arguments rest
      | .error stop => .error stop
  | (_, .known name flag (.afterEquals value)) :: rest =>
    let read :=
      if flag.takesValue then arguments.set flag value
      else if isLongName name then .error (.ignoredValue flag value)
      else arguments.setCluster flag value
    match read with
    | .ok arguments => readWords arguments rest
    | .error stop => .error stop
  | (_, .known _ flag (.direct text)) :: rest =>
    match arguments.setCluster flag text with
    | .ok arguments => readWords arguments rest
    | .error stop => .error stop

/-- Reads the arguments of the program. -/
def parse (texts : List Text) : Except ArgumentStop Arguments :=
  match Word.listOfTexts texts with
  | .error stop => .error stop
  | .ok words =>
    match readWords empty words with
    | .error stop => .error stop
    | .ok arguments =>
      if arguments.extras = [] then .ok arguments else .error (.unrecognized arguments.extras)

end Arguments

end QueryScaffold
