import SpriteScript.Text.Quoted

/-!
# Command-line arguments

Words that begin with a hyphen are switches; the others are arguments. A long switch may be cut
short as long as only one can be meant, and a value may be attached to it by an equals sign. Short
switches may be bundled, and the rest of a bundle is the value of the first one that takes a
value. The word `--` makes all words after it arguments. Words that look like negative numbers,
and unknown words with a blank in them, are arguments too.

Words are told apart first, all of them, and then taken from left to right; the first switch that
asks for help or for the version ends it, and so does the first mistake.
-/

namespace SpriteScript.CommandLine

/-- What a switch asks for. -/
inductive Switch where
  | help
  | output
  | tokens
  | program
  | request
  | verbose
  | version
deriving DecidableEq

/-- All switches by their spellings. -/
def spellings : List (String × Switch) := [
  ("-h", .help), ("--help", .help), ("-o", .output), ("--output", .output),
  ("--tokens", .tokens), ("--ast", .program), ("--json", .request),
  ("-v", .verbose), ("--verbose", .verbose), ("--version", .version)]

/-- A switch in messages: all of its spellings. -/
def Switch.title (switch : Switch) : String :=
  "/".intercalate ((spellings.filter fun (_, other) => other = switch).map Prod.fst)

/-- The message that something is wrong about a switch. -/
def Switch.complaint (switch : Switch) (text : String) : String :=
  "argument " ++ switch.title ++ ": " ++ text

/-- What a word is. A switch may be short or long and may have a value attached. -/
inductive Role where
  | separator
  | argument
  | switch (switch : Switch) (short : Bool) (attached : Option String)
  | unknown

/-- A word with its role. -/
structure Word where
  text : String
  role : Role

/-- A spelling is short if a single hyphen begins it. -/
def isShort (spelling : String) : Bool :=
  spelling.toList[1]? != some '-'

/-- The parts before and after the first equals sign, if there is one. -/
def splitAtEquals (word : List Char) : List Char × Option String :=
  match word.dropWhile (· != '=') with
  | [] => (word, none)
  | _ :: value => (word.takeWhile (· != '='), some (String.ofList value))

/-- The readings of a word as a switch that is cut short or has its value attached without an
equals sign. -/
def candidates (word : List Char) : List (String × Switch × Option String) :=
  match word with
  | '-' :: '-' :: _ =>
    let (name, attached) := splitAtEquals word
    spellings.filterMap fun (spelling, switch) =>
      if name.isPrefixOf spelling.toList then some (spelling, switch, attached) else none
  | _ =>
    spellings.filterMap fun (spelling, switch) =>
      if spelling.toList == word.take 2 then
        some (spelling, switch, some (String.ofList (word.drop 2)))
      else if word.isPrefixOf spelling.toList then some (spelling, switch, none)
      else none

/-- The characters after a hyphen are those of a number: digits, or digits with a point before
the last of them. A line feed may end them. -/
def isNegativeNumber (afterHyphen : List Char) : Bool :=
  let trimmed := if afterHyphen.getLast? = some '\n' then afterHyphen.dropLast else afterHyphen
  let isDigit (c : Char) : Bool := Text.isDecimalDigit c
  let whole := trimmed.takeWhile isDigit
  match trimmed.dropWhile isDigit with
  | [] => !whole.isEmpty
  | '.' :: fraction => !fraction.isEmpty && fraction.all isDigit
  | _ => false

/-- The role of a word that begins with a hyphen, has more characters and is no spelling. -/
def hyphenRole (word : String) : Except String Role :=
  let chars := word.toList
  let (name, attached) := splitAtEquals chars
  match attached, spellings.lookup (String.ofList name) with
  | some value, some switch => .ok (.switch switch (isShort (String.ofList name)) (some value))
  | _, _ =>
    match candidates chars with
    | [(spelling, switch, attached)] => .ok (.switch switch (isShort spelling) attached)
    | [] =>
      if isNegativeNumber chars.tail || chars.contains ' ' then .ok .argument else .ok .unknown
    | several =>
      .error ("ambiguous option: " ++ word ++ " could match " ++
        ", ".intercalate (several.map fun (spelling, _) => spelling))

/-- The role of a word before any separator. -/
def roleOf (word : String) : Except String Role :=
  match word.toList with
  | [] => .ok .argument
  | first :: rest =>
    if first != '-' then .ok .argument
    else
      match spellings.lookup word with
      | some switch => .ok (.switch switch (isShort word) none)
      | none => if rest.isEmpty then .ok .argument else hyphenRole word

/-- Gives each word its role. After the separator every word is an argument. -/
def classify : List String → Except String (List Word)
  | [] => .ok []
  | word :: rest => do
    if word == "--" then
      return ⟨word, .separator⟩ :: rest.map (⟨·, .argument⟩)
    else
      let role ← roleOf word
      return ⟨word, role⟩ :: (← classify rest)

/-- What to do with the source. -/
inductive Mode where
  /-- Write the generated code. -/
  | code
  /-- Write the tokens. -/
  | tokens
  /-- Write the parsed program. -/
  | program
  /-- Take the source as a request and write the answer. -/
  | request
deriving DecidableEq

/-- Where to write the result. The separator cannot be the name of a file, so as an attached value
it leaves nowhere to write to. -/
inductive Target where
  | standard
  | file (path : String)
  | nowhere

/-- What the arguments ask for. Without a file the source is the standard input. -/
structure Options where
  file : Option String := none
  output : Target := .standard
  mode : Mode := .code
  verbose : Bool := false

/-- What the arguments come to. -/
inductive Invocation where
  | run (options : Options)
  | help
  | version
  | refused (message : String)

/-- How far the words were taken: the options so far, the switch that set the mode, whether the
file was given and whether just now, the words left over, and the switches of a bundle whose
last one waits for its value. -/
structure Progress where
  options : Options := {}
  modeSwitch : Option Switch := none
  fileGiven : Bool := false
  fileJustGiven : Bool := false
  leftOver : List String := []
  waiting : Option (List Switch) := none

/-- The message that a switch takes no value. -/
def ignoredValue (switch : Switch) (value : String) : String :=
  switch.complaint ("ignored explicit argument " ++ Text.plain (Text.quoted value))

/-- Takes a bundle apart: the switch that begins it and what follows it. The result is the switches
of the bundle and the value of the last one, if that has it attached. -/
def unbundle (switch : Switch) : List Char → Except String (List Switch × Option String)
  | [] => .ok ([switch], none)
  | c :: rest =>
    if switch = .output then .ok ([switch], some (String.ofList (c :: rest)))
    else
      match spellings.lookup (String.ofList ['-', c]) with
      | none => .error (ignoredValue switch (String.ofList (c :: rest)))
      | some next => do
        let (switches, value) ← unbundle next rest
        return (switch :: switches, value)

/-- The switches of a word and the value of the last one, if that has it attached. -/
def switchesOf (switch : Switch) (short : Bool) (attached : Option String) :
    Except String (List Switch × Option String) :=
  match attached with
  | none => .ok ([switch], none)
  | some value =>
    if switch = .output then .ok ([switch], some value)
    else if short && !value.isEmpty then unbundle switch value.toList
    else .error (ignoredValue switch value)

/-- Sets the mode, which only one switch may do. -/
def setMode (switch : Switch) (mode : Mode) (progress : Progress) : Except Invocation Progress :=
  match progress.modeSwitch with
  | some earlier =>
    if earlier = switch then .ok progress
    else .error (.refused (switch.complaint ("not allowed with argument " ++ earlier.title)))
  | none =>
    .ok { progress with
          modeSwitch := some switch
          options := { progress.options with mode } }

/-- The target that a value names. -/
def targetOf (value : String) : Target :=
  if value == "--" then .nowhere else .file value

/-- Does what a switch asks for. -/
def perform (value : Option String) (progress : Progress) : Switch → Except Invocation Progress
  | .help => .error .help
  | .version => .error .version
  | .verbose => .ok { progress with options := { progress.options with verbose := true } }
  | .tokens => setMode .tokens .tokens progress
  | .program => setMode .program .program progress
  | .request => setMode .request .request progress
  | .output =>
    .ok { progress with
          options := { progress.options with output := targetOf (value.getD "") } }

/-- Does what the switches of a word ask for, in order. -/
def performAll (switches : List Switch) (value : Option String) (progress : Progress) :
    Except Invocation Progress :=
  switches.foldlM (perform value) progress

/-- A word that nothing takes. -/
def Progress.leave (progress : Progress) (word : String) : Progress :=
  { progress with leftOver := progress.leftOver ++ [word], fileJustGiven := false }

/-- Takes one word. The switch before it may wait for it. The separator goes with the file before
or after it. -/
def takeWord (progress : Progress) (word : Word) : Except Invocation Progress :=
  match progress.waiting, word.role with
  | some switches, .argument =>
    performAll switches (some word.text) { progress with waiting := none }
  | some _, _ => .error (.refused (Switch.output.complaint "expected one argument"))
  | none, .argument =>
    if progress.fileGiven then .ok (progress.leave word.text)
    else
      .ok { progress with
            options := { progress.options with file := some word.text }
            fileGiven := true
            fileJustGiven := true }
  | none, .separator =>
    if progress.fileGiven && !progress.fileJustGiven then .ok (progress.leave word.text)
    else .ok { progress with fileJustGiven := false }
  | none, .unknown => .ok (progress.leave word.text)
  | none, .switch switch short attached =>
    let progress := { progress with fileJustGiven := false }
    match switchesOf switch short attached with
    | .error message => .error (.refused message)
    | .ok (switches, value) =>
      if switches.getLast? = some .output ∧ value = none then
        .ok { progress with waiting := some switches }
      else performAll switches value progress

/-- What all words come to. -/
def Progress.conclude (progress : Progress) : Invocation :=
  if progress.waiting.isSome then .refused (Switch.output.complaint "expected one argument")
  else if progress.leftOver.isEmpty then .run progress.options
  else .refused ("unrecognized arguments: " ++ " ".intercalate progress.leftOver)

/-- Reads the arguments of a command line. -/
def interpret (words : List String) : Invocation :=
  match classify words with
  | .error message => .refused message
  | .ok words =>
    match words.foldlM takeWord {} with
    | .error invocation => invocation
    | .ok progress => progress.conclude

/-- The usage in short. -/
def usage : String :=
  "usage: blockc [-h] [-o OUTPUT] [--tokens | --ast | --json] [-v] [--version]\n" ++
  "              [file]\n"

/-- The help text. -/
def helpText : String :=
  usage ++
  "\n" ++
  "Compile block-style sprite scripts to JavaScript.\n" ++
  "\n" ++
  "positional arguments:\n" ++
  "  file                  source file, stdin when omitted\n" ++
  "\n" ++
  "options:\n" ++
  "  -h, --help            show this help message and exit\n" ++
  "  -o OUTPUT, --output OUTPUT\n" ++
  "                        write the result here instead of stdout\n" ++
  "  --tokens              print the token list as JSON\n" ++
  "  --ast                 print the parsed program as JSON\n" ++
  "  --json                read a \x7b\"code\": ...\x7d request and print a\n" ++
  "                        \x7b\"js\"|\"error\": ...\x7d response\n" ++
  "  -v, --verbose         log compilation steps\n" ++
  "  --version             show program's version number and exit\n"

/-- The version line. -/
def versionText : String :=
  "blockc 0.1.0\n"

end SpriteScript.CommandLine
