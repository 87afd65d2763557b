import SpriteScript.CommandLine.Folder
import SpriteScript.CommandLine.Options
import SpriteScript.Compilation
import SpriteScript.Json.Reader
import SpriteScript.Program.Dump
import SpriteScript.Text.Basic

/-!
# Running a command

A command reads its source from a file or from the standard input, does what its mode asks for,
and writes the result to a file or to the standard output. Log records from a chosen level on and
the warnings of a compilation go to the standard error output. A source that cannot be read ends
the command with a message. A few faults are not handled: they end the command without an exit
status, and what was written before stays.
-/

namespace SpriteScript.CommandLine

open SpriteScript

/-- A fault that is not handled. -/
inductive Crash where
  /-- The source is not valid UTF-8. -/
  | undecodable
  /-- The path of the source is none, or the output cannot be written. -/
  | path (error : PathError)
  /-- The output has a target that names no file. -/
  | noTarget
  /-- The log level names something that is no level. -/
  | badLevel (error : Error)

/-- The capital letters of a character, as far as they are ASCII or the character itself. -/
def capitals (c : Char) : List Char :=
  if c.toNat == 0x131 then ['I']
  else if c.toNat == 0x17f then ['S']
  else if c.toNat == 0xfb05 || c.toNat == 0xfb06 then ['S', 'T']
  else [c.toUpper]

/-- The rank from which on records are shown. It is given by the name of a level in any case;
a name that is none stands for the level of warnings. Two names belong to other things than
levels and cannot be used. -/
def threshold (name : Option String) : Except Error Nat :=
  match (name.map fun name => String.ofList (name.toList.flatMap capitals)).getD "WARNING" with
  | "NOTSET" => .ok 0
  | "DEBUG" => .ok LogLevel.debug.rank
  | "INFO" => .ok LogLevel.info.rank
  | "WARNING" => .ok LogLevel.warning.rank
  | "WARN" => .ok LogLevel.warning.rank
  | "ERROR" => .ok LogLevel.error.rank
  | "CRITICAL" => .ok LogLevel.critical.rank
  | "FATAL" => .ok LogLevel.critical.rank
  | "BASIC_FORMAT" => .error .badValue
  | "_STYLES" => .error .wrongType
  | _ => .ok LogLevel.warning.rank

/-- How a command begins: it is over at once, crashes, or goes on with its options and the rank
from which on records are shown. -/
inductive Start where
  | over (exit : Nat) (output notes : Text)
  | crashed (crash : Crash)
  | ready (options : Options) (rank : Nat)

/-- Begins a command. -/
def start (words : List String) (level : Option String) : Start :=
  match interpret words with
  | .help => .over 0 helpText ""
  | .version => .over 0 versionText ""
  | .refused message => .over 2 "" (usage ++ "blockc: error: " ++ message ++ "\n")
  | .run options =>
    if options.verbose then .ready options LogLevel.debug.rank
    else
      match threshold level with
      | .error error => .crashed (.badLevel error)
      | .ok rank => .ready options rank

/-- Line ends of every kind become line feeds. -/
def unifyLineEnds : List Char → List Char
  | [] => []
  | '\r' :: '\n' :: rest => '\n' :: unifyLineEnds rest
  | c :: rest => (if c == '\r' then '\n' else c) :: unifyLineEnds rest

/-- The text of a source. -/
def decodeSource (bytes : ByteArray) : Except Crash String :=
  match String.fromUTF8? bytes with
  | some text => .ok (String.ofList (unifyLineEnds text.toList))
  | none => .error .undecodable

/-- What a command makes of its source: the notes for the standard error output, the result, and
the exit status. -/
structure Product where
  notes : Text
  result : Option Text
  exit : Nat

/-- The records that are shown, as text. -/
def recordText (rank : Nat) (records : List LogRecord) : Text :=
  (records.filter fun record => rank ≤ record.level.rank).flatMap LogRecord.line

/-- The answer to a source that is a request. A source that is no JSON carries no request. -/
def answerRequest (rank : Nat) (source : String) : Product :=
  let (response, records) := respondTo ((Json.read? source).getD .null)
  let succeeded :=
    match response with
    | .mapping entries => (Datum.get? entries "js").isSome
    | _ => false
  { notes := recordText rank records
    result := some (Json.write { ascii := true } response ++ "\n")
    exit := if succeeded then 0 else 1 }

/-- The tokens of a source as JSON. -/
def showTokens (rank : Nat) (source : String) : Product :=
  let (tokens, lexer) := (Lexer.ofText source).tokenize
  { notes := recordText rank (lexer.warnings.map .noticed)
    result := some (Json.write { ascii := true } (.list (tokens.map .text)) ++ "\n")
    exit := 0 }

/-- The program of a source as JSON. -/
def showProgram (rank : Nat) (source : String) : Product :=
  let (tokens, lexer) := (Lexer.ofText source).tokenize
  let parser := (Parser.ofTokens tokens).parse
  { notes := recordText rank ((lexer.warnings ++ parser.warnings).map .noticed)
    result := some (Json.write { ascii := true, indent := some 2 } parser.program.dump ++ "\n")
    exit := 0 }

/-- The code of a source, with its warnings in the notes. -/
def showCode (rank : Nat) (source : String) : Product :=
  let compilation := compile (.text source)
  let warnings : Text := compilation.result.warnings.flatMap fun warning =>
    "warning: " ++ warning.line ++ "\n"
  let notes := recordText rank compilation.records ++ warnings
  match compilation.result.output with
  | .ok code => { notes, result := some code, exit := 0 }
  | .error message => { notes := notes ++ "Error: " ++ message ++ "\n", result := none, exit := 1 }

/-- Does what the mode asks for. -/
def process (mode : Mode) (rank : Nat) (source : String) : Product :=
  match mode with
  | .code => showCode rank source
  | .tokens => showTokens rank source
  | .program => showProgram rank source
  | .request => answerRequest rank source

/-- The end of a command whose source cannot be read. -/
def unreadable (path : String) (error : PathError) : Product where
  notes := "Error: cannot read " ++ path ++ ": " ++ error.text ++ "\n"
  result := none
  exit := 1

/-- What a command is given. -/
structure Surroundings where
  words : List String
  level : Option String := none
  input : ByteArray := ByteArray.empty
  folder : Folder := {}

/-- What a command leaves behind. Without an exit status it crashed. -/
structure Session where
  exit : Option Nat
  output : Text := []
  notes : Text := []
  folder : Folder
  crash : Option Crash := none

/-- A command that crashed after some notes. -/
def Session.crashed (folder : Folder) (notes : Text) (crash : Crash) : Session :=
  { exit := none, notes, folder, crash := some crash }

/-- Writes the result of a command to its target. -/
def deliver (folder : Folder) (target : Target) (product : Product) : Session :=
  match product.result, target with
  | none, _ => { exit := some product.exit, notes := product.notes, folder }
  | some result, .standard =>
    { exit := some product.exit, output := result, notes := product.notes, folder }
  | some _, .nowhere => .crashed folder product.notes .noTarget
  | some result, .file path =>
    match folder.write path (Text.plain result).toUTF8 with
    | .ok after => { exit := some product.exit, notes := product.notes, folder := after }
    | .error error => .crashed folder product.notes (.path error)

/-- The bytes of the source, from the file if there is one and from the standard input if not. -/
def readSource (surroundings : Surroundings) (file : Option String) :
    Except PathError ByteArray :=
  match file with
  | none => .ok surroundings.input
  | some path => surroundings.folder.read path

/-- Runs a command. -/
def run (surroundings : Surroundings) : Session :=
  let folder := surroundings.folder
  match start surroundings.words surroundings.level with
  | .over exit output notes => { exit := some exit, output, notes, folder }
  | .crashed crash => .crashed folder [] crash
  | .ready options rank =>
    match readSource surroundings options.file with
    | .error .notAPath => .crashed folder [] (.path .notAPath)
    | .error error =>
      deliver folder options.output (unreadable (options.file.getD "") error)
    | .ok bytes =>
      match decodeSource bytes with
      | .error crash => .crashed folder [] crash
      | .ok source => deliver folder options.output (process options.mode rank source)

end SpriteScript.CommandLine
