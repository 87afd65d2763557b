import SpriteScript.JavaScript.Emission
import SpriteScript.Lexer
import SpriteScript.Log
import SpriteScript.Parser

/-!
# Compiling

Source text becomes tokens, tokens become a program, and the program becomes code. A source that
is a text always compiles; flaws in it only cause warnings. A request is a mapping that carries
the source under one key, and its answer carries the code or a message.
-/

namespace SpriteScript

/-- The outcome of a compilation: a message if it failed or the code if it did not, and the
warnings. -/
structure Outcome where
  output : Except Text Text
  warnings : List Warning := []

namespace Outcome

/-- A result from code or message, of which exactly one must be given. -/
def ofParts (code message : Option Text) (warnings : List Warning) :
    Except Error Outcome :=
  match code, message with
  | some code, none => .ok { output := .ok code, warnings }
  | none, some message => .ok { output := .error message, warnings }
  | _, _ => .error .badValue

/-- The compilation did not fail. -/
def ok (result : Outcome) : Bool :=
  result.output.isOk

/-- The answer to a request. -/
def response (result : Outcome) : Datum :=
  match result.output with
  | .ok code => .mapping [("js", .text code)]
  | .error message => .mapping [("error", .text message)]

/-- The result in short: the size of the code and the number of warnings, or the message. -/
def display (result : Outcome) : Text :=
  match result.output with
  | .ok code =>
    "CompileResult(js=<" ++ Decimal.intText code.length ++ " chars>, warnings=" ++
      Decimal.intText result.warnings.length ++ ")"
  | .error message => "CompileResult(error=" ++ Text.quoted message ++ ")"

/-- The result of a compilation that failed, whatever the reason. -/
def failed : Outcome :=
  { output := .error (ErrorCode.compilationFailed.title ++ ".") }

end Outcome

/-- A compilation with the records that it made. -/
structure Compilation where
  result : Outcome
  records : List LogRecord

/-- A compilation that an error ended after some records. -/
def Compilation.failed (records : List LogRecord) (error : Error) : Compilation where
  result := .failed
  records := records ++
    [{ level := .error, message := "compilation failed", cause := some error }]

/-- The record of how much a program holds. -/
def parsedRecord (program : Program) : LogRecord where
  level := .debug
  message :=
    "parsed " ++ Decimal.intText program.scripts.length ++ " scripts, " ++
      Decimal.intText program.variableTable.size ++ " variables, " ++
      Decimal.intText program.listTable.size ++ " lists"

/-- The records of reading a text into tokens. -/
def tokenizedRecords (tokens : List Text) (warnings : List Warning) : List LogRecord :=
  warnings.map .noticed ++
    [{ level := .debug, message := "tokenized " ++ Decimal.intText tokens.length ++ " tokens" }]

/-- Compiles a program that was parsed, after the records and warnings so far. -/
def compileProgram (program : Program) (records : List LogRecord) (warnings : List Warning) :
    Compilation :=
  let emission := JavaScript.generate program
  let records := records ++ emission.warnings.map .noticed
  match emission.code with
  | .error error => .failed records error
  | .ok code =>
    let warnings := warnings ++ emission.warnings
    { result := { output := .ok code, warnings }
      records := records ++ warnings.map .summarised }

/-- Compiles a source. -/
def compile (source : Datum) : Compilation :=
  match Lexer.ofSource source with
  | .error error => .failed [] error
  | .ok lexer =>
    let (tokens, lexer) := lexer.tokenize
    let records := tokenizedRecords tokens lexer.warnings
    match Parser.create tokens with
    | .error error => .failed records error
    | .ok parser =>
      let parser := parser.parse
      compileProgram parser.program
        (records ++ parser.warnings.map .noticed ++ [parsedRecord parser.program])
        (lexer.warnings ++ parser.warnings)

/-- The answer to a request, with the records made for it. A request that is not a mapping with a
text under `code` is not compiled. -/
def respondTo (payload : Datum) : Datum × List LogRecord :=
  let refusal : Datum × List LogRecord :=
    (.mapping [("error", .text "Request must carry a \"code\" string.")], [])
  match payload with
  | .mapping entries =>
    match Datum.get? entries "code" with
    | some (.text source) =>
      let compilation := compile (.text source)
      (compilation.result.response, compilation.records)
    | _ => refusal
  | _ => refusal

end SpriteScript
