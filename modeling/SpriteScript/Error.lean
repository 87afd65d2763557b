import SpriteScript.Datum.Display

/-!
# Errors

An error is a cause that stops an operation. Four causes are diagnosed: a source that is no
text, a token that is none, and a link to a block that does not exist or that was reached
before. The others are what malformed data runs into while it is loaded or written out; they
have no text of their own.

A diagnosis that shows a datum exists only if the datum can be written, so the error holds the
proof of that. Where the datum cannot be written, the attempt to report it fails instead.
-/

namespace SpriteScript

/-- The part of the compiler that a diagnosis comes from. -/
inductive Origin where
  | compiler
  | lexer
  | parser
  | generator
deriving DecidableEq

/-- The name of an origin, which opens its messages. -/
def Origin.name : Origin → Text
  | .compiler => "CompilerError"
  | .lexer => "LexerError"
  | .parser => "ParserError"
  | .generator => "CodeGeneratorError"

/-- What a diagnosis is about. -/
inductive ErrorCode where
  | invalidSource
  | invalidToken
  | unknownBlock
  | cyclicChain
  | compilationFailed
deriving DecidableEq

namespace ErrorCode

/-- The code in words. -/
def title : ErrorCode → Text
  | .invalidSource => "Invalid source"
  | .invalidToken => "Invalid token"
  | .unknownBlock => "Unknown block"
  | .cyclicChain => "Cyclic chain"
  | .compilationFailed => "Compilation failed"

/-- The name by which a code is referred to. -/
def name : ErrorCode → Text
  | .invalidSource => "INVALID_SOURCE"
  | .invalidToken => "INVALID_TOKEN"
  | .unknownBlock => "UNKNOWN_BLOCK"
  | .cyclicChain => "CYCLIC_CHAIN"
  | .compilationFailed => "COMPILATION_FAILED"

end ErrorCode

/-- A diagnosed failure. -/
structure Diagnosis where
  origin : Origin
  code : ErrorCode
  detail : Text := []
deriving DecidableEq

/-- The full text of a diagnosis. -/
def Diagnosis.message (diagnosis : Diagnosis) : Text :=
  diagnosis.origin.name ++ ": " ++ diagnosis.code.title ++ ": " ++ diagnosis.detail

/-- The causes that stop an operation. -/
inductive Error where
  /-- The source to compile is not a text. -/
  | sourceNotText (found : Datum)
  /-- A token is not a text or has no characters. -/
  | invalidToken (found : Datum) (writable : found.isWritable = true)
  /-- A link leads to no block. -/
  | unknownBlock (link : Datum) (writable : link.isWritable = true)
  /-- A link leads to a block that was reached before. -/
  | cyclicChain (link : Datum) (writable : link.isWritable = true)
  /-- A mapping lacks a key. -/
  | missingKey (key : Datum)
  /-- A datum of this kind cannot be used here. -/
  | wrongType
  /-- A text or number has no meaning here, or is an integer too long to be written. -/
  | badValue
  /-- A sequence is too short. -/
  | outOfRange
  /-- A datum of this kind lacks what is asked of it. -/
  | lacksOperation
  /-- A number is too large. -/
  | tooLarge

/-- The diagnosis of an error, if it is one of the four that are diagnosed. -/
def Error.diagnosis? : Error → Option Diagnosis
  | .sourceNotText found =>
    some ⟨.lexer, .invalidSource, "Expect str, but " ++ found.typeName ++ " was given"⟩
  | .invalidToken found _ =>
    some ⟨.parser, .invalidToken,
      "Expect a non-empty str token, but " ++ found.display ++ " was given"⟩
  | .unknownBlock link _ => some ⟨.generator, .unknownBlock, "No block with id " ++ link.display⟩
  | .cyclicChain link _ =>
    some ⟨.generator, .cyclicChain, "Block " ++ link.shown ++ " is linked more than once"⟩
  | _ => none

/-- Reports something that shows a datum. If the datum cannot be written, neither can the report,
and the error is that of the datum. -/
def Error.showing (datum : Datum) (report : datum.isWritable = true → Error) : Error :=
  if writable : datum.isWritable = true then report writable else .badValue

/-- A report that shows a datum is given if the datum can be written. -/
theorem Error.showing_of_writable {datum : Datum} (report : datum.isWritable = true → Error)
    (writable : datum.isWritable = true) : Error.showing datum report = report writable :=
  dif_pos writable

/-- Of a datum that cannot be written there is no report. -/
theorem Error.showing_of_long {datum : Datum} (report : datum.isWritable = true → Error)
    (long : datum.isWritable = false) : Error.showing datum report = .badValue :=
  dif_neg (by simp [long])

/-- The two errors that showing a datum can come to. -/
theorem Error.showing_eq_iff {datum : Datum} {report : datum.isWritable = true → Error}
    {error : Error} :
    Error.showing datum report = error ↔
      (∃ writable, report writable = error) ∨ datum.isWritable = false ∧ .badValue = error := by
  by_cases writable : datum.isWritable = true
  · rw [showing_of_writable report writable]
    simp [writable]
  · rw [showing_of_long report (by simpa using writable)]
    simp [writable]

/-- A computation in two steps has a result only if both steps have one. -/
theorem exists_ok_of_bind {α β : Type} {first : Except Error α} {second : α → Except Error β}
    {result : β} (succeeded : (first >>= second) = .ok result) :
    ∃ value, first = .ok value ∧ second value = .ok result := by
  cases first with
  | error error => cases succeeded
  | ok value => exact ⟨value, rfl, succeeded⟩

/-- What was made of items was made of one of them each. -/
theorem mem_of_mapM_ok {α β : Type} {make : α → Except Error β} {items : List α}
    {results : List β} (made : items.mapM make = .ok results) :
    ∀ result ∈ results, ∃ item ∈ items, make item = .ok result := by
  induction items generalizing results with
  | nil =>
    cases made
    simp
  | cons item rest inductionHypothesis =>
    rw [List.mapM_cons] at made
    obtain ⟨first, here, made⟩ := exists_ok_of_bind made
    obtain ⟨others, later, made⟩ := exists_ok_of_bind made
    cases made
    intro result member
    rcases List.mem_cons.mp member with rfl | among
    · exact ⟨item, List.mem_cons_self, here⟩
    · obtain ⟨source, listed, same⟩ := inductionHypothesis later result among
      exact ⟨source, List.mem_cons_of_mem item listed, same⟩

end SpriteScript
