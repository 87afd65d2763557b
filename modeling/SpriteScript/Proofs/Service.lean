import SpriteScript.CommandLine.Session
import SpriteScript.Proofs.Wholeness

/-!
# Requests are answered with the code of the source

A command can take its source as it stands or inside of a request. A request is decoded, the
source in it is compiled, and the code is encoded in the answer. The answer to a request that
carries a source carries the code that the source itself is compiled to.
-/

namespace SpriteScript.CommandLine

open SpriteScript

/-- Without carriage returns there are no line ends to unify. -/
theorem unifyLineEnds_of_clear {chars : List Char} (clear : '\r' ∉ chars) :
    unifyLineEnds chars = chars := by
  induction chars with
  | nil => rfl
  | cons c rest inductionHypothesis =>
    have other : c ≠ '\r' := fun same => clear (same ▸ List.mem_cons_self)
    have later : '\r' ∉ rest := fun member => clear (List.mem_cons_of_mem c member)
    rw [unifyLineEnds, inductionHypothesis later]
    · simp [other]
    · exact fun _ same => absurd same other

/-- A text without carriage returns is read from its bytes. -/
theorem decodeSource_toUTF8 {source : String} (clear : '\r' ∉ source.toList) :
    decodeSource source.toUTF8 = .ok source := by
  have decoded : String.fromUTF8? source.toUTF8 = some source := by
    simp only [String.fromUTF8?, String.toUTF8_eq_toByteArray, dif_pos source.isValidUTF8]
    rfl
  simp only [decodeSource, decoded, unifyLineEnds_of_clear clear, String.ofList_toList]

/-- A command that is only given a mode puts its input through the mode. -/
theorem run_piped {words : List String} {level : Option String} {mode : Mode} {rank : Nat}
    {source : String} (folder : Folder) (interpreted : interpret words = .run { mode })
    (named : threshold level = .ok rank) (clear : '\r' ∉ source.toList) :
    run { words, level, input := source.toUTF8, folder } =
      deliver folder .standard (process mode rank source) := by
  have started : start words level = .ready { mode } rank := by
    simp [start, interpreted, named]
  simp only [run, started, readSource, decodeSource_toUTF8 clear]

variable {level : Option String} {rank : Nat} {code : Text}

/-- The code of a source that compiles is written. -/
theorem run_source {source : String} (folder : Folder) (named : threshold level = .ok rank)
    (clear : '\r' ∉ source.toList) (output : (compile (.text source)).result.output = .ok code) :
    ∃ notes, run { words := [], level, input := source.toUTF8, folder } =
      { exit := some 0, output := code, notes, folder } := by
  have shown : ∃ notes, showCode rank source = { notes, result := some code, exit := 0 } := by
    simp only [showCode, output]
    exact ⟨_, rfl⟩
  obtain ⟨notes, shown⟩ := shown
  refine ⟨notes, ?_⟩
  rw [run_piped folder rfl named clear, process, shown]
  rfl

/-- A request with a source that compiles is answered with the code. -/
theorem run_request {request : String} {source : Text} (folder : Folder)
    (named : threshold level = .ok rank) (clear : '\r' ∉ request.toList)
    (carries : Json.read? request = some (.mapping [("code", .text source)]))
    (output : (compile (.text source)).result.output = .ok code) :
    ∃ notes, run { words := ["--json"], level, input := request.toUTF8, folder } =
      { exit := some 0
        output := Json.write { ascii := true } (.mapping [("js", .text code)]) ++ "\n"
        notes, folder } := by
  have found : Datum.get? [(("code" : Text), Datum.text source)] "code" = some (.text source) :=
    rfl
  have response :
      (respondTo (.mapping [("code", .text source)])).1 = .mapping [("js", .text code)] := by
    simp only [respondTo, found, Outcome.response, output]
  have accepted : (Datum.get? [(("js" : Text), Datum.text code)] "js").isSome = true := rfl
  have answered : ∃ notes, answerRequest rank request =
      { notes
        result := some (Json.write { ascii := true } (.mapping [("js", .text code)]) ++ "\n")
        exit := 0 } := by
    simp only [answerRequest, carries, Option.getD_some, response, accepted, if_true]
    exact ⟨_, rfl⟩
  obtain ⟨notes, answered⟩ := answered
  refine ⟨notes, ?_⟩
  rw [run_piped folder rfl named clear, process, answered]
  rfl

/-- A request that carries a source as a JSON string is answered with the code in place of it.
The command ends well, and so does the one that takes the source as it stands. The answer is a
single line of printed ASCII characters, and what it decodes to carries exactly the text that
the other command writes. -/
theorem request_answered_with_code {source : String} (folder : Folder)
    (clear : '\r' ∉ source.toList) (named : threshold level = .ok rank) :
    let request := Json.write { ascii := true } (.mapping [("code", .text source)])
    let service := run { words := ["--json"], level, input := (Text.plain request).toUTF8, folder }
    let direct := run { words := [], level, input := source.toUTF8, folder }
    service.exit = some 0 ∧ direct.exit = some 0 ∧
      (∃ line : String, service.output = Text.ofString (line ++ "\n") ∧
        ∀ c ∈ line.toList, 0x20 ≤ c.toNat ∧ c.toNat ≤ 0x7e) ∧
      Json.read? (Text.plain service.output) = some (.mapping [("js", .text direct.output)]) := by
  -- Two halves that stand on their own side by side would be read back as one character, so
  -- it matters that the code has none.
  obtain ⟨code, wholeCode, output⟩ := compile_whole (Text.whole_ofString source)
  obtain ⟨asked, askedWritten, askedPrinted, askedRead⟩ :=
    Json.exists_read_entry (Text.whole_ofString "code") (Text.whole_ofString source)
  obtain ⟨line, lineWritten, linePrinted, lineRead⟩ :=
    Json.exists_read_entry (Text.whole_ofString "js") wholeCode
  have carries : Json.read? (String.ofList asked) = some (.mapping [("code", .text source)]) := by
    simpa using askedRead [] (List.forall_mem_nil _)
  have askedClear : '\r' ∉ (String.ofList asked).toList := by
    rw [String.toList_ofList]
    exact fun member => absurd (askedPrinted _ member) (by decide)
  have answer : Text.ofChars line ++ ("\n" : Text) = Text.ofChars (line ++ ['\n']) := by
    simp [Text.ofChars, Text.ofString]
  obtain ⟨_, answered⟩ := run_request folder named askedClear carries output
  obtain ⟨_, shown⟩ := run_source folder named clear output
  rw [lineWritten, answer] at answered
  dsimp only
  rw [askedWritten, Text.plain_ofChars, answered, shown]
  refine ⟨rfl, rfl, ⟨String.ofList line, ?_, ?_⟩, ?_⟩
  · rw [Text.ofString, String.toList_append, String.toList_ofList]
    rfl
  · intro c member
    simpa [Json.isPrinted] using linePrinted c (by simpa using member)
  · rw [Text.plain_ofChars]
    exact lineRead ['\n'] (List.forall_mem_singleton.mpr rfl)

/-- A source with quotes, a backslash, a line break and a character outside of the basic plane. -/
def quotedSource : String :=
  "var greeting = \"\\ 𝄞\"\nwhen keyPressed 'é' say '\"hello\"'"

/-- The escapes that this source needs are undone on both ways through. -/
theorem request_answered_with_code_quoted :
    '\r' ∉ quotedSource.toList ∧ threshold none = .ok LogLevel.warning.rank ∧
      let request := Json.write { ascii := true } (.mapping [("code", .text quotedSource)])
      let service := run { words := ["--json"], input := (Text.plain request).toUTF8 }
      let direct := run { words := [], input := quotedSource.toUTF8 }
      service.exit = some 0 ∧ direct.exit = some 0 ∧
        (∃ line : String, service.output = Text.ofString (line ++ "\n") ∧
          ∀ c ∈ line.toList, 0x20 ≤ c.toNat ∧ c.toNat ≤ 0x7e) ∧
        Json.read? (Text.plain service.output) = some (.mapping [("js", .text direct.output)]) :=
  ⟨by decide, rfl, request_answered_with_code {} (by decide) rfl⟩

end SpriteScript.CommandLine
