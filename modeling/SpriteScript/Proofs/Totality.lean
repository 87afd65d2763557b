import SpriteScript.Compilation
import SpriteScript.Proofs.Contents
import SpriteScript.Proofs.Generation

/-!
# Every text compiles

Each stage accepts all that the stage before it can produce. Tokens cut from a
text are never empty, so a parser can be created for them. The parsed arena is a
forest whose links all lead to blocks, each to another one, so its links can be
followed to the end; and its contents are finite, so everything on the way can be
written. What is no text is refused before the first stage.
-/

namespace SpriteScript

namespace Token

/-- A token has at least the character that it begins with. -/
theorem lexeme?_chars_ne_nil {text : Text} {lexeme : Lexeme}
    (found : lexeme? text = some lexeme) : lexeme.chars ≠ [] := by
  cases text with
  | nil => cases found
  | cons c rest =>
    have quoted : (quotedLexeme c rest).chars ≠ [] := by
      unfold quotedLexeme
      split <;> simp
    simp only [lexeme?] at found
    split at found
    · cases found
      simp
    · split at found
      · cases found
        exact quoted
      · split at found
        · cases found
          simp
        · split at found
          · cases found
            simp
          · cases found

/-- What is skipped on the way to a token does not matter: the token that is found begins
with a character. -/
theorem scan_token_ne_nil {text token : Text} (found : (scan text).token? = some token) :
    token ≠ [] := by
  induction text using scan.induct with
  | case1 => cases found
  | case2 c rest separator inductionHypothesis =>
    rw [scan, if_pos separator] at found
    exact inductionHypothesis found
  | case3 c rest other lexeme begins =>
    rw [scan, if_neg other, begins] at found
    exact Option.some.inj found ▸ lexeme?_chars_ne_nil begins
  | case4 c rest other begins inductionHypothesis =>
    rw [scan, if_neg other, begins] at found
    exact inductionHypothesis found

/-- No token of a text is empty, so a parser accepts them all. -/
theorem tokenize_ne_nil (text : Text) : ∀ token ∈ (tokenize text).1, token ≠ [] := by
  induction text using tokenize.induct with
  | case1 text ended =>
    rw [tokenize]
    split
    · simp
    · rename_i found
      rw [ended] at found
      cases found
  | case2 text first found inductionHypothesis =>
    rw [tokenize]
    split
    · rename_i ended
      rw [found] at ended
      cases ended
    · rename_i token again
      intro listed member
      rcases List.mem_cons.mp member with rfl | later
      · exact scan_token_ne_nil again
      · exact inductionHypothesis listed later

end Token

variable {program : Program}

/-- A visit follows links as well. The trail holds the visited places in order,
without those in bodies that are not entered. -/
theorem Visits.follows {link : Datum} {places : List Nat}
    (visit : Visits program.blocks link places) {joint : Joint}
    (leads : program.linkAt joint = link) (pending : List Joint) :
    ∃ trail, program.Follows (joint :: pending) trail pending ∧
      (trail.map Prod.snd).Sublist (places.map Int.ofNat) := by
  induction visit generalizing joint pending with
  | nowhere => exact ⟨[], .nowhere joint pending pending [] leads (.here pending), by simp⟩
  | arrived index block inside after found _ _ bodyHypothesis nextHypothesis =>
    have stored : program.block? (.int index) = some block := found
    obtain ⟨nextTrail, nextFollows, nextPlaces⟩ :=
      @nextHypothesis (.next index) (by simp [Program.linkAt, stored]) pending
    obtain ⟨bodyTrail, bodyFollows, bodyPlaces⟩ :=
      @bodyHypothesis (.body index) (by simp [Program.linkAt, stored]) (.next index :: pending)
    rw [List.map_cons, List.map_append]
    by_cases enters : block.EntersBody
    · have onward : program.onward index = [.body index, .next index] := by
        simp [Program.onward, stored, enters]
      refine ⟨(joint, (index : Int)) :: (bodyTrail ++ nextTrail), ?_, ?_⟩
      · refine .onto joint index pending pending _ leads ?_
        rw [onward]
        exact bodyFollows.trans nextFollows
      · rw [List.map_cons, List.map_append]
        exact (bodyPlaces.append nextPlaces).cons_cons _
    · have onward : program.onward index = [.next index] := by
        simp [Program.onward, stored, enters]
      refine ⟨(joint, (index : Int)) :: nextTrail, ?_, ?_⟩
      · refine .onto joint index pending pending _ leads ?_
        rw [onward]
        exact nextFollows
      · rw [List.map_cons]
        exact (nextPlaces.trans (List.sublist_append_right _ _)).cons_cons _

/-- Several visits follow the links one after the other, until none is pending. The trail
of the first comes before that of the others. -/
theorem VisitsAll.follows {links : List Datum} {places : List Nat}
    (visit : VisitsAll program.blocks links places) {joints : List Joint}
    (lead : links = joints.map program.linkAt) :
    ∃ trail, program.Follows joints trail [] ∧
      (trail.map Prod.snd).Sublist (places.map Int.ofNat) := by
  induction visit generalizing joints with
  | none =>
    rw [List.map_eq_nil_iff.mp lead.symm]
    exact ⟨[], .here [], by simp⟩
  | more link links first later visit _ inductionHypothesis =>
    obtain ⟨joint, rest, rfl, leads, lead⟩ := List.map_eq_cons_iff.mp lead.symm
    obtain ⟨trail, follows, trailPlaces⟩ := visit.follows leads rest
    obtain ⟨laterTrail, laterFollows, laterPlaces⟩ := inductionHypothesis lead.symm
    refine ⟨trail ++ laterTrail, follows.trans laterFollows, ?_⟩
    rw [List.map_append, List.map_append]
    exact trailPlaces.append laterPlaces

/-- The links of a forest in preorder can be followed to the end without an
offence, since each place of the arena is visited once. -/
theorem Program.Preordered.follows (ordered : program.Preordered) :
    ∃ trail, program.Follows program.roots trail [] ∧ program.Clear (trail.map Prod.snd) := by
  obtain ⟨trail, follows, places⟩ :=
    ordered.visited.follows (JavaScript.scripts_eq_map_roots)
  refine ⟨trail, follows, ?_, ?_⟩
  · have distinct : ((List.range program.blocks.length).map Int.ofNat).Nodup :=
      List.nodup_range.map fun _ _ => Int.ofNat.inj
    exact distinct.sublist places
  · intro id member
    obtain ⟨index, listed, rfl⟩ := List.mem_map.mp (places.mem member)
    exact ⟨Int.natCast_nonneg index, Int.ofNat_lt.mpr (List.mem_range.mp listed)⟩

/-- A parsed program is written: its contents are finite, and its links can be followed
without an offence. -/
theorem generate_parse (tokens : List Text) :
    ∃ code, (JavaScript.generate (parse tokens)).code = .ok code := by
  obtain ⟨trail, follows, clear⟩ := (Program.preordered_parse tokens).follows
  have sound := JavaScript.generate_of_follows (parse_plain tokens).finite follows clear
  exact ⟨_, JavaScript.code_of_sound sound⟩

/-- A program that can be written is compiled to its code. -/
theorem compileProgram_output {program : Program} {code : Text}
    (written : (JavaScript.generate program).code = .ok code) (records : List LogRecord)
    (warnings : List Warning) :
    (compileProgram program records warnings).result.output = .ok code := by
  simp only [compileProgram, written]

/-- All stages succeed on a text, and the result is the code of the last one. -/
theorem compile_text (source : Text) :
    ∃ lexer parser code, Lexer.ofSource (.text source) = .ok lexer ∧
      Parser.create lexer.tokenize.1 = .ok parser ∧
      (JavaScript.generate parser.parse.program).code = .ok code ∧
      (compile (.text source)).result.output = .ok code := by
  have nonempty := Token.tokenize_ne_nil (Lexer.ofText source).cursor.rest
  have created : Parser.create (tokenize source) = .ok (.ofTokens (tokenize source)) :=
    Parser.create_of_ne_nil nonempty
  obtain ⟨code, written⟩ := generate_parse (tokenize source)
  refine ⟨Lexer.ofText source, .ofTokens (tokenize source), code, rfl, created, written, ?_⟩
  have stages : ∃ records warnings,
      compile (.text source) = compileProgram (parse (tokenize source)) records warnings := by
    rw [compile]
    simp only [Lexer.ofSource]
    rw [show (Lexer.ofText source).tokenize.1 = tokenize source from rfl, created]
    exact ⟨_, _, rfl⟩
  obtain ⟨records, warnings, same⟩ := stages
  rw [same]
  exact compileProgram_output written records warnings

/-- The code of a source is that of its program. -/
theorem compile_code (source : Text) :
    ∃ code, (JavaScript.generate (parse (tokenize source))).code = .ok code ∧
      (compile (.text source)).result.output = .ok code := by
  obtain ⟨lexer, parser, code, made, created, written, output⟩ := compile_text source
  cases made
  have nonempty := Token.tokenize_ne_nil (Lexer.ofText source).cursor.rest
  cases (Parser.create_of_ne_nil nonempty).symm.trans created
  exact ⟨code, written, output⟩

/-- What is no text is refused without a word on why. No stage is begun. -/
theorem compile_other {source : Datum} (other : ∀ text, source ≠ .text text) :
    (compile source).result = { output := .error "Compilation failed.", warnings := [] } := by
  cases source with
  | text value => exact absurd rfl (other value)
  | _ => rfl

/-- A request that carries a source: a mapping with a text under `code`. -/
def Datum.CarriesSource (payload : Datum) : Prop :=
  ∃ entries source, payload = .mapping entries ∧ Datum.get? entries "code" = some (.text source)

/-- A request with a source is answered with code. -/
theorem respondTo_source {payload : Datum} (carries : payload.CarriesSource) :
    ∃ code, (respondTo payload).1 = .mapping [("js", .text code)] := by
  obtain ⟨entries, source, rfl, found⟩ := carries
  obtain ⟨_, _, code, _, _, _, output⟩ := compile_text source
  refine ⟨code, ?_⟩
  simp only [respondTo, found, Outcome.response, output]

/-- Any other request is refused. -/
theorem respondTo_other {payload : Datum} (lacks : ¬ payload.CarriesSource) :
    ∃ message, (respondTo payload).1 = .mapping [("error", .text message)] := by
  cases payload with
  | mapping entries =>
    rw [respondTo]
    split
    · rename_i source found
      exact absurd ⟨entries, source, rfl, found⟩ lacks
    · exact ⟨_, rfl⟩
  | _ => exact ⟨_, rfl⟩

/-- Every text compiles, and no stage fails on it: it can be cut into tokens, a
parser accepts them, and the parsed program is written, in particular every
number in it. Anything else leads to one and the same error. A request is
answered with code if it carries a text, and else with an error. -/
theorem compile_total :
    (∀ source : Text, ∃ lexer parser code, Lexer.ofSource (.text source) = .ok lexer ∧
        Parser.create lexer.tokenize.1 = .ok parser ∧
        (JavaScript.generate parser.parse.program).code = .ok code ∧
        (compile (.text source)).result.output = .ok code) ∧
      (∀ token number, Literal.number? token = some number →
        ∃ code, JavaScript.numberCode number = .ok code) ∧
      (∀ source : Datum, (∀ text, source ≠ .text text) →
        (compile source).result = { output := .error "Compilation failed.", warnings := [] }) ∧
      ∀ payload : Datum,
        ((∃ code, (respondTo payload).1 = .mapping [("js", .text code)]) ↔
          payload.CarriesSource) ∧
        ((∃ message, (respondTo payload).1 = .mapping [("error", .text message)]) ↔
          ¬ payload.CarriesSource) := by
  refine ⟨compile_text, ?_, fun source => compile_other, ?_⟩
  · intro token number denoted
    exact JavaScript.numberCode_of_finite (Literal.number?_finite denoted)
  · intro payload
    by_cases carries : payload.CarriesSource
    · obtain ⟨code, answered⟩ := respondTo_source carries
      rw [answered]
      refine ⟨⟨fun _ => carries, fun _ => ⟨code, rfl⟩⟩, ?_, fun lacks => absurd carries lacks⟩
      rintro ⟨message, same⟩
      cases same
    · obtain ⟨message, refused⟩ := respondTo_other carries
      rw [refused]
      refine ⟨⟨?_, fun here => absurd here carries⟩, fun _ => carries, fun _ => ⟨message, rfl⟩⟩
      rintro ⟨code, same⟩
      cases same

/-- A script that is cut off in the middle still compiles, its number is written,
and a number in place of a source is refused. -/
theorem compile_total_unclosed :
    (∃ code, (compile (.text "when ( flagClicked \x7b repeat")).result.output = .ok code) ∧
      (∃ number code, Literal.number? "10px" = some number ∧
        JavaScript.numberCode number = .ok code) ∧
      (compile (.int 10)).result = { output := .error "Compilation failed.", warnings := [] } := by
  obtain ⟨texts, numbers, others, _⟩ := compile_total
  refine ⟨?_, ?_, others (.int 10) nofun⟩
  · obtain ⟨_, _, code, _, _, _, output⟩ := texts "when ( flagClicked \x7b repeat"
    exact ⟨code, output⟩
  · have denotes : (Literal.number? "10px").isSome = true := by decide
    obtain ⟨number, denoted⟩ := Option.isSome_iff_exists.mp denotes
    obtain ⟨code, written⟩ := numbers "10px" number denoted
    exact ⟨number, code, denoted, written⟩

end SpriteScript
