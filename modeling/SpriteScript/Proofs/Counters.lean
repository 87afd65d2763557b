import SpriteScript.Proofs.Numerals
import SpriteScript.Proofs.Provenance
import SpriteScript.Proofs.Relexing
import SpriteScript.Proofs.Rendering
import SpriteScript.Proofs.RoundTrip

/-!
# Loop counters and the names of a source

The counter of a loop is named by an underscore, an `i` and digits. No token of a
source begins with an underscore, and declared names are tokens, so no declaration is
one of a counter. What is assigned to is written by its argument. A number, an
expression or a word never begins with an underscore either. A quoted text may: where
it stands for a name its quotes are dropped, and what is left can be the counter of a
loop around the assignment.
-/

namespace SpriteScript

/-- The names of loop counters. The number in them is the depth of the loop, which can be
any, so all numbers are counted here. -/
def IsCounter (name : Text) : Prop :=
  ∃ digits : Text, digits ≠ [] ∧ (∀ digit ∈ digits, digit.isDigit = true) ∧ name = "_i" ++ digits

/-- The names of counters begin with an underscore, which is all that most names are told
from them by. -/
theorem IsCounter.head {name : Text} (counter : IsCounter name) :
    name.head? = some ('_' : CodePoint) := by
  obtain ⟨digits, _, _, rfl⟩ := counter
  rfl

namespace JavaScript

/-- Only a text can be a name that begins with an underscore. Numbers begin with a digit or
a sign, and expressions and other data with a delimiter. -/
theorem head_nameCode {argument : Argument} {name : Text} (named : nameCode argument = .ok name)
    (other : ∀ value, argument ≠ .text value) : name.head? ≠ some ('_' : CodePoint) := by
  have apart : ∀ {code : Text}, Decimal.Spelled code → code.head? ≠ some ('_' : CodePoint) :=
    fun spelled begins => spelled.not_mem (by decide) (List.mem_of_mem_head? begins)
  cases argument with
  | number value => exact apart (spelled_numberCode named)
  | text value => exact absurd rfl (other value)
  | expression parts =>
    have written : (argumentCodes parts >>= fun codes => _) = .ok name := named
    obtain ⟨codes, _, rest⟩ := exists_ok_of_bind written
    cases rest
    nofun
  | other datum =>
    rw [(eq_of_datumCode named).2]
    unfold writableCode
    split
    · exact apart (Decimal.spelled_intText _)
    · nofun

end JavaScript

/-- Trimming at the end keeps a first character that is kept. -/
theorem Text.head_trim {drops : CodePoint → Bool} {text : Text}
    (kept : ∀ c, text.head? = some c → drops c = false) :
    (trim drops text).head? = text.head? := by
  cases text with
  | nil => rfl
  | cons c rest =>
    have stays := kept c rfl
    have back : (rest.reverse ++ [c]).dropWhile drops = rest.reverse.dropWhile drops ++ [c] := by
      rw [List.dropWhile_append]
      split
      · rename_i empty
        rw [List.isEmpty_iff.mp empty]
        simp [stays]
      · rfl
    rw [trim, trimStart, List.dropWhile_cons_of_neg (by simp [stays]), trimEnd,
      List.reverse_cons, back, List.reverse_append]
    rfl

/-- No token begins with an underscore. The underscore is a part of words, but no word
begins with it. -/
theorem Token.head_ne_underscore {token : Text} (formed : Complete token ∨ Unclosed token) :
    token.head? ≠ some ('_' : CodePoint) := by
  rcases formed with complete | unclosed
  · cases complete with
    | bracket c bracket =>
      rintro ⟨⟩
      revert bracket
      decide
    | word c part letter =>
      rintro ⟨⟩
      revert letter
      decide
    | number sign c part signed digit =>
      rcases signed with rfl | rfl
      · rintro ⟨⟩
        revert digit
        decide
      · nofun
    | quoted quote inner opens =>
      rintro ⟨⟩
      revert opens
      decide
  · obtain ⟨quote, inner, opens, _⟩ := unclosed
    rintro ⟨⟩
    revert opens
    decide

/-- A token that is not quoted is no counter where it stands for a name: without quotes at
its ends it stays as it is. -/
theorem Literal.not_isCounter_unquote {token : Text}
    (unmarked : token.head? ≠ some ('_' : CodePoint)) (plain : isQuoted token = false) :
    ¬ IsCounter (unquote token) := by
  intro counter
  have same : (unquote token).head? = token.head? := by
    apply Text.head_trim
    intro c first
    simpa [isQuoted, first] using plain
  exact unmarked (same ▸ counter.head)

/-- The operator by which a block with a keyword for its name assigns. -/
def Keyword.operator? : Keyword → Option Text
  | .set => some "="
  | .change => some "+="
  | _ => none

/-- A block that assigns by an operator to what its first argument names. -/
def Block.Assigns (block : Block) (operator : Text) (target : Argument) : Prop :=
  ∃ keyword : Keyword, block.kind = .assignment ∧ block.name = .text keyword.word ∧
    keyword.operator? = some operator ∧ block.args.head? = some target

/-- A block that is reached from a script, so that its code is part of the output. Blocks
that nothing leads to are not written. -/
def Program.Reached (program : Program) (block : Block) : Prop :=
  ∃ root ∈ program.scripts, ∃ place, program.Reaches root place ∧
    program.blocks[place]? = some block

namespace JavaScript

/-- An assignment is a statement. Its body, if it has one, is not written. -/
theorem blockForm_of_assigns {block : Block} {operator : Text} {target : Argument}
    (assigns : block.Assigns operator target) : blockForm block = .statement := by
  obtain ⟨keyword, family, named, _, _⟩ := assigns
  have form := blockForm_keyword named
  rw [family] at form
  exact form

/-- An assignment is written as one line that begins with the name of its target. -/
theorem opening_of_assigns {block : Block} {operator : Text} {target : Argument}
    (assigns : block.Assigns operator target) (whole : (fragment {} block).failure = none) :
    ∃ name value : Text, nameCode target = .ok name ∧
      (fragment {} block).opening = [name ++ " " ++ operator ++ " " ++ value ++ ";" ++ "\n"] := by
  obtain ⟨keyword, family, named, known, first⟩ := assigns
  obtain ⟨rest, args⟩ := List.head?_eq_some_iff.mp first
  have code : fragment {} block = .ofExcept (assignFragment operator {} block) := by
    have written := fragment_keyword {} named
    rw [family] at written
    cases keyword <;> cases known <;> exact written
  rw [code] at whole ⊢
  cases made : assignFragment operator {} block with
  | error error =>
    rw [made] at whole
    cases whole
  | ok written =>
    unfold assignFragment at made
    rw [args] at made
    obtain ⟨name, targeted, made⟩ := exists_ok_of_bind made
    obtain ⟨⟨value, warnings⟩, _, made⟩ := exists_ok_of_bind made
    cases made
    exact ⟨name, value, targeted, rfl⟩

/-- The body of a block is rendered further inside, and all its lines are lines of the
block. -/
theorem renderBlock_inside {indent loops : Nat} {block : Block}
    {body : Nat → Nat → Except Error Output} {output : Output}
    (rendered : renderBlock indent loops block body = .ok output) (enters : block.EntersBody) :
    ∃ deeper around inside, body deeper around = .ok inside ∧
      ∀ line ∈ inside.lines, line ∈ output.lines := by
  obtain ⟨inside, rfl, ⟨deeper, around, entered⟩ | ⟨leaves, _⟩⟩ := renderBlock_cases rendered
  · refine ⟨deeper, around, inside, entered, ?_⟩
    exact fun line member => List.mem_append_left _ (List.mem_append_right _ member)
  · exact absurd enters leaves

/-- A block is rendered somewhere in the code: at some depth, with some body, and all its
lines are among those of the code. -/
def RenderedIn (lines : List Text) (block : Block) : Prop :=
  ∃ indent loops body output, renderBlock indent loops block body = .ok output ∧
    ∀ line ∈ output.lines, line ∈ lines

/-- A block that is rendered among some lines is rendered among more of them. -/
theorem RenderedIn.mono {block : Block} {lines more : List Text} (rendered : RenderedIn lines block)
    (among : ∀ line ∈ lines, line ∈ more) : RenderedIn more block := by
  obtain ⟨indent, loops, body, output, written, listed⟩ := rendered
  exact ⟨indent, loops, body, output, written, fun line member => among line (listed line member)⟩

/-- The lines of a statement are in the code, each behind blanks. How many blanks there are
depends on where the statement stands. -/
def Written (block : Block) (lines : List Text) : Prop :=
  (fragment {} block).failure = none ∧
    ∀ line ∈ (fragment {} block).opening, ∃ indent, indented indent line ∈ lines

/-- A statement is rendered by writing its lines, since it leaves no place for a body. -/
theorem RenderedIn.written {block : Block} {lines : List Text} (rendered : RenderedIn lines block)
    (form : blockForm block = .statement) : Written block lines := by
  obtain ⟨indent, loops, body, output, made, among⟩ := rendered
  unfold renderBlock at made
  rw [form] at made
  have made : renderStatement indent block = .ok output := made
  unfold renderStatement at made
  split at made
  · cases made
  · rename_i whole
    cases made
    exact ⟨whole, fun line member => ⟨indent, among _ (List.mem_map_of_mem member)⟩⟩

end JavaScript

/-- Every block of a tree is rendered where the tree is. The induction follows the tree,
into bodies and then along the chain. -/
theorem Unfolds.renderedIn {program : Program} {link : Datum} {tree : Tree}
    (unfolds : Unfolds program link tree) {indent loops : Nat} {output : JavaScript.Output}
    (rendered : JavaScript.renderTree indent loops tree = .ok output) {node : Nat × Block}
    (member : node ∈ tree.nodes) : JavaScript.RenderedIn output.lines node.2 := by
  induction unfolds generalizing indent loops output with
  | nowhere => cases member
  | entered link place stored body next _ _ enters _ _ bodyHypothesis nextHypothesis =>
    obtain ⟨here, first, rendered⟩ := exists_ok_of_bind rendered
    obtain ⟨after, later, rendered⟩ := exists_ok_of_bind rendered
    cases rendered
    rw [Tree.nodes, List.mem_cons, List.mem_append] at member
    rcases member with rfl | inner | onward
    · exact ⟨_, _, _, here, first, fun _ => List.mem_append_left _⟩
    · obtain ⟨_, _, inside, entered, among⟩ := JavaScript.renderBlock_inside first enters
      exact (bodyHypothesis entered inner).mono fun line listed =>
        List.mem_append_left _ (among line listed)
    · exact (nextHypothesis later onward).mono fun _ => List.mem_append_right _
  | passed link place stored next _ _ leaves _ nextHypothesis =>
    obtain ⟨here, first, rendered⟩ := exists_ok_of_bind rendered
    obtain ⟨after, later, rendered⟩ := exists_ok_of_bind rendered
    cases rendered
    rw [Tree.nodes, List.mem_cons, List.mem_append] at member
    rcases member with rfl | inner | onward
    · exact ⟨_, _, _, here, first, fun _ => List.mem_append_left _⟩
    · cases inner
    · exact (nextHypothesis later onward).mono fun _ => List.mem_append_right _

/-- Every block that is reached from a script is rendered. -/
theorem Program.Reached.renderedIn {program : Program} {trees : List Tree}
    {output : JavaScript.Output}
    (unfold : List.Forall₂ (Unfolds program) program.scripts trees)
    (rendered : JavaScript.renderForest trees = .ok output) {block : Block}
    (reached : program.Reached block) : JavaScript.RenderedIn output.lines block := by
  obtain ⟨root, listed, place, reaches, found⟩ := reached
  generalize program.scripts = links at unfold listed
  induction unfold generalizing output with
  | nil => cases listed
  | @cons link tree links trees first _ inductionHypothesis =>
    obtain ⟨here, own, rendered⟩ := exists_ok_of_bind rendered
    obtain ⟨after, later, rendered⟩ := exists_ok_of_bind rendered
    cases rendered
    rcases List.mem_cons.mp listed with rfl | among
    · have stands := (first.mem_places_iff place).mpr reaches
      rw [← tree.map_fst_nodes] at stands
      obtain ⟨node, member, rfl⟩ := List.mem_map.mp stands
      have same : node.2 = block := Option.some.inj ((first.nodes_stored node member).symm.trans found)
      rw [← same]
      exact (first.renderedIn own member).mono fun _ => List.mem_append_left _
    · exact (inductionHypothesis later among).mono fun _ => List.mem_append_right _

/-- Every statement that is reached from a script is written. -/
theorem Program.Reached.written {program : Program} {trees : List Tree}
    {output : JavaScript.Output}
    (unfold : List.Forall₂ (Unfolds program) program.scripts trees)
    (rendered : JavaScript.renderForest trees = .ok output) {block : Block}
    (reached : program.Reached block) (form : JavaScript.blockForm block = .statement) :
    JavaScript.Written block output.lines :=
  (reached.renderedIn unfold rendered).written form

/-- A name that is assigned to is a counter only as a text between quotes. The quotes are
dropped from the name, and what they enclosed may begin with an underscore. -/
theorem isCounter_nameCode_iff {target : Argument} {name : Text}
    (named : JavaScript.nameCode target = .ok name)
    (unmarked : ∀ value, target = .text value → value.head? ≠ some ('_' : CodePoint)) :
    IsCounter name ↔ ∃ token, target = .text token ∧ Literal.isQuoted token = true ∧
      IsCounter (Literal.unquote token) := by
  constructor
  · intro counter
    cases target with
    | text value =>
      cases named
      refine ⟨value, rfl, ?_, counter⟩
      by_contra plain
      exact Literal.not_isCounter_unquote (unmarked value rfl) (by simpa using plain) counter
    | number value => exact absurd counter.head (JavaScript.head_nameCode named nofun)
    | expression parts => exact absurd counter.head (JavaScript.head_nameCode named nofun)
    | other datum => exact absurd counter.head (JavaScript.head_nameCode named nofun)
  · rintro ⟨token, rfl, _, counter⟩
    cases named
    exact counter

/-- No declaration in the code of a source is one of a loop counter. An assignment in it
is to a counter exactly if it names its target by a quoted text that is one without its
quotes. -/
theorem assigned_counter_iff (source : Text) :
    ∃ (header : Text) (lines : List Text),
      JavaScript.declarations (parse (tokenize source)) = .ok header ∧
      (compile (.text source)).result.output =
        .ok (JavaScript.preamble ++ (header ++ lines.flatten)) ∧
      (∀ entry ∈ (parse (tokenize source)).variableTable.entries, ¬ IsCounter entry.1) ∧
      (∀ entry ∈ (parse (tokenize source)).listTable.entries, ¬ IsCounter entry.1) ∧
      ∀ block operator target, (parse (tokenize source)).Reached block →
        block.Assigns operator target →
        ∃ (name value : Text) (indent : Nat), JavaScript.nameCode target = .ok name ∧
          JavaScript.indented indent (name ++ " " ++ operator ++ " " ++ value ++ ";" ++ "\n") ∈
            lines ∧
          (IsCounter name ↔ ∃ token, target = .text token ∧ Literal.isQuoted token = true ∧
            IsCounter (Literal.unquote token)) := by
  obtain ⟨header, trees, output, declared, unfold, rendered, _, compiled⟩ := compile_renders source
  have drawn := Program.drawnFrom_parse (tokenize source)
  have unmarked : ∀ token ∈ tokenize source, token.head? ≠ some ('_' : CodePoint) :=
    fun token member =>
      Token.head_ne_underscore ((tokenize_wellFormed source).each token member)
  refine ⟨header, output.lines, declared, compiled, ?_, ?_, ?_⟩
  · exact fun entry member counter => unmarked _ (drawn.scalars entry member) counter.head
  · exact fun entry member counter => unmarked _ (drawn.lists entry member) counter.head
  · intro block operator target reached assigns
    obtain ⟨whole, written⟩ :=
      reached.written unfold rendered (JavaScript.blockForm_of_assigns assigns)
    obtain ⟨name, value, named, opening⟩ := JavaScript.opening_of_assigns assigns whole
    obtain ⟨indent, listed⟩ := written _ (opening ▸ List.mem_singleton.mpr rfl)
    refine ⟨name, value, indent, named, listed, isCounter_nameCode_iff named ?_⟩
    rintro token rfl
    obtain ⟨_, _, _, _, first⟩ := assigns
    obtain ⟨_, _, place, _, found⟩ := reached
    rcases drawn.text_mem (List.mem_of_getElem? found) (List.mem_of_mem_head? first)
      List.mem_cons_self with given | delimits
    · exact unmarked token given
    · have apart : ∀ delimiter ∈ delimiters, delimiter.head? ≠ some ('_' : CodePoint) := by decide
      exact apart token delimits

/-- A loop whose body assigns to a quoted text. The text is the name of the counter of that
loop. -/
def captured : Text := "when flagClicked repeat 3 change '_i0' 1"

/-- The source of `captured`, in which braces are left out. -/
def capturedSource : List Source.Item :=
  [.script [.literal ⟨"flagClicked", by decide, by decide⟩] false
    (.scope .repeatTimes rfl (by decide) [.literal ⟨"3", by decide, by decide⟩] false
      (.plain .change rfl
        [.literal ⟨"'_i0'", by decide, by decide⟩, .literal ⟨"1", by decide, by decide⟩] .none)
      .none)]

/-- The chain of `captured`. -/
def capturedChain : Chain :=
  .block .whenEvent [.text "flagClicked"]
    (.block .repeatTimes [Literal.argument "3"]
      (.block .change [.text "'_i0'", Literal.argument "1"] .done .done) .done) .done

/-- The assignment of `captured`. -/
def capturedBlock : Block :=
  { kind := .assignment, name := .text "change", args := [.text "'_i0'", Literal.argument "1"] }

/-- The tree of `captured`. -/
def capturedTree : Tree :=
  .block 0
    { kind := .event, name := .text "when", args := [.text "flagClicked"], body := .int 1 }
    (.block 1
      { kind := .control, name := .text "repeat", args := [Literal.argument "3"], body := .int 2 }
      (.block 2 capturedBlock .nothing .nothing)
      .nothing)
    .nothing

/-- The lines of `captured`. -/
def capturedLines : List Text :=
  ["// When green flag clicked\n",
    "document.addEventListener('DOMContentLoaded', async function() \x7b\n",
    "    for (let _i0 = 0; _i0 < 3; _i0++) \x7b\n",
    "        _i0 += 1;\n",
    "    \x7d\n",
    "\x7d);\n\n"]

/-- The source is parsed to its chain, which is the only script. -/
theorem parse_captured :
    parse (tokenize captured) = ({} : Program).addItem (.script capturedChain) := by
  have complete : ∀ token ∈ Source.print capturedSource, Token.Complete token := by
    show ∀ token ∈ (["when", "flagClicked", "repeat", "3", "change", "'_i0'", "1"] : List Text), _
    simp only [List.forall_mem_cons]
    exact ⟨.word _ _ rfl (by decide), .word _ _ rfl (by decide), .word _ _ rfl (by decide),
      .number [] _ [] (.inl rfl) rfl (List.forall_mem_nil _), .word _ _ rfl (by decide),
      .quoted _ "_i0" rfl (by decide), .number [] _ [] (.inl rfl) rfl (List.forall_mem_nil _),
      List.forall_mem_nil _⟩
  have joined : captured = Text.joined " " (Source.print capturedSource) := by
    decide +kernel
  rw [joined, Token.tokenize_joined_of_complete complete]
  exact Source.parse_printed capturedSource

/-- The script unfolds to its tree, in which the assignment is in the body of the loop. -/
theorem captured_unfolds : Unfolds (parse (tokenize captured)) (.int 0) capturedTree := by
  rw [parse_captured]
  have change : Unfolds (({} : Program).addItem (.script capturedChain)) (.int 2)
      (.block 2 _ _ _) := .passed _ _ _ _ rfl rfl (by decide) .nowhere
  have loop : Unfolds (({} : Program).addItem (.script capturedChain)) (.int 1)
      (.block 1 _ _ _) := .entered _ _ _ _ _ rfl rfl (by decide) change .nowhere
  exact .entered _ _ _ _ _ rfl rfl (by decide) loop .nowhere

/-- The assignment of `captured` is written to the counter of the loop around it. -/
theorem captured_assigns_counter :
    (∃ header, JavaScript.declarations (parse (tokenize captured)) = .ok header ∧
      (compile (.text captured)).result.output =
        .ok (JavaScript.preamble ++ (header ++ capturedLines.flatten))) ∧
    ∃ block, (parse (tokenize captured)).Reached block ∧ block.Assigns "+=" (.text "'_i0'") ∧
      JavaScript.nameCode (.text "'_i0'") = .ok "_i0" ∧ IsCounter "_i0" := by
  constructor
  · have scripts : (parse (tokenize captured)).scripts = [.int 0] := by
      rw [parse_captured]
      rfl
    obtain ⟨header, output, declared, rendered, compiled⟩ :=
      compile_renders_script scripts captured_unfolds
    have lines : (JavaScript.renderForest [capturedTree]).toOption.map (·.lines) =
        some capturedLines := by
      decide +kernel
    rw [rendered] at lines
    have same : output.lines = capturedLines := Option.some.inj lines
    exact ⟨header, declared, same ▸ compiled⟩
  · refine ⟨capturedBlock, ?_, ⟨.change, rfl, rfl, rfl, rfl⟩, rfl, ?_⟩
    · refine ⟨.int 0, by rw [parse_captured]; exact List.mem_singleton.mpr rfl, 2, ?_, ?_⟩
      · rw [← captured_unfolds.mem_places_iff]
        decide
      · rw [parse_captured]
        rfl
    · exact ⟨"0", by decide, by decide, rfl⟩

end SpriteScript
