import SpriteScript.Proofs.Forms

/-!
# Contents that can be written

Only a number that is not finite and an integer that is too long cannot be
written. Contents made of finite numbers, short integers, texts and expressions
of these therefore always have code, and the fragment of a block with such
arguments never fails. Whether the fragment has a place for the body depends on
the family, the name and the event alone.
-/

namespace SpriteScript

/-- An argument made of finite numbers, texts and expressions of these. A number may
also be an integer, which has to be short enough to be written. -/
inductive Argument.Finite : Argument → Prop where
  | number (value : Float) (finite : Decimal.isFinite value = true) : Finite (.number value)
  | integer (value : Int) (short : Decimal.isShort value = true) : Finite (.other (.int value))
  | text (value : Text) : Finite (.text value)
  | expression (parts : List Argument) (each : ∀ part ∈ parts, Finite part) :
      Finite (.expression parts)

/-- An initial value that is a finite number or a text. -/
inductive Value.Finite : Value → Prop where
  | number (value : Float) (finite : Decimal.isFinite value = true) : Finite (.number value)
  | text (content : Text) : Finite (.text (.text content))

/-- A program whose arguments and initial values are all finite. Blocks are named by
texts, or at least by data that can be written. -/
structure Program.Finite (program : Program) : Prop where
  names : ∀ block ∈ program.blocks, block.name.isWritable = true
  arguments : ∀ block ∈ program.blocks, ∀ argument ∈ block.args, argument.Finite
  scalars : ∀ entry ∈ program.variableTable.entries, entry.2.Finite
  lists : ∀ entry ∈ program.listTable.entries, ∀ value ∈ entry.2, value.Finite

namespace JavaScript

/-- A finite number has code, as an integer or by its shortest decimal. Infinite and
undefined numbers are the only ones without. -/
theorem numberCode_of_finite {value : Float} (finite : Decimal.isFinite value = true) :
    ∃ code, numberCode value = .ok code := by
  unfold Decimal.isFinite at finite
  unfold numberCode
  split at finite
  · rename_i denotes
    rw [denotes]
    cases Decimal.toInt? value with
    | some integer => exact ⟨_, rfl⟩
    | none => exact ⟨_, rfl⟩
  · cases finite

/-- A finite argument has code. The parts of an expression have theirs by induction. -/
theorem argumentCode_of_finite {argument : Argument} (finite : argument.Finite) :
    ∃ code, argumentCode argument = .ok code := by
  induction finite with
  | number value finite =>
    rw [argumentCode]
    exact numberCode_of_finite finite
  | integer value short =>
    rw [argumentCode, datumCode, Datum.isWritable, short]
    exact ⟨_, rfl⟩
  | text value => exact ⟨value, by rw [argumentCode]⟩
  | expression parts _ inductionHypothesis =>
    obtain ⟨codes, written⟩ := argumentCodes_of_each inductionHypothesis
    rw [argumentCode, written]
    exact ⟨_, rfl⟩

/-- A finite value has code. A text always has, so only numbers matter. -/
theorem valueCode_of_finite {value : Value} (finite : value.Finite) :
    ∃ code, valueCode value = .ok code := by
  cases finite with
  | number value finite => exact numberCode_of_finite finite
  | text content => exact ⟨_, rfl⟩

/-- Nothing is wrong with a block whose name can be written and whose arguments are
finite. -/
theorem not_faulty_of_finite {block : Block} (named : block.name.isWritable = true)
    (finite : ∀ argument ∈ block.args, argument.Finite) : ¬ Faulty block :=
  not_faulty_iff.mpr ⟨named, fun argument given => argumentCode_of_finite (finite argument given)⟩

/-- A fragment that was written, and that has a place for the body exactly when `enters`
says so. Where the links of a block come on the agenda depends on no more than this. -/
structure Fragment.Writes (fragment : Fragment) (enters : Prop) : Prop where
  whole : fragment.failure = none
  body : fragment.body.isSome = true ↔ enters

/-- The fragment of a block with finite arguments is written, and has a place
for the body exactly when the body is to be entered. -/
theorem fragment_writes (scope : Scope) {block : Block} (named : block.name.isWritable = true)
    (finite : ∀ argument ∈ block.args, argument.Finite) :
    (fragment scope block).Writes block.EntersBody := by
  have whole := whole_of_sound scope (not_faulty_of_finite named finite)
  exact ⟨whole, body_isSome_iff whole⟩

/-- The blocks that a program with finite contents links to are all written. -/
theorem writes_of_found {program : Program} (finite : program.Finite) (scope : Scope) {link : Datum}
    {block : Block} (found : program.block? link = some block) :
    (fragment scope block).Writes block.EntersBody := by
  have member := Program.mem_of_block? found
  exact fragment_writes scope (finite.names block member) (finite.arguments block member)

/-- The declaration of a variable with a finite value can be written. -/
theorem variableLine_of_finite (name : Text) {value : Value} (finite : value.Finite) :
    ∃ line, variableLine name value = .ok line := by
  obtain ⟨code, written⟩ := valueCode_of_finite finite
  unfold variableLine
  rw [written]
  exact ⟨_, rfl⟩

/-- The declaration of a list of finite values can be written. -/
theorem listLine_of_finite (name : Text) {values : List Value}
    (finite : ∀ value ∈ values, value.Finite) : ∃ line, listLine name values = .ok line := by
  have codes : ∃ codes, values.mapM valueCode = .ok codes := by
    induction values with
    | nil => exact ⟨[], rfl⟩
    | cons value rest inductionHypothesis =>
      obtain ⟨code, first⟩ := valueCode_of_finite (finite value List.mem_cons_self)
      obtain ⟨codes, later⟩ :=
        inductionHypothesis fun other member => finite other (List.mem_cons_of_mem value member)
      refine ⟨code :: codes, ?_⟩
      rw [List.mapM_cons, first, later]
      rfl
  obtain ⟨codes, written⟩ := codes
  unfold listLine
  rw [written]
  exact ⟨_, rfl⟩

end JavaScript

end SpriteScript
