import SpriteScript.Chain
import SpriteScript.Cursor
import SpriteScript.Literal
import SpriteScript.Warning

/-!
# The grammar

A source is a sequence of items: variable declarations, list declarations and scripts. A script
is a chain that begins with `when`. The body of a scope stands between braces; without braces the
rest of the chain is the body. Arguments reach to the next keyword, and an argument in parentheses
is an expression, whose parts reach to the first closing parenthesis.

Every token list can be read. What cannot be part of an item is skipped, what is missing at the
end is made up for, and both are reported. Each reading function returns what it read, where it
stopped and what it reported, and never goes back.
-/

namespace SpriteScript.Grammar

open SpriteScript

/-- The result of reading from `start`: a value, the place where reading stopped, which is not
before `start`, and the warnings. -/
structure Reading (α : Type) (start : Cursor Text) where
  value : α
  cursor : Cursor Text
  warnings : List Warning := []
  forward : cursor.rest.length ≤ start.rest.length

namespace Reading

variable {α β γ : Type} {start : Cursor Text}

/-- Reads nothing. -/
def stay (value : α) : Reading α start :=
  { value, cursor := start, forward := Nat.le_refl _ }

/-- Changes the value that was read. -/
def map (change : α → β) (reading : Reading α start) : Reading β start :=
  { reading with value := change reading.value }

/-- Reports a warning after what was read. -/
def warn (warning : Warning) (reading : Reading α start) : Reading α start :=
  { reading with warnings := reading.warnings ++ [warning] }

/-- The same reading seen from an earlier place. -/
def since {later : Cursor Text} (order : later.rest.length ≤ start.rest.length)
    (reading : Reading α later) : Reading α start :=
  { reading with forward := Nat.le_trans reading.forward order }

/-- One reading and then another from where the first stopped. -/
def andThen (first : Reading α start) (second : Reading β first.cursor) (join : α → β → γ) :
    Reading γ start where
  value := join first.value second.value
  cursor := second.cursor
  warnings := first.warnings ++ second.warnings
  forward := Nat.le_trans second.forward first.forward

/-- Steps over the token where reading stopped. -/
def thenAdvance (reading : Reading α start) : Reading α start :=
  { reading with
    cursor := reading.cursor.advance
    forward := Nat.le_trans (Cursor.length_rest_advance_le _) reading.forward }

end Reading

/-- The keyword that the cursor stands on. -/
def keyword? (cursor : Cursor Text) : Option Keyword :=
  cursor.current?.bind Keyword.ofToken?

/-- A keyword is a token, so stepping over it leaves fewer tokens ahead. Chains and blocks
end by this. -/
theorem length_rest_advance_lt_of_keyword? {cursor : Cursor Text} {keyword : Keyword}
    (standing : keyword? cursor = some keyword) :
    cursor.advance.rest.length < cursor.rest.length := by
  unfold keyword? at standing
  obtain ⟨token, current, _⟩ := Option.bind_eq_some_iff.mp standing
  exact Cursor.length_rest_advance_lt current

/-- Reads tokens as long as they are not `stop`. -/
def tokensUntil (stop : Text) (cursor : Cursor Text) : Reading (List Text) cursor :=
  let tokens := cursor.rest.takeWhile (· != stop)
  { value := tokens
    cursor := cursor.skip tokens.length
    forward := Cursor.length_rest_skip_le cursor _ }

/-- Reads the token `stop`, or reports `missing` if the tokens have ended. -/
def expectStop {α : Type} {start : Cursor Text} (missing : Warning)
    (reading : Reading α start) : Reading α start :=
  if reading.cursor.rest.isEmpty then reading.warn missing else reading.thenAdvance

/-- Reads the parts of an expression after its opening parenthesis. Another opening parenthesis
is a part like any other. -/
def expression (cursor : Cursor Text) : Reading (List Argument) cursor :=
  expectStop ⟨.unterminatedExpression, "missing \")\""⟩
    ((tokensUntil ")" cursor).map (List.map Literal.argument))

/-- The token ends the arguments of a block: a keyword, the opening brace of a body, or a closing
brace if there is a body to close. -/
def endsArguments (depth : Nat) (scope : Bool) (token : Text) : Bool :=
  (Keyword.ofToken? token).isSome || (scope && token == "\x7b") || (depth != 0 && token == "\x7d")

/-- Reads the arguments of a block inside `depth` braced bodies. -/
def arguments (depth : Nat) (scope : Bool) (cursor : Cursor Text) :
    Reading (List Argument) cursor :=
  match _standing : cursor.current? with
  | none => .stay []
  | some token =>
    if endsArguments depth scope token then .stay []
    else if token == "(" then
      let inner := (expression cursor.advance).since (Cursor.length_rest_advance_le cursor)
      inner.andThen (arguments depth scope inner.cursor) fun parts rest => .expression parts :: rest
    else
      ((arguments depth scope cursor.advance).map (Literal.argument token :: ·)).since
        (Cursor.length_rest_advance_le cursor)
termination_by cursor.rest.length
decreasing_by
  · exact Nat.lt_of_le_of_lt (expression cursor.advance).forward
      (Cursor.length_rest_advance_lt _standing)
  · exact Cursor.length_rest_advance_lt _standing

/-- The warning that the body of a block was not closed. -/
def unclosedWarning (name : Datum) : Warning :=
  ⟨.unclosedBody, name.display ++ " body is missing \"\x7d\""⟩

/-- Reads the closing brace of a body, or reports that there is none. -/
def closing {α : Type} {start : Cursor Text} (name : Datum) (body : Reading α start) :
    Reading α start :=
  if body.cursor.current? = some ("\x7d" : Text) then body.thenAdvance
  else body.warn (unclosedWarning name)

mutual

/-- Reads a chain of blocks. A `when` can only be its first block, and only if `event` allows it;
anywhere else it ends the chain, because it begins another script. -/
def chain (depth : Nat) (event : Bool) (cursor : Cursor Text) : Reading Chain cursor :=
  match _standing : keyword? cursor with
  | none => .stay .done
  | some keyword =>
    if keyword = .whenEvent ∧ event = false then .stay .done
    else
      let first := (block depth keyword cursor.advance).since
        (Cursor.length_rest_advance_le cursor)
      first.andThen (chain depth false first.cursor) fun (args, body) next =>
        .block keyword args body next
termination_by (cursor.rest.length, 0)
decreasing_by
  · exact Prod.Lex.left _ _ (length_rest_advance_lt_of_keyword? _standing)
  · exact Prod.Lex.left _ _ (Nat.lt_of_le_of_lt (@Reading.forward _ cursor.advance _)
      (length_rest_advance_lt_of_keyword? _standing))

/-- Reads what follows the keyword of a block: its arguments and, for a scope, its body. -/
def block (depth : Nat) (keyword : Keyword) (cursor : Cursor Text) :
    Reading (List Argument × Chain) cursor :=
  let args := arguments depth keyword.isScope cursor
  if keyword.isScope then
    if _opened : args.cursor.current? = some ("\x7b" : Text) then
      args.andThen
        ((closing (.text keyword.word) (chain (depth + 1) false args.cursor.advance)).since
          (Cursor.length_rest_advance_le args.cursor))
        Prod.mk
    else args.andThen (chain depth false args.cursor) Prod.mk
  else args.map (·, .done)
termination_by (cursor.rest.length, 1)
decreasing_by
  · exact Prod.Lex.left _ _
      (Nat.lt_of_lt_of_le (Cursor.length_rest_advance_lt _opened) args.forward)
  · rcases Nat.lt_or_eq_of_le args.forward with fewer | equal
    · exact Prod.Lex.left _ _ fewer
    · exact equal ▸ Prod.Lex.right _ Nat.zero_lt_one

end

/-- A script takes at least its `when`. -/
theorem chain_true_lt (depth : Nat) {cursor : Cursor Text} {keyword : Keyword}
    (standing : keyword? cursor = some keyword) :
    (chain depth true cursor).cursor.rest.length < cursor.rest.length := by
  rw [chain]
  split
  · rename_i absent
    rw [standing] at absent
    cases absent
  · rename_i found
    rw [if_neg (by simp)]
    exact Nat.lt_of_le_of_lt
      (Nat.le_trans (chain depth false _).forward (block depth _ cursor.advance).forward)
      (length_rest_advance_lt_of_keyword? found)

/-- What a source is made of. -/
inductive Item where
  | script (chain : Chain)
  | declareVariable (name : Text) (value : Value)
  | declareList (name : Text) (values : List Value)

/-- Reads the value of a variable, which may follow an equals sign or the name itself. Without an
equals sign only a number or a quoted text is taken, since any other token may begin the next
item. A variable without a value is zero. -/
def variableValue (name : Text) (cursor : Cursor Text) : Reading Value cursor :=
  match cursor.current? with
  | none => .stay (.number 0)
  | some token =>
    if token == "=" then
      let after : Reading Value cursor.advance :=
        match cursor.advance.current? with
        | none =>
          (Reading.stay (.number 0)).warn
            ⟨.incompleteDeclaration, Text.quoted name ++ " has no value after \"=\""⟩
        | some value => (Reading.stay (Literal.value value)).thenAdvance
      after.since (Cursor.length_rest_advance_le cursor)
    else if Literal.isNumber token || Literal.isQuoted token then
      (Reading.stay (Literal.value token)).thenAdvance
    else .stay (.number 0)

/-- Reads a variable declaration after its keyword. -/
def variableDeclaration (cursor : Cursor Text) : Reading (Option Item) cursor :=
  match cursor.current? with
  | none => (Reading.stay none).warn ⟨.incompleteDeclaration, "'var' without a name"⟩
  | some name =>
    ((variableValue name cursor.advance).map fun value => some (.declareVariable name value)).since
      (Cursor.length_rest_advance_le cursor)

/-- Reads the values of a list between brackets; without an opening bracket it has none. -/
def listValues (name : Text) (cursor : Cursor Text) : Reading (List Value) cursor :=
  if cursor.current? = some ("[" : Text) then
    (expectStop ⟨.incompleteDeclaration, Text.quoted name ++ " is missing \"]\""⟩
      ((tokensUntil "]" cursor.advance).map (List.map Literal.value))).since
      (Cursor.length_rest_advance_le cursor)
  else .stay []

/-- Reads a list declaration after its keyword. -/
def listDeclaration (cursor : Cursor Text) : Reading (Option Item) cursor :=
  match cursor.current? with
  | none => (Reading.stay none).warn ⟨.incompleteDeclaration, "'list' without a name"⟩
  | some name =>
    ((listValues name cursor.advance).map fun values => some (.declareList name values)).since
      (Cursor.length_rest_advance_le cursor)

/-- Reads the item that begins with `token`, on which the cursor stands. A token that begins none
is skipped. -/
def item (depth : Nat) (token : Text) (cursor : Cursor Text) : Reading (Option Item) cursor :=
  if token == "when" then (chain depth true cursor).map fun script => some (.script script)
  else if token == "var" then
    (variableDeclaration cursor.advance).since (Cursor.length_rest_advance_le cursor)
  else if token == "list" then
    (listDeclaration cursor.advance).since (Cursor.length_rest_advance_le cursor)
  else ((Reading.stay none).warn ⟨.skippedToken, Text.quoted token⟩).thenAdvance

/-- Every item takes at least one token. -/
theorem item_lt (depth : Nat) {token : Text} {cursor : Cursor Text}
    (standing : cursor.current? = some token) :
    (item depth token cursor).cursor.rest.length < cursor.rest.length := by
  have shorter := Cursor.length_rest_advance_lt standing
  unfold item
  split
  · rename_i isWhen
    simp only [beq_iff_eq] at isWhen
    subst isWhen
    have named : keyword? cursor = some .whenEvent := by
      simp only [keyword?, standing, Option.bind_some]
      rfl
    exact chain_true_lt depth named
  · split
    · exact Nat.lt_of_le_of_lt (variableDeclaration cursor.advance).forward shorter
    · split
      · exact Nat.lt_of_le_of_lt (listDeclaration cursor.advance).forward shorter
      · exact shorter

/-- Reads all items. -/
def items (depth : Nat) (cursor : Cursor Text) : Reading (List Item) cursor :=
  match _standing : cursor.current? with
  | none => .stay []
  | some token =>
    let first := item depth token cursor
    first.andThen (items depth first.cursor) fun found rest => found.toList ++ rest
termination_by cursor.rest.length
decreasing_by exact item_lt depth _standing

end SpriteScript.Grammar
