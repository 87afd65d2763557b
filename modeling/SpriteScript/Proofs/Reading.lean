import SpriteScript.Grammar

/-!
# One step of each reading

The grammar reads by well-founded recursion. Each equation here opens one call
under the condition that selects its branch and leaves the inner calls closed,
so an argument about reading never unfolds more than the step it is about.
-/

namespace SpriteScript.Grammar

open SpriteScript

variable {cursor : Cursor Text} {keyword : Keyword}

/-- A chain ends where no keyword stands. The token there, if there is one, is left to
whoever reads the chain. -/
theorem chain_without_keyword (depth : Nat) (event : Bool) (absent : keyword? cursor = none) :
    chain depth event cursor = .stay .done := by
  rw [chain]
  split
  · rfl
  · rename_i found
    rw [absent] at found
    cases found

/-- Inside a script a `when` ends the chain before it is read, so it can begin the next
script. -/
theorem chain_before_event (depth : Nat) (standing : keyword? cursor = some .whenEvent) :
    chain depth false cursor = .stay .done := by
  rw [chain]
  split
  · rfl
  · rename_i found
    rw [standing] at found
    cases found
    exact if_pos ⟨rfl, rfl⟩

/-- A chain that does not end reads one block and then the rest of itself, in
which no event is allowed any more. -/
theorem chain_with_block (depth : Nat) (event : Bool) (standing : keyword? cursor = some keyword)
    (allowed : ¬ (keyword = .whenEvent ∧ event = false)) :
    chain depth event cursor =
      ((block depth keyword cursor.advance).since (Cursor.length_rest_advance_le cursor)).andThen
        (chain depth false (block depth keyword cursor.advance).cursor)
        fun (args, body) next => .block keyword args body next := by
  rw [chain]
  split
  · rename_i found
    rw [standing] at found
    cases found
  · rename_i found
    rw [standing] at found
    cases found
    exact if_neg allowed

/-- A block that opens no scope is its arguments. Even a brace after them is not read as
its body. -/
theorem block_plain (depth : Nat) (cursor : Cursor Text) (plain : keyword.isScope = false) :
    block depth keyword cursor = (arguments depth keyword.isScope cursor).map (·, .done) := by
  rw [block]
  exact if_neg (by simp [plain])

/-- After an opening brace the body of a scope is a chain one brace deeper, up
to its closing brace. -/
theorem block_braced (depth : Nat) (cursor : Cursor Text) (scope : keyword.isScope = true)
    (opened : (arguments depth keyword.isScope cursor).cursor.current? = some ("\x7b" : Text)) :
    block depth keyword cursor =
      (arguments depth keyword.isScope cursor).andThen
        ((closing (.text keyword.word)
          (chain (depth + 1) false (arguments depth keyword.isScope cursor).cursor.advance)).since
          (Cursor.length_rest_advance_le _))
        Prod.mk := by
  rw [block]
  simp only [scope, ↓reduceIte] at opened ⊢
  exact dif_pos opened

/-- Without an opening brace the body of a scope is the rest of its chain. What follows in
the chain is then nothing. -/
theorem block_unbraced (depth : Nat) (cursor : Cursor Text) (scope : keyword.isScope = true)
    (unopened : (arguments depth keyword.isScope cursor).cursor.current? ≠
      some ("\x7b" : Text)) :
    block depth keyword cursor =
      (arguments depth keyword.isScope cursor).andThen
        (chain depth false (arguments depth keyword.isScope cursor).cursor) Prod.mk := by
  rw [block]
  simp only [scope, ↓reduceIte] at unopened ⊢
  exact dif_neg unopened

/-- Whatever follows them, the arguments of a block are read first. -/
theorem block_value_args (depth : Nat) (keyword : Keyword) (cursor : Cursor Text) :
    (block depth keyword cursor).value.1 = (arguments depth keyword.isScope cursor).value := by
  cases scope : keyword.isScope with
  | false => rw [block_plain depth cursor scope, scope]; rfl
  | true =>
    by_cases opened :
        (arguments depth keyword.isScope cursor).cursor.current? = some ("\x7b" : Text)
    · rw [block_braced depth cursor scope opened, scope]; rfl
    · rw [block_unbraced depth cursor scope opened, scope]; rfl

/-- Closing a body leaves it as it was read. A brace that is missing is reported, and
nothing else comes of it. -/
theorem closing_value {α : Type} {start : Cursor Text} (name : Datum) (body : Reading α start) :
    (closing name body).value = body.value := by
  unfold closing
  split <;> rfl

/-- The end of what was read does not change it. -/
theorem expectStop_value {α : Type} {start : Cursor Text} (missing : Warning)
    (reading : Reading α start) : (expectStop missing reading).value = reading.value := by
  unfold expectStop
  split <;> rfl

/-- Arguments end with the tokens, and before a token that ends them. That token is not
taken. -/
theorem arguments_ended (depth : Nat) (scope : Bool)
    (ended : ∀ token, cursor.current? = some token → endsArguments depth scope token = true) :
    arguments depth scope cursor = .stay [] := by
  rw [arguments]
  split
  · rfl
  · rename_i token standing
    exact if_pos (ended token standing)

/-- An opening parenthesis is followed by the parts of an expression. -/
theorem arguments_expression (depth : Nat) (scope : Bool)
    (standing : cursor.current? = some ("(" : Text))
    (continued : endsArguments depth scope "(" = false) :
    arguments depth scope cursor =
      ((expression cursor.advance).since (Cursor.length_rest_advance_le cursor)).andThen
        (arguments depth scope (expression cursor.advance).cursor)
        fun parts rest => .expression parts :: rest := by
  rw [arguments]
  split
  · rename_i ended
    rw [standing] at ended
    cases ended
  · rename_i token found
    rw [standing] at found
    cases found
    rw [if_neg (by simp [continued])]
    exact if_pos rfl

/-- Any other token that does not end the arguments is an argument. -/
theorem arguments_literal (depth : Nat) (scope : Bool) {token : Text}
    (standing : cursor.current? = some token)
    (continued : endsArguments depth scope token = false) (single : token ≠ "(") :
    arguments depth scope cursor =
      ((arguments depth scope cursor.advance).map (Literal.argument token :: ·)).since
        (Cursor.length_rest_advance_le cursor) := by
  rw [arguments]
  split
  · rename_i ended
    rw [standing] at ended
    cases ended
  · rename_i other found
    rw [standing] at found
    cases found
    rw [if_neg (by simp [continued])]
    exact if_neg (by simpa using single)

/-- Items end with the tokens. This is the only way in which the reading of a source ends.
-/
theorem items_ended (depth : Nat) (ended : cursor.current? = none) :
    items depth cursor = .stay [] := by
  rw [items]
  split
  · rfl
  · rename_i standing
    rw [ended] at standing
    cases standing

/-- The items of a source are the one that begins at the first token, if any
does, and those after it. -/
theorem items_with_item (depth : Nat) {token : Text} (standing : cursor.current? = some token) :
    items depth cursor =
      (item depth token cursor).andThen (items depth (item depth token cursor).cursor)
        fun found rest => found.toList ++ rest := by
  rw [items]
  split
  · rename_i ended
    rw [standing] at ended
    cases ended
  · rename_i other found
    rw [standing] at found
    cases found
    rfl

/-- The value of a variable is the token after an equals sign. -/
theorem variableValue_assigned (name : Text) {value : Text}
    (standing : cursor.current? = some ("=" : Text)) (given : cursor.advance.current? = some value) :
    variableValue name cursor =
      ((Reading.stay (Literal.value value)).thenAdvance : Reading Value cursor.advance).since
        (Cursor.length_rest_advance_le cursor) := by
  unfold variableValue
  rw [standing]
  dsimp only
  rw [if_pos (beq_self_eq_true _), given]

/-- An equals sign at the end leaves the variable zero, and the missing value is reported.
-/
theorem variableValue_unassigned (name : Text) (standing : cursor.current? = some ("=" : Text))
    (ended : cursor.advance.current? = none) :
    variableValue name cursor =
      ((Reading.stay (.number 0)).warn ⟨.incompleteDeclaration,
        Text.quoted name ++ " has no value after \"=\""⟩ : Reading Value cursor.advance).since
        (Cursor.length_rest_advance_le cursor) := by
  unfold variableValue
  rw [standing]
  dsimp only
  rw [if_pos (beq_self_eq_true _), ended]

/-- Without an equals sign a number or a quoted text is the value of the variable. -/
theorem variableValue_literal (name : Text) {token : Text}
    (standing : cursor.current? = some token) (unequal : token ≠ "=")
    (literal : (Literal.isNumber token || Literal.isQuoted token) = true) :
    variableValue name cursor = (Reading.stay (Literal.value token)).thenAdvance := by
  unfold variableValue
  rw [standing]
  dsimp only
  rw [if_neg (by simpa using unequal), if_pos literal]

/-- Any other token belongs to the next item, and the variable is zero. -/
theorem variableValue_absent (name : Text)
    (other : ∀ token, cursor.current? = some token →
      token ≠ "=" ∧ (Literal.isNumber token || Literal.isQuoted token) = false) :
    variableValue name cursor = .stay (.number 0) := by
  unfold variableValue
  cases standing : cursor.current? with
  | none => rfl
  | some token =>
    obtain ⟨unequal, plain⟩ := other token standing
    dsimp only
    rw [if_neg (by simpa using unequal), if_neg (by simp [plain])]

/-- A script is read at its first word, where its chain begins. -/
theorem item_when (depth : Nat) (cursor : Cursor Text) :
    item depth "when" cursor = (chain depth true cursor).map fun script => some (.script script) :=
  rfl

/-- A variable is declared by its name and a value. -/
theorem item_var (depth : Nat) {name : Text} (named : cursor.advance.current? = some name) :
    item depth "var" cursor =
      (((variableValue name cursor.advance.advance).map fun value =>
        some (.declareVariable name value)).since
          (Cursor.length_rest_advance_le cursor.advance)).since
          (Cursor.length_rest_advance_le cursor) := by
  show (variableDeclaration cursor.advance).since (Cursor.length_rest_advance_le cursor) = _
  unfold variableDeclaration
  rw [named]

/-- A list is declared by its name and its values. -/
theorem item_list (depth : Nat) {name : Text} (named : cursor.advance.current? = some name) :
    item depth "list" cursor =
      (((listValues name cursor.advance.advance).map fun values =>
        some (.declareList name values)).since
          (Cursor.length_rest_advance_le cursor.advance)).since
          (Cursor.length_rest_advance_le cursor) := by
  show (listDeclaration cursor.advance).since (Cursor.length_rest_advance_le cursor) = _
  unfold listDeclaration
  rw [named]

end SpriteScript.Grammar
