import SpriteScript.Proofs.Reading

/-!
# Printed sources and how they are read

A source is a tree of items, statements and inputs. It is printed to tokens with
the body of each scope between braces; where a body reaches to the end of its
chain anyway, the braces may be left out, and each scope says whether they are.

The grammar depends on its surroundings: a closing brace ends arguments only
inside a braced body, and a body without braces takes all that its chain has
left. Each printed form is therefore read in front of a rest that can end it, and
every reading takes exactly what was printed, without a warning, and leaves that
rest.
-/

namespace SpriteScript

namespace Source

/-- A token that is not empty and none of the `excluded`. What a position of a source rules
out is so part of the tokens that stand there. -/
structure TokenBut (excluded : List Text) where
  text : Text
  nonempty : text ≠ []
  admitted : text ∉ excluded

/-- The tokens are not among those that they exclude. -/
theorem not_mem_texts {stop : Text} (tokens : List (TokenBut [stop])) :
    stop ∉ tokens.map TokenBut.text := by
  intro member
  obtain ⟨token, _, same⟩ := List.mem_map.mp member
  exact token.admitted (List.mem_singleton.mpr same)

/-- What is no argument on its own: an opening parenthesis, the braces, and the
words that begin a block. -/
def reserved : List Text :=
  "(" :: "\x7b" :: "\x7d" :: Keyword.all.map Keyword.word

/-- An argument as it is written: a token, or the tokens of an expression. An expression is
flat, because its parts are tokens up to the first closing parenthesis. -/
inductive Input where
  | literal (token : TokenBut reserved)
  | expression (parts : List (TokenBut [")"]))

/-- The statements of a chain. A statement without a body is plain; a scope inside
a script has a body, which may do without braces. -/
inductive Statements where
  | none
  | plain (keyword : Keyword) (bodiless : keyword.isScope = false) (inputs : List Input)
      (next : Statements)
  | scope (keyword : Keyword) (opens : keyword.isScope = true) (inner : keyword ≠ .whenEvent)
      (inputs : List Input) (braces : Bool) (body next : Statements)

/-- The value of a variable: none, any token after an equals sign, or by itself a
token that is known to be a value. -/
inductive Initial where
  | omitted
  | equals (value : TokenBut [])
  | direct (value : TokenBut [])
      (marked : Literal.isNumber value.text = true ∨ Literal.isQuoted value.text = true)

/-- An item of a source. A list may be declared without values. -/
inductive Item where
  | scalar (name : TokenBut []) (initial : Initial)
  | list (name : TokenBut []) (values : Option (List (TokenBut ["]"])))
  | script (inputs : List Input) (braces : Bool) (body : Statements)

/-- Tokens between two others. -/
def between (opening : Text) (tokens : List Text) (closing : Text) : List Text :=
  opening :: (tokens ++ [closing])

/-- A body with or without its braces. -/
def enclosed (braces : Bool) (tokens : List Text) : List Text :=
  if braces then between "\x7b" tokens "\x7d" else tokens

/-- The tokens of an argument. -/
def Input.print : Input → List Text
  | .literal token => [token.text]
  | .expression parts => between "(" (parts.map TokenBut.text) ")"

/-- The tokens of several inputs in their order. -/
def printInputs (inputs : List Input) : List Text :=
  inputs.flatMap Input.print

/-- No statement is left. Only the last statement of a chain may do without braces, since
what would follow it would be read into its body. -/
def Statements.isNone : Statements → Bool
  | .none => true
  | _ => false

/-- The tokens of a chain. The last scope of a chain may do without braces. -/
def Statements.print : Statements → List Text
  | .none => []
  | .plain keyword _ inputs next => keyword.word :: (printInputs inputs ++ next.print)
  | .scope keyword _ _ inputs braces body next =>
    keyword.word :: (printInputs inputs ++ (enclosed (braces || !next.isNone) body.print ++
      next.print))

/-- The tokens of an initial value. -/
def Initial.print : Initial → List Text
  | .omitted => []
  | .equals value => ["=", value.text]
  | .direct value _ => [value.text]

/-- The values of a list between brackets, if it is given any. -/
def printValues : Option (List (TokenBut ["]"])) → List Text
  | none => []
  | some values => between "[" (values.map TokenBut.text) "]"

/-- A script may do without braces before these items: another script ends it. -/
def endsScript : List Item → Bool
  | [] => true
  | .script .. :: _ => true
  | _ => false

/-- The tokens of an item, and whether its braces may be left out. -/
def Item.print (omittable : Bool) : Item → List Text
  | .scalar name initial => "var" :: name.text :: initial.print
  | .list name values => "list" :: name.text :: printValues values
  | .script inputs braces body =>
    "when" :: (printInputs inputs ++ enclosed (braces || !omittable) body.print)

/-- The tokens of a source. -/
def print : List Item → List Text
  | [] => []
  | item :: rest => item.print (endsScript rest) ++ print rest

-- Neither the script nor the loop at its end needs braces here.
example :
    print [.script [.literal ⟨"flagClicked", by decide, by decide⟩] false
      (.scope .repeatTimes rfl (by decide) [.expression [⟨"n", by decide, by decide⟩]] false
        (.plain .move rfl [] .none) .none)] =
      (["when", "flagClicked", "repeat", "(", "n", ")", "move"] : List Text) := by decide

/-- The argument that is meant. Each token is read as a literal on its own, inside of
parentheses as well. -/
def Input.argument : Input → Argument
  | .literal token => Literal.argument token.text
  | .expression parts => .expression (parts.map fun part => Literal.argument part.text)

/-- The chain that is meant, whatever braces are written. -/
def Statements.chain : Statements → Chain
  | .none => .done
  | .plain keyword _ inputs next => .block keyword (inputs.map Input.argument) .done next.chain
  | .scope keyword _ _ inputs _ body next =>
    .block keyword (inputs.map Input.argument) body.chain next.chain

/-- The initial value that is meant. -/
def Initial.value : Initial → Value
  | .omitted => .number 0
  | .equals value => Literal.value value.text
  | .direct value _ => Literal.value value.text

/-- The values of a list that are meant. -/
def listed (values : Option (List (TokenBut ["]"]))) : List Value :=
  (values.getD []).map fun value => Literal.value value.text

/-- The chain of a script that is meant: its event, with all statements in its
body. -/
def scriptChain (inputs : List Input) (body : Statements) : Chain :=
  .block .whenEvent (inputs.map Input.argument) body.chain .done

/-- The item that is meant. -/
def Item.item : Item → Grammar.Item
  | .scalar name initial => .declareVariable name.text initial.value
  | .list name values => .declareList name.text (listed values)
  | .script inputs _ body => .script (scriptChain inputs body)

end Source

namespace Grammar

open Source

/-- The reading has this value, leaves this rest and reports nothing. All readers of the
grammar are described in these terms, so their descriptions compose. -/
structure Takes {α : Type} {start : Cursor Text} (reading : Reading α start) (value : α)
    (rest : List Text) : Prop where
  value : reading.value = value
  rest : reading.cursor.rest = rest
  silent : reading.warnings = []

variable {α β γ : Type} {start cursor : Cursor Text} {rest : List Text}

/-- To read nothing leaves all that is ahead. -/
theorem takes_stay (value : α) (ahead : start.rest = rest) :
    Takes (Reading.stay value : Reading α start) value rest :=
  ⟨rfl, ahead, rfl⟩

/-- What is made of the value that is read leaves the same tokens and reports nothing more.
-/
theorem Takes.map {reading : Reading α start} {value : α} (takes : Takes reading value rest)
    (change : α → β) : Takes (reading.map change) (change value) rest :=
  ⟨congrArg change takes.value, takes.rest, takes.silent⟩

/-- Seen from an earlier place a reading leaves the same tokens. -/
theorem Takes.since {later : Cursor Text} {reading : Reading α later} {value : α}
    (takes : Takes reading value rest) (order : later.rest.length ≤ start.rest.length) :
    Takes (reading.since order) value rest :=
  ⟨takes.value, takes.rest, takes.silent⟩

/-- Stepping over one more token leaves those behind it. -/
theorem Takes.thenAdvance {reading : Reading α start} {value : α} {token : Text}
    (takes : Takes reading value (token :: rest)) : Takes reading.thenAdvance value rest := by
  refine ⟨takes.value, ?_, takes.silent⟩
  show reading.cursor.rest.tail = rest
  rw [takes.rest]
  rfl

/-- Two readings one after the other take what each of them takes: the second begins at
what the first has left. -/
theorem Takes.andThen {first : Reading α start} {value : α} {middle : List Text}
    (takes : Takes first value middle) {second : Reading β first.cursor} {later : β}
    (continued : Takes second later rest) (join : α → β → γ) :
    Takes (first.andThen second join) (join value later) rest := by
  refine ⟨?_, continued.rest, ?_⟩
  · show join first.value second.value = join value later
    rw [takes.value, continued.value]
  · show first.warnings ++ second.warnings = []
    rw [takes.silent, continued.silent]
    rfl

/-- The tokens before the first `stop` are taken. The stop itself is left, so that its
absence can be reported by whoever needs it. -/
theorem tokensUntil_takes {stop : Text} {tokens : List Text} (absent : stop ∉ tokens)
    (ahead : cursor.rest = tokens ++ stop :: rest) :
    Takes (tokensUntil stop cursor) tokens (stop :: rest) := by
  have before : ∀ token ∈ tokens, (token != stop) = true := by
    intro token member
    rw [bne_iff_ne]
    rintro rfl
    exact absent member
  have taken : cursor.rest.takeWhile (· != stop) = tokens := by
    rw [ahead, List.takeWhile_append_of_pos before]
    simp
  refine ⟨taken, ?_, rfl⟩
  show cursor.rest.drop (cursor.rest.takeWhile (· != stop)).length = stop :: rest
  rw [taken, ahead, List.drop_left]

/-- A stop that is there is taken without a report. -/
theorem expectStop_takes {reading : Reading α start} {value : α} {stop : Text} (missing : Warning)
    (takes : Takes reading value (stop :: rest)) :
    Takes (expectStop missing reading) value rest := by
  unfold expectStop
  rw [if_neg (by simp [takes.rest])]
  exact takes.thenAdvance

/-- The parts of an expression are taken with its closing parenthesis. -/
theorem expression_takes (parts : List (TokenBut [")"]))
    (ahead : cursor.rest = parts.map TokenBut.text ++ (")" : Text) :: rest) :
    Takes (expression cursor) (parts.map fun part => Literal.argument part.text) rest := by
  have inner := (tokensUntil_takes (not_mem_texts parts) ahead).map (List.map Literal.argument)
  rw [List.map_map] at inner
  exact expectStop_takes _ inner

/-- A token that begins no block and is no brace ends no arguments, at any depth and for
any block. -/
theorem endsArguments_eq_false {token : Text} (depth : Nat) (scope : Bool)
    (free : Keyword.ofToken? token = none) (opening : token ≠ "\x7b") (closing : token ≠ "\x7d") :
    endsArguments depth scope token = false := by
  simp [endsArguments, free, opening, closing]

/-- A token that is not reserved is an argument on its own. -/
theorem endsArguments_literal (depth : Nat) (scope : Bool) (token : TokenBut reserved) :
    endsArguments depth scope token.text = false ∧ token.text ≠ "(" := by
  have admitted := token.admitted
  simp only [reserved, List.mem_cons, not_or] at admitted
  obtain ⟨single, opening, closing, noWord⟩ := admitted
  refine ⟨endsArguments_eq_false depth scope ?_ opening closing, single⟩
  cases found : Keyword.ofToken? token.text with
  | none => rfl
  | some keyword =>
    have listed : keyword ∈ Keyword.all := List.mem_of_find?_eq_some found
    have word := Keyword.word_of_ofToken? found
    exact absurd (List.mem_map.mpr ⟨keyword, listed, word.symm⟩) noWord

/-- Printed arguments are taken in front of a rest that ends them. The induction is on the
arguments; a literal is taken by one step, an expression by its own reader. -/
theorem arguments_takes (inputs : List Input) {depth : Nat} {scope : Bool}
    (ended : ∀ token, rest.head? = some token → endsArguments depth scope token = true)
    (ahead : cursor.rest = printInputs inputs ++ rest) :
    Takes (arguments depth scope cursor) (inputs.map Input.argument) rest := by
  induction inputs generalizing cursor with
  | nil =>
    have ahead : cursor.rest = rest := ahead
    rw [arguments_ended depth scope (by rw [Cursor.current?, ahead]; exact ended)]
    exact takes_stay [] ahead
  | cons input inputs inductionHypothesis =>
    rw [printInputs, List.flatMap_cons, List.append_assoc] at ahead
    cases input with
    | literal token =>
      obtain ⟨continued, single⟩ := endsArguments_literal depth scope token
      rw [arguments_literal depth scope (Cursor.current?_of_rest ahead) continued single]
      exact ((inductionHypothesis (Cursor.rest_advance ahead)).map _).since _
    | expression parts =>
      have continued : endsArguments depth scope "(" = false :=
        endsArguments_eq_false depth scope rfl (by decide) (by decide)
      have opened : cursor.rest = ("(" : Text) ::
          (parts.map TokenBut.text ++ (")" : Text) :: (printInputs inputs ++ rest)) := by
        simpa [Input.print, between, printInputs] using ahead
      have inner := expression_takes parts (Cursor.rest_advance opened)
      have whole := (inner.since (Cursor.length_rest_advance_le cursor)).andThen
        (inductionHypothesis inner.rest) fun parts rest => Argument.expression parts :: rest
      rw [arguments_expression depth scope (Cursor.current?_of_rest opened) continued]
      exact whole

/-- The rest ends a chain inside `depth` braces: another script begins there, the
body is closed, or there are no more tokens. -/
def Stops (depth : Nat) (rest : List Text) : Prop :=
  ∀ token, rest.head? = some token → token = "when" ∨ (token = "\x7d" ∧ depth ≠ 0)

/-- No block of a chain begins at a token that is no keyword or begins a script. The chain
is empty there, and whoever asked for it decides what becomes of the token. -/
theorem chain_takes_nothing (depth : Nat)
    (stopped : ∀ token, cursor.rest.head? = some token →
      Keyword.ofToken? token = none ∨ token = "when") :
    Takes (chain depth false cursor) .done cursor.rest := by
  have ended : chain depth false cursor = .stay .done := by
    cases standing : keyword? cursor with
    | none => exact chain_without_keyword depth false standing
    | some keyword =>
      obtain ⟨token, current, found⟩ := Option.bind_eq_some_iff.mp standing
      rcases stopped token current with absent | rfl
      · rw [absent] at found
        cases found
      · exact chain_before_event depth (standing.trans found.symm)
  rw [ended]
  exact takes_stay Chain.done rfl

/-- In front of such a rest, statements begin with a keyword or are none. -/
theorem head_print (statements : Statements) {depth : Nat} (stops : Stops depth rest) {token : Text}
    (first : (statements.print ++ rest).head? = some token) :
    (Keyword.ofToken? token).isSome = true ∨ (token = "\x7d" ∧ depth ≠ 0) := by
  cases statements with
  | none =>
    rcases stops token first with rfl | closed
    · exact .inl rfl
    · exact .inr closed
  | plain keyword =>
    cases first
    rw [keyword.ofToken?_word]
    exact .inl rfl
  | scope keyword =>
    cases first
    rw [keyword.ofToken?_word]
    exact .inl rfl

/-- So they end the arguments in front of them, and open no body. -/
theorem print_ends (statements : Statements) {depth : Nat} (stops : Stops depth rest) {token : Text}
    (first : (statements.print ++ rest).head? = some token) :
    (∀ scope, endsArguments depth scope token = true) ∧ token ≠ "\x7b" := by
  rcases head_print statements stops first with word | ⟨rfl, deep⟩
  · refine ⟨fun scope => by simp [endsArguments, word], ?_⟩
    rintro rfl
    cases word
  · refine ⟨fun scope => ?_, by decide⟩
    simp [endsArguments, deep]

/-- A closing brace that is there closes a body without a report. -/
theorem closing_takes {reading : Reading α start} {value : α} (name : Datum)
    (takes : Takes reading value (("\x7d" : Text) :: rest)) :
    Takes (closing name reading) value rest := by
  unfold closing
  rw [if_pos (Cursor.current?_of_rest takes.rest)]
  exact takes.thenAdvance

/-- A scope is taken with its body if its statements are taken as a chain. Without
braces the rest has to end that chain; with braces any rest will do. -/
theorem scope_takes {keyword : Keyword} (opens : keyword.isScope = true) (inputs : List Input)
    (braces : Bool) {body : Statements}
    (chains : ∀ (depth : Nat) (cursor : Cursor Text) (rest : List Text), Stops depth rest →
      cursor.rest = body.print ++ rest → Takes (chain depth false cursor) body.chain rest)
    {depth : Nat} (stops : braces = false → Stops depth rest)
    (ahead : cursor.rest = printInputs inputs ++ (enclosed braces body.print ++ rest)) :
    Takes (block depth keyword cursor) (inputs.map Input.argument, body.chain) rest := by
  cases braces with
  | true =>
    have opened : enclosed true body.print ++ rest =
        ("\x7b" : Text) :: (body.print ++ ("\x7d" : Text) :: rest) := by
      simp [enclosed, between]
    rw [opened] at ahead
    have args : Takes (arguments depth keyword.isScope cursor) (inputs.map Input.argument)
        (("\x7b" : Text) :: (body.print ++ ("\x7d" : Text) :: rest)) := by
      refine arguments_takes inputs ?_ ahead
      rintro token ⟨⟩
      simp [endsArguments, opens]
    have closed : Stops (depth + 1) (("\x7d" : Text) :: rest) := by
      rintro token ⟨⟩
      exact .inr ⟨rfl, Nat.succ_ne_zero depth⟩
    have inside := chains (depth + 1) _ _ closed (Cursor.rest_advance args.rest)
    have whole := args.andThen ((closing_takes (.text keyword.word) inside).since
      (Cursor.length_rest_advance_le _)) Prod.mk
    rw [block_braced depth cursor opens (Cursor.current?_of_rest args.rest)]
    exact whole
  | false =>
    have stopped := stops rfl
    have args : Takes (arguments depth keyword.isScope cursor) (inputs.map Input.argument)
        (body.print ++ rest) := by
      refine arguments_takes inputs ?_ ahead
      intro token first
      exact (print_ends body stopped first).1 keyword.isScope
    have unopened : (arguments depth keyword.isScope cursor).cursor.current? ≠
        some ("\x7b" : Text) := by
      rw [Cursor.current?, args.rest]
      intro first
      exact (print_ends body stopped first).2 rfl
    have whole := args.andThen (chains depth _ rest stopped args.rest) Prod.mk
    rw [block_unbraced depth cursor opens unopened]
    exact whole

/-- A keyword that may stand inside a script is followed by its block and then by
the rest of the chain. -/
theorem chain_takes_block {keyword : Keyword} {depth : Nat} {event : Bool} {tokens : List Text}
    {args : List Argument} {body next : Chain} {middle : List Text}
    (allowed : ¬ (keyword = .whenEvent ∧ event = false))
    (ahead : cursor.rest = keyword.word :: tokens)
    (first : ∀ cursor : Cursor Text, cursor.rest = tokens →
      Takes (block depth keyword cursor) (args, body) middle)
    (later : ∀ cursor : Cursor Text, cursor.rest = middle →
      Takes (chain depth false cursor) next rest) :
    Takes (chain depth event cursor) (.block keyword args body next) rest := by
  have standing : keyword? cursor = some keyword := by
    rw [keyword?, Cursor.current?_of_rest ahead, Option.bind_some, keyword.ofToken?_word]
  have here := first cursor.advance (Cursor.rest_advance ahead)
  have whole := (here.since (Cursor.length_rest_advance_le cursor)).andThen
    (later _ here.rest) fun pair next => Chain.block keyword pair.1 pair.2 next
  rw [chain_with_block depth event standing allowed]
  exact whole

/-- Printed statements are taken as a chain in front of a rest that ends it.

The induction follows the statements. What comes after a statement is printed
behind it, and begins with a keyword or with the rest, so it ends the arguments.
A body is followed by its closing brace, or by the rest itself if it is last. -/
theorem chain_takes (statements : Statements) (depth : Nat) (cursor : Cursor Text)
    (rest : List Text) (stops : Stops depth rest)
    (ahead : cursor.rest = statements.print ++ rest) :
    Takes (chain depth false cursor) statements.chain rest := by
  induction statements generalizing depth cursor rest with
  | none =>
    have ahead : cursor.rest = rest := ahead
    rw [← ahead] at stops ⊢
    apply chain_takes_nothing
    intro token first
    rcases stops token first with event | ⟨rfl, _⟩
    · exact .inr event
    · exact .inl rfl
  | plain keyword bodiless inputs next inductionHypothesis =>
    rw [Statements.print, List.cons_append, List.append_assoc] at ahead
    refine chain_takes_block ?_ ahead ?_ fun cursor => inductionHypothesis depth cursor rest stops
    · rintro ⟨rfl, _⟩
      cases bodiless
    · intro after ahead
      have args : Takes (arguments depth keyword.isScope after) (inputs.map Input.argument)
          (next.print ++ rest) := by
        refine arguments_takes inputs ?_ ahead
        intro token first
        exact (print_ends next stops first).1 keyword.isScope
      rw [block_plain depth after bodiless]
      exact args.map (·, Chain.done)
  | scope keyword opens inner inputs braces body next bodyHypothesis nextHypothesis =>
    simp only [Statements.print, List.cons_append, List.append_assoc] at ahead
    refine chain_takes_block (fun both => inner both.1) ahead ?_
      fun cursor => nextHypothesis depth cursor rest stops
    intro after ahead
    refine scope_takes opens inputs (braces || !next.isNone) bodyHypothesis ?_ ahead
    intro omitted
    cases next with
    | none => exact stops
    | _ => simp [Statements.isNone] at omitted

/-- The words that begin an item. They are keywords of the source, so no value is confused
with one of them. -/
def BeginsItem (token : Text) : Prop :=
  token = "when" ∨ token = "var" ∨ token = "list"

/-- A printed source is empty or begins with the word of its first item. -/
theorem beginsItem_of_head (source : List Source.Item) {token : Text}
    (first : (print source).head? = some token) : BeginsItem token := by
  cases source with
  | nil => cases first
  | cons item later =>
    cases item with
    | scalar name initial =>
      cases first
      exact .inr (.inl rfl)
    | list name values =>
      cases first
      exact .inr (.inr rfl)
    | script inputs braces body =>
      cases first
      exact .inl rfl

/-- The word of an item is no value, so a variable does not take it for one. -/
theorem BeginsItem.no_value {token : Text} (begins : BeginsItem token) :
    token ≠ "=" ∧ token ≠ "[" ∧ Literal.isNumber token = false ∧
      Literal.isQuoted token = false := by
  rcases begins with rfl | rfl | rfl
  · decide
  · decide
  · decide

/-- The value of a variable is taken, and nothing of the item after it. Where the value is
omitted, this rests on the word that begins the next item. -/
theorem variableValue_takes (name : Text) (initial : Initial)
    (followed : ∀ token, rest.head? = some token → BeginsItem token)
    (ahead : cursor.rest = initial.print ++ rest) :
    Takes (variableValue name cursor) initial.value rest := by
  unfold variableValue
  cases initial with
  | omitted =>
    have ahead : cursor.rest = rest := ahead
    subst ahead
    cases standing : cursor.current? with
    | none => exact takes_stay _ rfl
    | some token =>
      obtain ⟨unequal, _, noNumber, unquoted⟩ := (followed token standing).no_value
      simp only [beq_iff_eq, unequal, noNumber, unquoted]
      exact takes_stay _ rfl
  | equals value =>
    have standing : cursor.current? = some ("=" : Text) := Cursor.current?_of_rest ahead
    have after : cursor.advance.rest = value.text :: rest := Cursor.rest_advance ahead
    have taken : Takes (Reading.stay (Literal.value value.text) : Reading Value cursor.advance)
        (Literal.value value.text) (value.text :: rest) := takes_stay _ after
    simp only [standing, Cursor.current?_of_rest after, beq_self_eq_true, ↓reduceIte]
    exact taken.thenAdvance.since _
  | direct value marked =>
    have standing : cursor.current? = some value.text := Cursor.current?_of_rest ahead
    have unequal : value.text ≠ "=" := by
      intro same
      rw [same] at marked
      revert marked
      decide
    have isValue : (Literal.isNumber value.text || Literal.isQuoted value.text) = true := by
      rw [Bool.or_eq_true]
      exact marked
    have taken : Takes (Reading.stay (Literal.value value.text) : Reading Value cursor)
        (Literal.value value.text) (value.text :: rest) := takes_stay _ ahead
    simp only [standing, beq_iff_eq, unequal, isValue, ↓reduceIte]
    exact taken.thenAdvance

/-- The values of a list are taken with their brackets. Without brackets a list has
no values, and the word of the next item opens none. -/
theorem listValues_takes (name : Text) (values : Option (List (TokenBut ["]"])))
    (followed : ∀ token, rest.head? = some token → BeginsItem token)
    (ahead : cursor.rest = printValues values ++ rest) :
    Takes (listValues name cursor) (listed values) rest := by
  unfold listValues
  cases values with
  | none =>
    have ahead : cursor.rest = rest := ahead
    subst ahead
    have unopened : cursor.current? ≠ some ("[" : Text) :=
      fun opened => (followed _ opened).no_value.2.1 rfl
    rw [if_neg unopened]
    exact takes_stay _ rfl
  | some values =>
    have opened : cursor.rest =
        ("[" : Text) :: (values.map TokenBut.text ++ ("]" : Text) :: rest) := by
      simpa [printValues, between] using ahead
    have taken := (tokensUntil_takes (not_mem_texts values) (Cursor.rest_advance opened)).map
      (List.map Literal.value)
    rw [List.map_map] at taken
    rw [if_pos (Cursor.current?_of_rest opened)]
    exact (expectStop_takes _ taken).since _

/-- A script is taken as one chain. Without braces the next script or the end of
the tokens ends it. -/
theorem script_takes (depth : Nat) (inputs : List Input) (braces : Bool) (body : Statements)
    (later : List Source.Item)
    (ahead : cursor.rest = print (.script inputs braces body :: later)) :
    Takes (chain depth true cursor) (scriptChain inputs body) (print later) := by
  have ahead : cursor.rest = Keyword.whenEvent.word :: (printInputs inputs ++
      (enclosed (braces || !endsScript later) body.print ++ print later)) := by
    rw [ahead, print, Item.print, List.cons_append, List.append_assoc]
    rfl
  have stops : (braces || !endsScript later) = false → Stops depth (print later) := by
    intro omitted token first
    cases later with
    | nil => cases first
    | cons next _ =>
      cases next with
      | script =>
        cases first
        exact .inl rfl
      | _ => simp [endsScript] at omitted
  have ended : ∀ cursor : Cursor Text, cursor.rest = print later →
      Takes (chain depth false cursor) .done (print later) := by
    intro after ahead
    rw [← ahead]
    apply chain_takes_nothing
    intro token first
    rw [ahead] at first
    rcases beginsItem_of_head later first with event | rfl | rfl
    · exact .inr event
    · exact .inl rfl
    · exact .inl rfl
  exact chain_takes_block (by simp) ahead
    (fun cursor => scope_takes rfl inputs _ (chain_takes body) stops) ended

/-- One printed item is taken in front of the others. Whether its braces may be left out is
decided by what is printed behind it. -/
theorem item_takes (depth : Nat) (first : Source.Item) (later : List Source.Item)
    (ahead : cursor.rest = print (first :: later)) :
    ∃ token, cursor.current? = some token ∧
      Takes (item depth token cursor) (some first.item) (print later) := by
  have followed := fun token => @beginsItem_of_head later token
  cases first with
  | scalar name initial =>
    have named : cursor.advance.rest = name.text :: (initial.print ++ print later) :=
      Cursor.rest_advance ahead
    have value := variableValue_takes name.text initial followed (Cursor.rest_advance named)
    refine ⟨"var", Cursor.current?_of_rest ahead, ?_⟩
    rw [item_var depth (Cursor.current?_of_rest named)]
    exact ((value.map _).since _).since _
  | list name values =>
    have named : cursor.advance.rest = name.text :: (printValues values ++ print later) :=
      Cursor.rest_advance ahead
    have value := listValues_takes name.text values followed (Cursor.rest_advance named)
    refine ⟨"list", Cursor.current?_of_rest ahead, ?_⟩
    rw [item_list depth (Cursor.current?_of_rest named)]
    exact ((value.map _).since _).since _
  | script inputs braces body =>
    refine ⟨"when", Cursor.current?_of_rest ahead, ?_⟩
    rw [item_when]
    exact (script_takes depth inputs braces body later ahead).map _

/-- A printed source is taken to its end, item by item. -/
theorem items_takes (depth : Nat) (source : List Source.Item) (cursor : Cursor Text)
    (ahead : cursor.rest = print source) :
    Takes (items depth cursor) (source.map Source.Item.item) [] := by
  induction source generalizing cursor with
  | nil =>
    have ahead : cursor.rest = [] := ahead
    rw [items_ended depth (by rw [Cursor.current?, ahead]; rfl)]
    exact takes_stay [] ahead
  | cons first later inductionHypothesis =>
    obtain ⟨token, standing, here⟩ := item_takes depth first later ahead
    have whole := here.andThen (inductionHypothesis _ here.rest)
      fun found rest => found.toList ++ rest
    rw [items_with_item depth standing]
    exact whole

end Grammar

end SpriteScript
