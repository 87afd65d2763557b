import SpriteScript.Proofs.Preorder

/-!
# A `when` cuts

A `when` ends whatever is being read, except an expression and a declaration that
wait for a token. So tokens that are followed by a `when` are read as if they were
all there is: with the same result, the same warnings, and the `when` left in front.
The readings call each other with braces open to any depth, and each of them has to
return at the `when` as it returns at the end.

Where nothing follows the statement says that the place of the cursor does not
matter, only what is ahead of it. Both are shown at once.
-/

namespace SpriteScript.Grammar

open SpriteScript

/-- The warnings report no expression and no declaration that was left open. A body that
was left open does not matter, since a `when` ends it like the end does. -/
def Complete (warnings : List Warning) : Prop :=
  ∀ warning ∈ warnings,
    warning.code ≠ .unterminatedExpression ∧ warning.code ≠ .incompleteDeclaration

instance (warnings : List Warning) : Decidable (Complete warnings) :=
  inferInstanceAs (Decidable (∀ _ ∈ _, _))

/-- Tokens at which a reading with these warnings stops as at the end: there are none,
or a `when` comes first and the reading left nothing open. -/
def Cuts (tail : List Text) (warnings : List Warning) : Prop :=
  tail = [] ∨ (tail.head? = some ("when" : Text) ∧ Complete warnings)

/-- The longer reading gives what the shorter one gives and leaves the tail. Their warnings
are the same, too. -/
structure Agrees {α : Type} {start longStart : Cursor Text} (short : Reading α start)
    (long : Reading α longStart) (tail : List Text) : Prop where
  value : long.value = short.value
  warnings : long.warnings = short.warnings
  rest : long.cursor.rest = short.cursor.rest ++ tail

variable {α β γ : Type} {start longStart cursor longer : Cursor Text} {tail : List Text}

/-- If anything follows, it begins with an event. No other token may begin what is joined. -/
theorem Cuts.head {warnings : List Warning} (cuts : Cuts tail warnings) {token : Text}
    (first : tail.head? = some token) : token = "when" := by
  rcases cuts with rfl | ⟨event, _⟩
  · cases first
  · exact Option.some.inj (first.symm.trans event)

/-- What is cut with the warnings of two readings is cut with those of the first. -/
theorem Cuts.left {warnings more : List Warning} (cuts : Cuts tail (warnings ++ more)) :
    Cuts tail warnings :=
  cuts.imp_right fun ⟨event, complete⟩ =>
    ⟨event, fun warning member => complete warning (List.mem_append_left more member)⟩

/-- What is cut with the warnings of two readings is cut with those of the second. -/
theorem Cuts.right {warnings more : List Warning} (cuts : Cuts tail (warnings ++ more)) :
    Cuts tail more :=
  cuts.imp_right fun ⟨event, complete⟩ =>
    ⟨event, fun warning member => complete warning (List.mem_append_right warnings member)⟩

/-- Nothing follows a reading that left something open, so the readings agree for want of a
difference. -/
theorem Cuts.nothing {warnings : List Warning} {unfinished : Warning} (cuts : Cuts tail warnings)
    (reported : unfinished ∈ warnings)
    (serious : unfinished.code = .unterminatedExpression ∨ unfinished.code = .incompleteDeclaration) :
    tail = [] := by
  rcases cuts with none | ⟨_, complete⟩
  · exact none
  · obtain ⟨expression, declaration⟩ := complete unfinished reported
    exact absurd serious (not_or.mpr ⟨expression, declaration⟩)

/-- The longer cursor stands on the same token, and stays longer by the tail. -/
theorem advance_longer {token : Text} (standing : cursor.current? = some token)
    (ahead : longer.rest = cursor.rest ++ tail) :
    longer.current? = some token ∧ longer.advance.rest = cursor.advance.rest ++ tail := by
  obtain ⟨rest, begins⟩ := List.head?_eq_some_iff.mp standing
  rw [begins, List.cons_append] at ahead
  refine ⟨Cursor.current?_of_rest ahead, ?_⟩
  rw [Cursor.rest_advance ahead, Cursor.rest_advance begins]

/-- Where the shorter cursor is at its end the longer one is at the tail. -/
theorem ended_longer (ended : cursor.current? = none)
    (ahead : longer.rest = cursor.rest ++ tail) : longer.rest = tail := by
  rw [List.head?_eq_none_iff.mp ended] at ahead
  exact ahead

/-- A token other than `when` that the shorter cursor does not stand on the longer one does
not stand on either. At the end of the shorter tokens only a `when` is new. -/
theorem absent_longer {warnings : List Warning} {token : Text} (cuts : Cuts tail warnings)
    (other : token ≠ "when") (absent : cursor.current? ≠ some token)
    (ahead : longer.rest = cursor.rest ++ tail) : longer.current? ≠ some token := by
  intro standing
  cases own : cursor.current? with
  | none =>
    rw [Cursor.current?, ended_longer own ahead] at standing
    exact other (cuts.head standing)
  | some first =>
    rw [(advance_longer own ahead).1] at standing
    exact absent (own.trans standing)

/-- To read nothing is the same in front of more tokens. -/
theorem agrees_stay (value : α) (ahead : longer.rest = cursor.rest ++ tail) :
    Agrees (Reading.stay value : Reading α cursor) (Reading.stay value : Reading α longer) tail :=
  ⟨rfl, rfl, ahead⟩

/-- What is made of readings that agree agrees. -/
theorem Agrees.map {short : Reading α start} {long : Reading α longStart}
    (agrees : Agrees short long tail) (change : α → β) :
    Agrees (short.map change) (long.map change) tail :=
  ⟨congrArg change agrees.value, agrees.warnings, agrees.rest⟩

/-- Readings that agree do so also when they are seen from an earlier place. -/
theorem Agrees.since {short : Reading α cursor} {long : Reading α longer}
    (agrees : Agrees short long tail) (order : cursor.rest.length ≤ start.rest.length)
    (longOrder : longer.rest.length ≤ longStart.rest.length) :
    Agrees (short.since order) (long.since longOrder) tail :=
  ⟨agrees.value, agrees.warnings, agrees.rest⟩

/-- Readings that agree do so with the same warning after each. -/
theorem Agrees.warn {short : Reading α start} {long : Reading α longStart}
    (agrees : Agrees short long tail) (warning : Warning) :
    Agrees (short.warn warning) (long.warn warning) tail :=
  ⟨agrees.value, congrArg (· ++ [warning]) agrees.warnings, agrees.rest⟩

/-- Both step over the same token, if there is one. -/
theorem Agrees.thenAdvance {short : Reading α start} {long : Reading α longStart} {token : Text}
    (agrees : Agrees short long tail) (standing : short.cursor.current? = some token) :
    Agrees short.thenAdvance long.thenAdvance tail :=
  ⟨agrees.value, agrees.warnings, (advance_longer standing agrees.rest).2⟩

/-- Two readings agree one after the other if each of them does. -/
theorem Agrees.andThen {first : Reading α start} {longFirst : Reading α longStart}
    {second : Reading β first.cursor} {longSecond : Reading β longFirst.cursor}
    (agrees : Agrees first longFirst tail) (continued : Agrees second longSecond tail)
    (join : α → β → γ) :
    Agrees (first.andThen second join) (longFirst.andThen longSecond join) tail := by
  refine ⟨?_, ?_, continued.rest⟩
  · show join longFirst.value longSecond.value = join first.value second.value
    rw [agrees.value, continued.value]
  · show longFirst.warnings ++ longSecond.warnings = first.warnings ++ second.warnings
    rw [agrees.warnings, continued.warnings]

/-- Tokens up to a stop are the same, if the stop is there or nothing follows. -/
theorem tokensUntil_agrees (stop : Text)
    (stopped : (tokensUntil stop cursor).cursor.rest ≠ [] ∨ tail = [])
    (ahead : longer.rest = cursor.rest ++ tail) :
    Agrees (tokensUntil stop cursor) (tokensUntil stop longer) tail := by
  have same : longer.rest.takeWhile (· != stop) = cursor.rest.takeWhile (· != stop) := by
    rcases stopped with found | rfl
    · have shorter : (cursor.rest.takeWhile (· != stop)).length ≠ cursor.rest.length := by
        intro all
        apply found
        show cursor.rest.drop (cursor.rest.takeWhile (· != stop)).length = []
        rw [all, List.drop_length]
      rw [ahead, List.takeWhile_append, if_neg shorter]
    · rw [ahead, List.append_nil]
  refine ⟨same, rfl, ?_⟩
  show longer.rest.drop (longer.rest.takeWhile (· != stop)).length =
    cursor.rest.drop (cursor.rest.takeWhile (· != stop)).length ++ tail
  rw [same, ahead, List.drop_append_of_le_length (List.takeWhile_prefix _).length_le]

/-- What reaches to a stop is cut nowhere before it: either the stop is there, or it is
reported as missing and then nothing follows. -/
theorem expectStop_agrees {stop : Text} {missing : Warning} (change : List Text → α)
    (serious : missing.code = .unterminatedExpression ∨ missing.code = .incompleteDeclaration)
    (cuts : Cuts tail (expectStop missing ((tokensUntil stop cursor).map change)).warnings)
    (ahead : longer.rest = cursor.rest ++ tail) :
    Agrees (expectStop missing ((tokensUntil stop cursor).map change))
      (expectStop missing ((tokensUntil stop longer).map change)) tail := by
  by_cases ended : (tokensUntil stop cursor).cursor.rest = []
  · have short : expectStop missing ((tokensUntil stop cursor).map change) =
        ((tokensUntil stop cursor).map change).warn missing := by
      simp [expectStop, Reading.map, ended]
    rw [short] at cuts ⊢
    obtain rfl : tail = [] := cuts.nothing (by simp [Reading.warn]) serious
    have agrees := tokensUntil_agrees stop (.inr rfl) ahead
    have long : expectStop missing ((tokensUntil stop longer).map change) =
        ((tokensUntil stop longer).map change).warn missing := by
      simp [expectStop, Reading.map, agrees.rest, ended]
    rw [long]
    exact (agrees.map change).warn missing
  · have agrees := tokensUntil_agrees stop (.inl ended) ahead
    have short : expectStop missing ((tokensUntil stop cursor).map change) =
        ((tokensUntil stop cursor).map change).thenAdvance := by
      simp [expectStop, Reading.map, ended]
    have long : expectStop missing ((tokensUntil stop longer).map change) =
        ((tokensUntil stop longer).map change).thenAdvance := by
      simp [expectStop, Reading.map, agrees.rest, ended]
    obtain ⟨token, rest, standing⟩ := List.exists_cons_of_ne_nil ended
    rw [short, long]
    exact (agrees.map change).thenAdvance (Cursor.current?_of_rest standing)

/-- An expression that is closed is read alike in front of anything. -/
theorem expression_agrees (cuts : Cuts tail (expression cursor).warnings)
    (ahead : longer.rest = cursor.rest ++ tail) :
    Agrees (expression cursor) (expression longer) tail :=
  expectStop_agrees _ (.inl rfl) cuts ahead

/-- Arguments end at a `when` as they end with the tokens. The induction is along the
arguments, and an expression among them has to be closed. -/
theorem arguments_agrees {depth : Nat} {scope : Bool}
    (cuts : Cuts tail (arguments depth scope cursor).warnings)
    (ahead : longer.rest = cursor.rest ++ tail) :
    Agrees (arguments depth scope cursor) (arguments depth scope longer) tail := by
  induction cursor using arguments.induct depth scope generalizing longer with
  | case1 cursor ended =>
    have longEnded : ∀ token, longer.current? = some token →
        endsArguments depth scope token = true := by
      intro token standing
      rw [Cursor.current?, ended_longer ended ahead] at standing
      rw [cuts.head standing]
      rfl
    rw [arguments_ended depth scope (by simp [ended]), arguments_ended depth scope longEnded]
    exact agrees_stay [] ahead
  | case2 cursor token standing ends =>
    have longStanding := (advance_longer standing ahead).1
    rw [arguments_ended depth scope (by simp [standing, ends]),
      arguments_ended depth scope (by simp [longStanding, ends])]
    exact agrees_stay [] ahead
  | case3 cursor token standing continued opening inner =>
    rename_i inductionHypothesis
    cases beq_iff_eq.mp opening
    have continued := Bool.eq_false_iff.mpr continued
    obtain ⟨longStanding, longAhead⟩ := advance_longer standing ahead
    rw [arguments_expression depth scope standing continued] at cuts ⊢
    rw [arguments_expression depth scope longStanding continued]
    have parts := expression_agrees cuts.left longAhead
    have rest := inductionHypothesis cuts.right parts.rest
    exact (parts.since (Cursor.length_rest_advance_le cursor)
      (Cursor.length_rest_advance_le longer)).andThen rest _
  | case4 cursor token standing continued single inductionHypothesis =>
    have continued := Bool.eq_false_iff.mpr continued
    have single : token ≠ "(" := by simpa using single
    obtain ⟨longStanding, longAhead⟩ := advance_longer standing ahead
    rw [arguments_literal depth scope standing continued single] at cuts ⊢
    rw [arguments_literal depth scope longStanding continued single]
    exact ((inductionHypothesis cuts longAhead).map _).since _ _

/-- Closing a body adds to its warnings at most. -/
theorem Cuts.of_closing {name : Datum} {body : Reading α start}
    (cuts : Cuts tail (closing name body).warnings) : Cuts tail body.warnings := by
  unfold closing at cuts
  split at cuts
  · exact cuts
  · exact cuts.left

/-- A body that is not closed is reported at a `when` as at the end, with the same warning.
-/
theorem closing_agrees {short : Reading α start} {long : Reading α longStart} (name : Datum)
    (cuts : Cuts tail short.warnings) (agrees : Agrees short long tail) :
    Agrees (closing name short) (closing name long) tail := by
  unfold closing
  by_cases closed : short.cursor.current? = some ("\x7d" : Text)
  · rw [if_pos closed, if_pos (advance_longer closed agrees.rest).1]
    exact agrees.thenAdvance closed
  · rw [if_neg closed, if_neg (absent_longer cuts (by decide) closed agrees.rest)]
    exact agrees.warn _

/-- A chain ends where the longer cursor stands on no keyword or on a `when`. -/
theorem chain_agrees_ended {depth : Nat} {warnings : List Warning} (cuts : Cuts tail warnings)
    (ended : cursor.current? = none) (ahead : longer.rest = cursor.rest ++ tail) :
    Agrees (chain depth false cursor) (chain depth false longer) tail := by
  have short : keyword? cursor = none := by simp [keyword?, ended]
  have long : chain depth false longer = .stay .done := by
    cases standing : longer.current? with
    | none => exact chain_without_keyword depth false (by simp [keyword?, standing])
    | some token =>
      have event : token = "when" := by
        rw [Cursor.current?, ended_longer ended ahead] at standing
        exact cuts.head standing
      exact chain_before_event depth (keyword?_of_when (event ▸ standing))
  rw [chain_without_keyword depth false short, long]
  exact agrees_stay Chain.done ahead

/-- The longer cursor stands on the same keyword. -/
theorem keyword?_longer {keyword : Keyword} (standing : keyword? cursor = some keyword)
    (ahead : longer.rest = cursor.rest ++ tail) :
    keyword? longer = some keyword ∧ longer.advance.rest = cursor.advance.rest ++ tail := by
  obtain ⟨token, current, found⟩ := Option.bind_eq_some_iff.mp standing
  obtain ⟨longCurrent, longAhead⟩ := advance_longer current ahead
  exact ⟨Option.bind_eq_some_iff.mpr ⟨token, longCurrent, found⟩, longAhead⟩

/-- Chains and blocks are read alike in front of a `when`, with braces open to any
depth. A chain that may begin with an event has to have a token of its own, since it
would read the script that the `when` begins.

The two call each other, so both are shown along the tokens that they take. -/
theorem chain_block_agrees :
    (∀ depth event cursor, ∀ longer : Cursor Text, (event = true → cursor.current? ≠ none) →
      Cuts tail (chain depth event cursor).warnings → longer.rest = cursor.rest ++ tail →
      Agrees (chain depth event cursor) (chain depth event longer) tail) ∧
    ∀ depth keyword cursor, ∀ longer : Cursor Text,
      Cuts tail (block depth keyword cursor).warnings → longer.rest = cursor.rest ++ tail →
      Agrees (block depth keyword cursor) (block depth keyword longer) tail := by
  refine chain.mutual_induct _ _ ?_ ?_ ?_ ?_ ?_ ?_
  -- No keyword: the tokens have ended, or one stands there that begins no block.
  · intro depth event cursor absent longer own cuts ahead
    cases standing : cursor.current? with
    | none =>
      cases event with
      | true => exact absurd standing (own rfl)
      | false => exact chain_agrees_ended cuts standing ahead
    | some token =>
      have longAbsent : keyword? longer = none := by
        rw [keyword?, (advance_longer standing ahead).1, ← standing]
        exact absent
      rw [chain_without_keyword depth event absent, chain_without_keyword depth event longAbsent]
      exact agrees_stay Chain.done ahead
  -- A `when` of the shorter tokens ends both chains.
  · rintro depth event cursor keyword standing ⟨rfl, rfl⟩ longer _ cuts ahead
    rw [chain_before_event depth standing, chain_before_event depth (keyword?_longer standing ahead).1]
    exact agrees_stay Chain.done ahead
  -- A block, and then the rest of the chain.
  · intro depth event cursor keyword standing allowed _ inBlock inRest longer _ cuts ahead
    obtain ⟨longStanding, longAhead⟩ := keyword?_longer standing ahead
    rw [chain_with_block depth event standing allowed] at cuts ⊢
    rw [chain_with_block depth event longStanding allowed]
    have first := inBlock longer.advance cuts.left longAhead
    have rest := inRest (block depth keyword longer.advance).cursor (by simp) cuts.right first.rest
    exact (first.since (Cursor.length_rest_advance_le cursor)
      (Cursor.length_rest_advance_le longer)).andThen rest _
  -- A scope with a brace: its body may reach to the end and is then reported in both.
  · intro depth keyword cursor _ scope opened inBody longer cuts ahead
    rw [block_braced depth cursor scope opened] at cuts ⊢
    have args := arguments_agrees cuts.left ahead
    obtain ⟨longOpened, longAhead⟩ := advance_longer opened args.rest
    rw [block_braced depth longer scope longOpened]
    have closingCuts : Cuts tail (closing (.text keyword.word) (chain (depth + 1) false
        (arguments depth keyword.isScope cursor).cursor.advance)).warnings := cuts.right
    have body := inBody (arguments depth keyword.isScope longer).cursor.advance (by simp)
      closingCuts.of_closing longAhead
    have closed := closing_agrees (.text keyword.word) closingCuts.of_closing body
    exact args.andThen (closed.since _ _) Prod.mk
  -- A scope without a brace.
  · intro depth keyword cursor _ scope unopened inBody longer cuts ahead
    rw [block_unbraced depth cursor scope unopened] at cuts ⊢
    have args := arguments_agrees cuts.left ahead
    rw [block_unbraced depth longer scope (absent_longer cuts.left (by decide) unopened args.rest)]
    have body := inBody (arguments depth keyword.isScope longer).cursor (by simp) cuts.right
      args.rest
    exact args.andThen body Prod.mk
  -- A block without a body.
  · intro depth keyword cursor plain longer cuts ahead
    have plain : keyword.isScope = false := by simpa using plain
    rw [block_plain depth cursor plain] at cuts ⊢
    rw [block_plain depth longer plain]
    exact (arguments_agrees cuts ahead).map _

/-- A `when` is no value of a variable, and after an equals sign the value is missing
only at the end. -/
theorem variableValue_agrees {name : Text} (cuts : Cuts tail (variableValue name cursor).warnings)
    (ahead : longer.rest = cursor.rest ++ tail) :
    Agrees (variableValue name cursor) (variableValue name longer) tail := by
  cases standing : cursor.current? with
  | none =>
    have longOther : ∀ token, longer.current? = some token →
        token ≠ "=" ∧ (Literal.isNumber token || Literal.isQuoted token) = false := by
      intro token first
      rw [Cursor.current?, ended_longer standing ahead] at first
      rw [cuts.head first]
      decide
    rw [variableValue_absent name (by simp [standing]), variableValue_absent name longOther]
    exact agrees_stay (Value.number 0) ahead
  | some token =>
    obtain ⟨longStanding, longAhead⟩ := advance_longer standing ahead
    by_cases assigned : token = "="
    · subst assigned
      cases given : cursor.advance.current? with
      | none =>
        rw [variableValue_unassigned name standing given] at cuts ⊢
        obtain rfl : tail = [] := cuts.nothing (List.mem_singleton.mpr rfl) (.inr rfl)
        have longEnded : longer.advance.current? = none := by
          rw [Cursor.current?, ended_longer given longAhead]
          rfl
        rw [variableValue_unassigned name longStanding longEnded]
        exact ((agrees_stay (Value.number 0) longAhead).warn _).since _ _
      | some value =>
        have longGiven := (advance_longer given longAhead).1
        rw [variableValue_assigned name standing given,
          variableValue_assigned name longStanding longGiven]
        exact ((agrees_stay (Literal.value value) longAhead).thenAdvance given).since _ _
    · by_cases literal : (Literal.isNumber token || Literal.isQuoted token) = true
      · rw [variableValue_literal name standing assigned literal,
          variableValue_literal name longStanding assigned literal]
        exact (agrees_stay (Literal.value token) ahead).thenAdvance standing
      · have plain := Bool.eq_false_iff.mpr literal
        have other : ∀ first, some token = some first →
            first ≠ "=" ∧ (Literal.isNumber first || Literal.isQuoted first) = false := by
          rintro first ⟨⟩
          exact ⟨assigned, plain⟩
        rw [variableValue_absent name (standing ▸ other),
          variableValue_absent name (longStanding ▸ other)]
        exact agrees_stay (Value.number 0) ahead

/-- What a declaration reads after its keyword: a name, which may be missing, and what
it declares under the name. -/
def afterName (missing : Warning)
    (declare : Text → (place : Cursor Text) → Reading (Option Item) place)
    (cursor : Cursor Text) : Reading (Option Item) cursor :=
  match cursor.current? with
  | none => (Reading.stay none).warn missing
  | some name => (declare name cursor.advance).since (Cursor.length_rest_advance_le cursor)

/-- A name is missing only at the end. -/
theorem afterName_agrees {missing : Warning}
    {declare : Text → (place : Cursor Text) → Reading (Option Item) place}
    (serious : missing.code = .incompleteDeclaration)
    (each : ∀ name (place longPlace : Cursor Text), Cuts tail (declare name place).warnings →
      longPlace.rest = place.rest ++ tail →
      Agrees (declare name place) (declare name longPlace) tail)
    (cuts : Cuts tail (afterName missing declare cursor).warnings)
    (ahead : longer.rest = cursor.rest ++ tail) :
    Agrees (afterName missing declare cursor) (afterName missing declare longer) tail := by
  unfold afterName at cuts ⊢
  cases standing : cursor.current? with
  | none =>
    rw [standing] at cuts
    obtain rfl : tail = [] := cuts.nothing (List.mem_singleton.mpr rfl) (.inr serious)
    have longEnded : longer.current? = none := by
      rw [Cursor.current?, ended_longer standing ahead]
      rfl
    rw [longEnded]
    exact (agrees_stay none ahead).warn missing
  | some name =>
    rw [standing] at cuts
    obtain ⟨longStanding, longAhead⟩ := advance_longer standing ahead
    rw [longStanding]
    exact (each name cursor.advance longer.advance cuts longAhead).since _ _

/-- A variable is declared alike in front of more tokens, if its declaration was complete.
An incomplete one would take the next token for its name or value. -/
theorem variableDeclaration_agrees (cuts : Cuts tail (variableDeclaration cursor).warnings)
    (ahead : longer.rest = cursor.rest ++ tail) :
    Agrees (variableDeclaration cursor) (variableDeclaration longer) tail := by
  have shape : ∀ place, variableDeclaration place =
      afterName ⟨.incompleteDeclaration, "'var' without a name"⟩ (fun name place =>
        (variableValue name place).map fun value => some (.declareVariable name value)) place :=
    fun _ => rfl
  rw [shape] at cuts ⊢
  rw [shape]
  exact afterName_agrees rfl (fun _ _ _ cuts ahead => (variableValue_agrees cuts ahead).map _)
    cuts ahead

/-- A list reaches to its closing bracket. Without one it would take the `when` for a
value. -/
theorem listValues_agrees {name : Text} (cuts : Cuts tail (listValues name cursor).warnings)
    (ahead : longer.rest = cursor.rest ++ tail) :
    Agrees (listValues name cursor) (listValues name longer) tail := by
  unfold listValues at cuts ⊢
  by_cases opened : cursor.current? = some ("[" : Text)
  · obtain ⟨longOpened, longAhead⟩ := advance_longer opened ahead
    rw [if_pos opened] at cuts ⊢
    rw [if_pos longOpened]
    exact (expectStop_agrees _ (.inr rfl) cuts longAhead).since _ _
  · rw [if_neg opened, if_neg (absent_longer cuts (by decide) opened ahead)]
    exact agrees_stay [] ahead

/-- A list is declared alike in front of more tokens, if its declaration was complete. -/
theorem listDeclaration_agrees (cuts : Cuts tail (listDeclaration cursor).warnings)
    (ahead : longer.rest = cursor.rest ++ tail) :
    Agrees (listDeclaration cursor) (listDeclaration longer) tail := by
  have shape : ∀ place, listDeclaration place =
      afterName ⟨.incompleteDeclaration, "'list' without a name"⟩ (fun name place =>
        (listValues name place).map fun values => some (.declareList name values)) place :=
    fun _ => rfl
  rw [shape] at cuts ⊢
  rw [shape]
  exact afterName_agrees rfl (fun _ _ _ cuts ahead => (listValues_agrees cuts ahead).map _)
    cuts ahead

/-- An item that begins before a `when` ends there at the latest. The cases are the words
that begin an item, and a token that begins none. -/
theorem item_agrees {depth : Nat} {token : Text} (standing : cursor.current? = some token)
    (cuts : Cuts tail (item depth token cursor).warnings)
    (ahead : longer.rest = cursor.rest ++ tail) :
    Agrees (item depth token cursor) (item depth token longer) tail := by
  obtain ⟨_, longAhead⟩ := advance_longer standing ahead
  unfold item at cuts ⊢
  by_cases script : (token == "when") = true
  · rw [if_pos script] at cuts ⊢
    rw [if_pos script]
    exact (chain_block_agrees.1 depth true cursor longer (by simp [standing]) cuts ahead).map _
  by_cases scalar : (token == "var") = true
  · rw [if_neg script, if_pos scalar] at cuts ⊢
    rw [if_neg script, if_pos scalar]
    exact (variableDeclaration_agrees cuts longAhead).since _ _
  by_cases list : (token == "list") = true
  · rw [if_neg script, if_neg scalar, if_pos list] at cuts ⊢
    rw [if_neg script, if_neg scalar, if_pos list]
    exact (listDeclaration_agrees cuts longAhead).since _ _
  · rw [if_neg script, if_neg scalar, if_neg list, if_neg script, if_neg scalar, if_neg list]
    exact ((agrees_stay none ahead).warn _).thenAdvance standing

/-- The items before the tail are read first, and then those of the tail. What is read
at the tail may be given by any cursor that stands there. -/
theorem items_append {depth : Nat} {more : List Item} {reports : List Warning}
    (ending : ∀ last : Cursor Text, last.rest = tail →
      (items depth last).value = more ∧ (items depth last).warnings = reports)
    (cuts : Cuts tail (items depth cursor).warnings)
    (ahead : longer.rest = cursor.rest ++ tail) :
    (items depth longer).value = (items depth cursor).value ++ more ∧
      (items depth longer).warnings = (items depth cursor).warnings ++ reports := by
  induction cursor using items.induct depth generalizing longer with
  | case1 cursor ended =>
    rw [items_ended depth ended]
    exact ending longer (ended_longer ended ahead)
  | case2 cursor token standing first =>
    rename_i inductionHypothesis
    rw [items_with_item depth standing] at cuts ⊢
    rw [items_with_item depth (advance_longer standing ahead).1]
    have here := item_agrees standing cuts.left ahead
    have later := inductionHypothesis cuts.right here.rest
    constructor
    · show (item depth token longer).value.toList ++ _ = _
      rw [here.value, later.1, ← List.append_assoc]
      rfl
    · show (item depth token longer).warnings ++ _ = _
      rw [here.warnings, later.2, ← List.append_assoc]
      rfl

/-- What is read depends on the tokens ahead and not on the place of the cursor. No reader
looks at how many tokens came before. -/
theorem items_of_rest (depth : Nat) (same : longer.rest = cursor.rest) :
    (items depth longer).value = (items depth cursor).value ∧
      (items depth longer).warnings = (items depth cursor).warnings := by
  have ending : ∀ last : Cursor Text, last.rest = [] →
      (items depth last).value = [] ∧ (items depth last).warnings = [] := by
    intro last ended
    rw [items_ended depth (by rw [Cursor.current?, ended]; rfl)]
    exact ⟨rfl, rfl⟩
  have whole := @items_append cursor longer [] depth [] [] ending (.inl rfl) (by simp [same])
  simpa using whole

/-- A `when` cuts the items: those before it are read as if it were not there, and those
from it on as if nothing came before. -/
theorem items_cut (depth : Nat) {first second : List Text}
    (complete : Complete (items depth { rest := first }).warnings) :
    (items depth { rest := first ++ ("when" : Text) :: second }).value =
        (items depth { rest := first }).value ++ (items depth { rest := ("when" : Text) :: second }).value ∧
      (items depth { rest := first ++ ("when" : Text) :: second }).warnings =
        (items depth { rest := first }).warnings ++
          (items depth { rest := ("when" : Text) :: second }).warnings :=
  items_append (fun _ there => items_of_rest depth there) (.inr ⟨rfl, complete⟩) rfl

end SpriteScript.Grammar
