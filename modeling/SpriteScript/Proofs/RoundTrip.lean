import Mathlib.Algebra.GroupWithZero.Nat
import Mathlib.Data.List.Forall2
import SpriteScript.Proofs.Preorder
import SpriteScript.Proofs.Printing

/-!
# Parsing inverts printing

Whatever braces a source leaves out, its tokens are parsed without a warning to
the program that is meant. The arena is read back along its links: behind the
root of each script stands the tree that was printed, and there are no blocks
besides these. Declarations are entered into the tables in their order.
-/

namespace SpriteScript

/-- The tree that is found in an arena behind a link: the block there, the tree
behind its body link, and the tree behind its next link. -/
inductive Represents (blocks : List Block) : Datum → Chain → Prop where
  | nothing : Represents blocks .null .done
  | block (index : Nat) (stored : Block) (keyword : Keyword) (body next : Chain)
      (found : blocks[index]? = some stored) (family : stored.kind = keyword.kind)
      (named : stored.name = .text keyword.word)
      (inside : Represents blocks stored.body body) (after : Represents blocks stored.next next) :
      Represents blocks (.int index) (.block keyword stored.args body next)

/-- Blocks added at the end of the arena do not change a tree. So the trees of earlier
scripts stay as they are. -/
theorem Represents.append {blocks : List Block} {link : Datum} {chain : Chain}
    (represents : Represents blocks link chain) (added : List Block) :
    Represents (blocks ++ added) link chain := by
  induction represents with
  | nothing => exact .nothing
  | block index stored keyword body next found family named _ _ bodyHypothesis nextHypothesis =>
    obtain ⟨bounded, _⟩ := List.getElem?_eq_some_iff.mp found
    have kept : (blocks ++ added)[index]? = some stored :=
      (List.getElem?_append_left bounded).trans found
    exact .block index stored keyword body next kept family named bodyHypothesis nextHypothesis

/-- A chain that stands in the arena is the tree behind the link to it. -/
theorem Chain.StandsAt.represents {blocks : List Block} {chain : Chain} {index : Nat}
    (stands : chain.StandsAt blocks index) : Represents blocks (chain.link index) chain := by
  induction chain generalizing index with
  | done => exact .nothing
  | block keyword args body next bodyHypothesis nextHypothesis =>
    obtain ⟨found, inBody, inNext⟩ := stands
    exact .block index _ keyword body next found rfl rfl (bodyHypothesis inBody)
      (nextHypothesis inNext)

namespace Source

/-- The tokens that a source chooses are not empty, by what they carry with them. -/
theorem texts_ne_nil {excluded : List Text} (tokens : List (TokenBut excluded)) :
    ∀ token ∈ tokens.map TokenBut.text, token ≠ [] := by
  intro token member
  obtain ⟨chosen, _, rfl⟩ := List.mem_map.mp member
  exact chosen.nonempty

/-- No token between two that have characters lacks them. -/
theorem between_ne_nil {opening closing : Text} {tokens : List Text} (opens : opening ≠ [])
    (nonempty : ∀ token ∈ tokens, token ≠ []) (closes : closing ≠ []) :
    ∀ token ∈ between opening tokens closing, token ≠ [] := by
  intro token member
  simp only [between, List.mem_cons, List.mem_append, List.not_mem_nil, or_false] at member
  rcases member with rfl | inner | rfl
  · exact opens
  · exact nonempty token inner
  · exact closes

/-- No token of an input is empty. -/
theorem printInputs_ne_nil (inputs : List Input) : ∀ token ∈ printInputs inputs, token ≠ [] := by
  intro token member
  obtain ⟨input, _, printed⟩ := List.mem_flatMap.mp member
  cases input with
  | literal literal => exact List.mem_singleton.mp printed ▸ literal.nonempty
  | expression parts =>
    exact between_ne_nil (by decide) (texts_ne_nil parts) (by decide) token printed

/-- Braces have characters, so putting them around tokens brings no empty one. -/
theorem enclosed_ne_nil (braces : Bool) {tokens : List Text}
    (nonempty : ∀ token ∈ tokens, token ≠ []) : ∀ token ∈ enclosed braces tokens, token ≠ [] := by
  cases braces with
  | false => exact nonempty
  | true => exact between_ne_nil (by decide) nonempty (by decide)

/-- No token of a statement is empty: keywords, inputs and braces all have characters. The
induction is on the statements. -/
theorem Statements.print_ne_nil (statements : Statements) :
    ∀ token ∈ statements.print, token ≠ [] := by
  have word : ∀ keyword : Keyword, keyword.word ≠ [] := by
    intro keyword
    cases keyword <;> decide
  induction statements with
  | none => simp [print]
  | plain keyword _ inputs next inductionHypothesis =>
    intro token member
    simp only [print, List.mem_cons, List.mem_append] at member
    rcases member with rfl | input | later
    · exact word keyword
    · exact printInputs_ne_nil inputs token input
    · exact inductionHypothesis token later
  | scope keyword _ _ inputs braces body next bodyHypothesis nextHypothesis =>
    intro token member
    simp only [print, List.mem_cons, List.mem_append] at member
    rcases member with rfl | input | inside | later
    · exact word keyword
    · exact printInputs_ne_nil inputs token input
    · exact enclosed_ne_nil _ bodyHypothesis token inside
    · exact nextHypothesis token later

/-- No token of an initial value is empty. -/
theorem Initial.print_ne_nil (initial : Initial) : ∀ token ∈ initial.print, token ≠ [] := by
  have equals : ("=" : Text) ≠ [] := by decide
  cases initial with
  | omitted => simp [print]
  | equals value => simpa [print] using ⟨equals, value.nonempty⟩
  | direct value marked => simpa [print] using value.nonempty

/-- No token of the values of a list is empty. -/
theorem printValues_ne_nil (values : Option (List (TokenBut ["]"]))) :
    ∀ token ∈ printValues values, token ≠ [] := by
  cases values with
  | none => simp [printValues]
  | some values => exact between_ne_nil (by decide) (texts_ne_nil values) (by decide)

/-- No token of an item is empty. -/
theorem Item.print_ne_nil (omittable : Bool) (item : Item) :
    ∀ token ∈ item.print omittable, token ≠ [] := by
  intro token member
  cases item with
  | scalar name initial =>
    simp only [Item.print, List.mem_cons] at member
    rcases member with rfl | rfl | value
    · decide
    · exact name.nonempty
    · exact initial.print_ne_nil token value
  | list name values =>
    simp only [Item.print, List.mem_cons] at member
    rcases member with rfl | rfl | value
    · decide
    · exact name.nonempty
    · exact printValues_ne_nil values token value
  | script inputs braces body =>
    simp only [Item.print, List.mem_cons, List.mem_append] at member
    rcases member with rfl | input | inside
    · decide
    · exact printInputs_ne_nil inputs token input
    · exact enclosed_ne_nil _ body.print_ne_nil token inside

/-- No token of a printed source is empty. -/
theorem print_ne_nil (source : List Item) : ∀ token ∈ print source, token ≠ [] := by
  induction source with
  | nil => simp [print]
  | cons item later inductionHypothesis =>
    intro token member
    rcases List.mem_append.mp member with here | after
    · exact item.print_ne_nil _ token here
    · exact inductionHypothesis token after

/-- The tree of a script. Declarations have none. -/
def Item.script? : Item → Option Chain
  | .script inputs _ body => some (scriptChain inputs body)
  | _ => none

/-- The name and the value of a variable. -/
def Item.scalar? : Item → Option (Text × Value)
  | .scalar name initial => some (name.text, initial.value)
  | _ => none

/-- The name and the values of a list. -/
def Item.list? : Item → Option (Text × List Value)
  | .list name values => some (name.text, listed values)
  | _ => none

end Source

/-- The program is what the source means: behind its roots stand the trees of the
scripts in order, no other blocks are in the arena, and the tables hold the
declarations entered one after the other. -/
structure Program.Realizes (program : Program) (source : List Source.Item) : Prop where
  scripts : List.Forall₂ (Represents program.blocks) program.scripts
    (source.filterMap Source.Item.script?)
  size : program.blocks.length = ((source.filterMap Source.Item.script?).map Chain.size).sum
  scalars : program.variableTable = Table.empty.insertAll (source.filterMap Source.Item.scalar?)
  lists : program.listTable = Table.empty.insertAll (source.filterMap Source.Item.list?)

namespace Program

/-- An item that is added is realized, and those before it remain so. -/
theorem Realizes.addItem {program : Program} {source : List Source.Item}
    (realizes : program.Realizes source) (item : Source.Item) :
    (program.addItem item.item).Realizes (source ++ [item]) := by
  obtain ⟨scripts, size, scalars, lists⟩ := realizes
  cases item with
  | scalar name initial =>
    constructor <;> simp only [List.filterMap_append, List.filterMap_cons, List.filterMap_nil,
      Source.Item.script?, Source.Item.scalar?, Source.Item.list?, List.append_nil]
    · exact scripts
    · exact size
    · rw [Table.insertAll, List.foldl_concat, ← Table.insertAll, ← scalars]
      rfl
    · exact lists
  | list name values =>
    constructor <;> simp only [List.filterMap_append, List.filterMap_cons, List.filterMap_nil,
      Source.Item.script?, Source.Item.scalar?, Source.Item.list?, List.append_nil]
    · exact scripts
    · exact size
    · exact scalars
    · rw [Table.insertAll, List.foldl_concat, ← Table.insertAll, ← lists]
      rfl
  | script inputs braces body =>
    have stands := standsAt_layout (Source.scriptChain inputs body) program.blocks []
    rw [List.append_nil] at stands
    constructor <;> simp only [List.filterMap_append, List.filterMap_cons, List.filterMap_nil,
      Source.Item.script?, Source.Item.scalar?, Source.Item.list?, List.append_nil]
    · have kept := scripts.imp fun _ _ represents =>
        represents.append ((Source.scriptChain inputs body).layout program.blocks.length)
      exact List.rel_append kept (.cons stands.represents .nil)
    · rw [List.map_append, List.sum_append, ← size]
      exact (List.length_append).trans (congrArg _ (Chain.length_layout _ _))
    · exact scalars
    · exact lists

/-- All items of a source are realized when they are added in order. -/
theorem Realizes.addItems {program : Program} {before : List Source.Item}
    (realizes : program.Realizes before) (source : List Source.Item) :
    ((source.map Source.Item.item).foldl Program.addItem program).Realizes (before ++ source) := by
  induction source generalizing program before with
  | nil => simpa using realizes
  | cons item later inductionHypothesis =>
    have next := inductionHypothesis (realizes.addItem item)
    rw [List.append_assoc, List.singleton_append] at next
    exact next

end Program

/-- A printed source is parsed to the program of its items, since its items are read one by
one. -/
theorem Source.parse_printed (source : List Source.Item) :
    parse (Source.print source) = (source.map Source.Item.item).foldl Program.addItem {} := by
  have takes := Grammar.items_takes 0 source { rest := Source.print source } rfl
  exact congrArg (List.foldl Program.addItem {}) takes.value

end SpriteScript
