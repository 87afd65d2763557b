import SpriteScript.Program

/-!
# Walking through the arena

Whoever follows links remembers what was reached, so that a link to something reached before is
noticed however the links are mixed. One step follows one link; it ends the walk, stops it with
an error, or arrives at a block that was not reached before. Each arrival leaves fewer places of
the arena unvisited, which is why every walk ends.
-/

namespace SpriteScript

/-- What a link is remembered by. Numbers are remembered by value. -/
inductive Mark where
  | quantity (value : Datum.Quantity)
  | text (value : Text)
  | undefined
deriving DecidableEq

/-- The mark of a link. Lists and mappings cannot be remembered, and a link that leads nowhere
need not be. -/
def Datum.mark? : Datum → Option Mark
  | .null => none
  | .list _ => none
  | .mapping _ => none
  | .text value => some (.text value)
  | number =>
    match number.quantity? with
    | some value => some (.quantity value)
    | none => some .undefined

/-- What was reached so far, the latest first. -/
abbrev Visited := List Mark

/-- The mark was left before. The undefined number is never recognised. -/
def Visited.Holds (visited : Visited) (mark : Mark) : Prop :=
  mark ≠ .undefined ∧ mark ∈ visited

instance (visited : Visited) (mark : Mark) : Decidable (visited.Holds mark) :=
  inferInstanceAs (Decidable (_ ∧ _))

/-- The mark of a place of the arena. -/
def Mark.place (index : Nat) : Mark :=
  .quantity (.integer index)

/-- What following one link comes to. -/
inductive Step where
  /-- The link leads nowhere. -/
  | finished
  /-- The link cannot be followed. -/
  | stopped (error : Error) (visited : Visited)
  /-- The link leads to a block that was not reached before. -/
  | arrived (block : Block) (visited : Visited)

namespace Program

/-- Follows a link. That it was followed before is noticed first; then it is remembered, and only
then looked up, so a link to no block is recognised when it comes again. Both errors show the
link, and one that cannot be written ends the walk in the attempt. -/
def step (program : Program) (visited : Visited) (link : Datum) : Step :=
  match link with
  | .null => .finished
  | link =>
    match link.mark? with
    | none => .stopped .wrongType visited
    | some mark =>
      if visited.Holds mark then .stopped (.showing link (.cyclicChain link)) visited
      else
        match program.block? link with
        | none => .stopped (.showing link (.unknownBlock link)) (mark :: visited)
        | some block => .arrived block (mark :: visited)

/-- How many places of the arena were not reached yet. -/
def unvisited (program : Program) (visited : Visited) : Nat :=
  (List.range program.blocks.length).countP fun index => decide (Mark.place index ∉ visited)

/-- Fewer members satisfy the narrower of two tests if one of them satisfies only the wider. -/
theorem countP_lt_of_imp {α : Type} (narrow wide : α → Bool) (items : List α)
    (implied : ∀ item, narrow item = true → wide item = true) (found : α) (member : found ∈ items)
    (wider : wide found = true) (excluded : narrow found = false) :
    items.countP narrow < items.countP wide := by
  induction items with
  | nil => simp at member
  | cons item rest inductionHypothesis =>
    have below : rest.countP narrow ≤ rest.countP wide :=
      List.countP_mono_left fun other _ => implied other
    rcases List.mem_cons.mp member with same | later
    · subst same
      simp only [List.countP_cons, wider, excluded]
      grind
    · have strict := inductionHypothesis later
      have kept := implied item
      simp only [List.countP_cons]
      grind

/-- Remembering a place of the arena for the first time leaves fewer of them. -/
theorem unvisited_cons_place_lt (program : Program) (visited : Visited) (index : Nat)
    (bounded : index < program.blocks.length) (fresh : Mark.place index ∉ visited) :
    program.unvisited (Mark.place index :: visited) < program.unvisited visited := by
  apply countP_lt_of_imp _ _ _ _ index (List.mem_range.mpr bounded)
  · simpa using fresh
  · simp
  · intro other
    simp only [decide_eq_true_eq, List.mem_cons, not_or]
    exact And.right

/-- The mark of a link that names a place is the mark of that place. -/
theorem mark_of_index {link : Datum} {index : Nat} (named : index? link = some index) :
    link.mark? = some (Mark.place index) := by
  cases link with
  | int value =>
    cases value with
    | ofNat natural =>
      simp only [index?, Option.some.injEq] at named
      simp [Datum.mark?, Datum.quantity?, Mark.place, ← named]
    | negSucc natural => simp [index?] at named
  | bool value =>
    simp only [index?, Option.some.injEq] at named
    subst named
    cases value <;> rfl
  | _ => simp [index?] at named

/-- Only the link that leads nowhere ends a walk without an error. -/
theorem eq_null_of_finished {program : Program} {visited : Visited} {link : Datum}
    (finished : program.step visited link = .finished) : link = .null := by
  unfold step at finished
  split at finished
  · rfl
  · split at finished
    · cases finished
    · split at finished
      · cases finished
      · split at finished <;> cases finished

/-- What an arrival says: the link names a place of the arena that was not reached before, the
block there is the one arrived at, and the place is remembered. -/
theorem arrived_cases {program : Program} {visited after : Visited} {link : Datum} {block : Block}
    (arrived : program.step visited link = .arrived block after) :
    ∃ index, index? link = some index ∧ program.blocks[index]? = some block ∧
      Mark.place index ∉ visited ∧ after = Mark.place index :: visited := by
  unfold step at arrived
  split at arrived
  · cases arrived
  · split at arrived
    · cases arrived
    · rename_i mark marked
      split at arrived
      · cases arrived
      · rename_i unheld
        split at arrived
        · cases arrived
        · rename_i found
          simp only [Step.arrived.injEq] at arrived
          obtain ⟨rfl, rfl⟩ := arrived
          obtain ⟨index, named, listed⟩ := Option.bind_eq_some_iff.mp found
          have same := mark_of_index named
          rw [marked, Option.some.injEq] at same
          subst same
          exact ⟨index, named, listed, fun member => unheld ⟨by simp [Mark.place], member⟩, rfl⟩

/-- Each arrival leaves fewer places unvisited. -/
theorem unvisited_lt_of_arrived {program : Program} {visited after : Visited} {link : Datum}
    {block : Block} (arrived : program.step visited link = .arrived block after) :
    program.unvisited after < program.unvisited visited := by
  obtain ⟨index, _, listed, fresh, rfl⟩ := arrived_cases arrived
  obtain ⟨bounded, _⟩ := List.getElem?_eq_some_iff.mp listed
  exact unvisited_cons_place_lt program visited index bounded fresh

/-- Remembering more leaves no more places unvisited. -/
theorem unvisited_append_le (program : Program) (more visited : Visited) :
    program.unvisited (more ++ visited) ≤ program.unvisited visited := by
  apply List.countP_mono_left
  intro index _
  simp only [decide_eq_true_eq, List.mem_append, not_or]
  exact And.right

/-- A walk along `next` links: the blocks in order, what is remembered after it, and the error
that stopped it, if one did. -/
structure Walk where
  blocks : List Block
  visited : Visited
  failure : Option Error

/-- Walks the chain that starts at a link. -/
def walk (program : Program) (link : Datum) (visited : Visited) : Walk :=
  match _arrived : program.step visited link with
  | .finished => ⟨[], visited, none⟩
  | .stopped error after => ⟨[], after, some error⟩
  | .arrived block after =>
    let rest := walk program block.next after
    { rest with blocks := block :: rest.blocks }
termination_by program.unvisited visited
decreasing_by exact unvisited_lt_of_arrived _arrived

end Program

end SpriteScript
