import SpriteScript.Program.Dump
import SpriteScript.Proofs.Contents
import SpriteScript.Proofs.Generation

/-!
# Dumping and loading are inverse

A dump gives back the program that it was made of: every block with its family,
name, arguments and links, the scripts, and both tables in their order. Loading
takes far more than dumps, but what it has loaded is settled: there is nothing
left in it that loading would change. So a loaded program is also given back by
its dump, whatever it was loaded from.
-/

namespace SpriteScript

/-- An argument that loading leaves as it is: a number, a text, an expression of
such arguments, nothing, or a list. -/
inductive Argument.Settled : Argument → Prop where
  | number (value : Float) : Settled (.number value)
  | text (value : Text) : Settled (.text value)
  | expression (parts : List Argument) (each : ∀ part ∈ parts, Settled part) :
      Settled (.expression parts)
  | nothing : Settled (.other .null)
  | list (items : List Datum) : Settled (.other (.list items))

/-- A program whose arguments are all settled. Names, links and values are free, since
loading keeps them as they are. -/
def Program.Settled (program : Program) : Prop :=
  ∀ block ∈ program.blocks, ∀ argument ∈ block.args, argument.Settled

/-- Items that were changed each in a way that can be taken back are all taken back, in
their order. -/
theorem mapM_map_ok {α β : Type} {back : β → Except Error α} {change : α → β} {items : List α}
    (each : ∀ item ∈ items, back (change item) = .ok item) :
    (items.map change).mapM back = .ok items := by
  induction items with
  | nil => rfl
  | cons item rest inductionHypothesis =>
    have later := inductionHypothesis fun other member => each other (List.mem_cons_of_mem item member)
    rw [List.map_cons, List.mapM_cons, each item List.mem_cons_self, later]
    rfl

namespace Argument

/-- The arguments of a dump are loaded as they were, if each of them is. -/
theorem loadAll_dumpAll {arguments : List Argument}
    (each : ∀ argument ∈ arguments, load argument.dump = .ok argument) :
    loadAll (dumpAll arguments) = .ok arguments := by
  induction arguments with
  | nil => rw [dumpAll, loadAll]
  | cons argument rest inductionHypothesis =>
    have later := inductionHypothesis fun other member => each other (List.mem_cons_of_mem _ member)
    rw [dumpAll, loadAll, each argument List.mem_cons_self, later]
    rfl

/-- A settled argument is loaded as it was dumped. The induction is on the argument, with
the parts of an expression one by one. -/
theorem Settled.load_dump {argument : Argument} (settled : argument.Settled) :
    load argument.dump = .ok argument := by
  induction settled with
  | number value => rw [dump, load]
  | text value => rw [dump, load]
  | nothing => rw [dump, load] <;> nofun
  | list items => rw [dump, load] <;> nofun
  | expression parts _ inductionHypothesis =>
    have inner := loadAll_dumpAll inductionHypothesis
    rw [dump, load, loadExpression, if_pos (by decide), loadParts, inner]
    rfl

/-- The parts that a text or the keys of a mapping give are texts. -/
theorem settled_of_texts {α : Type} {items : List α} {text : α → Text} :
    ∀ argument ∈ items.map fun item => Argument.text (text item), argument.Settled := by
  intro argument member
  obtain ⟨item, _, rfl⟩ := List.mem_map.mp member
  exact .text _

mutual

/-- What is loaded as an argument is settled. A mapping becomes an expression and
an integer a number, so neither is left. -/
theorem settled_of_load (datum : Datum) {argument : Argument}
    (loaded : load datum = .ok argument) : argument.Settled := by
  cases datum with
  | null =>
    cases loaded
    exact .nothing
  | bool value =>
    cases loaded
    exact .number _
  | int value =>
    rw [load] at loaded
    cases rounded : Decimal.ofInt? value with
    | none => simp [rounded] at loaded
    | some number =>
      rw [rounded] at loaded
      cases loaded
      exact .number number
  | float value =>
    cases loaded
    exact .number value
  | text value =>
    cases loaded
    exact .text value
  | list items =>
    cases loaded
    exact .list items
  | mapping entries =>
    rw [load] at loaded
    obtain ⟨parts, inner, loaded⟩ := exists_ok_of_bind loaded
    cases loaded
    exact .expression parts (settled_of_loadExpression entries inner)

/-- The parts that a mapping gives are settled, whichever of its entries holds them. -/
theorem settled_of_loadExpression (entries : List (Text × Datum)) {arguments : List Argument}
    (loaded : loadExpression entries = .ok arguments) :
    ∀ argument ∈ arguments, argument.Settled := by
  cases entries with
  | nil => cases loaded
  | cons entry rest =>
    obtain ⟨key, value⟩ := entry
    rw [loadExpression] at loaded
    split at loaded
    · exact settled_of_loadParts value loaded
    · exact settled_of_loadExpression rest loaded

/-- Parts that are loaded from a list are settled one by one, and those from a text or a
mapping are texts. -/
theorem settled_of_loadParts (datum : Datum) {arguments : List Argument}
    (loaded : loadParts datum = .ok arguments) : ∀ argument ∈ arguments, argument.Settled := by
  cases datum with
  | list items =>
    rw [loadParts] at loaded
    exact settled_of_loadAll items loaded
  | text value =>
    cases loaded
    exact settled_of_texts
  | mapping entries =>
    cases loaded
    exact settled_of_texts
  | _ => cases loaded

/-- What is loaded item by item is settled item by item. -/
theorem settled_of_loadAll (data : List Datum) {arguments : List Argument}
    (loaded : loadAll data = .ok arguments) : ∀ argument ∈ arguments, argument.Settled := by
  cases data with
  | nil =>
    cases loaded
    simp
  | cons datum rest =>
    rw [loadAll] at loaded
    obtain ⟨first, here, loaded⟩ := exists_ok_of_bind loaded
    obtain ⟨others, later, loaded⟩ := exists_ok_of_bind loaded
    cases loaded
    intro argument member
    rcases List.mem_cons.mp member with rfl | among
    · exact settled_of_load datum here
    · exact settled_of_loadAll rest later argument among

end

end Argument

/-- Every family is loaded from its name. There are finitely many, so each of them is
tried. -/
theorem Kind.load_name (kind : Kind) : Kind.load (.text kind.name) = .ok kind := by
  cases kind <;> rfl

/-- A value is loaded as it was dumped, whatever the content of a text. The tag tells
numbers and texts apart. -/
theorem Value.load_dump (value : Value) : Value.load value.dump = .ok value := by
  cases value with
  | number value => rfl
  | text content => rfl

/-- The values of a list are loaded as they were dumped. -/
theorem Value.loadAll_dump (values : List Value) :
    Value.loadAll (.list (values.map Value.dump)) = .ok values :=
  mapM_map_ok fun value _ => value.load_dump

/-- An entry of a table is loaded as it was if its content is. -/
theorem load_entry {α : Type} (load : Datum → Except Error α) {dumped : Datum}
    (entry : Text × α) (loaded : load dumped = .ok entry.2) :
    (do return (entry.1, ← load dumped)) = Except.ok entry := by
  rw [loaded]
  rfl

/-- A block with settled arguments is loaded as it was dumped. -/
theorem Block.load_dump {block : Block} (settled : ∀ argument ∈ block.args, argument.Settled) :
    Block.load block.dump = .ok block := by
  have args := Argument.loadAll_dumpAll fun argument member => (settled argument member).load_dump
  show ((do
    let kind ← Kind.load (.text block.kind.name)
    let args ← Argument.loadParts (.list (Argument.dumpAll block.args))
    return { kind, name := block.name, args, body := block.body, next := block.next }) :
    Except Error Block) = _
  rw [Argument.loadParts, args, Kind.load_name]
  rfl

/-- What is loaded as a block has settled arguments. All its other fields can be anything.
-/
theorem Block.settled_of_load {datum : Datum} {block : Block} (loaded : Block.load datum = .ok block) :
    ∀ argument ∈ block.args, argument.Settled := by
  cases datum with
  | mapping entries =>
    rw [Block.load] at loaded
    obtain ⟨named, _, loaded⟩ := exists_ok_of_bind loaded
    obtain ⟨kind, _, loaded⟩ := exists_ok_of_bind loaded
    obtain ⟨name, _, loaded⟩ := exists_ok_of_bind loaded
    obtain ⟨args, inner, loaded⟩ := exists_ok_of_bind loaded
    cases loaded
    exact Argument.settled_of_loadParts _ inner
  | _ => cases loaded

namespace Program

/-- A settled program is loaded as it was dumped: its blocks, its scripts, and both of its
tables. -/
theorem Settled.load_dump {program : Program} (settled : program.Settled) :
    Program.load program.dump = .ok program := by
  have blocks := mapM_map_ok fun block member => Block.load_dump (settled block member)
  have scalars : (program.variableTable.entries.map fun entry => (entry.1, entry.2.dump)).mapM
      (fun entry => do return (entry.1, ← Value.load entry.2)) =
      .ok program.variableTable.entries :=
    mapM_map_ok fun entry _ => load_entry Value.load entry entry.2.load_dump
  have lists : (program.listTable.entries.map fun entry =>
      (entry.1, Datum.list (entry.2.map Value.dump))).mapM
      (fun entry => do return (entry.1, ← Value.loadAll entry.2)) =
      .ok program.listTable.entries :=
    mapM_map_ok fun entry _ => load_entry Value.loadAll entry (Value.loadAll_dump entry.2)
  show ((do
    let blocks ← (program.blocks.map Block.dump).mapM Block.load
    let scalars ← (program.variableTable.entries.map fun entry => (entry.1, entry.2.dump)).mapM
      fun entry => do return (entry.1, ← Value.load entry.2)
    let lists ← (program.listTable.entries.map fun entry =>
      (entry.1, Datum.list (entry.2.map Value.dump))).mapM
      fun entry => do return (entry.1, ← Value.loadAll entry.2)
    return { blocks, scripts := program.scripts
             variableTable := Table.empty.insertAll scalars
             listTable := Table.empty.insertAll lists }) : Except Error Program) = _
  rw [blocks, scalars, lists]
  show Except.ok { program with
    variableTable := Table.empty.insertAll program.variableTable.entries
    listTable := Table.empty.insertAll program.listTable.entries } = _
  rw [Table.insertAll_entries, Table.insertAll_entries]

/-- What is loaded as a program is settled. -/
theorem settled_of_load {datum : Datum} {program : Program}
    (loaded : Program.load datum = .ok program) : program.Settled := by
  cases datum with
  | mapping entries =>
    rw [Program.load] at loaded
    obtain ⟨items, _, loaded⟩ := exists_ok_of_bind loaded
    obtain ⟨blocks, made, loaded⟩ := exists_ok_of_bind loaded
    obtain ⟨scripts, _, loaded⟩ := exists_ok_of_bind loaded
    obtain ⟨_, _, loaded⟩ := exists_ok_of_bind loaded
    obtain ⟨_, _, loaded⟩ := exists_ok_of_bind loaded
    obtain ⟨_, _, loaded⟩ := exists_ok_of_bind loaded
    obtain ⟨_, _, loaded⟩ := exists_ok_of_bind loaded
    cases loaded
    intro block member
    obtain ⟨item, _, here⟩ := mem_of_mapM_ok made block member
    exact Block.settled_of_load here
  | _ => cases loaded

end Program

/-- A plain argument is settled. An integer would be finite but not settled, since it
is loaded as a number. -/
theorem Argument.Plain.settled {argument : Argument} (plain : argument.Plain) :
    argument.Settled := by
  induction plain with
  | number value _ => exact .number value
  | text value => exact .text value
  | expression parts _ inductionHypothesis => exact .expression parts inductionHypothesis

/-- A parsed program is settled, because tokens give numbers, texts and expressions of
these. -/
theorem parse_settled (tokens : List Text) : (parse tokens).Settled :=
  fun block member argument listed =>
    ((parse_plain tokens).arguments block member argument listed).settled

/-- A program with settled arguments, in particular with numbers, texts and
expressions of these at any depth, is given back by its dump. So is a parsed
program, which is then written in the same way, and every program that could be
loaded from whatever datum. -/
theorem load_dump_inverse :
    (∀ program : Program, program.Settled → Program.load program.dump = .ok program) ∧
      (∀ tokens : List Text, ∃ reloaded, Program.load (parse tokens).dump = .ok reloaded ∧
        reloaded = parse tokens ∧
        (JavaScript.generate reloaded).code = (JavaScript.generate (parse tokens)).code ∧
        (JavaScript.generate reloaded).warnings = (JavaScript.generate (parse tokens)).warnings) ∧
      ∀ datum program, Program.load datum = .ok program →
        Program.load program.dump = .ok program := by
  refine ⟨fun program settled => settled.load_dump, fun tokens => ?_, fun datum program loaded => ?_⟩
  · exact ⟨parse tokens, (parse_settled tokens).load_dump, rfl, rfl, rfl⟩
  · exact (Program.settled_of_load loaded).load_dump

/-- A datum with an unknown family, a name that is a number, arguments in the form
of a text, a truth value and a mapping, links that lead nowhere sensible and a tag
that is not known. -/
def wornDatum : Datum :=
  .mapping [
    ("blocks", .list [
      .mapping [("kind", .text "dance"), ("name", .int 3), ("args", .text "ab"),
        ("next", .bool true)],
      .mapping [("kind", .null), ("name", .text "say"), ("body", .text "up"),
        ("args", .list [.bool true, .mapping [("expression", .mapping [("key", .null)])],
          .list [.int 1]])]]),
    ("scripts", .text "x"),
    ("variables", .mapping [("v", .list [.text "odd", .mapping []])])]

/-- What is loaded from that datum. -/
def wornProgram : Program where
  blocks := [
    { kind := .custom, name := .int 3, args := [.text "a", .text "b"], next := .bool true },
    { kind := .custom, name := .text "say", body := .text "up"
      args := [.number 1.0, .expression [.text "key"], .other (.list [.int 1])] }]
  scripts := [.text "x"]
  variableTable := Table.empty.insert "v" (.text (.mapping []))

/-- The worn datum is loaded, and its program is given back by its dump; so is a
program with an undefined number deep inside an argument. -/
theorem load_dump_inverse_worn :
    Program.load wornDatum = .ok wornProgram ∧
      Program.load wornProgram.dump = .ok wornProgram ∧
      ∃ program : Program, program.blocks.map Block.args =
          [[.expression [.text "x", .expression [.number (0.0 / 0.0)]]]] ∧
        Program.load program.dump = .ok program := by
  obtain ⟨settled, _, loaded⟩ := load_dump_inverse
  have worn : Program.load wornDatum = .ok wornProgram := rfl
  refine ⟨worn, loaded wornDatum wornProgram worn, ?_⟩
  refine ⟨{ blocks := [{ kind := .looks, name := .text "say", next := .int (-1), args := _ }] },
    rfl, settled _ ?_⟩
  intro block member argument listed
  rw [List.mem_singleton.mp member, List.mem_singleton] at listed
  have inner : (Argument.expression [.number (0.0 / 0.0)]).Settled :=
    .expression _ (by simp [Argument.Settled.number])
  rw [listed]
  exact .expression _ (by simp [Argument.Settled.text, inner])

end SpriteScript
