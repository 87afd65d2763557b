import Mathlib.Data.List.Nodup
import SpriteScript.JavaScript.Fragment
import SpriteScript.Program.Walk

/-!
# Links and the order in which they are followed

A joint is a place of a program that holds a link: an entry of the list of
scripts, or the body or the next field of a block. Which joints are traversed is
a closure that involves no order. Their order is depth first: from a block to
its body, if that is written, and then to the block after it.

The two views meet where no block is reached twice. A trail that was followed to
its end without a repetition holds exactly the traversed joints, and a trail that
meets a place for the second time met it through another joint. Nothing here
depends on how a block is written.
-/

namespace SpriteScript

/-- Searching a text finds a pattern exactly where it stands in one piece. -/
theorem Text.occursIn_iff (pattern text : Text) :
    Text.occursIn pattern text = true ↔ pattern <:+: text := by
  induction text with
  | nil => simp [Text.occursIn]
  | cons c rest inductionHypothesis =>
    rw [Text.occursIn, Bool.or_eq_true, inductionHypothesis, List.infix_cons_iff,
      List.isPrefixOf_iff_prefix]

/-- A link that is an id or leads nowhere. -/
def Datum.IsLink : Datum → Prop
  | .null => True
  | .int _ => True
  | _ => False

/-- An event that scripts can wait for: the start of the program, or any text
that holds the word for a key press. -/
def Argument.IsKnownEvent : Argument → Prop
  | .text event => event = "flagClicked" ∨ JavaScript.keyWord <:+: event
  | _ => False

instance (event : Argument) : Decidable event.IsKnownEvent :=
  match event with
  | .text event =>
    decidable_of_iff (event = "flagClicked" ∨ Text.occursIn JavaScript.keyWord event = true)
      (or_congr_right (Text.occursIn_iff JavaScript.keyWord event))
  | .number _ => isFalse id
  | .expression _ => isFalse id
  | .other _ => isFalse id

instance (datum : Datum) (text : Text) : Decidable (datum = .text text) :=
  match datum with
  | .text value => decidable_of_iff (value = text) (by simp)
  | .null => isFalse nofun
  | .bool _ => isFalse nofun
  | .int _ => isFalse nofun
  | .float _ => isFalse nofun
  | .list _ => isFalse nofun
  | .mapping _ => isFalse nofun

/-- A block whose body is written: an event that is known, a loop or a
conditional. -/
def Block.EntersBody (block : Block) : Prop :=
  (block.kind = .event ∧ block.name = .text "when" ∧ block.event.IsKnownEvent) ∨
    (block.kind = .control ∧ (block.name = .text "repeat" ∨ block.name = .text "if"))

instance (block : Block) : Decidable block.EntersBody :=
  inferInstanceAs (Decidable (_ ∨ _))

/-- A block without its links. -/
def Block.unlinked (block : Block) : Block :=
  { block with body := .null, next := .null }

/-- A place of a program that holds a link. The fields of a block are named by
its id. -/
inductive Joint where
  | root (position : Nat)
  | body (id : Int)
  | next (id : Int)
deriving DecidableEq

namespace Program

/-- The link at a joint. A joint that does not exist leads nowhere. -/
def linkAt (program : Program) : Joint → Datum
  | .root position => program.scripts[position]?.getD .null
  | .body id => ((program.block? (.int id)).map Block.body).getD .null
  | .next id => ((program.block? (.int id)).map Block.next).getD .null

/-- An id that names a block of the arena. -/
def InRange (program : Program) (id : Int) : Prop :=
  0 ≤ id ∧ id < program.blocks.length

/-- The joints whose links are traversed: all roots of scripts, the next joint of
every block that a traversed link leads to, and the body joint of those among
these blocks whose body is written. -/
inductive Traversed (program : Program) : Joint → Prop where
  | root (position : Nat) (listed : position < program.scripts.length) :
      Traversed program (.root position)
  | body (joint : Joint) (id : Int) (block : Block) (earlier : Traversed program joint)
      (link : program.linkAt joint = .int id) (found : program.block? (.int id) = some block)
      (enters : block.EntersBody) : Traversed program (.body id)
  | next (joint : Joint) (id : Int) (block : Block) (earlier : Traversed program joint)
      (link : program.linkAt joint = .int id) (found : program.block? (.int id) = some block) :
      Traversed program (.next id)

/-- The joints that follow from arriving at an id, in order: the body if it is
written, and then the next block. An id of no block leads no further. -/
def onward (program : Program) (id : Int) : List Joint :=
  match program.block? (.int id) with
  | none => []
  | some block => (if block.EntersBody then [.body id] else []) ++ [.next id]

/-- The roots of the scripts in order. -/
def roots (program : Program) : List Joint :=
  (List.range program.scripts.length).map .root

/-- Follows links depth first from the pending joints. The trail holds the joints
whose links lead to an id, with the id, in the order of following; what is still
pending afterwards is left. -/
inductive Follows (program : Program) : List Joint → List (Joint × Int) → List Joint → Prop where
  | here (pending : List Joint) : Follows program pending [] pending
  | nowhere (joint : Joint) (pending left : List Joint) (trail : List (Joint × Int))
      (link : program.linkAt joint = .null) (rest : Follows program pending trail left) :
      Follows program (joint :: pending) trail left
  | onto (joint : Joint) (id : Int) (pending left : List Joint) (trail : List (Joint × Int))
      (link : program.linkAt joint = .int id)
      (rest : Follows program (program.onward id ++ pending) trail left) :
      Follows program (joint :: pending) ((joint, id) :: trail) left

/-- All links of a program are ids or lead nowhere. Which ids they are is free. -/
structure Linked (program : Program) : Prop where
  scripts : ∀ root ∈ program.scripts, root.IsLink
  bodies : ∀ block ∈ program.blocks, block.body.IsLink
  nexts : ∀ block ∈ program.blocks, block.next.IsLink

/-- Every id that is traversed names a block, and no id is traversed through two
joints. -/
structure LinkedOnce (program : Program) : Prop where
  inside : ∀ joint id, program.Traversed joint → program.linkAt joint = .int id →
    program.InRange id
  once : ∀ first second id, program.Traversed first → program.Traversed second →
    program.linkAt first = .int id → program.linkAt second = .int id → first = second

/-- The other program has the same contents, and differs from this one at most in
links that this one does not traverse. -/
structure Relinked (program other : Program) : Prop where
  scalars : other.variableTable = program.variableTable
  lists : other.listTable = program.listTable
  scripts : other.scripts = program.scripts
  blocks : other.blocks.map Block.unlinked = program.blocks.map Block.unlinked
  links : ∀ joint, program.Traversed joint → other.linkAt joint = program.linkAt joint

/-- Ids without an offence: none occurs twice, and each names a block. -/
structure Clear (program : Program) (ids : List Int) : Prop where
  distinct : ids.Nodup
  inside : ∀ id ∈ ids, program.InRange id

/-- The first link that offends, in the order of following from the roots: without
an offence the trail leads up to a joint whose id is on the trail already or
names no block. -/
structure FirstOffence (program : Program) (trail : List (Joint × Int)) (joint : Joint)
    (id : Int) : Prop where
  followed : ∃ rest, program.Follows program.roots trail (joint :: rest)
  clear : program.Clear (trail.map Prod.snd)
  link : program.linkAt joint = .int id
  offends : id ∈ trail.map Prod.snd ∨ ¬ program.InRange id

variable {program : Program}

/-- A link names a block exactly when its id is in range. -/
theorem inRange_iff (id : Int) :
    program.InRange id ↔ ∃ block, program.block? (.int id) = some block := by
  cases id with
  | ofNat index =>
    constructor
    · rintro ⟨_, bounded⟩
      exact ⟨_, List.getElem?_eq_getElem (Int.ofNat_lt.mp bounded)⟩
    · rintro ⟨block, found⟩
      obtain ⟨bounded, _⟩ := List.getElem?_eq_some_iff.mp found
      exact ⟨Int.natCast_nonneg index, Int.ofNat_lt.mpr bounded⟩
  | negSucc index =>
    constructor
    · rintro ⟨nonnegative, _⟩
      exact absurd nonnegative (Int.not_le.mpr (Int.negSucc_lt_zero index))
    · rintro ⟨block, found⟩
      cases found

/-- A link leads to blocks of the arena only. -/
theorem mem_of_block? {link : Datum} {block : Block} (found : program.block? link = some block) :
    block ∈ program.blocks := by
  obtain ⟨index, _, listed⟩ := Option.bind_eq_some_iff.mp found
  exact List.mem_of_getElem? listed

/-- The joints onward from an id are the next link of its block and, if the body is
entered, the body link. -/
theorem mem_onward {id : Int} {joint : Joint} :
    joint ∈ program.onward id ↔ ∃ block, program.block? (.int id) = some block ∧
      (joint = .body id ∧ block.EntersBody ∨ joint = .next id) := by
  unfold onward
  cases found : program.block? (.int id) with
  | none => simp
  | some block =>
    by_cases enters : block.EntersBody <;> simp [enters]

/-- Following can be done in stages. -/
theorem Follows.trans {pending middle left : List Joint} {first second : List (Joint × Int)}
    (before : program.Follows pending first middle) (after : program.Follows middle second left) :
    program.Follows pending (first ++ second) left := by
  induction before with
  | here pending => exact after
  | nowhere joint pending left trail link _ inductionHypothesis =>
    exact .nowhere joint pending _ _ link (inductionHypothesis after)
  | onto joint id pending left trail link _ inductionHypothesis =>
    exact .onto joint id pending _ _ link (inductionHypothesis after)

/-- The joints onward from an id are traversed once a traversed link leads to it. -/
theorem Traversed.onward {joint other : Joint} {id : Int} (reached : program.Traversed joint)
    (link : program.linkAt joint = .int id) (following : other ∈ program.onward id) :
    program.Traversed other := by
  obtain ⟨block, found, ⟨rfl, enters⟩ | rfl⟩ := mem_onward.mp following
  · exact .body joint id block reached link found enters
  · exact .next joint id block reached link found

/-- Only traversed joints are followed or left: a joint becomes pending when the
block that holds it was reached. -/
theorem Follows.traversed {pending left : List Joint} {trail : List (Joint × Int)}
    (follows : program.Follows pending trail left)
    (start : ∀ joint ∈ pending, program.Traversed joint) :
    (∀ entry ∈ trail, program.Traversed entry.1 ∧ program.linkAt entry.1 = .int entry.2) ∧
      ∀ joint ∈ left, program.Traversed joint := by
  induction follows with
  | here pending => exact ⟨by simp, start⟩
  | nowhere joint pending left trail _ _ inductionHypothesis =>
    exact inductionHypothesis fun other member => start other (List.mem_cons_of_mem joint member)
  | onto joint id pending left trail link _ inductionHypothesis =>
    have reached := start joint List.mem_cons_self
    have continued : ∀ other ∈ program.onward id ++ pending, program.Traversed other := by
      intro other member
      rcases List.mem_append.mp member with new | waiting
      · exact reached.onward link new
      · exact start other (List.mem_cons_of_mem joint waiting)
    obtain ⟨followed, pendingLeft⟩ := inductionHypothesis continued
    refine ⟨?_, pendingLeft⟩
    intro entry member
    rcases List.mem_cons.mp member with rfl | later
    · exact ⟨reached, link⟩
    · exact followed entry later

/-- A trail that was followed to its end is closed: it holds every pending joint
that leads to an id, and with each entry the joints onward from its id. -/
theorem Follows.closed {pending left : List Joint} {trail : List (Joint × Int)}
    (follows : program.Follows pending trail left) (ended : left = []) :
    (∀ joint ∈ pending, ∀ id, program.linkAt joint = .int id → (joint, id) ∈ trail) ∧
      ∀ entry ∈ trail, ∀ joint ∈ program.onward entry.2, ∀ id,
        program.linkAt joint = .int id → (joint, id) ∈ trail := by
  induction follows with
  | here pending =>
    subst ended
    simp
  | nowhere joint pending left trail link _ inductionHypothesis =>
    obtain ⟨covered, closed⟩ := inductionHypothesis ended
    refine ⟨?_, closed⟩
    intro other member id leads
    rcases List.mem_cons.mp member with rfl | waiting
    · rw [link] at leads
      cases leads
    · exact covered other waiting id leads
  | onto joint id pending left trail link _ inductionHypothesis =>
    obtain ⟨covered, closed⟩ := inductionHypothesis ended
    constructor
    · intro other member target leads
      rcases List.mem_cons.mp member with rfl | waiting
      · have same : id = target := Datum.int.inj (link.symm.trans leads)
        exact same ▸ List.mem_cons_self
      · exact List.mem_cons_of_mem _
          (covered other (List.mem_append_right _ waiting) target leads)
    · intro entry member other following target leads
      rcases List.mem_cons.mp member with rfl | later
      · exact List.mem_cons_of_mem _
          (covered other (List.mem_append_left _ following) target leads)
      · exact List.mem_cons_of_mem _ (closed entry later other following target leads)

/-- The roots are the joints that traversal starts from. -/
theorem traversed_of_mem_roots {joint : Joint} (member : joint ∈ program.roots) :
    program.Traversed joint := by
  obtain ⟨position, listed, rfl⟩ := List.mem_map.mp member
  exact .root position (List.mem_range.mp listed)

/-- A trail that was followed from the roots to its end holds every traversed
joint that leads to an id. -/
theorem Follows.covers {trail : List (Joint × Int)}
    (follows : program.Follows program.roots trail []) {joint : Joint} {id : Int}
    (traversed : program.Traversed joint) (link : program.linkAt joint = .int id) :
    (joint, id) ∈ trail := by
  obtain ⟨covered, closed⟩ := follows.closed rfl
  induction traversed generalizing id with
  | root position listed =>
    exact covered _ (List.mem_map.mpr ⟨position, List.mem_range.mpr listed, rfl⟩) id link
  | body earlier source block _ leads found enters inductionHypothesis =>
    have arrived := inductionHypothesis leads
    exact closed _ arrived _ (mem_onward.mpr ⟨block, found, .inl ⟨rfl, enters⟩⟩) id link
  | next earlier source block _ leads found inductionHypothesis =>
    have arrived := inductionHypothesis leads
    exact closed _ arrived _ (mem_onward.mpr ⟨block, found, .inr rfl⟩) id link

/-- What is known of a trail while no id occurs twice in it: no joint occurs
twice among those followed and those pending, and a joint of a block occurs only
after the block was reached. -/
structure Accounted (trail : List (Joint × Int)) (pending : List Joint) : Prop where
  distinct : (trail.map Prod.fst ++ pending).Nodup
  bodies : ∀ id, .body id ∈ trail.map Prod.fst ++ pending → id ∈ trail.map Prod.snd
  nexts : ∀ id, .next id ∈ trail.map Prod.fst ++ pending → id ∈ trail.map Prod.snd

/-- The joints onward from an id are joints of that id, and distinct. -/
theorem onward_nodup (id : Int) : (program.onward id).Nodup := by
  unfold onward
  cases program.block? (.int id) with
  | none => simp
  | some block =>
    by_cases enters : block.EntersBody <;> simp [enters]

/-- A new id keeps the account: its joints are new, since joints of a block occur
only after it was reached. -/
theorem Accounted.step {trail : List (Joint × Int)} {joint : Joint} {pending : List Joint}
    {id : Int} (accounted : Accounted trail (joint :: pending)) (new : id ∉ trail.map Prod.snd) :
    Accounted (trail ++ [(joint, id)]) (program.onward id ++ pending) := by
  have absent : ∀ other ∈ program.onward id, other ∉ trail.map Prod.fst ++ joint :: pending := by
    intro other member occurs
    obtain ⟨block, _, ⟨rfl, _⟩ | rfl⟩ := mem_onward.mp member
    · exact new (accounted.bodies id occurs)
    · exact new (accounted.nexts id occurs)
  have moved : (program.onward id ++ (trail.map Prod.fst ++ joint :: pending)).Perm
      ((trail ++ [(joint, id)]).map Prod.fst ++ (program.onward id ++ pending)) := by
    have shifted := List.perm_append_comm_assoc (program.onward id)
      (trail.map Prod.fst ++ [joint]) pending
    simpa using shifted
  refine ⟨?_, ?_, ?_⟩
  · rw [← moved.nodup_iff, List.nodup_append]
    refine ⟨onward_nodup id, accounted.distinct, ?_⟩
    rintro other member _ occurs rfl
    exact absent other member occurs
  · intro source occurs
    rw [← moved.mem_iff, List.mem_append] at occurs
    rw [List.map_append, List.mem_append]
    rcases occurs with fresh | earlier
    · obtain ⟨block, _, ⟨same, _⟩ | same⟩ := mem_onward.mp fresh
      · exact .inr (by simpa using Joint.body.inj same)
      · cases same
    · exact .inl (accounted.bodies source earlier)
  · intro source occurs
    rw [← moved.mem_iff, List.mem_append] at occurs
    rw [List.map_append, List.mem_append]
    rcases occurs with fresh | earlier
    · obtain ⟨block, _, ⟨same, _⟩ | same⟩ := mem_onward.mp fresh
      · cases same
      · exact .inr (by simpa using Joint.next.inj same)
    · exact .inl (accounted.nexts source earlier)

/-- The account is kept along any trail that repeats no id. -/
theorem Accounted.follows {pending left : List Joint} {before trail : List (Joint × Int)}
    (follows : program.Follows pending trail left) (accounted : Accounted before pending)
    (distinct : ((before ++ trail).map Prod.snd).Nodup) : Accounted (before ++ trail) left := by
  induction follows generalizing before with
  | here pending => simpa using accounted
  | nowhere joint pending left trail _ _ inductionHypothesis =>
    have kept : (before.map Prod.fst ++ pending).Sublist (before.map Prod.fst ++ joint :: pending) :=
      (List.sublist_cons_self joint pending).append_left _
    refine inductionHypothesis ⟨?_, ?_, ?_⟩ distinct
    · exact accounted.distinct.sublist kept
    · exact fun id occurs => accounted.bodies id (kept.mem occurs)
    · exact fun id occurs => accounted.nexts id (kept.mem occurs)
  | onto joint id pending left trail link _ inductionHypothesis =>
    have split : before ++ (joint, id) :: trail = before ++ [(joint, id)] ++ trail := by simp
    have new : id ∉ before.map Prod.snd := by
      intro earlier
      rw [List.map_append, List.nodup_append] at distinct
      exact distinct.2.2 id earlier id (by simp) rfl
    rw [split] at distinct ⊢
    exact inductionHypothesis (accounted.step new) distinct

/-- The roots are accounted for before any link is followed. -/
theorem accounted_roots : Accounted [] program.roots where
  distinct := by
    rw [List.map_nil, List.nil_append, roots]
    exact List.Pairwise.map _ (fun _ _ different same => different (Joint.root.inj same))
      List.nodup_range
  bodies := by simp [roots]
  nexts := by simp [roots]

/-- Every link of a linked program leads nowhere or to an id. -/
theorem Linked.linkAt (linked : program.Linked) (joint : Joint) :
    program.linkAt joint = .null ∨ ∃ id, program.linkAt joint = .int id := by
  have cases : ∀ link : Datum, link.IsLink → link = .null ∨ ∃ id, link = .int id := by
    intro link proper
    cases link with
    | null => exact .inl rfl
    | int id => exact .inr ⟨id, rfl⟩
    | _ => exact proper.elim
  cases joint with
  | root position =>
    cases found : program.scripts[position]? with
    | none => exact .inl (by simp [Program.linkAt, found])
    | some root =>
      simpa [Program.linkAt, found] using cases root (linked.scripts root (List.mem_of_getElem? found))
  | body id =>
    cases found : program.block? (.int id) with
    | none => exact .inl (by simp [Program.linkAt, found])
    | some block =>
      simpa [Program.linkAt, found] using cases _ (linked.bodies block (mem_of_block? found))
  | next id =>
    cases found : program.block? (.int id) with
    | none => exact .inl (by simp [Program.linkAt, found])
    | some block =>
      simpa [Program.linkAt, found] using cases _ (linked.nexts block (mem_of_block? found))

/-- A link leads to the same block in a relinked program, apart from the links of
that block. -/
theorem Relinked.block? {other : Program} (relinked : program.Relinked other) (link : Datum) :
    (other.block? link).map Block.unlinked = (program.block? link).map Block.unlinked := by
  unfold Program.block?
  cases index? link with
  | none => rfl
  | some index =>
    have same := congrArg (fun blocks => blocks[index]?) relinked.blocks
    simpa only [List.getElem?_map, Option.bind_some] using same

/-- A step along an id comes to the same in a relinked program, whatever was
reached before: the same error, or blocks that agree apart from their links. -/
theorem Relinked.step {other : Program} (relinked : program.Relinked other) (visited : Visited)
    (id : Int) :
    (∃ error after, program.step visited (.int id) = .stopped error after ∧
        other.step visited (.int id) = .stopped error after) ∨
      ∃ block copy after, program.block? (.int id) = some block ∧
        other.block? (.int id) = some copy ∧ copy.unlinked = block.unlinked ∧
        program.step visited (.int id) = .arrived block after ∧
        other.step visited (.int id) = .arrived copy after := by
  have same := relinked.block? (.int id)
  simp only [Program.step, Datum.mark?, Datum.quantity?]
  by_cases held : visited.Holds (.quantity (.integer id))
  · simp only [if_pos held]
    exact .inl ⟨_, _, rfl, rfl⟩
  · simp only [if_neg held]
    cases found : program.block? (.int id) with
    | none =>
      rw [found, Option.map_none, Option.map_eq_none_iff] at same
      rw [same]
      exact .inl ⟨_, _, rfl, rfl⟩
    | some block =>
      rw [found, Option.map_some, Option.map_eq_some_iff] at same
      obtain ⟨copy, copied, alike⟩ := same
      rw [copied]
      exact .inr ⟨block, copy, _, rfl, rfl, alike, rfl, rfl⟩

/-- There are no more distinct ids in range than blocks. -/
theorem Clear.length_le {ids : List Int} (clear : program.Clear ids) :
    ids.length ≤ program.blocks.length := by
  have listed : ids ⊆ (List.range program.blocks.length).map Int.ofNat := by
    intro id member
    obtain ⟨nonnegative, bounded⟩ := clear.inside id member
    refine List.mem_map.mpr ⟨id.toNat, List.mem_range.mpr ?_, Int.toNat_of_nonneg nonnegative⟩
    omega
  simpa using clear.distinct.length_le_of_subset listed

/-- A fresh id in range keeps ids clear. -/
theorem Clear.concat {ids : List Int} {id : Int} (clear : program.Clear ids) (new : id ∉ ids)
    (inside : program.InRange id) : program.Clear (ids ++ [id]) where
  distinct := by
    rw [List.nodup_append]
    refine ⟨clear.distinct, by simp, ?_⟩
    rintro earlier member _ last rfl
    exact new (List.mem_singleton.mp last ▸ member)
  inside := by
    intro other member
    rcases List.mem_append.mp member with earlier | last
    · exact clear.inside other earlier
    · exact List.mem_singleton.mp last ▸ inside

/-- Links can be followed until none is pending, or else until one offends: it
leads to an id for the second time, or to an id of no block.

Each id that is followed without an offence is one more of the blocks, so their
number bounds the trail. Between two ids the pending joints that lead nowhere
run out. -/
theorem Linked.follows (linked : program.Linked) (pending : List Joint) (seen : List Int)
    (clear : program.Clear seen) :
    ∃ trail left, program.Follows pending trail left ∧
      program.Clear (seen ++ trail.map Prod.snd) ∧
      (left = [] ∨ ∃ joint rest id, left = joint :: rest ∧ program.linkAt joint = .int id ∧
        (id ∈ seen ++ trail.map Prod.snd ∨ ¬ program.InRange id)) := by
  induction room : program.blocks.length - seen.length using Nat.strongRecOn
    generalizing seen pending with
  | ind room inductionHypothesis =>
    induction pending with
    | nil => exact ⟨[], [], .here [], by simpa using clear, .inl rfl⟩
    | cons joint rest pendingHypothesis =>
      rcases linked.linkAt joint with nowhere | ⟨id, leads⟩
      · obtain ⟨trail, left, follows, outcome⟩ := pendingHypothesis
        exact ⟨trail, left, .nowhere joint rest left trail nowhere follows, outcome⟩
      · by_cases offends : id ∈ seen ∨ ¬ program.InRange id
        · refine ⟨[], joint :: rest, .here _, by simpa using clear, .inr ?_⟩
          exact ⟨joint, rest, id, rfl, leads, by simpa using offends⟩
        · obtain ⟨new, inside⟩ := not_or.mp offends
          have longer := clear.concat new (Classical.not_not.mp inside)
          have bounded := longer.length_le
          simp only [List.length_append, List.length_singleton] at bounded
          obtain ⟨trail, left, follows, kept, outcome⟩ :=
            inductionHypothesis (program.blocks.length - (seen ++ [id]).length)
              (by simp only [List.length_append, List.length_singleton]; omega)
              (program.onward id ++ rest) (seen ++ [id]) longer rfl
          refine ⟨(joint, id) :: trail, left, .onto joint id rest left trail leads follows, ?_⟩
          simp only [List.map_cons, List.append_assoc, List.singleton_append] at kept outcome ⊢
          exact ⟨kept, outcome⟩

/-- A trail without an offence that was followed to its end shows that ids are
linked once: all traversed joints are on it. -/
theorem Follows.linkedOnce {trail : List (Joint × Int)}
    (follows : program.Follows program.roots trail [])
    (clear : program.Clear (trail.map Prod.snd)) : program.LinkedOnce where
  inside := by
    intro joint id traversed link
    exact clear.inside id (List.mem_map.mpr ⟨(joint, id), follows.covers traversed link, rfl⟩)
  once := by
    intro first second id firstTraversed secondTraversed firstLink secondLink
    have same := List.inj_on_of_nodup_map clear.distinct
      (follows.covers firstTraversed firstLink) (follows.covers secondTraversed secondLink) rfl
    exact congrArg Prod.fst same

/-- A link that offends shows that ids are not linked once. If its id was met
before, then through another joint, since no joint is pending twice. -/
theorem FirstOffence.not_linkedOnce {trail : List (Joint × Int)} {joint : Joint} {id : Int}
    (offence : program.FirstOffence trail joint id) : ¬ program.LinkedOnce := by
  intro linkedOnce
  obtain ⟨rest, follows⟩ := offence.followed
  obtain ⟨followed, pending⟩ := follows.traversed fun _ => traversed_of_mem_roots
  have traversed := pending joint List.mem_cons_self
  rcases offence.offends with again | outside
  · obtain ⟨⟨earlier, _⟩, member, rfl⟩ := List.mem_map.mp again
    obtain ⟨earlierTraversed, earlierLink⟩ := followed _ member
    have same := linkedOnce.once earlier joint _ earlierTraversed traversed earlierLink offence.link
    have accounted := accounted_roots.follows follows offence.clear.distinct
    have distinct := (List.nodup_append.mp accounted.distinct).2.2
    exact distinct earlier (List.mem_map.mpr ⟨_, member, rfl⟩) joint List.mem_cons_self same
  · exact outside (linkedOnce.inside joint id traversed offence.link)

/-- From the roots all links can be followed without an offence, or there is a
first one that offends. -/
theorem Linked.complete_or_offence (linked : program.Linked) :
    (∃ trail, program.Follows program.roots trail [] ∧ program.Clear (trail.map Prod.snd)) ∨
      ∃ trail joint id, program.FirstOffence trail joint id := by
  have nothing : program.Clear [] := ⟨List.nodup_nil, by simp⟩
  obtain ⟨trail, left, follows, clear, outcome⟩ := linked.follows program.roots [] nothing
  rw [List.nil_append] at clear outcome
  rcases outcome with rfl | ⟨joint, rest, id, rfl, link, offends⟩
  · exact .inl ⟨trail, follows, clear⟩
  · exact .inr ⟨trail, joint, id, ⟨rest, follows⟩, clear, link, offends⟩

end Program

end SpriteScript
