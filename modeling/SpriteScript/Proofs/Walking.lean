import SpriteScript.Proofs.Generation

/-!
# Walks along next links

A walk follows the `next` links from a link until it meets an obstacle. There are three: the
chain ends, an id comes that is remembered, or an id comes that names no block. What is
remembered decides between the last two, and the walk itself adds to it, block by block. So
no block is passed twice, and there are no more steps than blocks. The last two are reported
by the id, if it is short enough to be written. Otherwise the report fails, though the id is
remembered all the same.

The chain and its obstacles are described here without walking. A walk comes to exactly what
they say. Walks that share what is remembered are one long walk with gaps: none passes a
block of another, and an id of no block is unknown only once.
-/

namespace SpriteScript

open JavaScript (Remembers step_again step_outside step_inside)

/-- The ids among what is remembered. -/
def Visited.ids (visited : Visited) : List Int :=
  visited.filterMap fun mark =>
    match mark with
    | .quantity (.integer id) => some id
    | _ => none

/-- The ids among what is remembered are remembered, and no others are. Marks of other
kinds do not matter to ids. -/
theorem Visited.remembers_ids (visited : Visited) : Remembers visited visited.ids := by
  intro id
  rw [ids, List.mem_filterMap]
  constructor
  · intro member
    exact ⟨_, member, rfl⟩
  · rintro ⟨mark, member, same⟩
    split at same
    · cases same
      exact member
    · cases same

namespace Program

/-- The blocks along `next` links from one link up to another, each with its id. -/
inductive Chained (program : Program) : Datum → List (Int × Block) → Datum → Prop where
  | here (link : Datum) : Chained program link [] link
  | onto (id : Int) (block : Block) (trail : List (Int × Block)) (stop : Datum)
      (found : program.block? (.int id) = some block)
      (rest : Chained program block.next trail stop) :
      Chained program (.int id) ((id, block) :: trail) stop

/-- The chain from a link leads up to another without an obstacle on the way: no id comes
twice, and none that is known. -/
structure Passes (program : Program) (known : List Int) (link : Datum)
    (trail : List (Int × Block)) (stop : Datum) : Prop where
  chain : program.Chained link trail stop
  distinct : (trail.map Prod.fst).Nodup
  fresh : ∀ id ∈ trail.map Prod.fst, id ∉ known

/-- The obstacles, each with the error that it is reported by and the ids that are remembered
for it: the end of the chain, an id that is known, and an id of no block. Only the last is
remembered. Both errors show the id, so an id that is too long leaves another one. -/
inductive Obstacle (program : Program) (known : List Int) :
    Datum → Option Error → List Int → Prop where
  | nowhere : Obstacle program known .null none []
  | again (id : Int) (member : id ∈ known) :
      Obstacle program known (.int id) (some (.showing (.int id) (.cyclicChain (.int id)))) []
  | absent (id : Int) (new : id ∉ known) (outside : ¬ program.InRange id) :
      Obstacle program known (.int id) (some (.showing (.int id) (.unknownBlock (.int id)))) [id]

/-- Walks from links one after the other, each with what those before it remember: the blocks
that they yield, with their ids, and what is remembered in the end. -/
inductive Series (program : Program) :
    Visited → List Datum → List (Int × Block) → Visited → Prop where
  | done (visited : Visited) : Series program visited [] [] visited
  | walk (visited after : Visited) (link stop : Datum) (links : List Datum)
      (trail later : List (Int × Block)) (chain : program.Chained link trail stop)
      (yields : (program.walk link visited).blocks = trail.map Prod.snd)
      (rest : Series program (program.walk link visited).visited links later after) :
      Series program visited (link :: links) (trail ++ later) after

variable {program : Program}

/-- A walk does what its first step comes to, and goes on behind a block. -/
theorem walk_eq (link : Datum) (visited : Visited) :
    program.walk link visited =
      match program.step visited link with
      | .finished => ⟨[], visited, none⟩
      | .stopped error after => ⟨[], after, some error⟩
      | .arrived block after =>
        { program.walk block.next after with
          blocks := block :: (program.walk block.next after).blocks } := by
  rw [walk]
  split
  · rename_i finished
    rw [finished]
  · rename_i stopped
    rw [stopped]
  · rename_i arrived
    rw [arrived]

/-- An obstacle ends a walk before its first block. -/
theorem Obstacle.walk {known added : List Int} {stop : Datum} {failure : Option Error}
    {visited : Visited} (obstacle : program.Obstacle known stop failure added)
    (remembers : Remembers visited known) :
    ∃ after, program.walk stop visited = ⟨[], after, failure⟩ ∧
      Remembers after (known ++ added) := by
  cases obstacle with
  | nowhere =>
    refine ⟨visited, walk_eq .null visited, ?_⟩
    rwa [List.append_nil]
  | again id member =>
    refine ⟨visited, ?_, ?_⟩
    · rw [walk_eq, step_again remembers member]
    · rwa [List.append_nil]
  | absent id new outside =>
    have missing : program.block? (.int id) = none := by
      by_contra found
      exact outside ((inRange_iff id).mpr (Option.ne_none_iff_exists'.mp found))
    refine ⟨.quantity (.integer id) :: visited, ?_, remembers.cons id⟩
    rw [walk_eq, step_outside remembers new missing]

/-- A trail is its first block and then the trail behind that block, where one more id is
known. -/
theorem passes_onto {known : List Int} {id : Int} {block : Block} {trail : List (Int × Block)}
    {stop : Datum} (found : program.block? (.int id) = some block) :
    program.Passes known (.int id) ((id, block) :: trail) stop ↔
      id ∉ known ∧ program.Passes (known ++ [id]) block.next trail stop := by
  constructor
  · rintro ⟨chain, distinct, fresh⟩
    cases chain with
    | onto _ _ _ _ _ rest =>
      rw [List.map_cons, List.nodup_cons] at distinct
      rw [List.map_cons, List.forall_mem_cons] at fresh
      refine ⟨fresh.1, rest, distinct.2, ?_⟩
      intro other member earlier
      rcases List.mem_append.mp earlier with before | here
      · exact fresh.2 other member before
      · exact distinct.1 (List.mem_singleton.mp here ▸ member)
  · rintro ⟨new, rest, distinct, fresh⟩
    refine ⟨.onto id block trail stop found rest, ?_, ?_⟩
    · rw [List.map_cons, List.nodup_cons]
      exact ⟨fun member => fresh id member (by simp), distinct⟩
    · rw [List.map_cons, List.forall_mem_cons]
      exact ⟨new, fun other member before => fresh other member (List.mem_append_left _ before)⟩

/-- A walk passes the blocks in front of an obstacle and ends there. -/
theorem Passes.walk {known added : List Int} {link stop : Datum} {trail : List (Int × Block)}
    {failure : Option Error} {visited : Visited} (passes : program.Passes known link trail stop)
    (obstacle : program.Obstacle (known ++ trail.map Prod.fst) stop failure added)
    (remembers : Remembers visited known) :
    ∃ after, program.walk link visited = ⟨trail.map Prod.snd, after, failure⟩ ∧
      Remembers after (known ++ trail.map Prod.fst ++ added) := by
  have chain := passes.chain
  induction chain generalizing known visited with
  | here link =>
    simp only [List.map_nil, List.append_nil] at obstacle ⊢
    exact obstacle.walk remembers
  | onto id block trail stop found _ inductionHypothesis =>
    obtain ⟨new, onward⟩ := (passes_onto found).mp passes
    have regroup : known ++ ((id, block) :: trail).map Prod.fst =
        known ++ [id] ++ trail.map Prod.fst := by simp
    rw [regroup] at obstacle ⊢
    -- The rest is walked with one more id remembered, which the trail counts as passed.
    obtain ⟨after, walked, kept⟩ := inductionHypothesis onward obstacle (remembers.cons id)
    refine ⟨after, ?_, kept⟩
    rw [walk_eq, step_inside remembers new found]
    simp only [walked, List.map_cons]

/-- Every chain leads to an obstacle. Each block that is passed leaves fewer places of the
arena unvisited. -/
theorem exists_obstacle (nexts : ∀ block ∈ program.blocks, block.next.IsLink) {link : Datum}
    (proper : link.IsLink) {visited : Visited} {known : List Int}
    (remembers : Remembers visited known) :
    ∃ trail stop failure added, program.Passes known link trail stop ∧
      program.Obstacle (known ++ trail.map Prod.fst) stop failure added := by
  induction room : program.unvisited visited using Nat.strongRecOn
    generalizing link visited known with
  | ind room inductionHypothesis =>
    have atOnce : ∀ {failure added}, program.Obstacle known link failure added →
        ∃ trail stop failure added, program.Passes known link trail stop ∧
          program.Obstacle (known ++ trail.map Prod.fst) stop failure added := by
      intro failure added obstacle
      refine ⟨[], link, failure, added, ⟨.here link, List.nodup_nil, List.forall_mem_nil _⟩, ?_⟩
      rwa [List.map_nil, List.append_nil]
    cases link with
    | null => exact atOnce .nowhere
    | int id =>
      by_cases again : id ∈ known
      · exact atOnce (.again id again)
      · cases found : program.block? (.int id) with
        | none =>
          refine atOnce (.absent id again ?_)
          intro inside
          obtain ⟨block, listed⟩ := (inRange_iff id).mp inside
          rw [found] at listed
          cases listed
        | some block =>
          have arrived := step_inside remembers again found
          have fewer := unvisited_lt_of_arrived arrived
          obtain ⟨trail, stop, failure, added, passes, obstacle⟩ :=
            inductionHypothesis _ (room ▸ fewer) (nexts block (mem_of_block? found))
              (remembers.cons id) rfl
          refine ⟨(id, block) :: trail, stop, failure, added,
            (passes_onto found).mpr ⟨again, passes⟩, ?_⟩
          simpa using obstacle
    | _ => exact proper.elim

/-- Blocks that a chain passes are in range. -/
theorem Chained.inRange {link stop : Datum} {trail : List (Int × Block)}
    (chain : program.Chained link trail stop) :
    ∀ id ∈ trail.map Prod.fst, program.InRange id := by
  induction chain with
  | here link => exact List.forall_mem_nil _
  | onto id block trail stop found _ inductionHypothesis =>
    rw [List.map_cons, List.forall_mem_cons]
    exact ⟨(inRange_iff id).mpr ⟨block, found⟩, inductionHypothesis⟩

/-- A chain is determined by where it starts and how far it goes. -/
theorem Chained.unique {link stop other : Datum} {trail otherTrail : List (Int × Block)}
    (chain : program.Chained link trail stop) (otherChain : program.Chained link otherTrail other)
    (length : trail.length = otherTrail.length) : trail = otherTrail := by
  induction chain generalizing otherTrail with
  | here link => exact (List.length_eq_zero_iff.mp length.symm).symm
  | onto id block trail stop found _ inductionHypothesis =>
    cases otherChain with
    | here => cases length
    | onto _ otherBlock otherRest _ otherFound otherChain =>
      obtain rfl : block = otherBlock := Option.some.inj (found.symm.trans otherFound)
      rw [inductionHypothesis otherChain (Nat.succ.inj length)]

/-- What a walk comes to: it passes the blocks in front of the first obstacle. -/
theorem walk_passes (nexts : ∀ block ∈ program.blocks, block.next.IsLink) {link : Datum}
    (proper : link.IsLink) {visited : Visited} {known : List Int}
    (remembers : Remembers visited known) :
    ∃ trail stop added, program.Passes known link trail stop ∧
      (program.walk link visited).blocks = trail.map Prod.snd ∧
      program.Obstacle (known ++ trail.map Prod.fst) stop (program.walk link visited).failure
        added ∧
      Remembers (program.walk link visited).visited (known ++ trail.map Prod.fst ++ added) := by
  obtain ⟨trail, stop, failure, added, passes, obstacle⟩ := exists_obstacle nexts proper remembers
  obtain ⟨after, walked, kept⟩ := passes.walk obstacle remembers
  rw [walked]
  exact ⟨trail, stop, added, passes, rfl, obstacle, kept⟩

/-- The blocks that a walk yields are passed without an obstacle, and they are known after it,
like all ids that were known before. -/
theorem walk_yields (nexts : ∀ block ∈ program.blocks, block.next.IsLink) {link stop : Datum}
    (proper : link.IsLink) {visited : Visited} {known : List Int}
    (remembers : Remembers visited known) {trail : List (Int × Block)}
    (chain : program.Chained link trail stop)
    (yields : (program.walk link visited).blocks = trail.map Prod.snd) :
    program.Passes known link trail stop ∧
      ∃ added, Remembers (program.walk link visited).visited
        (known ++ trail.map Prod.fst ++ added) := by
  obtain ⟨other, _, added, passes, blocks, _, kept⟩ := walk_passes nexts proper remembers
  -- Blocks do not hold their ids, so the trails are compared by their lengths.
  have length : trail.length = other.length := by
    rw [← List.length_map Prod.snd, ← yields, blocks, List.length_map]
  obtain rfl := chain.unique passes.chain length
  exact ⟨⟨chain, passes.distinct, passes.fresh⟩, added, kept⟩

/-- Every series of walks can be made. -/
theorem exists_series (nexts : ∀ block ∈ program.blocks, block.next.IsLink) {links : List Datum}
    (proper : ∀ link ∈ links, link.IsLink) {visited : Visited} {known : List Int}
    (remembers : Remembers visited known) :
    ∃ trail after, program.Series visited links trail after := by
  induction links generalizing visited known with
  | nil => exact ⟨[], visited, .done visited⟩
  | cons link links inductionHypothesis =>
    obtain ⟨here, others⟩ := List.forall_mem_cons.mp proper
    obtain ⟨trail, stop, _, passes, blocks, _, kept⟩ := walk_passes nexts here remembers
    obtain ⟨later, after, series⟩ := inductionHypothesis others kept
    exact ⟨trail ++ later, after,
      .walk visited after link stop links trail later passes.chain blocks series⟩

/-- A series of walks yields no id twice and none that was known, and afterwards all of them
are known. -/
theorem Series.passes (nexts : ∀ block ∈ program.blocks, block.next.IsLink)
    {visited after : Visited} {links : List Datum} {trail : List (Int × Block)}
    (series : program.Series visited links trail after) (proper : ∀ link ∈ links, link.IsLink)
    {known : List Int} (remembers : Remembers visited known) :
    (trail.map Prod.fst).Nodup ∧ (∀ id ∈ trail.map Prod.fst, id ∉ known) ∧
      ∃ added, Remembers after (known ++ added) := by
  induction series generalizing known with
  | done visited => exact ⟨List.nodup_nil, List.forall_mem_nil _, [], by rwa [List.append_nil]⟩
  | walk visited after link stop links trail later chain yields _ inductionHypothesis =>
    obtain ⟨here, others⟩ := List.forall_mem_cons.mp proper
    obtain ⟨passes, added, kept⟩ := walk_yields nexts here remembers chain yields
    obtain ⟨distinct, fresh, more, final⟩ := inductionHypothesis others kept
    refine ⟨?_, ?_, trail.map Prod.fst ++ added ++ more, ?_⟩
    · rw [List.map_append, List.nodup_append']
      refine ⟨passes.distinct, distinct, ?_⟩
      intro id first second
      exact fresh id second (List.mem_append_left _ (List.mem_append_right _ first))
    · rw [List.map_append, List.forall_mem_append]
      refine ⟨passes.fresh, fun id member before => fresh id member ?_⟩
      exact List.mem_append_left _ (List.mem_append_left _ before)
    · simpa only [List.append_assoc] using final

/-- An id that is new to a walk and names no block is new behind the blocks that were passed,
since these are in range. -/
theorem Passes.not_known_of_outside {known : List Int} {link stop : Datum}
    {trail : List (Int × Block)} {id : Int} (passes : program.Passes known link trail stop)
    (new : id ∉ known) (outside : ¬ program.InRange id) : id ∉ known ++ trail.map Prod.fst := by
  intro member
  rcases List.mem_append.mp member with earlier | passed
  · exact new earlier
  · exact outside (passes.chain.inRange id passed)

/-- The error of a walk is that of the obstacle that its chain leads to. -/
theorem Passes.failure {visited : Visited} {link stop : Datum} {trail : List (Int × Block)}
    {failure : Option Error} {added : List Int}
    (passes : program.Passes visited.ids link trail stop)
    (obstacle : program.Obstacle (visited.ids ++ trail.map Prod.fst) stop failure added) :
    (program.walk link visited).failure = failure := by
  obtain ⟨after, walked, _⟩ := passes.walk obstacle visited.remembers_ids
  rw [walked]

/-- A walk that ends without an error has come to the end of its chain. -/
theorem Obstacle.eq_null {known added : List Int} {stop : Datum}
    (obstacle : program.Obstacle known stop none added) : stop = .null := by
  generalize reported : none = failure at obstacle
  cases obstacle with
  | nowhere => rfl
  | again id member => cases reported
  | absent id new outside => cases reported

/-- A repetition is reported of a known id only. -/
theorem Obstacle.mem_of_cyclic {known added : List Int} {stop : Datum} {id : Int}
    {writable : (Datum.int id).isWritable = true}
    (obstacle : program.Obstacle known stop (some (.cyclicChain (.int id) writable)) added) :
    stop = .int id ∧ id ∈ known := by
  generalize reported : some (Error.cyclicChain (.int id) writable) = failure at obstacle
  cases obstacle with
  | nowhere => cases reported
  | again other member =>
    obtain ⟨_, ⟨⟩⟩ | ⟨_, ⟨⟩⟩ := Error.showing_eq_iff.mp (Option.some.inj reported).symm
    exact ⟨rfl, member⟩
  | absent other new outside =>
    obtain ⟨_, ⟨⟩⟩ | ⟨_, ⟨⟩⟩ := Error.showing_eq_iff.mp (Option.some.inj reported).symm

/-- An unknown block is reported of a new id that names none, and the id is remembered. -/
theorem Obstacle.not_mem_of_unknown {known added : List Int} {stop : Datum} {id : Int}
    {writable : (Datum.int id).isWritable = true}
    (obstacle : program.Obstacle known stop (some (.unknownBlock (.int id) writable)) added) :
    stop = .int id ∧ added = [id] ∧ id ∉ known ∧ ¬ program.InRange id := by
  generalize reported : some (Error.unknownBlock (.int id) writable) = failure at obstacle
  cases obstacle with
  | nowhere => cases reported
  | again other member =>
    obtain ⟨_, ⟨⟩⟩ | ⟨_, ⟨⟩⟩ := Error.showing_eq_iff.mp (Option.some.inj reported).symm
  | absent other new outside =>
    obtain ⟨_, ⟨⟩⟩ | ⟨_, ⟨⟩⟩ := Error.showing_eq_iff.mp (Option.some.inj reported).symm
    exact ⟨rfl, rfl, new, outside⟩

/-- Any other error is left by an id that is too long to be written. -/
theorem Obstacle.long_of_badValue {known added : List Int} {stop : Datum}
    (obstacle : program.Obstacle known stop (some .badValue) added) :
    ∃ id, stop = .int id ∧ Decimal.isShort id = false ∧ (id ∈ known ∨ ¬ program.InRange id) := by
  generalize reported : some Error.badValue = failure at obstacle
  cases obstacle with
  | nowhere => cases reported
  | again id member =>
    obtain ⟨_, ⟨⟩⟩ | ⟨long, _⟩ := Error.showing_eq_iff.mp (Option.some.inj reported).symm
    exact ⟨id, rfl, long, .inl member⟩
  | absent id new outside =>
    obtain ⟨_, ⟨⟩⟩ | ⟨long, _⟩ := Error.showing_eq_iff.mp (Option.some.inj reported).symm
    exact ⟨id, rfl, long, .inr outside⟩

section Outcomes

variable (nexts : ∀ block ∈ program.blocks, block.next.IsLink) {link : Datum}
  (proper : link.IsLink) (visited : Visited)

include nexts proper

/-- A walk ends without an error exactly if its chain leads nowhere. -/
theorem walk_failure_none_iff :
    (program.walk link visited).failure = none ↔
      ∃ trail, program.Passes visited.ids link trail .null := by
  constructor
  · intro sound
    obtain ⟨trail, stop, added, passes, _, obstacle, _⟩ :=
      walk_passes nexts proper visited.remembers_ids
    rw [sound] at obstacle
    exact ⟨trail, obstacle.eq_null ▸ passes⟩
  · rintro ⟨trail, passes⟩
    exact passes.failure .nowhere

/-- A walk reports a repetition exactly if it comes to an id that was remembered before it or
that it has passed itself. -/
theorem walk_failure_cyclic_iff (id : Int) (writable : (Datum.int id).isWritable = true) :
    (program.walk link visited).failure = some (.cyclicChain (.int id) writable) ↔
      ∃ trail, program.Passes visited.ids link trail (.int id) ∧
        (id ∈ visited.ids ∨ id ∈ trail.map Prod.fst) := by
  constructor
  · intro failed
    obtain ⟨trail, stop, added, passes, _, obstacle, _⟩ :=
      walk_passes nexts proper visited.remembers_ids
    rw [failed] at obstacle
    obtain ⟨rfl, member⟩ := obstacle.mem_of_cyclic
    exact ⟨trail, passes, List.mem_append.mp member⟩
  · rintro ⟨trail, passes, member⟩
    rw [passes.failure (.again id (List.mem_append.mpr member)),
      Error.showing_of_writable _ writable]

/-- A walk reports an unknown block exactly if it comes to an id that is new and names none. -/
theorem walk_failure_unknown_iff (id : Int) (writable : (Datum.int id).isWritable = true) :
    (program.walk link visited).failure = some (.unknownBlock (.int id) writable) ↔
      ∃ trail, program.Passes visited.ids link trail (.int id) ∧
        id ∉ visited.ids ∧ ¬ program.InRange id := by
  constructor
  · intro failed
    obtain ⟨trail, stop, added, passes, _, obstacle, _⟩ :=
      walk_passes nexts proper visited.remembers_ids
    rw [failed] at obstacle
    obtain ⟨rfl, _, new, outside⟩ := obstacle.not_mem_of_unknown
    exact ⟨trail, passes, fun earlier => new (List.mem_append_left _ earlier), outside⟩
  · rintro ⟨trail, passes, new, outside⟩
    rw [passes.failure (.absent id (passes.not_known_of_outside new outside) outside),
      Error.showing_of_writable _ writable]

/-- A walk fails without a report exactly if the id that it would report is too long to be
written, whichever of the two reports it would be. -/
theorem walk_failure_badValue_iff :
    (program.walk link visited).failure = some .badValue ↔
      ∃ trail id, program.Passes visited.ids link trail (.int id) ∧
        Decimal.isShort id = false ∧
        (id ∈ visited.ids ∨ id ∈ trail.map Prod.fst ∨ ¬ program.InRange id) := by
  constructor
  · intro failed
    obtain ⟨trail, stop, added, passes, _, obstacle, _⟩ :=
      walk_passes nexts proper visited.remembers_ids
    rw [failed] at obstacle
    obtain ⟨id, rfl, long, obstructs⟩ := obstacle.long_of_badValue
    rw [List.mem_append, or_assoc] at obstructs
    exact ⟨trail, id, passes, long, obstructs⟩
  · rintro ⟨trail, id, passes, long, obstructs⟩
    have unwritten : (Datum.int id).isWritable = false := long
    by_cases known : id ∈ visited.ids ++ trail.map Prod.fst
    · rw [passes.failure (.again id known), Error.showing_of_long _ unwritten]
    · rw [← or_assoc, ← List.mem_append] at obstructs
      rw [passes.failure (.absent id known (obstructs.resolve_left known)),
        Error.showing_of_long _ unwritten]

/-- An id that was reported as unknown is remembered. -/
theorem mem_ids_of_unknown {id : Int} {writable : (Datum.int id).isWritable = true}
    (failed : (program.walk link visited).failure = some (.unknownBlock (.int id) writable)) :
    id ∈ (program.walk link visited).visited.ids := by
  obtain ⟨trail, stop, added, _, _, obstacle, kept⟩ :=
    walk_passes nexts proper visited.remembers_ids
  rw [failed] at obstacle
  obtain ⟨_, rfl, _⟩ := obstacle.not_mem_of_unknown
  exact (Visited.remembers_ids _ id).mp ((kept id).mpr (by simp))

end Outcomes

/-- What is remembered stays so during a series of walks. -/
theorem Series.ids_subset (nexts : ∀ block ∈ program.blocks, block.next.IsLink)
    {visited after : Visited} {links : List Datum} {trail : List (Int × Block)}
    (series : program.Series visited links trail after) (proper : ∀ link ∈ links, link.IsLink) :
    ∀ id ∈ visited.ids, id ∈ after.ids := by
  obtain ⟨_, _, added, kept⟩ := series.passes nexts proper visited.remembers_ids
  intro id member
  exact (after.remembers_ids id).mp ((kept id).mpr (List.mem_append_left _ member))

end Program

/-- A walk passes the blocks in front of the first obstacle of its chain, at most as many as
there are, all of them distinct and new. It ends without an error at the end of the chain,
with a repetition at an id that is remembered or passed, and with an unknown block at a new id
of none. Both are reported of short ids only: at an id that is too long to be written the walk
fails in the attempt. Only a new id of no block is remembered besides the blocks that were
passed. Therefore walks that share what is remembered never yield a block twice, and an id that
was reported as unknown is reported as a repetition whenever it comes again. -/
theorem walks_pass_once (program : Program)
    (nexts : ∀ block ∈ program.blocks, block.next.IsLink) :
    (∀ (link : Datum) (visited : Visited), link.IsLink →
        let walk := program.walk link visited
        walk.blocks.length ≤ program.blocks.length ∧
          (∃ trail stop added, program.Passes visited.ids link trail stop ∧
            walk.blocks = trail.map Prod.snd ∧
            program.Obstacle (visited.ids ++ trail.map Prod.fst) stop walk.failure added ∧
            ∀ id, id ∈ walk.visited.ids ↔ id ∈ visited.ids ++ trail.map Prod.fst ++ added) ∧
          (walk.failure = none ↔ ∃ trail, program.Passes visited.ids link trail .null) ∧
          (∀ id writable, walk.failure = some (.cyclicChain (.int id) writable) ↔
            ∃ trail, program.Passes visited.ids link trail (.int id) ∧
              (id ∈ visited.ids ∨ id ∈ trail.map Prod.fst)) ∧
          (∀ id writable, walk.failure = some (.unknownBlock (.int id) writable) ↔
            ∃ trail, program.Passes visited.ids link trail (.int id) ∧
              id ∉ visited.ids ∧ ¬ program.InRange id) ∧
          (walk.failure = some .badValue ↔
            ∃ trail id, program.Passes visited.ids link trail (.int id) ∧
              Decimal.isShort id = false ∧
              (id ∈ visited.ids ∨ id ∈ trail.map Prod.fst ∨ ¬ program.InRange id))) ∧
      (∀ (links : List Datum) (visited : Visited), (∀ link ∈ links, link.IsLink) →
        (∃ trail after, program.Series visited links trail after) ∧
          ∀ trail after, program.Series visited links trail after →
            (trail.map Prod.fst).Nodup ∧ ∀ id ∈ trail.map Prod.fst, id ∉ visited.ids) ∧
      ∀ (first last : Datum) (links : List Datum) (visited later : Visited)
        (trail : List (Int × Block)) (id : Int) (writable : (Datum.int id).isWritable = true),
        first.IsLink → last.IsLink → (∀ link ∈ links, link.IsLink) →
        (program.walk first visited).failure = some (.unknownBlock (.int id) writable) →
        program.Series (program.walk first visited).visited links trail later →
        (program.walk last later).failure ≠ some (.unknownBlock (.int id) writable) ∧
          ((∃ trail, program.Passes later.ids last trail (.int id)) →
            (program.walk last later).failure = some (.cyclicChain (.int id) writable)) := by
  refine ⟨?_, ?_, ?_⟩
  · intro link visited proper walk
    obtain ⟨trail, stop, added, passes, blocks, obstacle, kept⟩ :=
      Program.walk_passes nexts proper visited.remembers_ids
    refine ⟨?_, ⟨trail, stop, added, passes, blocks, obstacle, ?_⟩,
      Program.walk_failure_none_iff nexts proper visited,
      Program.walk_failure_cyclic_iff nexts proper visited,
      Program.walk_failure_unknown_iff nexts proper visited,
      Program.walk_failure_badValue_iff nexts proper visited⟩
    · have clear : program.Clear (trail.map Prod.fst) := ⟨passes.distinct, passes.chain.inRange⟩
      have bounded := clear.length_le
      rw [List.length_map] at bounded
      rwa [blocks, List.length_map]
    · exact fun id => (walk.visited.remembers_ids id).symm.trans (kept id)
  · intro links visited proper
    refine ⟨Program.exists_series nexts proper visited.remembers_ids, ?_⟩
    intro trail after series
    obtain ⟨distinct, fresh, _⟩ := series.passes nexts proper visited.remembers_ids
    exact ⟨distinct, fresh⟩
  · intro first last links visited later trail id writable firstProper lastProper proper failed
      series
    have known := series.ids_subset nexts proper id
      (Program.mem_ids_of_unknown nexts firstProper visited failed)
    constructor
    · intro again
      obtain ⟨_, _, new, _⟩ :=
        (Program.walk_failure_unknown_iff nexts lastProper later id writable).mp again
      exact new known
    · rintro ⟨trail, passes⟩
      rw [passes.failure (.again id (List.mem_append_left _ known)),
        Error.showing_of_writable _ writable]

/-- Two blocks, the second with a link to a block that does not exist, and one that leads into
them. -/
def frayed : Program where
  blocks := [
    { kind := .motion, name := .text "move", args := [.text "n"], next := .int 1 },
    { kind := .looks, name := .text "say", args := [.text "n"], next := .int 7 },
    { kind := .control, name := .text "wait", next := .int 0 }]

/-- The end of `frayed` is an unknown block at first. After a walk that stops at blocks passed
before it is a repetition. -/
theorem walks_pass_once_frayed :
    (∀ block ∈ frayed.blocks, block.next.IsLink) ∧
      ∃ writable, (frayed.walk (.int 0) []).failure = some (.unknownBlock (.int 7) writable) ∧
      ∃ trail later, frayed.Series (frayed.walk (.int 0) []).visited [.int 2] trail later ∧
        (frayed.walk (.int 7) later).failure = some (.cyclicChain (.int 7) writable) := by
  have nexts : ∀ block ∈ frayed.blocks, block.next.IsLink := by
    simp [frayed, Datum.IsLink]
  obtain ⟨single, shared, again⟩ := walks_pass_once frayed nexts
  have chain : frayed.Chained (.int 0) _ (.int 7) :=
    .onto 0 _ _ _ rfl (.onto 1 _ _ _ rfl (.here _))
  have passes : frayed.Passes [] (.int 0) _ (.int 7) := ⟨chain, by decide, by decide⟩
  have writable : (Datum.int 7).isWritable = true := by decide
  have failed : (frayed.walk (.int 0) []).failure = some (.unknownBlock (.int 7) writable) :=
    ((single (.int 0) [] trivial).2.2.2.2.1 7 writable).mpr
      ⟨_, passes, List.not_mem_nil, by simp [Program.InRange, frayed]⟩
  have proper : ∀ link ∈ [Datum.int 2], link.IsLink := List.forall_mem_singleton.mpr trivial
  obtain ⟨trail, later, series⟩ := (shared [.int 2] (frayed.walk (.int 0) []).visited proper).1
  have repeated := (again (.int 0) (.int 7) [.int 2] [] later trail 7 writable trivial trivial
    proper failed series).2 ⟨[], .here _, List.nodup_nil, List.forall_mem_nil _⟩
  exact ⟨nexts, writable, failed, trail, later, series, repeated⟩

/-- The first id that is too long names no block of an empty program. The walk to it reports no
unknown block, and the next one to it no repetition, though the id is remembered. -/
theorem walk_of_long_id :
    let id : Int := Decimal.tenTo Decimal.maxIntegerDigits
    let first := ({} : Program).walk (.int id) []
    let second := ({} : Program).walk (.int id) first.visited
    ¬ ({} : Program).InRange id ∧ first.failure = some .badValue ∧ id ∈ first.visited.ids ∧
      second.failure = some .badValue := by
  intro id first second
  have long : Decimal.isShort id = false := Decimal.isShort_tenTo
  -- Nothing else about the id is used. Its digits would be too many to compute with.
  clear_value id
  have outside : ¬ ({} : Program).InRange id :=
    fun ⟨atLeast, below⟩ => Int.not_lt.mpr atLeast below
  have nexts : ∀ block ∈ ({} : Program).blocks, block.next.IsLink := List.forall_mem_nil _
  have passes : ∀ known, ({} : Program).Passes known (.int id) [] (.int id) :=
    fun known => ⟨.here _, List.nodup_nil, List.forall_mem_nil _⟩
  have proper : (Datum.int id).IsLink := trivial
  have fails : ∀ visited, (({} : Program).walk (.int id) visited).failure = some .badValue :=
    fun visited => (Program.walk_failure_badValue_iff nexts proper visited).mpr
      ⟨[], id, passes visited.ids, long, .inr (.inr outside)⟩
  refine ⟨outside, fails [], ?_, fails first.visited⟩
  have obstacle : ({} : Program).Obstacle [] (.int id) _ [id] :=
    .absent id List.not_mem_nil outside
  obtain ⟨after, walked, kept⟩ := obstacle.walk JavaScript.remembers_nothing
  have same : first.visited = after := congrArg Program.Walk.visited walked
  rw [same]
  exact (Visited.remembers_ids after id).mp ((kept id).mpr List.mem_cons_self)

end SpriteScript
