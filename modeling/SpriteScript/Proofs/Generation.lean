import SpriteScript.Proofs.Writability

/-!
# Generation succeeds exactly when ids are linked once

Writing a program works off an agenda of lines and links. For a program with
finite contents the lines never fail, and the links of the agenda are those at
the pending joints, in order. So writing follows a trail: it ends without an
error if the trail is followed to its end without an offence, and otherwise it
stops at the first link that offends, with the error of that link. The error is a
diagnosis only if the id can be shown in it: of an id with too many digits nothing
is left but that it could not be written.

Links that are not traversed have no influence on what is written.
-/

namespace SpriteScript.JavaScript

open SpriteScript

/-- The agenda consists of lines that were formed and of the links at the pending
joints, in order. -/
inductive Schedules (program : Program) : List Task → List Joint → Prop where
  | done : Schedules program [] []
  | line (text : Text) (agenda : List Task) (pending : List Joint)
      (rest : Schedules program agenda pending) :
      Schedules program (.write (.ok text) :: agenda) pending
  | link (scope : Scope) (joint : Joint) (agenda : List Task) (pending : List Joint)
      (rest : Schedules program agenda pending) :
      Schedules program (.follow scope (program.linkAt joint) :: agenda) (joint :: pending)

/-- The ids that were reached are remembered, and no others. -/
def Remembers (visited : Visited) (ids : List Int) : Prop :=
  ∀ id, Mark.quantity (.integer id) ∈ visited ↔ id ∈ ids

variable {program : Program}

/-- Agendas one after the other hold the links of both, those of the first before those of
the second. -/
theorem Schedules.append {first second : List Task} {before after : List Joint}
    (left : Schedules program first before) (right : Schedules program second after) :
    Schedules program (first ++ second) (before ++ after) := by
  induction left with
  | done => exact right
  | line text agenda pending _ inductionHypothesis => exact .line text _ _ inductionHypothesis
  | link scope joint agenda pending _ inductionHypothesis =>
    exact .link scope joint _ _ inductionHypothesis

/-- Lines alone hold no links. -/
theorem schedules_lines (program : Program) {tasks : List Task}
    (formed : ∀ task ∈ tasks, ∃ line, task = .write (.ok line)) : Schedules program tasks [] := by
  induction tasks with
  | nil => exact .done
  | cons task rest inductionHypothesis =>
    obtain ⟨line, rfl⟩ := formed task List.mem_cons_self
    exact .line line _ _ (inductionHypothesis fun other member =>
      formed other (List.mem_cons_of_mem _ member))

/-- Lines that are given hold no links. -/
theorem schedules_texts (program : Program) (lines : List Text) :
    Schedules program (lines.map fun line => .write (.ok line)) [] := by
  apply schedules_lines
  intro task member
  obtain ⟨line, _, rfl⟩ := List.mem_map.mp member
  exact ⟨line, rfl⟩

/-- Links alone are the links at their joints. -/
theorem schedules_links (program : Program) (joints : List Joint) :
    Schedules program (joints.map fun joint => .follow {} (program.linkAt joint)) joints := by
  induction joints with
  | nil => exact .done
  | cons joint rest inductionHypothesis => exact .link {} joint _ _ inductionHypothesis

/-- The tasks of a block hold the links at the joints onward from its id. -/
theorem schedules_block {id : Int} {block : Block} {fragment : Fragment} (scope : Scope)
    (found : program.block? (.int id) = some block)
    (writes : fragment.Writes block.EntersBody) :
    Schedules program (fragment.tasks block.body ++ [.follow scope block.next])
      (program.onward id) := by
  have bodyLink : program.linkAt (.body id) = block.body := by simp [Program.linkAt, found]
  have nextLink : program.linkAt (.next id) = block.next := by simp [Program.linkAt, found]
  have next : Schedules program [.follow scope block.next] [.next id] :=
    nextLink ▸ .link scope (.next id) [] [] .done
  have body : Schedules program (fragment.body.toList.map fun inner => .follow inner block.body)
      (if block.EntersBody then [.body id] else []) := by
    cases place : fragment.body with
    | none =>
      have leaves : ¬ block.EntersBody := by
        intro enters
        have some := writes.body.mpr enters
        rw [place] at some
        cases some
      simpa [leaves] using Schedules.done
    | some inner =>
      have enters : block.EntersBody := writes.body.mp (by rw [place]; rfl)
      have linked : Schedules program [.follow inner block.body] [.body id] :=
        bodyLink ▸ .link inner (.body id) [] [] .done
      simpa [enters] using linked
  have whole := (((schedules_texts program fragment.opening).append body).append
    (schedules_texts program fragment.closing)).append next
  simpa [Fragment.tasks, Program.onward, found] using whole

/-- An id that was reached before stops the walk as a repetition, as far as it can be
shown. -/
theorem step_again {visited : Visited} {ids : List Int} {id : Int}
    (remembers : Remembers visited ids) (again : id ∈ ids) :
    program.step visited (.int id) =
      .stopped (.showing (.int id) (.cyclicChain (.int id))) visited := by
  have held : visited.Holds (.quantity (.integer id)) := ⟨nofun, (remembers id).mpr again⟩
  simp only [Program.step, Datum.mark?, Datum.quantity?, if_pos held]

/-- A new id of no block stops the walk, and is remembered all the same, even if it
is too long to be shown. -/
theorem step_outside {visited : Visited} {ids : List Int} {id : Int}
    (remembers : Remembers visited ids) (new : id ∉ ids)
    (absent : program.block? (.int id) = none) :
    program.step visited (.int id) =
      .stopped (.showing (.int id) (.unknownBlock (.int id)))
        (.quantity (.integer id) :: visited) := by
  have unheld : ¬ visited.Holds (.quantity (.integer id)) :=
    fun held => new ((remembers id).mp held.2)
  simp only [Program.step, Datum.mark?, Datum.quantity?, if_neg unheld, absent]

/-- A new id of a block arrives there and is remembered. -/
theorem step_inside {visited : Visited} {ids : List Int} {id : Int} {block : Block}
    (remembers : Remembers visited ids) (new : id ∉ ids)
    (found : program.block? (.int id) = some block) :
    program.step visited (.int id) = .arrived block (.quantity (.integer id) :: visited) := by
  have unheld : ¬ visited.Holds (.quantity (.integer id)) :=
    fun held => new ((remembers id).mp held.2)
  simp only [Program.step, Datum.mark?, Datum.quantity?, if_neg unheld, found]

/-- Before any link was followed nothing is remembered. -/
theorem remembers_nothing : Remembers ({} : Emission).visited [] := by
  simp [Remembers]

/-- One more id is remembered when it is reached. Ids are listed in the order of their
arrival, and marks in the opposite one. -/
theorem Remembers.cons {visited : Visited} {ids : List Int} (remembers : Remembers visited ids)
    (id : Int) : Remembers (.quantity (.integer id) :: visited) (ids ++ [id]) := by
  intro other
  simp only [List.mem_cons, Mark.quantity.injEq, Datum.Quantity.integer.injEq, remembers other,
    List.mem_append, List.not_mem_nil, or_false]
  exact Or.comm

/-- The writer of a program that is not under edit. -/
abbrev plainWriter : Writer := fun _ => fragment

/-- The lines before the next link of an agenda are written without reaching
anything, and the link is then the next task. -/
theorem emit_to_link {agenda : List Task} {joint : Joint} {pending : List Joint}
    (scheduled : Schedules program agenda (joint :: pending)) (emission : Emission) :
    ∃ scope later after, Schedules program later pending ∧
      emit plainWriter program agenda emission =
        emit plainWriter program (.follow scope (program.linkAt joint) :: later) after ∧
      after.visited = emission.visited ∧ after.failure = emission.failure := by
  generalize joints : joint :: pending = all at scheduled
  induction scheduled generalizing emission with
  | done => cases joints
  | line text agenda _ _ inductionHypothesis =>
    rw [emit]
    exact inductionHypothesis { emission with lines := emission.lines ++ [text] } joints
  | link scope _ agenda _ rest _ =>
    cases joints
    exact ⟨scope, agenda, emission, rest, rfl, rfl, rfl⟩

/-- An agenda without links is written to its end. -/
theorem emit_lines {agenda : List Task} (scheduled : Schedules program agenda [])
    (emission : Emission) :
    (emit plainWriter program agenda emission).failure = emission.failure := by
  generalize joints : [] = pending at scheduled
  induction scheduled generalizing emission with
  | done => rw [emit]
  | line text agenda _ _ inductionHypothesis =>
    rw [emit]
    exact inductionHypothesis { emission with lines := emission.lines ++ [text] } joints
  | link => cases joints

/-- A link that stops the walk ends the writing with its error. -/
theorem emit_stopped (scope : Scope) {link : Datum} (later : List Task) {emission : Emission}
    {error : Error} {visited : Visited}
    (stopped : program.step emission.visited link = .stopped error visited) :
    emit plainWriter program (.follow scope link :: later) emission =
      { emission with visited, failure := some error } := by
  rw [emit]
  split
  · rename_i finished
    rw [stopped] at finished
    cases finished
  · rename_i again
    rw [stopped] at again
    cases again
    rfl
  · rename_i arrived
    rw [stopped] at arrived
    cases arrived

/-- A link to a block that was not reached before brings the warnings of the block.
Its tasks are put in front of the agenda, or its error ends the writing. -/
theorem emit_reached (scope : Scope) {link : Datum} (later : List Task) {emission : Emission}
    {block : Block} {visited : Visited}
    (arrived : program.step emission.visited link = .arrived block visited) :
    emit plainWriter program (.follow scope link :: later) emission =
      let reached :=
        { emission with
          visited
          warnings := emission.warnings ++ (fragment scope block).warnings }
      match (fragment scope block).failure with
      | some error => { reached with failure := some error }
      | none =>
        emit plainWriter program
          ((fragment scope block).tasks block.body ++ .follow scope block.next :: later) reached := by
  rw [emit]
  split
  · rename_i finished
    rw [arrived] at finished
    cases finished
  · rename_i stopped
    rw [arrived] at stopped
    cases stopped
  · rename_i again
    rw [arrived] at again
    cases again
    rfl

/-- A link to a block that can be written puts the tasks of the block in front of
the agenda. -/
theorem emit_arrived (scope : Scope) {link : Datum} (later : List Task) {emission : Emission}
    {block : Block} {visited : Visited}
    (arrived : program.step emission.visited link = .arrived block visited)
    (whole : (fragment scope block).failure = none) :
    emit plainWriter program (.follow scope link :: later) emission =
      emit plainWriter program
        ((fragment scope block).tasks block.body ++ .follow scope block.next :: later)
        { emission with
          visited
          warnings := emission.warnings ++ (fragment scope block).warnings } := by
  rw [emit_reached scope later arrived, whole]

/-- A link that leads nowhere is passed over. -/
theorem emit_nowhere (scope : Scope) (later : List Task) (emission : Emission) :
    emit plainWriter program (.follow scope .null :: later) emission =
      emit plainWriter program later emission := by
  rw [emit]
  rfl

/-- Writing a program with finite contents follows the trail from the pending
joints as long as no link offends: it gets to the joints that are left, with the
ids of the trail remembered and no error.

The induction is on the trail. Before each link the lines in front of it are
written; a new id in range arrives at its block, whose tasks hold the joints
onward from it. -/
theorem emit_follows (finite : program.Finite) {pending left : List Joint}
    {trail : List (Joint × Int)} (follows : program.Follows pending trail left)
    {agenda : List Task} {emission : Emission} {seen : List Int}
    (scheduled : Schedules program agenda pending)
    (remembers : Remembers emission.visited seen)
    (clear : program.Clear (seen ++ trail.map Prod.snd)) (sound : emission.failure = none) :
    ∃ later after, Schedules program later left ∧
      emit plainWriter program agenda emission = emit plainWriter program later after ∧
      Remembers after.visited (seen ++ trail.map Prod.snd) ∧ after.failure = none := by
  induction follows generalizing agenda emission seen with
  | here pending => exact ⟨agenda, emission, scheduled, rfl, by simpa using remembers, sound⟩
  | nowhere joint pending left trail link _ inductionHypothesis =>
    obtain ⟨scope, rest, before, restScheduled, written, visited, failure⟩ :=
      emit_to_link scheduled emission
    rw [link, emit_nowhere] at written
    rw [written]
    exact inductionHypothesis restScheduled (visited ▸ remembers) clear (failure.trans sound)
  | onto joint id pending left trail link _ inductionHypothesis =>
    obtain ⟨scope, rest, before, restScheduled, written, visited, failure⟩ :=
      emit_to_link scheduled emission
    rw [List.map_cons, List.append_cons] at clear
    have parts := List.nodup_append.mp (List.nodup_append.mp clear.distinct).1
    have new : id ∉ seen := fun earlier => parts.2.2 id earlier id List.mem_cons_self rfl
    obtain ⟨block, found⟩ := (Program.inRange_iff id).mp (clear.inside id (by simp))
    have writes := writes_of_found finite scope found
    have known : Remembers before.visited seen := visited ▸ remembers
    have arrived := step_inside known new found
    rw [link, emit_arrived scope rest arrived writes.whole] at written
    have next := (schedules_block scope found writes).append restScheduled
    rw [List.append_assoc, List.singleton_append] at next
    have reached := @inductionHypothesis _
      { before with
        visited := .quantity (.integer id) :: before.visited
        warnings := before.warnings ++ (fragment scope block).warnings }
      _ next (known.cons id) clear (failure.trans sound)
    rw [← written, ← List.append_cons] at reached
    exact reached

/-- The roots of the scripts are the links at the joints of the roots. -/
theorem scripts_eq_map_roots : program.scripts = program.roots.map program.linkAt := by
  apply List.ext_getElem
  · simp [Program.roots]
  · intro position bounded _
    simp [Program.roots, Program.linkAt, List.getElem?_eq_getElem bounded]

/-- The agenda of a program holds the links at its roots, if its declarations can be
written. Blocks do not matter yet: they come in only when their links are followed. -/
theorem schedules_agenda
    (finiteScalars : ∀ entry ∈ program.variableTable.entries, entry.2.Finite)
    (finiteLists : ∀ entry ∈ program.listTable.entries, ∀ value ∈ entry.2, value.Finite) :
    Schedules program (agenda program) program.roots := by
  have scalars : ∀ task ∈ program.variableTable.entries.map
      (fun entry => Task.write (variableLine entry.1 entry.2)),
      ∃ line, task = .write (.ok line) := by
    intro task member
    obtain ⟨entry, listed, rfl⟩ := List.mem_map.mp member
    obtain ⟨line, written⟩ := variableLine_of_finite entry.1 (finiteScalars entry listed)
    exact ⟨line, congrArg Task.write written⟩
  have lists : ∀ task ∈ program.listTable.entries.map
      (fun entry => Task.write (listLine entry.1 entry.2)),
      ∃ line, task = .write (.ok line) := by
    intro task member
    obtain ⟨entry, listed, rfl⟩ := List.mem_map.mp member
    obtain ⟨line, written⟩ := listLine_of_finite entry.1 (finiteLists entry listed)
    exact ⟨line, congrArg Task.write written⟩
  have links : Schedules program (program.scripts.map fun root => .follow {} root)
      program.roots := by
    rw [scripts_eq_map_roots, List.map_map]
    exact schedules_links program program.roots
  have upToLists := ((schedules_texts program ["// Variables\n"]).append
    (schedules_lines program scalars)).append (schedules_texts program ["\n", "// Lists\n"])
  have upToScripts := (upToLists.append (schedules_lines program lists)).append
    (schedules_texts program ["\n", "// Scripts\n"])
  exact upToScripts.append links

/-- A program with finite contents whose links can be followed to the end without
an offence is written. -/
theorem generate_of_follows (finite : program.Finite) {trail : List (Joint × Int)}
    (follows : program.Follows program.roots trail [])
    (clear : program.Clear (trail.map Prod.snd)) : (generate program).failure = none := by
  obtain ⟨later, after, scheduled, written, _, sound⟩ :=
    emit_follows finite follows (schedules_agenda finite.scalars finite.lists) remembers_nothing clear rfl
  have ended := emit_lines scheduled after
  rw [generate, written, ended, sound]

/-- A program with finite contents is written up to the first link that offends,
and the error is that of the link. -/
theorem generate_of_offence (finite : program.Finite) {trail : List (Joint × Int)} {joint : Joint}
    {id : Int} (offence : program.FirstOffence trail joint id) :
    (generate program).failure =
      some (.showing (.int id)
        (if id ∈ trail.map Prod.snd then .cyclicChain (.int id) else .unknownBlock (.int id))) := by
  obtain ⟨rest, follows⟩ := offence.followed
  obtain ⟨later, after, scheduled, written, remembers, _⟩ :=
    emit_follows finite follows (schedules_agenda finite.scalars finite.lists) remembers_nothing offence.clear rfl
  obtain ⟨scope, last, before, _, reached, visited, _⟩ := emit_to_link scheduled after
  rw [List.nil_append, ← visited] at remembers
  rw [generate, written, reached, offence.link]
  by_cases again : id ∈ trail.map Prod.snd
  · rw [if_pos again]
    rw [emit_stopped scope last (step_again remembers again)]
  · rw [if_neg again]
    have absent : program.block? (.int id) = none := by
      cases found : program.block? (.int id) with
      | none => rfl
      | some block =>
        have inside := (Program.inRange_iff id).mpr ⟨block, found⟩
        exact absurd inside (offence.offends.resolve_left again)
    rw [emit_stopped scope last (step_outside remembers again absent)]

/-- A block and its copy with other links contribute the same tasks, if they agree
on the links that are traversed. -/
theorem tasks_of_unlinked {block copy : Block} {scope : Scope}
    (writes : (fragment scope block).Writes block.EntersBody)
    (same : copy.unlinked = block.unlinked) (bodies : block.EntersBody → copy.body = block.body) :
    fragment scope copy = fragment scope block ∧
      (fragment scope block).tasks copy.body = (fragment scope block).tasks block.body := by
  have alike : fragment scope copy.unlinked = fragment scope block.unlinked :=
    congrArg (fragment scope) same
  refine ⟨alike, ?_⟩
  unfold Fragment.tasks
  cases place : (fragment scope block).body with
  | none => rfl
  | some inner => rw [bodies (writes.body.mp (by rw [place]; rfl))]

/-- Links that are not traversed are never followed, so a relinked program is
written in the same way: the same lines, warnings and error.

The induction is on the places that were not reached yet and, between two
arrivals, on the agenda. All links on the agenda are at traversed joints. -/
theorem emit_relinked (linked : program.Linked) (finite : program.Finite) {other : Program}
    (relinked : program.Relinked other) {agenda : List Task} {pending : List Joint}
    (scheduled : Schedules program agenda pending)
    (traversed : ∀ joint ∈ pending, program.Traversed joint) (emission : Emission) :
    emit plainWriter other agenda emission = emit plainWriter program agenda emission := by
  induction room : program.unvisited emission.visited using Nat.strongRecOn
    generalizing agenda pending emission with
  | ind room unvisitedHypothesis =>
    induction scheduled generalizing emission with
    | done => rw [emit, emit]
    | line text agenda pending _ inductionHypothesis =>
      rw [emit, emit]
      exact inductionHypothesis traversed _ room
    | link scope joint agenda pending rest inductionHypothesis =>
      have reached := traversed joint List.mem_cons_self
      have waiting : ∀ later ∈ pending, program.Traversed later :=
        fun later member => traversed later (List.mem_cons_of_mem joint member)
      rcases linked.linkAt joint with nowhere | ⟨id, leads⟩
      · rw [nowhere, emit_nowhere, emit_nowhere]
        exact inductionHypothesis waiting emission room
      rw [leads]
      rcases relinked.step emission.visited id with
        ⟨error, after, stopped, otherStopped⟩ |
        ⟨block, copy, after, found, copied, same, arrived, otherArrived⟩
      · rw [emit_stopped scope agenda stopped, emit_stopped scope agenda otherStopped]
      have onward : ∀ later ∈ program.onward id, program.Traversed later :=
        fun later following => reached.onward leads following
      have bodies : block.EntersBody → copy.body = block.body := by
        intro enters
        have link := relinked.links (.body id)
          (onward _ (Program.mem_onward.mpr ⟨block, found, .inl ⟨rfl, enters⟩⟩))
        simpa [Program.linkAt, found, copied] using link
      have next : copy.next = block.next := by
        have link := relinked.links (.next id)
          (onward _ (Program.mem_onward.mpr ⟨block, found, .inr rfl⟩))
        simpa [Program.linkAt, found, copied] using link
      have writes := writes_of_found finite scope found
      obtain ⟨alike, tasks⟩ := tasks_of_unlinked writes same bodies
      have continued := (schedules_block scope found writes).append rest
      rw [List.append_assoc, List.singleton_append] at continued
      rw [emit_arrived scope agenda arrived writes.whole,
        emit_arrived scope agenda otherArrived (alike ▸ writes.whole), alike, tasks, next]
      refine unvisitedHypothesis _ ?_ continued ?_ _ rfl
      · exact room ▸ Program.unvisited_lt_of_arrived arrived
      · intro later member
        exact (List.mem_append.mp member).elim (onward later) (waiting later)

/-- The agenda of a relinked program is the same, and so is all that is written. -/
theorem generate_relinked (linked : program.Linked) (finite : program.Finite) {other : Program}
    (relinked : program.Relinked other) : generate other = generate program := by
  have same : agenda other = agenda program := by
    unfold agenda
    rw [relinked.scalars, relinked.lists, relinked.scripts]
  unfold generate
  rw [same]
  exact emit_relinked linked finite relinked (schedules_agenda finite.scalars finite.lists)
    (fun _ => Program.traversed_of_mem_roots) {}

/-- The code is the text that was written, if no error ended the writing. -/
theorem code_of_sound {emission : Emission} (sound : emission.failure = none) :
    emission.code = .ok (preamble ++ emission.text) := by
  unfold Emission.code
  rw [sound]

/-- If an error ended the writing there is no code, whatever lines were written before. -/
theorem code_of_failure {emission : Emission} {error : Error}
    (failed : emission.failure = some error) : emission.code = .error error := by
  unfold Emission.code
  rw [failed]

/-- There is code only if no error ended the writing. -/
theorem sound_of_code {emission : Emission} {code : Text} (written : emission.code = .ok code) :
    emission.failure = none := by
  cases failed : emission.failure with
  | none => rfl
  | some error =>
    rw [code_of_failure failed] at written
    cases written

/-- An offence leaves an error of the generator in place of code: a cyclic chain if
the id was traversed before, and else an unknown block. The text of either shows the
id, so it exists for a short id only. -/
theorem code_of_offence (finite : program.Finite) {trail : List (Joint × Int)} {joint : Joint}
    {id : Int} (offence : program.FirstOffence trail joint id)
    (short : Decimal.isShort id = true) :
    ∃ error diagnosis, (generate program).code = .error error ∧
      error.diagnosis? = some diagnosis ∧ diagnosis.origin = .generator ∧
      diagnosis.code = if id ∈ trail.map Prod.snd then .cyclicChain else .unknownBlock := by
  have failed := generate_of_offence finite offence
  rw [Error.showing_of_writable _ (show (Datum.int id).isWritable = true from short)] at failed
  by_cases again : id ∈ trail.map Prod.snd
  · rw [if_pos again] at failed ⊢
    exact ⟨_, _, code_of_failure failed, rfl, rfl, rfl⟩
  · rw [if_neg again] at failed ⊢
    exact ⟨_, _, code_of_failure failed, rfl, rfl, rfl⟩

/-- An offence by an id that is too long to be written is not diagnosed. The attempt to
write the id ends the generation. -/
theorem code_of_long_offence (finite : program.Finite) {trail : List (Joint × Int)}
    {joint : Joint} {id : Int} (offence : program.FirstOffence trail joint id)
    (long : Decimal.isShort id = false) : (generate program).code = .error .badValue := by
  have failed := generate_of_offence finite offence
  rw [Error.showing_of_long _ (show (Datum.int id).isWritable = false from long)] at failed
  exact code_of_failure failed

/-- For a program with finite contents and any ids for links there is code exactly
when each traversed id names a block and is traversed once. Otherwise some link
is the first to offend. If its id is short, the error of the link is given, and if
the id is too long to be written, the error is that of writing it. Links that are
not traversed may be changed freely. -/
theorem generate_code_iff (linked : program.Linked) (finite : program.Finite) :
    ((∃ code, (generate program).code = .ok code) ↔ program.LinkedOnce) ∧
      (¬ program.LinkedOnce → ∃ trail joint id, program.FirstOffence trail joint id) ∧
      (∀ trail joint id, program.FirstOffence trail joint id →
        (Decimal.isShort id = true →
          ∃ error diagnosis, (generate program).code = .error error ∧
            error.diagnosis? = some diagnosis ∧ diagnosis.origin = .generator ∧
            diagnosis.code = if id ∈ trail.map Prod.snd then .cyclicChain else .unknownBlock) ∧
        (Decimal.isShort id = false → (generate program).code = .error .badValue)) ∧
      ∀ other, program.Relinked other → generate other = generate program := by
  refine ⟨?_, ?_, ?_, fun other relinked => generate_relinked linked finite relinked⟩
  · rcases linked.complete_or_offence with ⟨trail, follows, clear⟩ | ⟨trail, joint, id, offence⟩
    · have written := code_of_sound (generate_of_follows finite follows clear)
      exact ⟨fun _ => follows.linkedOnce clear, fun _ => ⟨_, written⟩⟩
    · have failed := code_of_failure (generate_of_offence finite offence)
      constructor
      · rintro ⟨code, written⟩
        rw [failed] at written
        cases written
      · exact fun linkedOnce => absurd linkedOnce offence.not_linkedOnce
  · intro tangled
    rcases linked.complete_or_offence with ⟨trail, follows, clear⟩ | offence
    · exact absurd (follows.linkedOnce clear) tangled
    · exact offence
  · intro trail joint id offence
    exact ⟨code_of_offence finite offence, code_of_long_offence finite offence⟩

/-- A script with a loop whose body is also the block after the loop. The last
block is not reached; its links lead nowhere sensible. -/
def tangled : Program where
  blocks := [
    { kind := .event, name := .text "when", args := [.text "flagClicked"], body := .int 1 },
    { kind := .control, name := .text "repeat", args := [.text "n"], body := .int 2, next := .int 2 },
    { kind := .looks, name := .text "say", args := [.expression [.text "n"]] },
    { kind := .motion, name := .text "move", body := .int (-7), next := .int 3 }]
  scripts := [.int 0]

/-- The loop of `tangled` is left through a link to a block that was written in
its body. -/
theorem generate_code_iff_tangled :
    tangled.Linked ∧ tangled.Finite ∧ ¬ tangled.LinkedOnce ∧
      ∃ error diagnosis, (generate tangled).code = .error error ∧
        error.diagnosis? = some diagnosis ∧ diagnosis.origin = .generator ∧
        diagnosis.code = .cyclicChain := by
  have linked : tangled.Linked := by
    constructor <;> simp [tangled, Datum.IsLink]
  have finite : tangled.Finite := by
    constructor
    · simp [tangled, Datum.isWritable]
    · have message : (Argument.expression [.text "n"]).Finite :=
        .expression _ (by simp [Argument.Finite.text])
      simp [tangled, Argument.Finite.text, message]
    · simp [tangled, Table.empty]
    · simp [tangled, Table.empty]
  have follows : tangled.Follows [.root 0] [(.root 0, 0), (.body 0, 1), (.body 1, 2)]
      [.next 1, .next 0] := by
    refine .onto _ 0 _ _ _ rfl (.onto _ 1 _ _ _ rfl (.onto _ 2 _ _ _ rfl ?_))
    exact .nowhere (.next 2) _ _ _ rfl (.here _)
  have offence : tangled.FirstOffence [(.root 0, 0), (.body 0, 1), (.body 1, 2)] (.next 1) 2 :=
    ⟨⟨_, follows⟩, ⟨by decide, by simp [Program.InRange, tangled]⟩, rfl, .inl (by decide)⟩
  obtain ⟨error, diagnosis, failed, diagnosed, origin, code⟩ :=
    ((generate_code_iff linked finite).2.2.1 _ _ _ offence).1 (by decide)
  refine ⟨linked, finite, offence.not_linkedOnce, error, diagnosis, failed, diagnosed, origin, ?_⟩
  exact code.trans (if_pos (by decide))

/-- A script that consists of one block. -/
def oneBlock (block : Block) : Program where
  blocks := [block]
  scripts := [.int 0]

/-- A script whose only block cannot be written leaves the error of the block. -/
theorem code_oneBlock {block : Block} {warnings : List Warning} {error : Error}
    (made : ∀ scope, fragment scope block = { warnings, failure := some error }) :
    (generate (oneBlock block)).code = .error error := by
  have scheduled : Schedules (oneBlock block) (agenda (oneBlock block)) [.root 0] :=
    schedules_agenda (List.forall_mem_nil _) (List.forall_mem_nil _)
  obtain ⟨scope, later, before, _, reached, visited, _⟩ := emit_to_link scheduled {}
  have remembers : Remembers before.visited [] := visited ▸ remembers_nothing
  have arrived := step_inside remembers List.not_mem_nil
    (show (oneBlock block).block? (.int 0) = some block from rfl)
  have link : (oneBlock block).linkAt (.root 0) = .int 0 := rfl
  apply code_of_failure
  rw [generate, reached, link, emit_reached scope later arrived, made]

/-- A block that moves by a number of steps. -/
def moveBlock (steps : Int) : Block :=
  { kind := .motion, name := .text "move", args := [.other (.int steps)] }

/-- A number of steps that is too long cannot be written, and neither can the block. -/
theorem fragment_moveBlock (scope : Scope) {steps : Int} (long : Decimal.isShort steps = false) :
    fragment scope (moveBlock steps) = { failure := some .badValue } := by
  have named : (moveBlock steps).name = .text Keyword.move.word := rfl
  have made : fragment scope (moveBlock steps) = .ofExcept (moveFragment scope (moveBlock steps)) :=
    fragment_keyword scope named
  have unwritten : argumentCode (.other (.int steps)) = .error .badValue := by
    rw [argumentCode, datumCode, Datum.isWritable, long]
    rfl
  have first : argumentAt (moveBlock steps) 0 = .error .badValue := by
    rw [argumentAt, show (moveBlock steps).args[0]? = some (.other (.int steps)) from rfl]
    dsimp only
    rw [unwritten]
    rfl
  rw [made, moveFragment, first]
  rfl

/-- A block for the start of the program, with an id behind it. -/
def startBlock (next : Int) : Block :=
  { kind := .event, name := .text "when", args := [.text "flagClicked"], next := .int next }

/-- The first number that is too long to be written leaves no diagnosis: as a link to no
block it is reported by no unknown block, and as an argument it leaves no code, though
nothing is wrong with the links then. -/
theorem generate_long_numbers :
    let number : Int := Decimal.tenTo Decimal.maxIntegerDigits
    let dangling := oneBlock (startBlock number)
    let moving := oneBlock (moveBlock number)
    (dangling.Linked ∧ dangling.Finite ∧ ¬ dangling.LinkedOnce ∧
        (generate dangling).code = .error .badValue) ∧
      (moving.Linked ∧ moving.LinkedOnce ∧ (generate moving).code = .error .badValue) ∧
      Error.badValue.diagnosis? = none := by
  intro number dangling moving
  have long : Decimal.isShort number = false := Decimal.isShort_tenTo
  -- Nothing else about the number is used. Its digits would be too many to compute with.
  clear_value number
  have outside : ∀ block, ¬ (oneBlock block).InRange number := by
    rintro block ⟨positive, below⟩
    have zero : number = 0 := by
      have below : number < 1 := below
      omega
    rw [zero] at long
    exact absurd long (by decide)
  have inside : ∀ block, (oneBlock block).Clear [0] :=
    fun block => ⟨by simp, by simp [Program.InRange, oneBlock]⟩
  refine ⟨?_, ?_, rfl⟩
  · have finite : dangling.Finite := by
      constructor
      · simp [dangling, oneBlock, startBlock, Datum.isWritable]
      · simp [dangling, oneBlock, startBlock, Argument.Finite.text]
      · exact List.forall_mem_nil _
      · exact List.forall_mem_nil _
    have follows : dangling.Follows [.root 0] [(.root 0, 0)] [.next 0] :=
      .onto _ 0 _ _ _ rfl (.nowhere (.body 0) _ _ _ rfl (.here _))
    have offence : dangling.FirstOffence [(.root 0, 0)] (.next 0) number :=
      ⟨⟨_, follows⟩, inside _, rfl, .inr (outside _)⟩
    refine ⟨?_, finite, offence.not_linkedOnce, code_of_long_offence finite offence long⟩
    constructor <;> simp [dangling, oneBlock, startBlock, Datum.IsLink]
  · have follows : moving.Follows [.root 0] [(.root 0, 0)] [] :=
      .onto _ 0 _ _ _ rfl (.nowhere (.next 0) _ _ _ rfl (.here _))
    refine ⟨?_, follows.linkedOnce (inside _), ?_⟩
    · constructor <;> simp [moving, oneBlock, moveBlock, Datum.IsLink]
    · exact code_oneBlock fun scope => fragment_moveBlock scope long

end SpriteScript.JavaScript
