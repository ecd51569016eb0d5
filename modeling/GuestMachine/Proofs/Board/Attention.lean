import GuestMachine.Proofs.Board.BurstsAmidOthers

/-! # Requests to a running core

Others ask a core to halt while it runs, and so may the service calls it makes.
Nothing that was asked is gone before the core takes it, and a block boundary at
which anything is pending is the last one of a burst.
-/

namespace GuestMachine

open A64

variable {κ β : Type}

/-- Everyone but the core: what they do to the machine, and why they then ask the
    core to halt. -/
structure Others (κ β : Type) where
  move : Machine κ × β → Machine κ × β
  asks : Machine κ × β → List HaltReason

/-- One moment of a burst: what others have just asked, and all that is pending. -/
structure Sighting where
  asked : List HaltReason
  pending : UInt32

namespace Others

/-- A move of the others, and a note of what there is to see on the core's line. -/
def act (others : Others κ β) (core : Core) (p : Machine κ × β × List Sighting) :
    Machine κ × β × List Sighting :=
  let (machine, b) := others.move (p.1, p.2.1)
  let asked := others.asks (machine, b)
  let machine := machine.mapBoard fun board => asked.foldl core.halt board
  (machine, b, p.2.2 ++ [{ asked, pending := machine.board.halts.pending core.line }])

/-- Requests are all that the others have to do with this line. -/
def LeavesLine (others : Others κ β) (line : Nat) : Prop :=
  ∀ p, (line < p.1.board.halts.bits.length →
      line < (others.move p).1.board.halts.bits.length) ∧
    (others.move p).1.board.halts.pending line = p.1.board.halts.pending line

end Others

/-- To a core, service calls are someone who may ask it to halt. -/
def OperatingSystem.OnlyAsks (os : OperatingSystem κ) (index : CoreIndex) (line : Nat) : Prop :=
  ∀ number, Exec.Steps (Machine.Asks line) (os.serviceCall index number)

namespace Core

variable {core : Core} {os : OperatingSystem κ} {others : Others κ β} {start : UInt32}
  {machine after : Machine κ} {rest : β × List Sighting} {p : Machine κ × β × List Sighting}

theorem callSupervisor_asks (service : os.OnlyAsks core.index core.line) (number : UInt32) :
    Exec.Steps (Machine.Asks core.line) ((core.environment os).callSupervisor number) :=
  callSupervisor_steps (fun _ _ _ => .trans)
    (fun machine => HaltLines.Grow.asks (.request machine.board.halts core.line .supervisorCall) _)
    (service number)

theorem halts_foldl_halt (core : Core) (asked : List HaltReason) {board : Board}
    (within : core.line < board.halts.bits.length) :
    (asked.foldl core.halt board).halts.bits.length = board.halts.bits.length ∧
      (asked.foldl core.halt board).halts.pending core.line =
        board.halts.pending core.line ||| HaltReason.bits asked := by
  induction asked generalizing board with
  | nil => exact ⟨rfl, UInt32.or_zero.symm⟩
  | cons reason rest ih =>
      have length : (core.halt board reason).halts.bits.length = board.halts.bits.length :=
        HaltLines.length_request ..
      have pending : (core.halt board reason).halts.pending core.line =
          board.halts.pending core.line ||| reason.bit := by
        change (board.halts.request core.line reason.bit).pending core.line = _
        rw [HaltLines.pending_request, if_pos ⟨rfl, within⟩]
      obtain ⟨length', pending'⟩ := ih (length ▸ within)
      refine ⟨length'.trans length, ?_⟩
      rw [List.foldl_cons, pending', pending, UInt32.or_assoc]
      rfl

/-- The core can be asked. Only reasons to halt are pending, and all that were so
    far. -/
structure Attends (core : Core) (p : Machine κ × β × List Sighting) : Prop where
  within : core.line < p.1.board.halts.bits.length
  known : HaltReason.Known (p.1.board.halts.pending core.line)
  lasting : ∀ sighting ∈ p.2.2, ∀ reason : HaltReason, reason.Among sighting.pending →
    reason.Among (p.1.board.halts.pending core.line)

/-- No guest code has run since `start` was pending. -/
structure Waits (core : Core) (start : UInt32) (p : Machine κ × β × List Sighting) : Prop
    extends core.Attends p where
  kept : ∀ reason : HaltReason, reason.Among start →
    reason.Among (p.1.board.halts.pending core.line)
  /-- The core itself asks for nothing but breaks then, when its time is up. -/
  origin : ∀ reason : HaltReason, reason.Among (p.1.board.halts.pending core.line) →
    reason.Among start ∨ reason = .breakLoop ∨ ∃ sighting ∈ p.2.2, reason ∈ sighting.asked

theorem Attends.of_asks (attends : core.Attends (machine, rest))
    (asks : Machine.Asks core.line machine after) : core.Attends (after, rest) := by
  obtain ⟨within, asked, known, pending⟩ := asks
  refine ⟨within attends.within, ?_, fun sighting seen reason among => ?_⟩
  · rw [pending]
    exact attends.known.or known
  · rw [pending, attends.known.among_or known]
    exact .inl (attends.lasting sighting seen reason among)

theorem Waits.of_asks {asked : UInt32} (waits : core.Waits start (machine, rest))
    (within : core.line < after.board.halts.bits.length) (known : HaltReason.Known asked)
    (pending : after.board.halts.pending core.line =
      machine.board.halts.pending core.line ||| asked)
    (source : ∀ reason : HaltReason, reason.Among asked →
      reason = .breakLoop ∨ ∃ sighting ∈ rest.2, reason ∈ sighting.asked) :
    core.Waits start (after, rest) := by
  have attends : core.Attends (after, rest) :=
    waits.toAttends.of_asks ⟨fun _ => within, asked, known, pending⟩
  refine ⟨attends, fun reason among => ?_, fun reason among => ?_⟩
  · rw [pending, waits.known.among_or known]
    exact .inl (waits.kept reason among)
  · rw [pending, waits.known.among_or known] at among
    rcases among with before | new
    · exact waits.origin reason before
    · exact .inr (source reason new)

theorem Waits.of_halts (waits : core.Waits start (machine, rest))
    (halts : after.board.halts = machine.board.halts) : core.Waits start (after, rest) := by
  refine waits.of_asks ?_ .zero ?_ fun reason among => absurd rfl among.ne_zero
  · rw [halts]
    exact waits.within
  · rw [halts, UInt32.or_zero]

theorem Attends.waits (attends : core.Attends p) :
    core.Waits (p.1.board.halts.pending core.line) p :=
  ⟨attends, fun _ among => among, fun _ among => .inl among⟩

/-- A move of the others adds what they ask, and what they see is pending. -/
theorem Waits.act (leaves : others.LeavesLine core.line) (waits : core.Waits start p) :
    core.Waits start (others.act core p) := by
  obtain ⟨machine, b, seen⟩ := p
  obtain ⟨within, pending⟩ := leaves (machine, b)
  let moved := others.move (machine, b)
  let asked := others.asks moved
  obtain ⟨length, requested⟩ := core.halts_foldl_halt asked (within waits.within)
  have pending : (others.act core (machine, b, seen)).1.board.halts.pending core.line =
      machine.board.halts.pending core.line ||| HaltReason.bits asked := by
    rw [← pending]
    exact requested
  have known : HaltReason.Known (HaltReason.bits asked) := ⟨asked, rfl⟩
  refine ⟨⟨?_, ?_, ?_⟩, fun reason among => ?_, fun reason among => ?_⟩
  · exact length ▸ within waits.within
  · rw [pending]
    exact waits.known.or known
  · intro sighting sighted reason among
    rcases List.mem_append.mp sighted with before | now
    · rw [pending, waits.known.among_or known]
      exact .inl (waits.lasting sighting before reason among)
    · rw [List.mem_singleton.mp now] at among
      exact among
  · rw [pending, waits.known.among_or known]
    exact .inl (waits.kept reason among)
  · rw [pending, waits.known.among_or known, HaltReason.among_bits] at among
    rcases among with before | new
    · rcases waits.origin reason before with old | due | ⟨sighting, sighted, member⟩
      · exact .inl old
      · exact .inr (.inl due)
      · exact .inr (.inr ⟨sighting, List.mem_append_left _ sighted, member⟩)
    · exact .inr (.inr ⟨_, List.mem_append_right _ (List.mem_singleton_self _), new⟩)

theorem Attends.act (leaves : others.LeavesLine core.line) (attends : core.Attends p) :
    core.Attends (others.act core p) :=
  (attends.waits.act leaves).toAttends

theorem Waits.atBlockBoundary (waits : core.Waits start (machine, rest)) :
    core.Waits start (machine.mapBoard (·.atBlockBoundary core.line), rest) := by
  have result := machine.board.halts_atBlockBoundary core.line
  cases due : (machine.board.clock.pass Board.blockTicks).takePreemption.1 with
  | false =>
      rw [due] at result
      exact waits.of_halts result
  | true =>
      rw [due, if_pos rfl] at result
      refine waits.of_asks ?_ (.bit .breakLoop) ?_ fun reason among =>
        .inl ((HaltReason.among_bit reason _).mp among)
      · change core.line < (machine.board.atBlockBoundary core.line).halts.bits.length
        rw [result, HaltLines.length_request]
        exact waits.within
      · change (machine.board.atBlockBoundary core.line).halts.pending core.line = _
        rw [result, HaltLines.pending_request, if_pos ⟨rfl, waits.within⟩]

/-- The start of a burst is no moment at which a request could get lost. -/
theorem Waits.enterAmid (leaves : others.LeavesLine core.line) (waits : core.Waits start p) :
    core.Waits start (core.enterAmid (others.act core) p).cpu.env := by
  let moved := others.act core p
  have cleared : core.Waits start
      (moved.1.mapBoard (·.clearExclusive core.index core.monitor), moved.2) :=
    (waits.act leaves).of_halts (Board.halts_clearExclusive ..)
  exact (cleared.act leaves).of_halts rfl

/-- A core takes everything that is pending at a block boundary. -/
theorem atBoundary_of_waits (os : OperatingSystem κ) (leaves : others.LeavesLine core.line)
    {session : Session (Machine κ × β × List Sighting)}
    (waits : core.Waits start session.cpu.env) :
    ∃ q : Machine κ × β × List Sighting, core.Waits start q ∧
      (Translator.atBoundary ((core.environment os).amid (others.act core)) session).1.2 =
        q.1.board.halts.pending core.line ∧
      (Translator.atBoundary ((core.environment os).amid (others.act core)) session).2.cpu =
        { context := session.cpu.context
          env := ((q.1.onBoard (·.takeHalts core.line)).2, q.2) } := by
  let moved := others.act core session.cpu.env
  have timed : core.Waits start (moved.1.mapBoard (·.atBlockBoundary core.line), moved.2) :=
    (waits.act leaves).atBlockBoundary
  have passed : core.Waits start (((moved.1.mapBoard (·.atBlockBoundary core.line)).onBoard
      (·.takeInvalidations core.index)).2, moved.2) :=
    timed.of_halts rfl
  exact ⟨_, passed.act leaves, rfl, rfl⟩

/-- With a request pending, no block is entered. -/
theorem run_of_waits (os : OperatingSystem κ) (leaves : others.LeavesLine core.line)
    (requested : start ≠ 0) (named : HaltReason.Known start)
    {session : Session (Machine κ × β × List Sighting)}
    (waits : core.Waits start session.cpu.env) (rounds : Nat) :
    let env := (core.environment os).amid (others.act core)
    Translator.entered env core.translatorConfig (rounds + 1) session = [] ∧
      ∃ (q : Machine κ × β × List Sighting) (after : Session (Machine κ × β × List Sighting)),
        core.Waits start q ∧ q.1.board.halts.pending core.line ≠ 0 ∧
        Translator.run env core.translatorConfig (rounds + 1) session =
          (.halted (q.1.board.halts.pending core.line), after) ∧
        after.cpu = { context := session.cpu.context
                      env := ((q.1.onBoard (·.takeHalts core.line)).2, q.2) } := by
  obtain ⟨q, waits, bits, cpu⟩ := atBoundary_of_waits os leaves waits
  obtain ⟨reason, among⟩ := named.among_of_ne_zero requested
  have pending : q.1.board.halts.pending core.line ≠ 0 := (waits.kept reason among).ne_zero
  obtain ⟨ended, none⟩ := Translator.run_of_halts core.translatorConfig (bits ▸ pending) rounds
  exact ⟨none, q, _, waits, pending, by rw [ended, bits], cpu⟩

/-- Where a burst is about to end, no request that anyone saw is gone. -/
theorem executeAmid_attends (service : os.OnlyAsks core.index core.line)
    (leaves : others.LeavesLine core.line) (rounds : Nat) (attends : core.Attends p) :
    ∃ before, core.Attends (before, (core.executeAmid os (others.act core) rounds p).2.2.2) ∧
      core.EndsFrom before (core.executeAmid os (others.act core) rounds p).1
        (core.executeAmid os (others.act core) rounds p).2.1
        (core.executeAmid os (others.act core) rounds p).2.2.1 :=
  executeAmid_keeps core.Attends (fun _ attends => attends.act leaves)
    (fun _ _ _ does attends => attends.of_asks (does.grow.asks core.line))
    (fun _ number cpu attends => attends.of_asks (callSupervisor_asks service number cpu))
    rounds attends

theorem executeAmid_of_idle (act : Machine κ × β → Machine κ × β) (idle : core.state = .idle)
    (rounds : Nat) (p : Machine κ × β) :
    let ran := Translator.run ((core.environment os).amid act) core.translatorConfig rounds
      (core.enterAmid act p)
    core.executeAmid os act rounds p = core.leave ran.1 ran.2 :=
  if_neg fun stopped => by cases idle.symm.trans stopped

/-- A burst that is out of rounds is at a block boundary. -/
theorem run_of_paused {act : Machine κ × β → Machine κ × β} {p : Machine κ × β} {rounds : Nat}
    (idle : core.state = .idle) (paused : (core.executeAmid os act rounds p).1 = .outOfRounds) :
    ∃ reached, Translator.run ((core.environment os).amid act) core.translatorConfig rounds
        (core.enterAmid act p) = (.outOfRounds, reached) ∧
      (core.executeAmid os act rounds p).2.2 = reached.cpu.env := by
  rw [executeAmid_of_idle act idle] at paused ⊢
  generalize Translator.run ((core.environment os).amid act) core.translatorConfig rounds
    (core.enterAmid act p) = ran at paused ⊢
  obtain ⟨result, reached⟩ := ran
  cases result with
  | outOfRounds => exact ⟨reached, rfl, rfl⟩
  | faulted error => cases paused
  | halted bits =>
      simp only [leave, finish] at paused
      split at paused <;> cases paused

/-- A burst that comes to a block boundary with a request pending enters no further
    block, and answers what is pending. -/
theorem executeAmid_of_waits (leaves : others.LeavesLine core.line) (idle : core.state = .idle)
    {rounds : Nat} {reached : Session (Machine κ × β × List Sighting)}
    (running : Translator.run ((core.environment os).amid (others.act core)) core.translatorConfig
      rounds (core.enterAmid (others.act core) p) = (.outOfRounds, reached))
    (waits : core.Waits start reached.cpu.env) (named : HaltReason.Known start)
    (requested : start ≠ 0) (more : Nat) :
    core.enteredAmid os (others.act core) (rounds + (more + 1)) p =
        core.enteredAmid os (others.act core) rounds p ∧
      let (result, core', after, rest) :=
        core.executeAmid os (others.act core) (rounds + (more + 1)) p
      core'.context = reached.cpu.context ∧
        ∃ before : Machine κ, core.Waits start (before, rest) ∧
          Answers core.line (before.board.halts.pending core.line) result core' after := by
  have runs : ¬ core.state = .stopped := fun stopped => by cases idle.symm.trans stopped
  obtain ⟨none, q, session, waits, pending, ended, cpu⟩ :=
    run_of_waits os leaves requested named waits more
  obtain ⟨same, blocks⟩ := Translator.run_add rounds (more + 1) running
  constructor
  · rw [enteredAmid, enteredAmid, if_neg runs, if_neg runs, blocks, none, List.append_nil]
  · rw [executeAmid_of_idle _ idle, same, ended]
    dsimp only [leave]
    rw [cpu]
    let core' := { core with context := reached.cpu.context, cache := session.cache }
    have took : core'.TookFrom q.1 (.halted (q.1.board.halts.pending core.line))
        (q.1.onBoard (·.takeHalts core.line)).2 := rfl
    have ends := core'.finish_endsFrom took
    obtain ⟨reason, halted⟩ := finish_of_known waits.known pending core'
      (q.1.onBoard (·.takeHalts core.line)).2
    exact ⟨finish_context .., q.1, waits, ends.answers idle waits.within waits.known halted⟩

end Core

end GuestMachine
