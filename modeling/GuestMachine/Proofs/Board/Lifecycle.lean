import GuestMachine.Proofs.Board.ServedBoards

/-! # Lifecycle of a core

A core is run in bursts and asked to halt, between them and while they last. What
it reports, in which state it is afterwards and what becomes of the requests is
read off a log of what was done to it.
-/

namespace GuestMachine

open A64

variable {κ β : Type}

/-- A core with its machine, and with what the others remember. -/
structure Stage (κ β : Type) where
  core : Core
  machine : Machine κ
  others : β

/-- One burst, with where it began and ended, the addresses of the blocks of guest
    code that it entered, and what there was to see on the core's line meanwhile. -/
structure CoreBurst (κ β : Type) where
  rounds : Nat
  before : Stage κ β
  result : BurstResult
  after : Stage κ β
  entered : List Address
  sightings : List Sighting

inductive CoreCall where
  | halt (reason : HaltReason)
  /-- A burst of at least one block boundary and at most as many more. -/
  | execute (rounds : Nat)

inductive CoreEvent (κ β : Type) where
  | asked (reason : HaltReason) (before : Stage κ β)
  | ran (burst : CoreBurst κ β)

namespace Stage

/-- The requests on the core's line. -/
def pending (stage : Stage κ β) : UInt32 :=
  stage.machine.board.halts.pending stage.core.line

def burst (os : OperatingSystem κ) (others : Others κ β) (rounds : Nat) (stage : Stage κ β) :
    CoreBurst κ β :=
  let act := others.act stage.core
  let start := (stage.machine, stage.others, [])
  let (result, core, machine, b, sightings) := stage.core.executeAmid os act rounds start
  { rounds, before := stage, result, after := { core, machine, others := b }
    entered := stage.core.enteredAmid os act rounds start, sightings }

def perform (os : OperatingSystem κ) (others : Others κ β) (stage : Stage κ β) :
    CoreCall → CoreEvent κ β × Stage κ β
  | .halt reason =>
      (.asked reason stage,
        { stage with machine := stage.machine.mapBoard (stage.core.halt · reason) })
  | .execute rounds =>
      let burst := stage.burst os others (rounds + 1)
      (.ran burst, burst.after)

/-- The log of a sequence of calls, and what it ends in. -/
def performAll (os : OperatingSystem κ) (others : Others κ β) (stage : Stage κ β) :
    List CoreCall → List (CoreEvent κ β) × Stage κ β
  | [] => ([], stage)
  | call :: calls =>
      let (event, stage) := stage.perform os others call
      let (events, stage) := stage.performAll os others calls
      (event :: events, stage)

end Stage

namespace CoreBurst

/-- The reason was pending at some step of the burst. -/
def Saw (burst : CoreBurst κ β) (reason : HaltReason) : Prop :=
  ∃ sighting ∈ burst.sightings, reason.Among sighting.pending

/-- Others asked for this reason during the burst. -/
def Asked (burst : CoreBurst κ β) (reason : HaltReason) : Prop :=
  ∃ sighting ∈ burst.sightings, reason ∈ sighting.asked

def Faulted (burst : CoreBurst κ β) : Prop :=
  ∃ error, burst.result = .faulted error

/-- The burst of a stopped core: an error, and nothing else. -/
structure Refused (burst : CoreBurst κ β) (core : Core) : Prop where
  same : burst.before.core = core
  result : burst.result = .faulted (.coreStopped core.index)
  entered : burst.entered = []
  sightings : burst.sightings = []
  after : burst.after = burst.before

/-- What holds of any burst by itself. -/
structure Meets (os : OperatingSystem κ) (others : Others κ β) (burst : CoreBurst κ β) : Prop where
  state : burst.after.core.state = .stopped ↔ burst.result = .halted .stopped ∨ burst.Faulted
  refused : burst.before.core.state = .stopped → burst.Refused burst.before.core
  /-- The burst ends at the first block boundary at which a request is pending, and
      a stop wins. -/
  boundary : ∀ rounds < burst.rounds,
    let reached := burst.before.burst os others rounds
    reached.result = .outOfRounds → reached.after.pending ≠ 0 →
      burst.entered = reached.entered ∧ ∃ reason, burst.result = .halted reason ∧
        (HaltReason.stopped.Among reached.after.pending → reason = .stopped)
  /-- After a stop was seen, no other reason is reported. -/
  stops : burst.Saw .stopped →
    burst.result = .halted .stopped ∨ burst.Faulted ∨ burst.result = .outOfRounds
  /-- After a break was seen, it is reported, or it is pending again on its own
      after a supervisor call, unless the core stops or faults. -/
  breaks : burst.Saw .breakLoop →
    burst.result = .halted .breakLoop ∨ burst.result = .halted .stopped ∨ burst.Faulted ∨
      (burst.result = .halted .supervisorCall ∧
        burst.after.pending = HaltReason.breakLoop.bit) ∨
      (burst.result = .outOfRounds ∧ HaltReason.breakLoop.Among burst.after.pending)

end CoreBurst

/-- A break is due. Every burst from here on runs no guest code, and reports the
    break, unless it reports a stop or one more supervisor call that somebody asked
    for: by a call since (`asked`), or during the burst. -/
def BreakDue : (asked : Bool) → List (CoreEvent κ β) → Prop
  | _, [] => True
  | asked, .asked reason _ :: later => BreakDue (asked || reason == .supervisorCall) later
  | asked, .ran burst :: later =>
      burst.entered = [] ∧ burst.after.core.context = burst.before.core.context ∧
        (burst.result = .halted .breakLoop ∨ burst.result = .halted .stopped ∨
          burst.result = .halted .supervisorCall ∧
            (asked ∨ burst.Asked .supervisorCall) ∧ BreakDue false later)

/-- What a log says of a core and of the requests to it. -/
structure Lifecycle (os : OperatingSystem κ) (others : Others κ β) (log : List (CoreEvent κ β)) :
    Prop where
  bursts : ∀ burst, .ran burst ∈ log → burst.Meets os others
  /-- Once stopped, a core does nothing any more. -/
  stopped : ∀ burst later, .ran burst :: later <:+ log → burst.after.core.state = .stopped →
    ∀ next, .ran next ∈ later → next.Refused burst.after.core
  /-- A break that an idle core is asked for is due. -/
  asked : ∀ stage later, .asked .breakLoop stage :: later <:+ log → stage.core.state = .idle →
    BreakDue true later
  /-- A break that had to wait for the report of a supervisor call is due. -/
  deferred : ∀ burst later, .ran burst :: later <:+ log → burst.Saw .breakLoop →
    burst.result = .halted .supervisorCall → BreakDue false later

/-- The core has its line, and no request for an unknown reason is on it as long as
    it runs. -/
structure Stage.Ready (index : CoreIndex) (line : Nat) (stage : Stage κ β) : Prop where
  index_eq : stage.core.index = index
  line_eq : stage.core.line = line
  within : line < stage.machine.board.halts.bits.length
  known : stage.core.state = .idle → HaltReason.Known stage.pending

section

variable {os : OperatingSystem κ} {others : Others κ β} {index : CoreIndex} {line : Nat}
  {stage : Stage κ β}

theorem Stage.Ready.attends (ready : stage.Ready index line) (idle : stage.core.state = .idle) :
    stage.core.Attends (stage.machine, stage.others, []) :=
  ⟨ready.line_eq ▸ ready.within, ready.known idle, fun _ seen => nomatch seen⟩

theorem Stage.burst_of_stopped (os : OperatingSystem κ) (others : Others κ β)
    (stopped : stage.core.state = .stopped) (rounds : Nat) :
    (stage.burst os others rounds).Refused stage.core := by
  have done : stage.core.executeAmid os (others.act stage.core) rounds
      (stage.machine, stage.others, []) =
      (.faulted (.coreStopped stage.core.index), stage.core, stage.machine, stage.others, []) :=
    if_pos stopped
  rw [burst, done]
  exact ⟨rfl, rfl, if_pos stopped, rfl, rfl⟩

/-- Amid others who neither touch the machine nor ask for anything, a burst is what
    the core does alone. -/
theorem Stage.execute_eq_burst (silent : ∀ p, (others.move p).1 = p.1)
    (quiet : ∀ p, others.asks p = []) (rounds : Nat) :
    let burst := stage.burst os others rounds
    stage.core.execute os rounds stage.machine =
      (burst.result, burst.after.core, burst.after.machine) := by
  refine Core.execute_eq_executeAmid (others.act stage.core) (fun p => ?_) rounds stage.core
    (stage.machine, stage.others, [])
  dsimp only [Others.act]
  rw [quiet]
  exact silent (p.1, p.2.1)

/-- The end of a burst, and the moment before requests were taken. -/
theorem Stage.burst_ends (service : os.OnlyAsks index line) (leaves : others.LeavesLine line)
    (ready : stage.Ready index line) (idle : stage.core.state = .idle) (rounds : Nat) :
    let burst := stage.burst os others rounds
    ∃ before, stage.core.Attends (before, burst.after.others, burst.sightings) ∧
      stage.core.EndsFrom before burst.result burst.after.core burst.after.machine := by
  have attends := ready.attends idle
  obtain ⟨rfl, rfl, _, _⟩ := ready
  exact Core.executeAmid_attends service leaves rounds attends

theorem Stage.burst_ready (service : os.OnlyAsks index line) (leaves : others.LeavesLine line)
    (ready : stage.Ready index line) (rounds : Nat) :
    (stage.burst os others rounds).after.Ready index line := by
  cases state : stage.core.state with
  | stopped =>
      rw [(stage.burst_of_stopped os others state rounds).after]
      exact ready
  | idle =>
      obtain ⟨before, attends, ended⟩ := stage.burst_ends service leaves ready state rounds
      refine ⟨ended.index.trans ready.index_eq, ended.line.trans ready.line_eq, ?_, fun idle => ?_⟩
      · rw [ended.lines]
        exact ready.line_eq ▸ attends.within
      · obtain ⟨_, other, unfaulted⟩ := ended.idle.mp idle
        rw [pending, ended.line]
        cases result : (stage.burst os others rounds).result with
        | faulted error => exact absurd result (unfaulted error)
        | outOfRounds =>
            rw [ended.paused result]
            exact attends.known
        | halted reason =>
            have answers := ended.answers state attends.within attends.known result
            rw [result] at answers other
            cases answers with
            | stop => exact absurd rfl other
            | call _ _ _ again =>
                rw [again]
                split
                · exact .bit .breakLoop
                · exact .zero
            | «break» _ again =>
                rw [again]
                exact .zero

/-- A block boundary with a request pending is the last one of the burst. -/
theorem Stage.burst_boundary (service : os.OnlyAsks index line) (leaves : others.LeavesLine line)
    (ready : stage.Ready index line) {rounds total : Nat} (fewer : rounds < total)
    (running : (stage.burst os others rounds).result = .outOfRounds)
    (requested : (stage.burst os others rounds).after.pending ≠ 0) :
    (stage.burst os others total).entered = (stage.burst os others rounds).entered ∧
      ∃ reason, (stage.burst os others total).result = .halted reason ∧
        (HaltReason.stopped.Among (stage.burst os others rounds).after.pending →
          reason = .stopped) := by
  obtain ⟨more, rfl⟩ : ∃ more, total = rounds + (more + 1) :=
    ⟨total - rounds - 1, by omega⟩
  cases state : stage.core.state with
  | stopped =>
      have refused := stage.burst_of_stopped os others state rounds
      rw [refused.result] at running
      cases running
  | idle =>
      obtain ⟨before, attends, ended⟩ := stage.burst_ends service leaves ready state rounds
      rw [pending, ended.line] at requested ⊢
      obtain ⟨reached, ran, env⟩ := Core.run_of_paused state running
      obtain rfl := ended.paused running
      have attends : stage.core.Attends reached.cpu.env := by
        rw [← env]
        exact attends
      have here := congrArg (fun p => p.1.board.halts.pending stage.core.line) env
      change (stage.burst os others rounds).after.machine.board.halts.pending _ = _ at here
      rw [here] at requested ⊢
      obtain ⟨entered, _, taken, waits, answers⟩ := Core.executeAmid_of_waits
        (ready.line_eq ▸ leaves) state ran attends.waits attends.known requested more
      have answers : Core.Answers _ _ (stage.burst os others (rounds + (more + 1))).result _ _ :=
        answers
      refine ⟨entered, ?_⟩
      generalize (stage.burst os others (rounds + (more + 1))).result = result at answers ⊢
      cases answers with
      | stop => exact ⟨.stopped, rfl, fun _ => rfl⟩
      | call other => exact ⟨_, rfl, fun among => absurd (waits.kept _ among) other⟩
      | «break» other => exact ⟨_, rfl, fun among => absurd (waits.kept _ among) other⟩

/-- A burst that begins with requests answers them, and those that others add, before
    any guest code. -/
theorem Stage.burst_of_pending (os : OperatingSystem κ) (leaves : others.LeavesLine line)
    (ready : stage.Ready index line) (idle : stage.core.state = .idle)
    (requested : stage.pending ≠ 0) (rounds : Nat) :
    let burst := stage.burst os others (rounds + 1)
    burst.entered = [] ∧ burst.after.core.context = stage.core.context ∧
      ∃ taken, (∀ reason : HaltReason, reason.Among stage.pending → reason.Among taken) ∧
        (∀ reason : HaltReason, reason.Among taken →
          reason.Among stage.pending ∨ reason = .breakLoop ∨ burst.Asked reason) ∧
        Core.Answers line taken burst.result burst.after.core burst.after.machine := by
  have attends := ready.attends idle
  have leaves : others.LeavesLine stage.core.line := ready.line_eq ▸ leaves
  have paused : Translator.run ((stage.core.environment os).amid (others.act stage.core))
      stage.core.translatorConfig 0 (stage.core.enterAmid (others.act stage.core)
        (stage.machine, stage.others, [])) = (.outOfRounds, _) := rfl
  obtain ⟨entered, context, taken, waits, answers⟩ := Core.executeAmid_of_waits leaves idle paused
    (attends.waits.enterAmid leaves) attends.known requested rounds
  rw [Nat.zero_add] at entered context waits answers
  rw [← ready.line_eq]
  exact ⟨entered.trans (ite_self []), context, _, waits.kept, waits.origin, answers⟩

/-- What was seen pending during a burst was pending at its end. -/
theorem Stage.burst_saw (service : os.OnlyAsks index line) (leaves : others.LeavesLine line)
    (ready : stage.Ready index line) {rounds : Nat} {reason : HaltReason}
    (saw : (stage.burst os others rounds).Saw reason) :
    (stage.burst os others rounds).Faulted ∨
      ((stage.burst os others rounds).result = .outOfRounds ∧
        reason.Among (stage.burst os others rounds).after.pending) ∨
      ∃ taken, reason.Among taken ∧ Core.Answers line taken (stage.burst os others rounds).result
        (stage.burst os others rounds).after.core (stage.burst os others rounds).after.machine := by
  obtain ⟨sighting, seen, among⟩ := saw
  cases state : stage.core.state with
  | stopped =>
      rw [(stage.burst_of_stopped os others state rounds).sightings] at seen
      cases seen
  | idle =>
      obtain ⟨before, attends, ended⟩ := stage.burst_ends service leaves ready state rounds
      have among := attends.lasting sighting seen reason among
      cases result : (stage.burst os others rounds).result with
      | faulted error => exact .inl ⟨error, result⟩
      | outOfRounds =>
          rw [pending, ended.line, ended.paused result]
          exact .inr (.inl ⟨rfl, among⟩)
      | halted reason =>
          have answers := ended.answers state attends.within attends.known result
          rw [ready.line_eq] at answers among
          exact .inr (.inr ⟨_, among, result ▸ answers⟩)

theorem Stage.burst_meets (service : os.OnlyAsks index line) (leaves : others.LeavesLine line)
    (ready : stage.Ready index line) (rounds : Nat) :
    (stage.burst os others rounds).Meets os others where
  refused stopped := stage.burst_of_stopped os others stopped rounds
  boundary fewer less running requested :=
    stage.burst_boundary service leaves ready less running requested
  state := by
    cases state : stage.core.state with
    | stopped =>
        have refused := stage.burst_of_stopped os others state rounds
        rw [refused.after]
        exact ⟨fun _ => .inr ⟨_, refused.result⟩, fun _ => state⟩
    | idle =>
        obtain ⟨before, attends, ended⟩ := stage.burst_ends service leaves ready state rounds
        cases now : (stage.burst os others rounds).after.core.state with
        | idle =>
            obtain ⟨_, other, unfaulted⟩ := ended.idle.mp now
            refine ⟨nofun, ?_⟩
            rintro (stopped | ⟨error, faulted⟩)
            · exact absurd stopped other
            · exact absurd faulted (unfaulted error)
        | stopped =>
            refine ⟨fun _ => Classical.byContradiction fun neither => ?_, fun _ => rfl⟩
            have idle := ended.idle.mpr ⟨state, fun stopped => neither (.inl stopped),
              fun error faulted => neither (.inr ⟨error, faulted⟩)⟩
            cases now.symm.trans idle
  stops saw := by
    rcases stage.burst_saw service leaves ready saw with
      faulted | ⟨paused, _⟩ | ⟨taken, among, answers⟩
    · exact .inr (.inl faulted)
    · exact .inr (.inr paused)
    · generalize (stage.burst os others rounds).result = result at answers ⊢
      cases answers with
      | stop => exact .inl rfl
      | call other => exact absurd among other
      | «break» other => exact absurd among other
  breaks saw := by
    rcases stage.burst_saw service leaves ready saw with faulted | paused | ⟨taken, among, answers⟩
    · exact .inr (.inr (.inl faulted))
    · exact .inr (.inr (.inr (.inr paused)))
    · have after := stage.burst_ready service leaves ready rounds
      rw [pending, after.line_eq]
      generalize (stage.burst os others rounds).result = result at answers ⊢
      cases answers with
      | stop => exact .inr (.inl rfl)
      | call _ _ _ again => exact .inr (.inr (.inr (.inl ⟨rfl, again.trans (if_pos among)⟩)))
      | «break» => exact .inl rfl

theorem Stage.pending_halt (ready : stage.Ready index line) (reason : HaltReason) :
    (stage.perform os others (.halt reason)).2.pending = stage.pending ||| reason.bit := by
  change (stage.machine.board.halts.request stage.core.line reason.bit).pending stage.core.line = _
  rw [HaltLines.pending_request, if_pos ⟨rfl, ready.line_eq ▸ ready.within⟩]
  rfl

theorem Stage.perform_ready (service : os.OnlyAsks index line) (leaves : others.LeavesLine line)
    (ready : stage.Ready index line) (call : CoreCall) :
    (stage.perform os others call).2.Ready index line := by
  cases call with
  | execute rounds => exact stage.burst_ready service leaves ready (rounds + 1)
  | halt reason =>
      refine ⟨ready.index_eq, ready.line_eq, ?_, fun idle => ?_⟩
      · exact (HaltLines.length_request ..).symm ▸ ready.within
      · rw [stage.pending_halt ready]
        exact (ready.known idle).or (.bit reason)

/-- What a log says of an event and of what follows is what a stage that is ready
    makes of some calls. -/
theorem Stage.performAll_suffix (service : os.OnlyAsks index line)
    (leaves : others.LeavesLine line) (ready : stage.Ready index line) {calls : List CoreCall}
    {event : CoreEvent κ β} {later : List (CoreEvent κ β)}
    (suffix : event :: later <:+ (stage.performAll os others calls).1) :
    ∃ (before : Stage κ β) (call : CoreCall) (rest : List CoreCall), before.Ready index line ∧
      event = (before.perform os others call).1 ∧
      later = ((before.perform os others call).2.performAll os others rest).1 := by
  induction calls generalizing stage with
  | nil => cases List.suffix_nil.mp suffix
  | cons call calls ih =>
      rcases List.suffix_cons_iff.mp suffix with whole | inside
      · cases whole
        exact ⟨stage, call, calls, ready, rfl, rfl⟩
      · exact ih (stage.perform_ready service leaves ready call) inside

theorem Stage.performAll_ran (service : os.OnlyAsks index line) (leaves : others.LeavesLine line)
    (ready : stage.Ready index line) {calls : List CoreCall} {burst : CoreBurst κ β}
    {later : List (CoreEvent κ β)}
    (suffix : .ran burst :: later <:+ (stage.performAll os others calls).1) :
    ∃ (before : Stage κ β) (rounds : Nat) (rest : List CoreCall), before.Ready index line ∧
      burst = before.burst os others (rounds + 1) ∧
      later = (burst.after.performAll os others rest).1 := by
  obtain ⟨before, call, rest, ready, event, log⟩ :=
    stage.performAll_suffix service leaves ready suffix
  cases call with
  | halt reason => cases event
  | execute rounds =>
      cases event
      exact ⟨before, rounds, rest, ready, rfl, log⟩

theorem Stage.performAll_of_stopped (stopped : stage.core.state = .stopped)
    (calls : List CoreCall) {next : CoreBurst κ β}
    (member : .ran next ∈ (stage.performAll os others calls).1) : next.Refused stage.core := by
  induction calls generalizing stage with
  | nil => cases member
  | cons call calls ih =>
      cases call with
      | halt reason =>
          rcases List.mem_cons.mp member with here | later
          · cases here
          · exact @ih (stage.perform os others (.halt reason)).2 stopped later
      | execute rounds =>
          have refused := stage.burst_of_stopped os others stopped (rounds + 1)
          rcases List.mem_cons.mp member with here | later
          · cases here
            exact refused
          · have same : (stage.burst os others (rounds + 1)).after.core = stage.core :=
              congrArg Stage.core refused.after
            rw [← same] at stopped ⊢
            exact ih stopped later

/-- The burst that finds a break pending at its start. -/
theorem Stage.performAll_breakDue (service : os.OnlyAsks index line)
    (leaves : others.LeavesLine line) (ready : stage.Ready index line)
    (idle : stage.core.state = .idle) (due : HaltReason.breakLoop.Among stage.pending)
    {asked : Bool} (fresh : HaltReason.supervisorCall.Among stage.pending → asked = true)
    (calls : List CoreCall) : BreakDue asked (stage.performAll os others calls).1 := by
  induction calls generalizing stage asked with
  | nil => trivial
  | cons call calls ih =>
      have ready' := stage.perform_ready service leaves ready call
      cases call with
      | halt reason =>
          have among (other : HaltReason) :
              other.Among (stage.perform os others (.halt reason)).2.pending ↔
                other.Among stage.pending ∨ other = reason := by
            rw [stage.pending_halt ready, (ready.known idle).among_or (.bit reason),
              HaltReason.among_bit]
          refine ih ready' idle ((among _).mpr (.inl due)) fun call => ?_
          rcases (among _).mp call with before | now
          · rw [fresh before, Bool.true_or]
          · rw [← now, beq_self_eq_true, Bool.or_true]
      | execute rounds =>
          obtain ⟨entered, context, taken, kept, origin, answers⟩ :=
            stage.burst_of_pending os leaves ready idle due.ne_zero rounds
          change BreakDue asked (.ran (stage.burst os others (rounds + 1)) ::
            ((stage.burst os others (rounds + 1)).after.performAll os others calls).1)
          change (stage.burst os others (rounds + 1)).after.Ready index line at ready'
          have before : (stage.burst os others (rounds + 1)).before = stage := rfl
          generalize stage.burst os others (rounds + 1) = burst at *
          refine ⟨entered, before ▸ context, ?_⟩
          generalize burst.result = result at answers ⊢
          cases answers with
          | stop => exact .inr (.inl rfl)
          | «break» => exact .inl rfl
          | call _ called idle again =>
              rw [if_pos (kept _ due), ← ready'.line_eq] at again
              refine .inr (.inr ⟨rfl, ?_, ih ready' idle ?_ fun call => ?_⟩)
              · rcases origin _ called with before | due | seen
                · exact .inl (fresh before)
                · cases due
                · exact .inr seen
              · exact (congrArg _ again).mpr ((HaltReason.among_bit ..).mpr rfl)
              · cases (HaltReason.among_bit ..).mp ((congrArg _ again).mp call)

/-- Whatever is done to a core, in which order and amid whatever others: its state
    is told by what its last burst reported, a stopped core stays so and does
    nothing, a stop wins at a block boundary, and a break is never lost. -/
theorem Stage.performAll_lifecycle (service : os.OnlyAsks stage.core.index stage.core.line)
    (leaves : others.LeavesLine stage.core.line)
    (within : stage.core.line < stage.machine.board.halts.bits.length)
    (known : HaltReason.Known stage.pending) (calls : List CoreCall) :
    Lifecycle os others (stage.performAll os others calls).1 := by
  have ready : stage.Ready stage.core.index stage.core.line := ⟨rfl, rfl, within, fun _ => known⟩
  refine ⟨fun burst member => ?_, fun burst later suffix stopped next member => ?_,
    fun asking later suffix idle => ?_, fun burst later suffix saw called => ?_⟩
  · obtain ⟨earlier, later, log⟩ := List.mem_iff_append.mp member
    obtain ⟨before, rounds, _, ready, rfl, _⟩ :=
      stage.performAll_ran service leaves ready ⟨earlier, log.symm⟩
    exact before.burst_meets service leaves ready (rounds + 1)
  · obtain ⟨_, _, rest, _, _, rfl⟩ := stage.performAll_ran service leaves ready suffix
    exact performAll_of_stopped stopped rest member
  · obtain ⟨before, call, rest, ready, event, rfl⟩ :=
      stage.performAll_suffix service leaves ready suffix
    cases call with
    | execute rounds => cases event
    | halt reason =>
        cases event
        have ready' := asking.perform_ready service leaves ready (.halt .breakLoop)
        refine performAll_breakDue service leaves ready' idle ?_ (fun _ => rfl) rest
        rw [asking.pending_halt ready, (ready.known idle).among_or (.bit .breakLoop)]
        exact .inr ((HaltReason.among_bit ..).mpr rfl)
  · obtain ⟨before, rounds, rest, ready, rfl, rfl⟩ :=
      stage.performAll_ran service leaves ready suffix
    have meets := before.burst_meets service leaves ready (rounds + 1)
    have ready' := before.burst_ready service leaves ready (rounds + 1)
    generalize before.burst os others (rounds + 1) = burst at *
    have idle : burst.after.core.state = .idle := by
      cases state : burst.after.core.state with
      | idle => rfl
      | stopped =>
          rcases meets.state.mp state with stopped | ⟨error, faulted⟩
          · cases called.symm.trans stopped
          · cases called.symm.trans faulted
    have left : burst.after.pending = HaltReason.breakLoop.bit := by
      rcases meets.breaks saw with broke | stopped | ⟨error, faulted⟩ | ⟨_, left⟩ | ⟨paused, _⟩
      · cases called.symm.trans broke
      · cases called.symm.trans stopped
      · cases called.symm.trans faulted
      · exact left
      · cases called.symm.trans paused
    refine performAll_breakDue service leaves ready' idle ?_ (fun call => ?_) rest
    · exact (congrArg _ left).mpr ((HaltReason.among_bit ..).mpr rfl)
    · cases (HaltReason.among_bit ..).mp ((congrArg _ left).mp call)

end

/-- A new core has a line of its own, with nothing on it. -/
theorem Core.create_pending {board board' : Board} {handle : Option MonitorHandle}
    {index : CoreIndex} {limit : Nat} {core : Core}
    (created : Core.create board handle index limit = .ok (core, board')) :
    core.line < board'.halts.bits.length ∧ board'.halts.pending core.line = 0 := by
  rw [create] at created
  split at created
  · cases created
  · cases created
    simp [HaltLines.pending]

/-- Others who count their moves, and ask for a break at every third. -/
def impatient : Others CallLog Nat where
  move p := (p.1, p.2 + 1)
  asks p := if p.2 % 3 = 0 then [.breakLoop] else []

/-- A core on its own, with no code. -/
def loneStage : Stage CallLog Nat where
  core := { index := 0, line := 0, monitor := none, maxBlockInstructions := 64 }
  machine := { board := { halts := { bits := [0] } }, os := { lines := [(0, 0)] } }
  others := 0

def loneCalls : List CoreCall :=
  [.halt .supervisorCall, .halt .breakLoop, .execute 3, .execute 3, .halt .stopped, .execute 3,
    .execute 3]

theorem lifecycle_amid_impatient :
    CallLog.operatingSystem.OnlyAsks 0 0 ∧ impatient.LeavesLine 0 ∧
      HaltReason.Known loneStage.pending ∧
      Lifecycle CallLog.operatingSystem impatient
        (loneStage.performAll CallLog.operatingSystem impatient loneCalls).1 :=
  have leaves : impatient.LeavesLine 0 := fun _ => ⟨id, rfl⟩
  have asks := CallLog.servesBoard.onlyAsks 0 0
  ⟨asks, leaves, .zero,
    loneStage.performAll_lifecycle asks leaves (by decide) .zero loneCalls⟩

/-- The break waits for the supervisor call, and the stopped core refuses. -/
example : (loneStage.performAll CallLog.operatingSystem impatient loneCalls).1.filterMap
    (fun event => match event with
      | .asked _ _ => none
      | .ran burst => some burst.result) =
    [.halted .supervisorCall, .halted .breakLoop, .halted .stopped, .faulted (.coreStopped 0)] := by
  decide +kernel

end GuestMachine
