import GuestMachine.Proofs.Board.BurstsAmidOthers
import GuestMachine.Proofs.Board.CoreReservations
import GuestMachine.Proofs.Monitor.History
import GuestMachine.Proofs.Translator.Recording

/-! # Reservations and bursts

A burst begins without a reservation. Whatever others do meanwhile, a
store-exclusive can only succeed on a reservation that the core itself took in
the same burst, so none is handed on to a thread that runs on the core later.
-/

namespace GuestMachine

open A64

namespace A64

/-- Afterwards nothing is left of what the core had reserved before. -/
def Callback.EndsReservation : Callback → Prop
  | .exclusiveRead _ _ _ value => value.isSome
  | .exclusiveWrite _ _ _ _ committed => committed.isSome
  | .clearExclusive => True
  | _ => False

/-- The core's last exclusive operation was a load-exclusive of these bytes. -/
def Reserves (log : List Callback) (w : Width) (addr : Address) : Prop :=
  ∃ before pc value after, log = before ++ .exclusiveRead w pc addr (some value) :: after ∧
    ∀ entry ∈ after, ¬ entry.EndsReservation

/-- Each store-exclusive on record that reported success has on record, before it,
    the load-exclusive it pairs with. -/
def Paired (log : List Callback) : Prop :=
  ∀ earlier w pc addr value committed later,
    log = earlier ++ .exclusiveWrite w pc addr value (some committed) :: later →
      exclusiveStatus committed = 0 → Reserves earlier w addr

theorem exclusiveStatus_eq_zero_iff {committed : Bool} :
    exclusiveStatus committed = 0 ↔ committed := by
  cases committed <;> decide

theorem reserves_of_read (log : List Callback) (w : Width) (pc addr : Address)
    (value : BitVec w.bits) :
    Reserves (log ++ [.exclusiveRead w pc addr (some value)]) w addr :=
  ⟨log, pc, value, [], rfl, nofun⟩

theorem Reserves.append {log : List Callback} {w : Width} {addr : Address} {entry : Callback}
    (reserves : Reserves log w addr) (other : ¬ entry.EndsReservation) :
    Reserves (log ++ [entry]) w addr := by
  obtain ⟨before, pc, value, after, rfl, quiet⟩ := reserves
  refine ⟨before, pc, value, after ++ [entry], by simp, fun next member => ?_⟩
  rcases List.mem_append.mp member with earlier | last
  · exact quiet next earlier
  · exact List.mem_singleton.mp last ▸ other

theorem paired_nil : Paired [] := by
  intro earlier w pc addr value committed later whole
  simp at whole

theorem Paired.append {log : List Callback} {entry : Callback} (paired : Paired log)
    (last : ∀ w pc addr value, entry = .exclusiveWrite w pc addr value (some true) →
      Reserves log w addr) :
    Paired (log ++ [entry]) := by
  intro earlier w pc addr value committed later whole success
  rcases append_singleton_eq_iff.mp whole with ⟨rfl, same, _⟩ | ⟨between, same, _⟩
  · rw [exclusiveStatus_eq_zero_iff.mp success] at same
    exact last w pc addr value same
  · exact paired earlier w pc addr value committed between same success

/-- Once it is done, the store-exclusive at `pc` is on record with what it reports in
    register `rs`. -/
def ReportsStatus {σ : Type} (pc : Address) (w : Width) (rs rn : RegNum)
    (action : Exec (Recorded σ) Flow) : Prop :=
  ∀ cpu flow after, action cpu = .ok flow after → ∃ value committed,
    after.env.2 = cpu.env.2 ++
        [.exclusiveWrite w pc (cpu.context.registers.xsp rn) value (some committed)] ∧
      after.context.registers = cpu.context.registers.setXzr rs (exclusiveStatus committed)

section

variable {σ : Type} (env : Environment σ) (cntfrq : UInt64) (pc : Address) (rs rt rt2 rn : RegNum)

theorem status_reported {entry : Option Bool → Callback} {hook : EStateM CpuError σ Bool}
    {cpu after : Cpu (Recorded σ)} {flow : Flow}
    (done : (do
      let committed ← Exec.tryHook (tryNote entry hook)
      Exec.modifyRegisters (·.setXzr rs (exclusiveStatus committed))
      pure Flow.next : Exec (Recorded σ) Flow) cpu = .ok flow after) :
    ∃ committed, after.env.2 = cpu.env.2 ++ [entry (some committed)] ∧
      after.context.registers = cpu.context.registers.setXzr rs (exclusiveStatus committed) := by
  change EStateM.bind (Exec.tryHook (tryNote entry hook)) _ cpu = .ok flow after at done
  rw [EStateM.bind.eq_1, Exec.tryHook, tryNote] at done
  cases written : hook cpu.env.1 with
  | ok committed s =>
      rw [written] at done
      cases done
      exact ⟨committed, rfl, rfl⟩
  | error e s =>
      rw [written] at done
      cases done

theorem storeExclusive_reportsStatus (w : Width) :
    ReportsStatus pc w rs rn
      (execute env.recording cntfrq pc (.storeExclusive w rs rt rn)) := by
  intro cpu flow after done
  exact ⟨_, status_reported rs done⟩

theorem storeExclusivePair_reportsStatus (w : Width) :
    ReportsStatus pc (if w = .word then .double else .quad) rs rn
      (execute env.recording cntfrq pc (.storeExclusivePair w rs rt rt2 rn)) := by
  intro cpu flow after done
  simp only [execute, storeExclusivePair, bind_assoc] at done
  cases w <;> exact ⟨_, status_reported rs done⟩

end

end A64

theorem outcomeState_noteExec {σ α : Type} (entry : Callback) (hook : Exec σ α)
    (cpu : Cpu (Recorded σ)) :
    (outcomeState (noteExec entry hook cpu)).env =
      ((outcomeState (hook { context := cpu.context, env := cpu.env.1 })).env,
        cpu.env.2 ++ [entry]) := by
  rw [noteExec]
  cases hook { context := cpu.context, env := cpu.env.1 } <;> rfl

namespace Core

variable {κ β : Type} {core : Core} {os : OperatingSystem κ}
  {act : Machine κ × β → Machine κ × β} {machine after : Machine κ} {b b' : β}
  {log : List Callback} {p : Recorded (Machine κ × β)}

/-- The core holds a reservation only for its last load-exclusive on record. -/
structure Tracks (core : Core) (p : Recorded (Machine κ × β)) : Prop where
  counted : p.1.1.board.Counted
  held : ∀ r, p.1.1.board.reservation? core.index core.monitor = some r →
    ∃ w : Width, r.size = w.size ∧ Reserves p.2 w r.addr
  paired : Paired p.2

/-- From one board to the other, the core was given no reservation. -/
abbrev ReservesNothing (core : Core) (before after : Board) : Prop :=
  Board.ReservesNothing core.index core.monitor before after

namespace Tracks

/-- With nothing reserved there is nothing to account for. -/
theorem of_none (counted : machine.board.Counted)
    (none : machine.board.reservation? core.index core.monitor = none) (paired : Paired log) :
    core.Tracks ((machine, b), log) :=
  ⟨counted, fun _ held => (nomatch none.symm.trans held), paired⟩

theorem unreserved (tracks : core.Tracks ((machine, b), log))
    (step : core.ReservesNothing machine.board after.board) : core.Tracks ((after, b'), log) :=
  ⟨step.counted tracks.counted,
    fun r held => tracks.held r (step.reservation tracks.counted r held), tracks.paired⟩

/-- One more entry that is not about reservations. -/
theorem note (tracks : core.Tracks p) {entry : Callback} (other : ¬ entry.EndsReservation) :
    core.Tracks (p.1, p.2 ++ [entry]) := by
  refine ⟨tracks.counted, fun r held => ?_, tracks.paired.append ?_⟩
  · obtain ⟨w, size, reserves⟩ := tracks.held r held
    exact ⟨w, size, reserves.append other⟩
  · rintro w pc addr value rfl
    exact absurd rfl other

variable (tracks : core.Tracks ((machine, b), log)) (w : Width) (pc addr : Address)

include tracks

theorem read :
    let (value, board) := machine.board.coreExclusiveRead core.index core.monitor w addr
    core.Tracks (({ machine with board }, b), log ++ [.exclusiveRead w pc addr (some value)]) := by
  refine ⟨Board.counted_coreExclusiveRead tracks.counted core.index core.monitor w addr,
    fun r held => ?_, tracks.paired.append nofun⟩
  obtain ⟨rfl, size⟩ := Board.reservation?_coreExclusiveRead held
  exact ⟨w, size, reserves_of_read ..⟩

theorem written (value : BitVec w.bits) :
    let (committed, board) :=
      machine.board.coreExclusiveWrite core.index core.monitor w addr value
    core.Tracks
      (({ machine with board }, b), log ++ [.exclusiveWrite w pc addr value (some committed)]) := by
  refine .of_none ?_ (machine.board.reservation?_coreExclusiveWrite w addr value)
    (tracks.paired.append ?_)
  · have written : core.ReservesNothing machine.board
        (machine.board.coreExclusiveWrite core.index core.monitor w addr value).2 :=
      Board.coreExclusiveWrite_reservesNothing ..
    exact written.counted tracks.counted
  · rintro w' pc' addr' value' same
    injection same with width _ address _ committed
    injection committed with committed
    subst width address
    obtain ⟨observed, held⟩ := Board.reservation?_of_committed committed
    obtain ⟨w', size, reserves⟩ := tracks.held _ held
    exact Width.size_inj.mp size ▸ reserves

end Tracks

theorem tracks_clearExclusive (counted : machine.board.Counted) (paired : Paired log) :
    core.Tracks
      ((machine.mapBoard (·.clearExclusive core.index core.monitor), b), log) := by
  have cleared : core.ReservesNothing machine.board
      (machine.board.clearExclusive core.index core.monitor) :=
    Board.clearExclusive_reservesNothing ..
  exact .of_none (cleared.counted counted) (Board.reservation?_clearExclusive counted) paired

theorem callSupervisor_reservesNothing (core : Core) (service : os.ReservesNothing)
    (number : UInt32) :
    Exec.Steps (fun before after => ∀ index handle,
        Board.ReservesNothing index handle before.board after.board)
      ((core.environment os).callSupervisor number) :=
  callSupervisor_steps
    (fun _ _ _ first next index handle => (first index handle).trans (next index handle))
    (fun _ _ _ => .of_same rfl rfl) (service core.index number)

section

variable {α : Type} (acts : ∀ p : Machine κ × β, core.ReservesNothing p.1.board (act p).1.board)

include acts

theorem tracks_act (tracks : core.Tracks p) : core.Tracks (act p.1, p.2) :=
  tracks.unreserved (acts p.1)

theorem tracks_note {entry : α → Callback} {hook : Machine κ → α × Machine κ}
    (other : ∀ a, ¬ (entry a).EndsReservation)
    (step : ∀ machine, core.ReservesNothing machine.board (hook machine).2.board)
    (tracks : core.Tracks p) : core.Tracks (A64.note entry (amid act hook) p).2 :=
  ((tracks_act acts tracks).unreserved (step _)).note (other _)

theorem tracks_tryNote {entry : Option α → Callback}
    {hook : EStateM CpuError (Machine κ) α}
    (ok : ∀ machine (b : β) log a after, hook machine = .ok a after →
      core.Tracks ((machine, b), log) → core.Tracks ((after, b), log ++ [entry (some a)]))
    (error : ∀ machine (b : β) log e after, hook machine = .error e after →
      core.Tracks ((machine, b), log) → core.Tracks ((after, b), log ++ [entry none]))
    (tracks : core.Tracks p) :
    core.Tracks (outcomeState (A64.tryNote entry (tryAmid act hook) p)) := by
  have moved := tracks_act acts tracks
  rw [A64.tryNote, tryAmid]
  dsimp only
  cases ended : hook (act p.1).1 with
  | ok a after => exact ok _ _ _ a after ended moved
  | error e after => exact error _ _ _ e after ended moved

theorem tracks_tryNote_other (entry : Option α → Callback)
    {hook : EStateM CpuError (Machine κ) α} (other : ∀ a, ¬ (entry a).EndsReservation)
    (step : ∀ machine, core.ReservesNothing machine.board (outcomeState (hook machine)).board)
    (tracks : core.Tracks p) :
    core.Tracks (outcomeState (A64.tryNote entry (tryAmid act hook) p)) := by
  refine tracks_tryNote acts ?_ ?_ tracks
  · intro machine b log a after ended tracks
    have step := step machine
    rw [ended] at step
    exact (tracks.unreserved step).note (other _)
  · intro machine b log e after ended tracks
    have step := step machine
    rw [ended] at step
    exact (tracks.unreserved step).note (other _)

theorem tracks_succeed {entry : Option α → Callback} {f : Board → α × Board}
    (step : ∀ (machine : Machine κ) (b : β) log, core.Tracks ((machine, b), log) →
      let (a, board) := f machine.board
      core.Tracks (({ machine with board }, b), log ++ [entry (some a)]))
    (tracks : core.Tracks p) :
    core.Tracks (outcomeState (A64.tryNote entry (tryAmid act (succeed f)) p)) := by
  refine tracks_tryNote acts (fun machine b log a after ended tracks => ?_)
    (fun _ _ _ _ _ ended => ?_) tracks
  · cases ended
    exact step machine b log tracks
  · cases ended

theorem tracks_throw (entry : Option α → Callback) (other : ¬ (entry none).EndsReservation)
    (error : CpuError) (tracks : core.Tracks p) :
    core.Tracks (outcomeState (A64.tryNote entry
      (tryAmid act (throw error : EStateM CpuError (Machine κ) α)) p)) := by
  refine tracks_tryNote acts (fun _ _ _ _ _ ended => ?_) ?_ tracks
  · cases ended
  · intro machine b log e after ended tracks
    cases ended
    exact tracks.note other

theorem tracks_takeHalts (os : OperatingSystem κ) (tracks : core.Tracks p) :
    core.Tracks (((core.environment os).amid act).recording.takeHalts p).2 :=
  tracks_note acts (fun _ => id) (fun _ => .of_same rfl rfl) tracks

end

/-- The callbacks of a core keep track of its reservation, whatever others do that
    gives it none. -/
theorem environment_tracks
    (acts : ∀ p : Machine κ × β, core.ReservesNothing p.1.board (act p).1.board)
    (service : os.ReservesNothing) :
    ((core.environment os).amid act).recording.PreservesUntilHalt core.Tracks where
  readCode addr p tracks := tracks_act acts tracks
  read w addr p tracks := tracks_note acts (fun _ => id) (fun _ => .refl ..) tracks
  write w addr value p tracks :=
    tracks_note acts (fun _ => id) (fun _ => Board.coreStore_reservesNothing ..) tracks
  exclusiveRead w pc addr p tracks := by
    by_cases wide : w = .quad
    · simp only [Environment.recording, Environment.amid, environment, wide, if_true]
      subst wide
      exact tracks_throw acts (.exclusiveRead .quad pc addr) Bool.false_ne_true _ tracks
    · simp only [Environment.recording, Environment.amid, environment, wide, if_false]
      exact tracks_succeed acts (fun _ _ _ tracks => tracks.read w pc addr) tracks
  exclusiveWrite w pc addr value p tracks := by
    by_cases wide : w = .quad
    · simp only [Environment.recording, Environment.amid, environment, wide, if_true]
      subst wide
      exact tracks_throw acts (.exclusiveWrite .quad pc addr value) Bool.false_ne_true _ tracks
    · simp only [Environment.recording, Environment.amid, environment, wide, if_false]
      exact tracks_succeed acts (fun _ _ _ tracks => tracks.written w pc addr value) tracks
  clearExclusive p tracks :=
    have moved := tracks_act acts tracks
    tracks_clearExclusive moved.counted (moved.paired.append fun _ _ _ _ same => by cases same)
  raise pc event p tracks := by
    refine tracks_tryNote_other acts (fun _ => .raise pc event) (fun _ => id) (fun machine => ?_)
      tracks
    change core.ReservesNothing machine.board
      (outcomeState (core.raiseEvent pc event machine)).board
    cases event <;> exact .of_same rfl rfl
  dataCache pc op addr p tracks := tracks_throw acts (fun _ => .dataCache pc op addr) id _ tracks
  instructionCache pc op addr p tracks :=
    tracks_throw acts (fun _ => .instructionCache pc op addr) id _ tracks
  instructionBarrier pc p tracks := tracks_throw acts (fun _ => .instructionBarrier pc) id _ tracks
  fallback pc opcode p tracks := tracks_throw acts (fun _ => .fallback pc opcode) id _ tracks
  counter p tracks := tracks_note acts (fun _ => id) (fun _ => .refl ..) tracks
  callSupervisor number cpu tracks := by
    have moved := tracks_act acts tracks
    have called := core.callSupervisor_reservesNothing service number
      { context := cpu.context, env := (act cpu.env.1).1 }
    change core.Tracks (outcomeState (noteExec (.callSupervisor number)
      (execAmid act ((core.environment os).callSupervisor number)) cpu)).env
    rw [outcomeState_noteExec, outcomeState_execAmid]
    exact (moved.unreserved (called core.index core.monitor)).note id
  takeInvalidations p tracks := by
    refine tracks_note acts (fun _ => id) (fun machine => ?_) tracks
    exact (machine.board.atBlockBoundary_reservesNothing core.line).trans (.of_same rfl rfl)
  takeHalts p tracks _ := tracks_takeHalts acts os tracks

/-- The callbacks of a burst, code fetches apart. -/
def callbacksAmid (os : OperatingSystem κ) (act : Machine κ × β → Machine κ × β) (rounds : Nat)
    (core : Core) (p : Machine κ × β) : List Callback :=
  if core.state = .stopped then []
  else
    callbacks ((core.environment os).amid act) core.translatorConfig rounds (core.enterAmid act p)

section

variable {q : Machine κ × β}
  (acts : ∀ p : Machine κ × β, core.ReservesNothing p.1.board (act p).1.board)

include acts

theorem enterAmid_tracks (counted : q.1.board.Counted) :
    core.Tracks ((core.enterAmid act q).cpu.env, []) := by
  have entered : core.Tracks
      (((act q).1.mapBoard (·.clearExclusive core.index core.monitor), (act q).2), []) :=
    tracks_clearExclusive ((acts q).counted counted) paired_nil
  exact (tracks_act acts entered).unreserved (.of_same rfl rfl)

theorem run_tracks (service : os.ReservesNothing) (rounds : Nat) (counted : q.1.board.Counted) :
    core.Tracks (Translator.run ((core.environment os).amid act).recording core.translatorConfig
      rounds (core.enterAmid act q).recorded).2.cpu.env := by
  have entered : core.Tracks (core.enterAmid act q).recorded.cpu.env :=
    enterAmid_tracks acts counted
  have ended := Translator.run_endsWithin (environment_tracks acts service) core.translatorConfig
    rounds entered
  generalize Translator.run _ _ _ _ = ran at ended ⊢
  obtain ⟨result, session⟩ := ran
  cases result with
  | halted bits =>
      obtain ⟨before, tracks, taken⟩ := ended
      have kept := tracks_takeHalts acts os tracks
      rw [taken] at kept
      exact kept
  | faulted error => exact ended
  | outOfRounds => exact ended

end

/-- Whatever others do meanwhile that gives the core no reservation, the
    store-exclusives of a burst pair with load-exclusives of the same burst. -/
theorem callbacksAmid_paired
    (acts : ∀ p : Machine κ × β, core.ReservesNothing p.1.board (act p).1.board)
    (service : os.ReservesNothing) (rounds : Nat) {q : Machine κ × β}
    (counted : q.1.board.Counted) :
    Paired (core.callbacksAmid os act rounds q) := by
  rw [callbacksAmid]
  split
  · exact paired_nil
  · exact (run_tracks acts service rounds counted).paired

/-- To another core a burst is only one more move that reserves nothing for it. -/
theorem executeAmid_board {kept : Board → Prop} {index : CoreIndex} {handle : Option MonitorHandle}
    (other : core.index ≠ index)
    (steps : ∀ before after, Board.ReservesNothing index handle before after → kept before →
      kept after)
    (acts : ∀ p : Machine κ × β, kept p.1.board → kept (act p).1.board)
    (service : os.ReservesNothing) (rounds : Nat) {q : Machine κ × β} (holds : kept q.1.board) :
    kept (core.executeAmid os act rounds q).2.2.1.board := by
  obtain ⟨before, holds, ended⟩ := executeAmid_keeps (fun p => kept p.1.board) acts
    (fun _ _ _ does => steps _ _ (does.reservesNothing other))
    (fun _ number cpu =>
      steps _ _ (core.callSupervisor_reservesNothing service number cpu index handle))
    rounds holds
  exact steps _ _ (.of_same (congrArg _ ended.manager) (congrArg _ ended.manager)) holds

theorem execute_reservesNothing {index : CoreIndex} {handle : Option MonitorHandle}
    (other : core.index ≠ index) (service : os.ReservesNothing) (rounds : Nat)
    (machine : Machine κ) :
    Board.ReservesNothing index handle machine.board
      (core.execute os rounds machine).2.2.board := by
  rw [execute_eq_executeAmid id (fun _ => rfl) rounds core (machine, ())]
  exact executeAmid_board other (fun _ _ step start => start.trans step) (fun _ start => start)
    service rounds (.refl ..)

theorem executeAmid_counted
    (acts : ∀ p : Machine κ × β, p.1.board.Counted → (act p).1.board.Counted)
    (service : os.ReservesNothing) (rounds : Nat) {q : Machine κ × β}
    (counted : q.1.board.Counted) :
    (core.executeAmid os act rounds q).2.2.1.board.Counted := by
  -- Every core is another one to the next, and the count is the same for all.
  have other : core.index ≠ core.index + 1 := Nat.ne_of_lt (Nat.lt_succ_self _)
  have steps (before after : Board)
      (step : Board.ReservesNothing (core.index + 1) core.monitor before after) :
      before.Counted → after.Counted := step.counted
  exact executeAmid_board other steps acts service rounds counted

end Core

end GuestMachine
