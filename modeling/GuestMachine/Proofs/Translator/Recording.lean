import GuestMachine.Proofs.Translator.Agreement

/-! # Recorded callbacks

An environment that notes every callback made to it, code fetches apart. It
agrees with the environment it wraps, so recording changes nothing else.
-/

namespace GuestMachine.A64

/-- A use of the environment, with its arguments and, for an access to memory,
    its answer. An exclusive access that fails answers nothing. -/
inductive Callback where
  | read (w : Width) (addr : Address) (value : BitVec w.bits)
  | write (w : Width) (addr : Address) (value : BitVec w.bits) (stored : Bool)
  | exclusiveRead (w : Width) (pc addr : Address) (value : Option (BitVec w.bits))
  | exclusiveWrite (w : Width) (pc addr : Address) (value : BitVec w.bits)
      (committed : Option Bool)
  | clearExclusive
  | callSupervisor (number : UInt32)
  | raise (pc : Address) (event : Exception)
  | dataCache (pc : Address) (op : DataCacheOp) (addr : Address)
  | instructionCache (pc : Address) (op : InstructionCacheOp) (addr : Address)
  | instructionBarrier (pc : Address)
  | fallback (pc : Address) (opcode : UInt32)
  | counter
  | takeInvalidations
  | takeHalts
  deriving Repr, DecidableEq

abbrev Recorded (σ : Type) := σ × List Callback

/-- Note a hook that cannot fail. -/
def note (entry : α → Callback) (hook : σ → α × σ) : Recorded σ → α × Recorded σ :=
  fun (s, log) =>
    let (a, s) := hook s
    (a, s, log ++ [entry a])

def tryNote (entry : Option α → Callback) (hook : EStateM ε σ α) : EStateM ε (Recorded σ) α :=
  fun (s, log) =>
    match hook s with
    | .ok a s => .ok a (s, log ++ [entry (some a)])
    | .error e s => .error e (s, log ++ [entry none])

def noteExec (entry : Callback) (hook : Exec σ α) : Exec (Recorded σ) α :=
  fun cpu =>
    match hook { context := cpu.context, env := cpu.env.1 } with
    | .ok a after => .ok a { context := after.context, env := (after.env, cpu.env.2 ++ [entry]) }
    | .error e after =>
        .error e { context := after.context, env := (after.env, cpu.env.2 ++ [entry]) }

def Environment.recording (env : Environment σ) : Environment (Recorded σ) where
  readCode addr := fun (s, log) =>
    let (word, s) := env.readCode addr s
    (word, s, log)
  read w addr := note (.read w addr) (env.read w addr)
  write w addr value := note (.write w addr value) (env.write w addr value)
  exclusiveRead w pc addr := tryNote (.exclusiveRead w pc addr) (env.exclusiveRead w pc addr)
  exclusiveWrite w pc addr value :=
    tryNote (.exclusiveWrite w pc addr value) (env.exclusiveWrite w pc addr value)
  clearExclusive := fun (s, log) => (env.clearExclusive s, log ++ [.clearExclusive])
  callSupervisor number := noteExec (.callSupervisor number) (env.callSupervisor number)
  raise pc event := tryNote (fun _ => .raise pc event) (env.raise pc event)
  dataCache pc op addr := tryNote (fun _ => .dataCache pc op addr) (env.dataCache pc op addr)
  instructionCache pc op addr :=
    tryNote (fun _ => .instructionCache pc op addr) (env.instructionCache pc op addr)
  instructionBarrier pc := tryNote (fun _ => .instructionBarrier pc) (env.instructionBarrier pc)
  fallback pc opcode := tryNote (fun _ => .fallback pc opcode) (env.fallback pc opcode)
  counter := note (fun _ => .counter) env.counter
  takeInvalidations := note (fun _ => .takeInvalidations) env.takeInvalidations
  takeHalts := note (fun _ => .takeHalts) env.takeHalts

def RecordedAlike (related : σ → τ → Prop) (left : Recorded σ) (right : Recorded τ) : Prop :=
  related left.1 right.1 ∧ left.2 = right.2

section

variable {related : σ → τ → Prop}

theorem note_alike (entry : α → Callback) {f : σ → α × σ} {g : τ → α × τ}
    (alike : ∀ s t, related s t → AnswerAlike related (f s) (g t)) (p : Recorded σ)
    (q : Recorded τ) (same : RecordedAlike related p q) :
    AnswerAlike (RecordedAlike related) (note entry f p) (note entry g q) := by
  obtain ⟨states, logs⟩ := same
  obtain ⟨answer, after⟩ := alike p.1 q.1 states
  refine ⟨answer, after, ?_⟩
  change p.2 ++ [entry (f p.1).1] = q.2 ++ [entry (g q.1).1]
  rw [logs, answer]

theorem tryNote_alike (entry : Option α → Callback) {f : EStateM ε σ α} {g : EStateM ε τ α}
    (alike : Alike related f g) :
    Alike (RecordedAlike related) (tryNote entry f) (tryNote entry g) := by
  rintro ⟨s, log⟩ ⟨t, _⟩ ⟨states, rfl⟩
  rw [tryNote, tryNote]
  rcases (alike s t states).cases with ⟨a, s', t', hs, ht, after⟩ | ⟨e, s', t', hs, ht, after⟩
  · simp only [hs, ht]
    exact ⟨rfl, after, rfl⟩
  · simp only [hs, ht]
    exact ⟨rfl, after, rfl⟩

theorem noteExec_alike (entry : Callback) {f : Exec σ α} {g : Exec τ α}
    (alike : Alike (CpuAlike related) f g) :
    Alike (CpuAlike (RecordedAlike related)) (noteExec entry f) (noteExec entry g) := by
  rintro ⟨context, s, log⟩ ⟨_, t, _⟩ ⟨rfl, states, rfl⟩
  rw [noteExec, noteExec]
  rcases (alike ⟨context, s⟩ ⟨context, t⟩ ⟨rfl, states⟩).cases with
    ⟨a, c, d, hc, hd, same, after⟩ | ⟨e, c, d, hc, hd, same, after⟩
  · simp only [hc, hd]
    exact ⟨rfl, same, after, rfl⟩
  · simp only [hc, hd]
    exact ⟨rfl, same, after, rfl⟩

/-- Environments that agree are called in the same way. -/
theorem Environment.Agree.recording {left : Environment σ} {right : Environment τ}
    (agree : left.Agree related right) :
    left.recording.Agree (RecordedAlike related) right.recording where
  readCode addr := by
    rintro ⟨s, log⟩ ⟨t, _⟩ ⟨states, rfl⟩
    obtain ⟨answer, after⟩ := agree.readCode addr s t states
    exact ⟨answer, after, rfl⟩
  read w addr := note_alike _ (agree.read w addr)
  write w addr value := note_alike _ (agree.write w addr value)
  exclusiveRead w pc addr := tryNote_alike _ (agree.exclusiveRead w pc addr)
  exclusiveWrite w pc addr value := tryNote_alike _ (agree.exclusiveWrite w pc addr value)
  clearExclusive := by
    rintro ⟨s, log⟩ ⟨t, _⟩ ⟨states, rfl⟩
    exact ⟨agree.clearExclusive s t states, rfl⟩
  callSupervisor number := noteExec_alike _ (agree.callSupervisor number)
  raise pc event := tryNote_alike (fun _ => .raise pc event) (agree.raise pc event)
  dataCache pc op addr :=
    tryNote_alike (fun _ => .dataCache pc op addr) (agree.dataCache pc op addr)
  instructionCache pc op addr :=
    tryNote_alike (fun _ => .instructionCache pc op addr) (agree.instructionCache pc op addr)
  instructionBarrier pc :=
    tryNote_alike (fun _ => .instructionBarrier pc) (agree.instructionBarrier pc)
  fallback pc opcode := tryNote_alike (fun _ => .fallback pc opcode) (agree.fallback pc opcode)
  counter := note_alike (fun _ => .counter) agree.counter
  takeInvalidations := note_alike (fun _ => .takeInvalidations) agree.takeInvalidations
  takeHalts := note_alike (fun _ => .takeHalts) agree.takeHalts

end

/-- A recorded state and the same state without the record. -/
def Unrecorded (p : Recorded σ) (s : σ) : Prop :=
  p.1 = s

theorem note_unrecorded (entry : α → Callback) (f : σ → α × σ) (p : Recorded σ) (s : σ)
    (same : Unrecorded p s) : AnswerAlike Unrecorded (note entry f p) (f s) := by
  cases same
  exact ⟨rfl, rfl⟩

theorem tryNote_unrecorded (entry : Option α → Callback) (f : EStateM ε σ α) :
    Alike Unrecorded (tryNote entry f) f := by
  rintro ⟨s, log⟩ _ rfl
  rw [tryNote]
  cases f s with
  | ok a s' => exact ⟨rfl, rfl⟩
  | error e s' => exact ⟨rfl, rfl⟩

theorem noteExec_unrecorded (entry : Callback) (f : Exec σ α) :
    Alike (CpuAlike Unrecorded) (noteExec entry f) f := by
  rintro ⟨context, s, log⟩ ⟨_, _⟩ ⟨rfl, rfl⟩
  rw [noteExec]
  cases f ⟨context, s⟩ with
  | ok a after => exact ⟨rfl, rfl, rfl⟩
  | error e after => exact ⟨rfl, rfl, rfl⟩

theorem recording_agree (env : Environment σ) : env.recording.Agree Unrecorded env where
  readCode addr := by
    rintro ⟨s, log⟩ _ rfl
    exact ⟨rfl, rfl⟩
  read w addr := note_unrecorded _ (env.read w addr)
  write w addr value := note_unrecorded _ (env.write w addr value)
  exclusiveRead w pc addr := tryNote_unrecorded _ (env.exclusiveRead w pc addr)
  exclusiveWrite w pc addr value := tryNote_unrecorded _ (env.exclusiveWrite w pc addr value)
  clearExclusive := by
    rintro ⟨s, log⟩ _ rfl
    rfl
  callSupervisor number := noteExec_unrecorded _ (env.callSupervisor number)
  raise pc event := tryNote_unrecorded (fun _ => .raise pc event) (env.raise pc event)
  dataCache pc op addr :=
    tryNote_unrecorded (fun _ => .dataCache pc op addr) (env.dataCache pc op addr)
  instructionCache pc op addr :=
    tryNote_unrecorded (fun _ => .instructionCache pc op addr) (env.instructionCache pc op addr)
  instructionBarrier pc :=
    tryNote_unrecorded (fun _ => .instructionBarrier pc) (env.instructionBarrier pc)
  fallback pc opcode := tryNote_unrecorded (fun _ => .fallback pc opcode) (env.fallback pc opcode)
  counter := note_unrecorded (fun _ => .counter) env.counter
  takeInvalidations := note_unrecorded (fun _ => .takeInvalidations) env.takeInvalidations
  takeHalts := note_unrecorded (fun _ => .takeHalts) env.takeHalts

end GuestMachine.A64

namespace GuestMachine

open A64 Translator

def Session.recorded (session : Session σ) : Session (Recorded σ) where
  cpu := { context := session.cpu.context, env := (session.cpu.env, []) }
  cache := session.cache

/-- The callbacks of a run, code fetches apart. -/
def callbacks (env : Environment σ) (config : TranslatorConfig) (rounds : Nat)
    (session : Session σ) : List Callback :=
  (run env.recording config rounds session.recorded).2.cpu.env.2

theorem run_recording (env : Environment σ) (config : TranslatorConfig) (rounds : Nat)
    (session : Session σ) :
    AnswerAlike (SessionAlike Unrecorded Eq) (run env.recording config rounds session.recorded)
      (run env config rounds session) :=
  run_alike (recording_agree env) config rounds ⟨⟨rfl, rfl⟩, rfl⟩

end GuestMachine
