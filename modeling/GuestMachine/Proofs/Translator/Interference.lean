import GuestMachine.Proofs.Translator.RunInvariants

/-! # Running amid others

A core is not alone with its surroundings: between two callbacks anyone else may
have changed them. Here the others have a move before each callback. They act on
what the core can reach and on whatever they remember themselves, which no hook
touches.
-/

namespace GuestMachine.A64

variable {σ β ε α : Type}

/-- A hook on what the core can reach, after a move of the others. -/
def amid (act : σ × β → σ × β) (hook : σ → α × σ) : σ × β → α × σ × β := fun p =>
  let (s, b) := act p
  let (a, s) := hook s
  (a, s, b)

def tryAmid (act : σ × β → σ × β) (hook : EStateM ε σ α) : EStateM ε (σ × β) α := fun p =>
  let (s, b) := act p
  match hook s with
  | .ok a s => .ok a (s, b)
  | .error e s => .error e (s, b)

def execAmid (act : σ × β → σ × β) (hook : Exec σ α) : Exec (σ × β) α := fun cpu =>
  let (s, b) := act cpu.env
  match hook { context := cpu.context, env := s } with
  | .ok a after => .ok a { context := after.context, env := (after.env, b) }
  | .error e after => .error e { context := after.context, env := (after.env, b) }

/-- The environment with a move of the others before every callback. -/
def Environment.amid (act : σ × β → σ × β) (env : Environment σ) : Environment (σ × β) where
  readCode addr := A64.amid act (env.readCode addr)
  read w addr := A64.amid act (env.read w addr)
  write w addr value := A64.amid act (env.write w addr value)
  exclusiveRead w pc addr := tryAmid act (env.exclusiveRead w pc addr)
  exclusiveWrite w pc addr value := tryAmid act (env.exclusiveWrite w pc addr value)
  clearExclusive := fun p =>
    let (s, b) := act p
    (env.clearExclusive s, b)
  callSupervisor number := execAmid act (env.callSupervisor number)
  raise pc event := tryAmid act (env.raise pc event)
  dataCache pc op addr := tryAmid act (env.dataCache pc op addr)
  instructionCache pc op addr := tryAmid act (env.instructionCache pc op addr)
  instructionBarrier pc := tryAmid act (env.instructionBarrier pc)
  fallback pc opcode := tryAmid act (env.fallback pc opcode)
  counter := A64.amid act env.counter
  takeInvalidations := A64.amid act env.takeInvalidations
  takeHalts := A64.amid act env.takeHalts

section

variable {act : σ × β → σ × β}

/-- The same surroundings, whatever others remember. -/
def Beside (p : σ × β) (s : σ) : Prop :=
  p.1 = s

theorem amid_beside (silent : ∀ p, (act p).1 = p.1) (f : σ → α × σ) (p : σ × β) (s : σ)
    (same : Beside p s) : AnswerAlike Beside (amid act f p) (f s) := by
  cases same
  rw [amid, ← silent p]
  exact ⟨rfl, rfl⟩

theorem tryAmid_beside (silent : ∀ p, (act p).1 = p.1) (f : EStateM ε σ α) :
    Alike Beside (tryAmid act f) f := by
  rintro p _ rfl
  rw [tryAmid, ← silent p]
  dsimp only
  cases f (act p).1 with
  | ok a s => exact ⟨rfl, rfl⟩
  | error e s => exact ⟨rfl, rfl⟩

theorem execAmid_beside (silent : ∀ p, (act p).1 = p.1) (f : Exec σ α) :
    Alike (CpuAlike Beside) (execAmid act f) f := by
  rintro ⟨context, p⟩ ⟨_, _⟩ ⟨rfl, rfl⟩
  rw [execAmid, ← silent p]
  dsimp only
  cases f ⟨context, (act p).1⟩ with
  | ok a after => exact ⟨rfl, rfl, rfl⟩
  | error e after => exact ⟨rfl, rfl, rfl⟩

/-- Others who leave alone what a core can reach make no difference to it. -/
theorem Environment.amid_agree (env : Environment σ) (silent : ∀ p, (act p).1 = p.1) :
    (env.amid act).Agree Beside env where
  readCode addr := amid_beside silent (env.readCode addr)
  read w addr := amid_beside silent (env.read w addr)
  write w addr value := amid_beside silent (env.write w addr value)
  exclusiveRead w pc addr := tryAmid_beside silent (env.exclusiveRead w pc addr)
  exclusiveWrite w pc addr value := tryAmid_beside silent (env.exclusiveWrite w pc addr value)
  clearExclusive := by
    rintro p _ rfl
    exact congrArg env.clearExclusive (silent p)
  callSupervisor number := execAmid_beside silent (env.callSupervisor number)
  raise pc event := tryAmid_beside silent (env.raise pc event)
  dataCache pc op addr := tryAmid_beside silent (env.dataCache pc op addr)
  instructionCache pc op addr := tryAmid_beside silent (env.instructionCache pc op addr)
  instructionBarrier pc := tryAmid_beside silent (env.instructionBarrier pc)
  fallback pc opcode := tryAmid_beside silent (env.fallback pc opcode)
  counter := amid_beside silent env.counter
  takeInvalidations := amid_beside silent env.takeInvalidations
  takeHalts := amid_beside silent env.takeHalts

end

variable {env : Environment σ} {act : σ × β → σ × β} {inv : σ × β → Prop}

theorem outcomeState_tryAmid (act : σ × β → σ × β) (hook : EStateM ε σ α) (p : σ × β) :
    outcomeState (tryAmid act hook p) = (outcomeState (hook (act p).1), (act p).2) := by
  rw [tryAmid]
  dsimp only
  cases hook (act p).1 <;> rfl

theorem outcomeState_execAmid (act : σ × β → σ × β) (hook : Exec σ α) (cpu : Cpu (σ × β)) :
    (outcomeState (execAmid act hook cpu)).env =
      ((outcomeState (hook { context := cpu.context, env := (act cpu.env).1 })).env,
        (act cpu.env).2) := by
  rw [execAmid]
  dsimp only
  cases hook { context := cpu.context, env := (act cpu.env).1 } <;> rfl

/-- What the others preserve, and all hooks whatever the others remember, is
    preserved by the hooks amid the others. -/
theorem Environment.PreservesUntilHalt.amid (acts : ∀ p, inv p → inv (act p))
    (keeps : ∀ b, env.PreservesUntilHalt fun s => inv (s, b)) :
    (env.amid act).PreservesUntilHalt inv where
  readCode addr p holds := (keeps _).readCode addr _ (acts p holds)
  read w addr p holds := (keeps _).read w addr _ (acts p holds)
  write w addr value p holds := (keeps _).write w addr value _ (acts p holds)
  exclusiveRead w pc addr p holds := by
    rw [Environment.amid, outcomeState_tryAmid]
    exact (keeps _).exclusiveRead w pc addr _ (acts p holds)
  exclusiveWrite w pc addr value p holds := by
    rw [Environment.amid, outcomeState_tryAmid]
    exact (keeps _).exclusiveWrite w pc addr value _ (acts p holds)
  clearExclusive p holds := (keeps _).clearExclusive _ (acts p holds)
  callSupervisor number cpu holds := by
    rw [Environment.amid, outcomeState_execAmid]
    exact (keeps _).callSupervisor number _ (acts _ holds)
  raise pc event p holds := by
    rw [Environment.amid, outcomeState_tryAmid]
    exact (keeps _).raise pc event _ (acts p holds)
  dataCache pc op addr p holds := by
    rw [Environment.amid, outcomeState_tryAmid]
    exact (keeps _).dataCache pc op addr _ (acts p holds)
  instructionCache pc op addr p holds := by
    rw [Environment.amid, outcomeState_tryAmid]
    exact (keeps _).instructionCache pc op addr _ (acts p holds)
  instructionBarrier pc p holds := by
    rw [Environment.amid, outcomeState_tryAmid]
    exact (keeps _).instructionBarrier pc _ (acts p holds)
  fallback pc opcode p holds := by
    rw [Environment.amid, outcomeState_tryAmid]
    exact (keeps _).fallback pc opcode _ (acts p holds)
  counter p holds := (keeps _).counter _ (acts p holds)
  takeInvalidations p holds := (keeps _).takeInvalidations _ (acts p holds)
  takeHalts p holds none := (keeps _).takeHalts _ (acts p holds) none

end GuestMachine.A64
