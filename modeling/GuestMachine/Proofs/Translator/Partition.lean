import GuestMachine.Proofs.Translator.Coherence
import GuestMachine.Proofs.Translator.PlainLoop
import GuestMachine.Proofs.Translator.Recording
import GuestMachine.Proofs.Translator.WithinBlocks

/-! # Cutting code into blocks makes no difference

One round of the translator is one or more steps of the plain loop, as long as
the code stays as it is and halts are requested only where a block ends. So a
run ends like the plain loop, however long its blocks may be.
-/

namespace GuestMachine

open A64 Translator

namespace A64

/-- The environment with nothing ever queued for its block boundaries. -/
def Environment.withoutDrains (env : Environment σ) : Environment σ :=
  { env with takeInvalidations := fun s => ([], s) }

end A64

/-- States that no hook tells apart, the drain of invalidations excepted. It
    leads to a state like the one before, and so does fetching a word or finding
    no halt requested. -/
structure BoundaryOblivious (env : Environment σ) (alike : σ → σ → Prop)
    (fetchable : Address → Prop) : Prop where
  quiet : FetchOblivious env.withoutDrains alike fetchable
  drain : ∀ s, alike s s → alike s (env.takeInvalidations s).2
  poll : ∀ s, alike s s → (env.takeHalts s).1 = 0 → alike s (env.takeHalts s).2

/-- Halts are requested only where a block ends: the hooks of an instruction
    after which its block goes on request none. -/
abbrev HaltsAtBlockEnds (env : Environment σ) (alike : σ → σ → Prop) : Prop :=
  env.PreservesWithinBlocks fun s => alike s s ∧ (env.takeHalts s).1 = 0

/-- However far the plain loop gets from `cpu`, this is the code. -/
def RunsOn (env : Environment σ) (cntfrq : UInt64) (code : CodeImage) (cpu : Cpu σ) : Prop :=
  ∀ steps, codeImage env (runPlain env cntfrq steps cpu).2.env = code

theorem Block.decodeFrom_withoutDrains (env : Environment σ) (pc : Address) (limit : Nat) (s : σ) :
    decodeFrom env.withoutDrains pc limit s = decodeFrom env pc limit s := by
  induction limit generalizing pc s with
  | zero => rfl
  | succ limit ih =>
      simp only [decodeFrom, ih]
      rfl

theorem Block.translate_withoutDrains (env : Environment σ) (limit : Nat) (pc : Address) (s : σ) :
    translate env.withoutDrains limit pc s = translate env limit pc s := by
  rw [translate, translate, decodeFrom_withoutDrains]

theorem runPlain_withoutDrains (env : Environment σ) (cntfrq : UInt64) (steps : Nat) (cpu : Cpu σ) :
    runPlain env.withoutDrains cntfrq steps cpu = runPlain env cntfrq steps cpu := by
  induction steps generalizing cpu with
  | zero => rfl
  | succ steps ih =>
      simp only [runPlain, ih]
      rfl

theorem Block.ofCode_eq_none_iff {code : CodeImage} {limit : Nat} {pc : Address} :
    ofCode code limit pc = none ↔ code pc = none := by
  have positive : max limit 1 = max limit 1 - 1 + 1 := by omega
  rw [ofCode, positive, decodeIn]
  cases code pc with
  | none => simp
  | some word =>
      cases last : (decode word).endsBlock with
      | true => simp [last]
      | false => simp [last]

namespace BoundaryOblivious

variable {env : Environment σ} {alike : σ → σ → Prop} {fetchable : Address → Prop}
  {cntfrq : UInt64} {code : CodeImage} {c d : Cpu σ}

theorem runPlain_alike (looks : BoundaryOblivious env alike fetchable) (steps : Nat)
    (same : CpuAlike alike c d) :
    AnswerAlike (CpuAlike alike) (runPlain env cntfrq steps c) (runPlain env cntfrq steps d) := by
  have outcome := GuestMachine.runPlain_alike looks.quiet.agree cntfrq steps same
  rwa [runPlain_withoutDrains, runPlain_withoutDrains] at outcome

theorem refl_right (looks : BoundaryOblivious env alike fetchable) (same : CpuAlike alike c d) :
    CpuAlike alike d d :=
  ⟨rfl, looks.quiet.refl_right same.2⟩

theorem trans (looks : BoundaryOblivious env alike fetchable) {e : Cpu σ}
    (first : CpuAlike alike c d) (second : CpuAlike alike d e) : CpuAlike alike c e :=
  ⟨first.1.trans second.1, looks.quiet.trans _ _ _ first.2 second.2⟩

end BoundaryOblivious

/-- In so many steps the plain loop gets from `cpu` to the given result, or is
    still running, and leaves the core as given or in a state like that. -/
def PlainlyReaches (env : Environment σ) (alike : σ → σ → Prop) (cntfrq : UInt64) (cpu : Cpu σ)
    (steps : Nat) (reached : Option RunResult × Cpu σ) : Prop :=
  AnswerAlike (CpuAlike alike) (runPlain env cntfrq steps cpu)
    (reached.1.getD .outOfRounds, reached.2)

namespace BoundaryOblivious

variable {env : Environment σ} {alike : σ → σ → Prop} {fetchable : Address → Prop}
  {config : TranslatorConfig} {cntfrq : UInt64} {code : CodeImage} {c d : Cpu σ}
  {reached : Option RunResult × Cpu σ}

theorem reaches_of_alike (same : CpuAlike alike c d) : PlainlyReaches env alike cntfrq c 0 (none, d) :=
  ⟨rfl, same⟩

theorem reaches_trans (looks : BoundaryOblivious env alike fetchable) {m n : Nat}
    (first : PlainlyReaches env alike cntfrq c m (none, d))
    (second : PlainlyReaches env alike cntfrq d n reached) :
    PlainlyReaches env alike cntfrq c (m + n) reached := by
  obtain ⟨result, e, d', running, same, after⟩ := first.split
  cases same
  rw [PlainlyReaches, runPlain_add m n running]
  obtain ⟨again, alike⟩ := looks.runPlain_alike n after
  exact ⟨again.trans second.1, looks.trans alike second.2⟩

/-- The code stays what it is wherever the plain loop gets. -/
theorem runsOn_of_reaches (looks : BoundaryOblivious env alike fetchable) {m : Nat}
    (unmodified : RunsOn env cntfrq code c) (first : PlainlyReaches env alike cntfrq c m (none, d)) :
    RunsOn env cntfrq code d := by
  intro n
  obtain ⟨result, e, d', running, same, after⟩ := first.split
  cases same
  rw [← unmodified (m + n), runPlain_add m n running]
  exact (looks.quiet.codeImage_congr (looks.runPlain_alike n after).2.2).symm

theorem execute_alike (looks : BoundaryOblivious env alike fetchable) (pc : Address)
    (instruction : Instruction) (same : CpuAlike alike c d) :
    OutcomeAlike (CpuAlike alike) (execute env cntfrq pc instruction c)
      (execute env cntfrq pc instruction d) :=
  A64.execute_alike looks.quiet.agree cntfrq pc instruction c d same

theorem reaches_one (step : AnswerAlike (CpuAlike alike) (plainStep env cntfrq c) reached) :
    PlainlyReaches env alike cntfrq c 1 reached := by
  obtain ⟨result?, e, d, stepped, same, after⟩ := step.split
  rw [PlainlyReaches, runPlain, stepped, same]
  cases result? with
  | some result => exact ⟨rfl, after⟩
  | none => exact ⟨rfl, after⟩

/-- What a step of the plain loop finds where no halt is requested. -/
theorem fetch_idle (looks : BoundaryOblivious env alike fetchable) {s : σ} (valid : alike s s)
    (idle : (env.takeHalts s).1 = 0) (pc : Address) :
    ∃ polled fetched, env.takeHalts s = (0, polled) ∧
      env.readCode pc polled = (codeImage env s pc, fetched) ∧ alike s fetched := by
  have polled := looks.poll s valid idle
  have fetched := looks.quiet.fetch pc _ (looks.quiet.refl_right polled)
  refine ⟨(env.takeHalts s).2, (env.readCode pc (env.takeHalts s).2).2, Prod.ext idle rfl, ?_,
    looks.quiet.trans _ _ _ polled fetched⟩
  exact Prod.ext (congrFun (looks.quiet.codeImage_congr polled) pc).symm rfl

theorem reaches_instruction (looks : BoundaryOblivious env alike fetchable) {word : BitVec 32}
    (valid : alike c.env c.env) (idle : (env.takeHalts c.env).1 = 0)
    (found : codeImage env c.env c.pc = some word) :
    PlainlyReaches env alike cntfrq c 1
      (settle c.pc (execute env cntfrq c.pc (decode word) (c.setPc (c.pc + 4)))) := by
  obtain ⟨polled, fetched, halts, read, same⟩ := looks.fetch_idle valid idle c.pc
  rw [found] at read
  refine reaches_one ?_
  simp only [plainStep, halts, read, ne_eq, not_true_eq_false, if_false]
  have moved : CpuAlike alike { c with env := fetched } c := ⟨rfl, looks.quiet.symm _ _ same⟩
  exact settle_alike c.pc (looks.execute_alike c.pc (decode word) (moved.setPc (c.pc + 4)))

theorem reaches_fetchFault (looks : BoundaryOblivious env alike fetchable) {S : Session σ}
    (valid : alike S.cpu.env S.cpu.env) (idle : (env.takeHalts S.cpu.env).1 = 0)
    (absent : codeImage env S.cpu.env S.cpu.pc = none) :
    PlainlyReaches env alike cntfrq S.cpu 1
      (some (.faulted (fetchFault env S.cpu.pc S).1), (fetchFault env S.cpu.pc S).2.cpu) := by
  obtain ⟨polled, fetched, halts, read, same⟩ := looks.fetch_idle valid idle S.cpu.pc
  rw [absent] at read
  refine reaches_one ?_
  simp only [plainStep, halts, read, ne_eq, not_true_eq_false, if_false, fetchFault]
  have raised : OutcomeAlike alike (env.raise S.cpu.pc .noExecuteFault fetched)
      (env.raise S.cpu.pc .noExecuteFault S.cpu.env) :=
    looks.quiet.agree.raise S.cpu.pc .noExecuteFault _ _ (looks.quiet.symm _ _ same)
  rcases raised.cases with ⟨_, s, t, hs, ht, after⟩ | ⟨error, s, t, hs, ht, after⟩
  · rw [hs, ht]
    exact ⟨rfl, rfl, after⟩
  · rw [hs, ht]
    exact ⟨rfl, rfl, after⟩

/-- The instructions of a block are so many steps of the plain loop. -/
theorem reaches_runInstructions (looks : BoundaryOblivious env alike fetchable)
    (ends : HaltsAtBlockEnds env alike) (limit : Nat) (valid : alike c.env c.env)
    (idle : (env.takeHalts c.env).1 = 0) (unmodified : RunsOn env cntfrq code c) :
    let block := Block.decodeIn code c.pc limit
    let (exit, after) := runInstructions env cntfrq c.pc block c
    ∃ steps, (block ≠ [] → 0 < steps) ∧
      PlainlyReaches env alike cntfrq c steps (exit.error?.map .faulted, after) := by
  induction limit generalizing c with
  | zero => exact ⟨0, fun nonempty => absurd rfl nonempty, reaches_of_alike ⟨rfl, valid⟩⟩
  | succ limit ih =>
      dsimp only
      rw [Block.decodeIn]
      cases found : code c.pc with
      | none => exact ⟨0, fun nonempty => absurd rfl nonempty, reaches_of_alike ⟨rfl, valid⟩⟩
      | some word =>
          rw [← unmodified 0] at found
          have step : PlainlyReaches env alike cntfrq c 1 _ :=
            looks.reaches_instruction valid idle found
          have goesOn : KeepsNext (Within _ (c.pc + 4)) _ :=
            execute_keepsNext ends cntfrq c.pc (decode word)
          have split : (if (decode word).endsBlock then [decode word]
              else decode word :: Block.decodeIn code (c.pc + 4) limit) =
              decode word :: if (decode word).endsBlock then []
                else Block.decodeIn code (c.pc + 4) limit := by
            split <;> rfl
          simp only [split, runInstructions]
          cases executed : execute env cntfrq c.pc (decode word) (c.setPc (c.pc + 4)) with
          | error error after =>
              rw [executed] at step
              exact ⟨1, fun _ => Nat.one_pos, step⟩
          | ok flow after =>
              rw [executed] at step
              cases flow with
              | next =>
                  obtain ⟨⟨valid', idle'⟩, moved⟩ := goesOn (c.setPc (c.pc + 4)) after
                    ⟨⟨valid, idle⟩, rfl⟩ executed
                  split
                  · exact ⟨1, fun _ => Nat.one_pos, step⟩
                  · obtain ⟨steps, _, rest⟩ := ih valid' idle' (looks.runsOn_of_reaches unmodified step)
                    change after.pc = c.pc + 4 at moved
                    rw [moved] at rest
                    exact ⟨1 + steps, fun _ => by omega, looks.reaches_trans step rest⟩
              | _ => exact ⟨1, fun _ => Nat.one_pos, step⟩

theorem blockAt_eq (looks : BoundaryOblivious env alike fetchable) (limit : Nat) {S : Session σ}
    (valid : alike S.cpu.env S.cpu.env) (here : codeImage env S.cpu.env = code)
    (coherent : Coherent limit code S.cache) (pc : Address) :
    ∃ T, blockAt env limit pc S = (Block.ofCode code limit pc, T) ∧
      CpuAlike alike S.cpu T.cpu ∧ Coherent limit code T.cache := by
  rw [blockAt]
  cases held : S.cache.find? pc with
  | some block => exact ⟨S, by rw [coherent pc block held], ⟨rfl, valid⟩, coherent⟩
  | none =>
      obtain ⟨decoded, after⟩ := looks.quiet.translate_eq limit pc valid
      rw [Block.translate_withoutDrains] at decoded after
      change _ = Block.ofCode (codeImage env S.cpu.env) limit pc at decoded
      rw [here] at decoded
      rw [← decoded]
      cases translated : Block.translate env limit pc S.cpu.env with
      | mk block? s =>
          rw [translated] at decoded after
          cases block? with
          | none => exact ⟨_, rfl, ⟨rfl, after⟩, coherent⟩
          | some block => exact ⟨_, rfl, ⟨rfl, after⟩, coherent.insert decoded.symm⟩

theorem halts_congr (looks : BoundaryOblivious env alike fetchable) {s t : σ} (same : alike s t) :
    (env.takeHalts s).1 = (env.takeHalts t).1 :=
  (looks.quiet.agree.takeHalts s t same).1

theorem fetchFault_cache (env : Environment σ) (pc : Address) (S : Session σ) :
    (fetchFault env pc S).2.cache = S.cache := by
  rw [fetchFault]
  split <;> rfl

/-- The block at the PC is executed as the plain loop would do it, or fails to be
    fetched as the plain loop fails. -/
theorem reaches_enterBlock (looks : BoundaryOblivious env alike fetchable)
    (ends : HaltsAtBlockEnds env alike) {S : Session σ} (valid : alike S.cpu.env S.cpu.env)
    (idle : (env.takeHalts S.cpu.env).1 = 0) (unmodified : RunsOn env config.cntfrq code S.cpu)
    (coherent : Coherent config.maxBlockInstructions code S.cache) :
    Coherent config.maxBlockInstructions code (enterBlock env config S).2.cache ∧
      ∃ steps, 0 < steps ∧ PlainlyReaches env alike config.cntfrq S.cpu steps
        ((enterBlock env config S).1, (enterBlock env config S).2.cpu) := by
  obtain ⟨T, entered, same, coherent'⟩ :=
    looks.blockAt_eq config.maxBlockInstructions valid (unmodified 0) coherent S.cpu.pc
  have pc : S.cpu.pc = T.cpu.pc := by rw [Cpu.pc, Cpu.pc, same.1]
  have idle' := (looks.halts_congr same.2).symm.trans idle
  have valid' := (looks.refl_right same).2
  have reached : PlainlyReaches env alike config.cntfrq S.cpu 0 (none, T.cpu) :=
    reaches_of_alike same
  have unmodified' := looks.runsOn_of_reaches unmodified reached
  rw [enterBlock, entered]
  dsimp only
  cases found : Block.ofCode code config.maxBlockInstructions S.cpu.pc with
  | none =>
      have absent : codeImage env T.cpu.env T.cpu.pc = none := by
        rw [show codeImage env T.cpu.env = code from unmodified' 0, ← pc]
        exact Block.ofCode_eq_none_iff.mp found
      refine ⟨?_, 0 + 1, Nat.one_pos, ?_⟩
      · rw [fetchFault_cache]
        exact coherent'
      · rw [pc]
        exact looks.reaches_trans reached (looks.reaches_fetchFault valid' idle' absent)
  | some block =>
      obtain ⟨nonempty, start, instructions, _⟩ := Block.ofCode_eq_some_iff.mp found
      obtain ⟨steps, some, rest⟩ := looks.reaches_runInstructions ends
        (max config.maxBlockInstructions 1) valid' idle' unmodified'
      rw [← pc, ← instructions, ← start] at rest
      rw [← pc, ← instructions] at some
      refine ⟨coherent'.cacheAfter _, 0 + steps, ?_, looks.reaches_trans reached rest⟩
      rw [Nat.zero_add]
      exact some (List.ne_nil_of_length_pos nonempty)

theorem reaches_round (looks : BoundaryOblivious env alike fetchable)
    (ends : HaltsAtBlockEnds env alike) {S : Session σ} (valid : alike S.cpu.env S.cpu.env)
    (unmodified : RunsOn env config.cntfrq code S.cpu)
    (coherent : Coherent config.maxBlockInstructions code S.cache) :
    Coherent config.maxBlockInstructions code (Translator.round env config S).2.cache ∧
      ∃ steps, 0 < steps ∧ PlainlyReaches env alike config.cntfrq S.cpu steps
        ((Translator.round env config S).1, (Translator.round env config S).2.cpu) := by
  have drained := looks.drain _ valid
  have valid' := looks.quiet.refl_right drained
  obtain ⟨halts, t, s, polled, polled', after⟩ :=
    (looks.quiet.agree.takeHalts _ _ drained).split
  change env.takeHalts S.cpu.env = _ at polled
  change env.takeHalts (env.takeInvalidations S.cpu.env).2 = _ at polled'
  have kept : Coherent config.maxBlockInstructions code
      (S.cache.invalidateAll (env.takeInvalidations S.cpu.env).1) :=
    fun pc block held => coherent pc block (BlockCache.find?_invalidateAll_iff.mp held).1
  rw [Translator.round, atBoundary]
  simp only [polled']
  by_cases idle : halts = 0
  · subst idle
    have undisturbed := looks.poll _ valid' (by rw [polled'])
    rw [polled'] at undisturbed
    let T : Session σ :=
      { cpu := { S.cpu with env := s }
        cache := S.cache.invalidateAll (env.takeInvalidations S.cpu.env).1 }
    have same : CpuAlike alike S.cpu T.cpu :=
      ⟨rfl, looks.quiet.trans _ _ _ drained undisturbed⟩
    have reached : PlainlyReaches env alike config.cntfrq S.cpu 0 (none, T.cpu) :=
      reaches_of_alike same
    have idle : (env.takeHalts T.cpu.env).1 = 0 := by rw [← looks.halts_congr same.2, polled]
    have kept : Coherent config.maxBlockInstructions code T.cache := kept
    obtain ⟨coherent', steps, some, entered⟩ := looks.reaches_enterBlock ends
      (looks.refl_right same).2 idle (looks.runsOn_of_reaches unmodified reached) kept
    exact ⟨coherent', 0 + steps, by omega, looks.reaches_trans reached entered⟩
  · refine ⟨?_, 1, Nat.one_pos, reaches_one ?_⟩
    · rw [if_pos idle]
      exact kept
    · simp only [plainStep, polled, ne_eq, idle, not_false_eq_true, if_true]
      exact ⟨rfl, rfl, after⟩

/-- What a run does, the plain loop does. -/
theorem plain_of_run (looks : BoundaryOblivious env alike fetchable)
    (ends : HaltsAtBlockEnds env alike) (rounds : Nat) {S : Session σ}
    (valid : alike S.cpu.env S.cpu.env) (unmodified : RunsOn env config.cntfrq code S.cpu)
    (coherent : Coherent config.maxBlockInstructions code S.cache) :
    ∃ steps, AnswerAlike (CpuAlike alike) (runPlain env config.cntfrq steps S.cpu)
      ((run env config rounds S).1, (run env config rounds S).2.cpu) := by
  induction rounds generalizing S with
  | zero => exact ⟨0, rfl, rfl, valid⟩
  | succ rounds ih =>
      obtain ⟨coherent', steps, _, reached⟩ := looks.reaches_round ends valid unmodified coherent
      rw [run]
      cases ended : Translator.round env config S with
      | mk result? T =>
          rw [ended] at coherent' reached
          cases result? with
          | some result => exact ⟨steps, reached⟩
          | none =>
              obtain ⟨more, rest⟩ := ih (looks.refl_right reached.2).2
                (looks.runsOn_of_reaches unmodified reached) coherent'
              obtain ⟨result, reached', T', running, same, after⟩ := reached.split
              cases same
              obtain ⟨again, after'⟩ := looks.runPlain_alike more after
              refine ⟨steps + more, ?_⟩
              rw [runPlain_add steps more running]
              exact ⟨again.trans rest.1, looks.trans after' rest.2⟩

/-- What the plain loop ends with, a run ends with. -/
theorem run_of_plain (looks : BoundaryOblivious env alike fetchable)
    (ends : HaltsAtBlockEnds env alike) (steps : Nat) {S : Session σ}
    (valid : alike S.cpu.env S.cpu.env) (unmodified : RunsOn env config.cntfrq code S.cpu)
    (coherent : Coherent config.maxBlockInstructions code S.cache) {result : RunResult}
    (ended : (runPlain env config.cntfrq steps S.cpu).1 = result) (final : result ≠ .outOfRounds) :
    ∃ rounds, (run env config rounds S).1 = result := by
  -- On the steps: a round takes some of them away.
  induction steps using Nat.strong_induction_on generalizing S with
  | _ steps ih =>
      obtain ⟨coherent', taken, some, reached⟩ := looks.reaches_round ends valid unmodified coherent
      obtain ⟨result', reached', T', running, same, after⟩ := reached.split
      cases round : Translator.round env config S with
      | mk result? T =>
          rw [round] at coherent' reached same
          cases same
          cases result? with
          | some other =>
              have same := runPlain_unique ended final running (round_ne_outOfRounds round)
              exact ⟨1, by rw [run, round, same.1]; rfl⟩
          | none =>
              have more : taken < steps := by
                by_contra few
                have settled := runPlain_ended steps (taken - steps) (Prod.ext ended rfl) final
                rw [Nat.add_sub_cancel' (Nat.le_of_not_lt few), running] at settled
                exact final (congrArg Prod.fst settled).symm
              rw [← Nat.add_sub_cancel' (Nat.le_of_lt more), runPlain_add taken _ running,
                (looks.runPlain_alike _ after).1] at ended
              obtain ⟨rounds, result⟩ := ih (steps - taken) (by omega)
                (looks.refl_right reached.2).2 (looks.runsOn_of_reaches unmodified reached) coherent'
                ended
              exact ⟨rounds + 1, by rw [run, round]; exact result⟩

end BoundaryOblivious

namespace A64

/-- As `recording`, but block boundaries leave no record. How many there are
    depends on how the code is cut. -/
def Environment.recordingCalls (env : Environment σ) : Environment (Recorded σ) :=
  { env.recording with
    takeInvalidations := fun (s, log) =>
      let (ranges, s) := env.takeInvalidations s
      (ranges, s, log)
    takeHalts := fun (s, log) =>
      let (halts, s) := env.takeHalts s
      (halts, s, log) }

theorem recordingCalls_agree (env : Environment σ) : env.recordingCalls.Agree Unrecorded env :=
  { recording_agree env with
    takeInvalidations := by
      rintro ⟨s, log⟩ _ rfl
      exact ⟨rfl, rfl⟩
    takeHalts := by
      rintro ⟨s, log⟩ _ rfl
      exact ⟨rfl, rfl⟩ }

def Cpu.recorded (cpu : Cpu σ) : Cpu (Recorded σ) where
  context := cpu.context
  env := (cpu.env, [])

theorem outcomeState_tryNote (entry : Option α → Callback) (f : EStateM ε σ α) (p : Recorded σ) :
    (outcomeState (tryNote entry f p)).1 = outcomeState (f p.1) := by
  obtain ⟨s, log⟩ := p
  rw [tryNote]
  cases f s with
  | ok a s' => rfl
  | error e s' => rfl

end A64

section

variable {env : Environment σ} {alike : σ → σ → Prop} {fetchable : Address → Prop}
  {cntfrq : UInt64} {code : CodeImage} {cpu : Cpu σ}

theorem BoundaryOblivious.recordingCalls (looks : BoundaryOblivious env alike fetchable) :
    BoundaryOblivious env.recordingCalls (RecordedAlike alike) fetchable where
  quiet :=
    { symm := fun _ _ same => ⟨looks.quiet.symm _ _ same.1, same.2.symm⟩
      trans := fun _ _ _ first second =>
        ⟨looks.quiet.trans _ _ _ first.1 second.1, first.2.trans second.2⟩
      agree :=
        { looks.quiet.agree.recording with
          takeInvalidations := fun _ _ same => ⟨rfl, same⟩
          takeHalts := fun p q same =>
            ⟨looks.halts_congr same.1, (looks.quiet.agree.takeHalts p.1 q.1 same.1).2, same.2⟩ }
      fetch := fun addr p valid => ⟨looks.quiet.fetch addr p.1 valid.1, rfl⟩
      fetched := fun p valid => looks.quiet.fetched p.1 valid.1 }
  drain p valid := ⟨looks.drain p.1 valid.1, rfl⟩
  poll p valid idle := ⟨looks.poll p.1 valid.1 idle, rfl⟩

theorem HaltsAtBlockEnds.recordingCalls (ends : HaltsAtBlockEnds env alike) :
    HaltsAtBlockEnds env.recordingCalls (RecordedAlike alike) := by
  have recorded {p : Recorded σ} (kept : alike p.1 p.1 ∧ (env.takeHalts p.1).1 = 0) :
      RecordedAlike alike p p ∧ (env.recordingCalls.takeHalts p).1 = 0 :=
    ⟨⟨kept.1, rfl⟩, kept.2⟩
  have tried {α : Type} {entry : Option α → Callback} {f : EStateM CpuError σ α} {p : Recorded σ}
      (kept : alike (outcomeState (f p.1)) (outcomeState (f p.1)) ∧
        (env.takeHalts (outcomeState (f p.1))).1 = 0) :
      RecordedAlike alike (outcomeState (tryNote entry f p)) (outcomeState (tryNote entry f p)) ∧
        (env.recordingCalls.takeHalts (outcomeState (tryNote entry f p))).1 = 0 := by
    rw [← outcomeState_tryNote entry f p] at kept
    exact recorded kept
  exact
    { read := fun w addr p kept => recorded (ends.read w addr p.1 ⟨kept.1.1, kept.2⟩)
      write := fun w addr value p kept => recorded (ends.write w addr value p.1 ⟨kept.1.1, kept.2⟩)
      exclusiveRead := fun w pc addr p kept =>
        tried (ends.exclusiveRead w pc addr p.1 ⟨kept.1.1, kept.2⟩)
      exclusiveWrite := fun w pc addr value p kept =>
        tried (ends.exclusiveWrite w pc addr value p.1 ⟨kept.1.1, kept.2⟩)
      clearExclusive := fun p kept => recorded (ends.clearExclusive p.1 ⟨kept.1.1, kept.2⟩)
      counter := fun p kept => recorded (ends.counter p.1 ⟨kept.1.1, kept.2⟩) }

theorem RunsOn.recordingCalls (unmodified : RunsOn env cntfrq code cpu) :
    RunsOn env.recordingCalls cntfrq code cpu.recorded := by
  intro steps
  rw [← unmodified steps]
  have same := (runPlain_alike (recordingCalls_agree env) cntfrq steps
    (⟨rfl, rfl⟩ : CpuAlike Unrecorded cpu.recorded cpu)).2.2
  exact funext fun addr => ((recordingCalls_agree env).readCode addr _ _ same).1

end

/-- How a run ended: why, with which registers and thread pointers, and after
    which callbacks. -/
structure RunEnd where
  result : RunResult
  context : ThreadContext
  callbacks : List Callback

/-- A run that starts without translated code comes to this end. -/
def RunsTo (env : Environment σ) (config : TranslatorConfig) (cpu : Cpu σ) (outcome : RunEnd) :
    Prop :=
  ∃ rounds,
    let (result, after) := run env config rounds { cpu, cache := BlockCache.empty }
    let (_, recorded) :=
      run env.recordingCalls config rounds { cpu := cpu.recorded, cache := BlockCache.empty }
    result ≠ .outOfRounds ∧
      outcome = { result, context := after.cpu.context, callbacks := recorded.cpu.env.2 }

/-- The plain loop comes to this end. -/
def PlainlyRunsTo (env : Environment σ) (cntfrq : UInt64) (cpu : Cpu σ) (outcome : RunEnd) :
    Prop :=
  ∃ steps,
    let (result, after) := runPlain env cntfrq steps cpu
    let (_, recorded) := runPlain env.recordingCalls cntfrq steps cpu.recorded
    result ≠ .outOfRounds ∧
      outcome = { result, context := after.context, callbacks := recorded.env.2 }

section

variable {env : Environment σ} {alike : σ → σ → Prop} {fetchable : Address → Prop}
  {config : TranslatorConfig} {cntfrq : UInt64} {code : CodeImage} {cpu : Cpu σ}
  {outcome : RunEnd}

theorem runsTo_iff_recorded :
    RunsTo env config cpu outcome ↔ ∃ rounds,
      let (result, after) :=
        run env.recordingCalls config rounds { cpu := cpu.recorded, cache := BlockCache.empty }
      result ≠ .outOfRounds ∧
        outcome = { result, context := after.cpu.context, callbacks := after.cpu.env.2 } := by
  refine exists_congr fun rounds => ?_
  obtain ⟨result, same⟩ := run_alike (recordingCalls_agree env) config rounds
    (⟨⟨rfl, rfl⟩, rfl⟩ : SessionAlike Unrecorded Eq
      { cpu := cpu.recorded, cache := BlockCache.empty } { cpu, cache := BlockCache.empty })
  dsimp only
  rw [result, same.cpu.1]

theorem plainlyRunsTo_iff_recorded :
    PlainlyRunsTo env cntfrq cpu outcome ↔ ∃ steps,
      let (result, after) := runPlain env.recordingCalls cntfrq steps cpu.recorded
      result ≠ .outOfRounds ∧
        outcome = { result, context := after.context, callbacks := after.env.2 } := by
  refine exists_congr fun steps => ?_
  obtain ⟨result, same⟩ := runPlain_alike (recordingCalls_agree env) cntfrq steps
    (⟨rfl, rfl⟩ : CpuAlike Unrecorded cpu.recorded cpu)
  dsimp only
  rw [result, same.1]

theorem plainlyRunsTo_unique {outcome' : RunEnd} (ended : PlainlyRunsTo env cntfrq cpu outcome)
    (ended' : PlainlyRunsTo env cntfrq cpu outcome') : outcome = outcome' := by
  obtain ⟨m, final, rfl⟩ := plainlyRunsTo_iff_recorded.mp ended
  obtain ⟨n, final', rfl⟩ := plainlyRunsTo_iff_recorded.mp ended'
  obtain ⟨result, after⟩ := runPlain_unique rfl final (Prod.ext rfl rfl) final'
  rw [result, after]

/-- However the code is cut into blocks, a run ends like the plain loop, with the
    same registers and after the same callbacks, and there is only one such end:
    as long as the code stays what it is, halts are requested only where a block
    ends, and nobody can tell how often code is fetched or invalidations are
    drained. -/
theorem runsTo_iff_plainlyRunsTo (looks : BoundaryOblivious env alike fetchable)
    (ends : HaltsAtBlockEnds env alike) (valid : alike cpu.env cpu.env)
    (unmodified : RunsOn env cntfrq code cpu) :
    (∀ maxBlockInstructions outcome,
        RunsTo env { cntfrq, maxBlockInstructions } cpu outcome ↔
          PlainlyRunsTo env cntfrq cpu outcome) ∧
      ∀ outcome outcome', PlainlyRunsTo env cntfrq cpu outcome →
        PlainlyRunsTo env cntfrq cpu outcome' → outcome = outcome' := by
  have looks' := looks.recordingCalls
  have ends' := ends.recordingCalls
  have unmodified' := unmodified.recordingCalls
  have valid' : RecordedAlike alike cpu.recorded.env cpu.recorded.env := ⟨valid, rfl⟩
  refine ⟨fun limit outcome => ?_, fun _ _ => plainlyRunsTo_unique⟩
  let config : TranslatorConfig := { cntfrq, maxBlockInstructions := limit }
  let S : Session (Recorded σ) := { cpu := cpu.recorded, cache := BlockCache.empty }
  have coherent : Coherent config.maxBlockInstructions code S.cache := coherent_empty limit code
  rw [runsTo_iff_recorded, plainlyRunsTo_iff_recorded]
  constructor
  · rintro ⟨rounds, final, rfl⟩
    obtain ⟨steps, result, same⟩ := looks'.plain_of_run ends' rounds valid' unmodified' coherent
    refine ⟨steps, ?_, ?_⟩
    · rw [result]
      exact final
    · rw [result, same.1, same.2.2]
  · rintro ⟨steps, final, rfl⟩
    obtain ⟨rounds, result⟩ := looks'.run_of_plain ends' steps valid' unmodified' coherent rfl final
    obtain ⟨more, result', same⟩ := looks'.plain_of_run ends' rounds valid' unmodified' coherent
    have final' : (runPlain env.recordingCalls cntfrq more cpu.recorded).1 ≠ .outOfRounds := by
      rw [result', result]
      exact final
    have reached := runPlain_unique rfl final (Prod.ext rfl rfl) final'
    refine ⟨rounds, ?_, ?_⟩
    · rw [result]
      exact final
    · rw [result, ← same.1, ← same.2.2, ← reached.2]

end

structure QueueState where
  halts : UInt32 := 0
  ranges : List (Address × UInt64) := []

/-- Three words of code: a move, a store that queues an invalidation elsewhere,
    and a supervisor call, which halts the core. -/
def queueingEnvironment : Environment QueueState where
  readCode addr s :=
    (if addr = 0x1000 then some 0xD28000A0
     else if addr = 0x1004 then some 0xB9000020
     else if addr = 0x1008 then some 0xD4000001
     else none, s)
  read _ _ s := (0, s)
  write w addr _ s := (true, { s with ranges := s.ranges ++ [(addr, w.size)] })
  exclusiveRead _ _ _ := pure 0
  exclusiveWrite _ _ _ _ := pure false
  clearExclusive s := s
  callSupervisor _ := Exec.hook fun s => ((), { s with halts := 1 })
  raise _ _ := pure ()
  dataCache _ _ _ := pure ()
  instructionCache _ _ _ := pure ()
  instructionBarrier _ := pure ()
  fallback _ _ := pure ()
  counter s := (0, s)
  takeInvalidations s := (s.ranges, { s with ranges := [] })
  takeHalts s := (s.halts, { s with halts := 0 })

def SameHalts (s t : QueueState) : Prop :=
  s.halts = t.halts

theorem queueingEnvironment_looks :
    BoundaryOblivious queueingEnvironment SameHalts
      (fun addr => addr = 0x1000 ∨ addr = 0x1004 ∨ addr = 0x1008) where
  quiet :=
    { symm := fun _ _ same => same.symm
      trans := fun _ _ _ first second => first.trans second
      agree :=
        { readCode := fun _ _ _ same => ⟨rfl, same⟩
          read := fun _ _ _ _ same => ⟨rfl, same⟩
          write := fun _ _ _ _ _ same => ⟨rfl, same⟩
          exclusiveRead := fun _ _ _ => .pure _
          exclusiveWrite := fun _ _ _ _ => .pure _
          clearExclusive := fun _ _ same => same
          callSupervisor := fun _ => by
            rintro ⟨context, s⟩ ⟨_, t⟩ ⟨rfl, same⟩
            exact ⟨rfl, rfl, rfl⟩
          raise := fun _ _ => .pure _
          dataCache := fun _ _ _ => .pure _
          instructionCache := fun _ _ _ => .pure _
          instructionBarrier := fun _ => .pure _
          fallback := fun _ _ => .pure _
          counter := fun _ _ same => ⟨rfl, same⟩
          takeInvalidations := fun _ _ same => ⟨rfl, same⟩
          takeHalts := fun _ _ same => ⟨same, rfl⟩ }
      fetch := fun _ _ _ => rfl
      fetched := fun s _ => by
        refine ⟨fun addr => ?_, ?_⟩
        · simp only [codeImage, Environment.withoutDrains, queueingEnvironment]
          by_cases first : addr = 0x1000
          · simp [first]
          · by_cases second : addr = 0x1004
            · simp [second]
            · by_cases third : addr = 0x1008 <;> simp [first, second, third]
        · rintro addr (rfl | rfl | rfl) <;> decide }
  drain _ _ := rfl
  poll _ _ idle := idle

theorem queueingEnvironment_ends : HaltsAtBlockEnds queueingEnvironment SameHalts where
  read _ _ _ idle := idle
  write _ _ _ _ idle := idle
  exclusiveRead _ _ _ _ idle := idle
  exclusiveWrite _ _ _ _ _ idle := idle
  clearExclusive _ idle := idle
  counter _ idle := idle

theorem queueingEnvironment_runsOn (cntfrq : UInt64) (cpu : Cpu QueueState) :
    RunsOn queueingEnvironment cntfrq (codeImage queueingEnvironment cpu.env) cpu :=
  fun _ => rfl

def queueingStart : Cpu QueueState :=
  { context := { registers := { pc := 0x1000 } }, env := {} }

/-- The program comes to its supervisor call whatever the limit on blocks. -/
theorem runsTo_iff_plainlyRunsTo_queueing :
    ∃ outcome, outcome.result = .halted 1 ∧
      outcome.callbacks = [.write .word 0 5 true, .callSupervisor 0] ∧
      ∀ maxBlockInstructions,
        RunsTo queueingEnvironment { cntfrq := 0, maxBlockInstructions } queueingStart outcome := by
  have valid : SameHalts queueingStart.env queueingStart.env := rfl
  obtain ⟨same, _⟩ := runsTo_iff_plainlyRunsTo queueingEnvironment_looks queueingEnvironment_ends
    valid (queueingEnvironment_runsOn 0 queueingStart)
  refine ⟨_, ?_, ?_, fun limit => (same limit _).mpr ⟨4, ?_, rfl⟩⟩
  · decide +kernel
  · decide +kernel
  · decide +kernel

end GuestMachine
