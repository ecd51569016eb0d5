import GuestMachine.Proofs.Translator.Coherence
import GuestMachine.Proofs.Translator.Recording

/-! # The block cache is transparent

A run of the translator is compared with one that forgets all blocks before
every round. They do the same as long as every change of a code word is
announced by the next block boundary: then whatever the cache holds there is
what decoding would give.
-/

namespace GuestMachine

open A64 Translator

/-- A block boundary, after the announced ranges are dropped, with the block that
    the cache holds for the PC and the one that decoding gives there. -/
structure Boundary where
  ranges : List (Address × UInt64)
  code : CodeImage
  cached : Option Block
  fresh : Option Block

namespace Translator

def boundaryOf (env : Environment σ) (config : TranslatorConfig) (session : Session σ) : Boundary :=
  let ((ranges, _), after) := atBoundary env session
  { ranges
    code := codeImage env after.cpu.env
    cached := after.cache.find? after.cpu.pc
    fresh := (Block.translate env config.maxBlockInstructions after.cpu.pc after.cpu.env).1 }

def boundaries (env : Environment σ) (config : TranslatorConfig) :
    (rounds : Nat) → Session σ → List Boundary
  | 0, _ => []
  | rounds + 1, session =>
      boundaryOf env config session ::
        match round env config session with
        | (some _, _) => []
        | (none, session) => boundaries env config rounds session

theorem boundaries_succ (env : Environment σ) (config : TranslatorConfig) (rounds : Nat)
    (session : Session σ) :
    boundaries env config (rounds + 1) session =
      boundaryOf env config session ::
        if (round env config session).1.isSome then []
        else boundaries env config rounds (round env config session).2 := by
  rw [boundaries]
  obtain ⟨result?, after⟩ := round env config session
  cases result? with
  | none => rfl
  | some result => rfl

/-- As `run`, with an empty cache before every round. -/
def runFresh (env : Environment σ) (config : TranslatorConfig) :
    (rounds : Nat) → Session σ → RunResult × Session σ
  | 0, session => (.outOfRounds, session)
  | rounds + 1, session =>
      match round env config { session with cache := BlockCache.empty } with
      | (some result, session) => (result, session)
      | (none, session) => runFresh env config rounds session

end Translator

/-- Each boundary announces what changed since the one before. -/
def Announced : (before : Option CodeImage) → List Boundary → Prop
  | _, [] => True
  | none, boundary :: rest => Announced (some boundary.code) rest
  | some before, boundary :: rest =>
      Announces boundary.ranges before boundary.code ∧ Announced (some boundary.code) rest

def lastCode : (before : Option CodeImage) → List Boundary → Option CodeImage
  | before, [] => before
  | _, boundary :: rest => lastCode (some boundary.code) rest

/-- The caches that runs leave, with the code at the last boundary so far.
    Between runs anything may happen to registers and environment. -/
inductive Inherited (config : TranslatorConfig) (fetchable : Address → Prop) :
    BlockCache → Option CodeImage → Prop where
  | empty : Inherited config fetchable BlockCache.empty none
  | run {σ : Type} {env : Environment σ} {alike : σ → σ → Prop} {cache : BlockCache}
      {before : Option CodeImage} (inherited : Inherited config fetchable cache before)
      (quiet : FetchOblivious env alike fetchable) (cpu : Cpu σ) (valid : alike cpu.env cpu.env)
      (rounds : Nat) (announced : Announced before (boundaries env config rounds ⟨cpu, cache⟩)) :
      Inherited config fetchable (run env config rounds ⟨cpu, cache⟩).2.cache
        (lastCode before (boundaries env config rounds ⟨cpu, cache⟩))

/-- What is known of a cache between boundaries: it is coherent with the code
    at the last one, and empty if there was none. -/
def Tracked (limit : Nat) (fetchable : Address → Prop) (cache : BlockCache) :
    (before : Option CodeImage) → Prop
  | none => cache = BlockCache.empty
  | some code => code.FetchedFrom fetchable ∧ Coherent limit code cache

section

variable {env : Environment σ} {alike : σ → σ → Prop} {fetchable : Address → Prop}
  {config : TranslatorConfig} {before : Option CodeImage} {S F : Session σ}

theorem BlockCache.invalidateAll_empty (ranges : List (Address × UInt64)) :
    empty.invalidateAll ranges = empty := by
  rw [invalidateAll]
  induction ranges with
  | nil => rfl
  | cons range rest ih => exact ih

abbrev CoherentAlike (alike : σ → σ → Prop) (limit : Nat) (code : CodeImage) :
    Session σ → Session σ → Prop :=
  SessionAlike alike fun cache _ => Coherent limit code cache

theorem Announced.tail {boundary : Boundary} {rest : List Boundary}
    (announced : Announced before (boundary :: rest)) : Announced (some boundary.code) rest := by
  cases before with
  | none => exact announced
  | some code => exact announced.2

theorem atBoundary_coherent (quiet : FetchOblivious env alike fetchable)
    (same : CpuAlike alike S.cpu F.cpu) (empty : F.cache = BlockCache.empty)
    (tracked : Tracked config.maxBlockInstructions fetchable S.cache before) {rest : List Boundary}
    (announced : Announced before (boundaryOf env config S :: rest)) :
    AnswerAlike (CoherentAlike alike config.maxBlockInstructions (boundaryOf env config S).code)
        (atBoundary env S) (atBoundary env F) ∧
      (atBoundary env F).2.cache = BlockCache.empty := by
  have plain : AnswerAlike (SessionAlike alike fun _ _ => True) (atBoundary env S)
      (atBoundary env F) :=
    atBoundary_alike quiet.agree (fun _ _ _ _ => trivial) ⟨same, trivial⟩
  have left : (atBoundary env S).2.cache =
      S.cache.invalidateAll (boundaryOf env config S).ranges := rfl
  refine ⟨⟨plain.1, plain.2.cpu, ?_⟩, ?_⟩
  · rw [left]
    cases before with
    | none =>
        -- Nothing has to be announced at the first boundary, for nothing is cached.
        rw [show S.cache = BlockCache.empty from tracked, BlockCache.invalidateAll_empty]
        exact coherent_empty _ _
    | some code =>
        obtain ⟨fetched, coherent⟩ := tracked
        have fetched' := quiet.fetched _ (quiet.refl_left plain.2.cpu.2)
        exact coherent.invalidateAll fetched fetched' announced.1
  · exact (congrArg (BlockCache.invalidateAll · _) empty).trans (BlockCache.invalidateAll_empty _)

theorem blockAt_coherent (quiet : FetchOblivious env alike fetchable) {limit : Nat}
    (same : CoherentAlike alike limit (codeImage env S.cpu.env) S F)
    (empty : F.cache = BlockCache.empty) (pc : Address) :
    AnswerAlike (CoherentAlike alike limit (codeImage env S.cpu.env)) (blockAt env limit pc S)
      (blockAt env limit pc F) := by
  obtain ⟨⟨context, env_same⟩, coherent⟩ := same
  obtain ⟨block?, s, t, hs, ht, after⟩ := (Block.translate_alike quiet.agree limit pc env_same).split
  have decoded := (quiet.translate_eq limit pc (quiet.refl_left env_same)).1
  have unseen := (quiet.translate_eq limit pc (quiet.refl_right env_same)).2
  rw [hs] at decoded
  rw [ht] at unseen
  have fresh : blockAt env limit pc F =
      (block?, { cpu := { F.cpu with env := t }
                 cache := block?.elim F.cache (BlockCache.insert F.cache) }) := by
    rw [blockAt, empty, BlockCache.find?_empty]
    simp only [ht]
    cases block? <;> rfl
  rw [fresh, blockAt]
  cases held : S.cache.find? pc with
  | some block =>
      -- The other side decodes what this one found, and its fetches leave no trace.
      rw [coherent pc block held] at decoded
      exact ⟨decoded.symm, ⟨context, quiet.trans _ _ _ env_same unseen⟩, coherent⟩
  | none =>
      simp only [hs]
      cases block? with
      | none => exact ⟨rfl, ⟨context, after⟩, coherent⟩
      | some block => exact ⟨rfl, ⟨context, after⟩, coherent.insert decoded.symm⟩

theorem round_coherent (quiet : FetchOblivious env alike fetchable)
    (same : CpuAlike alike S.cpu F.cpu) (empty : F.cache = BlockCache.empty)
    (tracked : Tracked config.maxBlockInstructions fetchable S.cache before) {rest : List Boundary}
    (announced : Announced before (boundaryOf env config S :: rest)) :
    AnswerAlike (CoherentAlike alike config.maxBlockInstructions (boundaryOf env config S).code)
      (round env config S) (round env config F) := by
  obtain ⟨boundary, empty⟩ := atBoundary_coherent quiet same empty tracked announced
  have code : (boundaryOf env config S).code = codeImage env (atBoundary env S).2.cpu.env := rfl
  obtain ⟨⟨ranges, halts⟩, S', F', hS, hF, after⟩ := boundary.split
  rw [hF] at empty
  rw [Translator.round, Translator.round, hS, hF]
  rw [hS] at code
  rw [code] at after ⊢
  dsimp only
  split
  · exact ⟨rfl, after⟩
  · have pc : S'.cpu.pc = F'.cpu.pc := by rw [Cpu.pc, Cpu.pc, after.cpu.1]
    exact enterBlock_alike quiet.agree config (fun exit _ _ coherent => coherent.cacheAfter exit)
      (blockAt_coherent quiet after empty S'.cpu.pc) pc

theorem boundaryOf_fresh (quiet : FetchOblivious env alike fetchable)
    (valid : alike S.cpu.env S.cpu.env)
    (tracked : Tracked config.maxBlockInstructions fetchable S.cache before) {rest : List Boundary}
    (announced : Announced before (boundaryOf env config S :: rest)) {block : Block}
    (held : (boundaryOf env config S).cached = some block) :
    (boundaryOf env config S).fresh = some block := by
  obtain ⟨boundary, _⟩ := atBoundary_coherent quiet (S := S)
    (F := { S with cache := BlockCache.empty }) ⟨rfl, valid⟩ rfl tracked announced
  have coherent := boundary.2.cache _ block held
  have valid' := quiet.refl_left boundary.2.cpu.2
  exact (quiet.translate_eq _ _ valid').1.trans coherent

/-- A run with a cache and one without do the same, and the cache is left
    coherent with the code at the last boundary. -/
theorem run_coherent (quiet : FetchOblivious env alike fetchable)
    (same : CpuAlike alike S.cpu F.cpu)
    (tracked : Tracked config.maxBlockInstructions fetchable S.cache before) (rounds : Nat)
    (announced : Announced before (boundaries env config rounds S)) :
    (∀ boundary ∈ boundaries env config rounds S, ∀ block,
        boundary.cached = some block → boundary.fresh = some block) ∧
      AnswerAlike (SessionAlike alike fun _ _ => True) (run env config rounds S)
        (runFresh env config rounds F) ∧
      Tracked config.maxBlockInstructions fetchable (run env config rounds S).2.cache
        (lastCode before (boundaries env config rounds S)) := by
  -- On the rounds, for any code at the boundary before: after a round this is the
  -- code at its own boundary, though the block just executed may have changed it.
  induction rounds generalizing S F before with
  | zero => exact ⟨by simp [boundaries], ⟨rfl, same, trivial⟩, tracked⟩
  | succ rounds ih =>
      rw [boundaries] at announced
      have valid := quiet.refl_left same.2
      have front : ∀ block, (boundaryOf env config S).cached = some block →
          (boundaryOf env config S).fresh = some block :=
        fun block held => boundaryOf_fresh quiet valid tracked announced held
      obtain ⟨result?, S', F', hS, hF, after⟩ :=
        (round_coherent (F := { F with cache := BlockCache.empty }) quiet same rfl tracked
          announced).split
      have boundary := (atBoundary_alike quiet.agree (fun _ _ _ _ => trivial)
        (⟨⟨rfl, valid⟩, trivial⟩ : SessionAlike alike (fun _ _ => True) S S)).2.cpu.2
      have tracked' : Tracked config.maxBlockInstructions fetchable S'.cache
          (some (boundaryOf env config S).code) :=
        ⟨quiet.fetched _ boundary, after.cache⟩
      rw [boundaries, run, runFresh, hS, hF]
      rw [hS] at announced
      cases result? with
      | some result =>
          refine ⟨?_, ⟨rfl, after.cpu, trivial⟩, tracked'⟩
          simpa using front
      | none =>
          obtain ⟨others, outcome, final⟩ := ih after.cpu tracked' announced.tail
          exact ⟨List.forall_mem_cons.mpr ⟨front, others⟩, outcome, final⟩

theorem Inherited.tracked {cache : BlockCache} (inherited : Inherited config fetchable cache before) :
    Tracked config.maxBlockInstructions fetchable cache before := by
  induction inherited with
  | empty => rfl
  | run inherited quiet cpu valid rounds announced ih =>
      exact (run_coherent quiet (S := ⟨cpu, _⟩) (F := ⟨cpu, _⟩) ⟨rfl, valid⟩ ih rounds announced).2.2

end

section

variable {related : σ → τ → Prop} {left : Environment σ} {right : Environment τ}
  {config : TranslatorConfig} {S : Session σ} {T : Session τ}

theorem boundaryOf_alike (agree : left.Agree related right) (same : SessionAlike related Eq S T) :
    boundaryOf left config S = boundaryOf right config T := by
  obtain ⟨⟨ranges, halts⟩, S', T', hS, hT, ⟨context, env⟩, cache⟩ :=
    (atBoundary_alike agree (fun ranges c d same => by rw [same]) same).split
  have pc : S'.cpu.pc = T'.cpu.pc := by rw [Cpu.pc, Cpu.pc, context]
  have code : codeImage left S'.cpu.env = codeImage right T'.cpu.env :=
    funext fun addr => (agree.readCode addr _ _ env).1
  have fresh := (Block.translate_alike agree config.maxBlockInstructions S'.cpu.pc env).1
  rw [boundaryOf, boundaryOf, hS, hT]
  dsimp only
  rw [code, fresh, cache, pc]

theorem boundaries_alike (agree : left.Agree related right) (same : SessionAlike related Eq S T)
    (rounds : Nat) : boundaries left config rounds S = boundaries right config rounds T := by
  induction rounds generalizing S T with
  | zero => rfl
  | succ rounds ih =>
      obtain ⟨result?, S', T', hS, hT, after⟩ := (round_alike agree config same).split
      rw [boundaries, boundaries, boundaryOf_alike agree same, hS, hT]
      cases result? with
      | some result => rfl
      | none => exact congrArg _ (ih after)

end

theorem FetchOblivious.recording {env : Environment σ} {alike : σ → σ → Prop}
    {fetchable : Address → Prop} (quiet : FetchOblivious env alike fetchable) :
    FetchOblivious env.recording (RecordedAlike alike) fetchable where
  symm _ _ same := ⟨quiet.symm _ _ same.1, same.2.symm⟩
  trans _ _ _ first second := ⟨quiet.trans _ _ _ first.1 second.1, first.2.trans second.2⟩
  agree := quiet.agree.recording
  fetch addr p valid := ⟨quiet.fetch addr p.1 valid.1, rfl⟩
  fetched p valid := quiet.fetched p.1 valid.1

def callbacksFresh (env : Environment σ) (config : TranslatorConfig) (rounds : Nat)
    (session : Session σ) : List Callback :=
  (runFresh env.recording config rounds session.recorded).2.cpu.env.2

/-- The cache makes no difference. If every change of a code word is announced
    by the next boundary, every cached block that is found equals what decoding
    gives there, and the run ends like one without a cache, with the same
    registers and after the same callbacks. The cache may come from earlier runs
    of this kind; only whether a word holds code must never change. -/
theorem run_eq_runFresh {env : Environment σ} {alike : σ → σ → Prop} {fetchable : Address → Prop}
    (quiet : FetchOblivious env alike fetchable) (config : TranslatorConfig) (rounds : Nat)
    (session : Session σ) (valid : alike session.cpu.env session.cpu.env)
    {before : Option CodeImage} (inherited : Inherited config fetchable session.cache before)
    (announced : Announced before (boundaries env config rounds session)) :
    (∀ boundary ∈ boundaries env config rounds session, ∀ block,
        boundary.cached = some block → boundary.fresh = some block) ∧
      let (result, after) := run env config rounds session
      let (result', after') := runFresh env config rounds session
      result = result' ∧ after.cpu.context = after'.cpu.context ∧
        alike after.cpu.env after'.cpu.env ∧
        callbacks env config rounds session = callbacksFresh env config rounds session := by
  obtain ⟨found, outcome, _⟩ := run_coherent quiet (F := session) ⟨rfl, valid⟩ inherited.tracked
    rounds announced
  have recorded : boundaries env.recording config rounds session.recorded =
      boundaries env config rounds session :=
    boundaries_alike (recording_agree env) (S := session.recorded) (T := session)
      ⟨⟨rfl, rfl⟩, rfl⟩ rounds
  obtain ⟨_, again, _⟩ := run_coherent quiet.recording (S := session.recorded)
    (F := session.recorded) ⟨rfl, valid, rfl⟩ inherited.tracked rounds (recorded ▸ announced)
  exact ⟨found, outcome.1, outcome.2.cpu.1, outcome.2.cpu.2, again.2.cpu.2.2⟩

/-- Whether the store was made, and what waits for the next boundary. -/
structure PatchState where
  patched : Bool := false
  ranges : List (Address × UInt64) := []
  halts : UInt32 := 0
  deriving DecidableEq

/-- Two words of code: a store, which turns the other from a branch back to the
    store into a supervisor call, and that word. The call halts the core. -/
def patchingEnvironment : Environment PatchState where
  readCode addr s :=
    (if addr = 0x1000 then some 0xB9000020
     else if addr = 0x1004 then some (if s.patched then 0xD4000001 else 0x17FFFFFF)
     else none, s)
  read _ _ s := (0, s)
  write _ _ _ s := (true, { s with patched := true, ranges := [(0x1004, 4)] })
  exclusiveRead _ _ _ := pure 0
  exclusiveWrite _ _ _ _ := pure false
  clearExclusive s := s
  callSupervisor _ := Exec.hook fun s => ((), { s with halts := 1 })
  raise _ _ := pure ()
  dataCache _ _ _ := pure ()
  instructionCache _ _ _ := pure ()
  instructionBarrier _ := pure ()
  fallback _ _ := pure ()
  counter s := (0, s)
  takeInvalidations s := (s.ranges, { s with ranges := [] })
  takeHalts s := (s.halts, { s with halts := 0 })

theorem patchingEnvironment_quiet :
    FetchOblivious patchingEnvironment Eq (fun addr => addr = 0x1000 ∨ addr = 0x1004) where
  symm _ _ same := same.symm
  trans _ _ _ first second := first.trans second
  agree := .of_eq _
  fetch _ _ _ := rfl
  fetched s _ := by
    refine ⟨fun addr => ?_, ?_⟩
    · simp only [codeImage, patchingEnvironment]
      by_cases first : addr = 0x1000
      · simp [first]
      · by_cases second : addr = 0x1004 <;> simp [first, second]
    · rintro addr (rfl | rfl) <;> decide

def patchingConfig : TranslatorConfig :=
  { cntfrq := 0, maxBlockInstructions := 8 }

def patchingStart : Session PatchState where
  cpu := { context := { registers := { pc := 0x1000 } }, env := {} }
  cache := BlockCache.empty

/-- After the first round: the word is patched, and the block that was decoded
    from the old word is still cached. -/
def patchingHalfway : Session PatchState :=
  (run patchingEnvironment patchingConfig 1 patchingStart).2

theorem patchingEnvironment_announces {ranges : List (Address × UInt64)} {s t : PatchState}
    (queued : s.patched = t.patched ∨ (0x1004, 4) ∈ ranges) :
    Announces ranges (codeImage patchingEnvironment s) (codeImage patchingEnvironment t) := by
  intro addr changed
  simp only [codeImage, patchingEnvironment] at changed
  rcases queued with same | member
  · exact absurd (by rw [same]) changed
  · refine ⟨_, member, by decide, ?_⟩
    have here : addr = 0x1004 := by
      by_contra elsewhere
      exact changed (by simp [elsewhere])
    exact ⟨0x1004, by rw [here]; decide⟩

/-- The cached block goes at the next boundary, and the program runs to its end
    as it would without a cache. -/
theorem run_eq_runFresh_patching :
    (patchingHalfway.cache.find? 0x1000).isSome ∧
      (run patchingEnvironment patchingConfig 2 patchingHalfway).1 = .halted 1 ∧
      (run patchingEnvironment patchingConfig 2 patchingHalfway).1 =
        (runFresh patchingEnvironment patchingConfig 2 patchingHalfway).1 ∧
      callbacks patchingEnvironment patchingConfig 2 patchingHalfway =
        callbacksFresh patchingEnvironment patchingConfig 2 patchingHalfway := by
  have first : boundaries patchingEnvironment patchingConfig 1 patchingStart =
      [boundaryOf patchingEnvironment patchingConfig patchingStart] := by
    rw [boundaries_succ, boundaries, ite_self]
  have goesOn : (round patchingEnvironment patchingConfig patchingHalfway).1.isSome = false := by
    decide +kernel
  have inherited := Inherited.empty.run patchingEnvironment_quiet patchingStart.cpu rfl 1
    (show Announced none (boundaries patchingEnvironment patchingConfig 1 patchingStart) by
      rw [first]
      trivial)
  have announced : Announced
      (lastCode none (boundaries patchingEnvironment patchingConfig 1 patchingStart))
      (boundaries patchingEnvironment patchingConfig 2 patchingHalfway) := by
    rw [first, boundaries_succ, goesOn, boundaries_succ, boundaries, ite_self]
    refine ⟨patchingEnvironment_announces (.inr ?_), patchingEnvironment_announces (.inl ?_), trivial⟩
    · decide +kernel
    · decide +kernel
  obtain ⟨_, result, _, _, calls⟩ := run_eq_runFresh patchingEnvironment_quiet patchingConfig 2
    patchingHalfway rfl inherited announced
  exact ⟨by decide +kernel, by decide +kernel, result, calls⟩

end GuestMachine
