import GuestMachine.Cpu.Core
import GuestMachine.Proofs.A64.RegisterPlaces
import GuestMachine.Proofs.Operations

/-! # Registers by name

A name takes accesses of one width, and two names may stand for one register. What is
written under a name is what all names of that register read, as far as their width
reaches, and no other name reads anything new. Saved contexts restore them all.
-/

namespace GuestMachine

inductive RegisterWidth where
  | word
  | double
  /-- A vector register, as its low and high half. -/
  | vector
  deriving Repr, DecidableEq

namespace RegisterWidth

abbrev Value : RegisterWidth → Type
  | word => UInt32
  | double => UInt64
  | vector => UInt64 × UInt64

def bits : RegisterWidth → UInt32
  | word => 32
  | double => 64
  | vector => 128

/-- A value as it is stored. -/
def extend : (width : RegisterWidth) → width.Value → BitVec 128
  | word, value => value.toBitVec.setWidth 128
  | double, value => value.toBitVec.setWidth 128
  | vector, (low, high) => high.toBitVec ++ low.toBitVec

/-- What an access of this width sees of what is stored. -/
def view : (width : RegisterWidth) → BitVec 128 → width.Value
  | word, stored => UInt32.ofBitVec (stored.setWidth 32)
  | double, stored => UInt64.ofBitVec (stored.setWidth 64)
  | vector, stored =>
      (UInt64.ofBitVec (stored.extractLsb' 0 64), UInt64.ofBitVec (stored.extractLsb' 64 64))

@[simp]
theorem view_extend (width : RegisterWidth) (value : width.Value) :
    width.view (width.extend value) = value := by
  cases width with
  | word => exact congrArg UInt32.ofBitVec (BitVec.setWidth_setWidth_of_le _ (by decide))
  | double => exact congrArg UInt64.ofBitVec (BitVec.setWidth_setWidth_of_le _ (by decide))
  | vector =>
      obtain ⟨low, high⟩ := value
      simp only [view, extend, BitVec.extractLsb'_append_eq_left,
        BitVec.extractLsb'_append_eq_right]

theorem view_double_extend_word (value : UInt32) :
    view .double (extend .word value) = value.toUInt64 :=
  congrArg UInt64.ofBitVec (BitVec.setWidth_setWidth_of_le _ (by decide))

theorem view_word_extend_double (value : UInt64) :
    view .word (extend .double value) = value.toUInt32 :=
  congrArg UInt32.ofBitVec (BitVec.setWidth_setWidth_of_le _ (by decide))

end RegisterWidth

/-- Everything that a name may stand for. -/
inductive Storage where
  | place (place : Place)
  | pc
  | tpidrEl0
  | tpidrroEl0
  deriving DecidableEq

/-- The storage has room for the value. -/
def Storage.Fits (bits : BitVec 128) : Storage → Prop
  | .place target => target.Fits bits
  | .pc | .tpidrEl0 | .tpidrroEl0 => (bits.setWidth 64).setWidth 128 = bits

theorem Storage.fits_of_small {n : Nat} (bits : BitVec n) (small : n ≤ 64) (storage : Storage) :
    storage.Fits (bits.setWidth 128) := by
  cases storage with
  | place target => exact target.fits_of_small bits small
  | pc | tpidrEl0 | tpidrroEl0 => exact Place.fits_of_small bits small .sp

namespace Register

def width : Register → RegisterWidth
  | w _ | wzr => .word
  | x _ | xzr | sp | pc | tpidrEl0 | tpidrroEl0 => .double
  | v _ => .vector

/-- There is a register of this index. -/
def InRange : Register → Prop
  | w n | x n => n < 31
  | v n => n < 32
  | wzr | xzr | sp | pc | tpidrEl0 | tpidrroEl0 => True

instance : DecidablePred InRange
  | w n | x n => inferInstanceAs (Decidable (n < 31))
  | v n => inferInstanceAs (Decidable (n < 32))
  | wzr | xzr | sp | pc | tpidrEl0 | tpidrroEl0 => inferInstanceAs (Decidable True)

/-- What a name stands for. Nothing is behind the zero registers. -/
def storage? : Register → Option Storage
  | w n | x n => if inside : n < 31 then some (.place (.x ⟨n, inside⟩)) else none
  | v n => if inside : n < 32 then some (.place (.v ⟨n, inside⟩)) else none
  | wzr | xzr => none
  | sp => some (.place .sp)
  | pc => some .pc
  | tpidrEl0 => some .tpidrEl0
  | tpidrroEl0 => some .tpidrroEl0

theorem storage?_w {n : Nat} (inside : n < 31) :
    storage? (.w n) = some (.place (.x ⟨n, inside⟩)) :=
  dif_pos inside

theorem storage?_x {n : Nat} (inside : n < 31) :
    storage? (.x n) = some (.place (.x ⟨n, inside⟩)) :=
  dif_pos inside

theorem storage?_v {n : Nat} (inside : n < 32) :
    storage? (.v n) = some (.place (.v ⟨n, inside⟩)) :=
  dif_pos inside

theorem inRange_of_storage {reg : Register} (there : reg.storage? ≠ none) : reg.InRange := by
  cases reg with
  | w n | x n | v n => exact Decidable.byContradiction fun outside => there (dif_neg outside)
  | wzr | xzr | sp | pc | tpidrEl0 | tpidrroEl0 => trivial

end Register

/-- Write a register as a value of this width. -/
def ContextM.write (reg : Register) : (width : RegisterWidth) → width.Value → ContextM Unit
  | .word, value => ContextM.set32 reg value
  | .double, value => ContextM.set64 reg value
  | .vector, (low, high) => ContextM.set128 reg low high

namespace ThreadContext

def stored (ctx : ThreadContext) : Storage → BitVec 128
  | .place place => ctx.registers.get place
  | .pc => ctx.registers.pc.toBitVec.setWidth 128
  | .tpidrEl0 => ctx.tpidrEl0.toBitVec.setWidth 128
  | .tpidrroEl0 => ctx.tpidrroEl0.toBitVec.setWidth 128

def store (ctx : ThreadContext) (value : BitVec 128) : Storage → ThreadContext
  | .place place => { ctx with registers := ctx.registers.put value place }
  | .pc => { ctx with registers.pc := UInt64.ofBitVec (value.setWidth 64) }
  | .tpidrEl0 => { ctx with tpidrEl0 := UInt64.ofBitVec (value.setWidth 64) }
  | .tpidrroEl0 => { ctx with tpidrroEl0 := UInt64.ofBitVec (value.setWidth 64) }

/-- What is behind a name, which is zero if nothing is. -/
def behind (ctx : ThreadContext) (reg : Register) : BitVec 128 :=
  reg.storage?.elim 0 ctx.stored

/-- Store a value behind a name, if anything is. -/
def putBehind (ctx : ThreadContext) (reg : Register) (value : BitVec 128) : ThreadContext :=
  reg.storage?.elim ctx (ctx.store value)

def read (ctx : ThreadContext) (reg : Register) :
    (width : RegisterWidth) → Except CpuError width.Value
  | .word => ctx.get32 reg
  | .double => ctx.get64 reg
  | .vector => ctx.get128 reg

/-- The context after `ContextM.write`. -/
def write (ctx : ThreadContext) (reg : Register) (width : RegisterWidth) (value : width.Value) :
    Except CpuError ThreadContext :=
  (ContextM.write reg width value).result ctx

open Register RegisterWidth

/-- A read succeeds on names of its width with a register, and finds what is behind them. -/
theorem read_eq (ctx : ThreadContext) (reg : Register) (width : RegisterWidth) :
    ctx.read reg width =
      if reg.width = width ∧ reg.InRange then .ok (width.view (ctx.behind reg))
      else .error (.invalidRegister reg.name width.bits) := by
  cases width with
  | word =>
      cases reg with
      | w n =>
          by_cases inside : n < 31
          · rw [if_pos ⟨rfl, inside⟩, behind, storage?_w inside]
            exact (dif_pos inside).trans (congrArg Except.ok (view_word_extend_double _).symm)
          · exact (dif_neg inside).trans (if_neg fun both => inside both.2).symm
      | wzr | x | xzr | sp | pc | v | tpidrEl0 | tpidrroEl0 => rfl
  | double =>
      cases reg with
      | x n =>
          by_cases inside : n < 31
          · rw [if_pos ⟨rfl, inside⟩, behind, storage?_x inside]
            exact (dif_pos inside).trans (congrArg Except.ok (view_extend .double _).symm)
          · exact (dif_neg inside).trans (if_neg fun both => inside both.2).symm
      | sp | pc | tpidrEl0 | tpidrroEl0 =>
          exact congrArg Except.ok (view_extend .double _).symm
      | xzr | w | wzr | v => rfl
  | vector =>
      cases reg with
      | v n =>
          by_cases inside : n < 32
          · rw [if_pos ⟨rfl, inside⟩, behind, storage?_v inside]
            exact dif_pos inside
          · exact (dif_neg inside).trans (if_neg fun both => inside both.2).symm
      | w | wzr | x | xzr | sp | pc | tpidrEl0 | tpidrroEl0 => rfl

/-- A write succeeds where a read does, and changes nothing elsewhere. -/
theorem run_write (ctx : ThreadContext) (reg : Register) (width : RegisterWidth)
    (value : width.Value) :
    ContextM.write reg width value ctx =
      if reg.width = width ∧ reg.InRange then .ok () (ctx.putBehind reg (width.extend value))
      else .error (.invalidRegister reg.name width.bits) ctx := by
  cases width with
  | word =>
      cases reg with
      | w n =>
          by_cases inside : n < 31
          · rw [if_pos ⟨rfl, inside⟩, putBehind, storage?_w inside]
            exact (congrFun (dif_pos inside) ctx).trans (congrArg (EStateM.Result.ok ())
              (congrArg (fun word => { ctx with registers.x := ctx.registers.x.set n word })
                (view_double_extend_word value).symm))
          · exact (congrFun (dif_neg inside) ctx).trans (if_neg fun both => inside both.2).symm
      | wzr | x | xzr | sp | pc | v | tpidrEl0 | tpidrroEl0 => rfl
  | double =>
      have seen := (view_extend .double value).symm
      cases reg with
      | x n =>
          by_cases inside : n < 31
          · rw [if_pos ⟨rfl, inside⟩, putBehind, storage?_x inside]
            exact (congrFun (dif_pos inside) ctx).trans (congrArg (EStateM.Result.ok ())
              (congrArg (fun word => { ctx with registers.x := ctx.registers.x.set n word }) seen))
          · exact (congrFun (dif_neg inside) ctx).trans (if_neg fun both => inside both.2).symm
      | sp =>
          exact congrArg (fun word => EStateM.Result.ok () { ctx with registers.sp := word }) seen
      | pc =>
          exact congrArg (fun word => EStateM.Result.ok () { ctx with registers.pc := word }) seen
      | tpidrEl0 =>
          exact congrArg (fun word => EStateM.Result.ok () { ctx with tpidrEl0 := word }) seen
      | tpidrroEl0 =>
          exact congrArg (fun word => EStateM.Result.ok () { ctx with tpidrroEl0 := word }) seen
      | xzr | w | wzr | v => rfl
  | vector =>
      cases reg with
      | v n =>
          by_cases inside : n < 32
          · rw [if_pos ⟨rfl, inside⟩, putBehind, storage?_v inside]
            exact congrFun (dif_pos inside) ctx
          · exact (congrFun (dif_neg inside) ctx).trans (if_neg fun both => inside both.2).symm
      | w | wzr | x | xzr | sp | pc | tpidrEl0 | tpidrroEl0 => rfl

theorem write_atomic (reg : Register) (width : RegisterWidth) (value : width.Value) :
    Operation.Atomic (ContextM.write reg width value) := by
  intro ctx error after rejected
  rw [run_write] at rejected
  split at rejected
  · cases rejected
  · cases rejected
    rfl

theorem write_eq (ctx : ThreadContext) (reg : Register) (width : RegisterWidth)
    (value : width.Value) :
    ctx.write reg width value =
      if reg.width = width ∧ reg.InRange then .ok (ctx.putBehind reg (width.extend value))
      else .error (.invalidRegister reg.name width.bits) := by
  rw [write, Operation.result, run_write]
  by_cases valid : reg.width = width ∧ reg.InRange
  · rw [if_pos valid, if_pos valid]
  · rw [if_neg valid, if_neg valid]

section

variable {ctx : ThreadContext} {storage other : Storage} {bits : BitVec 128}

theorem stored_store_self (fits : storage.Fits bits) :
    (ctx.store bits storage).stored storage = bits := by
  cases storage with
  | place place => exact RegisterFile.get_put_self fits
  | pc | tpidrEl0 | tpidrroEl0 => exact fits

theorem stored_store_of_ne (different : other ≠ storage) :
    (ctx.store bits storage).stored other = ctx.stored other := by
  cases storage with
  | place place =>
      cases other with
      | place place' =>
          exact RegisterFile.get_put_of_ne fun same => different (congrArg Storage.place same)
      | pc => cases place <;> rfl
      | tpidrEl0 | tpidrroEl0 => rfl
  | pc =>
      cases other with
      | place place => rfl
      | pc => exact absurd rfl different
      | tpidrEl0 | tpidrroEl0 => rfl
  | tpidrEl0 =>
      cases other with
      | place place => rfl
      | tpidrEl0 => exact absurd rfl different
      | pc | tpidrroEl0 => rfl
  | tpidrroEl0 =>
      cases other with
      | place place => rfl
      | tpidrroEl0 => exact absurd rfl different
      | pc | tpidrEl0 => rfl

theorem store_keeps (ctx : ThreadContext) (bits : BitVec 128) (storage : Storage) :
    (ctx.store bits storage).registers.nzcv = ctx.registers.nzcv ∧
      (ctx.store bits storage).registers.fpcr = ctx.registers.fpcr ∧
      (ctx.store bits storage).registers.fpsr = ctx.registers.fpsr := by
  cases storage with
  | place place => cases place <;> exact ⟨rfl, rfl, rfl⟩
  | pc | tpidrEl0 | tpidrroEl0 => exact ⟨rfl, rfl, rfl⟩

end

/-- Only vector registers take values of more than 64 bits. -/
theorem fits_extend {reg : Register} {storage : Storage} (there : reg.storage? = some storage)
    (value : reg.width.Value) : storage.Fits (reg.width.extend value) := by
  cases reg with
  | w n | wzr => exact storage.fits_of_small (UInt32.toBitVec value) (by decide)
  | x n | xzr | sp | pc | tpidrEl0 | tpidrroEl0 =>
      exact storage.fits_of_small (UInt64.toBitVec value) (by decide)
  | v n =>
      simp only [storage?] at there
      split at there
      · cases there
        trivial
      · cases there

section

variable {ctx : ThreadContext} {reg reg' : Register}

theorem behind_putBehind_self (value : reg.width.Value) (there : reg.storage? ≠ none)
    (same : reg'.storage? = reg.storage?) :
    (ctx.putBehind reg (reg.width.extend value)).behind reg' = reg.width.extend value := by
  obtain ⟨storage, stored⟩ := Option.ne_none_iff_exists'.mp there
  rw [putBehind, behind, same, stored]
  exact stored_store_self (fits_extend stored value)

theorem behind_putBehind_of_ne (bits : BitVec 128)
    (apart : reg'.storage? = none ∨ reg'.storage? ≠ reg.storage?) :
    (ctx.putBehind reg bits).behind reg' = ctx.behind reg' := by
  unfold behind putBehind
  cases target : reg.storage? with
  | none => rfl
  | some storage =>
      cases found : reg'.storage? with
      | none => rfl
      | some other =>
          apply stored_store_of_ne
          rintro rfl
          cases apart with
          | inl nothing => cases found.symm.trans nothing
          | inr different => exact different (found.trans target.symm)

end

theorem putBehind_keeps (ctx : ThreadContext) (reg : Register) (bits : BitVec 128) :
    (ctx.putBehind reg bits).registers.nzcv = ctx.registers.nzcv ∧
      (ctx.putBehind reg bits).registers.fpcr = ctx.registers.fpcr ∧
      (ctx.putBehind reg bits).registers.fpsr = ctx.registers.fpsr := by
  unfold putBehind
  cases reg.storage? with
  | none => exact ⟨rfl, rfl, rfl⟩
  | some storage => exact ctx.store_keeps bits storage

/-- What a write that was accepted leaves. -/
structure Writes (before : ThreadContext) (reg : Register) (width : RegisterWidth)
    (value : width.Value) (after : ThreadContext) : Prop where
  itself : reg.storage? ≠ none → after.read reg width = .ok value
  /-- Other names of the same register. -/
  aliases : reg.storage? ≠ none → ∀ reg', reg'.storage? = reg.storage? →
    after.read reg' reg'.width = .ok (reg'.width.view (width.extend value))
  others : ∀ reg' width', reg'.storage? = none ∨ reg'.storage? ≠ reg.storage? →
    after.read reg' width' = before.read reg' width'
  wzr : after.get32 .wzr = .ok 0
  xzr : after.get64 .xzr = .ok 0
  nzcv : after.registers.nzcv = before.registers.nzcv
  fpcr : after.registers.fpcr = before.registers.fpcr
  fpsr : after.registers.fpsr = before.registers.fpsr

theorem write_eq_ok {ctx after : ThreadContext} {reg : Register} {width : RegisterWidth}
    {value : width.Value} (accepted : ctx.write reg width value = .ok after) :
    (reg.width = width ∧ reg.InRange) ∧ after = ctx.putBehind reg (width.extend value) := by
  rw [write_eq] at accepted
  split at accepted
  · rename_i valid
    cases accepted
    exact ⟨valid, rfl⟩
  · cases accepted

theorem writes_of_write {ctx after : ThreadContext} {reg : Register} {width : RegisterWidth}
    {value : width.Value} (accepted : ctx.write reg width value = .ok after) :
    ctx.Writes reg width value after := by
  obtain ⟨⟨rfl, inRange⟩, rfl⟩ := write_eq_ok accepted
  have aliases (there : reg.storage? ≠ none) (reg' : Register)
      (same : reg'.storage? = reg.storage?) :
      (ctx.putBehind reg (reg.width.extend value)).read reg' reg'.width =
        .ok (reg'.width.view (reg.width.extend value)) := by
    have inRange' : reg'.InRange := inRange_of_storage (same ▸ there)
    rw [read_eq, if_pos ⟨rfl, inRange'⟩, behind_putBehind_self value there same]
  obtain ⟨nzcv, fpcr, fpsr⟩ := ctx.putBehind_keeps reg (reg.width.extend value)
  exact {
    itself there := (aliases there reg rfl).trans (congrArg Except.ok (view_extend _ value))
    aliases := aliases
    others reg' width' apart := by rw [read_eq, read_eq, behind_putBehind_of_ne _ apart]
    wzr := rfl
    xzr := rfl
    nzcv := nzcv
    fpcr := fpcr
    fpsr := fpsr }

section

variable {ctx after : ThreadContext} {n : Nat}

theorem get64_of_set32 {word : UInt32} (accepted : ctx.set32 (.w n) word = .ok after) :
    after.get64 (.x n) = .ok word.toUInt64 := by
  have written : ctx.write (.w n) .word word = .ok after := accepted
  have inside : n < 31 := (write_eq_ok written).1.2
  have there : storage? (.w n) ≠ none := storage?_w inside ▸ Option.some_ne_none _
  exact ((writes_of_write written).aliases there (.x n) rfl).trans
    (congrArg Except.ok (view_double_extend_word word))

theorem get32_of_set64 {double : UInt64} (accepted : ctx.set64 (.x n) double = .ok after) :
    after.get32 (.w n) = .ok double.toUInt32 := by
  have written : ctx.write (.x n) .double double = .ok after := accepted
  have inside : n < 31 := (write_eq_ok written).1.2
  have there : storage? (.x n) ≠ none := storage?_x inside ▸ Option.some_ne_none _
  exact ((writes_of_write written).aliases there (.w n) rfl).trans
    (congrArg Except.ok (view_word_extend_double double))

theorem vector_of_set128 {low high : UInt64} (accepted : ctx.set128 (.v n) low high = .ok after) :
    ∃ inside : n < 32, after.registers.v[n] = high.toBitVec ++ low.toBitVec := by
  have written : ctx.write (.v n) .vector (low, high) = .ok after := accepted
  obtain ⟨⟨-, inside⟩, rfl⟩ := write_eq_ok written
  refine ⟨inside, ?_⟩
  rw [putBehind, storage?_v inside]
  exact Vector.getElem_set_self inside

end

end ThreadContext

inductive RegisterUpdate where
  | named (reg : Register) (width : RegisterWidth) (value : width.Value)
  | fpcr (value : UInt32)
  | fpsr (value : UInt32)

/-- What an update leaves, whether it is accepted or not. -/
def ThreadContext.update (ctx : ThreadContext) : RegisterUpdate → ThreadContext
  | .named reg width value => ((ContextM.write reg width value).attempt ctx).2
  | .fpcr value => ctx.setFpcr value
  | .fpsr value => ctx.setFpsr value

def Core.updateAll (core : Core) (updates : List RegisterUpdate) : Core :=
  { core with context := updates.foldl ThreadContext.update core.context }

/-- Names take accesses of their width, if there is a register of their index, and reject
    all others without a change. A write is read back under the names of its register and
    seen under no other name, and the zero registers stay zero. Loading a saved context
    undoes every update since, on any core. -/
theorem registers_by_name (core : Core) (reg : Register) (width : RegisterWidth)
    (value : width.Value) :
    let ctx := core.context
    ((∃ found, ctx.read reg width = .ok found) ↔ reg.width = width ∧ reg.InRange) ∧
      ((∃ after, ctx.write reg width value = .ok after) ↔ reg.width = width ∧ reg.InRange) ∧
      (∀ error, ctx.write reg width value = .error error →
        error = .invalidRegister reg.name width.bits ∧
          ctx.read reg width = .error error ∧ ctx.update (.named reg width value) = ctx) ∧
      (∀ after, ctx.write reg width value = .ok after → ctx.Writes reg width value after) ∧
      (∀ n after word, ctx.set32 (.w n) word = .ok after →
        after.get64 (.x n) = .ok word.toUInt64) ∧
      (∀ n after double, ctx.set64 (.x n) double = .ok after →
        after.get32 (.w n) = .ok double.toUInt32) ∧
      (∀ n after low high, ctx.set128 (.v n) low high = .ok after →
        ∃ inside : n < 32, after.registers.v[n] = high.toBitVec ++ low.toBitVec) ∧
      (∀ updates, (core.updateAll updates).loadContext core.saveContext = core) ∧
      ∀ other : Core, (other.loadContext core.saveContext).context.read reg width =
        ctx.read reg width := by
  intro ctx
  have readEq := ctx.read_eq reg width
  have writeEq := ctx.write_eq reg width value
  refine ⟨?_, ?_, ?_, fun _ => ThreadContext.writes_of_write,
    fun _ _ _ => ThreadContext.get64_of_set32, fun _ _ _ => ThreadContext.get32_of_set64,
    fun _ _ _ _ => ThreadContext.vector_of_set128, fun _ => rfl, fun _ => rfl⟩
  · by_cases valid : reg.width = width ∧ reg.InRange
    · simp [readEq, valid]
    · simp [readEq, valid]
  · by_cases valid : reg.width = width ∧ reg.InRange
    · simp [writeEq, valid]
    · simp [writeEq, valid]
  · intro error rejected
    have kept : ctx.update (.named reg width value) = ctx := by
      rw [ThreadContext.update, (ThreadContext.write_atomic reg width value).attempt_eq,
        ← ThreadContext.write, rejected]
    rw [writeEq] at rejected
    split at rejected
    · cases rejected
    · rename_i invalid
      cases rejected
      exact ⟨rfl, readEq.trans (if_neg invalid), kept⟩

/-- What is written to W3 arrives in X3, and there is no register for X31. -/
theorem w3_seen_as_x3 :
    let core : Core := { index := 0, line := 0, monitor := none, maxBlockInstructions := 1 }
    ∃ after, core.context.write (.w 3) .word 0x80000001 = .ok after ∧
      core.context.Writes (.w 3) .word 0x80000001 after ∧
      after.get64 (.x 3) = .ok 0x80000001 ∧
      core.context.update (.named (.x 31) .double 1) = core.context := by
  intro core
  obtain ⟨-, written, -, writes, aliases, -⟩ := registers_by_name core (.w 3) .word 0x80000001
  obtain ⟨-, -, rejected, -⟩ := registers_by_name core (.x 31) .double 1
  obtain ⟨after, accepted⟩ := written.mpr ⟨rfl, by decide⟩
  exact ⟨after, accepted, writes after accepted, aliases 3 after _ accepted,
    (rejected _ rfl).2.2⟩

end GuestMachine
