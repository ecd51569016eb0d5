import Std.Data.TreeMap.Lemmas
import GuestMachine.Memory.Layout
import GuestMachine.Proofs.Memory.ByteRange
import GuestMachine.Proofs.Translator.Agreement

/-! # Coherent caches

A cache is coherent with the code of some moment when each of its blocks is the
one that decoding that code gives. Dropping blocks keeps this, inserting a
freshly decoded block keeps it, and when the code changes it is enough to drop
the blocks on which a word changed.
-/

namespace GuestMachine

open A64

/-- The words that can be fetched at some moment, by address. -/
abbrev CodeImage := Address → Option (BitVec 32)

def codeImage (env : Environment σ) (s : σ) : CodeImage :=
  fun addr => (env.readCode addr s).1

/-- Code can be fetched at the same addresses, all below the end of the address
    space. -/
structure CodeImage.FetchedFrom (fetchable : Address → Prop) (code : CodeImage) : Prop where
  isSome_iff : ∀ addr, (code addr).isSome ↔ fetchable addr
  below : ∀ addr, fetchable addr → addr.toNat < Layout.addressSpaceSize

theorem CodeImage.FetchedFrom.next {fetchable : Address → Prop} {code : CodeImage}
    (fetched : code.FetchedFrom fetchable) {pc : Address} {word : BitVec 32}
    (here : code pc = some word) :
    pc.toNat < Layout.addressSpaceSize ∧ (pc + 4).toNat = pc.toNat + 4 := by
  have low := fetched.below pc ((fetched.isSome_iff pc).mp (by rw [here]; rfl))
  refine ⟨low, ?_⟩
  rw [UInt64.toNat_add]
  exact Nat.mod_eq_of_lt (Nat.lt_of_lt_of_le (Nat.add_lt_add_right low 4) (by decide))

namespace Block

def decodeIn (code : CodeImage) (pc : Address) : (limit : Nat) → List Instruction
  | 0 => []
  | limit + 1 =>
      match code pc with
      | none => []
      | some word =>
          if (decode word).endsBlock then [decode word]
          else decode word :: decodeIn code (pc + 4) limit

def ofCode (code : CodeImage) (limit : Nat) (start : Address) : Option Block :=
  match decodeIn code start (max limit 1) with
  | [] => none
  | instructions =>
      some { start, finish := start + UInt64.ofNat (4 * instructions.length), instructions }

theorem ofCode_eq_some_iff {code : CodeImage} {limit : Nat} {pc : Address} {block : Block} :
    ofCode code limit pc = some block ↔
      0 < block.instructions.length ∧ block.start = pc ∧
        block.instructions = decodeIn code pc (max limit 1) ∧
        block.finish = pc + UInt64.ofNat (4 * block.instructions.length) := by
  rw [ofCode]
  cases decoded : decodeIn code pc (max limit 1) with
  | nil =>
      refine iff_of_false (by simp) ?_
      rintro ⟨nonempty, _, empty, _⟩
      rw [empty] at nonempty
      exact Nat.lt_irrefl 0 nonempty
  | cons first rest =>
      dsimp only
      constructor
      · rintro ⟨⟩
        exact ⟨Nat.succ_pos _, rfl, rfl, rfl⟩
      · rintro ⟨_, start, instructions, finish⟩
        obtain ⟨_, _, _⟩ := block
        dsimp only at start instructions finish
        rw [finish, start, instructions]

section

variable {fetchable : Address → Prop} {code later : CodeImage}

/-- A block of fetched words does not wrap around. -/
theorem extent_decodeIn (fetched : code.FetchedFrom fetchable) (pc : Address) (limit : Nat)
    (nonempty : 0 < (decodeIn code pc limit).length) :
    pc.toNat + 4 * (decodeIn code pc limit).length < Layout.addressSpaceSize + 4 := by
  induction limit generalizing pc with
  | zero => exact absurd nonempty (Nat.lt_irrefl 0)
  | succ limit ih =>
      rw [decodeIn] at nonempty ⊢
      cases word : code pc with
      | none => simp [word] at nonempty
      | some word' =>
          obtain ⟨low, next⟩ := fetched.next word
          dsimp only
          split
          · simp only [List.length_cons, List.length_nil]
            omega
          · rw [List.length_cons]
            rcases Nat.eq_zero_or_pos (decodeIn code (pc + 4) limit).length with empty | more
            · omega
            · have := ih (pc + 4) more
              omega

/-- Decoding looks at the words of the block and at where code can be fetched. -/
theorem decodeIn_congr (fetched : code.FetchedFrom fetchable)
    (fetched' : later.FetchedFrom fetchable) (pc : Address) (limit : Nat)
    (same : ∀ addr, pc.toNat ≤ addr.toNat →
      addr.toNat + 4 ≤ pc.toNat + 4 * (decodeIn code pc limit).length → code addr = later addr) :
    decodeIn later pc limit = decodeIn code pc limit := by
  induction limit generalizing pc with
  | zero => rfl
  | succ limit ih =>
      rw [decodeIn] at same
      rw [decodeIn, decodeIn]
      cases word : code pc with
      | none =>
          have absent : later pc = none := by
            rw [← Option.not_isSome_iff_eq_none, fetched'.isSome_iff, ← fetched.isSome_iff, word]
            simp
          rw [absent]
      | some word' =>
          obtain ⟨low, next⟩ := fetched.next word
          rw [word] at same
          dsimp only at same ⊢
          split at same
          · rename_i last
            have here : later pc = some word' := by
              rw [← same pc (Nat.le_refl _) (by simp), word]
            simp only [here, last, if_true]
          · rename_i more
            rw [List.length_cons] at same
            have here : later pc = some word' := by
              rw [← same pc (Nat.le_refl _) (by omega), word]
            have rest := ih (pc + 4) fun addr lower upper => same addr (by omega) (by omega)
            simp only [here, more, if_false, rest, Bool.false_eq_true]

theorem overlaps_iff (fetched : code.FetchedFrom fetchable) {limit : Nat} {pc : Address}
    {block : Block} (fresh : ofCode code limit pc = some block) {addr size : UInt64}
    (given : 0 < size.toNat) :
    block.overlaps addr size ↔
      SharesByte addr.toNat size.toNat pc.toNat (4 * block.instructions.length) := by
  obtain ⟨nonempty, start, instructions, finish⟩ := ofCode_eq_some_iff.mp fresh
  have room : pc.toNat + 4 * block.instructions.length < Layout.addressSpaceSize + 4 := by
    rw [instructions] at nonempty ⊢
    exact extent_decodeIn fetched pc _ nonempty
  have top : Layout.addressSpaceSize + 4 < 2 ^ 64 - 1 := by decide
  have length : (UInt64.ofNat (4 * block.instructions.length)).toNat =
      4 * block.instructions.length := by
    apply UInt64.toNat_ofNat_of_lt'
    change _ < 2 ^ 64
    omega
  have extent : block.finish.toNat = pc.toNat + 4 * block.instructions.length := by
    rw [finish, UInt64.toNat_add, length]
    exact Nat.mod_eq_of_lt (by omega)
  rw [overlaps, Bool.and_eq_true, decide_eq_true_eq, decide_eq_true_eq, start]
  exact sharesByte_iff_lt given (Nat.mul_pos (by decide) nonempty) extent (by omega)

end

end Block

namespace BlockCache

theorem find?_empty (pc : Address) : empty.find? pc = none := by
  simp [find?, empty]

theorem find?_insert (cache : BlockCache) (block : Block) (pc : Address) :
    (cache.insert block).find? pc = if block.start = pc then some block else cache.find? pc := by
  simp [find?, insert, Std.TreeMap.getElem?_insert]

theorem find?_invalidate_iff {cache : BlockCache} {addr : Address} {size : UInt64} {pc : Address}
    {block : Block} :
    (cache.invalidate addr size).find? pc = some block ↔
      cache.find? pc = some block ∧ ¬ block.overlaps addr size := by
  simp [find?, invalidate]

theorem find?_invalidateAll_iff {cache : BlockCache} {ranges : List (Address × UInt64)}
    {pc : Address} {block : Block} :
    (cache.invalidateAll ranges).find? pc = some block ↔
      cache.find? pc = some block ∧ ∀ range ∈ ranges, ¬ block.overlaps range.1 range.2 := by
  rw [invalidateAll]
  induction ranges generalizing cache with
  | nil => simp
  | cons range rest ih =>
      rw [List.foldl_cons, ih, find?_invalidate_iff, List.forall_mem_cons, and_assoc]

end BlockCache

/-- Every cached block is the one that decoding `code` gives. -/
def Coherent (limit : Nat) (code : CodeImage) (cache : BlockCache) : Prop :=
  ∀ pc block, cache.find? pc = some block → Block.ofCode code limit pc = some block

/-- Wherever the word changed, a range with a byte of it was given. -/
def Announces (ranges : List (Address × UInt64)) (before after : CodeImage) : Prop :=
  ∀ addr, before addr ≠ after addr → ∃ range ∈ ranges, 0 < range.2.toNat ∧
    SharesByte range.1.toNat range.2.toNat addr.toNat 4

theorem coherent_empty (limit : Nat) (code : CodeImage) : Coherent limit code BlockCache.empty := by
  intro pc block found
  rw [BlockCache.find?_empty] at found
  cases found

section

variable {limit : Nat} {code later : CodeImage} {cache : BlockCache}

theorem Coherent.insert (coherent : Coherent limit code cache) {pc : Address} {block : Block}
    (fresh : Block.ofCode code limit pc = some block) : Coherent limit code (cache.insert block) := by
  intro pc' block' found
  obtain ⟨_, start, _, _⟩ := Block.ofCode_eq_some_iff.mp fresh
  rw [BlockCache.find?_insert, start] at found
  split at found
  · rename_i same
    cases found
    rw [← same, fresh]
  · exact coherent pc' block' found

theorem Coherent.cacheAfter (coherent : Coherent limit code cache) (exit : BlockExit) :
    Coherent limit code (exit.cacheAfter cache) := by
  cases exit with
  | left => exact coherent
  | fault error => exact coherent
  | invalidate range =>
      cases range with
      | none => exact coherent_empty limit code
      | some range =>
          intro pc block found
          exact coherent pc block (BlockCache.find?_invalidate_iff.mp found).1

/-- If every changed word is announced, the blocks that survive the ranges are
    still what decoding gives. -/
theorem Coherent.invalidateAll {fetchable : Address → Prop} {ranges : List (Address × UInt64)}
    (coherent : Coherent limit code cache) (fetched : code.FetchedFrom fetchable)
    (fetched' : later.FetchedFrom fetchable) (announced : Announces ranges code later) :
    Coherent limit later (cache.invalidateAll ranges) := by
  intro pc block found
  obtain ⟨held, spared⟩ := BlockCache.find?_invalidateAll_iff.mp found
  have fresh := coherent pc block held
  obtain ⟨nonempty, start, instructions, finish⟩ := Block.ofCode_eq_some_iff.mp fresh
  have unchanged : ∀ addr : Address, pc.toNat ≤ addr.toNat →
      addr.toNat + 4 ≤ pc.toNat + 4 * block.instructions.length → code addr = later addr := by
    intro addr lower upper
    -- A word that changed was announced, and its range would have dropped the block.
    by_contra changed
    obtain ⟨range, member, given, i, inRange, inWord⟩ := announced addr changed
    apply spared range member
    rw [Block.overlaps_iff fetched fresh given]
    exact ⟨i, inRange, by omega⟩
  rw [instructions] at unchanged
  have same := Block.decodeIn_congr fetched fetched' pc (max limit 1) unchanged
  exact Block.ofCode_eq_some_iff.mpr ⟨nonempty, start, instructions.trans same.symm, finish⟩

end

/-- States that no hook tells apart, fetching being no more than looking: it
    leads to a state like the one before. The addresses of code are fixed. -/
structure FetchOblivious (env : Environment σ) (alike : σ → σ → Prop)
    (fetchable : Address → Prop) : Prop where
  symm : ∀ s t, alike s t → alike t s
  trans : ∀ s t u, alike s t → alike t u → alike s u
  agree : env.Agree alike env
  fetch : ∀ addr s, alike s s → alike s (env.readCode addr s).2
  fetched : ∀ s, alike s s → (codeImage env s).FetchedFrom fetchable

namespace FetchOblivious

variable {env : Environment σ} {alike : σ → σ → Prop} {fetchable : Address → Prop} {s t : σ}

theorem refl_left (quiet : FetchOblivious env alike fetchable) (same : alike s t) : alike s s :=
  quiet.trans s t s same (quiet.symm s t same)

theorem refl_right (quiet : FetchOblivious env alike fetchable) (same : alike s t) : alike t t :=
  quiet.refl_left (quiet.symm s t same)

theorem codeImage_congr (quiet : FetchOblivious env alike fetchable) (same : alike s t) :
    codeImage env s = codeImage env t :=
  funext fun addr => (quiet.agree.readCode addr s t same).1

theorem decodeFrom_eq (quiet : FetchOblivious env alike fetchable) (pc : Address) (limit : Nat)
    (valid : alike s s) :
    (Block.decodeFrom env pc limit s).1 = Block.decodeIn (codeImage env s) pc limit ∧
      alike s (Block.decodeFrom env pc limit s).2 := by
  induction limit generalizing pc s with
  | zero => exact ⟨rfl, valid⟩
  | succ limit ih =>
      have after := quiet.fetch pc s valid
      rw [Block.decodeFrom, Block.decodeIn]
      simp only [codeImage]
      cases fetched : env.readCode pc s with
      | mk word? s' =>
          rw [fetched] at after
          cases word? with
          | none => exact ⟨rfl, after⟩
          | some word =>
              dsimp only
              split
              · exact ⟨rfl, after⟩
              · obtain ⟨rest, done⟩ := ih (pc + 4) (quiet.refl_right after)
                rw [← quiet.codeImage_congr after] at rest
                exact ⟨congrArg (decode word :: ·) rest, quiet.trans s s' _ after done⟩

theorem translate_eq (quiet : FetchOblivious env alike fetchable) (limit : Nat) (pc : Address)
    (valid : alike s s) :
    (Block.translate env limit pc s).1 = Block.ofCode (codeImage env s) limit pc ∧
      alike s (Block.translate env limit pc s).2 := by
  obtain ⟨decoded, after⟩ := quiet.decodeFrom_eq pc (max limit 1) valid
  rw [Block.translate, Block.ofCode, ← decoded]
  cases found : Block.decodeFrom env pc (max limit 1) s with
  | mk instructions s' =>
      rw [found] at after
      cases instructions with
      | nil => exact ⟨rfl, after⟩
      | cons first rest => exact ⟨rfl, after⟩

end FetchOblivious

end GuestMachine
