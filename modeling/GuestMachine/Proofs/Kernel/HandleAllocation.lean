import Mathlib.Data.Set.Card
import GuestMachine.Proofs.Kernel.Handles

/-! # Which handle comes next

The counter of a handle table goes round the handles: a new handle is the first
free one from the counter on, and where none is left up to the end the search
starts over. It always ends, wherever the counter stands, and a handle that was
issued comes again only after the counter has started over.
-/

namespace GuestMachine

/-- What a process may ask of its handle table. -/
inductive HandleCall where
  | add (object : KernelObject)
  | close (handle : Handle)
  deriving Repr, DecidableEq

inductive HandleReply where
  | opened (handle : Handle)
  /-- With the object that the handle named. -/
  | closed (object : KernelObject)
  | refused (error : KernelError)
  deriving Repr, DecidableEq

namespace HandleTable

variable {table after : HandleTable} {handle other found : Handle} {object : KernelObject}

/-- The search goes on from a handle until it comes to a free one. -/
inductive Finds (table : HandleTable) : Handle → Handle → Prop where
  | here {handle : Handle} (free : table.isFree handle) : Finds table handle handle
  | behind {handle found : Handle} (taken : ¬ table.isFree handle)
      (rest : Finds table (following handle) found) : Finds table handle found

/-- No handle is left from the counter to the end. -/
def Wraps (table : HandleTable) : Prop :=
  ∀ handle, table.next ≤ handle → ¬ table.isFree handle

theorem Finds.isFree (finds : table.Finds handle found) : table.isFree found := by
  induction finds with
  | here free => exact free
  | behind _ _ ih => exact ih

/-- A search that meets a free handle in so many attempts needs no more. -/
theorem finds_firstFree {attempts : Nat} (met : other ∈ tried handle attempts)
    (free : table.isFree other) : table.Finds handle (table.firstFree attempts handle) := by
  induction attempts generalizing handle with
  | zero => cases met
  | succ attempts ih =>
      rw [firstFree]
      split
      · rename_i here
        exact .here here
      · rename_i taken
        rw [tried_succ] at met
        cases met with
        | head => exact absurd free taken
        | tail _ later => exact .behind taken (ih later)

/-- The search does not pass a free handle. -/
theorem Finds.least_ahead (finds : table.Finds handle found)
    (bound : handle.toNat ≤ currentProcessHandle.toNat) (free : table.isFree other)
    (ahead : handle ≤ other) : handle ≤ found ∧ found ≤ other := by
  simp only [UInt32.le_iff_toNat_le] at ahead ⊢
  induction finds with
  | here => exact ⟨Nat.le_refl _, ahead⟩
  | @behind handle found taken _ ih =>
      have distinct : handle.toNat ≠ other.toNat := by
        intro same
        rw [UInt32.toNat_inj.mp same] at taken
        exact taken free
      obtain ⟨_, small⟩ := (isFree_iff.mp free).1
      have next : (following handle).toNat = handle.toNat + 1 := by
        rw [toNat_following bound, if_pos (by omega)]
      have := ih (by omega) (by omega)
      omega

/-- Where there is none ahead it starts over. -/
theorem Finds.least_of_none_ahead (finds : table.Finds handle found)
    (bound : handle.toNat ≤ currentProcessHandle.toNat)
    (none : ∀ other, handle ≤ other → ¬ table.isFree other) (free : table.isFree other) :
    found ≤ other := by
  induction finds with
  | here here => exact absurd here (none _ (UInt32.le_refl _))
  | @behind handle found taken rest ih =>
      have next := toNat_following bound
      split at next
      · rename_i more
        apply ih (by omega)
        intro other ahead
        apply none
        rw [UInt32.le_iff_toNat_le] at ahead ⊢
        omega
      · obtain ⟨positive, _⟩ := (isFree_iff.mp free).1
        have start : following handle ≤ other := by
          rw [UInt32.le_iff_toNat_le]
          omega
        have first : (following handle).toNat ≤ currentProcessHandle.toNat :=
          Nat.le_of_lt (inRange_following bound).2
        exact (rest.least_ahead first free start).2

/-- `handle` is opened to `object`. -/
structure Opens (table : HandleTable) (object : KernelObject) (handle : Handle)
    (after : HandleTable) : Prop where
  finds : table.Finds table.next handle
  nonzero : handle ≠ 0
  real : handle < currentProcessHandle
  closed : table.isOpen handle = false
  /-- It is the first free one from the counter on, or of all once there is none. -/
  least : ∀ other, table.isFree other → (table.Wraps ∨ table.next ≤ other) → handle ≤ other
  wraps : table.Wraps ↔ handle < table.next
  names : after.get handle = .ok object
  others : ∀ other, other ≠ handle → after.get other = table.get other
  counter : after.next.toNat = handle.toNat + 1

/-- `handle` is closed, and nothing else changes. -/
structure Closes (table : HandleTable) (handle : Handle) (after : HandleTable) : Prop where
  gone : after.get handle = .error (.invalidHandle handle)
  others : ∀ other, other ≠ handle → after.get other = table.get other
  counter : after.next = table.next

theorem get_of_get?_eq (same : after.get? handle = table.get? handle) :
    after.get handle = table.get handle := by
  rw [get, get, same]

theorem add_of_room (wellFormed : table.WellFormed) (room : table.size < capacity)
    (object : KernelObject) :
    ∃ handle after, table.add object = .ok (handle, after) ∧
      table.Opens object handle after := by
  obtain ⟨other, met, free⟩ := exists_free wellFormed room
  have finds := finds_firstFree met free
  have added : table.add object = .ok (table.firstFree (table.size + 2) table.next,
      { entries := (table.firstFree (table.size + 2) table.next, object) :: table.entries
        next := table.firstFree (table.size + 2) table.next + 1 }) := by
    rw [add_eq, if_neg (Nat.not_le_of_lt room)]
  generalize table.firstFree (table.size + 2) table.next = handle at finds added
  have chosen := finds.isFree
  have within := (isFree_iff.mp chosen).1
  have issuable := chosen
  simp only [isFree, Bool.and_eq_true, bne_iff_ne, decide_eq_true_eq, Bool.not_eq_true'] at issuable
  obtain ⟨⟨nonzero, real⟩, closed⟩ := issuable
  refine ⟨handle, _, added, finds, nonzero, real, closed, ?_, ?_, ?_, ?_, ?_⟩
  · intro other free start
    rcases start with none | ahead
    · exact finds.least_of_none_ahead wellFormed.next none free
    · exact (finds.least_ahead wellFormed.next free ahead).2
  · constructor
    · intro none
      exact UInt32.not_le.mp fun ahead => none handle ahead chosen
    · intro below other ahead free
      exact UInt32.not_le.mpr below (finds.least_ahead wellFormed.next free ahead).1
  · simp [get, get?]
  · intro other different
    apply get_of_get?_eq
    rw [get?, get?, List.lookup_cons, beq_eq_false_iff_ne.mpr different]
  · obtain ⟨_, small⟩ := within
    rw [toNat_currentProcessHandle] at small
    simp only [UInt32.toNat_add, UInt32.reduceToNat]
    omega

/-- What the other handles name does not depend on the one that is taken out. -/
theorem lookup_filter_ne (entries : List (Handle × KernelObject)) (handle other : Handle) :
    (entries.filter (·.1 != handle)).lookup other =
      if other = handle then none else entries.lookup other := by
  induction entries with
  | nil => simp
  | cons entry rest ih =>
      obtain ⟨first, object⟩ := entry
      by_cases taken : first = handle
      · subst taken
        rw [List.filter_cons_of_neg (by simp), ih, List.lookup_cons]
        by_cases here : other = first
        · rw [if_pos here, if_pos here]
        · rw [if_neg here, if_neg here, beq_eq_false_iff_ne.mpr here]
      · rw [List.filter_cons_of_pos (by simpa using taken), List.lookup_cons, List.lookup_cons, ih]
        by_cases here : other = first
        · rw [here, beq_self_eq_true, if_neg taken, if_neg taken]
        · rw [beq_eq_false_iff_ne.mpr here]

theorem close_of_open (named : table.get? handle = some object) :
    ∃ after, table.close handle = .ok (object, after) ∧ table.Closes handle after := by
  refine ⟨{ table with entries := table.entries.filter (·.1 != handle) }, ?_, ?_, ?_, rfl⟩
  · rw [close_eq, get, named]
    rfl
  · rw [get, get?, lookup_filter_ne, if_pos rfl]
  · intro other different
    apply get_of_get?_eq
    rw [get?, lookup_filter_ne, if_neg different]
    rfl

/-- The answer to a call, and the table that the call leaves. -/
def perform (table : HandleTable) : HandleCall → HandleReply × HandleTable
  | .add object => (HandleM.add object).answer .opened .refused table
  | .close handle => (HandleM.close handle).answer .closed .refused table

theorem perform_add (table : HandleTable) (object : KernelObject) :
    table.perform (.add object) = match table.add object with
      | .ok (handle, after) => (.opened handle, after)
      | .error error => (.refused error, table) := by
  rw [perform, (HandleM.add_atomic object).answer_eq, add]
  cases (HandleM.add object).outcome table <;> rfl

theorem perform_close (table : HandleTable) (handle : Handle) :
    table.perform (.close handle) = match table.close handle with
      | .ok (object, after) => (.closed object, after)
      | .error error => (.refused error, table) := by
  rw [perform, (HandleM.close_atomic handle).answer_eq, close]
  cases (HandleM.close handle).outcome table <;> rfl

def performAll (table : HandleTable) (calls : List HandleCall) : HandleTable :=
  calls.foldl (fun table call => (table.perform call).2) table

theorem performAll_append (table : HandleTable) (first second : List HandleCall) :
    table.performAll (first ++ second) = (table.performAll first).performAll second :=
  List.foldl_append

/-- The call opens a handle from below the counter. -/
def StartsOver (table : HandleTable) (call : HandleCall) : Prop :=
  ∃ handle, (table.perform call).1 = .opened handle ∧ handle < table.next

/-- Some of the calls makes the counter start over. -/
def Laps : HandleTable → List HandleCall → Prop
  | _, [] => False
  | table, call :: rest => table.StartsOver call ∨ (table.perform call).2.Laps rest

/-- How a table deals with any call, and with any that come later. -/
structure Allots (table : HandleTable) : Prop where
  counted : {handle | table.isOpen handle}.ncard = table.size
  opens : ∀ object, table.size < capacity → ∃ handle after,
    table.perform (.add object) = (.opened handle, after) ∧ table.Opens object handle after
  full : ∀ object, capacity ≤ table.size →
    table.perform (.add object) = (.refused .resourceLimit, table)
  closes : ∀ handle object, table.get handle = .ok object → ∃ after,
    table.perform (.close handle) = (.closed object, after) ∧ table.Closes handle after
  absent : ∀ handle error, table.get handle = .error error →
    table.perform (.close handle) = (.refused (.invalidHandle handle), table)
  /-- From one issue of a handle to the next the counter starts over. -/
  reissued : ∀ object handle after, table.perform (.add object) = (.opened handle, after) →
    ∀ calls object', ((after.performAll calls).perform (.add object')).1 = .opened handle →
      after.Laps (calls ++ [.add object'])
  /-- So it does after a handle was closed that the counter is past. -/
  returns : ∀ handle object after, table.perform (.close handle) = (.closed object, after) →
    handle < table.next →
    ∀ calls object', ((after.performAll calls).perform (.add object')).1 = .opened handle →
      after.Laps (calls ++ [.add object'])

theorem perform_add_of_room (wellFormed : table.WellFormed) (room : table.size < capacity)
    (object : KernelObject) :
    ∃ handle after, table.perform (.add object) = (.opened handle, after) ∧
      table.Opens object handle after := by
  obtain ⟨handle, after, added, opens⟩ := add_of_room wellFormed room object
  exact ⟨handle, after, by rw [perform_add, added], opens⟩

theorem perform_add_of_full (full : capacity ≤ table.size) (object : KernelObject) :
    table.perform (.add object) = (.refused .resourceLimit, table) := by
  rw [perform_add, add_eq, if_pos full]

theorem perform_close_of_open (named : table.get? handle = some object) :
    ∃ after, table.perform (.close handle) = (.closed object, after) ∧
      table.Closes handle after := by
  obtain ⟨after, closed, closes⟩ := close_of_open named
  exact ⟨after, by rw [perform_close, closed], closes⟩

theorem perform_close_of_absent (absent : table.get? handle = none) :
    table.perform (.close handle) = (.refused (.invalidHandle handle), table) := by
  rw [perform_close, close_eq, get, absent]
  rfl

theorem perform_wellFormed (wellFormed : table.WellFormed) (call : HandleCall) :
    (table.perform call).2.WellFormed := by
  cases call with
  | add object =>
      rw [perform_add]
      split
      · rename_i added
        exact (add_eq_ok wellFormed added).2.2
      · exact wellFormed
  | close handle =>
      rw [perform_close]
      split
      · rename_i closed
        exact close_wellFormed wellFormed closed
      · exact wellFormed

theorem performAll_wellFormed (wellFormed : table.WellFormed) (calls : List HandleCall) :
    (table.performAll calls).WellFormed := by
  induction calls generalizing table with
  | nil => exact wellFormed
  | cons call rest ih => exact ih (perform_wellFormed wellFormed call)

theorem laps_append {first second : List HandleCall} :
    table.Laps (first ++ second) ↔ table.Laps first ∨ (table.performAll first).Laps second := by
  induction first generalizing table with
  | nil => exact (or_iff_right id).symm
  | cons call rest ih => exact (or_congr_right ih).trans or_assoc.symm

/-- A call that does not start over moves the counter on, or leaves it. -/
theorem next_le_perform (wellFormed : table.WellFormed) {call : HandleCall}
    (onward : ¬ table.StartsOver call) : table.next ≤ (table.perform call).2.next := by
  cases call with
  | add object =>
      by_cases room : table.size < capacity
      · obtain ⟨handle, after, performed, opens⟩ := perform_add_of_room wellFormed room object
        have ahead : ¬ handle < table.next := fun below => onward ⟨handle, by rw [performed], below⟩
        have counter := opens.counter
        rw [UInt32.not_lt, UInt32.le_iff_toNat_le] at ahead
        rw [performed, UInt32.le_iff_toNat_le]
        dsimp only
        omega
      · rw [perform_add_of_full (Nat.le_of_not_lt room)]
        exact UInt32.le_refl _
  | close handle =>
      cases named : table.get? handle with
      | some object =>
          obtain ⟨after, performed, closes⟩ := perform_close_of_open named
          rw [performed, closes.counter]
          exact UInt32.le_refl _
      | none =>
          rw [perform_close_of_absent named]
          exact UInt32.le_refl _

theorem next_le_performAll (wellFormed : table.WellFormed) {calls : List HandleCall}
    (onward : ¬ table.Laps calls) : table.next ≤ (table.performAll calls).next := by
  induction calls generalizing table with
  | nil => exact UInt32.le_refl _
  | cons call rest ih =>
      obtain ⟨here, later⟩ := not_or.mp onward
      exact UInt32.le_trans (next_le_perform wellFormed here)
        (ih (perform_wellFormed wellFormed call) later)

theorem laps_of_opened (wellFormed : table.WellFormed) (passed : handle < table.next)
    {calls : List HandleCall}
    (again : ((table.performAll calls).perform (.add object)).1 = .opened handle) :
    table.Laps (calls ++ [.add object]) := by
  rw [laps_append]
  by_contra! onward
  obtain ⟨before, last⟩ := onward
  -- The counter is past the handle still, so that the last call takes it from below.
  have counter := next_le_performAll wellFormed before
  exact last (.inl ⟨handle, again, UInt32.lt_of_lt_of_le passed counter⟩)

theorem WellFormed.ncard_open (wellFormed : table.WellFormed) :
    {handle | table.isOpen handle}.ncard = table.size := by
  have opened : {handle | table.isOpen handle} =
      ((table.entries.map Prod.fst).toFinset : Set Handle) := by
    ext handle
    simp [isOpen, get?, List.lookup_isSome_iff]
  rw [opened, Set.ncard_coe_finset, List.toFinset_card_of_nodup wellFormed.distinct,
    List.length_map, size]

theorem WellFormed.allots (wellFormed : table.WellFormed) : table.Allots where
  counted := wellFormed.ncard_open
  opens object room := perform_add_of_room wellFormed room object
  full object full := perform_add_of_full full object
  closes handle object named := by
    apply perform_close_of_open
    rw [get] at named
    split at named
    · rename_i found
      rwa [← Except.ok.inj named]
    · cases named
  absent handle error unnamed := by
    apply perform_close_of_absent
    rw [get] at unnamed
    split at unnamed
    · cases unnamed
    · assumption
  reissued object handle after performed calls object' again := by
    have after_wellFormed := perform_wellFormed wellFormed (.add object)
    rw [performed] at after_wellFormed
    refine laps_of_opened after_wellFormed ?_ again
    by_cases room : table.size < capacity
    · obtain ⟨_, _, same, opens⟩ := perform_add_of_room wellFormed room object
      cases performed.symm.trans same
      rw [UInt32.lt_iff_toNat_lt, opens.counter]
      exact Nat.lt_succ_self _
    · rw [perform_add_of_full (Nat.le_of_not_lt room)] at performed
      cases performed
  returns handle object after performed passed calls object' again := by
    have after_wellFormed := perform_wellFormed wellFormed (.close handle)
    rw [performed] at after_wellFormed
    refine laps_of_opened after_wellFormed ?_ again
    cases named : table.get? handle with
    | some _ =>
        obtain ⟨_, same, closes⟩ := perform_close_of_open named
        cases performed.symm.trans same
        rwa [closes.counter]
    | none =>
        rw [perform_close_of_absent named] at performed
        cases performed

/-- From an empty table on, wherever its counter stands, handles are allotted
    like this whatever calls have been made. -/
theorem performAll_allots {counter : Handle} (real : counter ≤ currentProcessHandle)
    (calls : List HandleCall) : (performAll { next := counter } calls).Allots := by
  have empty : ({ next := counter } : HandleTable).WellFormed :=
    ⟨List.nodup_nil, UInt32.le_iff_toNat_le.mp real⟩
  exact (performAll_wellFormed empty calls).allots

/-- The last handle is issued, and the next one is the first. -/
theorem performAll_allots_fromEnd :
    let table := performAll { next := 0xFFFF7FFF } [.add (.thread 1)]
    0xFFFF7FFF ≤ currentProcessHandle ∧ table.next = currentProcessHandle ∧
      (table.perform (.add (.thread 2))).1 = .opened 1 ∧ table.Allots :=
  ⟨by decide, by decide, by decide, performAll_allots (by decide) _⟩

/-- Open and close the handles from 3 on, one after the other. -/
def turns : (count : Nat) → List HandleCall
  | 0 => []
  | count + 1 => turns count ++ [.add (.thread 3), .close (UInt32.ofNat (count + 3))]

/-- Take the counter past so many handles while handle 2 stays open, and open one
    more. -/
def onceAround (count : Nat) : List HandleCall :=
  [.add (.thread 1), .add (.thread 2), .close 1] ++ turns count ++ [.add (.thread 1)]

/-- One handle more is passed. -/
theorem performAll_turn (lower : 3 ≤ handle.toNat) (upper : handle.toNat < currentProcessHandle.toNat) :
    performAll { entries := [(2, .thread 2)], next := handle } [.add (.thread 3), .close handle] =
      { entries := [(2, .thread 2)], next := handle + 1 } := by
  have other : (2 : Handle) ≠ handle := by
    rintro rfl
    exact absurd lower (by decide)
  have free : isFree { entries := [(2, .thread 2)], next := handle } handle := by
    rw [isFree_iff, InRange]
    refine ⟨⟨by omega, upper⟩, ?_⟩
    simpa using other.symm
  have added : add { entries := [(2, .thread 2)], next := handle } (.thread 3) =
      .ok (handle, { entries := [(handle, .thread 3), (2, .thread 2)], next := handle + 1 }) := by
    have few : ¬ capacity ≤ 1 := by decide
    rw [add_eq, size, List.length_singleton, if_neg few]
    dsimp only
    rw [firstFree, if_pos free]
  have closed : close { entries := [(handle, .thread 3), (2, .thread 2)], next := handle + 1 }
      handle = .ok (.thread 3, { entries := [(2, .thread 2)], next := handle + 1 }) := by
    rw [close_eq, get, get?, List.lookup_cons_self]
    simp [other, Except.map]
  simp only [performAll, List.foldl_cons, List.foldl_nil, perform_add, added, perform_close, closed]

theorem performAll_turns {count : Nat} (few : count + 3 ≤ currentProcessHandle.toNat) :
    performAll { entries := [(2, .thread 2)], next := 3 } (turns count) =
      { entries := [(2, .thread 2)], next := UInt32.ofNat (count + 3) } := by
  rw [toNat_currentProcessHandle] at few
  induction count with
  | zero => rfl
  | succ count ih =>
      have number : (UInt32.ofNat (count + 3)).toNat = count + 3 :=
        UInt32.toNat_ofNat_of_lt' (Nat.lt_of_le_of_lt (Nat.le_of_succ_le few) (by decide))
      have turn := @performAll_turn (UInt32.ofNat (count + 3))
        (by rw [number]; exact Nat.le_add_left 3 count)
        (by rw [number, toNat_currentProcessHandle]; omega)
      rw [turns, performAll_append, ih (Nat.le_of_succ_le few), turn, ← UInt32.ofNat_one,
        ← UInt32.ofNat_add]

/-- With the second handle open, the counter has come round to it. -/
theorem performAll_onceAround :
    performAll {} (onceAround 0xFFFF7FFD) =
      { entries := [(1, .thread 1), (2, .thread 2)], next := 2 } := by
  have first : performAll {} [.add (.thread 1), .add (.thread 2), .close 1] =
      { entries := [(2, .thread 2)], next := 3 } := by decide
  have past := performAll_turns (show 0xFFFF7FFD + 3 ≤ currentProcessHandle.toNat by decide)
  have last : performAll { entries := [(2, .thread 2)], next := UInt32.ofNat (0xFFFF7FFD + 3) }
      [.add (.thread 1)] = { entries := [(1, .thread 1), (2, .thread 2)], next := 2 } := by decide
  rw [onceAround, performAll_append, performAll_append, first, past, last]

/-- A handle that the counter is not past may be issued again as soon as it is closed:
    the counter has come round to it. -/
theorem performAll_reissues :
    let table := performAll {} (onceAround 0xFFFF7FFD)
    ∃ after, table.perform (.close 2) = (.closed (.thread 2), after) ∧
      (after.perform (.add (.thread 4))).1 = .opened 2 ∧ ¬ after.Laps [.add (.thread 4)] := by
  intro table
  have reached : table = { entries := [(1, .thread 1), (2, .thread 2)], next := 2 } :=
    performAll_onceAround
  rw [reached]
  refine ⟨{ entries := [(1, .thread 1)], next := 2 }, by decide, by decide, ?_⟩
  rintro (⟨handle, opened, below⟩ | later)
  · have second : (perform { entries := [(1, .thread 1)], next := 2 } (.add (.thread 4))).1 =
        .opened 2 := by decide
    cases second.symm.trans opened
    exact absurd below (by decide)
  · exact later

end HandleTable

end GuestMachine
