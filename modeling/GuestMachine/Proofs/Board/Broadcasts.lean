import GuestMachine.Proofs.Board.Delivery
import GuestMachine.Proofs.Board.Publication
import GuestMachine.Proofs.System.Switching

/-! # Ranges for some of the cores

A range can be queued for one core after another. Each of them then has it in its
queue once, and finds it when it next looks, if it is on the bus; all the cores of
a console are.
-/

namespace GuestMachine

open Layout

namespace InvalidationBus

variable {cores : List CoreIndex} {core : CoreIndex} {addr : Address} {size : UInt64}

theorem queues_foldl_publishTo (distinct : cores.Nodup) (bus : InvalidationBus) :
    (cores.foldl (fun bus target => bus.publishTo target addr size) bus).queues[core]? =
      bus.queues[core]?.map fun queue =>
        if core ∈ cores then queue.push addr size else queue := by
  induction cores generalizing bus with
  | nil => simp
  | cons target rest ih =>
      obtain ⟨fresh, distinct⟩ := List.nodup_cons.mp distinct
      rw [List.foldl_cons, ih distinct, publishTo, List.getElem?_modify]
      by_cases same : target = core
      · simp [same ▸ fresh, same, Function.comp_def]
      · simp [same, Ne.symm same]

theorem waiting?_foldl_publishTo (distinct : cores.Nodup) (bus : InvalidationBus) :
    (cores.foldl (fun bus target => bus.publishTo target addr size) bus).waiting? core =
      (bus.waiting? core).map (· ++ if core ∈ cores then [(addr, size)] else []) := by
  rw [waiting?, waiting?, queues_foldl_publishTo distinct]
  cases bus.queues[core]? with
  | none => rfl
  | some queue =>
      by_cases told : core ∈ cores <;> by_cases registered : queue.registered <;>
        simp [CoreQueue.push, told, registered]

/-- A core that is told finds the range when it next looks. -/
theorem mem_take_foldl_publishTo (distinct : cores.Nodup) {bus : InvalidationBus}
    (told : core ∈ cores) (registered : (bus.waiting? core).isSome) :
    (addr, size) ∈
      ((cores.foldl (fun bus target => bus.publishTo target addr size) bus).take core).1 := by
  rw [waiting?] at registered
  rw [take_eq, queues_foldl_publishTo distinct]
  cases found : bus.queues[core]? with
  | none => simp [found] at registered
  | some queue =>
      have listens : queue.registered := by simpa [found] using registered
      simp [told, CoreQueue.push, listens, CoreQueue.drain]

theorem waiting?_register (bus : InvalidationBus) (target core : CoreIndex) :
    (bus.register target).waiting? core =
      if core = target then bus.queues[core]?.map CoreQueue.ranges else bus.waiting? core := by
  simp only [waiting?, register, List.getElem?_modify]
  cases bus.queues[core]? with
  | none => simp
  | some queue =>
      by_cases same : target = core
      · simp [same]
      · simp [same, Ne.symm same]

end InvalidationBus

namespace Console

/-- A core that has been built is told of changes to code. -/
theorem createCores_registered {handle : Option MonitorHandle} {maxBlockInstructions : Nat}
    {indices : List CoreIndex} {board after : Board} {cores : List Core}
    (built : createCores handle maxBlockInstructions indices board = .ok (cores, after))
    (length : board.manager.bus.queues.length = maxCores) (core : CoreIndex)
    (known : core ∈ indices ∨ (board.manager.bus.waiting? core).isSome) :
    (after.manager.bus.waiting? core).isSome := by
  induction indices generalizing board cores with
  | nil =>
      cases built
      exact known.resolve_left List.not_mem_nil
  | cons index rest ih =>
      rw [createCores] at built
      obtain ⟨⟨first, middle⟩, created, built⟩ := exceptBind_eq_ok built
      obtain ⟨⟨others, last⟩, created', built⟩ := exceptBind_eq_ok built
      cases built
      rw [Core.create] at created
      split at created
      · cases created
      · rename_i real
        cases created
        apply ih created'
        · change (board.manager.bus.queues.modify index _).length = maxCores
          rw [List.length_modify, length]
        · rw [List.mem_cons, or_comm (a := core = index), or_assoc] at known
          refine known.imp_right fun known => ?_
          change ((board.manager.bus.register index).waiting? core).isSome
          rw [InvalidationBus.waiting?_register]
          split
          · rename_i same
            have within : core < board.manager.bus.queues.length := by
              rw [length, same]
              exact Nat.lt_of_not_le real
            rw [List.getElem?_eq_getElem within]
            rfl
          · rename_i other
            exact known.resolve_left other

theorem create_registered {settings : Settings} {console : Console}
    (built : Console.create settings = .ok console) (core : CoreIndex)
    (within : core < console.coreCount) :
    (console.machine.board.manager.bus.waiting? core).isSome := by
  obtain ⟨_, _, built⟩ := exceptBind_eq_ok built
  dsimp only at built
  obtain ⟨⟨cores, board⟩, created, built⟩ := exceptBind_eq_ok built
  cases built
  refine createCores_registered (mapError_eq_ok created) ?_ core (.inl (List.mem_range.mpr within))
  dsimp only
  split
  · rw [CpuManager.createMonitor]
    rfl
  · rfl

end Console

end GuestMachine
