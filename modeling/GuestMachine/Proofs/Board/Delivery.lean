import Mathlib.Data.List.Basic
import Mathlib.Data.List.Induction
import GuestMachine.Cpu.InvalidationBus

/-! # Delivery of invalidated ranges

Calls reach the bus from anywhere and in any order. What a core is given is
worked out from the calls alone: the ranges that were published to it while it
was registered, less those that it took since or that were dropped. A call is
one step; a publication to all cores is the same as one to each in turn, so
other calls may come in between.
-/

namespace GuestMachine

/-- A request to the bus. -/
inductive BusCall where
  | register (core : CoreIndex)
  | unregister (core : CoreIndex)
  | publish (addr : Address) (size : UInt64)
  | publishTo (core : CoreIndex) (addr : Address) (size : UInt64)
  | take (core : CoreIndex)
  deriving Repr, DecidableEq

namespace BusCall

variable {core : CoreIndex}

/-- The one core that a call is about. A publication to all has none. -/
def addressee? : BusCall → Option CoreIndex
  | register core | unregister core | publishTo core _ _ | take core => some core
  | publish _ _ => none

/-- The range that a call brings for `core`. -/
def range? (core : CoreIndex) : BusCall → Option (Address × UInt64)
  | publish addr size => some (addr, size)
  | publishTo other addr size => if other = core then some (addr, size) else none
  | _ => none

/-- After the call nothing waits for `core`. -/
def empties (core : CoreIndex) : BusCall → Bool
  | unregister other | take other => other == core
  | _ => false

/-- Whether `core` is registered from this call on, if the call decides that. -/
def enlists? (core : CoreIndex) : BusCall → Option Bool
  | register other => if other = core then some true else none
  | unregister other => if other = core then some false else none
  | _ => none

end BusCall

/-- Of all calls that registered or unregistered `core`, the last registered it. -/
def registeredAfter (history : List BusCall) (core : CoreIndex) : Bool :=
  core < maxCores && (history.filterMap (·.enlists? core)).getLast?.getD false

/-- The range that call number `i` brought for `core`, provided that `core` was
    registered then and that no later call emptied its queue. -/
def owedBy (history : List BusCall) (core : CoreIndex) (i : Nat) : Option (Address × UInt64) :=
  if registeredAfter (history.take i) core && !(history.drop (i + 1)).any (·.empties core) then
    history[i]?.bind (·.range? core)
  else none

/-- The ranges that `core` is still to be given, in the order of their calls. -/
def owed (history : List BusCall) (core : CoreIndex) : List (Address × UInt64) :=
  (List.range history.length).filterMap (owedBy history core)

section

variable {history : List BusCall} {call : BusCall} {core : CoreIndex}

theorem registeredAfter_append :
    registeredAfter (history ++ [call]) core =
      match call.enlists? core with
      | some on => core < maxCores && on
      | none => registeredAfter history core := by
  unfold registeredAfter
  cases decided : call.enlists? core <;> simp [decided]

theorem owedBy_append {i : Nat} (earlier : i < history.length) :
    owedBy (history ++ [call]) core i =
      if call.empties core then none else owedBy history core i := by
  have before : i - history.length = 0 := by omega
  have after : i + 1 - history.length = 0 := by omega
  simp only [owedBy, List.getElem?_append_left earlier, List.take_append, List.drop_append, before,
    after, List.take_zero, List.drop_zero, List.append_nil, List.any_append]
  cases wiped : call.empties core <;> simp [wiped]

/-- The last call is the only one that no later call could undo. -/
theorem owedBy_last :
    owedBy (history ++ [call]) core history.length =
      if registeredAfter history core then call.range? core else none := by
  cases brought : call.range? core <;> simp [owedBy, brought]

theorem owed_append :
    owed (history ++ [call]) core =
      (if call.empties core then [] else owed history core) ++
        if registeredAfter history core then (call.range? core).toList else [] := by
  have earlier : (List.range history.length).filterMap (owedBy (history ++ [call]) core) =
      if call.empties core then [] else owed history core := by
    rw [List.filterMap_congr fun i member => owedBy_append (List.mem_range.mp member)]
    cases call.empties core <;> simp [owed]
  unfold owed at earlier ⊢
  rw [List.length_append, List.length_singleton, List.range_succ, List.filterMap_append, earlier]
  cases on : registeredAfter history core <;> cases brought : call.range? core <;>
    simp [owedBy_last, on, brought]

/-- Nothing is owed to a core that is not registered. -/
theorem owed_of_not_registered (off : registeredAfter history core = false) :
    owed history core = [] := by
  induction history using List.reverseRecOn with
  | nil => rfl
  | append_singleton history call ih =>
      rw [registeredAfter_append] at off
      rw [owed_append]
      cases call with
      | register other =>
          by_cases here : other = core
          · have unknown : ¬ core < maxCores := by simpa [BusCall.enlists?, here] using off
            have off : registeredAfter history core = false := by simp [registeredAfter, unknown]
            simp [off, ih off]
          · simp_all [BusCall.enlists?]
      | unregister other =>
          by_cases here : other = core <;>
            simp_all [BusCall.enlists?, BusCall.empties, BusCall.range?]
      | publish addr size => simp_all [BusCall.enlists?]
      | publishTo other addr size => simp_all [BusCall.enlists?]
      | take other => simp_all [BusCall.enlists?]

end

namespace CoreQueue

/-- What a call makes of the queue of `core`. -/
def react (core : CoreIndex) (queue : CoreQueue) : BusCall → CoreQueue
  | .register other => if other = core then { queue with registered := true } else queue
  | .unregister other => if other = core then {} else queue
  | .publish addr size => queue.push addr size
  | .publishTo other addr size => if other = core then queue.push addr size else queue
  | .take other => if other = core then queue.drain.2 else queue

/-- A call that is about another core leaves the queue alone. -/
theorem react_of_addressee {call : BusCall} {core other : CoreIndex} (queue : CoreQueue)
    (about : call.addressee? = some other) (apart : other ≠ core) :
    queue.react core call = queue := by
  cases call <;> simp_all [BusCall.addressee?, react]

/-- The queue with all that is owed to `core`. -/
def ofHistory (history : List BusCall) (core : CoreIndex) : CoreQueue where
  registered := registeredAfter history core
  pending := !(owed history core).isEmpty
  ranges := owed history core

theorem react_ofHistory {core : CoreIndex} (known : core < maxCores) (history : List BusCall)
    (call : BusCall) :
    (ofHistory history core).react core call = ofHistory (history ++ [call]) core := by
  simp only [ofHistory, owed_append, registeredAfter_append]
  cases call with
  | register other =>
      by_cases here : other = core <;>
        simp [react, here, known, BusCall.enlists?, BusCall.empties, BusCall.range?]
  | unregister other =>
      by_cases here : other = core <;>
        simp [react, here, BusCall.enlists?, BusCall.empties, BusCall.range?]
  | publish addr size =>
      cases registeredAfter history core <;>
        simp [react, push, BusCall.enlists?, BusCall.empties, BusCall.range?]
  | publishTo other addr size =>
      by_cases here : other = core <;> cases registeredAfter history core <;>
        simp [react, push, here, BusCall.enlists?, BusCall.empties, BusCall.range?]
  | take other =>
      by_cases here : other = core <;> cases owed history core <;>
        simp [react, drain, here, BusCall.enlists?, BusCall.empties, BusCall.range?]

theorem foldl_react {core : CoreIndex} (known : core < maxCores) (history : List BusCall) :
    history.foldl (react core) {} = ofHistory history core := by
  induction history using List.reverseRecOn with
  | nil => simp [ofHistory, registeredAfter, owed]
  | append_singleton history call ih =>
      rw [List.foldl_append, ih, List.foldl_cons, List.foldl_nil, react_ofHistory known]

end CoreQueue

namespace InvalidationBus

def perform (bus : InvalidationBus) : BusCall → InvalidationBus
  | .register core => bus.register core
  | .unregister core => bus.unregister core
  | .publish addr size => bus.publish addr size
  | .publishTo core addr size => bus.publishTo core addr size
  | .take core => (bus.take core).2

def performAll (bus : InvalidationBus) (calls : List BusCall) : InvalidationBus :=
  calls.foldl perform bus

/-- Each queue lives by itself. -/
theorem queues_perform (bus : InvalidationBus) (call : BusCall) (core : CoreIndex) :
    (bus.perform call).queues[core]? = bus.queues[core]?.map (·.react core call) := by
  cases call with
  | register other =>
      by_cases here : other = core <;> simp [perform, register, CoreQueue.react, here]
  | unregister other =>
      by_cases here : other = core <;> simp [perform, unregister, CoreQueue.react, here]
  | publish addr size => simp [perform, publish, CoreQueue.react]
  | publishTo other addr size =>
      by_cases here : other = core <;> simp [perform, publishTo, CoreQueue.react, here]
  | take other =>
      by_cases here : other = core
      · subst here
        cases found : bus.queues[other]? with
        | none => simp [perform, take, found]
        | some queue =>
            obtain ⟨known, rfl⟩ := List.getElem?_eq_some_iff.mp found
            simp [perform, take, CoreQueue.react, known]
      · cases waiting : bus.queues[other]? <;>
          simp [perform, take, CoreQueue.react, waiting, here]

theorem queues_performAll (bus : InvalidationBus) (calls : List BusCall) (core : CoreIndex) :
    (bus.performAll calls).queues[core]? = bus.queues[core]?.map fun queue =>
      calls.foldl (CoreQueue.react core) queue := by
  induction calls generalizing bus with
  | nil => simp [performAll]
  | cons call rest ih =>
      simp only [performAll, List.foldl_cons] at ih ⊢
      rw [ih, queues_perform, Option.map_map]
      rfl

/-- A publication to all is one to each core in turn. -/
theorem publish_eq_publishTo (bus : InvalidationBus) (addr : Address) (size : UInt64) :
    bus.publish addr size =
      bus.performAll ((List.range bus.queues.length).map (BusCall.publishTo · addr size)) := by
  have each (core : CoreIndex) (queue : CoreQueue) (count : Nat) :
      ((List.range count).map (BusCall.publishTo · addr size)).foldl (CoreQueue.react core) queue =
        if core < count then queue.push addr size else queue := by
    induction count with
    | zero => rfl
    | succ count ih =>
        rw [List.range_succ, List.map_append, List.foldl_append, ih]
        grind [CoreQueue.react]
  apply congrArg InvalidationBus.mk
  apply List.ext_getElem?
  intro core
  change _ = (bus.performAll _).queues[core]?
  rw [queues_performAll, List.getElem?_map]
  cases found : bus.queues[core]? with
  | none => rfl
  | some queue =>
      have known : core < bus.queues.length := (List.getElem?_eq_some_iff.mp found).1
      simp [each, known]

/-- Each queue of a bus that started empty holds what is owed to its core. -/
theorem queues_performAll_new (history : List BusCall) (core : CoreIndex) :
    (performAll {} history).queues[core]? =
      if core < maxCores then some (CoreQueue.ofHistory history core) else none := by
  rw [queues_performAll]
  by_cases known : core < maxCores
  · have start : ({} : InvalidationBus).queues[core]? = some {} := by simp [known]
    rw [start, Option.map_some, CoreQueue.foldl_react known, if_pos known]
  · simp [known]

theorem take_eq (bus : InvalidationBus) (core : CoreIndex) :
    (bus.take core).1 = (bus.queues[core]?.map fun queue => queue.drain.1).getD [] := by
  cases found : bus.queues[core]? <;> simp [take, found]

theorem take_performAll_new (history : List BusCall) (core : CoreIndex) :
    ((performAll {} history).take core).1 = owed history core := by
  rw [take_eq, queues_performAll_new]
  by_cases known : core < maxCores
  · cases waiting : owed history core <;>
      simp [CoreQueue.drain, CoreQueue.ofHistory, known, waiting]
  · have off : registeredAfter history core = false := by simp [registeredAfter, known]
    simp [known, owed_of_not_registered off]

/-- What `core` is given by a bus that started empty, and who can change that. -/
structure Delivers (history : List BusCall) (core : CoreIndex) : Prop where
  /-- Exactly the ranges that are owed, each once and in order of publication. -/
  given : ((performAll {} history).take core).1 = owed history core
  /-- A core that is not registered gets nothing. -/
  deaf : registeredAfter history core = false → ((performAll {} history).take core).1 = []
  /-- Nor does a core that does not exist. -/
  absent : maxCores ≤ core → ((performAll {} history).take core).1 = []
  /-- The flag that lets a core look at its ranges is up exactly while there are any. -/
  flagged : ∀ queue, (performAll {} history).queues[core]? = some queue →
    (queue.pending ↔ queue.ranges ≠ [])
  /-- A call about another core makes no difference, now or after further calls. -/
  apart : ∀ call other, call.addressee? = some other → other ≠ core → ∀ later,
    ((performAll {} (history ++ call :: later)).take core).1 =
      ((performAll {} (history ++ later)).take core).1

theorem performAll_delivers (history : List BusCall) (core : CoreIndex) :
    Delivers history core where
  given := take_performAll_new history core
  deaf off := by rw [take_performAll_new, owed_of_not_registered off]
  absent outside := by simp [take_eq, queues_performAll_new, Nat.not_lt_of_le outside]
  flagged queue found := by
    rw [queues_performAll_new] at found
    split at found
    · cases found
      simp [CoreQueue.ofHistory]
    · cases found
  apart call other about apart later := by
    have same (queue : CoreQueue) : (history ++ call :: later).foldl (CoreQueue.react core) queue =
        (history ++ later).foldl (CoreQueue.react core) queue := by
      simp only [List.foldl_append, List.foldl_cons]
      rw [CoreQueue.react_of_addressee _ about apart]
    simp only [take_eq, queues_performAll, same]

end InvalidationBus

end GuestMachine
