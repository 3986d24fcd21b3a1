import MusaBackend.Runtime
import Mathlib.Logic.Relation
import Mathlib.Data.List.Nodup

/-!
Host callbacks: `musa_queue::submit_external_wait_for` and
`host_synchronization_callback`.

`submit_external_wait_for` copies the node's `dag_node_ptr` to the heap and registers
`host_synchronization_callback` on the queue's stream with the copy as user data. The
callback waits on the node, or registers the status it was given, and deletes the copy.
The runtime that keeps the registered callbacks and invokes each of them once, at any
time and with any status, is modelled from the spec.

Addresses are those `new` returns: never null and never one still live, so both
`assert`s on the user data hold. The field `orphaned` is bookkeeping of the model only:
the copies whose callback was never registered.
-/

namespace MusaBackend

/-- The heap copies `submit_external_wait_for` made, as address and node, and the user
data of the callbacks the runtime holds and has not yet invoked. -/
structure HostCallbacks where
  userData : List (Nat × DagNode) := []
  nextAddress : Nat := 0
  pending : List Nat := []
  waited : List DagNode := []
  orphaned : List Nat := []
deriving Repr

def HostCallbacks.addresses (callbacks : HostCallbacks) : List Nat :=
  callbacks.userData.map Prod.fst

/-- `musa_queue::submit_external_wait_for`. A failed registration returns an error and
keeps the copy. -/
def submitExternalWaitFor (device : Device) (queue : MusaQueue) (node : DagNode)
    (callbacks : HostCallbacks) (trace : Trace) : Result × HostCallbacks × Trace :=
  let userData := callbacks.nextAddress
  let callbacks := { callbacks with
    userData := callbacks.userData ++ [(userData, node)], nextAddress := userData + 1 }
  let issued := trace.issue device (.streamAddCallback queue.stream userData)
  if issued.1 ≠ musaSuccess then
    (musaErrorResult "musa_queue: Couldn't submit stream callback" issued.1,
      { callbacks with orphaned := callbacks.orphaned ++ [userData] }, issued.2)
  else (.success, { callbacks with pending := callbacks.pending ++ [userData] }, issued.2)

/-- `host_synchronization_callback(stream, status, userData)`: wait on the node, or
register the error status, then delete the copy. -/
def hostSynchronizationCallback (status : MusaError) (userData : Nat)
    (callbacks : HostCallbacks) (trace : Trace) : HostCallbacks × Trace :=
  let freed := { callbacks with userData := callbacks.userData.filter (·.1 != userData) }
  if status ≠ musaSuccess then
    (freed, trace.registerError
      { message := "musa_queue callback: MUSA returned error code."
        code := some { component := "MUSA", code := status } })
  else
    ({ freed with waited := callbacks.waited ++ (callbacks.userData.lookup userData).toList },
      trace)

/-- Modelled from the spec: the runtime forgets a registered callback and invokes it. -/
def HostCallbacks.invoke (callbacks : HostCallbacks) (status : MusaError) (userData : Nat)
    (trace : Trace) : HostCallbacks × Trace :=
  hostSynchronizationCallback status userData
    { callbacks with pending := callbacks.pending.erase userData } trace

/-- One step of a run: a submission on any queue and device, or the invocation of a
registered callback. -/
inductive CallbackStep : HostCallbacks × Trace → HostCallbacks × Trace → Prop
  | submit (device : Device) (queue : MusaQueue) (node : DagNode) (callbacks : HostCallbacks)
      (trace : Trace) :
      CallbackStep (callbacks, trace) (submitExternalWaitFor device queue node callbacks trace).2
  | invoke (callbacks : HostCallbacks) (status : MusaError) (userData : Nat) (trace : Trace)
      (registered : userData ∈ callbacks.pending) :
      CallbackStep (callbacks, trace) (callbacks.invoke status userData trace)

theorem submitExternalWaitFor_cases (device : Device) (queue : MusaQueue) (node : DagNode)
    (callbacks : HostCallbacks) (trace : Trace) :
    let next := (submitExternalWaitFor device queue node callbacks trace).2.1
    next.userData = callbacks.userData ++ [(callbacks.nextAddress, node)] ∧
      next.nextAddress = callbacks.nextAddress + 1 ∧
      ((next.pending = callbacks.pending ++ [callbacks.nextAddress] ∧
          next.orphaned = callbacks.orphaned) ∨
        (next.pending = callbacks.pending ∧
          next.orphaned = callbacks.orphaned ++ [callbacks.nextAddress])) := by
  dsimp only [submitExternalWaitFor]
  split
  · exact ⟨rfl, rfl, .inr ⟨rfl, rfl⟩⟩
  · exact ⟨rfl, rfl, .inl ⟨rfl, rfl⟩⟩

@[simp] theorem HostCallbacks.invoke_userData (callbacks : HostCallbacks) (status : MusaError)
    (userData : Nat) (trace : Trace) :
    (callbacks.invoke status userData trace).1.userData =
      callbacks.userData.filter (·.1 != userData) := by
  unfold HostCallbacks.invoke hostSynchronizationCallback
  split <;> rfl

@[simp] theorem HostCallbacks.invoke_nextAddress (callbacks : HostCallbacks)
    (status : MusaError) (userData : Nat) (trace : Trace) :
    (callbacks.invoke status userData trace).1.nextAddress = callbacks.nextAddress := by
  unfold HostCallbacks.invoke hostSynchronizationCallback
  split <;> rfl

@[simp] theorem HostCallbacks.invoke_pending (callbacks : HostCallbacks) (status : MusaError)
    (userData : Nat) (trace : Trace) :
    (callbacks.invoke status userData trace).1.pending = callbacks.pending.erase userData := by
  unfold HostCallbacks.invoke hostSynchronizationCallback
  split <;> rfl

@[simp] theorem HostCallbacks.invoke_orphaned (callbacks : HostCallbacks)
    (status : MusaError) (userData : Nat) (trace : Trace) :
    (callbacks.invoke status userData trace).1.orphaned = callbacks.orphaned := by
  unfold HostCallbacks.invoke hostSynchronizationCallback
  split <;> rfl

/-- The model's accounting: each live copy belongs to exactly one pending callback or to
a registration that failed, and `new` has not yet returned any live address. -/
structure HostCallbacks.Accounted (callbacks : HostCallbacks) : Prop where
  placed : callbacks.addresses.Perm (callbacks.pending ++ callbacks.orphaned)
  nodup : callbacks.addresses.Nodup
  fresh : ∀ address ∈ callbacks.addresses, address < callbacks.nextAddress

theorem submitExternalWaitFor_accounted (device : Device) (queue : MusaQueue)
    (node : DagNode) {callbacks : HostCallbacks} (trace : Trace)
    (accounted : callbacks.Accounted) :
    (submitExternalWaitFor device queue node callbacks trace).2.1.Accounted := by
  obtain ⟨userData, nextAddress, registered⟩ :=
    submitExternalWaitFor_cases device queue node callbacks trace
  have added : (submitExternalWaitFor device queue node callbacks trace).2.1.addresses =
      callbacks.addresses ++ [callbacks.nextAddress] := by
    simp [HostCallbacks.addresses, userData]
  have placedAfter : (callbacks.addresses ++ [callbacks.nextAddress]).Perm
      (callbacks.pending ++ callbacks.orphaned ++ [callbacks.nextAddress]) :=
    accounted.placed.append_right _
  refine ⟨?_, ?_, ?_⟩
  · rw [added]
    rcases registered with ⟨pending, orphaned⟩ | ⟨pending, orphaned⟩
    · rw [pending, orphaned]
      exact placedAfter.trans (by simpa using List.perm_append_comm.append_left _)
    · simpa [pending, orphaned] using placedAfter
  · rw [added]
    exact accounted.nodup.append (List.nodup_singleton _) (List.disjoint_singleton.mpr
      fun old => Nat.lt_irrefl _ (accounted.fresh _ old))
  · rw [added, nextAddress]
    intro address member
    rcases List.mem_append.mp member with old | new
    · exact Nat.lt_succ_of_lt (accounted.fresh _ old)
    · rw [List.mem_singleton.mp new]
      exact Nat.lt_succ_self _

theorem invoke_accounted {callbacks : HostCallbacks} (status : MusaError) {userData : Nat}
    (trace : Trace) (accounted : callbacks.Accounted) (registered : userData ∈ callbacks.pending) :
    (callbacks.invoke status userData trace).1.Accounted := by
  have erased : (callbacks.invoke status userData trace).1.addresses =
      callbacks.addresses.erase userData := by
    rw [accounted.nodup.erase_eq_filter]
    unfold HostCallbacks.addresses
    rw [HostCallbacks.invoke_userData, List.filter_map]
    rfl
  refine ⟨?_, ?_, ?_⟩
  · rw [erased, HostCallbacks.invoke_pending, HostCallbacks.invoke_orphaned,
      ← List.erase_append_left _ registered]
    exact accounted.placed.erase _
  · rw [erased]
    exact accounted.nodup.erase _
  · rw [erased, HostCallbacks.invoke_nextAddress]
    exact fun address member => accounted.fresh _ (List.mem_of_mem_erase member)

theorem CallbackStep.accounted {state next : HostCallbacks × Trace}
    (step : CallbackStep state next) (accounted : state.1.Accounted) : next.1.Accounted := by
  cases step with
  | submit device queue node => exact submitExternalWaitFor_accounted device queue node _ accounted
  | invoke _ status _ trace registered => exact invoke_accounted status trace accounted registered

theorem callbackRun_accounted {state : HostCallbacks × Trace}
    (run : Relation.ReflTransGen CallbackStep ({}, {}) state) : state.1.Accounted := by
  induction run with
  | refl => exact ⟨by simp [HostCallbacks.addresses], by simp [HostCallbacks.addresses],
      by simp [HostCallbacks.addresses]⟩
  | tail _ step accounted => exact step.accounted accounted

/-- In every reachable state the live copies are exactly the user data of the pending
callbacks and of the failed registrations; once every registered callback has run, the
copies left are those of the failed registrations. -/
theorem callbackRun_live_copies {state : HostCallbacks × Trace}
    (run : Relation.ReflTransGen CallbackStep ({}, {}) state) :
    (state.1.userData.map Prod.fst).Perm (state.1.pending ++ state.1.orphaned) ∧
      (state.1.pending = [] → (state.1.userData.map Prod.fst).Perm state.1.orphaned) := by
  have placed := (callbackRun_accounted run).placed
  exact ⟨placed, fun nonePending => by simpa [nonePending] using placed⟩

theorem callbackRun_live_copies_submit :
    ((submitExternalWaitFor deviceSucceeds ⟨0, some 0⟩ ⟨0, {}⟩ {} {}).2.1.userData.map
        Prod.fst).Perm ((submitExternalWaitFor deviceSucceeds ⟨0, some 0⟩ ⟨0, {}⟩ {} {}).2.1.pending ++
        (submitExternalWaitFor deviceSucceeds ⟨0, some 0⟩ ⟨0, {}⟩ {} {}).2.1.orphaned) ∧
      ((submitExternalWaitFor deviceSucceeds ⟨0, some 0⟩ ⟨0, {}⟩ {} {}).2.1.pending = [] →
        ((submitExternalWaitFor deviceSucceeds ⟨0, some 0⟩ ⟨0, {}⟩ {} {}).2.1.userData.map
          Prod.fst).Perm (submitExternalWaitFor deviceSucceeds ⟨0, some 0⟩ ⟨0, {}⟩ {} {}).2.1.orphaned) :=
  callbackRun_live_copies (.single (.submit deviceSucceeds ⟨0, some 0⟩ ⟨0, {}⟩ {} {}))

theorem CallbackStep.keeps_orphan {state next : HostCallbacks × Trace}
    (step : CallbackStep state next) (accounted : state.1.Accounted) {address : Nat}
    {node : DagNode} (orphan : address ∈ state.1.orphaned)
    (live : (address, node) ∈ state.1.userData) :
    address ∈ next.1.orphaned ∧ (address, node) ∈ next.1.userData := by
  cases step with
  | submit device queue node' callbacks trace =>
      obtain ⟨userData, -, registered⟩ :=
        submitExternalWaitFor_cases device queue node' callbacks trace
      refine ⟨?_, by simp [userData, live]⟩
      rcases registered with ⟨-, orphaned⟩ | ⟨-, orphaned⟩ <;> simp [orphaned, orphan]
  | invoke callbacks status userData trace registered =>
      have disjoint := List.disjoint_of_nodup_append
        (accounted.placed.nodup_iff.mp accounted.nodup)
      have other : address ≠ userData := fun same => disjoint registered (same ▸ orphan)
      simp [orphan, List.mem_filter, live, other]

theorem callbackRun_keeps_orphan {state later : HostCallbacks × Trace}
    (accounted : state.1.Accounted) (run : Relation.ReflTransGen CallbackStep state later)
    {address : Nat} {node : DagNode} (orphan : address ∈ state.1.orphaned)
    (live : (address, node) ∈ state.1.userData) :
    (address, node) ∈ later.1.userData := by
  suffices later.1.Accounted ∧ address ∈ later.1.orphaned ∧ (address, node) ∈ later.1.userData
    from this.2.2
  induction run with
  | refl => exact ⟨accounted, orphan, live⟩
  | tail _ step previous =>
      exact ⟨step.accounted previous.1, step.keeps_orphan previous.1 previous.2.1 previous.2.2⟩

def addCallbackFails : Device := fun _ call =>
  match call with
  | .streamAddCallback _ _ => 1
  | _ => musaSuccess

/-- One `submit_external_wait_for` whose registration fails leaves a reachable state with
a live copy of the node and no pending callback for it, and no later step frees it. -/
theorem submitExternalWaitFor_failure_leaks_copy :
    Relation.ReflTransGen CallbackStep ({}, {})
        (submitExternalWaitFor addCallbackFails ⟨0, some 0⟩ ⟨0, {}⟩ {} {}).2 ∧
      ((submitExternalWaitFor addCallbackFails ⟨0, some 0⟩ ⟨0, {}⟩ {} {}).2.1.userData.filter
        (·.2 = ⟨0, {}⟩)).length = 1 ∧
      (submitExternalWaitFor addCallbackFails ⟨0, some 0⟩ ⟨0, {}⟩ {} {}).2.1.pending = [] ∧
      ∀ later, Relation.ReflTransGen CallbackStep
          (submitExternalWaitFor addCallbackFails ⟨0, some 0⟩ ⟨0, {}⟩ {} {}).2 later →
        (0, ⟨0, {}⟩) ∈ later.1.userData :=
  have reached := Relation.ReflTransGen.single (CallbackStep.submit addCallbackFails
    ⟨0, some 0⟩ ⟨0, {}⟩ {} {})
  ⟨reached, by decide, rfl, fun _ run =>
    callbackRun_keeps_orphan (callbackRun_accounted reached) run (by decide) (by decide)⟩

end MusaBackend
