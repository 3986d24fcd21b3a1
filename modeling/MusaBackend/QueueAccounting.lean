import MusaBackend.StreamDiscipline

/-!
The accounting of event handles and of host-callback copies, over whole runs of the
backend on a device.

`EventPool` and `HostCallback` state the two accountings and show that each of their own
steps keeps them. Here the construction and destruction of a queue, every operation of
any queue, the release of a live marker and the runtime's invocation of a registered
callback keep both: the guard's markers, `insert_event` and the constructor's reference
event go through the pool, and the launch paths, the checked calls and the queries touch
neither the pool nor the copies.
-/

namespace MusaBackend

/-- Both accountings of a world: event handles and host-callback copies. -/
structure QueueWorld.Accounted {Id : Type} (world : QueueWorld Id) : Prop where
  events : world.events.pool.Accounted
  callbacks : world.callbacks.Accounted

theorem MusaQueue.create_accounted {Id : Type} (device : Device) (dev : Nat) (priority : Int)
    {world : QueueWorld Id} (accounted : world.Accounted) :
    (MusaQueue.create device dev priority world).2.Accounted := by
  rcases MusaQueue.create_world device dev priority world with
    ⟨_, -, constructed⟩ | ⟨_, _, -, constructed⟩ <;> rw [constructed]
  · exact ⟨accounted.events, accounted.callbacks⟩
  · exact ⟨insertEvent_accounted device _ accounted.events, accounted.callbacks⟩

section Runs

variable {Id : Type} [DecidableEq Id] (hash : ConfigurationHash Id) (env : LaunchEnvironment)
  (engine : AdaptivityEngine) (queue : MusaQueue)

theorem QueueOperation.run_accounted {device : Device} {win32 : Bool} {now : Nat}
    {world next : QueueWorld Id} {operation : QueueOperation}
    (ran : operation.run hash env engine queue device win32 now world = .ok next)
    (accounted : world.Accounted) : next.Accounted :=
  QueueOperation.run_induction hash env engine queue QueueWorld.Accounted
    (fun _ accounted =>
      ⟨insertEvent_accounted device queue.stream accounted.events, accounted.callbacks⟩)
    (fun _ _ samePool sameCallbacks _ accounted =>
      ⟨samePool ▸ accounted.events, sameCallbacks ▸ accounted.callbacks⟩)
    (fun _ node accounted =>
      ⟨accounted.events, submitExternalWaitFor_accounted device queue node _ accounted.callbacks⟩)
    ran accounted

theorem QueueStep.accounted {world next : QueueWorld Id}
    (step : QueueStep hash env engine queue world next) (accounted : world.Accounted) :
    next.Accounted := by
  cases step with
  | operate _ _ _ _ ran => exact QueueOperation.run_accounted hash env engine queue ran accounted
  | release _ marker live => exact ⟨destroyMarker_accounted accounted.events live, accounted.callbacks⟩
  | callback _ status _ registered =>
      exact ⟨accounted.events, invoke_accounted status _ accounted.callbacks registered⟩

theorem DeviceStep.accounted {world next : QueueWorld Id}
    (step : DeviceStep hash env engine world next) (accounted : world.Accounted) :
    next.Accounted := by
  cases step with
  | create device priority => exact MusaQueue.create_accounted device _ priority accounted
  | queue queue step => exact step.accounted hash env engine queue accounted
  | destroy => exact ⟨accounted.events, accounted.callbacks⟩

theorem deviceRun_keeps_accounted {world next : QueueWorld Id}
    (run : Relation.ReflTransGen (DeviceStep hash env engine) world next)
    (accounted : world.Accounted) : next.Accounted := by
  induction run with
  | refl => exact accounted
  | tail _ step previous => exact step.accounted hash env engine previous

/-- Along every run of the backend on a device, whatever queues it constructs and
destroys, in whatever interleaving their operations come and whatever the device
answers, the event pool's accounting holds (each created handle is free, held by one live
marker of this device, or was dropped by a failed record) and so does the host-callback
accounting (each live copy belongs to one pending callback or to a failed
registration). -/
theorem deviceRun_accounted {dev : Nat} {world : QueueWorld Id}
    (run : Relation.ReflTransGen (DeviceStep hash env engine) (QueueWorld.initial dev) world) :
    world.events.pool.Accounted ∧ world.callbacks.Accounted :=
  let accounted := deviceRun_keeps_accounted hash env engine run
    ⟨eventRun_accounted .refl, callbackRun_accounted .refl⟩
  ⟨accounted.events, accounted.callbacks⟩

end Runs

theorem deviceRun_accounted_created :
    (MusaQueue.create deviceSucceeds 0 0 (QueueWorld.initial 0 : QueueWorld Nat)).2.events.pool.Accounted ∧
      (MusaQueue.create deviceSucceeds 0 0 (QueueWorld.initial 0 : QueueWorld Nat)).2.callbacks.Accounted :=
  deviceRun_accounted ⟨fun _ => 0, fun _ _ _ => 0⟩ (singleTargetEnvironment [])
    ⟨fun _ _ => {}, fun _ => ("image", [])⟩ (.single (.create deviceSucceeds 0 _))

end MusaBackend
