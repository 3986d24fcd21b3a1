import MusaBackend.ContentAddressing
import MusaBackend.StreamDiscipline

/-!
Runs of kernel launches over the process-wide kernel cache, and the targets the
multipass path launches from.

Along every sequence of launches through either path, by any queues, from an empty
cache, every stored code object was built from the inputs its id names and no id is
stored twice. With injective fingerprints a multipass launch therefore launches only
from a code object built from the binary of the first target of its HCF container, for
its queue's device. A container with no root node, or whose root lists no target, is
not reported as an error: the multipass path stops at an assertion.
-/

namespace MusaBackend

theorem launchMultipassCodeObject_error {device : Device} {queue : MusaQueue}
    {obj : CodeObject} {fragment : String} {gridSize blockSize : Range3}
    {dynamicSharedMem : Nat} {trace : Trace} {assertion : Assertion}
    (stopped : launchMultipassCodeObject device queue obj fragment gridSize blockSize
      dynamicSharedMem trace = .error assertion) :
    assertion = "mumodule" := by
  unfold launchMultipassCodeObject at stopped
  split at stopped
  · cases stopped
    rfl
  · dsimp only at stopped
    split at stopped <;> cases stopped

theorem launchMultipassCodeObject_module {device : Device} {queue : MusaQueue}
    {obj : CodeObject} {fragment : String} {gridSize blockSize : Range3}
    {dynamicSharedMem : Nat} {trace next : Trace} {result : Result}
    (launched : launchMultipassCodeObject device queue obj fragment gridSize blockSize
      dynamicSharedMem trace = .ok (result, next)) :
    ∃ added, next.calls = trace.calls ++ added ∧
      ∀ module name grid block shared stream,
        MusaCall.launchKernel module name grid block shared stream ∈ added → module = obj.module := by
  rcases launchMultipassCodeObject_cases launched with ⟨-, -, rfl⟩ | ⟨-, launchedFrom⟩
  · exact ⟨[], by simp, by simp⟩
  obtain ⟨added, calls, launches⟩ := launchKernelFromModule_launches device obj.module
    (findFullKernelName obj.supportedBackendKernelNames fragment) gridSize blockSize
    dynamicSharedMem queue.stream trace
  rw [launchedFrom] at calls
  exact ⟨added, calls, fun _ _ _ _ _ _ member => (launches _ _ _ _ _ _ member).1⟩

section Runs

variable {Id : Type} (hash : ConfigurationHash Id) (env : LaunchEnvironment)
  (engine : AdaptivityEngine)

/-- What a code object's build inputs say about the id it is stored under: it is the id
its launch path computes from them; a multipass object's source is the binary attached
to the selected target of its HCF container, and an SSCP object's configuration ends on
the SSCP flow. -/
def BuildInputs.BuiltFor (id : Id) : BuildInputs → Prop
  | .multipass hcfObject selectedTarget sourceCode dev =>
      id = multipassCodeObjectConfigurationId hash hcfObject selectedTarget dev ∧
        ∃ root tn, multipassSelectTarget env hcfObject = .next (root, selectedTarget) ∧
          getSubnode root selectedTarget = some tn ∧ tn.binaryAttachment = some sourceCode
  | .sscp _ _ _ _ dev config =>
      id = hash.extendHash (hash.generateId config) .runtimeDevice (.natural dev) ∧
        config.lastBaseValue .compilationFlow = some (.flow .sscp)

/-- The kernel cache's invariant: every stored code object belongs under its id, and no
id is stored twice. -/
structure LaunchCacheInvariant (cache : KernelCache Id CodeObject CompiledImage) : Prop where
  coherent : cache.Coherent (fun id obj => obj.builtFrom.BuiltFor hash env id) fun _ _ => True
  keysUnique : cache.KeysUnique

theorem multipassCodeObjectConstructor_builtFor {hcfObject : Nat}
    {root : List HcfTargetNode} {selectedTarget : String} (dev : Nat)
    (selected : multipassSelectTarget env hcfObject = .next (root, selectedTarget))
    (trace : Trace) (obj : CodeObject) (next : Trace)
    (built : multipassCodeObjectConstructor env root hcfObject selectedTarget dev trace =
      (some obj, next)) :
    obj.builtFrom.BuiltFor hash env
      (multipassCodeObjectConfigurationId hash hcfObject selectedTarget dev) := by
  obtain ⟨tn, sourceCode, found, attached, builtFrom⟩ := multipassCodeObjectConstructor_built built
  rw [builtFrom]
  exact ⟨rfl, root, tn, selected, found, attached⟩

theorem builtFor_multipassId (injective : hash.Injective) {hcfObject : Nat}
    {selectedTarget : String} {dev : Nat} {inputs : BuildInputs}
    (built : inputs.BuiltFor hash env
      (multipassCodeObjectConfigurationId hash hcfObject selectedTarget dev)) :
    ∃ root tn sourceCode, multipassSelectTarget env hcfObject = .next (root, selectedTarget) ∧
      getSubnode root selectedTarget = some tn ∧ tn.binaryAttachment = some sourceCode ∧
      inputs = .multipass hcfObject selectedTarget sourceCode dev := by
  cases inputs with
  | multipass otherObject otherTarget sourceCode otherDev =>
      obtain ⟨same, root, tn, selected, found, attached⟩ := built
      obtain ⟨rfl, rfl, rfl⟩ := multipassCodeObjectConfigurationId_inj injective same
      exact ⟨root, tn, sourceCode, selected, found, attached, rfl⟩
  | sscp _ _ _ _ otherDev config =>
      obtain ⟨same, flow⟩ := built
      obtain ⟨binary, -⟩ := injective.extendHash _ _ _ _ _ same
      rw [← injective.generateId binary] at flow
      simp [multipassConfiguration, KernelConfiguration.appendBaseConfiguration,
        KernelConfiguration.lastBaseValue] at flow

theorem sscpCodeObjectConstructor_builtFor {dev : Nat} {launch : SscpLaunch}
    {request : SscpCacheRequest Id}
    (found : sscpCacheRequest hash env engine dev launch = some request) (image : CompiledImage)
    (trace : Trace) (obj : CodeObject) (next : Trace)
    (built : sscpCodeObjectConstructor env engine request.input request.targetArchName dev
      request.config image trace = (some obj, next)) :
    obj.builtFrom.BuiltFor hash env request.codeObjectConfigurationId := by
  obtain ⟨-, -, config, binary, codeObjectId⟩ := sscpCacheRequest_spec found
  rw [sscpCodeObjectConstructor_built built]
  exact ⟨by rw [codeObjectId, binary],
    by rw [config]; exact (finalizeBinaryConfiguration_lastBaseValue ..).2⟩

variable [DecidableEq Id]

theorem getOrConstructCodeObject_invariant {cache : KernelCache Id CodeObject CompiledImage}
    {id : Id} {construct : Trace → Option CodeObject × Trace}
    (invariant : LaunchCacheInvariant hash env cache)
    (builds : ∀ trace obj next, construct trace = (some obj, next) →
      obj.builtFrom.BuiltFor hash env id) (trace : Trace) :
    LaunchCacheInvariant hash env (cache.getOrConstructCodeObject id construct trace).2.1 :=
  ⟨(getOrConstructCodeObject_coherent trace invariant.coherent builds).2,
    getOrConstructCodeObject_keysUnique trace construct invariant.keysUnique⟩

theorem getOrConstructJitCodeObject_invariant {cache : KernelCache Id CodeObject CompiledImage}
    {codeObjectId : Id} (binaryId : Id) (compile : Trace → Option CompiledImage × Trace)
    {construct : CompiledImage → Trace → Option CodeObject × Trace}
    (invariant : LaunchCacheInvariant hash env cache)
    (builds : ∀ image trace obj next, construct image trace = (some obj, next) →
      obj.builtFrom.BuiltFor hash env codeObjectId) (trace : Trace) :
    LaunchCacheInvariant hash env
      (cache.getOrConstructJitCodeObject codeObjectId binaryId compile construct trace).2.1 :=
  ⟨(getOrConstructJitCodeObject_coherent trace invariant.coherent (fun _ _ _ _ => trivial)
      fun image trace obj next _ => builds image trace obj next).2,
    getOrConstructJitCodeObject_keysUnique trace compile construct invariant.keysUnique⟩

theorem submitMultipassKernelFromCodeObject_invariant {device : Device} {queue : MusaQueue}
    {cache next : KernelCache Id CodeObject CompiledImage} {trace nextTrace : Trace}
    {launch : MultipassLaunch} {result : Result} (invariant : LaunchCacheInvariant hash env cache)
    (ran : submitMultipassKernelFromCodeObject hash env device queue cache trace launch =
      .ok (result, next, nextTrace)) :
    LaunchCacheInvariant hash env next := by
  rcases submitMultipassKernelFromCodeObject_cases hash env device ran with
    ⟨-, rfl, -⟩ | ⟨_, _, _, _, selected, obtained, -⟩
  · exact invariant
  · have kept := getOrConstructCodeObject_invariant hash env invariant
      (multipassCodeObjectConstructor_builtFor hash env queue.dev selected) trace
    rwa [obtained] at kept

theorem submitSscpKernelFromCodeObject_invariant {device : Device} {queue : MusaQueue}
    {cache next : KernelCache Id CodeObject CompiledImage} {trace nextTrace : Trace}
    {threadConfig : KernelConfiguration} {launch : SscpLaunch} {result : Result}
    (invariant : LaunchCacheInvariant hash env cache)
    (ran : (submitSscpKernelFromCodeObject hash env device engine queue cache trace
      threadConfig launch).1 = .ok (result, next, nextTrace)) :
    LaunchCacheInvariant hash env next := by
  rcases submitSscpKernelFromCodeObject_cases hash env device ran with
    ⟨-, rfl, -⟩ | ⟨request, _, _, -, requested, obtained, -⟩
  · exact invariant
  have kept := getOrConstructJitCodeObject_invariant hash env request.binaryConfigurationId
    (sscpJitCompiler env engine request.input request.config) invariant
    (sscpCodeObjectConstructor_builtFor hash env engine requested) trace
  rwa [obtained] at kept

theorem launchRun_invariant {cache : KernelCache Id CodeObject CompiledImage}
    (run : Relation.ReflTransGen (LaunchStep hash env engine) {} cache) :
    LaunchCacheInvariant hash env cache := by
  induction run with
  | refl => exact ⟨⟨by simp, by simp⟩, ⟨by simp, by simp⟩⟩
  | tail _ step invariant =>
      cases step with
      | multipass _ _ _ _ ran => exact submitMultipassKernelFromCodeObject_invariant hash env invariant ran
      | sscp _ _ _ _ _ ran =>
          exact submitSscpKernelFromCodeObject_invariant hash env engine invariant ran

/-- Over every run of launches from an empty cache, no configuration id is stored twice,
and each code object stored under a multipass id was built from the binary attached to
the target that id names, for the device it names. -/
theorem launchRun_multipass_entries (injective : hash.Injective)
    {cache : KernelCache Id CodeObject CompiledImage}
    (run : Relation.ReflTransGen (LaunchStep hash env engine) {} cache) :
    cache.KeysUnique ∧
      ∀ hcfObject selectedTarget dev obj,
        (multipassCodeObjectConfigurationId hash hcfObject selectedTarget dev, obj) ∈
            cache.codeObjects →
          ∃ root tn sourceCode,
            multipassSelectTarget env hcfObject = .next (root, selectedTarget) ∧
            getSubnode root selectedTarget = some tn ∧ tn.binaryAttachment = some sourceCode ∧
            obj.builtFrom = .multipass hcfObject selectedTarget sourceCode dev := by
  have invariant := launchRun_invariant hash env engine run
  refine ⟨invariant.keysUnique, fun hcfObject selectedTarget dev obj stored => ?_⟩
  have built := invariant.coherent.codeObjects _ stored
  obtain ⟨root, tn, sourceCode, selected, found, attached, builtFrom⟩ :=
    builtFor_multipassId hash env injective built
  exact ⟨root, tn, sourceCode, selected, found, attached, builtFrom⟩

def singleLaunchCache :
    KernelCache (KernelConfiguration × List (KernelBaseConfigParameter × ConfigValue)) CodeObject
      CompiledImage :=
  { codeObjects := [(multipassCodeObjectConfigurationId exactHash 0 "target" 0,
      ⟨.multipass 0 "target" "source" 0, 1, ["k"]⟩)] }

theorem launchRun_multipass_entries_singleLaunch :
    singleLaunchCache.KeysUnique ∧
      ∀ hcfObject selectedTarget dev obj,
        (multipassCodeObjectConfigurationId exactHash hcfObject selectedTarget dev, obj) ∈
            singleLaunchCache.codeObjects →
          ∃ root tn sourceCode,
            multipassSelectTarget (singleTargetEnvironment ["k"]) hcfObject =
              .next (root, selectedTarget) ∧
            getSubnode root selectedTarget = some tn ∧ tn.binaryAttachment = some sourceCode ∧
            obj.builtFrom = .multipass hcfObject selectedTarget sourceCode dev :=
  launchRun_multipass_entries exactHash (singleTargetEnvironment ["k"]) uniformEngine
    exactHash_injective (.single (.multipass deviceSucceeds ⟨0, some 7⟩ {}
      ⟨0, "k", ⟨1, 1, 1⟩, ⟨1, 1, 1⟩, 0⟩ rfl))

/-- After any run of launches from an empty cache, a multipass launch whose HCF container
has a root node listing a target stops at no assertion but `assert(mumodule)`, and it
launches kernels only from the module of the code object the cache holds afterwards under
the id of the container's first target and the queue's device; that object was built
from the binary attached to the first target, for the queue's device. -/
theorem multipassLaunch_uses_first_target (injective : hash.Injective)
    {cache : KernelCache Id CodeObject CompiledImage}
    (run : Relation.ReflTransGen (LaunchStep hash env engine) {} cache)
    (device : Device) (queue : MusaQueue) (trace : Trace) (launch : MultipassLaunch)
    {container : HcfContainer} {root : List HcfTargetNode} {first : String}
    {rest : List String} (found : env.getHcf launch.hcfObject = some container)
    (rooted : container.rootNode = some root) (listed : getSubnodes root = first :: rest) :
    (∀ assertion, submitMultipassKernelFromCodeObject hash env device queue cache trace launch =
        .error assertion → assertion = "mumodule") ∧
      ∀ result next nextTrace,
        submitMultipassKernelFromCodeObject hash env device queue cache trace launch =
            .ok (result, next, nextTrace) →
          ∃ added, nextTrace.calls = trace.calls ++ added ∧
            ∀ module name grid block shared stream,
              MusaCall.launchKernel module name grid block shared stream ∈ added →
                ∃ (obj : CodeObject) (tn : HcfTargetNode) (sourceCode : String),
                  lookupEntry next.codeObjects
                      (multipassCodeObjectConfigurationId hash launch.hcfObject first queue.dev) =
                    some obj ∧ obj.module = module ∧
                  getSubnode root first = some tn ∧ tn.binaryAttachment = some sourceCode ∧
                  obj.builtFrom = .multipass launch.hcfObject first sourceCode queue.dev := by
  have selected : multipassSelectTarget env launch.hcfObject = .next (root, first) := by
    simp [multipassSelectTarget, found, rooted, listed]
  have handedOut := (getOrConstructCodeObject_coherent trace
    (launchRun_invariant hash env engine run).coherent
    (multipassCodeObjectConstructor_builtFor hash env queue.dev selected)).1
  have preserved := getOrConstructCodeObject_calls cache
    (multipassCodeObjectConfigurationId hash launch.hcfObject first queue.dev)
    (multipassCodeObjectConstructor_calls env root launch.hcfObject first queue.dev) trace
  simp only [submitMultipassKernelFromCodeObject, selected]
  rcases obtained : cache.getOrConstructCodeObject
      (multipassCodeObjectConfigurationId hash launch.hcfObject first queue.dev)
      (multipassCodeObjectConstructor env root launch.hcfObject first queue.dev) trace with
    ⟨_ | obj, next, nextTrace⟩ <;> rw [obtained] at preserved
  · refine ⟨fun _ stopped => (by cases stopped), fun _ _ _ returned => ?_⟩
    cases returned
    exact ⟨[], by simpa using preserved, by simp⟩
  · rw [obtained] at handedOut
    obtain ⟨_, tn, sourceCode, selected', found', attached, builtFrom⟩ :=
      builtFor_multipassId hash env injective (handedOut obj rfl)
    rw [selected] at selected'
    cases selected'
    refine ⟨fun _ stopped => launchMultipassCodeObject_error (eq_error_of_map_eq_error stopped),
      fun _ _ _ returned => ?_⟩
    obtain ⟨_, launched, finished⟩ := exists_of_map_eq_ok returned
    cases finished
    obtain ⟨added, addedCalls, fromModule⟩ := launchMultipassCodeObject_module launched
    refine ⟨added, by rw [addedCalls, preserved], fun module _ _ _ _ _ member => ?_⟩
    exact ⟨obj, tn, sourceCode, getOrConstructCodeObject_lookup obtained,
      (fromModule module _ _ _ _ _ member).symm, found', attached, builtFrom⟩

end Runs

/-- HCF object `0` and an empty cache: the only target is `"target"`, carrying `"source"`. -/
theorem multipassLaunch_uses_first_target_singleTarget :
    (∀ assertion, submitMultipassKernelFromCodeObject exactHash (singleTargetEnvironment ["k"])
        deviceSucceeds ⟨0, some 7⟩ {} {} ⟨0, "k", ⟨1, 1, 1⟩, ⟨1, 1, 1⟩, 0⟩ =
          .error assertion → assertion = "mumodule") ∧
      ∀ result next nextTrace,
        submitMultipassKernelFromCodeObject exactHash (singleTargetEnvironment ["k"])
            deviceSucceeds ⟨0, some 7⟩ {} {} ⟨0, "k", ⟨1, 1, 1⟩, ⟨1, 1, 1⟩, 0⟩ =
            .ok (result, next, nextTrace) →
          ∃ added, nextTrace.calls = ([] : List MusaCall) ++ added ∧
            ∀ module name grid block shared stream,
              MusaCall.launchKernel module name grid block shared stream ∈ added →
                ∃ (obj : CodeObject) (tn : HcfTargetNode) (sourceCode : String),
                  lookupEntry next.codeObjects
                      (multipassCodeObjectConfigurationId exactHash 0 "target" 0) = some obj ∧
                    obj.module = module ∧
                  getSubnode [⟨"target", true, some "source"⟩] "target" = some tn ∧
                  tn.binaryAttachment = some sourceCode ∧
                  obj.builtFrom = .multipass 0 "target" sourceCode 0 :=
  multipassLaunch_uses_first_target exactHash (singleTargetEnvironment ["k"]) uniformEngine
    exactHash_injective .refl deviceSucceeds ⟨0, some 7⟩ {} ⟨0, "k", ⟨1, 1, 1⟩, ⟨1, 1, 1⟩, 0⟩
    (rfl : (singleTargetEnvironment ["k"]).getHcf 0 = some ⟨some [⟨"target", true, some "source"⟩]⟩)
    rfl (rfl : getSubnodes [⟨"target", true, some "source"⟩] = ["target"])

section Malformed

variable {Id : Type} [DecidableEq Id] (hash : ConfigurationHash Id) (env : LaunchEnvironment)

/-- A container without a root node, or whose root lists no target, is not reported as an
error: the multipass path stops at the assertion that guards it. -/
theorem submitMultipassKernelFromCodeObject_malformed_stops (device : Device)
    (queue : MusaQueue) (cache : KernelCache Id CodeObject CompiledImage) (trace : Trace)
    (launch : MultipassLaunch) {container : HcfContainer}
    (found : env.getHcf launch.hcfObject = some container) :
    (container.rootNode = none →
      submitMultipassKernelFromCodeObject hash env device queue cache trace launch =
        .error "hcf->root_node()") ∧
    (container.rootNode = some [] →
      submitMultipassKernelFromCodeObject hash env device queue cache trace launch =
        .error "!available_targets.empty()") := by
  constructor <;> intro rooted <;>
    simp [submitMultipassKernelFromCodeObject, multipassSelectTarget, found, rooted, getSubnodes]

end Malformed

def malformedEnvironment : LaunchEnvironment :=
  { singleTargetEnvironment [] with
    getHcf := fun hcfObject => if hcfObject = 0 then some ⟨some []⟩ else some ⟨none⟩ }

theorem submitMultipassKernelFromCodeObject_malformed_stops_emptyRoot :
    malformedEnvironment.getHcf 0 = some ⟨some []⟩ ∧
      submitMultipassKernelFromCodeObject exactHash malformedEnvironment deviceSucceeds
          ⟨0, some 7⟩ {} {} ⟨0, "k", ⟨1, 1, 1⟩, ⟨1, 1, 1⟩, 0⟩ =
        .error "!available_targets.empty()" :=
  ⟨rfl, (submitMultipassKernelFromCodeObject_malformed_stops exactHash malformedEnvironment
    deviceSucceeds ⟨0, some 7⟩ {} {} ⟨0, "k", ⟨1, 1, 1⟩, ⟨1, 1, 1⟩, 0⟩ rfl).2 rfl⟩

end MusaBackend
