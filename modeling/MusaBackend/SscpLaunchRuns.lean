import MusaBackend.LaunchRuns

/-!
The configuration every SSCP launch runs, over runs of kernel launches.

The SSCP path keeps two levels in the kernel cache: JIT images by binary id and code
objects by code-object id. Along every sequence of launches through either path, by any
queues, from an empty cache, every image is stored under the binary id of the
configuration it was compiled for, and every SSCP code object was built for the
architecture of its device from an image compiled for its own HCF object and
configuration. With injective fingerprints an SSCP launch therefore runs its kernel only
from a code object built for its queue's device, its HCF object and exactly the
configuration it finalized, whether the object was built for this launch or found in the
cache.
-/

namespace MusaBackend

theorem launchSscpCodeObject_launches {env : LaunchEnvironment} {device : Device}
    {queue : MusaQueue} {obj : CodeObject} {input : AdaptivityInput} {trace next : Trace}
    {result : Result} (launched : launchSscpCodeObject env device queue obj input trace =
      .ok (result, next)) :
    ∃ added, next.calls = trace.calls ++ added ∧
      ∀ module name grid block shared stream,
        MusaCall.launchKernel module name grid block shared stream ∈ added →
          module = obj.module ∧ name = input.kernelName ∧ stream = queue.stream := by
  unfold launchSscpCodeObject at launched
  split at launched
  · cases launched
  split at launched
  · cases launched
    exact ⟨[], by simp, by simp⟩
  obtain ⟨added, calls, launches⟩ := launchKernelFromModule_launches device obj.module
    input.kernelName input.numGroups input.groupSize input.localMemSize queue.stream trace
  rw [Except.ok.inj launched] at calls
  exact ⟨added, calls, launches⟩

theorem launchSscpCodeObject_error {env : LaunchEnvironment} {device : Device}
    {queue : MusaQueue} {obj : CodeObject} {input : AdaptivityInput} {trace : Trace}
    {assertion : Assertion}
    (stopped : launchSscpCodeObject env device queue obj input trace = .error assertion) :
    assertion = "mumodule" := by
  unfold launchSscpCodeObject at stopped
  split at stopped
  · cases stopped
    rfl
  · split at stopped <;> cases stopped

section Runs

variable {Id : Type} (hash : ConfigurationHash Id) (env : LaunchEnvironment)
  (engine : AdaptivityEngine)

theorem sscpCacheRequest_config {dev : Nat} {launch : SscpLaunch}
    {request : SscpCacheRequest Id}
    (found : sscpCacheRequest hash env engine dev launch = some request) :
    request.input.hcfObject = launch.hcfObject ∧ request.input.kernelName = launch.kernelName ∧
      request.config.lastBaseValue .hcfObjectId = some (.natural launch.hcfObject) ∧
      request.config.lastBaseValue .compilationFlow = some (.flow .sscp) := by
  obtain ⟨kernelInfo, -, rfl⟩ := Option.map_eq_some'.mp found
  exact ⟨rfl, rfl, finalizeBinaryConfiguration_lastBaseValue ..⟩

theorem submitSscpKernelFromCodeObject_error [DecidableEq Id] {device : Device}
    {queue : MusaQueue} {cache : KernelCache Id CodeObject CompiledImage} {trace : Trace}
    {threadConfig : KernelConfiguration} {launch : SscpLaunch} {assertion : Assertion}
    (stopped : (submitSscpKernelFromCodeObject hash env device engine queue cache trace
      threadConfig launch).1 = .error assertion) :
    assertion = "mumodule" := by
  unfold submitSscpKernelFromCodeObject at stopped
  split at stopped
  · cases stopped
  split at stopped
  · cases stopped
  dsimp only at stopped
  split at stopped
  · cases stopped
  · exact launchSscpCodeObject_error (eq_error_of_map_eq_error stopped)

/-- What an SSCP code object's build inputs say of each other: it was built for the
architecture of its device, from a JIT image compiled for its own HCF object and
configuration, and that configuration names its HCF object. -/
def BuildInputs.JitConsistent : BuildInputs → Prop
  | .multipass .. => True
  | .sscp image targetArch hcfObject _ dev config =>
      targetArch = env.getDeviceArch dev ∧ image.compiledFrom.config = config ∧
        image.compiledFrom.hcfObject = hcfObject ∧
        config.lastBaseValue .hcfObjectId = some (.natural hcfObject)

/-- A JIT image belongs under the binary id of the configuration it was compiled for, and
that configuration names the image's HCF object. -/
def CompiledImage.CompiledFor (binaryId : Id) (image : CompiledImage) : Prop :=
  binaryId = hash.generateId image.compiledFrom.config ∧
    image.compiledFrom.config.lastBaseValue .hcfObjectId =
      some (.natural image.compiledFrom.hcfObject)

/-- The JIT half of the kernel cache's invariant: every image is stored under the binary
id it was compiled for, and every SSCP code object is consistent with its image. -/
def KernelCache.JitCoherent (cache : KernelCache Id CodeObject CompiledImage) : Prop :=
  cache.Coherent (fun _ obj => obj.builtFrom.JitConsistent env) (CompiledImage.CompiledFor hash)

theorem sscpJitCompiler_compiledFor {dev : Nat} {launch : SscpLaunch}
    {request : SscpCacheRequest Id}
    (found : sscpCacheRequest hash env engine dev launch = some request) (trace : Trace)
    (image : CompiledImage) (next : Trace)
    (compiled : sscpJitCompiler env engine request.input request.config trace =
      (some image, next)) :
    image.CompiledFor hash request.binaryConfigurationId := by
  obtain ⟨hcfObject, -, hcfNamed, -⟩ := sscpCacheRequest_config hash env engine found
  obtain ⟨-, -, -, binary, -⟩ := sscpCacheRequest_spec found
  rw [CompiledImage.CompiledFor, sscpJitCompiler_compiled compiled]
  exact ⟨binary, hcfObject ▸ hcfNamed⟩

theorem sscpCodeObjectConstructor_jitConsistent (injective : hash.Injective) {dev : Nat}
    {launch : SscpLaunch} {request : SscpCacheRequest Id}
    (found : sscpCacheRequest hash env engine dev launch = some request)
    (image : CompiledImage) (trace : Trace) (obj : CodeObject) (next : Trace)
    (compiledFor : image.CompiledFor hash request.binaryConfigurationId)
    (built : sscpCodeObjectConstructor env engine request.input request.targetArchName dev
      request.config image trace = (some obj, next)) :
    obj.builtFrom.JitConsistent env := by
  obtain ⟨hcfObject, -, hcfNamed, -⟩ := sscpCacheRequest_config hash env engine found
  obtain ⟨-, arch, -, binary, -⟩ := sscpCacheRequest_spec found
  have sameConfig : image.compiledFrom.config = request.config :=
    injective.generateId (compiledFor.1.symm.trans binary)
  have imageNamed := compiledFor.2
  rw [sameConfig, hcfNamed, Option.some_inj, ConfigValue.natural.injEq] at imageNamed
  rw [sscpCodeObjectConstructor_built built]
  exact ⟨arch, sameConfig, imageNamed.symm.trans hcfObject.symm, hcfObject ▸ hcfNamed⟩

theorem sscpRequest_served (injective : hash.Injective) {dev : Nat} {launch : SscpLaunch}
    {request : SscpCacheRequest Id}
    (found : sscpCacheRequest hash env engine dev launch = some request) {inputs : BuildInputs}
    (builtFor : inputs.BuiltFor hash env request.codeObjectConfigurationId)
    (consistent : inputs.JitConsistent env) :
    ∃ image kernelNames, inputs = .sscp image (env.getDeviceArch dev) launch.hcfObject
        kernelNames dev request.config ∧
      image.compiledFrom.hcfObject = launch.hcfObject ∧
      image.compiledFrom.config = request.config := by
  obtain ⟨-, -, hcfNamed, flow⟩ := sscpCacheRequest_config hash env engine found
  obtain ⟨-, -, -, binary, codeObjectId⟩ := sscpCacheRequest_spec found
  cases inputs with
  | multipass =>
      obtain ⟨same, -⟩ := builtFor
      obtain ⟨configs, -⟩ := injective.extendHash _ _ _ _ _ (codeObjectId.symm.trans same)
      rw [injective.generateId (binary.symm.trans configs)] at flow
      simp [multipassConfiguration, KernelConfiguration.appendBaseConfiguration,
        KernelConfiguration.lastBaseValue] at flow
  | sscp image targetArch hcfObject kernelNames objectDev config =>
      obtain ⟨same, -⟩ := builtFor
      obtain ⟨configs, devices⟩ := injective.extendHash _ _ _ _ _ (codeObjectId.symm.trans same)
      have sameConfig : request.config = config := injective.generateId (binary.symm.trans configs)
      obtain rfl : dev = objectDev := by simpa using devices
      obtain ⟨rfl, imageConfig, imageObject, objectNamed⟩ := consistent
      subst sameConfig
      rw [hcfNamed, Option.some_inj, ConfigValue.natural.injEq] at objectNamed
      subst objectNamed
      exact ⟨image, kernelNames, rfl, imageObject, imageConfig⟩

variable [DecidableEq Id]

theorem submitMultipassKernelFromCodeObject_jitCoherent {device : Device} {queue : MusaQueue}
    {cache next : KernelCache Id CodeObject CompiledImage} {trace nextTrace : Trace}
    {launch : MultipassLaunch} {result : Result} (coherent : cache.JitCoherent hash env)
    (ran : submitMultipassKernelFromCodeObject hash env device queue cache trace launch =
      .ok (result, next, nextTrace)) :
    next.JitCoherent hash env := by
  rcases submitMultipassKernelFromCodeObject_cases hash env device ran with
    ⟨-, rfl, -⟩ | ⟨_, _, _, _, -, obtained, -⟩
  · exact coherent
  rw [show next = _ from congrArg (·.2.1) obtained.symm]
  refine (getOrConstructCodeObject_coherent trace coherent fun _ _ _ built => ?_).2
  obtain ⟨_, _, -, -, builtFrom⟩ := multipassCodeObjectConstructor_built built
  rw [builtFrom]
  trivial

theorem submitSscpKernelFromCodeObject_jitCoherent (injective : hash.Injective)
    {device : Device} {queue : MusaQueue} {cache next : KernelCache Id CodeObject CompiledImage}
    {trace nextTrace : Trace} {threadConfig : KernelConfiguration} {launch : SscpLaunch}
    {result : Result} (coherent : cache.JitCoherent hash env)
    (ran : (submitSscpKernelFromCodeObject hash env device engine queue cache trace
      threadConfig launch).1 = .ok (result, next, nextTrace)) :
    next.JitCoherent hash env := by
  rcases submitSscpKernelFromCodeObject_cases hash env device ran with
    ⟨-, rfl, -⟩ | ⟨_, _, _, -, requested, obtained, -⟩
  · exact coherent
  rw [show next = _ from congrArg (·.2.1) obtained.symm]
  exact (getOrConstructJitCodeObject_coherent trace coherent
    (sscpJitCompiler_compiledFor hash env engine requested)
    (sscpCodeObjectConstructor_jitConsistent hash env engine injective requested)).2

theorem launchRun_jitCoherent (injective : hash.Injective)
    {cache : KernelCache Id CodeObject CompiledImage}
    (run : Relation.ReflTransGen (LaunchStep hash env engine) {} cache) :
    cache.JitCoherent hash env := by
  induction run with
  | refl => exact ⟨fun _ member => (nomatch member), fun _ member => (nomatch member)⟩
  | tail _ step coherent =>
      cases step with
      | multipass _ _ _ _ ran =>
          exact submitMultipassKernelFromCodeObject_jitCoherent hash env coherent ran
      | sscp _ _ _ _ _ ran =>
          exact submitSscpKernelFromCodeObject_jitCoherent hash env engine injective coherent ran

/-- From a kernel cache that keeps both invariants, the code object an SSCP request is
handed, found or built, was built for the request's device, HCF object and
configuration, from an image compiled for the same. -/
theorem sscpRequest_object (injective : hash.Injective)
    {cache : KernelCache Id CodeObject CompiledImage}
    (invariant : LaunchCacheInvariant hash env cache)
    (coherent : cache.JitCoherent hash env) {dev : Nat} {launch : SscpLaunch}
    {request : SscpCacheRequest Id}
    (found : sscpCacheRequest hash env engine dev launch = some request) (trace : Trace)
    {obj : CodeObject}
    (handed : (cache.getOrConstructJitCodeObject request.codeObjectConfigurationId
      request.binaryConfigurationId (sscpJitCompiler env engine request.input request.config)
      (sscpCodeObjectConstructor env engine request.input request.targetArchName dev
        request.config) trace).1 = some obj) :
    ∃ image kernelNames, obj.builtFrom = .sscp image (env.getDeviceArch dev) launch.hcfObject
        kernelNames dev request.config ∧
      image.compiledFrom.hcfObject = launch.hcfObject ∧
      image.compiledFrom.config = request.config :=
  sscpRequest_served hash env engine injective found
    ((getOrConstructJitCodeObject_coherent trace invariant.coherent (fun _ _ _ _ => trivial)
      fun image trace obj next _ =>
        sscpCodeObjectConstructor_builtFor hash env engine found image trace obj next).1 obj handed)
    ((getOrConstructJitCodeObject_coherent trace coherent
      (sscpJitCompiler_compiledFor hash env engine found)
      (sscpCodeObjectConstructor_jitConsistent hash env engine injective found)).1 obj handed)

/-- Over every run of launches from an empty cache, with injective fingerprints, an SSCP
launch stops at no assertion but `assert(mumodule)`, and it launches only its own kernel,
on its queue's stream, from the module of the code object the cache holds afterwards
under the launch's code-object id. That object was built for the queue's device and that
device's architecture, for the launch's HCF object and for exactly the configuration it
finalized, from a JIT image compiled for the same HCF object and configuration. -/
theorem sscpLaunch_runs_own_configuration (injective : hash.Injective)
    {cache : KernelCache Id CodeObject CompiledImage}
    (run : Relation.ReflTransGen (LaunchStep hash env engine) {} cache)
    (device : Device) (queue : MusaQueue) (trace : Trace) (threadConfig : KernelConfiguration)
    (launch : SscpLaunch) {request : SscpCacheRequest Id}
    (requested : sscpCacheRequest hash env engine queue.dev launch = some request) :
    (∀ assertion, (submitSscpKernelFromCodeObject hash env device engine queue cache trace
        threadConfig launch).1 = .error assertion → assertion = "mumodule") ∧
      ∀ result next nextTrace,
        (submitSscpKernelFromCodeObject hash env device engine queue cache trace threadConfig
            launch).1 = .ok (result, next, nextTrace) →
          ∃ added, nextTrace.calls = trace.calls ++ added ∧
            ∀ module name grid block shared stream,
              MusaCall.launchKernel module name grid block shared stream ∈ added →
                name = launch.kernelName ∧ stream = queue.stream ∧
                ∃ (obj : CodeObject) (image : CompiledImage) (kernelNames : List String),
                  lookupEntry next.codeObjects request.codeObjectConfigurationId = some obj ∧
                  obj.module = module ∧
                  obj.builtFrom = .sscp image (env.getDeviceArch queue.dev) launch.hcfObject
                    kernelNames queue.dev request.config ∧
                  image.compiledFrom.hcfObject = launch.hcfObject ∧
                  image.compiledFrom.config = request.config := by
  refine ⟨fun _ => submitSscpKernelFromCodeObject_error hash env engine,
    fun result next nextTrace ran => ?_⟩
  rcases submitSscpKernelFromCodeObject_cases hash env device ran with
    ⟨-, -, rfl⟩ | ⟨other, found, middle, -, requestedOther, obtained, ended⟩
  · exact ⟨[], by simp, by simp⟩
  rw [requested, Option.some_inj] at requestedOther
  subst requestedOther
  have preserved := getOrConstructJitCodeObject_calls cache request.codeObjectConfigurationId
    request.binaryConfigurationId (sscpJitCompiler_calls env engine request.input request.config)
    (sscpCodeObjectConstructor_calls env engine request.input request.targetArchName queue.dev
      request.config) trace
  rw [obtained] at preserved
  rcases ended with ⟨-, -, rfl⟩ | ⟨obj, rfl, launched⟩
  · exact ⟨[], by simpa using preserved, by simp⟩
  obtain ⟨image, kernelNames, builtFrom, imageObject, imageConfig⟩ :=
    sscpRequest_object hash env engine injective (launchRun_invariant hash env engine run)
      (launchRun_jitCoherent hash env engine injective run) requested trace
      (congrArg (·.1) obtained)
  obtain ⟨added, calls, launches⟩ := launchSscpCodeObject_launches launched
  refine ⟨added, by rw [calls, preserved], fun module _ _ _ _ _ member => ?_⟩
  obtain ⟨rfl, rfl, rfl⟩ := launches _ _ _ _ _ _ member
  exact ⟨(sscpCacheRequest_config hash env engine requested).2.1, rfl, obj, image, kernelNames,
    getOrConstructJitCodeObject_lookup obtained, rfl, builtFrom, imageObject, imageConfig⟩

end Runs

def singleSscpLaunch : SscpLaunch := ⟨0, "k", ⟨1, 1, 1⟩, ⟨1, 1, 1⟩, 0, [], {}⟩

theorem sscpLaunch_runs_own_configuration_singleLaunch :
    ∃ request, sscpCacheRequest exactHash (singleTargetEnvironment ["k"]) uniformEngine 0
        singleSscpLaunch = some request ∧
      (∀ assertion, (submitSscpKernelFromCodeObject exactHash (singleTargetEnvironment ["k"])
          deviceSucceeds uniformEngine ⟨0, some 7⟩ {} {} {} singleSscpLaunch).1 =
            .error assertion → assertion = "mumodule") ∧
      ∀ result next nextTrace,
        (submitSscpKernelFromCodeObject exactHash (singleTargetEnvironment ["k"]) deviceSucceeds
            uniformEngine ⟨0, some 7⟩ {} {} {} singleSscpLaunch).1 =
            .ok (result, next, nextTrace) →
          ∃ added, nextTrace.calls = ([] : List MusaCall) ++ added ∧
            ∀ module name grid block shared stream,
              MusaCall.launchKernel module name grid block shared stream ∈ added →
                name = singleSscpLaunch.kernelName ∧ stream = some 7 ∧
                ∃ (obj : CodeObject) (image : CompiledImage) (kernelNames : List String),
                  lookupEntry next.codeObjects request.codeObjectConfigurationId = some obj ∧
                  obj.module = module ∧
                  obj.builtFrom = .sscp image "mp_21" singleSscpLaunch.hcfObject kernelNames 0
                    request.config ∧
                  image.compiledFrom.hcfObject = singleSscpLaunch.hcfObject ∧
                  image.compiledFrom.config = request.config :=
  ⟨_, rfl, sscpLaunch_runs_own_configuration exactHash (singleTargetEnvironment ["k"])
    uniformEngine exactHash_injective .refl deviceSucceeds ⟨0, some 7⟩ {} {} singleSscpLaunch
    rfl⟩

end MusaBackend
