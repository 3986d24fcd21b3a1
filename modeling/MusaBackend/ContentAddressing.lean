import MusaBackend.CodeObjectLaunch

/-!
The kernel cache is content-addressed.

Whatever a build reads is part of the id it is stored under: two launches, through
either `submit_multipass_kernel_from_code_object` or
`submit_sscp_kernel_from_code_object` and from any cache, that store code objects under
one id built them from the same inputs, and two that store JIT images under one binary
id compiled them from the same inputs. For the multipass path this follows from the
configuration alone. For the SSCP path it also needs the thread-local configuration,
which the launch resets from `initial_config` and leaves at the value it hashed, and the
engine's selection, which the statement takes as fixed by the configuration the engine
finalizes.

What the cache holds along whole runs of launches is stated in `LaunchRuns`.
-/

namespace MusaBackend

theorem multipassConfiguration_inj {firstObject secondObject : Nat}
    {firstTarget secondTarget : String}
    (same : multipassConfiguration firstObject firstTarget =
      multipassConfiguration secondObject secondTarget) :
    firstObject = secondObject ∧ firstTarget = secondTarget := by
  simpa [multipassConfiguration, KernelConfiguration.appendBaseConfiguration] using same

theorem multipassSelectTarget_root {env : LaunchEnvironment} {hcfObject : Nat}
    {root : List HcfTargetNode} {selectedTarget : String}
    (selected : multipassSelectTarget env hcfObject = .next (root, selectedTarget)) :
    (env.getHcf hcfObject).bind HcfContainer.rootNode = some root := by
  unfold multipassSelectTarget at selected
  rcases found : env.getHcf hcfObject with _ | hcf
  · simp [found] at selected
  · rcases rooted : hcf.rootNode with _ | present
    · simp [found, rooted] at selected
    · rcases listed : getSubnodes present with _ | ⟨first, rest⟩
      · simp [found, rooted, listed] at selected
      · simp only [found, rooted, listed, Stage.next.injEq, Prod.mk.injEq] at selected
        simp [rooted, selected.1]

theorem foldl_setBuildFlag_baseConfiguration (flags : List Nat) (config : KernelConfiguration) :
    (flags.foldl KernelConfiguration.setBuildFlag config).baseConfiguration =
      config.baseConfiguration := by
  induction flags generalizing config with
  | nil => rfl
  | cons flag rest ih => exact ih _

theorem foldl_setBuildOption_baseConfiguration
    (options : List (KernelBuildOption × ConfigValue)) (config : KernelConfiguration) :
    (options.foldl (fun config option => config.setBuildOption option.1 option.2)
      config).baseConfiguration = config.baseConfiguration := by
  induction options generalizing config with
  | nil => rfl
  | cons option rest ih => exact ih _

theorem finalizeBinaryConfiguration_lastBaseValue (engine : AdaptivityEngine)
    (input : AdaptivityInput) (initialConfig : KernelConfiguration) (hcfObject : Nat)
    (kernelInfo : HcfKernelInfo) (computeCapability : Nat) :
    (engine.finalizeBinaryConfiguration input (sscpConfiguration initialConfig hcfObject
        kernelInfo computeCapability)).lastBaseValue .hcfObjectId = some (.natural hcfObject) ∧
      (engine.finalizeBinaryConfiguration input (sscpConfiguration initialConfig hcfObject
        kernelInfo computeCapability)).lastBaseValue .compilationFlow = some (.flow .sscp) := by
  simp only [KernelConfiguration.lastBaseValue, AdaptivityEngine.finalizeBinaryConfiguration,
    KernelConfiguration.specialize, sscpConfiguration,
    KernelConfiguration.setBuildOption_baseConfiguration,
    foldl_setBuildOption_baseConfiguration, foldl_setBuildFlag_baseConfiguration,
    KernelConfiguration.appendBaseConfiguration]
  cases (engine.specialization input _).singleKernel <;> simp

theorem multipassCodeObjectConstructor_built {env : LaunchEnvironment}
    {root : List HcfTargetNode} {hcfObject : Nat} {selectedTarget : String} {dev : Nat}
    {trace next : Trace} {obj : CodeObject}
    (built : multipassCodeObjectConstructor env root hcfObject selectedTarget dev trace =
      (some obj, next)) :
    ∃ tn sourceCode, getSubnode root selectedTarget = some tn ∧
      tn.binaryAttachment = some sourceCode ∧
      obj.builtFrom = .multipass hcfObject selectedTarget sourceCode dev := by
  unfold multipassCodeObjectConstructor at built
  split at built
  · cases built
  · rename_i tn found
    split at built
    · cases built
    · split at built
      · cases built
      · rename_i sourceCode attached
        dsimp only at built
        split at built
        · cases built
        · cases built
          exact ⟨tn, sourceCode, found, attached, rfl⟩

theorem sscpCodeObjectConstructor_built {env : LaunchEnvironment} {engine : AdaptivityEngine}
    {input : AdaptivityInput} {targetArchName : String} {dev : Nat}
    {config : KernelConfiguration} {image : CompiledImage} {trace next : Trace}
    {obj : CodeObject}
    (built : sscpCodeObjectConstructor env engine input targetArchName dev config image trace =
      (some obj, next)) :
    obj.builtFrom = .sscp image targetArchName input.hcfObject
      (engine.selectImageAndKernels input).2 dev config := by
  unfold sscpCodeObjectConstructor at built
  dsimp only at built
  split at built
  · cases built
  · cases built
    rfl

theorem sscpJitCompiler_compiled {env : LaunchEnvironment} {engine : AdaptivityEngine}
    {input : AdaptivityInput} {config : KernelConfiguration} {trace next : Trace}
    {image : CompiledImage}
    (compiled : sscpJitCompiler env engine input config trace = (some image, next)) :
    image.compiledFrom = ⟨input.hcfObject, (engine.selectImageAndKernels input).1,
      (engine.selectImageAndKernels input).2, config⟩ := by
  unfold sscpJitCompiler at compiled
  dsimp only at compiled
  split at compiled
  · cases compiled
  · cases compiled
    rfl

section Keys

variable {Id : Type} {hash : ConfigurationHash Id} {env : LaunchEnvironment}
  {engine : AdaptivityEngine}

theorem multipassCodeObjectConfigurationId_inj (injective : hash.Injective)
    {firstObject secondObject firstDev secondDev : Nat} {firstTarget secondTarget : String}
    (same : multipassCodeObjectConfigurationId hash firstObject firstTarget firstDev =
      multipassCodeObjectConfigurationId hash secondObject secondTarget secondDev) :
    firstObject = secondObject ∧ firstTarget = secondTarget ∧ firstDev = secondDev := by
  obtain ⟨binary, device⟩ := injective.extendHash _ _ _ _ _ same
  obtain ⟨object, target⟩ := multipassConfiguration_inj (injective.generateId binary)
  exact ⟨object, target, by simpa using device⟩

theorem sscpCacheRequest_spec {dev : Nat} {launch : SscpLaunch} {request : SscpCacheRequest Id}
    (found : sscpCacheRequest hash env engine dev launch = some request) :
    request.input.hcfObject = launch.hcfObject ∧ request.targetArchName = env.getDeviceArch dev ∧
      request.config = engine.finalizeBinaryConfiguration request.input
        (sscpConfiguration launch.initialConfig launch.hcfObject request.input.kernelInfo
          (env.getComputeCapability dev)) ∧
      request.binaryConfigurationId = hash.generateId request.config ∧
      request.codeObjectConfigurationId =
        hash.extendHash request.binaryConfigurationId .runtimeDevice (.natural dev) := by
  obtain ⟨kernelInfo, -, rfl⟩ := Option.map_eq_some'.mp found
  exact ⟨rfl, rfl, rfl, rfl, rfl⟩

/-- The reading of the engine that content addressing needs: the image and kernels it
selects are fixed by the configuration it finalizes. -/
def AdaptivityEngine.SelectionFixedByConfiguration (engine : AdaptivityEngine) : Prop :=
  ∀ first second firstConfig secondConfig,
    engine.finalizeBinaryConfiguration first firstConfig =
        engine.finalizeBinaryConfiguration second secondConfig →
      engine.selectImageAndKernels first = engine.selectImageAndKernels second

theorem sscp_binaryConfigurationId_inj (injective : hash.Injective)
    (engineFixed : engine.SelectionFixedByConfiguration) {firstDev secondDev : Nat}
    {firstLaunch secondLaunch : SscpLaunch} {first second : SscpCacheRequest Id}
    (firstFound : sscpCacheRequest hash env engine firstDev firstLaunch = some first)
    (secondFound : sscpCacheRequest hash env engine secondDev secondLaunch = some second)
    (same : first.binaryConfigurationId = second.binaryConfigurationId) :
    first.config = second.config ∧ first.input.hcfObject = second.input.hcfObject ∧
      engine.selectImageAndKernels first.input = engine.selectImageAndKernels second.input := by
  obtain ⟨firstObject, -, firstConfig, firstBinary, -⟩ := sscpCacheRequest_spec firstFound
  obtain ⟨secondObject, -, secondConfig, secondBinary, -⟩ := sscpCacheRequest_spec secondFound
  have configs : first.config = second.config :=
    injective.generateId (firstBinary ▸ secondBinary ▸ same)
  have objects : some (ConfigValue.natural firstLaunch.hcfObject) =
      some (.natural secondLaunch.hcfObject) := by
    rw [← (finalizeBinaryConfiguration_lastBaseValue engine first.input _ _ _ _).1,
      ← firstConfig, ← (finalizeBinaryConfiguration_lastBaseValue engine second.input _ _ _ _).1,
      ← secondConfig, configs]
  refine ⟨configs, by simpa [firstObject, secondObject] using objects, ?_⟩
  exact engineFixed _ _ _ _ (firstConfig ▸ secondConfig ▸ configs)

theorem sscp_codeObjectConfigurationId_inj (injective : hash.Injective)
    {firstDev secondDev : Nat} {firstLaunch secondLaunch : SscpLaunch}
    {first second : SscpCacheRequest Id}
    (firstFound : sscpCacheRequest hash env engine firstDev firstLaunch = some first)
    (secondFound : sscpCacheRequest hash env engine secondDev secondLaunch = some second)
    (same : first.codeObjectConfigurationId = second.codeObjectConfigurationId) :
    first.binaryConfigurationId = second.binaryConfigurationId ∧ firstDev = secondDev ∧
      first.targetArchName = second.targetArchName := by
  obtain ⟨-, firstArch, -, -, firstId⟩ := sscpCacheRequest_spec firstFound
  obtain ⟨-, secondArch, -, -, secondId⟩ := sscpCacheRequest_spec secondFound
  obtain ⟨binary, device⟩ := injective.extendHash _ _ _ _ _ (firstId ▸ secondId ▸ same)
  have devices : firstDev = secondDev := by simpa using device
  exact ⟨binary, devices, by rw [firstArch, secondArch, devices]⟩

theorem multipassId_ne_sscpId (injective : hash.Injective) (hcfObject : Nat)
    (selectedTarget : String) (dev : Nat) {sscpDev : Nat} {launch : SscpLaunch}
    {request : SscpCacheRequest Id}
    (found : sscpCacheRequest hash env engine sscpDev launch = some request) :
    multipassCodeObjectConfigurationId hash hcfObject selectedTarget dev ≠
      request.codeObjectConfigurationId := by
  intro same
  obtain ⟨-, -, config, binary, codeObjectId⟩ := sscpCacheRequest_spec found
  rw [codeObjectId, binary] at same
  obtain ⟨configs, -⟩ := injective.extendHash _ _ _ _ _ same
  have flow : request.config.lastBaseValue .compilationFlow = some (.flow .sscp) := by
    rw [config]
    exact (finalizeBinaryConfiguration_lastBaseValue ..).2
  rw [← injective.generateId configs] at flow
  simp [multipassConfiguration, KernelConfiguration.appendBaseConfiguration,
    KernelConfiguration.lastBaseValue] at flow

theorem multipassStored_same (injective : hash.Injective)
    {firstObject secondObject firstDev secondDev : Nat}
    {firstRoot secondRoot : List HcfTargetNode} {firstTarget secondTarget : String}
    {firstNode secondNode : HcfTargetNode} {firstSource secondSource : String}
    (firstSelected : multipassSelectTarget env firstObject = .next (firstRoot, firstTarget))
    (secondSelected : multipassSelectTarget env secondObject = .next (secondRoot, secondTarget))
    (same : multipassCodeObjectConfigurationId hash firstObject firstTarget firstDev =
      multipassCodeObjectConfigurationId hash secondObject secondTarget secondDev)
    (firstFound : getSubnode firstRoot firstTarget = some firstNode)
    (secondFound : getSubnode secondRoot secondTarget = some secondNode)
    (firstAttached : firstNode.binaryAttachment = some firstSource)
    (secondAttached : secondNode.binaryAttachment = some secondSource) :
    firstObject = secondObject ∧ firstTarget = secondTarget ∧ firstSource = secondSource ∧
      firstDev = secondDev := by
  obtain ⟨rfl, rfl, rfl⟩ := multipassCodeObjectConfigurationId_inj injective same
  rw [firstSelected, Stage.next.injEq, Prod.mk.injEq] at secondSelected
  obtain ⟨rfl, -⟩ := secondSelected
  rw [firstFound, Option.some_inj] at secondFound
  subst secondFound
  rw [firstAttached, Option.some_inj] at secondAttached
  exact ⟨rfl, rfl, secondAttached, rfl⟩

end Keys

section ContentAddressing

variable {Id : Type} [DecidableEq Id] (hash : ConfigurationHash Id) (env : LaunchEnvironment)
  (engine : AdaptivityEngine)

/-- One launch through either path, by any queue on any device, with whatever trace and
thread-local configuration it finds. -/
inductive LaunchStep :
    KernelCache Id CodeObject CompiledImage → KernelCache Id CodeObject CompiledImage → Prop
  | multipass (device : Device) (queue : MusaQueue) (trace : Trace) (launch : MultipassLaunch)
      {cache next : KernelCache Id CodeObject CompiledImage} {result : Result}
      {nextTrace : Trace}
      (ran : submitMultipassKernelFromCodeObject hash env device queue cache trace launch =
        .ok (result, next, nextTrace)) :
      LaunchStep cache next
  | sscp (device : Device) (queue : MusaQueue) (trace : Trace)
      (threadConfig : KernelConfiguration) (launch : SscpLaunch)
      {cache next : KernelCache Id CodeObject CompiledImage} {result : Result}
      {nextTrace : Trace}
      (ran : (submitSscpKernelFromCodeObject hash env device engine queue cache trace
        threadConfig launch).1 = .ok (result, next, nextTrace)) :
      LaunchStep cache next

theorem submitMultipassKernelFromCodeObject_images {device : Device} {queue : MusaQueue}
    {cache next : KernelCache Id CodeObject CompiledImage} {trace nextTrace : Trace}
    {launch : MultipassLaunch} {result : Result}
    (ran : submitMultipassKernelFromCodeObject hash env device queue cache trace launch =
      .ok (result, next, nextTrace)) :
    next.images = cache.images := by
  rcases submitMultipassKernelFromCodeObject_cases hash env device ran with
    ⟨-, rfl, -⟩ | ⟨_, _, _, _, -, obtained, -⟩
  · rfl
  · exact getOrConstructCodeObject_images obtained

theorem submitMultipassKernelFromCodeObject_stored {device : Device} {queue : MusaQueue}
    {cache next : KernelCache Id CodeObject CompiledImage} {trace nextTrace : Trace}
    {launch : MultipassLaunch} {result : Result}
    (ran : submitMultipassKernelFromCodeObject hash env device queue cache trace launch =
      .ok (result, next, nextTrace))
    {id : Id} {obj : CodeObject} (stores : next.codeObjects = cache.codeObjects ++ [(id, obj)]) :
    ∃ root selectedTarget tn sourceCode,
      multipassSelectTarget env launch.hcfObject = .next (root, selectedTarget) ∧
      id = multipassCodeObjectConfigurationId hash launch.hcfObject selectedTarget queue.dev ∧
      getSubnode root selectedTarget = some tn ∧ tn.binaryAttachment = some sourceCode ∧
      obj.builtFrom = .multipass launch.hcfObject selectedTarget sourceCode queue.dev := by
  rcases submitMultipassKernelFromCodeObject_cases hash env device ran with
    ⟨-, rfl, -⟩ | ⟨root, selectedTarget, _, _, selected, obtained, -⟩
  · simp at stores
  obtain ⟨rfl, built⟩ := getOrConstructCodeObject_stored obtained stores
  obtain ⟨tn, sourceCode, found, attached, builtFrom⟩ := multipassCodeObjectConstructor_built built
  exact ⟨root, selectedTarget, tn, sourceCode, selected, rfl, found, attached, builtFrom⟩

theorem submitSscpKernelFromCodeObject_stored {device : Device} {queue : MusaQueue}
    {cache next : KernelCache Id CodeObject CompiledImage} {trace nextTrace : Trace}
    {threadConfig : KernelConfiguration} {launch : SscpLaunch} {result : Result}
    (ran : (submitSscpKernelFromCodeObject hash env device engine queue cache trace
      threadConfig launch).1 = .ok (result, next, nextTrace))
    {id : Id} {obj : CodeObject} (stores : next.codeObjects = cache.codeObjects ++ [(id, obj)]) :
    ∃ request image, sscpCacheRequest hash env engine queue.dev launch = some request ∧
      id = request.codeObjectConfigurationId ∧
      lookupEntry next.images request.binaryConfigurationId = some image ∧
      obj.builtFrom = .sscp image request.targetArchName request.input.hcfObject
        (engine.selectImageAndKernels request.input).2 queue.dev request.config := by
  rcases submitSscpKernelFromCodeObject_cases hash env device ran with
    ⟨-, rfl, -⟩ | ⟨request, _, _, -, requested, obtained, -⟩
  · simp at stores
  obtain ⟨rfl, image, _, held, built⟩ := getOrConstructJitCodeObject_stored obtained stores
  exact ⟨request, image, requested, rfl, held, sscpCodeObjectConstructor_built built⟩

theorem submitSscpKernelFromCodeObject_storedImage {device : Device} {queue : MusaQueue}
    {cache next : KernelCache Id CodeObject CompiledImage} {trace nextTrace : Trace}
    {threadConfig : KernelConfiguration} {launch : SscpLaunch} {result : Result}
    (ran : (submitSscpKernelFromCodeObject hash env device engine queue cache trace
      threadConfig launch).1 = .ok (result, next, nextTrace))
    {binaryId : Id} {image : CompiledImage}
    (stores : next.images = cache.images ++ [(binaryId, image)]) :
    ∃ request, sscpCacheRequest hash env engine queue.dev launch = some request ∧
      binaryId = request.binaryConfigurationId ∧
      image.compiledFrom = ⟨request.input.hcfObject, (engine.selectImageAndKernels request.input).1,
        (engine.selectImageAndKernels request.input).2, request.config⟩ := by
  rcases submitSscpKernelFromCodeObject_cases hash env device ran with
    ⟨-, rfl, -⟩ | ⟨request, _, _, -, requested, obtained, -⟩
  · simp at stores
  obtain ⟨rfl, _, compiled⟩ := getOrConstructJitCodeObject_storedImage obtained stores
  exact ⟨request, requested, rfl, sscpJitCompiler_compiled compiled⟩

/-- Two builds read the same inputs. A multipass build reads all of its inputs; an SSCP
build reads all of them but the JIT image, which it reads from its cache under the
binary id of the configuration it reads. -/
def BuildInputs.SameReads (firstImages secondImages : List (Id × CompiledImage)) :
    BuildInputs → BuildInputs → Prop
  | .multipass firstObject firstTarget firstSource firstDev,
    .multipass secondObject secondTarget secondSource secondDev =>
      firstObject = secondObject ∧ firstTarget = secondTarget ∧ firstSource = secondSource ∧
        firstDev = secondDev
  | .sscp firstImage firstArch firstObject firstNames firstDev firstConfig,
    .sscp secondImage secondArch secondObject secondNames secondDev secondConfig =>
      lookupEntry firstImages (hash.generateId firstConfig) = some firstImage ∧
        lookupEntry secondImages (hash.generateId secondConfig) = some secondImage ∧
        firstArch = secondArch ∧ firstObject = secondObject ∧ firstNames = secondNames ∧
        firstDev = secondDev ∧ firstConfig = secondConfig
  | _, _ => False

/-- Content addressing of the kernel cache, for both launch paths and from any cache a
thread finds. Two launches that store code objects under one id, through either path,
built them from the same inputs; two that store JIT images under one binary id compiled
them from the same inputs. An SSCP launch does not depend on the thread-local
configuration it finds, and leaves there the configuration it hashed, which its closures
read. -/
def KernelCacheContentAddressed : Prop :=
    (∀ (firstCache firstNext secondCache secondNext : KernelCache Id CodeObject CompiledImage)
        (id : Id) (firstObj secondObj : CodeObject),
      LaunchStep hash env engine firstCache firstNext →
      firstNext.codeObjects = firstCache.codeObjects ++ [(id, firstObj)] →
      LaunchStep hash env engine secondCache secondNext →
      secondNext.codeObjects = secondCache.codeObjects ++ [(id, secondObj)] →
      firstObj.builtFrom.SameReads hash firstNext.images secondNext.images
        secondObj.builtFrom) ∧
    (∀ (firstCache firstNext secondCache secondNext : KernelCache Id CodeObject CompiledImage)
        (binaryId : Id) (firstImage secondImage : CompiledImage),
      LaunchStep hash env engine firstCache firstNext →
      firstNext.images = firstCache.images ++ [(binaryId, firstImage)] →
      LaunchStep hash env engine secondCache secondNext →
      secondNext.images = secondCache.images ++ [(binaryId, secondImage)] →
      firstImage.compiledFrom = secondImage.compiledFrom) ∧
    (∀ (device : Device) (queue : MusaQueue) (cache : KernelCache Id CodeObject CompiledImage)
        (trace : Trace) (prior other : KernelConfiguration) (launch : SscpLaunch),
      (submitSscpKernelFromCodeObject hash env device engine queue cache trace prior launch).1 =
        (submitSscpKernelFromCodeObject hash env device engine queue cache trace other
          launch).1 ∧
      ∀ request, env.withSscpCompiler = true →
        sscpCacheRequest hash env engine queue.dev launch = some request →
        (submitSscpKernelFromCodeObject hash env device engine queue cache trace prior
          launch).2 = request.config ∧
        hash.generateId request.config = request.binaryConfigurationId)

theorem LaunchStep.stored {cache next : KernelCache Id CodeObject CompiledImage}
    (step : LaunchStep hash env engine cache next) {id : Id} {obj : CodeObject}
    (stores : next.codeObjects = cache.codeObjects ++ [(id, obj)]) :
    (∃ hcfObject root selectedTarget tn sourceCode dev,
      multipassSelectTarget env hcfObject = .next (root, selectedTarget) ∧
      id = multipassCodeObjectConfigurationId hash hcfObject selectedTarget dev ∧
      getSubnode root selectedTarget = some tn ∧ tn.binaryAttachment = some sourceCode ∧
      obj.builtFrom = .multipass hcfObject selectedTarget sourceCode dev) ∨
    ∃ dev launch request image, sscpCacheRequest hash env engine dev launch = some request ∧
      id = request.codeObjectConfigurationId ∧
      lookupEntry next.images (hash.generateId request.config) = some image ∧
      obj.builtFrom = .sscp image request.targetArchName request.input.hcfObject
        (engine.selectImageAndKernels request.input).2 dev request.config := by
  cases step with
  | multipass _ queue _ launch ran =>
      obtain ⟨root, selectedTarget, tn, sourceCode, selected, rfl, found, attached, builtFrom⟩ :=
        submitMultipassKernelFromCodeObject_stored hash env ran stores
      exact .inl ⟨_, root, selectedTarget, tn, sourceCode, _, selected, rfl, found, attached,
        builtFrom⟩
  | sscp _ queue _ _ launch ran =>
      obtain ⟨request, image, requested, rfl, held, builtFrom⟩ :=
        submitSscpKernelFromCodeObject_stored hash env engine ran stores
      rw [(sscpCacheRequest_spec requested).2.2.2.1] at held
      exact .inr ⟨_, launch, request, image, requested, rfl, held, builtFrom⟩

theorem LaunchStep.storedImage {cache next : KernelCache Id CodeObject CompiledImage}
    (step : LaunchStep hash env engine cache next) {binaryId : Id} {image : CompiledImage}
    (stores : next.images = cache.images ++ [(binaryId, image)]) :
    ∃ dev launch request, sscpCacheRequest hash env engine dev launch = some request ∧
      binaryId = request.binaryConfigurationId ∧
      image.compiledFrom = ⟨request.input.hcfObject,
        (engine.selectImageAndKernels request.input).1,
        (engine.selectImageAndKernels request.input).2, request.config⟩ := by
  cases step with
  | multipass _ _ _ _ ran =>
      rw [submitMultipassKernelFromCodeObject_images hash env ran] at stores
      simp at stores
  | sscp _ _ _ _ launch ran =>
      obtain ⟨request, requested, rfl, compiled⟩ :=
        submitSscpKernelFromCodeObject_storedImage hash env engine ran stores
      exact ⟨_, launch, request, requested, rfl, compiled⟩

/-- Under injective fingerprints and an engine whose selection is fixed by the
configuration it finalizes, the kernel cache is content-addressed: every input a build
reads is part of the id it is stored under. -/
theorem kernelCache_content_addressed (injective : hash.Injective)
    (engineFixed : engine.SelectionFixedByConfiguration) :
    KernelCacheContentAddressed hash env engine := by
  refine ⟨?codeObjects, ?images, ?thread⟩
  case codeObjects =>
    intro firstCache firstNext secondCache secondNext id firstObj secondObj firstStep
      firstStores secondStep secondStores
    rcases firstStep.stored hash env engine firstStores with
      ⟨_, _, _, _, _, _, firstSelected, rfl, firstFound, firstAttached, firstBuilt⟩ |
      ⟨firstDev, _, first, firstImage, firstRequested, rfl, firstHeld, firstBuilt⟩ <;>
    rcases secondStep.stored hash env engine secondStores with
      ⟨_, _, _, _, _, _, secondSelected, same, secondFound, secondAttached, secondBuilt⟩ |
      ⟨secondDev, _, second, secondImage, secondRequested, same, secondHeld, secondBuilt⟩ <;>
    rw [firstBuilt, secondBuilt]
    · exact multipassStored_same injective firstSelected secondSelected same firstFound
        secondFound firstAttached secondAttached
    · exact multipassId_ne_sscpId injective _ _ _ secondRequested same
    · exact multipassId_ne_sscpId injective _ _ _ firstRequested same.symm
    · obtain ⟨binary, devices, arches⟩ :=
        sscp_codeObjectConfigurationId_inj injective firstRequested secondRequested same
      obtain ⟨configs, objects, selected⟩ :=
        sscp_binaryConfigurationId_inj injective engineFixed firstRequested secondRequested binary
      exact ⟨firstHeld, secondHeld, arches, objects, congrArg Prod.snd selected, devices, configs⟩
  case images =>
    intro firstCache firstNext secondCache secondNext binaryId firstImage secondImage firstStep
      firstStores secondStep secondStores
    obtain ⟨_, _, first, firstRequested, rfl, firstCompiled⟩ :=
      firstStep.storedImage hash env engine firstStores
    obtain ⟨_, _, second, secondRequested, binary, secondCompiled⟩ :=
      secondStep.storedImage hash env engine secondStores
    obtain ⟨configs, objects, selected⟩ :=
      sscp_binaryConfigurationId_inj injective engineFixed firstRequested secondRequested binary
    rw [firstCompiled, secondCompiled, configs, objects, selected]
  case thread =>
    intro device queue cache trace prior other launch
    constructor
    · unfold submitSscpKernelFromCodeObject
      split
      · rfl
      · split <;> rfl
    intro request built found
    refine ⟨by simp [submitSscpKernelFromCodeObject, built, found], ?_⟩
    exact (sscpCacheRequest_spec found).2.2.2.1.symm

end ContentAddressing

def uniformEngine : AdaptivityEngine := ⟨fun _ _ => {}, fun _ => ("image", [])⟩

theorem kernelCache_content_addressed_exact :
    exactHash.Injective ∧ uniformEngine.SelectionFixedByConfiguration ∧
      KernelCacheContentAddressed exactHash (singleTargetEnvironment ["kernel"])
        uniformEngine :=
  ⟨exactHash_injective, fun _ _ _ _ _ => rfl,
    kernelCache_content_addressed exactHash _ uniformEngine exactHash_injective
      fun _ _ _ _ _ => rfl⟩

end MusaBackend
