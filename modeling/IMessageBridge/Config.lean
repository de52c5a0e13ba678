import IMessageBridge.Validation

/-!
# Configurations from a hardware key

Off macOS, the bridge registers with the `MacOSConfig` that
`create_config_from_hardware_key` (or `create_config_from_hardware_key_with_device_id`)
builds from a hardware key the user pastes: the base64 of the JSON of a whole
`MacOSConfig`, as the extraction tool writes it, or of a bare `HardwareConfig`. The key's
whitespace, which chat clients insert, is dropped before decoding; the protocol fields
are fixed; the relay settings are the whole configuration's, and none for a bare one.

The device id is always the key's platform UUID in upper case: a persisted device id is
read only by a log line, so both functions build the same configuration, and it has no
UDID, so its `get_udid` panics. Base64 text has no whitespace, so a key pasted from the
base64 of a configuration's JSON, with whitespace anywhere, builds that configuration
(`createConfigFromHardwareKey_pasted`).

`serde_json`, the `base64` crate's error and `open_absinthe::nac::HardwareConfig` are not
in this repository: the two JSON readings and the error's display are inputs
(`HardwareKeyCodecs`), and `HardwareConfig` keeps the field the bridge reads. The build
without the `hardware-key` feature, which refuses every key, is left out.
-/

namespace IMessageBridge

/-- `open_absinthe::nac::HardwareConfig`, with the field the bridge reads. -/
structure HardwareConfig where
  platformUuid : String
  deriving DecidableEq, Repr

/-- The whole of `MacOSConfig`: the relay settings `generate_validation_data` reads
(`MacOSConfig`) and the fields besides. -/
structure FullMacOSConfig extends MacOSConfig where
  inner : HardwareConfig
  version : String
  protocolVersion : Nat
  deviceId : String
  icloudUa : String
  aoskitVersion : String
  udid : Option String
  relayCertFp : Option String

/-- What decodes a hardware key: the display of `base64`'s error, and
`serde_json::from_slice` as a whole `MacOSConfig` and as a bare `HardwareConfig`, each
with the display of its error. -/
structure HardwareKeyCodecs where
  base64ErrorDisplay : String
  config : Bytes → Except String FullMacOSConfig
  hardware : Bytes → Except String HardwareConfig

/-- `_create_config_from_hardware_key_inner`, built with the `hardware-key` feature;
`toUppercase` is `str::to_uppercase`. The persisted `deviceId` is only logged. -/
def createConfigFromHardwareKeyInner (codecs : HardwareKeyCodecs)
    (toUppercase : String → String) (base64Key : String) (_deviceId : Option String) :
    Except WrappedError FullMacOSConfig := do
  let cleanKey : String := ⟨base64Key.data.filter fun c => !isWhitespace c⟩
  let jsonBytes ← match base64Decode cleanKey with
    | some bytes => pure bytes
    | none => throw (.genericError ("Invalid base64: " ++ codecs.base64ErrorDisplay))
  let (hw, relay, relayCertFp) ← match codecs.config jsonBytes with
    | .ok full => pure (full.inner, full.toMacOSConfig, full.relayCertFp)
    | .error _ => match codecs.hardware jsonBytes with
      | .ok hw => pure (hw, ⟨none, none⟩, none)
      | .error display => throw (.genericError ("Invalid hardware key JSON: " ++ display))
  pure {
    inner := hw
    version := "15.3"
    protocolVersion := 1660
    deviceId := toUppercase hw.platformUuid
    icloudUa := "com.apple.iCloudHelper/282 CFNetwork/1408.0.4 Darwin/22.5.0"
    aoskitVersion := "com.apple.AOSKit/282 (com.apple.accountsd/113)"
    udid := none
    nacRelayUrl := relay.nacRelayUrl
    relayToken := relay.relayToken
    relayCertFp := relayCertFp }

/-- `create_config_from_hardware_key`. -/
def createConfigFromHardwareKey (codecs : HardwareKeyCodecs) (toUppercase : String → String)
    (base64Key : String) : Except WrappedError FullMacOSConfig :=
  createConfigFromHardwareKeyInner codecs toUppercase base64Key none

/-- `create_config_from_hardware_key_with_device_id`. -/
def createConfigFromHardwareKeyWithDeviceId (codecs : HardwareKeyCodecs)
    (toUppercase : String → String) (base64Key deviceId : String) :
    Except WrappedError FullMacOSConfig :=
  createConfigFromHardwareKeyInner codecs toUppercase base64Key (some deviceId)

/-- `MacOSConfig::get_udid`. -/
def getUdid (config : FullMacOSConfig) : Except Panic String :=
  expectAt (macosRs 75) "missing udid!" config.udid

theorem base64Encode_filter_whitespace (bytes : Bytes) :
    (base64Encode bytes).data.filter (fun c => !isWhitespace c) = (base64Encode bytes).data :=
  List.filter_eq_self.mpr
    (base64Chars_forall (P := fun c => (!isWhitespace c) = true) (by decide) (by decide) bytes)

theorem cleanKey_decode {key : String} {json : Bytes}
    (pasted : key.data.filter (fun c => !isWhitespace c) = (base64Encode json).data) :
    base64Decode ⟨key.data.filter fun c => !isWhitespace c⟩ = some json := by
  rw [pasted]
  exact base64_decode_encode json

/-- A hardware key pasted from the base64 of a JSON, with whitespace anywhere in it, builds
one configuration whether or not a device id was persisted. When the JSON is a whole
`MacOSConfig`, the configuration has its hardware and relay settings; when it is a bare
`HardwareConfig`, that hardware and no relay; otherwise the key is refused with the bare
reading's error. The device id is the hardware's platform UUID in upper case, and there is
no UDID, so that `get_udid` panics on the configuration. -/
theorem createConfigFromHardwareKey_pasted (codecs : HardwareKeyCodecs)
    (toUppercase : String → String) (json : Bytes) (key persisted : String)
    (pasted : key.data.filter (fun c => !isWhitespace c) = (base64Encode json).data) :
    let built := createConfigFromHardwareKey codecs toUppercase key
    createConfigFromHardwareKeyWithDeviceId codecs toUppercase key persisted = built ∧
    (∀ full, codecs.config json = .ok full → ∃ config, built = .ok config ∧
      config.inner = full.inner ∧ config.toMacOSConfig = full.toMacOSConfig ∧
      config.relayCertFp = full.relayCertFp ∧
      config.deviceId = toUppercase full.inner.platformUuid ∧
      getUdid config = .error ⟨macosRs 75, "missing udid!"⟩) ∧
    (∀ display hardware, codecs.config json = .error display →
      codecs.hardware json = .ok hardware → ∃ config, built = .ok config ∧
        config.inner = hardware ∧ config.toMacOSConfig = ⟨none, none⟩ ∧
        config.relayCertFp = none ∧ config.deviceId = toUppercase hardware.platformUuid ∧
        getUdid config = .error ⟨macosRs 75, "missing udid!"⟩) ∧
    (∀ display bareDisplay, codecs.config json = .error display →
      codecs.hardware json = .error bareDisplay →
      built = .error (.genericError ("Invalid hardware key JSON: " ++ bareDisplay))) := by
  have decoded := cleanKey_decode pasted
  refine ⟨rfl, ?_⟩
  simp only [createConfigFromHardwareKey, createConfigFromHardwareKeyInner, decoded, bind,
    Except.bind, pure, Except.pure]
  refine ⟨fun full whole => ?_, fun display hardware notWhole bare => ?_,
    fun display bareDisplay notWhole notBare => ?_⟩
  · rw [whole]
    exact ⟨_, rfl, rfl, rfl, rfl, rfl, rfl⟩
  · rw [notWhole, bare]
    exact ⟨_, rfl, rfl, rfl, rfl, rfl, rfl⟩
  · rw [notWhole, notBare]

/-- Codecs that read every key as a bare `HardwareConfig`. -/
def bareKeyCodecs : HardwareKeyCodecs :=
  ⟨"Invalid symbol", fun _ => .error "missing field inner", fun _ => .ok ⟨"0a1b"⟩⟩

theorem createConfigFromHardwareKey_pasted_shown :
    "AQ\nID".data.filter (fun c => !isWhitespace c) = (base64Encode [1, 2, 3]).data ∧
    let built := createConfigFromHardwareKey bareKeyCodecs String.toUpper "AQ\nID"
    createConfigFromHardwareKeyWithDeviceId bareKeyCodecs String.toUpper "AQ\nID" "stale" =
      built ∧
    (∀ full, bareKeyCodecs.config [1, 2, 3] = .ok full → ∃ config, built = .ok config ∧
      config.inner = full.inner ∧ config.toMacOSConfig = full.toMacOSConfig ∧
      config.relayCertFp = full.relayCertFp ∧
      config.deviceId = String.toUpper full.inner.platformUuid ∧
      getUdid config = .error ⟨macosRs 75, "missing udid!"⟩) ∧
    (∀ display hardware, bareKeyCodecs.config [1, 2, 3] = .error display →
      bareKeyCodecs.hardware [1, 2, 3] = .ok hardware → ∃ config, built = .ok config ∧
        config.inner = hardware ∧ config.toMacOSConfig = ⟨none, none⟩ ∧
        config.relayCertFp = none ∧ config.deviceId = String.toUpper hardware.platformUuid ∧
        getUdid config = .error ⟨macosRs 75, "missing udid!"⟩) ∧
    (∀ display bareDisplay, bareKeyCodecs.config [1, 2, 3] = .error display →
      bareKeyCodecs.hardware [1, 2, 3] = .error bareDisplay →
      built = .error (.genericError ("Invalid hardware key JSON: " ++ bareDisplay))) :=
  ⟨by decide, createConfigFromHardwareKey_pasted bareKeyCodecs String.toUpper [1, 2, 3]
    "AQ\nID" "stale" (by decide)⟩

end IMessageBridge
