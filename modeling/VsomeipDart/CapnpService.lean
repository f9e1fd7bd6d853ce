import VsomeipDart.CapnpPayload
import VsomeipDart.CapnpReads

/-! # The payloads that the native side builds (`capnp_service.cpp`)

Each of three schemas has a builder in C++, with offsets of its own, and a Reader that is generated from the
schema file. A `uint64_t` is the pattern of an `int`.
-/

namespace VsomeipDart
set_option autoImplicit false

open LittleEndian

def capnpBuildVehicleSpeed (speedKmh : UInt32) (timestamp : UInt64) (sensorId : UInt16)
    (qualityFlag : UInt8) : Option Bytes := do
  let builder := CapnpPayloadBuilder.create 16
  let builder ← builder.setFloat32 0 speedKmh
  let builder ← builder.setUint64 4 timestamp
  let builder ← builder.setUint16 12 sensorId
  let builder ← builder.setUint8 14 qualityFlag
  return builder.take.1

def capnpBuildRadarObject (objectId : UInt16) (distanceM azimuthDeg velocityMs rcsDbsm : UInt32)
    (timestamp : UInt64) (classification : UInt8) : Option Bytes := do
  let builder := CapnpPayloadBuilder.create 40
  let builder ← builder.setUint16 0 objectId
  let builder ← builder.setFloat32 4 distanceM
  let builder ← builder.setFloat32 8 azimuthDeg
  let builder ← builder.setFloat32 12 velocityMs
  let builder ← builder.setFloat32 16 rcsDbsm
  let builder ← builder.setUint64 24 timestamp
  let builder ← builder.setUint8 32 classification
  return builder.take.1

def capnpBuildImuData (accelX accelY accelZ gyroX gyroY gyroZ : UInt32) (timestamp : UInt64)
    (sensorId : UInt16) : Option Bytes := do
  let builder := CapnpPayloadBuilder.create 40
  let builder ← builder.setFloat32 0 accelX
  let builder ← builder.setFloat32 4 accelY
  let builder ← builder.setFloat32 8 accelZ
  let builder ← builder.setFloat32 12 gyroX
  let builder ← builder.setFloat32 16 gyroY
  let builder ← builder.setFloat32 20 gyroZ
  let builder ← builder.setUint64 24 timestamp
  let builder ← builder.setUint16 32 sensorId
  return builder.take.1

section Schemas

def fileText (lines : List String) : List Char := lines.flatMap fun line => line.toList ++ ['\n']

def vehicleSpeedFile : List Char := fileText [
  "@0xdeadbeefcafe0001;",
  "",
  "struct VehicleSpeed \x7b",
  "  speedKmh     @0 :Float32;  # km/h, IEEE 754",
  "  timestamp    @1 :UInt64;   # microseconds since epoch",
  "  sensorId     @2 :UInt16;",
  "  qualityFlag  @3 :UInt8;",
  "  reserved     @4 :UInt8;    # future use",
  "\x7d"]

def radarObjectFile : List Char := fileText [
  "@0xdeadbeefcafe0002;",
  "",
  "struct RadarObject \x7b",
  "  objectId     @0 :UInt16;",
  "  distanceM    @1 :Float32;  # meters",
  "  azimuthDeg   @2 :Float32;  # degrees from centerline",
  "  velocityMs   @3 :Float32;  # m/s relative velocity",
  "  rcsDbsm      @4 :Float32;  # radar cross section dBsm",
  "  timestamp    @5 :UInt64;   # microseconds since epoch",
  "  classification @6 :UInt8;  # 0=unknown, 1=car, 2=truck, 3=pedestrian, 4=bike",
  "\x7d"]

def imuDataFile : List Char := fileText [
  "@0xdeadbeefcafe0003;",
  "",
  "struct ImuData \x7b",
  "  accelX       @0 :Float32;  # m/s^2",
  "  accelY       @1 :Float32;",
  "  accelZ       @2 :Float32;",
  "  gyroX        @3 :Float32;  # rad/s",
  "  gyroY        @4 :Float32;",
  "  gyroZ        @5 :Float32;",
  "  timestamp    @6 :UInt64;   # microseconds since epoch",
  "  sensorId     @7 :UInt16;",
  "\x7d"]

/-- What is generated for a schema file. -/
def generated (file : List Char) : Option Emitted :=
  (asciiText.parseSchema file).map fun schema => emit asciiCase schema.fields

end Schemas

inductive NativeMessage where
  | vehicleSpeed (speedKmh : UInt32) (timestamp : UInt64) (sensorId : UInt16) (qualityFlag : UInt8)
  | radarObject (objectId : UInt16) (distanceM azimuthDeg velocityMs rcsDbsm : UInt32)
      (timestamp : UInt64) (classification : UInt8)
  | imuData (accelX accelY accelZ gyroX gyroY gyroZ : UInt32) (timestamp : UInt64) (sensorId : UInt16)
  deriving DecidableEq, Repr

namespace NativeMessage

def file : NativeMessage → List Char
  | vehicleSpeed .. => vehicleSpeedFile
  | radarObject .. => radarObjectFile
  | imuData .. => imuDataFile

def build : NativeMessage → Option Bytes
  | vehicleSpeed speedKmh timestamp sensorId qualityFlag =>
    capnpBuildVehicleSpeed speedKmh timestamp sensorId qualityFlag
  | radarObject objectId distanceM azimuthDeg velocityMs rcsDbsm timestamp classification =>
    capnpBuildRadarObject objectId distanceM azimuthDeg velocityMs rcsDbsm timestamp classification
  | imuData accelX accelY accelZ gyroX gyroY gyroZ timestamp sensorId =>
    capnpBuildImuData accelX accelY accelZ gyroX gyroY gyroZ timestamp sensorId

def arguments (message : NativeMessage) : List (String × CapnpValue) :=
  match message with
  | vehicleSpeed speedKmh timestamp sensorId qualityFlag =>
    [("speedKmh", .float32 speedKmh.toNat), ("timestamp", .int (signed 8 timestamp.toNat)),
      ("sensorId", .int sensorId.toNat), ("qualityFlag", .int qualityFlag.toNat)]
  | radarObject objectId distanceM azimuthDeg velocityMs rcsDbsm timestamp classification =>
    [("objectId", .int objectId.toNat), ("distanceM", .float32 distanceM.toNat),
      ("azimuthDeg", .float32 azimuthDeg.toNat), ("velocityMs", .float32 velocityMs.toNat),
      ("rcsDbsm", .float32 rcsDbsm.toNat), ("timestamp", .int (signed 8 timestamp.toNat)),
      ("classification", .int classification.toNat)]
  | imuData accelX accelY accelZ gyroX gyroY gyroZ timestamp sensorId =>
    [("accelX", .float32 accelX.toNat), ("accelY", .float32 accelY.toNat),
      ("accelZ", .float32 accelZ.toNat), ("gyroX", .float32 gyroX.toNat),
      ("gyroY", .float32 gyroY.toNat), ("gyroZ", .float32 gyroZ.toNat),
      ("timestamp", .int (signed 8 timestamp.toNat)), ("sensorId", .int sensorId.toNat)]

/-- The generated Reader gives back what was passed, from a buffer of the length that it expects. -/
def Agrees (message : NativeMessage) : Prop :=
  ∃ code bytes, generated message.file = some code ∧ message.build = some bytes ∧
    bytes.length = code.headerLen ∧
      ∀ argument ∈ message.arguments, code.read bytes argument.1.toList = some (.ok argument.2)

structure Cell where
  name : String
  type : Scalar
  offset : Nat
  pattern : Nat

def Cell.write (cell : Cell) : Write := ⟨cell.type.size, cell.offset, cell.pattern⟩

def Cell.argument (cell : Cell) : String × CapnpValue := (cell.name, cell.type.value cell.pattern)

def Cell.getter (cell : Cell) : Name × Accessor := (cell.name.toList, .scalar cell.type cell.offset)

def cells : NativeMessage → List Cell
  | vehicleSpeed speedKmh timestamp sensorId qualityFlag =>
    [⟨"speedKmh", .float32, 0, speedKmh.toNat⟩, ⟨"timestamp", .uint64, 4, timestamp.toNat⟩,
      ⟨"sensorId", .uint16, 12, sensorId.toNat⟩, ⟨"qualityFlag", .uint8, 14, qualityFlag.toNat⟩]
  | radarObject objectId distanceM azimuthDeg velocityMs rcsDbsm timestamp classification =>
    [⟨"objectId", .uint16, 0, objectId.toNat⟩, ⟨"distanceM", .float32, 4, distanceM.toNat⟩,
      ⟨"azimuthDeg", .float32, 8, azimuthDeg.toNat⟩, ⟨"velocityMs", .float32, 12, velocityMs.toNat⟩,
      ⟨"rcsDbsm", .float32, 16, rcsDbsm.toNat⟩, ⟨"timestamp", .uint64, 24, timestamp.toNat⟩,
      ⟨"classification", .uint8, 32, classification.toNat⟩]
  | imuData accelX accelY accelZ gyroX gyroY gyroZ timestamp sensorId =>
    [⟨"accelX", .float32, 0, accelX.toNat⟩, ⟨"accelY", .float32, 4, accelY.toNat⟩,
      ⟨"accelZ", .float32, 8, accelZ.toNat⟩, ⟨"gyroX", .float32, 12, gyroX.toNat⟩,
      ⟨"gyroY", .float32, 16, gyroY.toNat⟩, ⟨"gyroZ", .float32, 20, gyroZ.toNat⟩,
      ⟨"timestamp", .uint64, 24, timestamp.toNat⟩, ⟨"sensorId", .uint16, 32, sensorId.toNat⟩]

def calls : NativeMessage → List SetCall
  | vehicleSpeed speedKmh timestamp sensorId qualityFlag =>
    [.float32 0 speedKmh, .uint64 4 timestamp, .uint16 12 sensorId, .uint8 14 qualityFlag]
  | radarObject objectId distanceM azimuthDeg velocityMs rcsDbsm timestamp classification =>
    [.uint16 0 objectId, .float32 4 distanceM, .float32 8 azimuthDeg, .float32 12 velocityMs,
      .float32 16 rcsDbsm, .uint64 24 timestamp, .uint8 32 classification]
  | imuData accelX accelY accelZ gyroX gyroY gyroZ timestamp sensorId =>
    [.float32 0 accelX, .float32 4 accelY, .float32 8 accelZ, .float32 12 gyroX, .float32 16 gyroY,
      .float32 20 gyroZ, .uint64 24 timestamp, .uint16 32 sensorId]

def capacity : NativeMessage → UInt64
  | vehicleSpeed .. => 16
  | radarObject .. | imuData .. => 40

variable (message : NativeMessage)

theorem arguments_eq : message.arguments = message.cells.map Cell.argument := by
  cases message <;> rfl

theorem calls_write : message.calls.map SetCall.write = message.cells.map Cell.write := by
  cases message <;> rfl

theorem build_eq : message.build =
    ((CapnpPayloadBuilder.create message.capacity).run message.calls).map fun builder =>
      builder.take.1 := by
  cases message with
  | vehicleSpeed | radarObject | imuData =>
    simp only [build, capnpBuildVehicleSpeed, capnpBuildRadarObject, capnpBuildImuData, calls, capacity,
      CapnpPayloadBuilder.run, CapnpPayloadBuilder.exec, List.foldlM_cons, List.foldlM_nil,
      Option.bind_eq_bind, Option.map_bind, Option.pure_def, Option.map_some, Function.comp_def]

theorem cells_fit : ∀ w ∈ message.cells.map Cell.write, w.Fits message.capacity.toNat := by
  cases message <;> simp [cells, Cell.write, Write.Fits, capacity, Scalar.size]

theorem cells_ascend : (message.cells.map Cell.write).Pairwise Write.Before := by
  cases message <;> simp [cells, Cell.write, Write.Before, Scalar.size]

theorem cells_range : ∀ cell ∈ message.cells, cell.pattern < 256 ^ cell.type.size := by
  cases message with
  | vehicleSpeed speedKmh timestamp sensorId qualityFlag =>
    simp only [cells, List.forall_mem_cons]
    exact ⟨speedKmh.toNat_lt, timestamp.toNat_lt, sensorId.toNat_lt, qualityFlag.toNat_lt, by simp⟩
  | radarObject objectId distanceM azimuthDeg velocityMs rcsDbsm timestamp classification =>
    simp only [cells, List.forall_mem_cons]
    exact ⟨objectId.toNat_lt, distanceM.toNat_lt, azimuthDeg.toNat_lt, velocityMs.toNat_lt,
      rcsDbsm.toNat_lt, timestamp.toNat_lt, classification.toNat_lt, by simp⟩
  | imuData accelX accelY accelZ gyroX gyroY gyroZ timestamp sensorId =>
    simp only [cells, List.forall_mem_cons]
    exact ⟨accelX.toNat_lt, accelY.toNat_lt, accelZ.toNat_lt, gyroX.toNat_lt, gyroY.toNat_lt,
      gyroZ.toNat_lt, timestamp.toNat_lt, sensorId.toNat_lt, by simp⟩

/-- The bytes with every argument at its place. -/
def bytes : Bytes := patches (message.cells.map Cell.write) (List.replicate message.capacity.toNat 0)

theorem build_bytes : message.build = some message.bytes := by
  have hFits := message.cells_fit
  rw [← CapnpPayloadBuilder.create_size, ← calls_write] at hFits
  have hWraps : ∀ call ∈ message.calls,
      ¬ call.Wraps (CapnpPayloadBuilder.create message.capacity).buf.length := fun call hMem =>
    SetCall.not_wraps_of_fits (CapnpPayloadBuilder.size_lt _) (hFits _ (List.mem_map_of_mem hMem))
  obtain ⟨builder, hRun, -, hBuf⟩ := CapnpPayloadBuilder.run_of_not_wraps _ hWraps
  have hAll : (message.calls.map SetCall.write).filter
      (fun w => w.Fits (CapnpPayloadBuilder.create message.capacity).buf.length) =
      message.calls.map SetCall.write :=
    List.filter_eq_self.mpr fun w hMem => decide_eq_true (hFits w hMem)
  rw [hAll, calls_write] at hBuf
  rw [build_eq, hRun, Option.map_some]
  exact congrArg some hBuf

theorem length_bytes : message.bytes.length = message.capacity.toNat := by
  rw [bytes, patches_length, List.length_replicate]
  rw [List.length_replicate]
  exact message.cells_fit

/-- A reader at the builder's own offset finds what was passed. -/
theorem read_cell {cell : Cell} (h : cell ∈ message.cells) (headerLen : Nat) :
    cell.getter.2.get message.bytes headerLen = .ok cell.argument.2 := by
  have hFits : ∀ w ∈ message.cells.map Cell.write,
      w.Fits (List.replicate message.capacity.toNat (0 : UInt8)).length := by
    rw [List.length_replicate]
    exact message.cells_fit
  have hWrite : cell.write ∈ message.cells.map Cell.write := List.mem_map_of_mem h
  have hBits : bitsAt message.bytes cell.type.size cell.offset = cell.pattern := by
    have hHere : cell.offset + cell.type.size ≤ message.bytes.length :=
      (message.cells_fit _ hWrite).trans message.length_bytes.ge
    rw [bitsAt, if_neg (Nat.not_lt.mpr hHere), bytes]
    exact window_patches hFits message.cells_ascend hWrite (message.cells_range cell h)
  show cell.type.read message.bytes cell.offset = _
  rw [Scalar.read_eq, hBits]
  rfl

theorem agrees_of_generated {code : Emitted} (hFile : generated message.file = some code)
    (hHeader : code.headerLen = message.capacity.toNat)
    (hGetters : code.getters = message.cells.map Cell.getter)
    (hNames : (code.getters.map Prod.fst).Nodup) : message.Agrees := by
  refine ⟨code, message.bytes, hFile, message.build_bytes, message.length_bytes.trans hHeader.symm, ?_⟩
  rw [arguments_eq]
  intro argument hMem
  obtain ⟨cell, hCell, rfl⟩ := List.mem_map.mp hMem
  have hGetter : cell.getter ∈ code.getters := by
    rw [hGetters]
    exact List.mem_map_of_mem hCell
  have hLookup : code.getters.lookup cell.getter.1 = some cell.getter.2 :=
    BlockScope.lookup_of_nodup hNames hGetter
  show (code.getters.lookup cell.getter.1).map _ = _
  rw [hLookup, Option.map_some, message.read_cell hCell]

section Files

def interface (file : List Char) : Option (List (Name × Accessor) × Nat) :=
  (generated file).map fun code => (code.getters, code.headerLen)

theorem interface_radarObject : interface radarObjectFile = some
    ([("objectId".toList, .scalar .uint16 0), ("distanceM".toList, .scalar .float32 4),
      ("azimuthDeg".toList, .scalar .float32 8), ("velocityMs".toList, .scalar .float32 12),
      ("rcsDbsm".toList, .scalar .float32 16), ("timestamp".toList, .scalar .uint64 24),
      ("classification".toList, .scalar .uint8 32)], 40) := by decide +kernel

theorem interface_imuData : interface imuDataFile = some
    ([("accelX".toList, .scalar .float32 0), ("accelY".toList, .scalar .float32 4),
      ("accelZ".toList, .scalar .float32 8), ("gyroX".toList, .scalar .float32 12),
      ("gyroY".toList, .scalar .float32 16), ("gyroZ".toList, .scalar .float32 20),
      ("timestamp".toList, .scalar .uint64 24), ("sensorId".toList, .scalar .uint16 32)], 40) := by
  decide +kernel

/-- The time stamp is aligned to eight bytes, and the builder puts it at offset 4. -/
theorem interface_vehicleSpeed : interface vehicleSpeedFile = some
    ([("speedKmh".toList, .scalar .float32 0), ("timestamp".toList, .scalar .uint64 8),
      ("sensorId".toList, .scalar .uint16 16), ("qualityFlag".toList, .scalar .uint8 18),
      ("reserved".toList, .scalar .uint8 19)], 24) := by decide +kernel

end Files

theorem agrees_of_interface {getters : List (Name × Accessor)} {size : Nat}
    (hFile : interface message.file = some (getters, size)) (hNames : (getters.map Prod.fst).Nodup)
    (hGetters : getters = message.cells.map Cell.getter) (hSize : size = message.capacity.toNat) :
    message.Agrees := by
  obtain ⟨code, hGenerated, hCode⟩ := Option.map_eq_some_iff.mp hFile
  obtain ⟨rfl, hHeader⟩ := Prod.mk.inj hCode
  exact message.agrees_of_generated hGenerated (hHeader.trans hSize) hGetters hNames

theorem not_agrees_vehicleSpeed (speedKmh : UInt32) (timestamp : UInt64)
    (sensorId : UInt16) (qualityFlag : UInt8) :
    ¬ (vehicleSpeed speedKmh timestamp sensorId qualityFlag).Agrees := by
  rintro ⟨code, bytes, hGenerated, hBuild, hLength, -⟩
  obtain ⟨other, hOther, hCode⟩ := Option.map_eq_some_iff.mp interface_vehicleSpeed
  have hHeader : code.headerLen = 24 := by
    rw [file, hOther] at hGenerated
    rw [← Option.some.inj hGenerated]
    exact congrArg Prod.snd hCode
  rw [← Option.some.inj ((build_bytes _).symm.trans hBuild), hHeader] at hLength
  have hShort : 16 = 24 := (length_bytes _).symm.trans hLength
  exact absurd hShort (by decide)

/-- The builder and the Reader agree if and only if the message is no vehicle speed. -/
theorem agrees_iff :
    message.Agrees ↔ ∀ speedKmh timestamp sensorId qualityFlag,
      message ≠ vehicleSpeed speedKmh timestamp sensorId qualityFlag := by
  cases message with
  | vehicleSpeed speedKmh timestamp sensorId qualityFlag =>
    exact iff_of_false (not_agrees_vehicleSpeed _ _ _ _) fun h => h _ _ _ _ rfl
  | radarObject =>
    refine iff_of_true ?_ fun _ _ _ _ h => by cases h
    exact agrees_of_interface _ interface_radarObject (by decide +kernel) rfl rfl
  | imuData =>
    refine iff_of_true ?_ fun _ _ _ _ h => by cases h
    exact agrees_of_interface _ interface_imuData (by decide +kernel) rfl rfl

/-- A speed of 0 km/h from sensor 7 at time 1, with the quality flag 1. -/
theorem vehicleSpeed_disagrees : ¬ (vehicleSpeed 0 1 7 1).Agrees :=
  not_agrees_vehicleSpeed 0 1 7 1

-- The accessor that is generated for the sensor reads behind it.
example : (vehicleSpeed 0 1 7 1).build.map (fun bytes =>
    (Accessor.scalar .uint16 16).get bytes 24) = some (.ok (.int 0)) := by decide +kernel

end NativeMessage

end VsomeipDart
