import Mathlib.Tactic
import VehicleTelemetry.Payload.Decode
import VehicleTelemetry.Proofs.Payload.Reading

/-!
Decoders of a fixed format read some fields in their order, and nothing else.

* `ReadsFields`: a decoder is a function of the bytes of its fields. It is one if it reads a number
  or a bit (`readsFields_unsigned`, `readsFields_bit`), converts what it has read
  (`ReadsFields.map`), or reads fields after others (`ReadsFields.pair`, `ReadsFields.mapM`);
* `readFields_eq_error_iff`, `exists_readFields_iff`: fields are refused for the first one that does
  not lie fully inside the payload, and are read if there is none;
* `FixedFormat`: the decoders of a fixed format, with their fields and the length up to the last
  one. All of them read their fields (`FixedFormat.readsFields`);
* `FixedFormat.decode_exact`: when each of them accepts a payload, why it refuses one, and what its
  result depends on.
-/

namespace VehicleTelemetry

/-- A field of a payload: its first place, and how many bytes it has. -/
structure PayloadField where
  offset : ℕ
  width : ℕ

namespace PayloadField

/-- The field lies fully inside a payload. -/
def Fits (field : PayloadField) (data : Payload) : Prop :=
  field.offset + field.width ≤ data.length

/-- The bytes of the field. -/
def read (field : PayloadField) (data : Payload) : Except PayloadError (List UInt8) :=
  data.field field.offset field.width

/-- Why a payload is refused that the field does not lie fully inside of. -/
def missing (field : PayloadField) (data : Payload) : PayloadError :=
  .shortPayload field.offset field.width data.length

variable {field : PayloadField} {data other : Payload}

lemma read_of_fits (h : field.Fits data) :
    field.read data = .ok ((data.drop field.offset).take field.width) :=
  if_pos h

lemma read_of_not_fits (h : ¬ field.Fits data) : field.read data = .error (field.missing data) :=
  if_neg h

/-- A field is read from any beginning of the payload that it ends in. -/
lemma read_eq_of_take_eq {n : ℕ} (hend : field.offset + field.width ≤ n)
    (hlength : n ≤ data.length) (h : data.take n = other.take n) :
    field.read data = field.read other := by
  have hlengths := congrArg List.length h
  rw [List.length_take, List.length_take] at hlengths
  have hbytes {bytes : Payload} :
      (bytes.drop field.offset).take field.width =
        ((bytes.take n).drop field.offset).take field.width := by
    rw [List.drop_take, List.take_take, min_eq_left (by omega)]
  have hdata : field.Fits data := hend.trans hlength
  have hother : field.Fits other := hend.trans (by omega)
  rw [read_of_fits hdata, read_of_fits hother, hbytes, h, ← hbytes]

end PayloadField

/-- The bytes of some fields, read in their order. -/
def readFields (fields : List PayloadField) (data : Payload) :
    Except PayloadError (List (List UInt8)) :=
  fields.mapM fun field => field.read data

/-- A decoder reads some fields in their order. What it makes of them depends on their bytes
only. -/
def ReadsFields {α : Type} (fields : List PayloadField) (decode : Payload → Except PayloadError α) :
    Prop :=
  ∃ interpret : List (List UInt8) → α, ∀ data, decode data = interpret <$> readFields fields data

/-- What is made of a value is accepted with the value. -/
lemma exists_of_map_eq_ok {ε α β : Type} {f : α → β} {result : Except ε α} {b : β}
    (h : f <$> result = .ok b) : ∃ a, result = .ok a ∧ f a = b := by
  cases result with
  | error cause => cases h
  | ok a => exact ⟨a, rfl, Except.ok.inj h⟩

/-! ### Reading fields in their order -/

section Fields

variable {fields : List PayloadField} {field : PayloadField} {data other : Payload}
  {cause : PayloadError}

lemma readFields_cons (field : PayloadField) (fields : List PayloadField) (data : Payload) :
    readFields (field :: fields) data = do
      let bytes ← field.read data
      let rest ← readFields fields data
      return bytes :: rest := by
  rw [readFields, List.mapM_cons]
  rfl

lemma readFields_singleton (field : PayloadField) (data : Payload) :
    readFields [field] data = ([·]) <$> field.read data := by
  rw [readFields_cons]
  cases field.read data <;> rfl

lemma readFields_cons_of_fits (h : field.Fits data) :
    readFields (field :: fields) data =
      (((data.drop field.offset).take field.width) :: ·) <$> readFields fields data := by
  rw [readFields_cons, PayloadField.read_of_fits h]
  cases readFields fields data <;> rfl

lemma readFields_cons_of_not_fits (h : ¬ field.Fits data) :
    readFields (field :: fields) data = .error (field.missing data) := by
  rw [readFields_cons, PayloadField.read_of_not_fits h]
  rfl

lemma readFields_append (first second : List PayloadField) (data : Payload) :
    readFields (first ++ second) data = do
      let before ← readFields first data
      let after ← readFields second data
      return before ++ after :=
  List.mapM_append

lemma length_of_readFields {bytes : List (List UInt8)} (h : readFields fields data = .ok bytes) :
    bytes.length = fields.length := by
  induction fields generalizing bytes with
  | nil =>
      obtain rfl := Except.ok.inj h
      rfl
  | cons field fields ih =>
      by_cases hfits : field.Fits data
      · rw [readFields_cons_of_fits hfits] at h
        obtain ⟨rest, hrest, rfl⟩ := exists_of_map_eq_ok h
        rw [List.length_cons, List.length_cons, ih hrest]
      · rw [readFields_cons_of_not_fits hfits] at h
        cases h

lemma exists_readFields_iff :
    (∃ bytes, readFields fields data = .ok bytes) ↔ ∀ field ∈ fields, field.Fits data := by
  induction fields with
  | nil => exact ⟨fun _ => List.forall_mem_nil _, fun _ => ⟨[], rfl⟩⟩
  | cons field fields ih =>
      rw [List.forall_mem_cons, ← ih]
      by_cases hfits : field.Fits data
      · rw [readFields_cons_of_fits hfits]
        cases readFields fields data <;> simp [hfits]
      · rw [readFields_cons_of_not_fits hfits]
        simp [hfits]

/-- Fields are refused for the first of them that does not lie fully inside the payload. -/
lemma readFields_eq_error_iff :
    readFields fields data = .error cause ↔
      ∃ before field after, fields = before ++ field :: after ∧
        (∀ earlier ∈ before, earlier.Fits data) ∧ ¬ field.Fits data ∧
        cause = field.missing data := by
  induction fields with
  | nil =>
      constructor
      · intro h
        cases h
      · rintro ⟨before, field, after, h, -⟩
        exact absurd h (by simp)
  | cons first rest ih =>
      -- a field that fits is passed over, and the first one that does not is the cause
      by_cases hfits : first.Fits data
      · have hrest : readFields (first :: rest) data = .error cause ↔
            readFields rest data = .error cause := by
          rw [readFields_cons_of_fits hfits]
          cases readFields rest data <;> simp
        rw [hrest, ih]
        constructor
        · rintro ⟨before, field, after, rfl, hbefore, hfield⟩
          exact ⟨first :: before, field, after, rfl, List.forall_mem_cons.mpr ⟨hfits, hbefore⟩,
            hfield⟩
        · rintro ⟨_ | ⟨earlier, before⟩, field, after, h, hbefore, hfield⟩
          · obtain ⟨rfl, rfl⟩ := List.cons.inj h
            exact absurd hfits hfield.1
          · obtain ⟨rfl, rfl⟩ := List.cons.inj h
            exact ⟨before, field, after, rfl, (List.forall_mem_cons.mp hbefore).2, hfield⟩
      · rw [readFields_cons_of_not_fits hfits, Except.error.injEq]
        constructor
        · rintro rfl
          exact ⟨[], first, rest, rfl, List.forall_mem_nil _, hfits, rfl⟩
        · rintro ⟨_ | ⟨earlier, before⟩, field, after, h, hbefore, hfield⟩
          · obtain ⟨rfl, rfl⟩ := List.cons.inj h
            exact hfield.2.symm
          · obtain ⟨rfl, rfl⟩ := List.cons.inj h
            exact absurd (hbefore _ (List.mem_cons_self ..)) hfits

lemma readFields_congr (h : ∀ field ∈ fields, field.read data = field.read other) :
    readFields fields data = readFields fields other := by
  induction fields with
  | nil => rfl
  | cons field fields ih =>
      obtain ⟨hfield, hfields⟩ := List.forall_mem_cons.mp h
      rw [readFields_cons, readFields_cons, hfield, ih hfields]

end Fields

/-! ### Decoders that read fields -/

section Decoders

variable {α β γ : Type} {fields : List PayloadField} {decode : Payload → Except PayloadError α}

lemma readsFields_unsigned (offset width : ℕ) :
    ReadsFields [⟨offset, width⟩] fun data => data.unsigned offset width := by
  refine ⟨fun bytes => bigEndian bytes.flatten, fun data => ?_⟩
  show bigEndian <$> PayloadField.read ⟨offset, width⟩ data = _
  rw [readFields_singleton]
  cases PayloadField.read ⟨offset, width⟩ data with
  | error cause => rfl
  | ok bytes => simp

lemma ReadsFields.map (h : ReadsFields fields decode) (convert : α → β) :
    ReadsFields fields fun data => convert <$> decode data := by
  obtain ⟨interpret, hdecode⟩ := h
  refine ⟨convert ∘ interpret, fun data => ?_⟩
  simp only [hdecode]
  cases readFields fields data <;> rfl

lemma readsFields_signed (offset width : ℕ) :
    ReadsFields [⟨offset, width⟩] fun data => data.signed offset width :=
  (readsFields_unsigned offset width).map _

/-- Also for a bit its byte is read. -/
lemma readsFields_bit {index : ℕ} (h : index ≤ 7) (offset : ℕ) :
    ReadsFields [⟨offset, 1⟩] fun data => data.bit offset index := by
  simp only [Payload.bit_of_le h]
  exact (readsFields_unsigned offset 1).map _

/-- Fields that are read after others. -/
lemma ReadsFields.pair {later : List PayloadField} {decodeLater : Payload → Except PayloadError β}
    (h : ReadsFields fields decode) (hlater : ReadsFields later decodeLater)
    (combine : α → β → γ) :
    ReadsFields (fields ++ later) fun data => do
      let first ← decode data
      let second ← decodeLater data
      return combine first second := by
  obtain ⟨interpret, hdecode⟩ := h
  obtain ⟨interpretLater, hdecodeLater⟩ := hlater
  refine ⟨fun bytes => combine (interpret (bytes.take fields.length))
    (interpretLater (bytes.drop fields.length)), fun data => ?_⟩
  simp only [readFields_append, hdecode, hdecodeLater]
  cases hfirst : readFields fields data with
  | error cause => rfl
  | ok first =>
      have hlength := length_of_readFields hfirst
      cases readFields later data with
      | error cause => rfl
      | ok second =>
          show Except.ok (combine (interpret first) (interpretLater second)) =
            .ok (combine (interpret ((first ++ second).take fields.length))
              (interpretLater ((first ++ second).drop fields.length)))
          rw [← hlength, List.take_left, List.drop_left]

/-- A row of fields that are read in the same way. -/
lemma ReadsFields.mapM {ι : Type} {field : ι → PayloadField}
    {decode : ι → Payload → Except PayloadError α} (h : ∀ i, ReadsFields [field i] (decode i))
    (row : List ι) :
    ReadsFields (row.map field) fun data => row.mapM fun i => decode i data := by
  induction row with
  | nil => exact ⟨fun _ => [], fun data => rfl⟩
  | cons i row ih =>
      simp only [List.mapM_cons]
      exact (h i).pair ih List.cons

end Decoders

/-- What is read of a row is read member by member. -/
lemma forall₂_of_mapM {ι α : Type} {decode : ι → Except PayloadError α} {row : List ι}
    {readings : List α} (h : row.mapM decode = .ok readings) :
    List.Forall₂ (fun i reading => decode i = .ok reading) row readings := by
  induction row generalizing readings with
  | nil =>
      obtain rfl := Except.ok.inj h
      exact .nil
  | cons i row ih =>
      rw [List.mapM_cons] at h
      cases hfirst : decode i with
      | error cause =>
          rw [hfirst] at h
          cases h
      | ok first =>
          cases hrest : row.mapM decode with
          | error cause =>
              rw [hfirst, hrest] at h
              cases h
          | ok rest =>
              rw [hfirst, hrest] at h
              obtain rfl := Except.ok.inj h
              exact .cons hfirst (ih hrest)

/-! ### The temperatures of the battery -/

namespace Decode

variable {data : Payload}

/-- Statistics are refused of no temperatures only, and there are some. -/
lemma batteryTemperatures_eq (data : Payload) :
    batteryTemperatures data =
      (fun sensors => ⟨sensors, (Statistics.ofList? sensors).getD ⟨0.0, 0.0, 0.0, 0.0⟩⟩) <$>
        (List.range temperatureSensors).mapM (sensorTemperature data) := by
  rw [batteryTemperatures]
  cases hsensors : (List.range temperatureSensors).mapM (sensorTemperature data) with
  | error cause => rfl
  | ok sensors =>
      cases sensors with
      | nil => exact absurd (forall₂_of_mapM hsensors).length_eq (by decide)
      | cons first rest => rfl

lemma readsFields_batteryTemperatures :
    ReadsFields ((List.range temperatureSensors).map fun sensor => ⟨2 * sensor, 2⟩)
      batteryTemperatures := by
  rw [funext batteryTemperatures_eq]
  exact (ReadsFields.mapM (fun sensor => (readsFields_signed (2 * sensor) 2).map _) _).map _

/-- The temperature of a sensor in terms of its two bytes. -/
lemma exists_of_sensorTemperature {sensor : ℕ} {temperature : Float}
    (h : sensorTemperature data sensor = .ok temperature) :
    ∃ high low, data[2 * sensor]? = some high ∧ data[2 * sensor + 1]? = some low ∧
      temperature =
        Float.ofInt (Int.bmod (256 * high.toNat + low.toNat) 65536) / 256.0 - 50.0 := by
  obtain ⟨word, hword, rfl⟩ := exists_of_map_eq_ok h
  obtain ⟨n, hn, hbmod⟩ := Payload.signed_eq_ok_iff.mp hword
  obtain ⟨hfits, hbytes⟩ := Payload.unsigned_eq_ok_iff.mp hn
  have hhigh : 2 * sensor < data.length := by omega
  have hlow : 2 * sensor + 1 < data.length := by omega
  have hpair : (data.drop (2 * sensor)).take 2 = [data[2 * sensor], data[2 * sensor + 1]] := by
    rw [List.drop_eq_getElem_cons hhigh, List.drop_eq_getElem_cons hlow]
    rfl
  have hsigned : word =
      Int.bmod (256 * data[2 * sensor].toNat + data[2 * sensor + 1].toNat) 65536 := by
    rw [hbmod, hbytes, hpair]
    simp [bigEndian]
  refine ⟨data[2 * sensor], data[2 * sensor + 1], List.getElem?_eq_getElem hhigh,
    List.getElem?_eq_getElem hlow, ?_⟩
  rw [hsigned]

/-- What is accepted holds the temperature of each sensor, and the statistics of them all. -/
lemma of_batteryTemperatures {temperatures : BatteryTemperatures}
    (h : batteryTemperatures data = .ok temperatures) :
    List.Forall₂ (fun sensor temperature => sensorTemperature data sensor = .ok temperature)
      (List.range temperatureSensors) temperatures.sensors ∧
    Statistics.ofList? temperatures.sensors = some temperatures.statistics := by
  rw [batteryTemperatures_eq] at h
  obtain ⟨sensors, hsensors, rfl⟩ := exists_of_map_eq_ok h
  have hrow := forall₂_of_mapM hsensors
  refine ⟨hrow, ?_⟩
  cases sensors with
  | nil => exact absurd hrow.length_eq (by decide)
  | cons first rest => rfl

end Decode

/-! ### The decoders of a fixed format -/

/-- The decoders of a fixed format, by what they decode. -/
inductive FixedFormat where
  | ambientTemperature
  | batteryChargingPower
  | batteryVoltage
  | batteryCurrent
  | packReading
  | batterySoc
  | batteryTemperatures
  | chargerInputPower
  | chargingDoorOpen
  | chargingInProgress
  | odometer
  | pilotPresent
  | ready
  | shiftPosition
  | vehicleSpeed
  | chargeMode
  | chargeType

namespace FixedFormat

/-- What is decoded. -/
def Reading : FixedFormat → Type
  | packReading => Decode.PackReading
  | batteryTemperatures => Decode.BatteryTemperatures
  | chargingDoorOpen | chargingInProgress | pilotPresent | ready => Bool
  | shiftPosition => ShiftPosition
  | chargeMode => ChargeMode
  | chargeType => ChargeType
  | _ => Float

/-- The decoder. -/
def decode : (format : FixedFormat) → Payload → Except PayloadError format.Reading
  | ambientTemperature => Decode.ambientTemperature
  | batteryChargingPower => Decode.batteryChargingPower
  | batteryVoltage => Decode.batteryVoltage
  | batteryCurrent => Decode.batteryCurrent
  | packReading => Decode.packReading
  | batterySoc => Decode.batterySoc
  | batteryTemperatures => Decode.batteryTemperatures
  | chargerInputPower => Decode.chargerInputPower
  | chargingDoorOpen => Decode.chargingDoorOpen
  | chargingInProgress => Decode.chargingInProgress
  | odometer => Decode.odometer
  | pilotPresent => Decode.pilotPresent
  | ready => Decode.ready
  | shiftPosition => Decode.shiftPosition
  | vehicleSpeed => Decode.vehicleSpeed
  | chargeMode => Decode.chargeMode
  | chargeType => Decode.chargeType

/-- The fields that are read, in their order. -/
def fields : FixedFormat → List PayloadField
  | ambientTemperature | batterySoc | chargingInProgress | pilotPresent | shiftPosition
  | vehicleSpeed | chargeMode | chargeType => [⟨0, 1⟩]
  | batteryChargingPower | chargerInputPower => [⟨0, 2⟩]
  | chargingDoorOpen | ready => [⟨1, 1⟩]
  | batteryVoltage => [⟨2, 2⟩]
  | odometer => [⟨0, 4⟩]
  | batteryCurrent => [⟨4, 2⟩]
  | packReading => [⟨2, 2⟩, ⟨4, 2⟩]
  | batteryTemperatures => (List.range 24).map fun sensor => ⟨2 * sensor, 2⟩

/-- How long a payload has to be. -/
def length : FixedFormat → ℕ
  | ambientTemperature | batterySoc | chargingInProgress | pilotPresent | shiftPosition
  | vehicleSpeed | chargeMode | chargeType => 1
  | batteryChargingPower | chargerInputPower | chargingDoorOpen | ready => 2
  | batteryVoltage | odometer => 4
  | batteryCurrent | packReading => 6
  | batteryTemperatures => 48

lemma readsFields (format : FixedFormat) : ReadsFields format.fields format.decode := by
  cases format with
  | ambientTemperature | batterySoc | shiftPosition => exact (readsFields_signed 0 1).map _
  | batteryCurrent => exact (readsFields_signed 4 2).map _
  | batteryVoltage => exact (readsFields_unsigned 2 2).map _
  | batteryChargingPower | chargerInputPower => exact (readsFields_unsigned 0 2).map _
  | odometer => exact (readsFields_unsigned 0 4).map _
  | chargingInProgress | pilotPresent | vehicleSpeed | chargeMode | chargeType =>
      exact (readsFields_unsigned 0 1).map _
  | chargingDoorOpen => exact readsFields_bit (by decide : 1 ≤ 7) 1
  | ready => exact readsFields_bit (by decide : 0 ≤ 7) 1
  | packReading =>
      exact ((readsFields_unsigned 2 2).map _).pair ((readsFields_signed 4 2).map _) _
  | batteryTemperatures => exact Decode.readsFields_batteryTemperatures

variable {format : FixedFormat} {data other : Payload}

/-- The fields reach up to the length, and no further. -/
lemma fits_iff : (∀ field ∈ format.fields, field.Fits data) ↔ format.length ≤ data.length := by
  cases format with
  | batteryTemperatures =>
      simp only [fields, List.forall_mem_map, List.mem_range, PayloadField.Fits, length]
      constructor
      · intro h
        exact h 23 (by decide)
      · intro h sensor hsensor
        omega
  | packReading =>
      have hfits : (∀ field ∈ packReading.fields, field.Fits data) ↔
          2 + 2 ≤ data.length ∧ 4 + 2 ≤ data.length := by simp [fields, PayloadField.Fits]
      rw [hfits, length]
      omega
  | _ => simp [fields, PayloadField.Fits, length]

lemma end_le_length {field : PayloadField} (h : field ∈ format.fields) :
    field.offset + field.width ≤ format.length := by
  have hlength : (List.replicate format.length (0 : UInt8)).length = format.length :=
    List.length_replicate
  exact (fits_iff.mpr hlength.ge field h).trans_eq hlength

/-- What is decoded depends on the bytes of the fields only. -/
lemma decode_congr (h : ∀ field ∈ format.fields, field.read data = field.read other) :
    format.decode data = format.decode other := by
  obtain ⟨interpret, hdecode⟩ := format.readsFields
  rw [hdecode, hdecode, readFields_congr h]

lemma exists_decode_iff :
    (∃ reading, format.decode data = .ok reading) ↔ format.length ≤ data.length := by
  obtain ⟨interpret, hdecode⟩ := format.readsFields
  rw [← fits_iff, ← exists_readFields_iff, hdecode]
  cases readFields format.fields data <;> simp

lemma decode_eq_error_iff (format : FixedFormat) (data : Payload) {cause : PayloadError} :
    format.decode data = .error cause ↔
      ∃ before field after, format.fields = before ++ field :: after ∧
        (∀ earlier ∈ before, earlier.Fits data) ∧ ¬ field.Fits data ∧
        cause = field.missing data := by
  obtain ⟨interpret, hdecode⟩ := format.readsFields
  rw [← readFields_eq_error_iff, hdecode]
  cases readFields format.fields data <;> simp

/-- Bytes behind the last field make no difference. A payload that ends before has none. -/
lemma decode_eq_of_take_eq (h : data.take format.length = other.take format.length) :
    format.decode data = format.decode other := by
  by_cases hlength : format.length ≤ data.length
  · exact decode_congr fun field hfield =>
      PayloadField.read_eq_of_take_eq (end_le_length hfield) hlength h
  · have hlengths := congrArg List.length h
    rw [List.length_take, List.length_take] at hlengths
    rw [List.take_of_length_le (by omega), List.take_of_length_le (by omega)] at h
    rw [h]

lemma decode_batteryTemperatures_of_lt (h : data.length < 48) :
    Decode.batteryTemperatures data =
      .error (.shortPayload (2 * (data.length / 2)) 2 data.length) := by
  -- the sensors that are there, the one that is cut off, and those after it
  have hrange : List.range 24 = List.range (data.length / 2) ++
      data.length / 2 :: List.range' (data.length / 2 + 1) (23 - data.length / 2) := by
    have hsplit : List.range' 0 (data.length / 2) ++
        List.range' (0 + data.length / 2) (23 - data.length / 2 + 1) =
          List.range' 0 (data.length / 2 + (23 - data.length / 2 + 1)) := List.range'_append_1
    have hsum : data.length / 2 + (23 - data.length / 2 + 1) = 24 := by omega
    rw [hsum, Nat.zero_add, List.range'_succ] at hsplit
    rw [List.range_eq_range', List.range_eq_range', hsplit]
  refine (decode_eq_error_iff batteryTemperatures data).mpr
    ⟨(List.range (data.length / 2)).map fun sensor => ⟨2 * sensor, 2⟩, ⟨2 * (data.length / 2), 2⟩,
      (List.range' (data.length / 2 + 1) (23 - data.length / 2)).map fun sensor => ⟨2 * sensor, 2⟩,
      ?_, ?_, ?_, rfl⟩
  · rw [fields, hrange, List.map_append, List.map_cons]
  · rw [List.forall_mem_map]
    intro sensor hsensor
    have hlt : sensor < data.length / 2 := List.mem_range.mp hsensor
    show 2 * sensor + 2 ≤ data.length
    omega
  · show ¬ 2 * (data.length / 2) + 2 ≤ data.length
    omega

lemma decode_packReading_of_lt (h : data.length < 6) :
    Decode.packReading data =
      .error (.shortPayload (if data.length < 4 then 2 else 4) 2 data.length) := by
  refine (decode_eq_error_iff packReading data).mpr ?_
  have hcurrent : ¬ PayloadField.Fits ⟨4, 2⟩ data := Nat.not_le.mpr h
  split
  · next hshort =>
    exact ⟨[], ⟨2, 2⟩, [⟨4, 2⟩], rfl, List.forall_mem_nil _, Nat.not_le.mpr hshort, rfl⟩
  · next hlong =>
    have hvoltage : PayloadField.Fits ⟨2, 2⟩ data := Nat.not_lt.mp hlong
    exact ⟨[⟨2, 2⟩], ⟨4, 2⟩, [], rfl, List.forall_mem_singleton.mpr hvoltage, hcurrent, rfl⟩

/-- **A decoder of a fixed format accepts by the length, and reads its fields only.** A payload is
accepted if and only if it is long enough. What is decoded, or why not, is the same for a payload
with the same beginning up to that length, and for one with the same bytes in the fields. A payload
is refused for the first field, in the order of reading, that does not lie fully inside it: for the
battery's temperatures this is the sensor that the payload breaks off at, and for a reading of the
pack the voltage and then the current. There are always 24 temperatures, each of them the signed
word of its two bytes over 256 less 50, and the statistics are those of them. -/
theorem decode_exact (format : FixedFormat) (data : Payload) :
    ((∃ reading, format.decode data = .ok reading) ↔ format.length ≤ data.length) ∧
    (∀ other : Payload, data.take format.length = other.take format.length →
      format.decode data = format.decode other) ∧
    (∀ other : Payload, (∀ field ∈ format.fields, field.read data = field.read other) →
      format.decode data = format.decode other) ∧
    (∀ cause, format.decode data = .error cause ↔
      ∃ before field after, format.fields = before ++ field :: after ∧
        (∀ earlier ∈ before, earlier.Fits data) ∧ ¬ field.Fits data ∧
        cause = .shortPayload field.offset field.width data.length) ∧
    (data.length < 48 → Decode.batteryTemperatures data =
      .error (.shortPayload (2 * (data.length / 2)) 2 data.length)) ∧
    (data.length < 6 → Decode.packReading data =
      .error (.shortPayload (if data.length < 4 then 2 else 4) 2 data.length)) ∧
    ∀ temperatures, Decode.batteryTemperatures data = .ok temperatures →
      temperatures.sensors.length = 24 ∧
      Statistics.ofList? temperatures.sensors = some temperatures.statistics ∧
      ∀ sensor < 24, ∃ high low,
        data[2 * sensor]? = some high ∧ data[2 * sensor + 1]? = some low ∧
        temperatures.sensors[sensor]? = some
          (Float.ofInt (Int.bmod (256 * high.toNat + low.toNat) 65536) / 256.0 - 50.0) := by
  refine ⟨exists_decode_iff, fun other => decode_eq_of_take_eq, fun other => decode_congr,
    fun cause => decode_eq_error_iff format data, decode_batteryTemperatures_of_lt,
    decode_packReading_of_lt, fun temperatures h => ?_⟩
  obtain ⟨hsensors, hstatistics⟩ := Decode.of_batteryTemperatures h
  have hlength : temperatures.sensors.length = 24 := hsensors.length_eq.symm
  refine ⟨hlength, hstatistics, fun sensor hlt => ?_⟩
  have hplace : sensor < temperatures.sensors.length := hlt.trans_eq hlength.symm
  have htemperature := hsensors.get hlt hplace
  simp only [List.get_eq_getElem, List.getElem_range] at htemperature
  obtain ⟨high, low, hhigh, hlow, hvalue⟩ := Decode.exists_of_sensorTemperature htemperature
  exact ⟨high, low, hhigh, hlow, hvalue ▸ List.getElem?_eq_getElem hplace⟩

/-- A payload that breaks off in its third word, with others that agree with it as far as a decoder
reads, and a whole one. -/
theorem decode_exact_broken_off :
    let torn : Payload := [0x00, 0x00, 0x58, 0xC0, 0xFF]
    let longer : Payload := [0x00, 0x00, 0x58, 0xC0, 0xFF, 0x85]
    let alike : Payload := [0x12, 0x34, 0x58, 0xC0]
    let whole : Payload := List.replicate 48 0x46
    (torn.length < 6 ∧ Decode.packReading torn = .error (.shortPayload 4 2 5)) ∧
    (torn.length < 48 ∧ Decode.batteryTemperatures torn = .error (.shortPayload 4 2 5)) ∧
    (torn.take 4 = longer.take 4 ∧ Decode.batteryVoltage torn = Decode.batteryVoltage longer) ∧
    ((∀ field ∈ batteryVoltage.fields, field.read torn = field.read alike) ∧
      Decode.batteryVoltage torn = Decode.batteryVoltage alike) ∧
    ∃ temperatures, Decode.batteryTemperatures whole = .ok temperatures ∧
      temperatures.sensors[23]? = some (Float.ofInt 0x4646 / 256.0 - 50.0) := by
  intro torn longer alike whole
  obtain ⟨-, htake, hread, -, hsensor, hpack, -⟩ := decode_exact batteryVoltage torn
  obtain ⟨haccepts, -, -, -, -, -, hwhole⟩ := decode_exact batteryTemperatures whole
  have hlength : torn.length = 5 := rfl
  rw [hlength] at hsensor hpack
  have hlonger : torn.take 4 = longer.take 4 := rfl
  have halike : ∀ field ∈ batteryVoltage.fields, field.read torn = field.read alike :=
    List.forall_mem_singleton.mpr rfl
  obtain ⟨temperatures, htemperatures⟩ := haccepts.mpr (by decide)
  obtain ⟨-, -, hsensors⟩ := hwhole temperatures htemperatures
  obtain ⟨high, low, hhigh, hlow, hvalue⟩ := hsensors 23 (by decide)
  obtain rfl : 0x46 = high := Option.some.inj hhigh
  obtain rfl : 0x46 = low := Option.some.inj hlow
  have hword : Int.bmod (256 * (0x46 : UInt8).toNat + (0x46 : UInt8).toNat) 65536 = 0x4646 := by
    decide
  rw [hword] at hvalue
  exact ⟨⟨by decide, hpack (by decide)⟩, ⟨by decide, hsensor (by decide)⟩,
    ⟨hlonger, htake longer hlonger⟩, ⟨halike, hread alike halike⟩, temperatures, htemperatures,
    hvalue⟩

end FixedFormat

end VehicleTelemetry
