import EventStore.Proofs.JsonFidelity
import EventStore.Proofs.RecordEncoding
import EventStore.Proofs.TimestampText
import EventStore.Proofs.UuidText

/-! The event that a record gives back. It is the appended one under its version, to the
microsecond, with each payload as its text reads; most payloads read as themselves. -/

namespace EventStore.Record

/-- JSON null and no payload are the same to a record. -/
def present : Option Json → Option Json
  | some .null => none
  | payload => payload

def recalledPayload (payload : Option Json) : Except StorageFault (Option Json) :=
  match present payload with
  | none => .ok none
  | some value =>
    match Json.rereadWithin Json.maximumDepth value with
    | some value => .ok (some value)
    | none => .error (.serialization value.toText)

def recalled (envelope : Envelope) (version : Nat) : Except StorageFault Envelope := do
  let data ← recalledPayload envelope.data
  let metadata ← recalledPayload envelope.metadata
  return { envelope with
    version := some version, createdAt := envelope.createdAt.toMicros, data, metadata }

theorem eq_null_of_reread {value : Json} (null : value.reread = some .null) : value = .null := by
  cases value with
  | null => rfl
  | bool value => cases null
  | number value =>
    obtain ⟨_, _, impossible⟩ := Option.map_eq_some_iff.mp null
    cases impossible
  | string text => cases null
  | array items =>
    obtain ⟨_, _, impossible⟩ := Option.map_eq_some_iff.mp null
    cases impossible
  | object members =>
    obtain ⟨_, _, impossible⟩ := Option.map_eq_some_iff.mp null
    cases impossible

theorem encodePayload_eq (payload : Option Json) :
    encodePayload payload = (present payload).map Json.toText := by
  cases payload with
  | none => rfl
  | some value => cases value <;> rfl

theorem ne_null_of_present {payload : Option Json} {value : Json}
    (kept : present payload = some value) : value ≠ .null := by
  rintro rfl
  unfold present at kept
  split at kept
  next => cases kept
  next other => exact other kept

theorem ne_null_of_rereadWithin {depth : Nat} {value back : Json} (some : value ≠ .null)
    (found : Json.rereadWithin depth value = .some back) : back ≠ .null := by
  rintro rfl
  rw [Json.rereadWithin] at found
  split at found
  · exact some (eq_null_of_reread found)
  · cases found

theorem decodePayload_encodePayload (payload : Option Json) :
    decodePayload (encodePayload payload) = recalledPayload payload := by
  rw [encodePayload_eq, recalledPayload]
  cases kept : present payload with
  | none => rfl
  | some value =>
    rw [Option.map_some, decodePayload, Json.ofText_toText]
    dsimp only
    cases found : Json.rereadWithin Json.maximumDepth value with
    | none => rfl
    | some back =>
      have some := ne_null_of_rereadWithin (ne_null_of_present kept) found
      cases back with
      | null => exact absurd rfl some
      | _ => rfl

theorem decodeAggregateId_format (aggregateId : Option Uuid) :
    decodeAggregateId (aggregateId.map Uuid.format) = .ok aggregateId := by
  cases aggregateId with
  | none => rfl
  | some uuid =>
    have some : (Uuid.format uuid).isEmpty = false := by
      rw [String.isEmpty_eq_false_iff]
      intro empty
      have none : uuid.write = [] := by simpa [Uuid.format] using congrArg String.toList empty
      have length := uuid.length_write
      rw [none] at length
      cases length
    rw [Option.map_some, decodeAggregateId, some, Uuid.parse_format]
    rfl

theorem decode_prepared {stream : String} {envelope : Envelope} {categories : List String}
    (valid : envelope.createdAt.Valid) (version : Nat) :
    decode { prepared stream envelope categories with version } = recalled envelope version := by
  have date : decodeDate (Timestamp.format envelope.createdAt) =
      .ok envelope.createdAt.toMicros := by
    rw [decodeDate, Timestamp.parse_format valid]
  simp only [decode, prepared, date, decodeAggregateId_format, decodePayload_encodePayload, recalled]
  rfl

/-- Storing the payload loses nothing but the difference between null and none. -/
def Legible (payload : Option Json) : Prop :=
  ∀ value ∈ payload, value.depth ≤ Json.maximumDepth ∧ value.Exact

/-- The event as it was appended, under its version and to the microsecond. -/
def kept (envelope : Envelope) (version : Nat) : Envelope :=
  { envelope with
    version := some version
    createdAt := envelope.createdAt.toMicros
    data := present envelope.data
    metadata := present envelope.metadata }

theorem recalledPayload_of_legible {payload : Option Json} (legible : Legible payload) :
    recalledPayload payload = .ok (present payload) := by
  rw [recalledPayload]
  cases held : present payload with
  | none => rfl
  | some value =>
    have appended : payload = some value := by
      unfold present at held
      split at held
      · cases held
      · exact held
    obtain ⟨shallow, faithful⟩ := legible value appended
    have back : Json.rereadWithin Json.maximumDepth value = some value := by
      rw [Json.rereadWithin, if_pos shallow, Json.reread_of_exact value faithful]
    simp only [back]

theorem recalled_of_legible {envelope : Envelope} {version : Nat} (data : Legible envelope.data)
    (metadata : Legible envelope.metadata) :
    recalled envelope version = .ok (kept envelope version) := by
  rw [recalled, recalledPayload_of_legible data, recalledPayload_of_legible metadata]
  rfl

/-- The payload can be read again from the text that it is kept as. -/
def Decodable (payload : Option Json) : Prop :=
  ∃ back, decodePayload (encodePayload payload) = .ok back

theorem decodable_iff {payload : Option Json} :
    Decodable payload ↔ ∀ value, present payload = some value →
      value.depth ≤ Json.maximumDepth ∧ ∃ back, value.reread = some back := by
  rw [Decodable, decodePayload_encodePayload, recalledPayload]
  cases present payload with
  | none => simp
  | some value =>
    simp only [Json.rereadWithin, Option.some.injEq, forall_eq']
    by_cases shallow : value.depth ≤ Json.maximumDepth
    · cases value.reread <;> simp [shallow]
    · simp [shallow]

theorem exists_recalled {envelope : Envelope} {version : Nat} (data : Decodable envelope.data)
    (metadata : Decodable envelope.metadata) :
    ∃ event, recalled envelope version = .ok event ∧ event.id = envelope.id := by
  obtain ⟨dataBack, dataRead⟩ := data
  obtain ⟨metadataBack, metadataRead⟩ := metadata
  rw [decodePayload_encodePayload] at dataRead metadataRead
  rw [recalled, dataRead, metadataRead]
  exact ⟨_, rfl, rfl⟩

end EventStore.Record
