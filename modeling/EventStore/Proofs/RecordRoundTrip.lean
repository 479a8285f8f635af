import EventStore.Proofs.RecordDecoding

/-! Records and events give each other back. A record drops what its texts do not tell apart, and
having dropped it once, an event and its record stay as they are. -/

namespace EventStore

namespace Record

theorem encodePayload_present (payload : Option Json) :
    encodePayload (present payload) = encodePayload payload := by
  cases payload with
  | none => rfl
  | some value => cases value <;> rfl

theorem prepared_kept (stream : String) (envelope : Envelope) (categories : List String)
    (version : Nat) :
    prepared stream (kept envelope version) categories = prepared stream envelope categories := by
  simp only [prepared, kept, Timestamp.format, Timestamp.write_toMicros, encodePayload_present]

theorem acceptable_of_checks {stream : String} {categories : List String}
    (named : checkStreamName stream = .ok ())
    (listed : ∀ category ∈ categories, checkCategory category = .ok ()) :
    Acceptable stream categories where
  stream := named
  categories category member := checkLiteral_eq_ok_iff.mp (listed category member)

/-- What a payload may be if it is to come back: no number but integers, and not nested deeper
than reading goes. -/
def Plain (payload : Option Json) : Prop :=
  ∀ value ∈ payload, value.depth ≤ Json.maximumDepth ∧ value.WellFormed Json.Number.Integral

theorem Plain.legible {payload : Option Json} (plain : Plain payload) : Legible payload := by
  intro value held
  obtain ⟨shallow, integral⟩ := plain value held
  exact ⟨shallow, Json.exact_of_wellFormed (fun _ => Json.Number.Integral.reread_eq) value integral⟩

end Record

namespace Proofs.RecordRoundTrip
open Record

/-- An event with acceptable literals has a record. The record tells its categories, under a
version it gives back the event to the microsecond, and that event has the same record again. -/
theorem record_gives_event_back (stream : String) (categories : List String) (envelope : Envelope)
    (version : Nat) (named : checkStreamName stream = .ok ())
    (listed : ∀ category ∈ categories, checkCategory category = .ok ())
    (timely : envelope.createdAt.Valid) (data : Plain envelope.data)
    (metadata : Plain envelope.metadata) :
    ∃ record, encode stream envelope categories = .ok record ∧ record.version = 0 ∧
      record.categoryList = categories ∧
      ∃ event, decode { record with version } = .ok event ∧
        event = {
          type := envelope.type
          id := envelope.id
          version := some version
          createdAt := envelope.createdAt.toMicros
          aggregateId := envelope.aggregateId
          data := present envelope.data
          metadata := present envelope.metadata } ∧
        encode stream event categories = .ok record := by
  have acceptable := acceptable_of_checks named listed
  have decoded : decode { prepared stream envelope categories with version } =
      .ok (kept envelope version) := by
    rw [decode_prepared timely, recalled_of_legible data.legible metadata.legible]
  refine ⟨prepared stream envelope categories, encode_eq_ok_iff.mpr ⟨acceptable, rfl⟩, rfl,
    categoryList_prepared envelope acceptable, kept envelope version, decoded, rfl, ?_⟩
  rw [encode_eq_ok_iff, prepared_kept]
  exact ⟨acceptable, rfl⟩

/-- A leap second, a category twice, the greatest integer and metadata that are null. -/
theorem record_gives_event_back_leap :
    let data : Json := .object
      [("n", .number (.integer 18446744073709551615)), ("z", .array [.string "\"", .null])]
    let envelope : Envelope :=
      { type := "Placed", id := "e1", createdAt := ⟨1483228799, 1500000001⟩
        data := some data, metadata := some .null }
    let categories := ["a", "b", "a"]
    (checkStreamName "shop/1" = .ok () ∧
      (∀ category ∈ categories, checkCategory category = .ok ()) ∧ envelope.createdAt.Valid ∧
      Plain envelope.data ∧ Plain envelope.metadata) ∧
    ∃ record, encode "shop/1" envelope categories = .ok record ∧ record.version = 0 ∧
      record.categoryList = categories ∧
      ∃ event, decode { record with version := 3 } = .ok event ∧
        event = {
          type := "Placed"
          id := "e1"
          version := some 3
          createdAt := ⟨1483228799, 1500000000⟩
          data := some data } ∧
        encode "shop/1" event categories = .ok record := by
  intro data envelope categories
  have named : checkStreamName "shop/1" = .ok () := by decide +kernel
  have listed : ∀ category ∈ categories, checkCategory category = .ok () := by decide +kernel
  have timely : envelope.createdAt.Valid := ⟨by decide +kernel, by decide, by decide⟩
  have plain : Plain envelope.data := by
    intro value held
    obtain rfl := Option.some.inj held
    have greatest : (Json.Number.integer 18446744073709551615).Integral := ⟨by decide, by decide⟩
    have ordered : ["n", "z"].Pairwise (· < ·) := by decide
    exact ⟨by decide, ordered, greatest, ⟨trivial, trivial, trivial⟩, trivial⟩
  have null : Plain envelope.metadata := by
    intro value held
    obtain rfl := Option.some.inj held
    simp [Json.depth, Json.WellFormed]
  have given :=
    record_gives_event_back "shop/1" categories envelope 3 named listed timely plain null
  have cut : envelope.createdAt.toMicros = ⟨1483228799, 1500000000⟩ := by decide
  have kept : present envelope.data = some data ∧ present envelope.metadata = none := ⟨rfl, rfl⟩
  rw [cut, kept.1, kept.2] at given
  exact ⟨⟨named, listed, timely, plain, null⟩, given⟩

end Proofs.RecordRoundTrip
end EventStore
