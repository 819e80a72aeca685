import DirectoryServer.Message.Codec
import DirectoryServer.Proofs.Frame.RoundTrip

set_option autoImplicit false

namespace DirectoryServer

namespace Frame

theorem text_text (text : String) : (Frame.text text).text? = some text :=
  (Text.decode_some_iff _ _).mpr rfl

theorem as_text_text (field : Field) (text : String) : (Frame.text text).asText field = .ok text := by
  rw [asText, text_text]

theorem as_octets_bulk (field : Field) (data : Bytes) : (Frame.bulk data).asOctets field = .ok data := rfl

theorem as_elements_array (field : Field) (elements : List Frame) :
    (Frame.array elements).asElements field = .ok elements := rfl

theorem message_id_of (id : MessageId) : (Frame.ofMessageId id).messageId? = some id := by
  have small : id.toNat < 4294967296 := id.toNat_lt
  have value : (Int64.ofInt (Int.ofNat id.toNat)).toInt = id.toNat :=
    Text.positive_toInt id.toNat (by unfold Text.maxInt64; omega)
  simp only [messageId?, ofMessageId, integer?, value]
  rw [if_pos (by unfold UInt32.size; omega), Int.toNat_natCast, UInt32.ofNat_toNat]

end Frame

namespace Request

def fields : Request → List Bytes
  | .bind name mechanism credentials => [Text.encode name, Text.encode mechanism, credentials]
  | .search query =>
      Text.encode query.base :: Text.encode query.filter.print :: query.attributes.map Text.encode
  | .add entry =>
      Text.encode entry.name :: entry.attributes.flatMap fun attr => [Text.encode attr.name, attr.value]
  | .modify name changes =>
      Text.encode name :: changes.flatMap fun change => Text.encode change.attr :: change.values
  | .delete name => [Text.encode name]
  | .compare name attr value => [Text.encode name, Text.encode attr, Text.encode value]
  | .extended name value => Text.encode name :: value.toList
  | .abandon _ => []

-- No list that memory holds has more elements than an `Int64` counts.
def counts : Request → List Nat
  | .search query => [query.attributes.length]
  | .add entry => [entry.attributes.length]
  | .modify _ changes => changes.length :: changes.map (·.values.length)
  | _ => []

def Canonical : Request → Prop
  | .search query => Filter.parse query.filter.print = .ok query.filter
  | .add entry => ∀ attr ∈ entry.attributes, attr.kind = .classify attr.value
  | _ => True

theorem operation_of_name (kind : OperationKind) : OperationKind.ofName? kind.name = some kind := by
  cases kind <;> rfl

theorem change_of_name (operation : ChangeOperation) :
    ChangeOperation.ofName? operation.name = some operation := by
  cases operation <;> rfl

theorem map_m_each {α β γ ε : Type} (values : List α) (write : α → β) (read : β → Except ε γ) (meant : α → γ)
    (each : ∀ value ∈ values, read (write value) = .ok (meant value)) :
    (values.map write).mapM read = .ok (values.map meant) := by
  induction values with
  | nil => rfl
  | cons value rest ih =>
      obtain ⟨first, later⟩ := List.forall_mem_cons.mp each
      rw [List.map_cons, List.mapM_cons, first, ih later]
      rfl

theorem ok_bind {α β : Type} (value : α) (next : α → Decoded β) :
    (Except.ok value >>= next) = next value := rfl

theorem octets_read (values : List Bytes) :
    (values.map Frame.bulk).mapM (Frame.asOctets .value) = .ok values := by
  have read := map_m_each values Frame.bulk (Frame.asOctets .value) id fun value _ => rfl
  rwa [List.map_id] at read

theorem texts_read (texts : List String) :
    (texts.map Frame.text).mapM (Frame.asText .attr) = .ok texts := by
  have read := map_m_each texts Frame.text (Frame.asText .attr) id fun text _ => Frame.as_text_text _ text
  rwa [List.map_id] at read

theorem decode_values_encode (attr : Attribute) :
    decodeValues (encodeAttribute attr) = .ok (attr.name, [attr.value]) := by
  have value := octets_read [attr.value]
  rw [List.map_singleton] at value
  rw [decodeValues, encodeAttribute, Frame.as_elements_array]
  simp only [ok_bind, value, Frame.as_text_text]
  rfl

theorem decode_change_encode (change : Change) : decodeChange (encodeChange change) = .ok change := by
  rw [decodeChange, encodeChange, Frame.as_elements_array]
  simp only [ok_bind, Frame.as_text_text, Frame.as_elements_array, change_of_name, octets_read]
  rfl

theorem scope_of_frame (scope : SearchScope) :
    (Int64.ofInt (Int.ofNat scope.number)).toInt = scope.number := by
  cases scope <;> rfl

theorem decode_query_encode (query : Query)
    (readable : Filter.parse query.filter.print = .ok query.filter) :
    decodeQuery (.text query.base) (.ofNat query.scope.number) (.text query.filter.print)
      (.array (query.attributes.map .text)) = .ok query := by
  have number : (Frame.ofNat query.scope.number).asInteger .scope =
      .ok (Int64.ofInt (Int.ofNat query.scope.number)) := rfl
  rw [decodeQuery, number]
  simp only [ok_bind, Frame.as_text_text, scope_of_frame, SearchScope.of_number_number, readable,
    Frame.as_elements_array, texts_read]
  rfl

theorem of_values_each (entry : Entry) (kinds : ∀ attr ∈ entry.attributes, attr.kind = .classify attr.value) :
    Entry.ofValues entry.name (entry.attributes.map fun attr => (attr.name, [attr.value])) = entry := by
  have again : entry.attributes.map (fun attr => Attribute.ofValue attr.name attr.value) =
      entry.attributes.map id := by
    apply List.map_congr_left
    intro attr member
    rw [Attribute.ofValue, ← kinds attr member]
    rfl
  rw [Entry.ofValues, List.flatMap_map]
  simp only [List.map_singleton]
  rw [← List.map_eq_flatMap, again, List.map_id]

theorem decode_operands_encode (request : Request) (canonical : request.Canonical) :
    decodeOperands request.kind request.encodeOperands = .ok request := by
  cases request with
  | bind name mechanism credentials =>
      rw [kind, encodeOperands, decodeOperands]
      simp only [ok_bind, Frame.as_text_text, Frame.as_octets_bulk]
      rfl
  | search query =>
      rw [kind, encodeOperands, decodeOperands, decode_query_encode query canonical]
      rfl
  | add entry =>
      have values := map_m_each entry.attributes encodeAttribute decodeValues _ fun attr _ =>
        decode_values_encode attr
      rw [kind, encodeOperands, decodeOperands]
      simp only [ok_bind, Frame.as_elements_array, values, Frame.as_text_text]
      rw [of_values_each entry canonical]
      rfl
  | modify name changes =>
      have read := map_m_each changes encodeChange decodeChange id fun change _ =>
        decode_change_encode change
      rw [List.map_id] at read
      rw [kind, encodeOperands, decodeOperands]
      simp only [ok_bind, Frame.as_elements_array, read, Frame.as_text_text]
      rfl
  | delete name =>
      rw [kind, encodeOperands, decodeOperands, Frame.as_text_text]
      rfl
  | compare name attr value =>
      rw [kind, encodeOperands, decodeOperands]
      simp only [ok_bind, Frame.as_text_text]
      rfl
  | extended name value =>
      have given : decodeExtendedValue (.optional value) = .ok value := by
        cases value <;> rfl
      rw [kind, encodeOperands, decodeOperands]
      simp only [ok_bind, given, Frame.as_text_text]
      rfl
  | abandon target =>
      rw [kind, encodeOperands, decodeOperands, Frame.message_id_of]

theorem attribute_fits (room : Nat) (attr : Attribute)
    (name : (Text.encode attr.name).length ≤ Frame.maxBulk) (value : attr.value.length ≤ Frame.maxBulk) :
    Frame.Fits (room + 2) (encodeAttribute attr) := by
  apply Frame.fits_array
  · show 2 ≤ Text.maxInt64
    decide
  · exact List.forall_mem_cons.mpr
      ⟨Frame.fits_text room _ name, List.forall_mem_singleton.mpr (Frame.fits_bulk room _ value)⟩

theorem change_fits (room : Nat) (change : Change)
    (attr : (Text.encode change.attr).length ≤ Frame.maxBulk)
    (values : ∀ value ∈ change.values, value.length ≤ Frame.maxBulk)
    (counted : change.values.length ≤ Text.maxInt64) : Frame.Fits (room + 3) (encodeChange change) := by
  have operation : (Text.encode change.operation.name).length ≤ Frame.maxBulk := by
    cases change.operation <;> decide
  have listed : Frame.Fits (room + 2) (.array (change.values.map .bulk)) := by
    apply Frame.fits_array
    · rwa [List.length_map]
    · exact List.forall_mem_map.mpr fun value member => Frame.fits_bulk room value (values value member)
  apply Frame.fits_array
  · show 3 ≤ Text.maxInt64
    decide
  · refine List.forall_mem_cons.mpr ⟨Frame.fits_text _ _ operation, List.forall_mem_cons.mpr ?_⟩
    exact ⟨Frame.fits_text _ _ attr, List.forall_mem_singleton.mpr listed⟩

theorem operands_fit (room : Nat) (request : Request)
    (small : ∀ field ∈ request.fields, field.length ≤ Frame.maxBulk)
    (counted : ∀ count ∈ request.counts, count ≤ Text.maxInt64) :
    ∀ operand ∈ request.encodeOperands, Frame.Fits (room + 4) operand := by
  cases request with
  | bind name mechanism credentials =>
      simp only [fields, List.forall_mem_cons, List.not_mem_nil, false_implies, implies_true, and_true] at small
      obtain ⟨name, mechanism, credentials⟩ := small
      simp only [encodeOperands, List.forall_mem_cons, List.not_mem_nil, false_implies, implies_true, and_true]
      exact ⟨Frame.fits_text _ _ name, Frame.fits_text _ _ mechanism, Frame.fits_bulk _ _ credentials⟩
  | search query =>
      simp only [fields, List.forall_mem_cons, List.forall_mem_map] at small
      obtain ⟨base, filter, attributes⟩ := small
      simp only [encodeOperands, List.forall_mem_cons, List.not_mem_nil, false_implies, implies_true, and_true]
      refine ⟨Frame.fits_text _ _ base, Frame.fits_integer _ _, Frame.fits_text _ _ filter, ?_⟩
      apply Frame.fits_array
      · rw [List.length_map]
        exact counted _ (List.mem_singleton.mpr rfl)
      · exact List.forall_mem_map.mpr fun attr member => Frame.fits_text _ _ (attributes attr member)
  | add entry =>
      simp only [fields, List.forall_mem_cons, List.forall_mem_flatMap, List.not_mem_nil, false_implies, implies_true, and_true] at small
      obtain ⟨name, attributes⟩ := small
      simp only [encodeOperands, List.forall_mem_cons, List.not_mem_nil, false_implies, implies_true, and_true]
      refine ⟨Frame.fits_text _ _ name, Frame.fits_array _ _ ?_ (List.forall_mem_map.mpr ?_)⟩
      · rw [List.length_map]
        exact counted _ (List.mem_singleton.mpr rfl)
      · intro attr member
        obtain ⟨label, value⟩ := attributes attr member
        exact attribute_fits _ attr label value
  | modify name changes =>
      simp only [fields, List.forall_mem_cons, List.forall_mem_flatMap] at small
      simp only [counts, List.forall_mem_cons, List.forall_mem_map] at counted
      obtain ⟨name, parts⟩ := small
      simp only [encodeOperands, List.forall_mem_cons, List.not_mem_nil, false_implies, implies_true, and_true]
      refine ⟨Frame.fits_text _ _ name, Frame.fits_array _ _ ?_ (List.forall_mem_map.mpr ?_)⟩
      · rw [List.length_map]
        exact counted.1
      · intro change member
        obtain ⟨attr, values⟩ := parts change member
        exact change_fits _ change attr values (counted.2 change member)
  | delete name =>
      simp only [fields, List.forall_mem_singleton] at small
      exact List.forall_mem_singleton.mpr (Frame.fits_text _ _ small)
  | compare name attr value =>
      simp only [fields, List.forall_mem_cons, List.not_mem_nil, false_implies, implies_true, and_true] at small
      obtain ⟨name, attr, value⟩ := small
      simp only [encodeOperands, List.forall_mem_cons, List.not_mem_nil, false_implies, implies_true, and_true]
      exact ⟨Frame.fits_text _ _ name, Frame.fits_text _ _ attr, Frame.fits_text _ _ value⟩
  | extended name value =>
      simp only [fields, List.forall_mem_cons] at small
      obtain ⟨name, given⟩ := small
      have optional : Frame.Fits (room + 4) (.optional value) := by
        cases value with
        | none => exact Frame.fits_leaf _ _ (by simp [Frame.optional]) trivial
        | some data => exact Frame.fits_bulk _ _ (given data (List.mem_singleton.mpr rfl))
      simp only [encodeOperands, List.forall_mem_cons, List.not_mem_nil, false_implies, implies_true, and_true]
      exact ⟨Frame.fits_text _ _ name, optional⟩
  | abandon target => exact List.forall_mem_singleton.mpr (Frame.fits_integer _ _)

end Request

namespace Message

theorem decode_encode (message : Message) (canonical : message.request.Canonical) :
    decode message.encode = .ok message := by
  rw [decode, encode]
  simp only [Frame.elements?, operationWord?, List.getElem?_cons_zero, List.getElem?_cons_succ,
    Option.bind_some, Frame.message_id_of, Frame.text_text, Request.operation_of_name,
    List.drop_succ_cons, List.drop_zero, Request.decode_operands_encode _ canonical]

theorem encoding_fits (message : Message)
    (small : ∀ field ∈ message.request.fields, field.length ≤ Frame.maxBulk)
    (counted : ∀ count ∈ message.request.counts, count ≤ Text.maxInt64) :
    Frame.Fits (Frame.maxDepth + 1) message.encode := by
  have operation : (Text.encode message.request.kind.name).length ≤ Frame.maxBulk := by
    cases message.request.kind <;> decide
  apply Frame.fits_array
  · have few : message.request.encodeOperands.length ≤ 4 := by
      cases message.request <;> simp [Request.encodeOperands]
    simp only [List.length_cons]
    unfold Text.maxInt64
    omega
  · refine List.forall_mem_cons.mpr ⟨Frame.fits_integer _ _, List.forall_mem_cons.mpr ?_⟩
    exact ⟨Frame.fits_text _ _ operation, Request.operands_fit _ message.request small counted⟩

theorem parse_decode_encode (message : Message) (canonical : message.request.Canonical)
    (small : ∀ field ∈ message.request.fields, field.length ≤ Frame.maxBulk)
    (counted : ∀ count ∈ message.request.counts, count ≤ Text.maxInt64) (rest : Bytes) :
    ∃ frame, Frame.parse (message.encode.serialize ++ rest) =
        .ok (some (frame, message.encode.serialize.length)) ∧ decode frame = .ok message := by
  refine ⟨message.encode, ?_, decode_encode message canonical⟩
  exact Frame.read_serialize _ _ rest (encoding_fits message small counted)

def personSearch : Message :=
  ⟨12, .search ⟨"dc=enterprise,dc=org", .wholeSubtree,
    .and [.equality "cn" "a*b", .not (.present "mail")], ["cn", "sn"]⟩⟩

theorem person_search_read_back :
    personSearch.request.Canonical ∧
    (∀ field ∈ personSearch.request.fields, field.length ≤ Frame.maxBulk) ∧
    (∀ count ∈ personSearch.request.counts, count ≤ Text.maxInt64) ∧
    ∀ rest, ∃ frame, Frame.parse (personSearch.encode.serialize ++ rest) =
        .ok (some (frame, personSearch.encode.serialize.length)) ∧ decode frame = .ok personSearch := by
  have canonical : personSearch.request.Canonical := rfl
  have small : ∀ field ∈ personSearch.request.fields, field.length ≤ Frame.maxBulk := by decide
  have counted : ∀ count ∈ personSearch.request.counts, count ≤ Text.maxInt64 := by decide
  exact ⟨canonical, small, counted, parse_decode_encode personSearch canonical small counted⟩

end Message

end DirectoryServer
