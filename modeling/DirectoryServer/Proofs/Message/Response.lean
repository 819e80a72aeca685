import DirectoryServer.Proofs.Message.RoundTrip

set_option autoImplicit false

namespace DirectoryServer.Response

def fields : Response → List Bytes
  | .entry found =>
      Text.encode found.name :: found.attributes.flatMap fun attr => [Text.encode attr.name, attr.value]
  | .extended outcome name value =>
      [Text.encode outcome.diagnostic] ++ ((name.map Text.encode).toList ++ value.toList)
  | .bind outcome | .searchDone outcome | .add outcome | .modify outcome | .delete outcome
  | .compare outcome => [Text.encode outcome.diagnostic]

def attributes : Response → List Attribute
  | .entry found => found.attributes
  | _ => []

theorem code_of_frame (code : ResultCode) :
    (Int64.ofInt (Int.ofNat code.number)).toInt = code.number := by
  cases code <;> rfl

theorem decode_outcome_encode (outcome : Outcome) (id kind : Frame) (more : List Frame) :
    decodeOutcome (id :: kind :: (encodeOutcome outcome ++ more)) = .ok outcome := by
  simp only [decodeOutcome, encodeOutcome, Frame.ofNat, List.cons_append, List.getElem?_cons_zero,
    List.getElem?_cons_succ, Option.bind_some, Frame.integer?, code_of_frame,
    ResultCode.of_number_number, Frame.text_text, Option.getD_some]

theorem optional_text (name : Option String) :
    (Frame.optional (name.map Text.encode)).text? = name := by
  cases name with
  | none => rfl
  | some text => exact Frame.text_text text

theorem optional_data (value : Option Bytes) : (Frame.optional value).data? = value := by
  cases value <;> rfl

theorem decode_attribute_encode (attr : Attribute) (kind : attr.kind = .classify attr.value) :
    decodeAttribute (Request.encodeAttribute attr) = .ok attr := by
  rw [decodeAttribute, Request.encodeAttribute, Frame.as_elements_array]
  simp only [Request.ok_bind, Frame.as_text_text, Frame.as_octets_bulk]
  rw [Attribute.ofValue, ← kind]
  rfl

theorem decode_entry_encode (found : Entry) (number kind : Frame)
    (kinds : ∀ attr ∈ found.attributes, attr.kind = .classify attr.value) :
    decodeEntry (number :: kind :: (Response.entry found).encodeOperands) = .ok found := by
  have values := Request.map_m_each found.attributes Request.encodeAttribute decodeAttribute id
    fun attr member => decode_attribute_encode attr (kinds attr member)
  rw [List.map_id] at values
  simp only [decodeEntry, encodeOperands, List.getElem?_cons_zero, List.getElem?_cons_succ, required,
    Request.ok_bind, Frame.as_text_text, Frame.as_elements_array, values]
  rfl

theorem decode_final (id : MessageId) (response : Response) (outcome : Outcome) (more : List Frame)
    (final : response.kindName ≠ "entry") (operands : response.encodeOperands = encodeOutcome outcome ++ more)
    (named : ofWord response.kindName outcome
      (.ofMessageId id :: .simple response.kindName :: (encodeOutcome outcome ++ more)) = .ok response) :
    decode (response.encode id) = .ok (id, response) := by
  have word : (Frame.simple response.kindName).text? = some response.kindName := rfl
  simp only [decode, encode, operands, Frame.elements?, List.getElem?_cons_zero, List.getElem?_cons_succ,
    Option.bind_some, Frame.message_id_of, word, decode_outcome_encode, Request.ok_bind, named]
  rfl

theorem decode_encode (id : MessageId) (response : Response)
    (kinds : ∀ attr ∈ response.attributes, attr.kind = .classify attr.value) :
    decode (response.encode id) = .ok (id, response) := by
  cases response with
  | entry found =>
      have word : (Frame.simple (Response.entry found).kindName).text? = some "entry" := rfl
      simp only [decode, encode, Frame.elements?, List.getElem?_cons_zero, List.getElem?_cons_succ,
        Option.bind_some, Frame.message_id_of, word, decode_entry_encode found _ _ kinds]
      rfl
  | extended outcome name value =>
      have differs : (Response.extended outcome name value).kindName ≠ "entry" := by simp [kindName]
      refine decode_final id _ outcome [.optional (name.map Text.encode), .optional value] differs rfl ?_
      simp only [kindName, ofWord, encodeOutcome, List.cons_append, List.nil_append,
        List.getElem?_cons_zero, List.getElem?_cons_succ, Option.bind_some, optional_text, optional_data]
  | bind outcome => exact decode_final id _ outcome [] (by simp [kindName]) rfl rfl
  | searchDone outcome => exact decode_final id _ outcome [] (by simp [kindName]) rfl rfl
  | add outcome => exact decode_final id _ outcome [] (by simp [kindName]) rfl rfl
  | modify outcome => exact decode_final id _ outcome [] (by simp [kindName]) rfl rfl
  | delete outcome => exact decode_final id _ outcome [] (by simp [kindName]) rfl rfl
  | compare outcome => exact decode_final id _ outcome [] (by simp [kindName]) rfl rfl

theorem optional_fits (room : Nat) (data : Option Bytes)
    (small : ∀ field ∈ data.toList, field.length ≤ Frame.maxBulk) :
    Frame.Fits (room + 1) (.optional data) := by
  cases data with
  | none => exact Frame.fits_leaf room .null (by simp) trivial
  | some data => exact Frame.fits_bulk room data (small data (List.mem_singleton.mpr rfl))

theorem outcome_fits (room : Nat) (outcome : Outcome)
    (small : ∀ field ∈ [Text.encode outcome.diagnostic], field.length ≤ Frame.maxBulk) :
    ∀ operand ∈ encodeOutcome outcome, Frame.Fits (room + 1) operand := by
  have diagnostic := Frame.fits_text room outcome.diagnostic (small _ List.mem_cons_self)
  exact List.forall_mem_cons.mpr ⟨Frame.fits_integer room _, List.forall_mem_singleton.mpr diagnostic⟩

theorem operands_fit (room : Nat) (response : Response)
    (small : ∀ field ∈ response.fields, field.length ≤ Frame.maxBulk)
    (counted : response.attributes.length ≤ Text.maxInt64) :
    ∀ operand ∈ response.encodeOperands, Frame.Fits (room + 3) operand := by
  cases response with
  | entry found =>
      obtain ⟨name, values⟩ := List.forall_mem_cons.mp small
      have each : ∀ attr ∈ found.attributes, Frame.Fits (room + 2) (Request.encodeAttribute attr) := by
        intro attr member
        have listed := List.forall_mem_flatMap.mp values attr member
        obtain ⟨label, value⟩ := List.forall_mem_cons.mp listed
        exact Request.attribute_fits room attr label (value _ List.mem_cons_self)
      have counted_ : (found.attributes.map Request.encodeAttribute).length ≤ Text.maxInt64 := by
        rwa [List.length_map]
      refine List.forall_mem_cons.mpr ⟨Frame.fits_text _ _ name, List.forall_mem_singleton.mpr ?_⟩
      exact Frame.fits_array _ _ counted_ (List.forall_mem_map.mpr each)
  | extended outcome name value =>
      obtain ⟨diagnostic, more⟩ := List.forall_mem_append.mp small
      obtain ⟨named, given⟩ := List.forall_mem_append.mp more
      refine List.forall_mem_append.mpr ⟨outcome_fits _ outcome diagnostic, List.forall_mem_cons.mpr ?_⟩
      exact ⟨optional_fits _ _ named, List.forall_mem_singleton.mpr (optional_fits _ _ given)⟩
  | bind outcome => exact outcome_fits _ outcome small
  | searchDone outcome => exact outcome_fits _ outcome small
  | add outcome => exact outcome_fits _ outcome small
  | modify outcome => exact outcome_fits _ outcome small
  | delete outcome => exact outcome_fits _ outcome small
  | compare outcome => exact outcome_fits _ outcome small

theorem kind_fits (room : Nat) (response : Response) :
    Frame.Fits (room + 1) (.simple response.kindName) := by
  have ended : Frame.beforeLineEnd (Text.encode response.kindName ++ Frame.lineEnd) =
      some (Text.encode response.kindName) := by
    cases response <;>
      · dsimp only [kindName]
        decide
  exact Frame.fits_leaf room _ (by simp) (Frame.before_line_end_free _ _ ended)

theorem encoding_fits (id : MessageId) (response : Response)
    (small : ∀ field ∈ response.fields, field.length ≤ Frame.maxBulk)
    (counted : response.attributes.length ≤ Text.maxInt64) :
    Frame.Fits (Frame.maxDepth + 1) (response.encode id) := by
  have few : response.encodeOperands.length ≤ 4 := by
    cases response <;> simp [encodeOperands, encodeOutcome]
  apply Frame.fits_array
  · simp only [List.length_cons]
    unfold Text.maxInt64
    omega
  · refine List.forall_mem_cons.mpr ⟨Frame.fits_integer _ _, List.forall_mem_cons.mpr ?_⟩
    exact ⟨kind_fits _ response, operands_fit _ response small counted⟩

-- More values than `counted` allows fit in no memory.
theorem response_read_back (id : MessageId) (response : Response) (rest : Bytes)
    (kinds : ∀ attr ∈ response.attributes, attr.kind = .classify attr.value)
    (small : ∀ field ∈ response.fields, field.length ≤ Frame.maxBulk)
    (counted : response.attributes.length ≤ Text.maxInt64) :
    ∃ frame, Frame.parse ((response.encode id).serialize ++ rest) =
        .ok (some (frame, (response.encode id).serialize.length)) ∧ decode frame = .ok (id, response) := by
  have fits := encoding_fits id response small counted
  exact ⟨response.encode id, Frame.read_serialize _ _ rest fits, decode_encode id response kinds⟩

def photoEntry : Response :=
  .entry ⟨"cn=ada,dc=a", [.ofValue "photo" [255, 216, 0], .ofText "note" "a\r\n"]⟩

theorem photo_entry_read_back :
    (∀ attr ∈ photoEntry.attributes, attr.kind = .classify attr.value) ∧
    (∀ field ∈ photoEntry.fields, field.length ≤ Frame.maxBulk) ∧
    photoEntry.attributes.length ≤ Text.maxInt64 ∧
    ∀ rest, ∃ frame, Frame.parse ((photoEntry.encode 4294967295).serialize ++ rest) =
        .ok (some (frame, (photoEntry.encode 4294967295).serialize.length)) ∧
      decode frame = .ok (4294967295, photoEntry) := by
  have kinds : ∀ attr ∈ photoEntry.attributes, attr.kind = .classify attr.value := by decide
  have small : ∀ field ∈ photoEntry.fields, field.length ≤ Frame.maxBulk := by decide
  have counted : photoEntry.attributes.length ≤ Text.maxInt64 := by decide
  exact ⟨kinds, small, counted, fun rest =>
    response_read_back 4294967295 photoEntry rest kinds small counted⟩

end DirectoryServer.Response
