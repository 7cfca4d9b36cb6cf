import FormPress.Image.Embed
import FormPress.Proofs.Result

/-!
# How embedding an image ends

Embedding asks the network once, unless there is nothing to embed. It ends with the address that was
given where no image comes, and otherwise with an address that has the data of an image inside; its
own result it leaves alone. There is one exception: an image that comes without its type, from an
address that cannot be taken apart, is a fault.
-/

namespace FormPress.Image

/-! ## Media types -/

variable {header : Option String} {url kind : String}

theorem isImageType_of_mediaType (h : mediaType header url = .ok kind) :
    isImageType kind = true := by
  unfold mediaType at h
  split at h
  · rename_i hstated
    exact Except.ok.inj h ▸ hstated
  · obtain ⟨address, -, rfl⟩ := map_eq_ok.1 h
    cases hfilter : address.suggestedType.filter isImageType with
    | none => decide
    | some suggested => exact (Option.filter_eq_some_iff.1 hfilter).2

/-- There is no type only where the header states none and the address cannot be taken apart. -/
theorem mediaType_eq_error_iff {fault : AddressFault} :
    mediaType header url = .error fault ↔
      isImageType (statedType header) = false ∧ Address.read url = .error fault := by
  unfold mediaType
  cases hstated : isImageType (statedType header) with
  | true => simp
  | false =>
    cases hread : Address.read url with
    | error other => simp [Except.map]
    | ok address => simp [Except.map]

/-! ## Replies -/

/-- A reply that brings an image: it is no failure and no refusal, and there is something in it. -/
def Brings (reply : Reply) (header : Option String) (body : List UInt8) : Prop :=
  ∃ status, reply = .answer status header body ∧ ¬(400 ≤ status ∧ status < 600) ∧ body ≠ []

def BringsImage (reply : Reply) : Prop :=
  ∃ header body, Brings reply header body

section Replies

variable {reply : Reply} {body : List UInt8}

theorem ofReply_of_brings (h : Brings reply header body) :
    ofReply url reply =
      ((mediaType header url).map (dataAddress · body)).mapError .badAddress := by
  obtain ⟨status, rfl, hstatus, hbody⟩ := h
  have hrefusal : isRefusal status = false := decide_eq_false hstatus
  have hempty : body.isEmpty = false := List.isEmpty_eq_false_iff.2 hbody
  rw [ofReply, hrefusal, if_neg Bool.false_ne_true, hempty, if_neg Bool.false_ne_true]

theorem ofReply_of_not_bringsImage (url : String) (h : ¬BringsImage reply) :
    ∃ fault, ofReply url reply = .error fault ∧ ∀ bad, fault ≠ .badAddress bad := by
  cases reply with
  | failure status => exact ⟨_, rfl, nofun⟩
  | answer status header body =>
    rw [ofReply]
    by_cases hrefusal : isRefusal status = true
    · rw [if_pos hrefusal]
      exact ⟨_, rfl, nofun⟩
    · rw [if_neg hrefusal]
      by_cases hempty : body.isEmpty = true
      · rw [if_pos hempty]
        exact ⟨_, rfl, nofun⟩
      · have hstatus : ¬(400 ≤ status ∧ status < 600) := fun hs => hrefusal (decide_eq_true hs)
        have hbody : body ≠ [] := fun hnil => hempty (List.isEmpty_iff.2 hnil)
        exact absurd ⟨header, body, status, rfl, hstatus, hbody⟩ h

/-- Without an image the address that was given is taken. -/
theorem result_settle_of_ne {fault : Fault} (h : ∀ bad, fault ≠ .badAddress bad) :
    (settle url (.error fault)).result = .ok url := by
  cases fault with
  | unavailable address status => rfl
  | empty address => rfl
  | badAddress bad => exact absurd rfl (h bad)

end Replies

/-! ## Embedding -/

section Embedding

variable {reply : Request → Reply} {timeout : Int} {body : List UInt8}

/-- How embedding ends: with an address or with a fault. -/
def outcome (reply : Request → Reply) (url : String) (timeout : Int) :
    Except AddressFault String :=
  ((embed url timeout).value reply).result

theorem isSettled_iff : isSettled url = true ↔ url = "" ∨ Text.startsWith url "data:" = true := by
  simp [isSettled]

theorem outcome_of_isSettled (h : isSettled url = true) : outcome reply url timeout = .ok url := by
  rw [outcome, embed, if_pos h]
  rfl

theorem outcome_of_not_isSettled (h : ¬isSettled url = true) :
    outcome reply url timeout = (settle url (ofReply url (reply ⟨url, timeout⟩))).result := by
  rw [outcome, embed, if_neg h, Inquiry.value_map]
  rfl

theorem outcome_of_not_bringsImage (h : ¬BringsImage (reply ⟨url, timeout⟩)) :
    outcome reply url timeout = .ok url := by
  by_cases hsettled : isSettled url = true
  · exact outcome_of_isSettled hsettled
  · obtain ⟨fault, hfault, hne⟩ := ofReply_of_not_bringsImage url h
    rw [outcome_of_not_isSettled hsettled, hfault, result_settle_of_ne hne]

/-- An image is embedded under its type, or there is none and that is the end. -/
theorem outcome_of_brings (hsettled : ¬isSettled url = true)
    (h : Brings (reply ⟨url, timeout⟩) header body) :
    outcome reply url timeout = (mediaType header url).map (dataAddress · body) := by
  rw [outcome_of_not_isSettled hsettled, ofReply_of_brings h]
  cases mediaType header url with
  | error fault => rfl
  | ok kind => rfl

theorem requests_embed (reply : Request → Reply) (url : String) (timeout : Int) :
    (embed url timeout).requests reply = if isSettled url then [] else [⟨url, timeout⟩] := by
  unfold embed
  split
  · rfl
  · rw [Inquiry.requests_map]
    rfl

theorem startsWith_dataAddress (hkind : isImageType kind = true) (body : List UInt8) :
    Text.startsWith (dataAddress kind body) "data:image/" = true := by
  rw [isImageType, Text.startsWith, List.isPrefixOf_iff_prefix] at hkind
  obtain ⟨rest, hrest⟩ := hkind
  rw [Text.startsWith, List.isPrefixOf_iff_prefix]
  simp only [dataAddress, String.toList_append, ← hrest, List.append_assoc]
  exact ⟨_, rfl⟩

theorem startsWith_data (kind : String) (body : List UInt8) :
    Text.startsWith (dataAddress kind body) "data:" = true := by
  rw [Text.startsWith, List.isPrefixOf_iff_prefix]
  simp only [dataAddress, String.toList_append, List.append_assoc]
  exact List.prefix_append _ _

theorem isSettled_dataAddress (kind : String) (body : List UInt8) :
    isSettled (dataAddress kind body) = true :=
  isSettled_iff.2 (.inr (startsWith_data kind body))

/-- An address that embedding ends with is the one that was given, or has data inside. -/
theorem outcome_eq_ok {data : String} (h : outcome reply url timeout = .ok data) :
    data = url ∨ isSettled data = true := by
  by_cases hsettled : isSettled url = true
  · rw [outcome_of_isSettled hsettled] at h
    exact .inl (Except.ok.inj h).symm
  · by_cases himage : BringsImage (reply ⟨url, timeout⟩)
    · obtain ⟨header, body, hbrings⟩ := himage
      rw [outcome_of_brings hsettled hbrings] at h
      obtain ⟨kind, -, rfl⟩ := map_eq_ok.1 h
      exact .inr (isSettled_dataAddress kind body)
    · rw [outcome_of_not_bringsImage himage] at h
      exact .inl (Except.ok.inj h).symm

/-- Nothing is left to embed in what embedding ends with. -/
theorem outcome_outcome {data : String} (h : outcome reply url timeout = .ok data) :
    outcome reply data timeout = .ok data := by
  rcases outcome_eq_ok h with rfl | hsettled
  · exact h
  · exact outcome_of_isSettled hsettled

/-! ## The ends of embedding -/

/-- Embedding ends with an address: the one that was given where there is nothing to embed or no
image comes, else one with the data of an image inside; and it leaves that address alone. -/
structure EndsInAddress (reply : Request → Reply) (url : String) (timeout : Int) : Prop where
  ends : ∃ data, outcome reply url timeout = .ok data
  settled : url = "" ∨ Text.startsWith url "data:" = true → outcome reply url timeout = .ok url
  kept : ¬BringsImage (reply ⟨url, timeout⟩) → outcome reply url timeout = .ok url
  embedded : ¬(url = "" ∨ Text.startsWith url "data:" = true) →
    BringsImage (reply ⟨url, timeout⟩) →
      ∃ data, outcome reply url timeout = .ok data ∧ Text.startsWith data "data:image/" = true
  stable : ∀ data, outcome reply url timeout = .ok data → outcome reply data timeout = .ok data

/-- An image comes, but neither does its header state a type nor can its address be taken apart. -/
def LacksType (reply : Request → Reply) (url : String) (timeout : Int) : Prop :=
  ¬(url = "" ∨ Text.startsWith url "data:" = true) ∧
    ∃ header body, Brings (reply ⟨url, timeout⟩) header body ∧
      isImageType (statedType header) = false ∧ ∃ fault, Address.read url = .error fault

/-- An image without a type is a fault. -/
theorem outcome_of_lacksType (h : LacksType reply url timeout) :
    ∃ fault, outcome reply url timeout = .error fault := by
  obtain ⟨hopen, header, body, hbrings, hstated, fault, hread⟩ := h
  rw [← isSettled_iff] at hopen
  have htype : mediaType header url = .error fault := mediaType_eq_error_iff.2 ⟨hstated, hread⟩
  refine ⟨fault, ?_⟩
  rw [outcome_of_brings hopen hbrings, htype]
  rfl

/-- Where an image with a type comes, its data is embedded. -/
theorem outcome_of_not_lacksType (htyped : ¬LacksType reply url timeout)
    (hopen : ¬(url = "" ∨ Text.startsWith url "data:" = true))
    (himage : BringsImage (reply ⟨url, timeout⟩)) :
    ∃ data, outcome reply url timeout = .ok data ∧
      Text.startsWith data "data:image/" = true := by
  obtain ⟨header, body, hbrings⟩ := himage
  have hsettled : ¬isSettled url = true := fun h => hopen (isSettled_iff.1 h)
  cases htype : mediaType header url with
  | error fault =>
    obtain ⟨hstated, hread⟩ := mediaType_eq_error_iff.1 htype
    exact absurd ⟨hopen, header, body, hbrings, hstated, fault, hread⟩ htyped
  | ok kind =>
    refine ⟨dataAddress kind body, ?_,
      startsWith_dataAddress (isImageType_of_mediaType htype) body⟩
    rw [outcome_of_brings hsettled hbrings, htype]
    rfl

theorem endsInAddress_of_not_lacksType (htyped : ¬LacksType reply url timeout) :
    EndsInAddress reply url timeout where
  ends := by
    by_cases hopen : url = "" ∨ Text.startsWith url "data:" = true
    · exact ⟨url, outcome_of_isSettled (isSettled_iff.2 hopen)⟩
    · by_cases himage : BringsImage (reply ⟨url, timeout⟩)
      · obtain ⟨data, hdata, -⟩ := outcome_of_not_lacksType htyped hopen himage
        exact ⟨data, hdata⟩
      · exact ⟨url, outcome_of_not_bringsImage himage⟩
  settled := fun h => outcome_of_isSettled (isSettled_iff.2 h)
  kept := outcome_of_not_bringsImage
  embedded := outcome_of_not_lacksType htyped
  stable := fun _ => outcome_outcome

end Embedding

end FormPress.Image
