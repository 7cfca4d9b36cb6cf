import FormPress.Proofs.Image.Embedding
import FormPress.Proofs.Text.Base64
import FormPress.Proofs.Text.Splits

/-!
# The data in an address

What stands in an address with data inside, read back: up to the first comma the type of the data,
behind it the data in base64. The bytes of an image are read back from the address that is made of
them when its type has no comma. A type from the table of suffixes, and one that an address gives
itself, has none; a type that a header states may have one, since a header is cut at its first
semicolon only.
-/

namespace FormPress.Image

/-! ## Reading -/

/-- What ends the description of data in base64. -/
def dataMark : List Char :=
  ";base64".toList

/-- The type and the bytes of an address with data inside. The description of the data goes up to
the first comma, and its type up to the first semicolon; everything behind the comma is the data. -/
def readDataAddress (address : String) : Option (String × List UInt8) :=
  match Text.splitFirst ',' (address.toList.drop 5) with
  | none => none
  | some (description, payload) =>
    if Text.startsWith address "data:" && dataMark.isSuffixOf description then
      (Text.Base64.decodeChars payload).map fun bytes =>
        (String.ofList (description.takeWhile (· != ';')), bytes)
    else none

/-- An address that has the bytes of an image inside, under a type of images. -/
def ShowsImage (address : String) (body : List UInt8) : Prop :=
  ∃ kind, readDataAddress address = some (kind, body) ∧ isImageType kind = true

/-! ## Types without separators -/

/-- A type that neither its description nor its address is cut in. -/
def IsBare (kind : String) : Prop :=
  ',' ∉ kind.toList ∧ ';' ∉ kind.toList

instance (kind : String) : Decidable (IsBare kind) :=
  inferInstanceAs (Decidable (_ ∧ _))

variable {header : Option String} {url kind : String} {body : List UInt8}

theorem notMem_takeWhile (mark : Char) (s : List Char) : mark ∉ s.takeWhile (· != mark) := by
  intro hmem
  have hall : (s.takeWhile (· != mark)).all (· != mark) = true := List.all_takeWhile
  exact bne_iff_ne.1 (List.all_eq_true.1 hall mark hmem) rfl

theorem semicolon_notMem_statedType (header : Option String) :
    ';' ∉ (statedType header).toList := by
  intro hmem
  rw [statedType, Text.toList_strip, String.toList_ofList] at hmem
  exact notMem_takeWhile ';' _ (Text.mem_of_mem_stripBy hmem)

theorem isBare_inlineType {data : List Char} (h : inlineType data = some kind) : IsBare kind := by
  unfold inlineType at h
  split at h
  · exact nomatch h
  · rename_i front rest hsplit
    dsimp only at h
    split at h
    · exact nomatch h
    · obtain rfl := Option.some.inj h
      rw [IsBare, String.toList_ofList]
      exact ⟨fun hmem => Text.notMem_of_splitFirst hsplit ((List.takeWhile_sublist _).subset hmem),
        notMem_takeWhile ';' front⟩

/-- No type in the table of suffixes has a separator in it. -/
theorem isBare_suffixes : ∀ entry ∈ suffixes, IsBare entry.2 := by
  decide

theorem isBare_suggestedType {address : Address} (h : address.suggestedType = some kind) :
    IsBare kind := by
  unfold Address.suggestedType at h
  split at h
  · exact isBare_inlineType h
  · split at h
    · exact nomatch h
    · obtain ⟨entry, hentry, rfl⟩ := Option.map_eq_some_iff.1 h
      exact isBare_suffixes entry (List.mem_of_find?_eq_some hentry)

/-- A type that no header states has no separator in it. -/
theorem isBare_of_mediaType (hstated : isImageType (statedType header) = false)
    (h : mediaType header url = .ok kind) : IsBare kind := by
  rw [mediaType, hstated, if_neg Bool.false_ne_true] at h
  obtain ⟨address, -, rfl⟩ := map_eq_ok.1 h
  cases hfilter : address.suggestedType.filter isImageType with
  | none =>
    rw [Option.getD_none]
    decide
  | some suggested => exact isBare_suggestedType (Option.filter_eq_some_iff.1 hfilter).1

/-! ## Reading what was written -/

theorem toList_dataAddress (kind : String) (body : List UInt8) :
    (dataAddress kind body).toList = "data:".toList ++
      (kind.toList ++ dataMark ++ ',' :: Text.Base64.encodeChars body) := by
  have hmark : ";base64,".toList = dataMark ++ [','] := rfl
  simp only [dataAddress, Text.Base64.encode, String.toList_append, String.toList_ofList, hmark,
    List.append_assoc, List.singleton_append]

theorem drop_dataAddress (kind : String) (body : List UInt8) :
    (dataAddress kind body).toList.drop 5 =
      kind.toList ++ dataMark ++ ',' :: Text.Base64.encodeChars body := by
  rw [toList_dataAddress]
  exact List.drop_left' rfl

/-- **Type and bytes are read back** when the type has no separator in it. -/
theorem readDataAddress_dataAddress (h : IsBare kind) (body : List UInt8) :
    readDataAddress (dataAddress kind body) = some (kind, body) := by
  have hdescription : ',' ∉ kind.toList ++ dataMark := by
    intro hmem
    rcases List.mem_append.1 hmem with hmem | hmem
    · exact h.1 hmem
    · revert hmem
      decide
  have htype : (kind.toList ++ dataMark).takeWhile (· != ';') = kind.toList := by
    rw [List.takeWhile_append_of_pos fun c hc => bne_iff_ne.2 (ne_of_mem_of_not_mem hc h.2)]
    exact List.append_nil _
  rw [readDataAddress, drop_dataAddress, Text.splitFirst_append hdescription]
  dsimp only
  rw [startsWith_data, List.isSuffixOf_iff_suffix.2 (List.suffix_append _ _), Bool.and_self,
    if_pos rfl, Text.Base64.decodeChars_encodeChars, htype, String.ofList_toList]
  rfl

/-- A comma in the type ends the description too early: nothing tells that base64 follows. -/
theorem readDataAddress_of_comma (hcomma : ',' ∈ kind.toList) (hsemicolon : ';' ∉ kind.toList)
    (body : List UInt8) : readDataAddress (dataAddress kind body) = none := by
  obtain ⟨front, rest, hkind, hfront⟩ := List.eq_append_cons_of_mem hcomma
  have hdrop : (dataAddress kind body).toList.drop 5 =
      front ++ ',' :: (rest ++ dataMark ++ ',' :: Text.Base64.encodeChars body) := by
    rw [drop_dataAddress, hkind]
    simp only [List.append_assoc, List.cons_append]
  have hsuffix : ¬dataMark.isSuffixOf front = true := by
    intro hsuffix
    have hmem : ';' ∈ front := (List.isSuffixOf_iff_suffix.1 hsuffix).subset (by decide)
    exact hsemicolon (hkind ▸ List.mem_append_left _ hmem)
  rw [readDataAddress, hdrop, Text.splitFirst_append hfront]
  dsimp only
  rw [Bool.eq_false_iff.2 hsuffix, Bool.and_false, if_neg Bool.false_ne_true]

/-! ## Images from the network -/

variable {reply : Request → Reply} {timeout : Int}

theorem value_fetch_eq_ok_iff (h : Brings (reply ⟨url, timeout⟩) header body) {address : String} :
    (fetch url timeout).value reply = .ok address ↔
      ∃ kind, mediaType header url = .ok kind ∧ dataAddress kind body = address := by
  have hvalue : (fetch url timeout).value reply = ofReply url (reply ⟨url, timeout⟩) := rfl
  rw [hvalue, ofReply_of_brings h]
  cases mediaType header url with
  | error fault => simp [Except.map, Except.mapError]
  | ok kind => simp [Except.map, Except.mapError]

end FormPress.Image
