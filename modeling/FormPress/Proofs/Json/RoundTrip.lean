import FormPress.Proofs.Json.Numbers
import FormPress.Proofs.Number.Numeral

/-!
# The JSON round trip

A written value is read back, with any spacing and after any transparent rule, when it `Fits` what
the reader allows: its integers are short enough, its numbers are canonical, its containers are not
nested too deeply and none of its strings is broken. The reader spends three steps of its fuel on a
level of nesting, so the length of the text is enough for it. The values without numbers that have a
fraction are `Exact`; a reader with the allowance of a text can read every exact value back from it.
-/

namespace FormPress.Json

/-! ## Values that are read back -/

mutual

/-- A value that a reader gives back when `depth` containers may still hold something. -/
def Fits (a : Allowance) : Nat → Json → Prop
  | _, .null | _, .bool _ | _, .string _ => True
  | _, .int i => (Nat.toDigits 10 i.natAbs).length ≤ a.integerDigits
  | _, .float x => x.IsCanonical ∧ 16 ≤ a.wholeDigits
  | _, .brokenString _ => False
  | depth, .array items => FitsItems a depth items
  | depth, .object members => FitsMembers a depth members

/-- All items of an array fit, one container further in. -/
def FitsItems (a : Allowance) : Nat → List Json → Prop
  | _, [] => True
  | depth, v :: rest => (∃ d, depth = d + 1 ∧ Fits a d v) ∧ FitsItems a depth rest

/-- All members of an object fit, one container further in. -/
def FitsMembers (a : Allowance) : Nat → List (String × Json) → Prop
  | _, [] => True
  | depth, m :: rest => (∃ d, depth = d + 1 ∧ Fits a d m.2) ∧ FitsMembers a depth rest

end

mutual

/-- A value without numbers with a fraction and without broken strings. -/
def Exact : Json → Prop
  | .float _ | .brokenString _ => False
  | .array items => ExactItems items
  | .object members => ExactMembers members
  | .null | .bool _ | .int _ | .string _ => True

/-- All items of an array are exact. -/
def ExactItems : List Json → Prop
  | [] => True
  | v :: rest => Exact v ∧ ExactItems rest

/-- All members of an object are exact. -/
def ExactMembers : List (String × Json) → Prop
  | [] => True
  | m :: rest => Exact m.2 ∧ ExactMembers rest

end

theorem exact_array {items : List Json} (h : ∀ v ∈ items, Exact v) : Exact (.array items) := by
  have hitems : ExactItems items := by
    induction items with
    | nil => trivial
    | cons v rest ih => exact ⟨h v (by simp), ih fun w hw => h w (List.mem_cons_of_mem _ hw)⟩
  exact hitems

theorem exact_object {members : List (String × Json)} (h : ∀ m ∈ members, Exact m.2) :
    Exact (.object members) := by
  have hmembers : ExactMembers members := by
    induction members with
    | nil => trivial
    | cons m rest ih => exact ⟨h m (by simp), ih fun n hn => h n (List.mem_cons_of_mem _ hn)⟩
  exact hmembers

/-- A spacing of blanks after each comma and colon. -/
structure Spacing.Plain (spacing : Spacing) : Prop where
  comma : ∃ n, spacing.comma = ',' :: List.replicate n ' '
  colon : ∃ n, spacing.colon = ':' :: List.replicate n ' '

theorem plain_spaced : spaced.Plain := ⟨⟨1, rfl⟩, ⟨1, rfl⟩⟩

theorem plain_compact : compact.Plain := ⟨⟨0, rfl⟩, ⟨0, rfl⟩⟩

/-! ## Written values -/

variable {rule : Char → List Char} {spacing : Spacing} {a : Allowance}

theorem chars_int (i : Int) :
    chars spacing (.int i) =
      (if i < 0 then ['-'] else []) ++ Nat.toDigits 10 i.natAbs := by
  rw [chars, Number.toList_decimalInt]

theorem Transparent.flatMap_int (hrule : Transparent rule) (i : Int) :
    (chars spacing (.int i)).flatMap rule = chars spacing (.int i) := by
  refine hrule.flatMap_outside fun c hc => ?_
  rw [chars_int, List.mem_append] at hc
  rcases hc with hc | hc
  · split at hc
    · rw [List.mem_singleton] at hc
      subst hc
      rfl
    · simp at hc
  · exact isOutside_of_isStart (isStart_of_isDigit (Number.isDigit_of_mem_toDigits hc))

theorem readValue_int {i : Int} {rest : List Char}
    (hdigits : (Nat.toDigits 10 i.natAbs).length ≤ a.integerDigits) (fuel depth : Nat)
    (hrest : EndsNumber rest) :
    readValue a (fuel + 1) depth (chars spacing (.int i) ++ rest) = .ok (.int i, rest) := by
  rw [chars_int, List.append_assoc]
  by_cases hneg : i < 0
  · have hsigned : signed true i.natAbs = i := by
      rw [signed, if_pos rfl]
      omega
    rw [if_pos hneg, List.singleton_append, readValue_minus,
      readNumber_toDigits true _ hdigits hrest, hsigned]
  · have hsigned : signed false i.natAbs = i := by
      rw [signed, if_neg (by decide)]
      omega
    have hread := readNumber_toDigits (a := a) false i.natAbs hdigits hrest
    rw [hsigned] at hread
    rw [if_neg hneg, List.nil_append]
    cases hds : Nat.toDigits 10 i.natAbs with
    | nil => exact absurd hds Nat.toDigits_ne_nil
    | cons c cs =>
      have hc : Number.isDigit c = true :=
        Number.isDigit_of_mem_toDigits (n := i.natAbs) (by rw [hds]; simp)
      rw [hds] at hread
      rw [List.cons_append, readValue_digit _ _ _ hc]
      exact hread

theorem isStart_of_isNumberChar {c : Char} (h : isNumberChar c = true) : isStart c = true := by
  have hne (d : Char) (hd : isNumberChar d = false) : c ≠ d := by
    rintro rfl
    simp [hd] at h
  have houtside : isOutside c = true := by
    simp only [isNumberChar, Bool.or_eq_true] at h
    rcases h with ((h | h) | h) | h
    all_goals simp [isOutside, h]
  simp [isStart, isJsonBlank, houtside, hne ' ' rfl, hne '\t' rfl, hne '\n' rfl, hne '\r' rfl,
    hne ']' rfl, hne '\x7d' rfl]

theorem isStart_of_mem_float {x : Binary64} {c : Char} (h : c ∈ chars spacing (.float x)) :
    isStart c = true :=
  isStart_of_isNumberChar ((NumberLayout.isNumeral_json x).isNumberChar_of_mem c h)

theorem Transparent.flatMap_float (hrule : Transparent rule) (x : Binary64) :
    (chars spacing (.float x)).flatMap rule = chars spacing (.float x) :=
  hrule.flatMap_outside fun _ hc => isOutside_of_isStart (isStart_of_mem_float hc)

theorem exists_chars_float (spacing : Spacing) {x : Binary64} (hx : x.IsCanonical) :
    ∃ c rest, chars spacing (.float x) = c :: rest ∧ isStart c = true := by
  have hne : chars spacing (.float x) ≠ [] := by
    -- a reader finds the number, so there is something to read
    intro hnil
    have hread : readValue (.ofLength 16) 1 0 (chars spacing (.float x) ++ []) =
        .ok (.float x, []) :=
      readValue_float hx spacing (Nat.le_refl 16) 0 0 (by simp [EndsNumber])
    rw [hnil] at hread
    simp [readValue, skipBlanks] at hread
  obtain ⟨c, rest, hchars⟩ := List.exists_cons_of_ne_nil hne
  exact ⟨c, rest, hchars, isStart_of_mem_float (by rw [hchars]; simp)⟩

theorem Fits.exists_chars (spacing : Spacing) {depth : Nat} {v : Json} (hv : Fits a depth v) :
    ∃ c rest, chars spacing v = c :: rest ∧ isStart c = true := by
  cases v with
  | null => exact ⟨'n', _, rfl, rfl⟩
  | bool b =>
    cases b with
    | true => exact ⟨'t', _, rfl, rfl⟩
    | false => exact ⟨'f', _, rfl, rfl⟩
  | int i =>
    rw [chars_int]
    split
    · exact ⟨'-', _, rfl, rfl⟩
    · cases hds : Nat.toDigits 10 i.natAbs with
      | nil => exact absurd hds Nat.toDigits_ne_nil
      | cons c cs =>
        have hc : c ∈ Nat.toDigits 10 i.natAbs := by simp [hds]
        exact ⟨c, cs, rfl, isStart_of_isDigit (Number.isDigit_of_mem_toDigits hc)⟩
  | float x => exact exists_chars_float spacing hv.1
  | string s => exact ⟨'"', _, rfl, rfl⟩
  | brokenString => exact hv.elim
  | array items => exact ⟨'[', _, rfl, rfl⟩
  | object members => exact ⟨'\x7b', _, rfl, rfl⟩

/-- A value begins with a character that no rule changes. -/
theorem Transparent.exists_text (hrule : Transparent rule) (spacing : Spacing) {depth : Nat}
    {v : Json} (hv : Fits a depth v) :
    ∃ c rest, (chars spacing v).flatMap rule = c :: rest ∧ isStart c = true := by
  obtain ⟨c, rest, hchars, hc⟩ := hv.exists_chars spacing
  have houtside : isOutside c = true := by
    simp only [isStart, Bool.and_eq_true] at hc
    exact hc.2
  refine ⟨c, rest.flatMap rule, ?_, hc⟩
  rw [hchars, List.flatMap_cons, hrule.outside c houtside]
  rfl

theorem itemChars_cons (v : Json) {rest : List Json} (h : rest ≠ []) :
    itemChars spacing (v :: rest) =
      chars spacing v ++ (spacing.comma ++ itemChars spacing rest) := by
  cases rest with
  | nil => contradiction
  | cons w rest => rw [itemChars, List.append_assoc]

theorem memberChars_cons (k : String) (v : Json) {rest : List (String × Json)} (h : rest ≠ []) :
    memberChars spacing ((k, v) :: rest) =
      writeString k.toList ++ (spacing.colon ++ (chars spacing v ++
        (spacing.comma ++ memberChars spacing rest))) := by
  cases rest with
  | nil => contradiction
  | cons m rest => simp only [memberChars, List.append_assoc]

theorem flatMap_itemChars_cons (v : Json) {rest : List Json} {n : Nat} (h : rest ≠ [])
    (hcomma : spacing.comma.flatMap rule = ',' :: List.replicate n ' ') :
    (itemChars spacing (v :: rest)).flatMap rule =
      (chars spacing v).flatMap rule ++
        ',' :: (List.replicate n ' ' ++ (itemChars spacing rest).flatMap rule) := by
  rw [itemChars_cons v h, List.flatMap_append, List.flatMap_append, hcomma, List.cons_append]

theorem flatMap_memberChars_singleton (k : String) (v : Json) {n : Nat}
    (hcolon : spacing.colon.flatMap rule = ':' :: List.replicate n ' ') :
    (memberChars spacing [(k, v)]).flatMap rule =
      (writeString k.toList).flatMap rule ++
        ':' :: (List.replicate n ' ' ++ (chars spacing v).flatMap rule) := by
  rw [memberChars, List.flatMap_append, List.flatMap_append, hcolon, List.append_assoc,
    List.cons_append]

theorem flatMap_memberChars_cons (k : String) (v : Json) {rest : List (String × Json)} {n j : Nat}
    (h : rest ≠ []) (hcolon : spacing.colon.flatMap rule = ':' :: List.replicate n ' ')
    (hcomma : spacing.comma.flatMap rule = ',' :: List.replicate j ' ') :
    (memberChars spacing ((k, v) :: rest)).flatMap rule =
      (writeString k.toList).flatMap rule ++
        ':' :: (List.replicate n ' ' ++ ((chars spacing v).flatMap rule ++
          ',' :: (List.replicate j ' ' ++ (memberChars spacing rest).flatMap rule))) := by
  rw [memberChars_cons k v h]
  simp only [List.flatMap_append, hcolon, hcomma, List.cons_append]

theorem Transparent.exists_itemText (hrule : Transparent rule) (spacing : Spacing)
    {depth : Nat} {items : List Json} (hitems : FitsItems a depth items) (hne : items ≠ []) :
    ∃ c rest, (itemChars spacing items).flatMap rule = c :: rest ∧ isStart c = true := by
  cases items with
  | nil => contradiction
  | cons v items =>
    obtain ⟨⟨d, -, hv⟩, -⟩ := hitems
    obtain ⟨c, rest, hchars, hc⟩ := hrule.exists_text spacing hv
    cases items with
    | nil => exact ⟨c, rest, hchars, hc⟩
    | cons w items =>
      rw [itemChars, List.flatMap_append, List.flatMap_append, hchars]
      exact ⟨c, _, rfl, hc⟩

theorem Transparent.exists_memberText (hrule : Transparent rule) (spacing : Spacing)
    {members : List (String × Json)}
    (hne : members ≠ []) :
    ∃ rest, (memberChars spacing members).flatMap rule = '"' :: rest := by
  cases members with
  | nil => contradiction
  | cons m members =>
    obtain ⟨k, v⟩ := m
    cases members with
    | nil =>
      rw [memberChars, List.append_assoc, List.flatMap_append, hrule.flatMap_writeString]
      exact ⟨_, rfl⟩
    | cons w members =>
      rw [memberChars_cons k v (by simp), List.flatMap_append, hrule.flatMap_writeString]
      exact ⟨_, rfl⟩

theorem Transparent.flatMap_array (hrule : Transparent rule) (items : List Json) :
    (chars spacing (.array items)).flatMap rule =
      '[' :: ((itemChars spacing items).flatMap rule ++ [']']) := by
  have hopen : rule '[' = ['['] := hrule.outside '[' rfl
  have hclose : rule ']' = [']'] := hrule.outside ']' rfl
  simp [chars, hopen, hclose]

theorem Transparent.flatMap_object (hrule : Transparent rule) (members : List (String × Json)) :
    (chars spacing (.object members)).flatMap rule =
      '\x7b' :: ((memberChars spacing members).flatMap rule ++ ['\x7d']) := by
  have hopen : rule '\x7b' = ['\x7b'] := hrule.outside '\x7b' rfl
  have hclose : rule '\x7d' = ['\x7d'] := hrule.outside '\x7d' rfl
  simp [chars, hopen, hclose]

theorem Spacing.Plain.exists_comma (hspacing : spacing.Plain) (hrule : Transparent rule) :
    ∃ n, spacing.comma.flatMap rule = ',' :: List.replicate n ' ' := by
  obtain ⟨n, hn⟩ := hspacing.comma
  refine ⟨n, ?_⟩
  rw [hn, hrule.flatMap_outside]
  simp [isOutside]

theorem Spacing.Plain.exists_colon (hspacing : spacing.Plain) (hrule : Transparent rule) :
    ∃ n, spacing.colon.flatMap rule = ':' :: List.replicate n ' ' := by
  obtain ⟨n, hn⟩ := hspacing.colon
  refine ⟨n, ?_⟩
  rw [hn, hrule.flatMap_outside]
  simp [isOutside]

/-- A value inside a container, with blanks in front of it. -/
theorem readInner_text (hrule : Transparent rule) {fuel depth : Nat} {v : Json}
    (hv : Fits a depth v) {rest : List Char} (blanks : Nat)
    (h : readValue a fuel depth ((chars spacing v).flatMap rule ++ rest) = .ok (v, rest)) :
    readInner a (fuel + 1) (depth + 1)
      (List.replicate blanks ' ' ++ ((chars spacing v).flatMap rule ++ rest)) = .ok (v, rest) := by
  obtain ⟨c, text, htext, hc⟩ := hrule.exists_text spacing hv
  rw [htext, List.cons_append] at h ⊢
  rw [readInner_start fuel depth _ (isJsonBlank_of_isStart hc), h]

/-! ## The round trip -/

mutual

-- The induction is on the value. The fuel goes down by one for a container, its items and each
-- item, and each of the three has a character of the text to itself.
theorem readValue_text (hrule : Transparent rule) (hspacing : spacing.Plain) {depth : Nat}
    {v : Json} (hv : Fits a depth v) (fuel : Nat) (rest : List Char)
    (hfuel : 3 * ((chars spacing v).flatMap rule).length ≤ fuel) (hrest : EndsNumber rest) :
    readValue a fuel depth ((chars spacing v).flatMap rule ++ rest) = .ok (v, rest) := by
  obtain ⟨f, rfl⟩ : ∃ f, fuel = f + 1 := by
    obtain ⟨c, text, htext, -⟩ := hrule.exists_text spacing hv
    rw [htext, List.length_cons] at hfuel
    exact ⟨fuel - 1, by omega⟩
  cases v with
  | null =>
    rw [hrule.flatMap_outside (by simp [chars, isOutside])]
    exact readValue_null f depth rest
  | bool b =>
    rw [hrule.flatMap_outside (by cases b <;> simp [chars, isOutside])]
    exact readValue_bool b f depth rest
  | int i =>
    rw [hrule.flatMap_int]
    exact readValue_int hv f depth hrest
  | float x =>
    rw [hrule.flatMap_float]
    exact readValue_float hv.1 spacing hv.2 f depth hrest
  | string s => exact readValue_string hrule f depth s rest
  | brokenString => exact hv.elim
  | array items =>
    rw [hrule.flatMap_array] at hfuel ⊢
    rw [List.length_cons, List.length_append, List.length_singleton] at hfuel
    rw [List.cons_append, List.append_assoc, List.singleton_append]
    by_cases hne : items = []
    · subst hne
      exact readValue_array_nil f depth rest
    · have hitems : FitsItems a depth items := hv
      have hread := readItems_text hrule hspacing hitems hne f rest (by omega)
      obtain ⟨c, text, htext, hc⟩ := hrule.exists_itemText spacing hitems hne
      rw [htext, List.cons_append] at hread ⊢
      rw [readValue_array f depth _ hc, hread]
      rfl
  | object members =>
    rw [hrule.flatMap_object] at hfuel ⊢
    rw [List.length_cons, List.length_append, List.length_singleton] at hfuel
    rw [List.cons_append, List.append_assoc, List.singleton_append]
    by_cases hne : members = []
    · subst hne
      exact readValue_object_nil f depth rest
    · have hmembers : FitsMembers a depth members := hv
      have hread := readMembers_text hrule hspacing hmembers hne f rest (by omega)
      obtain ⟨text, htext⟩ := hrule.exists_memberText spacing hne
      rw [htext, List.cons_append] at hread ⊢
      rw [readValue_object f depth, hread]
      rfl

theorem readItems_text (hrule : Transparent rule) (hspacing : spacing.Plain) {depth : Nat}
    {items : List Json} (hitems : FitsItems a depth items) (hne : items ≠ []) (fuel : Nat)
    (rest : List Char) (hfuel : 3 * ((itemChars spacing items).flatMap rule).length + 3 ≤ fuel) :
    readItems a fuel depth ((itemChars spacing items).flatMap rule ++ ']' :: rest) =
      .ok (items, rest) := by
  obtain ⟨f, rfl⟩ : ∃ f, fuel = f + 2 := ⟨fuel - 2, by omega⟩
  cases items with
  | nil => contradiction
  | cons v others =>
    obtain ⟨⟨d, rfl, hv⟩, hothers⟩ := hitems
    by_cases hlast : others = []
    · subst hlast
      rw [itemChars] at hfuel ⊢
      have hread := readValue_text hrule hspacing hv f (']' :: rest) (by omega)
        (endsNumber_cons rfl)
      exact readItems_last (f + 1) (d + 1) (readInner_text hrule hv 0 hread)
    · obtain ⟨n, hcomma⟩ := hspacing.exists_comma hrule
      rw [flatMap_itemChars_cons v hlast hcomma] at hfuel ⊢
      simp only [List.length_append, List.length_cons] at hfuel
      have hmore := readItems_text hrule hspacing hothers hlast (f + 1) rest (by omega)
      obtain ⟨c, text, htext, hc⟩ := hrule.exists_itemText spacing hothers hlast
      rw [htext, List.cons_append] at hmore
      have hread := readValue_text hrule hspacing hv f
        (',' :: (List.replicate n ' ' ++ c :: (text ++ ']' :: rest))) (by omega)
        (endsNumber_cons rfl)
      have hinner := readItems_more (f + 1) (d + 1) n hc (readInner_text hrule hv 0 hread)
      rw [hmore] at hinner
      rw [htext]
      simpa [Except.map] using hinner

theorem readMembers_text (hrule : Transparent rule) (hspacing : spacing.Plain) {depth : Nat}
    {members : List (String × Json)} (hmembers : FitsMembers a depth members) (hne : members ≠ [])
    (fuel : Nat) (rest : List Char)
    (hfuel : 3 * ((memberChars spacing members).flatMap rule).length + 3 ≤ fuel) :
    readMembers a fuel depth ((memberChars spacing members).flatMap rule ++ '\x7d' :: rest) =
      .ok (members, rest) := by
  obtain ⟨f, rfl⟩ : ∃ f, fuel = f + 2 := ⟨fuel - 2, by omega⟩
  obtain ⟨n, hcolon⟩ := hspacing.exists_colon hrule
  cases members with
  | nil => contradiction
  | cons m others =>
    obtain ⟨k, v⟩ := m
    obtain ⟨⟨d, rfl, hv⟩, hothers⟩ :
      (∃ d, depth = d + 1 ∧ Fits a d v) ∧ FitsMembers a depth others := hmembers
    by_cases hlast : others = []
    · subst hlast
      rw [flatMap_memberChars_singleton k v hcolon] at hfuel ⊢
      simp only [List.length_append, List.length_cons] at hfuel
      have hread := readValue_text hrule hspacing hv f ('\x7d' :: rest) (by omega)
        (endsNumber_cons rfl)
      have hinner := readInner_text hrule hv n hread
      simp only [List.append_assoc, List.cons_append]
      refine readMembers_last (f + 1) (d + 1) (readKey_writeString hrule k _ ?_) hinner
      rw [List.length_append]
      omega
    · obtain ⟨j, hcomma⟩ := hspacing.exists_comma hrule
      rw [flatMap_memberChars_cons k v hlast hcolon hcomma] at hfuel ⊢
      simp only [List.length_append, List.length_cons] at hfuel
      have hmore := readMembers_text hrule hspacing hothers hlast (f + 1) rest (by omega)
      obtain ⟨text, htext⟩ := hrule.exists_memberText spacing hlast
      rw [htext, List.cons_append] at hmore
      have hread := readValue_text hrule hspacing hv f
        (',' :: (List.replicate j ' ' ++ '"' :: (text ++ '\x7d' :: rest))) (by omega)
        (endsNumber_cons rfl)
      have hinner := readInner_text hrule hv n hread
      rw [htext]
      simp only [List.append_assoc, List.cons_append]
      rw [readMembers_more (f + 1) (d + 1) j (readKey_writeString hrule k _ ?_) hinner, hmore]
      · rfl
      · rw [List.length_append]
        omega

end

/-- A reader whose allowance a value fits gives it back from its text. -/
theorem readChars_fits (hrule : Transparent rule) (hspacing : spacing.Plain) {v : Json}
    (hv : Fits a a.depth v) : readChars a ((chars spacing v).flatMap rule) = .ok v := by
  have hread := readValue_text hrule hspacing hv _ [] (Nat.le_add_right _ 3) (by simp [EndsNumber])
  rw [List.append_nil] at hread
  rw [readChars, hread]
  rfl

/-- A value that fits is read from its text. -/
theorem read_write_of_fits (hspacing : spacing.Plain) {v : Json} (hv : Fits a a.depth v) :
    read a (v.write spacing) = .ok v := by
  have hself : (chars spacing v).flatMap (fun c => [c]) = chars spacing v :=
    List.flatMap_singleton' _
  have hread := readChars_fits transparent_self hspacing hv
  rw [hself] at hread
  rw [read, write, String.toList_ofList, hread]

/-! ## Exact values -/

mutual

-- The induction is on the value: the brackets around items are characters of the text too, so the
-- text of an item leaves room for one container.
theorem Exact.fits (hrule : Transparent rule) (hspacing : spacing.Plain) {depth : Nat} {v : Json}
    (hv : Exact v) (hdepth : ((chars spacing v).flatMap rule).length ≤ depth)
    (hdigits : depth ≤ a.integerDigits) : Fits a depth v := by
  cases v with
  | null => trivial
  | bool b => trivial
  | int i =>
    have hlength : (Nat.toDigits 10 i.natAbs).length ≤ (chars spacing (.int i)).length := by
      rw [chars_int, List.length_append]
      omega
    rw [hrule.flatMap_int] at hdepth
    exact Nat.le_trans hlength (Nat.le_trans hdepth hdigits)
  | float x => exact hv.elim
  | string s => trivial
  | brokenString => exact hv.elim
  | array items =>
    have hitems : ExactItems items := hv
    rw [hrule.flatMap_array, List.length_cons, List.length_append] at hdepth
    exact hitems.fits hrule hspacing (by omega) hdigits
  | object members =>
    have hmembers : ExactMembers members := hv
    rw [hrule.flatMap_object, List.length_cons, List.length_append] at hdepth
    exact hmembers.fits hrule hspacing (by omega) hdigits

theorem ExactItems.fits (hrule : Transparent rule) (hspacing : spacing.Plain) {depth : Nat}
    {items : List Json} (hitems : ExactItems items)
    (hdepth : ((itemChars spacing items).flatMap rule).length < depth)
    (hdigits : depth ≤ a.integerDigits) : FitsItems a depth items := by
  obtain ⟨d, rfl⟩ : ∃ d, depth = d + 1 := ⟨depth - 1, by omega⟩
  cases items with
  | nil => trivial
  | cons v others =>
    obtain ⟨hv, hothers⟩ := hitems
    by_cases hlast : others = []
    · subst hlast
      rw [itemChars] at hdepth
      exact ⟨⟨d, rfl, hv.fits hrule hspacing (by omega) (by omega)⟩, trivial⟩
    · obtain ⟨n, hcomma⟩ := hspacing.exists_comma hrule
      rw [flatMap_itemChars_cons v hlast hcomma] at hdepth
      simp only [List.length_append, List.length_cons] at hdepth
      exact ⟨⟨d, rfl, hv.fits hrule hspacing (by omega) (by omega)⟩,
        hothers.fits hrule hspacing (by omega) hdigits⟩

theorem ExactMembers.fits (hrule : Transparent rule) (hspacing : spacing.Plain) {depth : Nat}
    {members : List (String × Json)} (hmembers : ExactMembers members)
    (hdepth : ((memberChars spacing members).flatMap rule).length < depth)
    (hdigits : depth ≤ a.integerDigits) : FitsMembers a depth members := by
  obtain ⟨d, rfl⟩ : ∃ d, depth = d + 1 := ⟨depth - 1, by omega⟩
  obtain ⟨n, hcolon⟩ := hspacing.exists_colon hrule
  cases members with
  | nil => trivial
  | cons m others =>
    obtain ⟨k, v⟩ := m
    obtain ⟨hv, hothers⟩ : Exact v ∧ ExactMembers others := hmembers
    by_cases hlast : others = []
    · subst hlast
      rw [flatMap_memberChars_singleton k v hcolon] at hdepth
      simp only [List.length_append, List.length_cons] at hdepth
      exact ⟨⟨d, rfl, hv.fits hrule hspacing (by omega) (by omega)⟩, trivial⟩
    · obtain ⟨j, hcomma⟩ := hspacing.exists_comma hrule
      rw [flatMap_memberChars_cons k v hlast hcolon hcomma] at hdepth
      simp only [List.length_append, List.length_cons] at hdepth
      exact ⟨⟨d, rfl, hv.fits hrule hspacing (by omega) (by omega)⟩,
        hothers.fits hrule hspacing (by omega) hdigits⟩

end

/-- A reader with the allowance of a text gives back the value that the text was written from. -/
theorem readChars_text (hrule : Transparent rule) (hspacing : spacing.Plain) {v : Json}
    (hv : Exact v) (s : List Char) (hs : s = (chars spacing v).flatMap rule) :
    readChars (.ofLength s.length) s = .ok v := by
  have hfits : Fits (.ofLength s.length) s.length v :=
    hv.fits hrule hspacing (Nat.le_of_eq (congrArg List.length hs.symm)) (Nat.le_refl _)
  rw [hs] at hfits ⊢
  exact readChars_fits hrule hspacing hfits

/-- **A written value is read back, and nothing is left over.** -/
theorem read_write (hspacing : spacing.Plain) {v : Json} (hv : Exact v) :
    read (.ofLength (v.write spacing).length) (v.write spacing) = .ok v := by
  have hs : (v.write spacing).toList = (chars spacing v).flatMap fun c => [c] := by
    simp [write]
  have hread := readChars_text transparent_self hspacing hv _ hs
  rw [String.length_toList] at hread
  rw [read, hread]

end FormPress.Json
