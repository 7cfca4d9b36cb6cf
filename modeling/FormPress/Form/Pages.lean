import FormPress.Form.Basic

/-!
# Pages

The fields of a form in ascending order, cut at the page breaks. A form with `k` page breaks has
`k + 1` pages; a page break itself is on none of them. Beside a page stands its own image or the
image of the layout.
-/

namespace FormPress

structure Page where
  index : Nat
  fields : List Field
  count : Nat
deriving Repr

namespace Page

def hasPrevious (p : Page) : Bool :=
  decide (0 < p.index)

def hasNext (p : Page) : Bool :=
  decide (p.index + 1 < p.count)

def isLast (p : Page) : Bool :=
  !p.hasNext

end Page

def Field.isPageBreak (f : Field) : Bool :=
  f.kind == some .pageBreak

/-- Fields cut at the page breaks. -/
def fieldGroups : List Field → List (List Field)
  | [] => [[]]
  | f :: rest =>
    if f.isPageBreak then [] :: fieldGroups rest
    else
      match fieldGroups rest with
      | [] => [[f]]
      | group :: groups => (f :: group) :: groups

/-- Groups of fields as numbered pages, from an index on. -/
def numberPages (count : Nat) : Nat → List (List Field) → List Page
  | _, [] => []
  | index, fields :: rest => ⟨index, fields, count⟩ :: numberPages count (index + 1) rest

def paginate (fields : List Field) : List Page :=
  let groups := fieldGroups (sortedFields fields)
  numberPages groups.length 0 groups

/-- There is always a page. -/
theorem fieldGroups_ne_nil (fields : List Field) : fieldGroups fields ≠ [] := by
  cases fields with
  | nil => simp [fieldGroups]
  | cons f rest =>
    rw [fieldGroups]
    split
    · simp
    · split <;> simp

/-- One page more than page breaks. -/
theorem length_fieldGroups (fields : List Field) :
    (fieldGroups fields).length = (fields.filter Field.isPageBreak).length + 1 := by
  induction fields with
  | nil => rfl
  | cons f rest ih =>
    rw [fieldGroups]
    by_cases h : f.isPageBreak = true
    · simp [h, ih]
    · cases hg : fieldGroups rest with
      | nil => exact absurd hg (fieldGroups_ne_nil rest)
      | cons group groups =>
        rw [hg] at ih
        simpa [h] using ih

@[simp] theorem length_numberPages (count index : Nat) (groups : List (List Field)) :
    (numberPages count index groups).length = groups.length := by
  induction groups generalizing index with
  | nil => rfl
  | cons fields rest ih => simp [numberPages, ih]

def PageLayout.usesImage : PageLayout → Bool
  | .splitLeft | .splitRight | .bannerTop | .floating => true
  | .classic | .card | .fullscreen => false

/-- Layouts with the image beside the form. -/
def PageLayout.isSplit : PageLayout → Bool
  | .splitLeft | .splitRight => true
  | _ => false

namespace Form

/-- The image beside a page: its own, else that of the layout. -/
def heroImage? (form : Form) (index : Int) : Option String :=
  (given? (Table.lookup index form.pageHeroImages)).or (given? form.layoutImageUrl)

def heroImages (form : Form) (pages : List Page) : List (Option String) :=
  pages.map fun p => form.heroImage? p.index

/-- The images that the page's script swaps: none when the layout shows no image. -/
def shownHeroImages (form : Form) (pages : List Page) : List (Option String) :=
  if form.layout.usesImage then form.heroImages pages else pages.map fun _ => none

end Form

end FormPress
