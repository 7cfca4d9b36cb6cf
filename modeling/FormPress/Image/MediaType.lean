import FormPress.Image.Address
import FormPress.Text.Blank
import FormPress.Text.Lower

/-!
# Media types of images

What kind of image stands behind an address: what the header of the answer says if it names an
image, else what the suffix of the address stands for, else PNG.
-/

namespace FormPress.Image

def suffixes : List (String × String) :=
  [("avif", "image/avif"), ("bmp", "image/bmp"), ("gif", "image/gif"), ("heic", "image/heic"),
   ("heif", "image/heif"), ("ico", "image/vnd.microsoft.icon"), ("ief", "image/ief"),
   ("jpe", "image/jpeg"), ("jpeg", "image/jpeg"), ("jpg", "image/jpeg"),
   ("pbm", "image/x-portable-bitmap"), ("pgm", "image/x-portable-graymap"), ("png", "image/png"),
   ("pnm", "image/x-portable-anymap"), ("ppm", "image/x-portable-pixmap"),
   ("ras", "image/x-cmu-raster"), ("rgb", "image/x-rgb"), ("svg", "image/svg+xml"),
   ("tif", "image/tiff"), ("tiff", "image/tiff"), ("xbm", "image/x-xbitmap"),
   ("xpm", "image/x-xpixmap"), ("xwd", "image/x-xwindowdump")]

/-- Suffixes that stand for two: what is packed, and how. -/
def doubleSuffixes : List (String × String × String) :=
  [("svgz", "svg", "gz"), ("tgz", "tar", "gz"), ("taz", "tar", "gz"), ("tz", "tar", "gz"),
   ("tbz2", "tar", "bz2"), ("txz", "tar", "xz")]

/-- Suffixes that tell how a file is packed, in this spelling only. -/
def packings : List String :=
  ["gz", "Z", "bz2", "xz", "br"]

/-- A name without its suffix, and the suffix after the last point. Points at the start of the last
part of a path begin no suffix. -/
def splitSuffix (path : List Char) : Option (List Char × List Char) :=
  let tail := (path.reverse.takeWhile (· != '/')).reverse
  match Text.splitLast '.' tail with
  | none => none
  | some (stem, suffix) =>
    if stem.all (· == '.') then none
    else some (path.take (path.length - suffix.length - 1), suffix)

/-- The suffix that tells what a file is, once packing is taken off. -/
def innerSuffix (path : List Char) : Option (List Char) :=
  match splitSuffix path with
  | none => none
  | some (stem, suffix) =>
    let folded := String.ofList (Text.lower suffix)
    match doubleSuffixes.find? (·.1 == folded) with
    | some (_, inner, _) => some inner.toList
    | none =>
      if packings.contains (String.ofList suffix) then (splitSuffix stem).map Prod.snd
      else some suffix

/-- The type that an address with its data inside gives itself. -/
def inlineType (data : List Char) : Option String :=
  match Text.splitFirst ',' data with
  | none => none
  | some (front, _) =>
    let kind := front.takeWhile (· != ';')
    if '=' ∈ kind ∨ '/' ∉ kind then none else some (String.ofList kind)

def Address.suggestedType (address : Address) : Option String :=
  if address.scheme = "data" then inlineType address.path
  else
    match innerSuffix address.path with
    | none => none
    | some suffix =>
      (suffixes.find? (·.1 == String.ofList (Text.lower suffix))).map Prod.snd

def isImageType (kind : String) : Bool :=
  Text.startsWith kind "image/"

/-- The type that a header states: what stands before its first semicolon. -/
def statedType (header : Option String) : String :=
  Text.strip (String.ofList ((header.getD "").toList.takeWhile (· != ';')))

/-- The type of an image from the header of its answer, its address, or neither. The address is read
only where the header does not tell. -/
def mediaType (header : Option String) (url : String) : Except AddressFault String :=
  if isImageType (statedType header) then .ok (statedType header)
  else
    (Address.read url).map fun address =>
      (address.suggestedType.filter isImageType).getD "image/png"

end FormPress.Image
