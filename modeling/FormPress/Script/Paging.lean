import FormPress.Script.Access

/-!
# Pages in the script

The part of the page's script that turns between the pages of a form and swaps the image beside
them.
-/

namespace FormPress.Script

/-- Images as a list, `null` for none. -/
def heroJson (images : List (Option String)) : Json :=
  .array (images.map fun i => (i.map Json.string).getD .null)

def pageHandles (heroImages : List (Option String)) : List Code :=
  [code "var pages = toArray(form.querySelectorAll(\".form-page\"));",
   code "var pageDots = toArray(document.querySelectorAll(\".page-dot\"));",
   .line [.code "var heroImages = ", .value (heroJson heroImages), .code ";"],
   code "var currentPage = 0;"]

/-- Show the image of a page. -/
def swapHeroImage : List Code :=
  [function "swapHeroImage(index)" [
     code "var url = heroImages[index];",
     code "if (!url) return;",
     block "toArray(document.querySelectorAll(\"[data-hero-image]\")).forEach(function (el) " [
       code "el.style.backgroundImage = \"url(\" + JSON.stringify(url) + \")\";"] ");"]]

/-- Turn to a page; turning forward checks the present one first. -/
def goToPage (heroImages : List (Option String)) : List Code :=
  [.line
     [.code "// Moves between 0 and ", .value (.int (heroImages.length - 1)),
      .code "; forward moves validate the current page first."],
   function "goToPage(index, skipValidation)" [
     code "if (index < 0 || index >= pages.length || index === currentPage) return;",
     code ("if (index > currentPage && !skipValidation && " ++
       "!validateScope(pages[currentPage])) return;"),
     block "pages.forEach(function (page, i) " [
       code "page.hidden = i !== index;",
       code "page.classList.toggle(\"active\", i === index);"] ");",
     block "pageDots.forEach(function (dot, i) " [
       code "dot.classList.toggle(\"active\", i === index);",
       code "dot.classList.toggle(\"done\", i < index);"] ");",
     code "currentPage = index;",
     code "swapHeroImage(index);",
     code "var top = form.getBoundingClientRect().top + window.pageYOffset - 24;",
     code "window.scrollTo(\x7b top: top, behavior: \"smooth\" \x7d);"]]

/-- The buttons that turn the pages. -/
def pageListener : List Code :=
  [block "form.addEventListener(\"click\", function (event) " [
     code "var button = event.target.closest(\"[data-page-nav]\");",
     code "if (!button) return;",
     code "event.preventDefault();",
     code ("goToPage(currentPage + (button.getAttribute(\"data-page-nav\") === \"next\" ? 1 " ++
       ": -1));")] ");"]

/-- The part of the script for pages, one image for each of them. -/
def paging (heroImages : List (Option String)) : List Code :=
  paragraphs [pageHandles heroImages, swapHeroImage, goToPage heroImages, pageListener]

end FormPress.Script
