import FormPress.Script.Code
import FormPress.Style.Entrance

/-!
# Revealing fields

The part of the page's script that reveals the fields which start invisible, each once it comes into
view.
-/

namespace FormPress.Script

/-- The share of a field that must be seen. -/
def revealThreshold : Binary64 := .ofRatio false 1 10

/-- The fields that wait, and the delay between them. -/
def revealHandles (e : Entrances) : List Code :=
  [.line
     [.code "var revealTargets = toArray(document.querySelectorAll(",
      quoted Entrances.fieldSelector, .code "));"],
   .line [.code "var revealStep = ", .value (.int e.step), .code ";"]]

/-- Reveal a field after its delay. -/
def revealOne : List Code :=
  [function "reveal(el)" [
     code "var delay = parseInt(el.getAttribute(\"data-anim-delay\"), 10) || 0;",
     code "setTimeout(function () \x7b el.classList.add(\"animated\"); \x7d, delay);"]]

/-- Reveal each field once it is seen. -/
def revealWhenSeen : List Code :=
  [.block [
     ("if (\"IntersectionObserver\" in window) ", [
       block "var revealObserver = new IntersectionObserver(function (entries) " [
         block "entries.forEach(function (entry) " [
           code "if (!entry.isIntersecting) return;",
           code "reveal(entry.target);",
           code "revealObserver.unobserve(entry.target);"] ");"]
         [.code ", \x7b threshold: ", .value (.float revealThreshold), .code " \x7d);"],
       block "revealTargets.forEach(function (el, index) " [
         code "el.setAttribute(\"data-anim-delay\", String(revealStep * index));",
         code "revealObserver.observe(el);"] ");"]),
     (" else ", [
       code "revealTargets.forEach(reveal);"])] []]

/-- The part of the script that reveals fields. -/
def reveal (e : Entrances) : List Code :=
  paragraphs [revealHandles e, revealOne, revealWhenSeen]

end FormPress.Script
