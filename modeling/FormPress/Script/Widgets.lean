import FormPress.Script.Access

/-!
# Widgets in the script

The part of the page's script that drives the controls which browsers do not know: phone numbers,
signatures, recordings, formatted texts, rankings, folding parts and addresses of options.
-/

namespace FormPress.Script

/-- The colour of a signature. -/
def strokeColor : String := "#1e293b"

/-- Tell the page that a value has changed. -/
def notify : List Code :=
  [function "notify(el)" [
     code "el.dispatchEvent(new Event(\"change\", \x7b bubbles: true \x7d));"]]

def phoneWidgets : List Code :=
  [code "// Phone: country code + raw digits are combined into the named hidden input.",
   block "toArray(document.querySelectorAll(\"[data-phone-for]\")).forEach(function (wrap) " [
     code "var code = wrap.querySelector(\"[data-phone-code]\");",
     code "var raw = wrap.querySelector(\"[data-phone-raw]\");",
     code "var target = document.getElementById(wrap.getAttribute(\"data-phone-for\"));",
     code "if (!code || !raw || !target) return;",
     function "combine()" [
       code "var digits = raw.value.replace(/[^0-9]/g, \"\");",
       code "target.value = digits ? code.value + digits : \"\";"],
     code "code.addEventListener(\"change\", combine);",
     code "raw.addEventListener(\"input\", combine);",
     code "combine();"] ");"]

def signatureWidgets : List Code :=
  [code "// Signature: strokes are kept so undo can replay all but the last one.",
   block "toArray(document.querySelectorAll(\"[data-signature-for]\")).forEach(function (pad) " [
     code "var canvas = pad.querySelector(\"canvas\");",
     code "var target = document.getElementById(pad.getAttribute(\"data-signature-for\"));",
     code "if (!canvas || !target || !canvas.getContext) return;",
     code "var ctx = canvas.getContext(\"2d\");",
     code "var strokes = [];",
     code "var current = null;",
     blank,
     function "point(event)" [
       code "var rect = canvas.getBoundingClientRect();",
       block "return " [
         code "x: (event.clientX - rect.left) * (canvas.width / rect.width),",
         code "y: (event.clientY - rect.top) * (canvas.height / rect.height)"] ";"],
     blank,
     function "drawStroke(stroke)" [
       code "ctx.beginPath();",
       block "stroke.forEach(function (p, i) " [
         code "if (i === 0) ctx.moveTo(p.x, p.y);",
         code "else ctx.lineTo(p.x, p.y);"] ");",
       code "if (stroke.length === 1) ctx.lineTo(stroke[0].x + 0.1, stroke[0].y + 0.1);",
       code "ctx.stroke();"],
     blank,
     function "redraw()" [
       code "ctx.clearRect(0, 0, canvas.width, canvas.height);",
       code "strokes.forEach(drawStroke);"],
     blank,
     function "serialize()" [
       code "target.value = strokes.length ? canvas.toDataURL(\"image/png\") : \"\";",
       code "notify(target);"],
     blank,
     code "ctx.lineWidth = 2;",
     code "ctx.lineCap = \"round\";",
     code "ctx.lineJoin = \"round\";",
     .line [.code "ctx.strokeStyle = ", quoted strokeColor, .code ";"],
     blank,
     block "canvas.addEventListener(\"pointerdown\", function (event) " [
       code "event.preventDefault();",
       code "canvas.setPointerCapture(event.pointerId);",
       code "current = [point(event)];",
       code "strokes.push(current);",
       code "drawStroke(current);"] ");",
     block "canvas.addEventListener(\"pointermove\", function (event) " [
       code "if (!current) return;",
       code "current.push(point(event));",
       code "redraw();"] ");",
     function "endStroke()" [
       code "if (!current) return;",
       code "current = null;",
       code "serialize();"],
     code "canvas.addEventListener(\"pointerup\", endStroke);",
     code "canvas.addEventListener(\"pointercancel\", endStroke);",
     blank,
     block "pad.addEventListener(\"click\", function (event) " [
       code "var button = event.target.closest(\"[data-signature-action]\");",
       code "if (!button) return;",
       .block [
         ("if (button.getAttribute(\"data-signature-action\") === \"undo\") ", [
           code "strokes.pop();"]),
         (" else ", [
           code "strokes = [];"])] [],
       code "redraw();",
       code "serialize();"] ");"] ");"]

def voiceWidgets : List Code :=
  [code "// Voice recording: the recording is stored as a data URI.",
   block "toArray(document.querySelectorAll(\"[data-voice-for]\")).forEach(function (wrap) " [
     code "var target = document.getElementById(wrap.getAttribute(\"data-voice-for\"));",
     code "var startButton = wrap.querySelector('[data-voice-action=\"start\"]');",
     code "var stopButton = wrap.querySelector('[data-voice-action=\"stop\"]');",
     code "var preview = wrap.querySelector(\"audio\");",
     code "if (!target || !startButton || !stopButton) return;",
     code "var recorder = null;",
     blank,
     block "startButton.addEventListener(\"click\", function () " [
       block "if (!navigator.mediaDevices || typeof MediaRecorder === \"undefined\") " [
         .line
           [.code "alert(", quoted "Audio recording is not supported in this browser.", .code ");"],
         code "return;"] [],
       .block [
         ("navigator.mediaDevices.getUserMedia(\x7b audio: true \x7d).then(function (stream) ", [
           code "var chunks = [];",
           code "recorder = new MediaRecorder(stream);",
           block "recorder.addEventListener(\"dataavailable\", function (event) " [
             code "if (event.data.size) chunks.push(event.data);"] ");",
           block "recorder.addEventListener(\"stop\", function () " [
             code "stream.getTracks().forEach(function (track) \x7b track.stop(); \x7d);",
             code "var reader = new FileReader();",
             block "reader.onloadend = function () " [
               code "target.value = reader.result;",
               block "if (preview) " [
                 code "preview.src = reader.result;",
                 code "preview.hidden = false;"] [],
               code "notify(target);"] ";",
             code ("reader.readAsDataURL(new Blob(chunks, \x7b type: recorder.mimeType " ++
               "\x7d));")] ");",
           code "recorder.start();",
           code "startButton.hidden = true;",
           code "stopButton.hidden = false;"]),
         (").catch(function (error) ", [
           code "console.warn(\"Microphone unavailable:\", error);",
           .line [.code "alert(", quoted "Microphone access was denied.", .code ");"]])] ");"]
       ");",
     blank,
     block "stopButton.addEventListener(\"click\", function () " [
       code "if (recorder && recorder.state !== \"inactive\") recorder.stop();",
       code "stopButton.hidden = true;",
       code "startButton.hidden = false;"] ");"] ");"]

def richTextWidgets : List Code :=
  [code "// Rich text: the editor's markup is mirrored into the named hidden input.",
   block "toArray(document.querySelectorAll(\"[data-rich-text-for]\")).forEach(function (wrap) " [
     code "var editor = wrap.querySelector(\"[contenteditable]\");",
     code
       "var target = document.getElementById(wrap.getAttribute(\"data-rich-text-for\"));",
     code "if (!editor || !target) return;",
     function "sync()" [
       code "target.value = editor.textContent.trim() ? editor.innerHTML : \"\";"],
     code "editor.addEventListener(\"input\", sync);",
     block "wrap.addEventListener(\"click\", function (event) " [
       code "var button = event.target.closest(\"[data-rte-command]\");",
       code "if (!button) return;",
       code "event.preventDefault();",
       code "editor.focus();",
       code "document.execCommand(button.getAttribute(\"data-rte-command\"), false, null);",
       code "sync();"] ");",
     code "sync();"] ");"]

def rankingWidgets : List Code :=
  [code "// Ranking: the hidden input holds the option values in ranked order.",
   block "toArray(document.querySelectorAll(\"[data-ranking-for]\")).forEach(function (wrap) " [
     code "var list = wrap.querySelector(\".ranking-list\");",
     code "var target = document.getElementById(wrap.getAttribute(\"data-ranking-for\"));",
     code "if (!list || !target) return;",
     block "wrap.addEventListener(\"click\", function (event) " [
       code "var button = event.target.closest(\"[data-ranking-move]\");",
       code "if (!button) return;",
       code "var item = button.closest(\".ranking-item\");",
       .block [
         ("if (button.getAttribute(\"data-ranking-move\") === \"up\") ", [
           code ("if (item.previousElementSibling) list.insertBefore(item, " ++
             "item.previousElementSibling);")]),
         (" else if (item.nextElementSibling) ", [
           code "list.insertBefore(item.nextElementSibling, item);"])] [],
       block "target.value = toArray(list.querySelectorAll(\".ranking-item\")).map(function (li) " [
         code "return li.getAttribute(\"data-value\");"]
         [.code ").join(", quoted valueSeparator, .code ");"],
       code "notify(target);"] ");"] ");"]

/-- Parts that fold. -/
def collapseWidgets : List Code :=
  [block "document.addEventListener(\"click\", function (event) " [
     code "var toggle = event.target.closest(\"[data-collapse-toggle]\");",
     code "if (!toggle) return;",
     code ("var content = " ++
       "document.getElementById(toggle.getAttribute(\"data-collapse-toggle\"));"),
     code "if (!content) return;",
     code "content.hidden = !content.hidden;",
     code "toggle.setAttribute(\"aria-expanded\", content.hidden ? \"false\" : \"true\");"]
     ");"]

/-- The place for the address of an option. -/
def addressHandle : List Code :=
  [code "// Address of the most recently selected option that carries one.",
   code "var addressDisplay = document.getElementById(\"address-display\");"]

/-- Show the address of the option chosen last. -/
def refreshAddress : List Code :=
  [function "refreshAddress(event)" [
     code "if (!addressDisplay) return;",
     code "var el = event.target;",
     code "var address = null;",
     .block [
       ("if (el.tagName === \"SELECT\") ", [
         code "var option = el.options[el.selectedIndex];",
         code ("if (option && option.hasAttribute(\"data-address\")) address = " ++
           "option.getAttribute(\"data-address\");")]),
       (" else if (el.checked) ", [
         code "var label = el.closest(\"[data-address]\");",
         code "if (label) address = label.getAttribute(\"data-address\");"])] [],
     code "if (address === null) return;",
     code "addressDisplay.querySelector(\".address-text\").textContent = address;",
     code "addressDisplay.hidden = false;"]]

/-- Follow the choices. -/
def addressListener : List Code :=
  [code "document.addEventListener(\"change\", refreshAddress);"]

def widgets : List Code :=
  paragraphs
    [notify, phoneWidgets, signatureWidgets, voiceWidgets, richTextWidgets, rankingWidgets,
     collapseWidgets, addressHandle, refreshAddress, addressListener]

end FormPress.Script
