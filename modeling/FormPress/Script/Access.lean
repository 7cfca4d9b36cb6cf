import FormPress.Field.View
import FormPress.Script.Code

/-!
# Fields in the script

The part of the page's script by which all other parts reach fields: finding them, reading and
setting their values, and checking them.
-/

namespace FormPress.Script

def texts (ts : List String) : Json :=
  .array (ts.map .string)

/-- The form, and the names that are never submitted. -/
def formHandles (internalNames : List String) : List Code :=
  [code "var form = document.getElementById(\"generated-form\");",
   .line [.code "var internalNames = ", .value (texts internalNames), .code ";"]]

/-- Whether a name is never submitted. -/
def isInternal : List Code :=
  [function "isInternal(name)" [
     code "return internalNames.indexOf(name) !== -1;"]]

/-- Collections of the page as arrays. -/
def toArray : List Code :=
  [function "toArray(list)" [
     code "return Array.prototype.slice.call(list);"]]

/-- The element of a field: by id, else by wire name. -/
def findField : List Code :=
  [code "// Resolve a field reference by id, then by wire name.",
   function "findField(ref)" [
     code "if (!ref) return null;",
     code "var nodes = toArray(document.querySelectorAll(\"[data-field-id]\"));",
     block "for (var i = 0; i < nodes.length; i++) " [
       code "if (nodes[i].getAttribute(\"data-field-id\") === ref) return nodes[i];"] [],
     block "for (var j = 0; j < nodes.length; j++) " [
       code "if (nodes[j].getAttribute(\"data-field-name\") === ref) return nodes[j];"] [],
     code "return null;"]]

def controlsOf : List Code :=
  [function "controlsOf(node)" [
     code "if (node.matches(\"input, select, textarea\")) return [node];",
     block
       ("return toArray(node.querySelectorAll(\"input[name], select[name], " ++
         "textarea[name]\")).filter(function (el) ") [
       code "return !isInternal(el.name);"] ");"]]

def controlValues : List Code :=
  [function "controlValues(el)" [
     code ("if (el.type === \"radio\" || el.type === \"checkbox\") return el.checked ? " ++
       "[el.value] : [];"),
     code ("if (el.type === \"file\") return toArray(el.files || []).map(function (file) " ++
       "\x7b return file.name; \x7d);"),
     block "if (el.tagName === \"SELECT\" && el.multiple) " [
       code ("return toArray(el.selectedOptions).map(function (option) \x7b return " ++
         "option.value; \x7d);")] [],
     code "return el.value === \"\" ? [] : [el.value];"]]

/-- The value of a field, several values in one text. -/
def fieldValue : List Code :=
  [function "fieldValue(node)" [
     code "var values = [];",
     block "controlsOf(node).forEach(function (el) " [
       code "values = values.concat(controlValues(el));"] ");",
     .line [.code "return values.join(", quoted valueSeparator, .code ");"]]]

def setFieldValue : List Code :=
  [function "setFieldValue(node, value)" [
     code "var next = value == null ? \"\" : String(value);",
     block "controlsOf(node).forEach(function (el) " [
       .block [
         ("if (el.type === \"radio\" || el.type === \"checkbox\") ", [
           code "var checked = el.value === next;",
           code "if (el.checked !== checked) el.checked = checked;"]),
         (" else if (el.type !== \"file\" && el.value !== next) ", [
           code "el.value = next;"])] []] ");"]]

/-- Whether an element can be seen. -/
def isShown : List Code :=
  [function "isShown(el)" [
     code "return !el.closest(\"[hidden]\");"]]

/-- Whether a field is required at present. -/
def isRequiredNow : List Code :=
  [function "isRequiredNow(group)" [
     code ("if (group.hasAttribute(\"data-required-now\")) return " ++
       "group.getAttribute(\"data-required-now\") === \"true\";"),
     code "return group.getAttribute(\"data-required\") === \"true\";"]]

/-- Mark a field as faulty. -/
def markError : List Code :=
  [function "markError(group, invalid)" [
     code "if (group) group.classList.toggle(\"has-error\", invalid);"]]

/-- Check the controls of a part of the page. -/
def validateScope : List Code :=
  [code "// Native constraint validation plus the widgets the browser cannot check.",
   function "validateScope(scope)" [
     code "var valid = true;",
     block "toArray(scope.querySelectorAll(\"input, select, textarea\")).forEach(function (el) " [
       code "if (!isShown(el) || el.type === \"hidden\" || el.disabled) return;",
       block "if (!el.checkValidity()) " [
         code "if (valid) el.reportValidity();",
         code "valid = false;"] []] ");",
     block "toArray(scope.querySelectorAll(\"[data-widget-required]\")).forEach(function (el) " [
       code "var group = el.closest(\"[data-field-id]\");",
       code "var invalid = isShown(el) && el.value === \"\";",
       code "markError(group, invalid);",
       code "if (invalid) valid = false;"] ");",
     block "toArray(scope.querySelectorAll(\".checkbox-group\")).forEach(function (box) " [
       code "var group = box.closest(\"[data-field-id]\");",
       code "if (!group || !isShown(group) || !isRequiredNow(group)) return;",
       code "var invalid = !box.querySelector(\"input:checked\");",
       code "markError(group, invalid);",
       code "if (invalid) valid = false;"] ");",
     code "return valid;"]]

/-- The first part of the script. -/
def access (internalNames : List String) : List Code :=
  paragraphs
    [formHandles internalNames, isInternal, toArray, findField, controlsOf, controlValues,
     fieldValue, setFieldValue, isShown, isRequiredNow, markError, validateScope]

end FormPress.Script
