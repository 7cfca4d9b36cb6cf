import FormPress.Script.Code

/-!
# Conditions in the script

The part of the page's script that evaluates the markers and rules of the markup after each change:
showing and hiding, requiring, setting values, lookups and formulas.
-/

namespace FormPress.Script

def operators : List Code :=
  [block "var OPERATORS = " [
     code "equals: function (current, expected) \x7b return current === expected; \x7d,",
     code
       "not_equals: function (current, expected) \x7b return current !== expected; \x7d,",
     code ("contains: function (current, expected) \x7b return current.indexOf(expected) !== " ++
       "-1; \x7d,"),
     code ("greater_than: function (current, expected) \x7b return parseFloat(current) > " ++
       "parseFloat(expected); \x7d,"),
     code ("less_than: function (current, expected) \x7b return parseFloat(current) < " ++
       "parseFloat(expected); \x7d,"),
     code "is_empty: function (current) \x7b return current === \"\"; \x7d,",
     code "is_not_empty: function (current) \x7b return current !== \"\"; \x7d,",
     block "\"in\": function (current, expected) " [
       .block [
         ("try ", [
           code "return JSON.parse(expected).indexOf(current) !== -1;"]),
         (" catch (e) ", [
           code "return false;"])] []] []] ";"]

/-- The truth of a condition, or nothing when it names no field or no comparison. -/
def evaluate : List Code :=
  [code "// Returns null when the condition is inert (unknown field or operator).",
   function "evaluate(ref, operator, expected)" [
     code "var source = findField(ref);",
     code "var test = OPERATORS[operator];",
     code "if (!source || !test) return null;",
     code "return test(fieldValue(source), expected == null ? \"\" : String(expected));"]]

def applyFieldRules : List Code :=
  [function "applyFieldRules(group)" [
     code "var rules;",
     .block [
       ("try ", [
         code "rules = JSON.parse(group.getAttribute(\"data-conditions\"));"]),
       (" catch (e) ", [
         code "return;"])] [],
     code "var hasShow = false, shown = false, hidden = false, forced = false;",
     block "rules.forEach(function (rule) " [
       code "var match = evaluate(rule.field, rule.operator, rule.value);",
       code "if (match === null) return;",
       .block [
         ("if (rule.action === \"show\") ", [
           code "hasShow = true;",
           code "shown = shown || match;"]),
         (" else if (rule.action === \"hide\") ", [
           code "hidden = hidden || match;"]),
         (" else if (rule.action === \"require\") ", [
           code "forced = forced || match;"]),
         (" else if (rule.action === \"set_value\" && match) ", [
           code "setFieldValue(group, rule.actionValue);"])] []] ");",
     blank,
     code ("var visible = (!hasShow || shown) && !hidden && " ++
       "group.getAttribute(\"data-always-hidden\") !== \"true\";"),
     code ("var required = visible && (group.getAttribute(\"data-required\") === \"true\" || " ++
       "forced);"),
     code "if (group.hidden === visible) group.hidden = !visible;",
     code "group.setAttribute(\"data-required-now\", required ? \"true\" : \"false\");",
     block
       ("toArray(group.querySelectorAll(\"input[name], select[name], " ++
         "textarea[name]\")).forEach(function (el) ") [
       code
         "if (el.type === \"hidden\" || el.type === \"checkbox\" || el.readOnly) return;",
       code "if (el.required !== required) el.required = required;"] ");"]]

/-- Show and hide the options with conditions. -/
def applyOptionRules : List Code :=
  [function "applyOptionRules()" [
     block
       ("toArray(document.querySelectorAll(\"option[data-cond-field]\")).forEach(function " ++
         "(option) ") [
       code ("var ok = evaluate(option.getAttribute(\"data-cond-field\"), " ++
         "option.getAttribute(\"data-cond-op\"), option.getAttribute(\"data-cond-val\")) " ++
         "!== false;"),
       code "option.hidden = !ok;",
       code "option.disabled = !ok;",
       block "if (!ok && option.selected) " [
         code "var select = option.closest(\"select\");",
         .block [
           ("if (select.multiple) ", [
             code "option.selected = false;"]),
           (" else ", [
             code "select.value = \"\";"])] []] []] ");",
     block
       ("toArray(document.querySelectorAll(\"label[data-cond-field]\")).forEach(function " ++
         "(label) ") [
       code ("var ok = evaluate(label.getAttribute(\"data-cond-field\"), " ++
         "label.getAttribute(\"data-cond-op\"), label.getAttribute(\"data-cond-val\")) " ++
         "!== false;"),
       code "label.hidden = !ok;",
       code "var input = label.querySelector(\"input\");",
       block "if (input) " [
         code "input.disabled = !ok;",
         code "if (!ok && input.checked) input.checked = false;"] []] ");"]]

/-- Fill the fields that are looked up. -/
def applyLookups : List Code :=
  [function "applyLookups()" [
     block "toArray(document.querySelectorAll(\"[data-lookup-source]\")).forEach(function (el) " [
       code "var source = findField(el.getAttribute(\"data-lookup-source\"));",
       code "if (!source) return;",
       code "var table;",
       .block [
         ("try ", [
           code "table = JSON.parse(el.getAttribute(\"data-lookup-map\") || \"\x7b\x7d\");"]),
         (" catch (e) ", [
           code "table = \x7b\x7d;"])] [],
       code "var key = fieldValue(source);",
       code ("var next = Object.prototype.hasOwnProperty.call(table, key) ? " ++
         "String(table[key]) : \"\";"),
       code "if (el.value !== next) el.value = next;"] ");"]]

/-- The characters of an expression that may be computed. -/
def safeFormula : List Code :=
  [code "var FORMULA_SAFE = /^[0-9.+\\-*\\/() ]+$/;"]

/-- Fill the fields that are computed. -/
def applyFormulas : List Code :=
  [function "applyFormulas()" [
     block "toArray(document.querySelectorAll(\"[data-formula]\")).forEach(function (el) " [
       code "var missing = false;",
       block
         ("var expression = " ++
           "el.getAttribute(\"data-formula\").replace(/\\\x7b([^\x7b\x7d]+)\\\x7d/g, " ++
           "function (match, ref) ") [
         code "var source = findField(ref.trim());",
         block "if (!source) " [
           code "missing = true;",
           code "return \"0\";"] [],
         code "var number = parseFloat(fieldValue(source));",
         code "return isNaN(number) ? \"0\" : \"(\" + number + \")\";"] ");",
       code "if (missing) return;",
       code "var next = \"\";",
       block "if (FORMULA_SAFE.test(expression)) " [
         .block [
           ("try ", [
             code ("var result = Function(\"\\\"use strict\\\"; return (\" + expression + " ++
               "\");\")();"),
             code
               "next = isFinite(result) ? String(Math.round(result * 100) / 100) : \"\";"]),
           (" catch (e) ", [
             code "next = \"\";"])] []] [],
       code "if (el.value !== next) el.value = next;"] ");"]]

/-- Bring everything up to date. -/
def refreshConditions : List Code :=
  [code "// Idempotent; runs on every input and change event.",
   function "refreshConditions()" [
     code "applyLookups();",
     code "applyFormulas();",
     code
       "toArray(document.querySelectorAll(\"[data-conditions]\")).forEach(applyFieldRules);",
     code "applyOptionRules();"]]

/-- Bring everything up to date after every change. -/
def conditionListeners : List Code :=
  [code "document.addEventListener(\"input\", refreshConditions);",
   code "document.addEventListener(\"change\", refreshConditions);"]

def conditions : List Code :=
  paragraphs
    [operators, evaluate, applyFieldRules, applyOptionRules, applyLookups, safeFormula,
     applyFormulas, refreshConditions, conditionListeners]

end FormPress.Script
