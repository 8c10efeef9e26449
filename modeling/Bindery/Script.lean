import Bindery.Json.Value
import Bindery.Text.Blank
import Bindery.Text.Cut

/-!
# Bindery — Script

Scripts that run in the page.  A script is wrapped so that it yields a value, and the result of
a condition is taken as a truth value.
-/

namespace Bindery.Script

open Bindery.Text

/-- A script that yields its value: one that starts with `return` and a blank or a semicolon is
left alone, any other is taken for an expression. -/
def returning (script : String) : String :=
  let body := trim script
  if startsWith body "return " || startsWith body "return;" then body else "return " ++ body

/-- A condition that yields its value: one that starts with `return` is left alone. -/
def predicate (script : String) : String :=
  let body := trim script
  if startsWith body "return" then body else "return " ++ body

/-- Whether the result of a condition counts as true: the value true, or the word in any case
with blanks around it. -/
def resultIsTrue : Json → Bool
  | .bool b => b
  | .string s => lowerAscii (trim s) == "true"
  | _ => false

/-- Scrolls the first argument into view. -/
def scrollIntoView : String := "arguments[0].scrollIntoView(true);"

/-- Gives the first argument the second one as its style and yields the style it had. -/
def applyStyle : String :=
  "var previous = arguments[0].getAttribute('style'); " ++
    "arguments[0].setAttribute('style', arguments[1]); " ++
    "return previous;"

/-- Gives the first argument the second one as its style, or none. -/
def restoreStyle : String :=
  "if (arguments[1] === null) \x7b arguments[0].removeAttribute('style'); \x7d " ++
    "else \x7b arguments[0].setAttribute('style', arguments[1]); \x7d"

/-- Evaluates the second argument as an XPath in the first one, read as XML where it has an XML
declaration and as HTML otherwise; the third argument is the target type. -/
def xpath : String :=
  "\n" ++
  "var source = arguments[0], expression = arguments[1], target = arguments[2];\n" ++
  "var type = source.trim().indexOf('<?xml') === 0 ? 'application/xml' : 'text/html';\n" ++
  "var doc = new DOMParser().parseFromString(source, type);\n" ++
  "var serialize = function (node) \x7b\n" ++
  "  return node.nodeType === 1 ? new XMLSerializer().serializeToString(node)" ++
  " : node.textContent;\n" ++
  "\x7d;\n" ++
  "if (target === 'text') \x7b\n" ++
  "  return doc.evaluate(expression, doc, null, XPathResult.STRING_TYPE, null).stringValue;\n" ++
  "\x7d\n" ++
  "if (target === 'node') \x7b\n" ++
  "  var node = doc.evaluate(expression, doc, null," ++
  " XPathResult.FIRST_ORDERED_NODE_TYPE, null).singleNodeValue;\n" ++
  "  return node === null ? null : serialize(node);\n" ++
  "\x7d\n" ++
  "var nodes = doc.evaluate(expression, doc, null," ++
  " XPathResult.ORDERED_NODE_SNAPSHOT_TYPE, null);\n" ++
  "var out = [];\n" ++
  "for (var i = 0; i < nodes.snapshotLength; i++)" ++
  " \x7b out.push(serialize(nodes.snapshotItem(i))); \x7d\n" ++
  "return out.join('\\n');\n"

end Bindery.Script
