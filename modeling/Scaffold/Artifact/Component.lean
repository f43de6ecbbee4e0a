import Scaffold.Artifact.Names
import Scaffold.Schema.Mapping
import Scaffold.Text.Quoted
/-!
# Artifact.Component — the listing component

A component lists the rows, with a form for entering and changing them if an operation needs one.  It is put together
from sections of lines; texts that users chose stand only inside double-quoted literals, one line for each column and
each initial value, three for each control.
-/
namespace Scaffold
namespace Field

def listingLine (f : Field) : String :=
  "  \x7b name: " ++ quoted f.name ++ ", label: " ++ quoted f.caption ++
    ", widget: \"" ++ f.type.mapping.widget.name ++ "\" \x7d,"

def initialValue (f : Field) : Except DefaultError String :=
  if f.type = .boolean then
    match f.coerced with
    | .error e => .error e
    | .ok (some (.flag true)) => .ok "true"
    | .ok _ => .ok "false"
  else .ok (quoted (f.default?.getD ""))

def formEntry (f : Field) : Except DefaultError String :=
  f.initialValue.map (fun v => "  " ++ quoted f.name ++ ": " ++ v ++ ",")

def controlLine (f : Field) : String :=
  let name := quoted f.name
  let required := if f.required then " required" else ""
  match f.type.mapping.widget with
  | .checkbox =>
    "          <input type=\"checkbox\" name=" ++ name ++
      " checked=\x7bform[" ++ name ++ "]\x7d onChange=\x7bhandleChange\x7d />"
  | .textarea =>
    "          <textarea name=" ++ name ++
      " value=\x7bform[" ++ name ++ "]\x7d onChange=\x7bhandleChange\x7d" ++ required ++ " />"
  | _ =>
    "          <input type=\"" ++ f.type.mapping.inputType ++ "\" name=" ++ name ++ " value=\x7bform[" ++ name ++
      "]\x7d onChange=\x7bhandleChange\x7d" ++ required ++ " />"

def widgetLines (f : Field) : List String :=
  ["        <label>\x7b" ++ quoted f.caption ++ "\x7d", f.controlLine, "        </label>"]

end Field

namespace Operations

def hasForm (ops : Operations) : Bool := ops.create || ops.update

def hasRowActions (ops : Operations) : Bool := ops.update || ops.delete

end Operations

namespace Component

def only (b : Bool) (l : List String) : List String := if b then l else []

def payloadLines (numeric : List String) : List String :=
  ["const NUMBER_FIELDS = [" ++ ", ".intercalate numeric ++ "];",
   "",
   "function toPayload(form) \x7b",
   "  const payload = \x7b\x7d;",
   "  for (const [key, value] of Object.entries(form)) \x7b",
   "    if (value === \"\") continue;",
   "    payload[key] = NUMBER_FIELDS.includes(key) ? Number(value) : value;",
   "  \x7d",
   "  return payload;",
   "\x7d",
   ""]

def formatLines : List String :=
  ["function formatValue(value) \x7b",
   "  if (value === null || value === undefined) return \"\";",
   "  if (typeof value === \"boolean\") return value ? \"Yes\" : \"No\";",
   "  return String(value);",
   "\x7d",
   ""]

def loadLines : List String :=
  ["  async function load() \x7b",
   "    try \x7b",
   "      const response = await fetch(API_URL);",
   "      if (!response.ok) throw new Error(`Request failed: $\x7bresponse.status\x7d`);",
   "      setItems(await response.json());",
   "    \x7d catch (err) \x7b",
   "      setError(err.message);",
   "    \x7d",
   "  \x7d",
   "",
   "  useEffect(() => \x7b",
   "    load();",
   "  \x7d, []);",
   ""]

/-- Where a filled form is sent, and how: to the row that is being changed, or to the collection. -/
def targetLines (ops : Operations) : List String :=
  if ops.update && ops.create then
    ["    const url = editingId === null ? API_URL : `$\x7bAPI_URL\x7d/$\x7beditingId\x7d`;",
     "    const method = editingId === null ? \"POST\" : \"PUT\";"]
  else if ops.update then
    ["    if (editingId === null) return;",
     "    const url = `$\x7bAPI_URL\x7d/$\x7beditingId\x7d`;",
     "    const method = \"PUT\";"]
  else
    ["    const url = API_URL;",
     "    const method = \"POST\";"]

/-- What becomes of the row that came back. -/
def savedLines (ops : Operations) : List String :=
  if ops.update && ops.create then
    ["    setItems((prev) =>",
     "      editingId === null ? [...prev, saved] : prev.map((item) => (item.id === saved.id ? saved : item))",
     "    );"]
  else if ops.update then
    ["    setItems((prev) => prev.map((item) => (item.id === saved.id ? saved : item)));"]
  else
    ["    setItems((prev) => [...prev, saved]);"]

def submitLines (ops : Operations) : List String :=
  ["  function handleChange(event) \x7b",
   "    const \x7b name, type, value, checked \x7d = event.target;",
   "    setForm((prev) => (\x7b ...prev, [name]: type === \"checkbox\" ? checked : value \x7d));",
   "  \x7d",
   "",
   "  async function handleSubmit(event) \x7b",
   "    event.preventDefault();"] ++
  targetLines ops ++
  ["    const response = await fetch(url, \x7b",
   "      method,",
   "      headers: \x7b \"Content-Type\": \"application/json\" \x7d,",
   "      body: JSON.stringify(toPayload(form)),",
   "    \x7d);",
   "    if (!response.ok) \x7b",
   "      setError(`Save failed: $\x7bresponse.status\x7d`);",
   "      return;",
   "    \x7d",
   "    const saved = await response.json();"] ++
  savedLines ops ++
  only ops.update ["    setEditingId(null);"] ++
  ["    setForm(EMPTY_FORM);",
   "  \x7d",
   ""]

def editLines : List String :=
  ["  function startEdit(item) \x7b",
   "    const next = \x7b ...EMPTY_FORM \x7d;",
   "    for (const key of Object.keys(EMPTY_FORM)) \x7b",
   "      next[key] = item[key] ?? EMPTY_FORM[key];",
   "    \x7d",
   "    setEditingId(item.id);",
   "    setForm(next);",
   "  \x7d",
   ""]

def deleteLines : List String :=
  ["  async function handleDelete(id) \x7b",
   "    const response = await fetch(`$\x7bAPI_URL\x7d/$\x7bid\x7d`, \x7b method: \"DELETE\" \x7d);",
   "    if (!response.ok) \x7b",
   "      setError(`Delete failed: $\x7bresponse.status\x7d`);",
   "      return;",
   "    \x7d",
   "    setItems((prev) => prev.filter((item) => item.id !== id));",
   "  \x7d",
   ""]

def stateLines (ops : Operations) : List String :=
  ["  const [items, setItems] = useState([]);",
   "  const [error, setError] = useState(null);"] ++
  only ops.hasForm ["  const [form, setForm] = useState(EMPTY_FORM);"] ++
  only ops.update ["  const [editingId, setEditingId] = useState(null);"] ++
  [""]

def editControl : List String :=
  ["                <button type=\"button\" data-action=\"update\" onClick=\x7b() => startEdit(item)\x7d>",
   "                  Edit",
   "                </button>"]

def deleteControl : List String :=
  ["                <button type=\"button\" data-action=\"delete\" onClick=\x7b() => handleDelete(item." ++
     Schema.identityName ++ ")\x7d>",
   "                  Delete",
   "                </button>"]

def tableLines (ops : Operations) : List String :=
  ["      <table>",
   "        <thead>",
   "          <tr>",
   "            \x7bCOLUMNS.map((column) => (",
   "              <th key=\x7bcolumn.name\x7d>\x7bcolumn.label\x7d</th>",
   "            ))\x7d"] ++
  only ops.hasRowActions ["            <th>Actions</th>"] ++
  ["          </tr>",
   "        </thead>",
   "        <tbody>",
   "          \x7bitems.map((item) => (",
   "            <tr key=\x7bitem." ++ Schema.identityName ++ "\x7d>",
   "              \x7bCOLUMNS.map((column) => (",
   "                <td key=\x7bcolumn.name\x7d>\x7bformatValue(item[column.name])\x7d</td>",
   "              ))\x7d"] ++
  only ops.hasRowActions
    (["              <td>"] ++ only ops.update editControl ++ only ops.delete deleteControl ++
     ["              </td>"]) ++
  ["            </tr>",
   "          ))\x7d",
   "        </tbody>",
   "      </table>"]

def submitControl (ops : Operations) : List String :=
  if ops.create && ops.update then
    ["        <button type=\"submit\" data-action=\x7beditingId === null ? \"create\" : \"save\"\x7d>",
     "          \x7beditingId === null ? \"Create\" : \"Save\"\x7d",
     "        </button>"]
  else if ops.create then
    ["        <button type=\"submit\" data-action=\"create\">",
     "          Create",
     "        </button>"]
  else
    ["        <button type=\"submit\" data-action=\"save\">",
     "          Save",
     "        </button>"]

/-- The form around its controls; without creation it shows only while a row is being changed. -/
def formLines (ops : Operations) (controls : List String) : List String :=
  only (!ops.create) ["      \x7beditingId !== null && ("] ++
  ["      <form onSubmit=\x7bhandleSubmit\x7d>"] ++ controls ++ submitControl ops ++ ["      </form>"] ++
  only (!ops.create) ["      )\x7d"]

end Component

namespace Schema

open Component

def numericNames (s : Schema) : List String :=
  (s.dataFields.filter (fun f => f.type = .number)).map (fun f => quoted f.name)

/-- **The lines of the component**, around the entries of the empty form. -/
def componentLines (s : Schema) (entries : List String) : List String :=
  let ops := s.operations
  ["import \x7b useEffect, useState \x7d from \"react\";",
   "",
   "const API_URL = \"/" ++ s.pathSegment ++ "\";",
   "",
   "const COLUMNS = ["] ++
  s.fields.map Field.listingLine ++
  ["];",
   ""] ++
  only ops.hasForm (["const EMPTY_FORM = \x7b"] ++ entries ++ ["\x7d;", ""] ++ payloadLines s.numericNames) ++
  formatLines ++
  ["export default function " ++ s.className ++ "List() \x7b"] ++
  stateLines ops ++
  only ops.read loadLines ++
  only ops.hasForm (submitLines ops) ++
  only ops.update editLines ++
  only ops.delete deleteLines ++
  ["  return (",
   "    <div className=\"" ++ s.pathSegment ++ "-list\">",
   "      <h2>\x7b" ++ quoted s.className ++ "\x7d</h2>",
   "      \x7berror && <p className=\"error\">\x7berror\x7d</p>\x7d"] ++
  tableLines ops ++
  only ops.hasForm (formLines ops (s.dataFields.flatMap Field.widgetLines)) ++
  ["    </div>",
   "  );",
   "\x7d"]

/-- The entries of the empty form, in declared order; none are looked at if there is no form. -/
def formEntries (s : Schema) : Except DefaultError (List String) :=
  if s.operations.hasForm then s.dataFields.mapM Field.formEntry else .ok []

/-- **The listing component of the entity.** -/
def component (s : Schema) : Except DefaultError String :=
  s.formEntries.map (fun entries => "\n".intercalate (s.componentLines entries) ++ "\n")

end Schema
end Scaffold
