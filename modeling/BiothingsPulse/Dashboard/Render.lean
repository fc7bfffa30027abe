import BiothingsPulse.Foundation.HtmlTemplate
import BiothingsPulse.Python.Text
import Mathlib.Data.List.Lex

/-!
# The tables of the dashboard

The HTML that the script of the dashboard writes for the repositories and the sources. What
the script concatenates is kept as a template: its own markup, and the values that it puts
between, with the function that they are passed through. No element that it writes has raw
text for its content. What the browser answers, dates and the comparison of strings in its
locale among it, is a parameter; ages are exact.
-/

namespace BiothingsPulse.Dashboard

open Foundation
open Foundation.HtmlTokenizer (Piece)

/-- A source as the API answers it; the fields are texts or missing. -/
structure SourcePayload where
  repo : String
  plugin : String
  pluginType : String
  sourceUrl : Option String
  currentVersion : Option String
  currentVersionAt : Option String
  lastVersion : Option String
  lastVersionAt : Option String
  downloadUrls : Option (List String)
  status : String
  error : Option String
  schedule : Option String
  checkedAt : Option String
  nextCheckAt : Option String

/-- What the script asks of the browser. -/
structure Browser where
  /-- `Date.now()`, in milliseconds. -/
  now : Int
  /-- The time of a date in milliseconds, if the text is one. -/
  parseDate : String → Option Int
  toLocaleString : Int → String
  trim : String → String
  toLowerCase : String → String
  localeCompare : String → String → Int
  /-- The texts of the methods that every object inherits, by their names. -/
  inherited : String → Option String
  inherited_plain : ∀ name text, inherited name = some text →
    ∀ c ∈ text.toList, HtmlTokenizer.isPlain c = true

/-- A browser that reads no dates, knows no case and finds all texts equal. -/
instance : Inhabited Browser where
  default.now := 0
  default.parseDate _ := none
  default.toLocaleString _ := ""
  default.trim text := text
  default.toLowerCase text := text
  default.localeCompare _ _ := 0
  default.inherited _ := none
  default.inherited_plain _ _ known := nomatch known

/-- The data of the dashboard and the state of its controls. -/
structure View where
  data : List SourcePayload
  hiddenRepos : List String
  filter : String
  onlyChanged : Bool

section Escaping

def escapeChar (c : Char) : List Char :=
  if c = '&' then "&amp;".toList
  else if c = '<' then "&lt;".toList
  else if c = '>' then "&gt;".toList
  else if c = '"' then "&quot;".toList
  else [c]

def esc (x : String) : List Char := x.toList.flatMap escapeChar

/-- The characters that `encodeURIComponent` leaves as they are. -/
def isUriUnreserved (c : Char) : Bool := c.isAlphanum || "-_.!~*'()".toList.contains c

def hexDigit (n : ℕ) : Char := Char.ofNat (if n < 10 then 48 + n else 55 + n)

def percentEncoded (byte : UInt8) : List Char :=
  ['%', hexDigit (byte.toNat / 16), hexDigit (byte.toNat % 16)]

def encodeURIComponent (x : String) : List Char :=
  x.toList.flatMap fun c =>
    if isUriUnreserved c then [c] else (String.utf8EncodeChar c).flatMap percentEncoded

/-- A value in the HTML: a text that is passed through `esc` or through `encodeURIComponent`,
or one that the script has made of the payload and writes as it is. -/
inductive Payload where
  | escaped (payload : String)
  | component (payload : String)
  | raw (text : String)

def Payload.text : Payload → List Char
  | .escaped payload => esc payload
  | .component payload => encodeURIComponent payload
  | .raw text => text.toList

abbrev Html : Type := List (Piece Payload)

def escaped (payload : String) : Piece Payload := .value (.escaped payload)

def component (payload : String) : Piece Payload := .value (.component payload)

def raw (text : String) : Piece Payload := .value (.raw text)

def Html.text (html : Html) : List Char := HtmlTokenizer.written Payload.text html

end Escaping

/-- The value where it counts as true. -/
def truthy (value : Option String) : Option String := value.filter fun text => text ≠ ""

section Icons

def calSvg : Html :=
  [.markup "<svg class=\"cal\" viewBox=\"0 0 24 24\" fill=\"none\" stroke=\"currentColor\"",
    .markup " stroke-width=\"1.7\"><rect x=\"3\" y=\"4\" width=\"18\" height=\"18\" rx=\"2\"/>",
    .markup "<path d=\"M16 2v4M8 2v4M3 10h18\"/></svg>"]

def codeSvg : Html :=
  [.markup "<svg viewBox=\"0 0 24 24\" fill=\"none\" stroke=\"currentColor\"",
    .markup " stroke-width=\"1.9\" stroke-linecap=\"round\" stroke-linejoin=\"round\">",
    .markup "<path d=\"M16 18l6-6-6-6M8 6l-6 6 6 6\"/></svg>"]

def manifestSvg : Html :=
  [.markup "<svg viewBox=\"0 0 24 24\" fill=\"none\" stroke=\"currentColor\"",
    .markup " stroke-width=\"1.8\" stroke-linecap=\"round\" stroke-linejoin=\"round\">",
    .markup "<path d=\"M14 2H6a2 2 0 0 0-2 2v16a2 2 0 0 0 2 2h12a2 2 0 0 0 2-2V8z\"/>",
    .markup "<path d=\"M14 2v6h6M8 13h8M8 17h8M8 9h2\"/></svg>"]

def advancedSvg : Html :=
  [.markup "<svg viewBox=\"0 0 24 24\" fill=\"none\" stroke=\"currentColor\"",
    .markup " stroke-width=\"1.8\" stroke-linecap=\"round\" stroke-linejoin=\"round\">",
    .markup "<polyline points=\"4 17 10 11 4 5\"/>",
    .markup "<line x1=\"12\" y1=\"19\" x2=\"20\" y2=\"19\"/></svg>"]

def recheckSvg : Html :=
  [.markup "<svg viewBox=\"0 0 24 24\" fill=\"none\" stroke=\"currentColor\"",
    .markup " stroke-width=\"1.9\" stroke-linecap=\"round\" stroke-linejoin=\"round\">",
    .markup "<polyline points=\"23 4 23 10 17 10\"/>",
    .markup "<path d=\"M20.49 15a9 9 0 1 1-2.12-9.36L23 10\"/></svg>"]

def typeIcon (t : String) : Html := if t = "advanced" then advancedSvg else manifestSvg

end Icons

section Times

variable (browser : Browser)

/-- How long ago something was, from the milliseconds since. -/
def ago (elapsed : Int) : String :=
  match [(86400, "d"), (3600, "h"), (60, "m")].find? fun (sec, _) => sec * 1000 ≤ elapsed with
  | some (sec, l) => toString (elapsed / (sec * 1000)).toNat ++ l ++ " ago"
  | none => toString (elapsed / 1000).toNat ++ "s ago"

def timeAgo (iso : Option String) : Html :=
  match truthy iso with
  | none => [.markup "<span class=\"faint\">never</span>"]
  | some iso =>
      match browser.parseDate iso with
      | none => [.markup "<span class=\"faint\">—</span>"]
      | some t => [raw (ago (browser.now - t))]

def agoText (iso : Option String) : String :=
  match (truthy iso).bind browser.parseDate with
  | none => ""
  | some t => ago (browser.now - t)

def fmtLocal (iso : Option String) : String :=
  match (truthy iso).bind browser.parseDate with
  | none => "—"
  | some t => browser.toLocaleString t

/-- Within the window of seven days. -/
def isRecent (iso : Option String) : Bool :=
  match (truthy iso).bind browser.parseDate with
  | none => false
  | some t => browser.now - t < 7 * 86400 * 1000

/-- A real version transition, observed within the window. -/
def isChanged (d : SourcePayload) : Bool :=
  (truthy d.lastVersion).isSome && isRecent browser d.currentVersionAt

def scheduleTip (d : SourcePayload) : String :=
  let sched :=
    match truthy d.schedule with
    | some schedule => "schedule: " ++ schedule ++ "  (plugin cron)"
    | none => "schedule: Pulse default interval"
  "\n".intercalate ["last checked: " ++ fmtLocal browser d.checkedAt, sched,
    "next check:   " ++ fmtLocal browser d.nextCheckAt]

end Times

def ver (v : Option String) : Html :=
  match truthy v with
  | some v =>
      [.markup "<span class=\"mono vtrunc\" title=\"", escaped v, .markup "\">", escaped v,
        .markup "</span>"]
  | none => [.markup "<span class=\"faint\">—</span>"]

section Repos

variable (browser : Browser) (view : View)

/-- The code units by which strings are sorted. -/
def utf16Units (text : String) : List ℕ :=
  text.toList.flatMap fun c =>
    if c.toNat < 0x10000 then [c.toNat]
    else [0xD800 + (c.toNat - 0x10000) / 0x400, 0xDC00 + (c.toNat - 0x10000) % 0x400]

/-- The keys of the counts, which take no property of the name `__proto__`. -/
def repos : List String :=
  (((view.data.map SourcePayload.repo).eraseDups).filter fun r => r ≠ "__proto__").mergeSort
    fun first second => utf16Units first ≤ utf16Units second

/-- The count of a repository; counting on from a method appends to its text. -/
def countText (r : String) : String :=
  let count := view.data.countP fun d => d.repo = r
  match browser.inherited r with
  | some text => text ++ String.ofList (List.replicate count '1')
  | none => toString count

def repoChip (r : String) : Html :=
  [.markup "<button class=\"repo-chip ", .markup (if r ∈ view.hiddenRepos then "off" else ""),
    .markup "\" data-repo=\"", escaped r, .markup "\"", .markup " title=\"Toggle ", escaped r,
    .markup " sources\">", escaped r, .markup "<span class=\"cnt\">",
    raw (countText browser view r), .markup "</span></button>"]

/-- The inner HTML of the repositories. -/
def renderRepos : Html :=
  if repos view = [] then []
  else
    [.markup "<button class=\"repo-ctl\" data-repos-action=\"all\">select all</button>",
      .markup "<button class=\"repo-ctl\" data-repos-action=\"none\">deselect all</button>"] ++
      (repos view).flatMap (repoChip browser view)

end Repos

section Rows

variable (browser : Browser) (view : View)

/-- Changed sources first, then errors, and unsupported ones last. -/
def rank (d : SourcePayload) : ℕ :=
  if isChanged browser d then 0
  else if d.status = "error" then 1
  else if d.status = "unsupported" then 3
  else 2

/-- Whether the controls let the source through. -/
def isShown (d : SourcePayload) : Bool :=
  let q := browser.toLowerCase (browser.trim view.filter)
  !view.hiddenRepos.contains d.repo && (!view.onlyChanged || isChanged browser d) &&
    (q = "" || q.toList <:+: (browser.toLowerCase (d.repo ++ "/" ++ d.plugin)).toList)

/-- By rank, and by name in the order of the locale. -/
def comesBefore (a b : SourcePayload) : Bool :=
  rank browser a < rank browser b ||
    rank browser a = rank browser b &&
      browser.localeCompare (a.repo ++ a.plugin) (b.repo ++ b.plugin) ≤ 0

def rows : List SourcePayload :=
  (view.data.filter (isShown browser view)).mergeSort (comesBefore browser)

def urlCell (d : SourcePayload) : Html :=
  match d.downloadUrls.getD [] with
  | [] => [.markup "<span class=\"faint\">0</span>"]
  | urls =>
      [.markup "<span class=\"mono\" title=\"", escaped ("\n".intercalate urls),
        .markup "\" style=\"cursor:help\">", raw (toString urls.length), .markup "</span>"]

def errCell (d : SourcePayload) : Html :=
  match truthy d.error with
  | some error =>
      [.markup "<div class=\"err-msg\" title=\"", escaped error, .markup "\">", escaped error,
        .markup "</div>"]
  | none => []

def jsonUrl (d : SourcePayload) : Html :=
  [.markup "/api/sources/", component d.repo, .markup "/", component d.plugin]

def curSeen (d : SourcePayload) : Html :=
  match truthy d.currentVersionAt with
  | some seen =>
      [.markup "<div class=\"sub\">first seen ", raw (agoText browser (some seen)),
        .markup "</div>"]
  | none => []

def prevCell (d : SourcePayload) : Html :=
  match truthy d.lastVersion with
  | some version =>
      ver (some version) ++
        [.markup "<div class=\"sub\">", raw (agoText browser d.lastVersionAt), .markup "</div>"]
  | none => [.markup "<span class=\"faint\">—</span>"]

/-- The link to the source's code. -/
def sourceLink (d : SourcePayload) : Html :=
  match truthy d.sourceUrl with
  | some sourceUrl =>
      [.markup "<a href=\"", escaped sourceUrl,
        .markup "\" target=\"_blank\" rel=\"noopener\" title=\"View source code\">"] ++
        codeSvg ++ [.markup "</a>"]
  | none => []

def recheckButton (d : SourcePayload) : Html :=
  [.markup "<button class=\"admin-only\" data-act=\"check\" data-repo=\"", escaped d.repo,
    .markup "\" data-plugin=\"", escaped d.plugin,
    .markup "\" title=\"Re-check now (admin)\">"] ++ recheckSvg ++ [.markup "</button>"]

def sourceCell (d : SourcePayload) : Html :=
  [.markup "<td class=\"src\"><div class=\"src-inner\">\n        ",
    .markup "<a class=\"src-link\" href=\""] ++ jsonUrl d ++
    [.markup "\" target=\"_blank\" rel=\"noopener\" title=\"View this source's JSON\">",
      .markup "<span class=\"repo\">", escaped d.repo, .markup "/</span>", escaped d.plugin,
      .markup "</a>\n        <span class=\"src-icons\">\n          ",
      .markup "<span class=\"type-ic\" title=\"", escaped d.pluginType, .markup " plugin\">"] ++
    typeIcon d.pluginType ++ [.markup "</span>\n          "] ++
    sourceLink d ++ [.markup "\n          "] ++
    recheckButton d ++ [.markup "\n        </span>\n      </div></td>"]

def statusCell (d : SourcePayload) : Html :=
  [.markup "<td><span class=\"st\"><span class=\"dot d-", escaped d.status,
    .markup "\"></span>", escaped d.status, .markup "</span>"] ++ errCell d ++ [.markup "</td>"]

def versionCell (d : SourcePayload) : Html :=
  [.markup "<td>"] ++ ver d.currentVersion ++
    [.markup " ", .markup (if isChanged browser d then "<span class=\"upd\">NEW</span>" else "")] ++
    curSeen browser d ++ [.markup "</td>"]

def checkedCell (d : SourcePayload) : Html :=
  [.markup "<td class=\"faint mono chk-cell\" title=\"", escaped (scheduleTip browser d),
    .markup "\">"] ++ timeAgo browser d.checkedAt ++ calSvg ++ [.markup "</td>"]

def rowHtml (d : SourcePayload) : Html :=
  [.markup "<tr class=\"", .markup (if isChanged browser d then "changed" else ""),
    .markup "\">\n      "] ++
    sourceCell d ++ [.markup "\n      "] ++
    statusCell d ++ [.markup "\n      "] ++
    versionCell browser d ++ [.markup "\n      <td>"] ++
    prevCell browser d ++ [.markup "</td>\n      <td>"] ++
    urlCell d ++ [.markup "</td>\n      "] ++
    checkedCell browser d ++ [.markup "\n    </tr>"]

def emptyText : String :=
  if view.data = [] then "No sources discovered yet — click <b>Sync repos</b>."
  else "No sources match the filter."

/-- The inner HTML of the rows. -/
def renderRows : Html :=
  if rows browser view = [] then
    [.markup "<tr><td colspan=\"6\" class=\"empty\">", .markup (emptyText view),
      .markup "</td></tr>"]
  else (rows browser view).flatMap (rowHtml browser)

end Rows

end BiothingsPulse.Dashboard
