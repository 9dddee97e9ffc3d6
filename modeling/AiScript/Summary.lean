import AiScript.DataSet

/-!
# Summaries

What a load came to is told in a few lines: how many paths and rules there are, which rows were
rejected and what was warned of. Numbers that open a line are set to the right of ten columns. On a
terminal some words stand out; the codes that make them do so go around the columns, blanks
included.
-/

namespace AiScript

/-- How a text stands out. -/
inductive Emphasis where
  | title | faint | strong | good | caution | alarm | fault | path
deriving DecidableEq

/-- The terminal code that starts an emphasis. -/
def Emphasis.code : Emphasis → String
  | .title => "4;93" | .faint => "2" | .strong => "1" | .good => "32" | .caution => "33"
  | .alarm => "91" | .fault => "31" | .path => "4"

/-- What a summary is written on. -/
structure Page where
  /-- Do terminal codes reach a terminal? -/
  coloured : Bool

namespace Page

/-- The terminal code that ends every emphasis. -/
def plainCode : String := "\x1b[0m"

/-- Make a text stand out, if the page can. Behind a code in the text that ends every emphasis the
text stands out anew. -/
def emphasize (page : Page) (emphasis : Emphasis) (text : String) : String :=
  let start := "\x1b[" ++ emphasis.code ++ "m"
  if page.coloured then
    start ++ (plainCode ++ start).intercalate (text.splitOn plainCode) ++ plainCode
  else text

end Page

/-- Set a text to the right of ten columns. -/
def alignRight (text : String) : String := "".pushn ' ' (10 - text.length) ++ text

namespace Summary

/-- The number under which the program is known. -/
def version : String := "0.12.0"

/-- The line that opens a summary. -/
def title (page : Page) : String :=
  page.emphasize .title "SMART ENGINE" ++ " " ++ page.emphasize .faint version

/-- The line about waypoints. -/
def waypoints (page : Page) (report : WaypointReport) : String :=
  let gaps := report.gaps.length
  let shown := page.emphasize (if gaps = 0 then .good else .caution) (toString gaps)
  let paths := page.emphasize .strong (alignRight (toString report.paths))
  s!"{paths} paths, {report.points} points, {shown} gaps"

/-- The line about rules. -/
def rules (page : Page) (report : LoadReport) : String :=
  let entities := page.emphasize .strong (alignRight (toString report.entities))
  s!"{entities} entities, {report.rules} rules"

/-- The lines about rejected rows. -/
def rejections (page : Page) (rejected : List (Diagnostic Rejection)) : List String :=
  if rejected.isEmpty then [page.emphasize .good (alignRight "no rows rejected")]
  else
    let count := page.emphasize .alarm (alignRight (toString rejected.length))
    let bullet := page.emphasize .fault "x"
    s!"{count} rows rejected" :: rejected.map fun diagnostic =>
      s!"  {bullet} {diagnostic.text Rejection.text}"

/-- The lines about warnings. -/
def warnings (page : Page) (warnings : List (Diagnostic Warning)) : List String :=
  if warnings.isEmpty then []
  else
    let count := page.emphasize .caution (alignRight (toString warnings.length))
    let bullet := page.emphasize .caution "!"
    s!"{count} warnings" :: warnings.map fun diagnostic =>
      s!"  {bullet} {diagnostic.text Warning.text}"

/-- The lines about a data set. -/
def lines (page : Page) (data : DataSet) : List String :=
  title page :: waypoints page data.waypointReport :: rules page data.report
    :: rejections page data.report.rejected ++ warnings page data.report.warnings

/-- The line about a written report. -/
def written (page : Page) (path : String) : String :=
  s!"report written to {page.emphasize .path path}"

end Summary

end AiScript
