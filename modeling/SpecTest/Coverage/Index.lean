import SpecTest.Coverage.Table
import SpecTest.Markup.Escape

/-!
The page that lists all files with their coverage.
-/

namespace SpecTest.Coverage

open SpecTest.Markup

def cellStyle : String := "border: 1px solid lightgray; padding: 10px"

def cell (tag content : String) : String :=
  "        <" ++ tag ++ attr "style" cellStyle ++ ">" ++ content ++ "</" ++ tag ++ ">\n"

def tableRow (cells : List String) : String :=
  "      <tr>\n" ++ String.join cells ++ "      </tr>\n"

def FileStats.row (s : FileStats) : String :=
  tableRow [
    cell "td" ("<a" ++ attr "href" s.pageName ++ ">" ++ escape s.fileName ++ "</a>"),
    cell "td" (toString s.covered),
    cell "td" (toString s.total),
    cell "td" (percentText s.percent)]

def CoverageSummary.line (s : CoverageSummary) : String :=
  "    <p>Overall " ++ toString s.covered ++ " of " ++ toString s.total ++
    " locations were hit: <b>" ++ percentText s.percent ++ "</b></p>\n"

def CoverageSummary.index (s : CoverageSummary) : String :=
  "<html data-theme=\"vdm\">\n" ++
  "  <head>\n" ++
  "    <meta charset=\"UTF-8\"/>\n" ++
  "    <title>Coverage statistics</title>\n" ++
  "  </head>\n" ++
  "  <body>\n" ++
  "    <h1>Coverage statistics</h1>\n" ++
  "    <h2>Overall coverage</h2>\n" ++
  s.line ++
  "    <h2>Breakdown by module</h2>\n" ++
  "    <table>\n" ++
  tableRow (["File", "Covered locations", "Total locations", "%"].map (cell "th")) ++
  String.join (s.files.map (·.row)) ++
  "    </table>\n" ++
  "  </body>\n" ++
  "</html>\n"

def indexFileName : String := "report.html"

end SpecTest.Coverage
