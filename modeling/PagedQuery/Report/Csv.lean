/-
# Comma-separated values

A field stands in quotes, with its quotes doubled, when it holds a comma, a quote
or a line break; every record ends with a line feed.
-/

namespace PagedQuery
namespace Report
namespace Csv

/-- Whether a character makes its field stand in quotes. -/
def needsQuotes (c : Char) : Bool :=
  c == ',' || c == '"' || c == '\n' || c == '\r'

/-- A field. -/
def field (cs : List Char) : List Char :=
  if cs.any needsQuotes then
    '"' :: (cs.flatMap (fun c => if c == '"' then ['"', '"'] else [c]) ++ ['"'])
  else cs

/-- A record. -/
def record (fields : List String) : List Char :=
  [','].intercalate (fields.map fun s => field s.toList) ++ ['\n']

/-- Records one after another. -/
def text (records : List (List String)) : List Char :=
  records.flatMap record

end Csv
end Report
end PagedQuery
