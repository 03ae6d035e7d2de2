import ClusterBrowser.Text.Percent
import ClusterBrowser.Text.Split

/-!
# Queries

A query writes parameters: names and values, each part encoded, with `=` between name and value and `&` between
parameters.

* `Query.encode`: the query that writes some parameters.
* `Query.decode`: the parameters that a query writes.
-/

namespace ClusterBrowser.Query

/-- A name or value as a query writes it: a plus sign stands for a space. -/
def encodePart (s : String) : List Char :=
  s.toList.flatMap fun c => if c = ' ' then ['+'] else Percent.encodeChar Percent.isUnreserved c

/-- The query that writes some parameters. -/
def encode (parameters : List (String × String)) : List Char :=
  ['&'].intercalate (parameters.map fun (name, value) => encodePart name ++ '=' :: encodePart value)

/-- The name or value that is written so. -/
def decodePart (cs : List Char) : String :=
  String.ofList (Percent.decode (cs.map fun c => if c = '+' then ' ' else c))

/-- The parameters of a query. One without an equals sign has the empty value; empty parts count for nothing. -/
def decode (query : List Char) : List (String × String) :=
  (Text.splitAt '&' query).filterMap fun part =>
    if part.isEmpty then none
    else some (decodePart (part.takeWhile (· != '=')), decodePart ((part.dropWhile (· != '=')).drop 1))

end ClusterBrowser.Query
