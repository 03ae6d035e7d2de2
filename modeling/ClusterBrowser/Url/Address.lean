import ClusterBrowser.Number.Decimal
import ClusterBrowser.Text.Hex
import ClusterBrowser.Text.Split

/-!
# Internet addresses

* `isIpv4`: four numbers below 256 between dots.
* `isIpv6`: eight groups of hexadecimal digits between colons, of which a run of zeros may be left out.
* `looksLikeIpv4`: a host that has to be an address of four numbers.
-/

namespace ClusterBrowser.Host

/-- A number below 256, without idle zeros. -/
def isOctet (cs : List Char) : Bool :=
  Decimal.isDigits cs && cs.length ≤ 3 && (cs = ['0'] || cs.head? != some '0') && Decimal.digitsValue cs ≤ 255

/-- Four numbers below 256 between dots. -/
def isIpv4 (cs : List Char) : Bool :=
  let octets := Text.splitAt '.' cs
  octets.length = 4 && octets.all isOctet

/-- Whether a text is runs of digits with so many single characters, of whatever kind, between them. `inRun` says whether
the run under way has a digit. -/
def isDigitRuns : (separators : Nat) → (inRun : Bool) → List Char → Bool
  | _, false, [] => false
  | separators, false, c :: rest => c.isDigit && isDigitRuns separators true rest
  | 0, true, rest => rest.all Char.isDigit
  | _ + 1, true, [] => false
  | separators + 1, true, c :: rest =>
    (c.isDigit && isDigitRuns (separators + 1) true rest) || isDigitRuns separators false rest

/-- Four runs of digits with a character between each two. A long run of digits counts too, as some of its digits may stand
for the characters between. -/
def looksLikeIpv4 (cs : List Char) : Bool := isDigitRuns 3 false cs

/-- A group of at most four hexadecimal digits. -/
def isGroup (cs : List Char) : Bool := !cs.isEmpty && cs.length ≤ 4 && cs.all fun c => (Hex.value? c).isSome

/-- The groups between colons; an address of four numbers at the end counts as two groups. -/
def addressGroups (cs : List Char) : Option (List (List Char)) :=
  let groups := Text.splitAt ':' cs
  match groups.getLast? with
  | some last =>
    if !last.contains '.' then some groups
    else if isIpv4 last then some (groups.dropLast ++ [['0'], ['0']])
    else none
  | none => none

/-- Whether the groups on one side of the gap are sound. The gap may be at the end: then the one group there is empty. -/
def isSide (groups : List (List Char)) : Bool := groups = [[]] || groups.all isGroup

/-- Eight groups of hexadecimal digits. Where two colons meet, at least one group is left out; that may happen once. -/
def isAddressOfGroups (groups : List (List Char)) : Bool :=
  let inner := (groups.drop 1).dropLast
  if inner.contains [] then
    let before := groups.take 1 ++ inner.takeWhile (· != [])
    let after := (inner.dropWhile (· != [])).drop 1 ++ groups.drop (groups.length - 1)
    let given := (before ++ after).filter (· != [])
    isSide before && isSide after && given.length < 8
  else groups.length = 8 && groups.all isGroup

/-- An address of eight groups. What follows a percent sign names a scope; it is not empty and has no further sign. -/
def isIpv6 (cs : List Char) : Bool :=
  let address := cs.takeWhile (· != '%')
  let isScoped := match cs.dropWhile (· != '%') with
    | [] => true
    | _ :: scope => !scope.isEmpty && !scope.contains '%'
  isScoped && 3 ≤ (Text.splitAt ':' address).length && (addressGroups address).any fun groups =>
    groups.length ≤ 9 && isAddressOfGroups groups

end ClusterBrowser.Host
