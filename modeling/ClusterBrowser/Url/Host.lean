import ClusterBrowser.DomainName.Basic
import ClusterBrowser.Text.Case
import ClusterBrowser.Text.Percent
import ClusterBrowser.Url.Address

/-!
# Hosts of URLs

A host is an internet address or a domain name.

* `Host.encode?`: the host that a text spells, as requests need it.
* `Host.shown`: the host as it is shown.
-/

namespace ClusterBrowser.Host

/-- Characters of a name that stay as they are. -/
def staysInName (c : Char) : Bool := Percent.isUnreserved c || "!$&'()*+,;=\"`\x7b\x7d%|\\".toList.contains c

/-- The text between brackets at the ends. -/
def bracketed? (cs : List Char) : Option (List Char) :=
  match cs with
  | '[' :: rest => if rest.getLast? = some ']' then some rest.dropLast else none
  | _ => none

/-- The host that a text spells. Addresses stay as they are, without brackets; names in ASCII are in lower case; other names
get their form in ASCII. -/
def encode? (cs : List Char) : Option (List Char) :=
  if cs.isEmpty then some []
  else if looksLikeIpv4 cs then (if isIpv4 cs then some cs else none)
  else match bracketed? cs with
    | some address => if isIpv6 address then some address else none
    | none =>
      if cs.all Punycode.isBasic then some (Percent.encodeBy staysInName (Text.lowerAscii cs))
      else (DomainName.encode (Text.lower cs)).toOption

/-- Whether the first label of a host is the ASCII form of other letters. -/
def isEncoded (host : List Char) : Bool := DomainName.encodingMark.isPrefixOf host

/-- The host with its letters in place of their form in ASCII. Only a host that begins with such a form is looked at. -/
def shown (host : List Char) : Except DomainError (List Char) :=
  if isEncoded host then DomainName.decode host else .ok host

/-- A host in front of a port: one with colons is set in brackets. -/
def written (host : List Char) : List Char := if host.contains ':' then '[' :: host ++ [']'] else host

end ClusterBrowser.Host
