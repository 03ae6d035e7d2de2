import ClusterBrowser.Metadata
import ClusterBrowser.Json.Reader
import ClusterBrowser.Json.Report
import ClusterBrowser.Text.Utf8

/-!
# Requests and replies

* `HttpRequest`, `Reply`: what goes to a master and what comes back.
* `Transport`: whatever carries them; its state is its own.
* `reasonPhrase`: the usual words for a status.
* `Reply.explanation`: the message in a reply that reports an error.
-/

namespace ClusterBrowser

structure HttpRequest where
  method : String := "GET"
  /-- Host and port. -/
  authority : String
  path : String
  parameters : List (String × String) := []
  deriving DecidableEq, Repr

structure Reply where
  status : Nat := 200
  body : Bytes := []
  deriving DecidableEq, Repr

/-- Carries a request and brings the reply, or the message of what went wrong on the way. -/
abbrev Transport (τ : Type) := HttpRequest → τ → Except String Reply × τ

/-! ## Words for a status -/

/-- The registered statuses with their words. -/
def reasonPhrases : List (Nat × String) := [
  (100, "Continue"), (101, "Switching Protocols"), (102, "Processing"), (103, "Early Hints"),
  (200, "OK"), (201, "Created"), (202, "Accepted"), (203, "Non-Authoritative Information"), (204, "No Content"),
  (205, "Reset Content"), (206, "Partial Content"), (207, "Multi-Status"), (208, "Already Reported"), (226, "IM Used"),
  (300, "Multiple Choices"), (301, "Moved Permanently"), (302, "Found"), (303, "See Other"), (304, "Not Modified"),
  (305, "Use Proxy"), (307, "Temporary Redirect"), (308, "Permanent Redirect"),
  (400, "Bad Request"), (401, "Unauthorized"), (402, "Payment Required"), (403, "Forbidden"), (404, "Not Found"),
  (405, "Method Not Allowed"), (406, "Not Acceptable"), (407, "Proxy Authentication Required"),
  (408, "Request Timeout"), (409, "Conflict"), (410, "Gone"), (411, "Length Required"), (412, "Precondition Failed"),
  (413, "Request Entity Too Large"), (414, "Request-URI Too Long"), (415, "Unsupported Media Type"),
  (416, "Requested Range Not Satisfiable"), (417, "Expectation Failed"), (418, "I'm a teapot"),
  (421, "Misdirected Request"), (422, "Unprocessable Entity"), (423, "Locked"), (424, "Failed Dependency"),
  (425, "Too Early"), (426, "Upgrade Required"), (428, "Precondition Required"), (429, "Too Many Requests"),
  (431, "Request Header Fields Too Large"), (451, "Unavailable For Legal Reasons"),
  (500, "Internal Server Error"), (501, "Not Implemented"), (502, "Bad Gateway"), (503, "Service Unavailable"),
  (504, "Gateway Timeout"), (505, "HTTP Version Not Supported"), (506, "Variant Also Negotiates"),
  (507, "Insufficient Storage"), (508, "Loop Detected"), (510, "Not Extended"),
  (511, "Network Authentication Required")]

/-- The usual words for a status, none for one that is not registered. -/
def reasonPhrase (status : Nat) : String := (reasonPhrases.lookup status).getD ""

/-! ## Text in a body of unknown encoding -/

/-- The encodings that a JSON text may be in. -/
inductive TextEncoding where
  | utf8
  | utf16 (bigEndian : Bool)
  | utf32 (bigEndian : Bool)
  deriving DecidableEq, Repr

/-- The encoding of a JSON text, from a mark at its start or from where its first zero bytes are, and the bytes after the
mark. -/
def detectEncoding (body : Bytes) : TextEncoding × Bytes :=
  match body with
  | 0x00 :: 0x00 :: 0xFE :: 0xFF :: rest => (.utf32 true, rest)
  | 0xFF :: 0xFE :: 0x00 :: 0x00 :: rest => (.utf32 false, rest)
  | 0xFE :: 0xFF :: rest => (.utf16 true, rest)
  | 0xFF :: 0xFE :: rest => (.utf16 false, rest)
  | 0xEF :: 0xBB :: 0xBF :: rest => (.utf8, rest)
  | a :: b :: c :: d :: _ =>
    if a = 0 then (if b = 0 then .utf32 true else .utf16 true, body)
    else if b = 0 then (if c = 0 && d = 0 then .utf32 false else .utf16 false, body)
    else (.utf8, body)
  | [a, b] => if a = 0 then (.utf16 true, body) else if b = 0 then (.utf16 false, body) else (.utf8, body)
  | _ => (.utf8, body)

/-- The units of two bytes. -/
def units16 (bigEndian : Bool) : Bytes → Option (List Nat)
  | [] => some []
  | a :: b :: rest =>
    (units16 bigEndian rest).map ((if bigEndian then a.toNat * 256 + b.toNat else b.toNat * 256 + a.toNat) :: ·)
  | _ => none

/-- The code points of UTF-16 units. -/
def joinUnits : List Nat → List Point
  | [] => []
  | [n] => [.ofNat n]
  | n :: m :: rest =>
    if Point.isHigh n && Point.isLow m then .ofPair n m :: joinUnits rest else .ofNat n :: joinUnits (m :: rest)

/-- The code points of four bytes each. -/
def points32 (bigEndian : Bool) : Bytes → Option (List Point)
  | [] => some []
  | a :: b :: c :: d :: rest =>
    let n := if bigEndian then ((a.toNat * 256 + b.toNat) * 256 + c.toNat) * 256 + d.toNat
      else ((d.toNat * 256 + c.toNat) * 256 + b.toNat) * 256 + a.toNat
    if 0x10FFFF < n then none else (points32 bigEndian rest).map (.ofNat n :: ·)
  | _ => none

/-- The code points of a body in whichever encoding; half a surrogate pair is let through in all of them. -/
def bodyPoints? (body : Bytes) : Option (List Point) :=
  match detectEncoding body with
  | (.utf8, rest) => Utf8.points? rest
  | (.utf16 big, rest) => (units16 big rest).map joinUnits
  | (.utf32 big, rest) => points32 big rest

/-! ## What a reply has to say -/

/-- The message in a reply: what its JSON body has to say; else the body as it is, and for an empty one the usual words for
the status. -/
def Reply.explanation (r : Reply) : String :=
  match (bodyPoints? r.body).bind (Json.readPoints .report) with
  | some report => Report.explanation report
  | none => if r.body.isEmpty then reasonPhrase r.status else String.ofList (Utf8.decodeLossy r.body)

end ClusterBrowser
