import Plank.Wire.Search

/-!
# The control request parser

`http-request.m`: one bodyless `GET` or length-framed `POST` per connection. The server runs the
parser again on all bytes of a connection each time some arrive, and stops receiving as soon as
the answer is not `incomplete`.
-/

namespace Plank.Control.Http

open Wire

/-- The bytes of an ASCII text. -/
def ascii (text : String) : List UInt8 := text.toList.map fun letter => .ofNat letter.toNat

/-- Carriage return. -/
def cr : UInt8 := 13

/-- Line feed. -/
def lf : UInt8 := 10

/-- `"\r\n"`. -/
def lineEnd : List UInt8 := [cr, lf]

/-- `"\r\n\r\n"`. -/
def headEnd : List UInt8 := [cr, lf, cr, lf]

/-- `PLANKMacHTTPHeaderLimit`. -/
def headerLimit : Nat := 4096

/-- `PLANKMacHTTPBodyLimit`. -/
def bodyLimit : Nat := 32768

/-- The members of `NSCharacterSet.newlineCharacterSet` among the ASCII characters. -/
def newline (byte : UInt8) : Bool := 10 ≤ byte && byte ≤ 13

/-- The members of `NSCharacterSet.whitespaceAndNewlineCharacterSet` among the ASCII characters. -/
def whitespaceOrNewline (byte : UInt8) : Bool := byte == 32 || byte == 9 || newline byte

/-- A byte that may not be in a head. -/
def unprintable (byte : UInt8) : Bool :=
  (byte < 32 && byte != cr && byte != lf && byte != 9) || 126 < byte

/-- `lowercaseString` of an ASCII character. -/
def lowercase (byte : UInt8) : UInt8 := if 65 ≤ byte && byte ≤ 90 then byte + 32 else byte

/-- `stringByTrimmingCharactersInSet` of blanks and tabs. -/
def trimmed (text : List UInt8) : List UInt8 :=
  ((text.dropWhile fun byte => byte == 32 || byte == 9).reverse.dropWhile
    fun byte => byte == 32 || byte == 9).reverse

/-- `token`. -/
def token (value : List UInt8) : Bool :=
  !value.isEmpty && value.all fun byte =>
    (97 ≤ byte && byte ≤ 122) || (65 ≤ byte && byte ≤ 90) || (48 ≤ byte && byte ≤ 57) ||
      (ascii "!#$%&'*+-.^_`|~").contains byte

/-- A request line that was accepted. -/
structure RequestLine where
  /-- `request[0]`. -/
  method : List UInt8
  /-- `request[1]`. -/
  target : List UInt8
  deriving DecidableEq, Repr

/-- Reads the request line. -/
def readRequestLine (line : List UInt8) : Option RequestLine :=
  match components (ascii " ") line with
  | [method, target, version] =>
    if (method != ascii "POST" && method != ascii "GET") || version != ascii "HTTP/1.1" ||
        1024 < target.length || !(ascii "/").isPrefixOf target ||
        target.any whitespaceOrNewline then none
    else some { method, target }
  | _ => none

/-- `headers`. -/
abbrev Headers := List (List UInt8 × List UInt8)

/-- `headers[name]`. -/
def Headers.get (headers : Headers) (name : String) : Option (List UInt8) :=
  headers.lookup (ascii name)

/-- The name of the header of a line, which ends at a colon. -/
def nameOf (line : List UInt8) (colon : Nat) : List UInt8 := (line.take colon).map lowercase

/-- Reads the header lines into the dictionary. -/
def readHeaders : Headers → List (List UInt8) → Option Headers
  | headers, [] => some headers
  | headers, line :: lines =>
    match search (ascii ":") line with
    | none => none
    | some colon =>
      let name := nameOf line colon
      let value := trimmed (line.drop (colon + 1))
      if !token name || (headers.lookup name).isSome || value.any newline then none
      else readHeaders ((name, value) :: headers) lines

/-- The value of a text of digits. -/
def readLength : Nat → List UInt8 → Option Nat
  | length, [] => some length
  | length, byte :: rest =>
    if byte < 48 || 57 < byte then none
    else readLength (length * 10 + (byte.toNat - 48)) rest

/-- A head that was accepted. -/
structure Head where
  /-- The request line. -/
  line : RequestLine
  /-- `headers`. -/
  headers : Headers
  /-- `contentLength`. -/
  contentLength : Nat
  deriving DecidableEq, Repr

/-- Reads a head: the request line, the headers and the length of the body. -/
def readHead (head : List UInt8) : Option Head :=
  let lines := components lineEnd head
  match readRequestLine (lines.headD []) with
  | none => none
  | some line =>
    match readHeaders [] lines.tail with
    | none => none
    | some headers =>
      let length := headers.get "content-length"
      let get := line.method == ascii "GET"
      if (headers.get "host").getD [] == [] ||
          (!get && headers.get "content-type" != some (ascii "application/json")) ||
          (headers.get "transfer-encoding").isSome || (headers.get "expect").isSome ||
          (headers.get "upgrade").isSome ||
          ((!get || length.isSome) && length.getD [] == []) || 5 < (length.getD []).length then none
      else
        match readLength 0 (length.getD []) with
        | none => none
        | some contentLength =>
          if (get && contentLength != 0) || (!get && contentLength == 0) ||
              bodyLimit < contentLength then none
          else some { line, headers, contentLength }

/-- What a complete request is taken for. -/
structure Request where
  /-- `*method`. -/
  method : List UInt8
  /-- `*path`. -/
  path : List UInt8
  /-- `*authorization`. -/
  authorization : Option (List UInt8)
  /-- The location of `*body`. -/
  start : Nat
  /-- The length of `*body`. -/
  length : Nat
  deriving DecidableEq, Repr

/-- `PLANKMacHTTPParseResult`, with what the arguments are set to. -/
inductive ParseResult where
  /-- `PLANKMacHTTPIncomplete`. -/
  | incomplete
  /-- `PLANKMacHTTPComplete`. -/
  | complete (request : Request)
  /-- `PLANKMacHTTPInvalid`. -/
  | invalid
  deriving DecidableEq, Repr

/-- `PLANKMacParseControlRequest`. -/
def parse (bytes : List UInt8) : ParseResult :=
  if headerLimit + bodyLimit < bytes.length then .invalid else
  match search headEnd (bytes.take headerLimit) with
  | none => if headerLimit ≤ bytes.length then .invalid else .incomplete
  | some location =>
    if (bytes.take location).any unprintable then .invalid else
    match readHead (bytes.take location) with
    | none => .invalid
    | some head =>
      let start := location + headEnd.length
      if start + head.contentLength < bytes.length then .invalid
      else if bytes.length < start + head.contentLength then .incomplete
      else .complete { method := head.line.method, path := head.line.target,
                       authorization := head.headers.get "authorization",
                       start, length := head.contentLength }

/-- What the server takes a stream for whose bytes arrive in chunks: the answer of the parser on all
bytes so far, as soon as it is not `incomplete`. -/
def receive (bytes : List UInt8) : List (List UInt8) → ParseResult
  | [] => .incomplete
  | chunk :: chunks =>
    match parse (bytes ++ chunk) with
    | .incomplete => receive (bytes ++ chunk) chunks
    | .complete request => .complete request
    | .invalid => .invalid

/-- A request without a body. -/
example : parse (ascii "GET /topology HTTP/1.1\r\nHost: plank\r\n\r\n") =
    .complete { method := ascii "GET", path := ascii "/topology", authorization := none,
                start := 39, length := 0 } := by
  decide +kernel

/-- A request with a body of which the last byte is missing. -/
example : parse (ascii
    "POST / HTTP/1.1\r\nHost: a\r\nContent-Type: application/json\r\nContent-Length: 2\r\n\r\n\x7b") =
    .incomplete := by
  decide +kernel

end Plank.Control.Http
