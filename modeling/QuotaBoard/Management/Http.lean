import QuotaBoard.Management.Client

/-!
# Requests and answers as bytes

How a request to the management API is written for HTTP/1.1, and how the bytes that come back
until the connection is closed are read as an answer.  Where the body ends is decided first, from
the headers alone: at the end of its chunks, after a length that is named, or with the
connection.
-/

namespace QuotaBoard.Management

/-! ## Requests -/

/-- The host and port that a request names; the usual port of its scheme goes without saying. -/
def hostHeader (url : Url) : String :=
  ((url.host.map Url.Host.text).getD "") ++
    match url.port with
    | some port => ":" ++ toString port
    | none => ""

/-- What a request asks the host for. -/
def target (url : Url) : String :=
  url.path ++
    match url.query with
    | some query => "?" ++ query
    | none => ""

/-- The bytes of a request, after which the connection is to be closed. -/
def HttpRequest.bytes (r : HttpRequest) : List UInt8 :=
  let body := r.body.map fun v => Utf8.bytes v.text
  let lines :=
    [r.method.name ++ " " ++ target r.url ++ " HTTP/1.1", "host: " ++ hostHeader r.url,
      "accept: */*", "connection: close"] ++
    (r.authorization.map ("authorization: " ++ ·)).toList ++
    match body with
    | some bytes => ["content-type: application/json", "content-length: " ++ toString bytes.length]
    | none => []
  Utf8.bytes ("\r\n".intercalate lines ++ "\r\n\r\n") ++ body.getD []

/-! ## Answers -/

/-- The bytes before and after the first line break. -/
def splitLine? : List UInt8 → Option (List UInt8 × List UInt8)
  | [] => none
  | 13 :: 10 :: rest => some ([], rest)
  | b :: rest => (splitLine? rest).map fun (line, rest) => (b :: line, rest)

/-- The lines up to the first empty one, and what follows that. -/
def splitHead? : (fuel : Nat) → List UInt8 → Option (List String × List UInt8)
  | 0, _ => none
  | fuel + 1, bytes => do
    let (line, rest) ← splitLine? bytes
    if line.isEmpty then some ([], rest)
    else
      let (lines, rest) ← splitHead? fuel rest
      some (Utf8.lossy line :: lines, rest)

/-- The name of a header in lower case, and its value. -/
def header? (line : String) : Option (String × String) :=
  let cs := line.toList
  match cs.dropWhile (· ≠ ':') with
  | _ :: value =>
    some (Text.lowerAscii (String.ofList (cs.takeWhile (· ≠ ':'))),
      Text.trim (String.ofList value))
  | [] => none

/-- The size that the digits of a base spell; there must be one. -/
def size? (base : Nat) (digits : List Char) : Option Nat :=
  if digits.isEmpty then none else Url.Host.numeral? base digits

/-- The status in the first line of an answer. -/
def statusOf? (line : String) : Option UInt16 := do
  let word ← (Text.splitOnChar ' ' line.toList)[1]?
  let n ← size? 10 word
  guard ("HTTP/1.".toList.isPrefixOf line.toList ∧ 100 ≤ n ∧ n < 1000)
  some (UInt16.ofNat n)

/-- How the end of a body is found. -/
inductive Framing where
  | chunks
  | length (n : Nat)
  | untilClosed

/-- How the headers say that the end of the body is found. -/
def framingOf (headers : List (String × String)) : Framing :=
  if (headers.lookup "transfer-encoding").any (Text.lowerAscii · = "chunked") then .chunks
  else match (headers.lookup "content-length").bind fun s => size? 10 s.toList with
    | some n => .length n
    | none => .untilClosed

/-- The bytes in some chunks: each stands after its length, and one of length zero ends them. -/
def joinChunks? : (fuel : Nat) → List UInt8 → Option (List UInt8)
  | 0, _ => none
  | fuel + 1, bytes => do
    let (line, rest) ← splitLine? bytes
    let size ← size? 16 ((Utf8.lossy line).toList.takeWhile fun c => c ≠ ';' && c ≠ ' ')
    if size = 0 then some []
    else do
      guard (size + 2 ≤ rest.length)
      let more ← joinChunks? fuel (rest.drop (size + 2))
      some (rest.take size ++ more)

/-- The body in the bytes after the headers, if it is complete. -/
def Framing.body? (framing : Framing) (bytes : List UInt8) : Option (List UInt8) :=
  match framing with
  | chunks => joinChunks? (bytes.length + 1) bytes
  | length n => if n ≤ bytes.length then some (bytes.take n) else none
  | untilClosed => some bytes

/-- The answer in the bytes that came back. -/
def HttpAnswer.ofBytes? (bytes : List UInt8) : Option HttpAnswer := do
  let (lines, rest) ← splitHead? (bytes.length + 1) bytes
  let status ← statusOf? (← lines.head?)
  let framing := framingOf (lines.tail.filterMap header?)
  some ⟨status, ← framing.body? rest⟩

end QuotaBoard.Management
