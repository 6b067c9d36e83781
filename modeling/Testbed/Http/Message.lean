import Testbed.Address.Basic
import Testbed.Http.Status
import Testbed.Problem
import Testbed.Text.Utf8

/-!
# HTTP requests and replies

A request asks an address for something, perhaps with a file to hand over; a reply has a status and
a body. A file travels as the only part of a form, between two lines that hold a boundary. How the
bytes of a body are taken for a text is left to the charsets that the client knows.
-/

namespace Testbed.Http

inductive Method where
  | get
  | post
  deriving Repr, DecidableEq

def Method.text : Method → String
  | .get => "GET"
  | .post => "POST"

/-- Bytes that a header may hold: all but the control characters, the tab apart. -/
def isHeaderByte (b : UInt8) : Bool := b == 9 || (0x20 ≤ b && b ≠ 0x7F)

def isHeaderValue (s : String) : Bool := (Text.Utf8.encode s.toList).all isHeaderByte

def badHeader : String := "failed to parse header value"

structure Upload where
  fileName : String
  mediaType : String
  content : String
  deriving Repr, DecidableEq

namespace Upload

def isGuarded (c : Char) : Bool := c == '"' || c == '\\' || c == '\r' || c == '\n'

/-- A name between quotes: a backslash stands before whatever could end it. -/
def quotedName (name : List Char) : List Char :=
  name.flatMap fun c => if isGuarded c then ['\\', c] else [c]

def contentType (boundary : String) : String := "multipart/form-data; boundary=" ++ boundary

def body (boundary : String) (u : Upload) : String :=
  "--" ++ boundary ++ "\r\nContent-Disposition: form-data; name=\"file\"; filename=\"" ++
    String.ofList (quotedName u.fileName.toList) ++ "\"\r\nContent-Type: " ++ u.mediaType ++
    "\r\n\r\n" ++ u.content ++ "\r\n--" ++ boundary ++ "--\r\n"

end Upload

structure Request where
  method : Method
  address : Address
  /-- Names in lower case, and values. -/
  headers : List (String × String)
  upload : Option Upload
  deriving Repr, DecidableEq

def Request.header? (q : Request) (name : String) : Option String := q.headers.lookup name

/-- What is left of a body when it is read to its end. -/
inductive Body where
  | whole (bytes : List UInt8)
  /-- It breaks off, or its bytes cannot be had. -/
  | broken (why : String)
  deriving Repr, DecidableEq

def Body.bytes : Body → Except Problem (List UInt8)
  | .whole bytes => .ok bytes
  | .broken why => .error (.exchange why)

structure Reply where
  status : Nat
  /-- What the reply says of its content. -/
  contentType : Option String
  body : Body
  deriving Repr, DecidableEq

/-- The text that bytes stand for, by what is said of their content and by a mark they begin with.
Every sequence of bytes stands for some text. -/
class Charsets where
  decode : Option String → List UInt8 → String

/-- A content type that names no parameter, and so no charset. -/
def IsBare (contentType : Option String) : Prop := ∀ t, contentType = some t → ';' ∉ t.toList

/-- Without a charset and a mark, a body in UTF-8 is the text that it spells. -/
def Charsets.ReadUtf8 (charsets : Charsets) : Prop :=
  ∀ contentType (s : String), IsBare contentType → s.toList.head? ≠ some (Char.ofNat 0xFEFF) →
    charsets.decode contentType (Text.Utf8.encode s.toList) = s

def Reply.text [Charsets] (r : Reply) : Except Problem String :=
  r.body.bytes.map (Charsets.decode r.contentType)

/-- The charsets of a client that knows UTF-8 only. -/
@[reducible] def Charsets.utf8 : Charsets :=
  ⟨fun _ bytes => String.ofList (Text.Utf8.decodeLenient bytes)⟩

end Testbed.Http
