import IndexSearch.Text.Numeral
import IndexSearch.Text.Utf8

/-!
# Responses

A response is a status, a content type and a body. On the wire its head states the length of the
body, so a client can tell where the next response begins.
-/

namespace IndexSearch

inductive Status where
  | ok
  | notFound
deriving DecidableEq, Repr

namespace Status

def code : Status → Nat
  | .ok => 200
  | .notFound => 404

def reason : Status → Text
  | .ok => "OK".toList
  | .notFound => "Not Found".toList

end Status

def htmlType : Text :=
  "text/html".toList

structure Response where
  status : Status
  contentType : Text := htmlType
  body : Bytes := []
deriving DecidableEq, Repr

namespace Response

/-- The status line, the two headers and the blank line. -/
def head (response : Response) : Text :=
  "HTTP/1.1 ".toList ++ Numeral.render response.status.code ++ [' '] ++ response.status.reason
    ++ "\r\nContent-Type: ".toList ++ response.contentType
    ++ "\r\nContent-Length: ".toList ++ Numeral.render response.body.length
    ++ "\r\n\r\n".toList

def render (response : Response) : Bytes :=
  Utf8.encode response.head ++ response.body

end Response

end IndexSearch
