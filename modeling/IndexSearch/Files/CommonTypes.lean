import IndexSearch.Files.MediaType
import IndexSearch.Files.Tree

/-!
# Common media types

The program tells media types by the extensions of names, which are compared without regard to case.
The table is short; what is proved of sites holds with any other.
-/

namespace IndexSearch.MediaType

/-- Media types with their extensions, in lower case. -/
def common : List (String × List String) := [
  ("application/font-woff", ["woff"]),
  ("application/gzip", ["gz"]),
  ("application/javascript", ["mjs"]),
  ("application/json", ["json"]),
  ("application/msword", ["doc"]),
  ("application/octet-stream", ["bin", "java", "exe"]),
  ("application/pdf", ["pdf"]),
  ("application/rtf", ["rtf"]),
  ("application/vnd.google-earth.kml+xml", ["kml"]),
  ("application/vnd.ms-excel", ["xls"]),
  ("application/vnd.ms-powerpoint", ["ppt"]),
  ("application/vnd.openxmlformats-officedocument.presentationml.presentation", ["pptx"]),
  ("application/vnd.openxmlformats-officedocument.spreadsheetml.sheet", ["xlsx"]),
  ("application/vnd.openxmlformats-officedocument.wordprocessingml.document", ["docx"]),
  ("application/wasm", ["wasm"]),
  ("application/x-7z-compressed", ["7z"]),
  ("application/x-httpd-php", ["php"]),
  ("application/x-msdownload", ["bat"]),
  ("application/x-rar-compressed", ["rar"]),
  ("application/x-sh", ["sh"]),
  ("application/x-sql", ["sql"]),
  ("application/x-tar", ["tar"]),
  ("application/x-tex", ["tex"]),
  ("application/zip", ["zip"]),
  ("audio/mpeg", ["mp3"]),
  ("audio/ogg", ["ogg"]),
  ("audio/wav", ["wav"]),
  ("font/ttf", ["ttf"]),
  ("font/woff2", ["woff2"]),
  ("image/bmp", ["bmp"]),
  ("image/gif", ["gif"]),
  ("image/jpeg", ["jpg", "jpeg"]),
  ("image/png", ["png"]),
  ("image/svg+xml", ["svg"]),
  ("image/tiff", ["tif", "tiff"]),
  ("image/webp", ["webp"]),
  ("image/x-icon", ["ico"]),
  ("text/css", ["css"]),
  ("text/csv", ["csv"]),
  ("text/html", ["html", "htm"]),
  ("text/javascript", ["js", "jsx"]),
  ("text/markdown", ["md"]),
  ("text/x-lua", ["lua"]),
  ("text/x-rust", ["rs"]),
  ("text/x-toml", ["toml"]),
  ("text/x-yaml", ["yaml", "yml"]),
  ("text/xml", ["xml"]),
  ("video/mp4", ["mp4"]),
  ("video/mpeg", ["mpeg"]),
  ("video/quicktime", ["mov"]),
  ("video/vnd.dlna.mpeg-tts", ["ts"]),
  ("video/webm", ["webm"]),
  ("video/x-msvideo", ["avi"])]

/-- The case folding of a character as far as it is ASCII; other characters stay as they are, and
no extension of the table contains them. -/
def fold (c : Char) : Text :=
  let n := c.toNat
  if 65 ≤ n ∧ n ≤ 90 then [Char.ofNat (n + 32)]
  else if n = 0x17F then ['s']
  else if n = 0x212A then ['k']
  else if n = 0xDF ∨ n = 0x1E9E then ['s', 's']
  else if n = 0xFB00 then ['f', 'f']
  else if n = 0xFB01 then ['f', 'i']
  else if n = 0xFB02 then ['f', 'l']
  else if n = 0xFB03 then ['f', 'f', 'i']
  else if n = 0xFB04 then ['f', 'f', 'l']
  else if n = 0xFB05 ∨ n = 0xFB06 then ['s', 't']
  else [c]

/-- The last name of a path, unless that is the parent directory. -/
def fileName? (path : Text) : Option Text :=
  match ((FileSystem.namesOf path).filter fun name => !FileSystem.isHere name).getLast? with
  | some name => if name = ['.', '.'] then none else some name
  | none => none

/-- What follows the last dot of a path's last name, unless the name begins with that dot. -/
def extension? (path : Text) : Option Text := do
  let name ← fileName? path
  match name.reverse.span (· != '.') with
  | (_, []) => none
  | (_, [_]) => none
  | (extension, _) => some extension.reverse

@[reducible] def byExtension : MediaType where
  ofName? name := do
    let extension := (← extension? name).flatMap fold
    let entry ← common.find? fun entry => entry.2.any fun known => known.toList == extension
    some entry.1.toList

end IndexSearch.MediaType
