/-!
# Text and bytes

Text is a list of Unicode code points and a byte string is a list of bytes, so that every
operation of the library is a recursion on a list.
-/

namespace IndexSearch

abbrev Text := List Char

abbrev Bytes := List UInt8

end IndexSearch
