import LogEgress.Text.Blank
import LogEgress.Text.Utf16

set_option autoImplicit false

/-! # Encodings

A text comes as octets in some encoding, which is known by labels. A mark at the beginning of the
octets says that they are UTF-8 or UTF-16, whatever was said before. The tables of the older
encodings are not part of this library: `CodePages` stands for them.
-/

namespace LogEgress

/-- How octets are read in each of the older encodings, by any of its labels in lower case. -/
abbrev CodePages := List Char → Option (Octets → List Char)

/-- An encoding. -/
inductive Encoding where
  | utf8
  | utf16 (order : Utf16.ByteOrder)
  /-- One that must not be read: all of the octets together are read as U+FFFD. -/
  | replacement
  /-- An older one, by how octets are read in it. -/
  | codePage (decode : Octets → List Char)

namespace Encoding

/-- The labels of UTF-8. -/
def utf8Labels : List String :=
  ["unicode-1-1-utf-8", "unicode11utf8", "unicode20utf8", "utf-8", "utf8", "x-unicode20utf8"]

/-- The labels of UTF-16 with the low octet first. -/
def utf16LittleLabels : List String :=
  ["csunicode", "iso-10646-ucs-2", "ucs-2", "unicode", "unicodefeff", "utf-16", "utf-16le"]

/-- The labels of UTF-16 with the high octet first. -/
def utf16BigLabels : List String := ["unicodefffe", "utf-16be"]

/-- The labels of encodings that must not be read. -/
def replacementLabels : List String :=
  ["csiso2022kr", "hz-gb-2312", "iso-2022-cn", "iso-2022-cn-ext", "iso-2022-kr", "replacement"]

/-- Whether a character may stand around a label. -/
def isLabelBlank (c : Char) : Bool := c == ' ' || c == '\t' || c == '\n' || c == '\x0c' || c == '\r'

/-- The encoding with a label, in letters of either case. -/
def ofLabel? (pages : CodePages) (label : List Char) : Option Encoding :=
  let label := (Text.trimWhile isLabelBlank label).map Char.toLower
  if String.ofList label ∈ utf8Labels then some .utf8
  else if String.ofList label ∈ utf16LittleLabels then some (.utf16 .little)
  else if String.ofList label ∈ utf16BigLabels then some (.utf16 .big)
  else if String.ofList label ∈ replacementLabels then some .replacement
  else (pages label).map .codePage

/-- Reads octets in an encoding. What stands for no character is replaced. -/
def decode : Encoding → Octets → List Char
  | .utf8, o => Utf8.decodeLossy o
  | .utf16 order, o => Utf16.decodeLossy order o
  | .replacement, o => if o = [] then [] else ['\ufffd']
  | .codePage f, o => f o

/-- The encoding that a mark at the beginning of octets stands for, and the octets after it. -/
def cutMark? : Octets → Option (Encoding × Octets)
  | 0xef :: 0xbb :: 0xbf :: o => some (.utf8, o)
  | 0xff :: 0xfe :: o => some (.utf16 .little, o)
  | 0xfe :: 0xff :: o => some (.utf16 .big, o)
  | _ => none

/-- Reads octets that are said to be in an encoding. -/
def read (e : Encoding) (o : Octets) : List Char :=
  match cutMark? o with
  | some (marked, o) => marked.decode o
  | none => e.decode o

end Encoding

end LogEgress
