/-
# Request targets

`SPEC_FULL` §6, *HTTP*: the path and the query of `GET
/trials/{experiment}?materials=<ids>`.

The target of a request is a path, possibly followed by `?` and a query. It may
start with a scheme and an authority, as in `http://host/path`, which say nothing
here. A path is matched as it is written; only the part that names an experiment
is percent-decoded, and after it has been cut out. A query is a form: `&` between
its pairs, `=` between name and value, `+` for a space, and percent signs.
-/

import Alternation.Json.Document
import Alternation.Store.FileSystem
import Alternation.Text.Utf8

namespace Alternation
namespace Server

/-! ## Percent-decoding -/

/-- The byte that two hexadecimal digits write. -/
def hexByte? (high low : UInt8) : Option UInt8 := do
  let h ← Json.hexValue? (Char.ofNat high.toNat)
  let l ← Json.hexValue? (Char.ofNat low.toNat)
  return UInt8.ofNat (16 * h + l)

/-- Replaces `%` and two hexadecimal digits by the byte they write. -/
def percentDecode : List UInt8 → List UInt8
  | b :: h :: l :: rest =>
    if b = '%'.toUInt8 then
      match hexByte? h l with
      | some byte => byte :: percentDecode rest
      | none => b :: percentDecode (h :: l :: rest)
    else b :: percentDecode (h :: l :: rest)
  | bytes => bytes

/-- The bytes of a text. -/
def bytesOf (text : String) : List UInt8 := text.toUTF8.toList

/-- The text that a part of a path writes, unless its bytes are no text. -/
def decodeSegment? (segment : String) : Option String :=
  String.fromUTF8? ⟨(percentDecode (bytesOf segment)).toArray⟩

/-- The text that a part of a form writes. -/
def decodeForm (part : String) : String :=
  Text.decodeLossy (percentDecode ((bytesOf part).map fun b => if b = '+'.toUInt8 then 32 else b))

/-! ## Paths and queries -/

/-- The parts of a text before and after the first `mark`. -/
def cut (mark : Char) (text : String) : String × Option String :=
  let cs := text.toList
  match cs.dropWhile (· != mark) with
  | [] => (text, none)
  | _ :: rest => (String.ofList (cs.takeWhile (· != mark)), some (String.ofList rest))

/-- The names and values of a query. -/
def formPairs (query : String) : List (String × String) :=
  ((splitString '&' query).filter (· ≠ "")).map fun pair =>
    let (name, value) := cut '=' pair
    (decodeForm name, decodeForm (value.getD ""))

/-- What follows the first `://`. -/
def afterScheme : List Char → List Char
  | [] => []
  | ':' :: '/' :: '/' :: rest => rest
  | _ :: rest => afterScheme rest

/-- The path in a target without a query: the target itself if it starts with a
slash, and otherwise what starts with the first slash after scheme and authority. -/
def pathOf (target : String) : String :=
  if target.toList.head? = some '/' then target
  else String.ofList ((afterScheme target.toList).dropWhile (· != '/'))

/-- The path and the query of a target. -/
def splitTarget (target : String) : String × String :=
  let (front, query) := cut '?' (cut '#' target).1
  (pathOf front, query.getD "")

/-- The path's part after `/trials/`, if there is one and it has no parts itself. -/
def experimentSegment? (path : String) : Option String :=
  match splitString '/' path with
  | ["", "trials", segment] => if segment = "" then none else some segment
  | _ => none

end Server
end Alternation
