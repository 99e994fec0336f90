import WafWatch.Json.Value
import WafWatch.Text.Blank
import WafWatch.Text.Utf8

/-!
This module contains the identity of subscribers, which the headers of a request tell.
-/

namespace WafWatch

/--
Who a subscriber is.
-/
structure Identity where
  userId : String
  email : String
  deriving DecidableEq, Repr, Inhabited

/--
A header of a request: its name, of which the letter case does not matter, and the octets of its
value.
-/
structure Header where
  name : String
  value : List UInt8
  deriving DecidableEq, Repr, Inhabited

namespace Header

/--
An octet that a value may have to be told as text: visible ASCII, a space or a tab.
-/
def isTextOctet (b : UInt8) : Bool :=
  (32 ≤ b && b < 127) || b == 9

/--
The text of a value without the blanks at its ends, unless nothing is left of it.
-/
def text? (header : Header) : Option String :=
  if header.value.all isTextOctet then
    let text := Text.trim (Text.decodeLossy header.value)
    if text.isEmpty then none else some (String.ofList text)
  else none

def find? (headers : List Header) (name : String) : Option String :=
  (headers.find? (·.name.toLower == name)).bind text?

end Header

namespace Identity

def anonymous : Identity where
  userId := "anonymous"
  email := ""

def userIdHeader : String := "x-user-id"

def emailHeader : String := "x-user-email"

def ofHeaders (headers : List Header) : Identity :=
  match Header.find? headers userIdHeader with
  | some userId => { userId, email := (Header.find? headers emailHeader).getD "" }
  | none => anonymous

def toValue (identity : Identity) : Json.Value :=
  .ofMembers [("user_id", .ofString identity.userId), ("email", .ofString identity.email)]

end Identity

end WafWatch
