import Geolocation.Text.Digits
import Geolocation.Text.Lowercase

/-!
# Keys of access points

An access point is known by its hardware address. Of the many ways to write one, the key keeps twelve
lower-case hexadecimal digits. The addresses of zeros only and of ones only belong to no device.
-/

namespace Geolocation

namespace WifiKey

def isDigit (c : Char) : Bool := Text.isHexDigit c && !c.isUpper

/-- Are these the digits of a key? -/
def isCanonical (digits : List Char) : Bool :=
  digits.length = 12 && digits.all isDigit && digits.any (· ≠ '0') && digits.any (· ≠ 'f')

end WifiKey

structure WifiKey where
  digits : List Char
  canonical : WifiKey.isCanonical digits
  deriving DecidableEq, Repr

namespace WifiKey

def text (key : WifiKey) : String := String.ofList key.digits

instance : Hashable WifiKey := ⟨fun key => hash key.text⟩

def ofDigits? (digits : List Char) : Option WifiKey :=
  if canonical : isCanonical digits then some ⟨digits, canonical⟩ else none

/-- May the character divide the digits of an address? -/
def isSeparator (c : Char) : Bool := c = ':' || c = '-' || c = '.'

/-- The key of an address in any of its spellings. -/
def read? (text : String) : Option WifiKey :=
  let key := Text.lowercase (String.ofList (text.toList.filter (!isSeparator ·)))
  -- The size is that of the text in bytes, and more than its length if there are letters beyond ASCII.
  if key.utf8ByteSize = 12 && key.toList.all Text.isHexDigit then ofDigits? key.toList else none

def pairs : List Char → List (List Char)
  | [] => []
  | [a] => [[a]]
  | a :: b :: rest => [a, b] :: pairs rest

/-- The address with a colon between every two digits. -/
def address (key : WifiKey) : String :=
  ":".intercalate ((pairs key.digits).map String.ofList)

end WifiKey

end Geolocation
