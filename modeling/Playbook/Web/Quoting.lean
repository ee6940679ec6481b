import Playbook.Number.Decimals
import Playbook.Text.Quoted
import Playbook.Text.Utf8
/-!
# Percent signs

A character that may not stand in a part of an address stands there as its bytes, each a percent sign with two
digits. Percent signs themselves may always stand, so that what is quoted already stays as it is.
-/

namespace Playbook.Web

/-- Writes the characters that are not safe as bytes. -/
def quoteUnless (isSafe : Char → Bool) (cs : List Char) : List Char :=
  cs.flatMap fun c =>
    if isSafe c then [c]
    else (Text.encodeUtf8 [c]).flatMap fun b => '%' :: (Text.hexDigits 2 b.toNat).map Char.toUpper

/-- The byte that two digits stand for. -/
def byte? (a b : Char) : Option UInt8 := do return ((← Number.hexValue? a) * 16 + (← Number.hexValue? b)).toUInt8

/-- The bytes of a text, where two digits behind a percent sign are one byte. -/
def unquotedBytes : List Char → Text.Bytes
  | '%' :: a :: b :: cs =>
    match byte? a b with
    | some n => n :: unquotedBytes cs
    | none => 0x25 :: unquotedBytes (a :: b :: cs)
  | c :: cs => Text.encodeUtf8 [c] ++ unquotedBytes cs
  | [] => []

def unquote (cs : List Char) : List Char := Text.decodeUtf8Lenient (unquotedBytes cs)

end Playbook.Web
