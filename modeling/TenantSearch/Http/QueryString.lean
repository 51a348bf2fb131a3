import TenantSearch.Text.Basic
import TenantSearch.Uuid

/-! Decoding the query string of an address as a web form: pairs of names and values, in which a
plus sign is a space and a percent sign with two digits is a byte. -/
namespace TenantSearch.Http

/-- The bytes of a piece of a query string. An escape that is not complete stays as it is. -/
def unescape : List UInt8 → List UInt8
  | 0x25 :: a :: b :: rest =>
    match Uuid.hexDigit? (Char.ofNat a.toNat), Uuid.hexDigit? (Char.ofNat b.toNat) with
    | some high, some low => UInt8.ofNat (16 * high + low) :: unescape rest
    | _, _ => 0x25 :: unescape (a :: b :: rest)
  | 0x2B :: rest => 0x20 :: unescape rest
  | byte :: rest => byte :: unescape rest
  | [] => []

def continuation? (first : UInt8) : Option (UInt8 × UInt8 × Nat) :=
  if 0xC2 ≤ first && first ≤ 0xDF then some (0x80, 0xBF, 1)
  else if first == 0xE0 then some (0xA0, 0xBF, 2)
  else if first == 0xED then some (0x80, 0x9F, 2)
  else if 0xE1 ≤ first && first ≤ 0xEF then some (0x80, 0xBF, 2)
  else if first == 0xF0 then some (0x90, 0xBF, 3)
  else if 0xF1 ≤ first && first ≤ 0xF3 then some (0x80, 0xBF, 3)
  else if first == 0xF4 then some (0x80, 0x8F, 3)
  else none

def continuationBytes (low high : UInt8) : Nat → List UInt8 → List UInt8
  | count + 1, byte :: rest =>
    if low ≤ byte && byte ≤ high then byte :: continuationBytes 0x80 0xBF count rest else []
  | _, _ => []

/-- Reads bytes as UTF-8. The longest start of a character that is not completed becomes one
replacement character, and so does each byte that starts none. -/
def decodeUtf8 : Nat → List UInt8 → Text
  | 0, _ | _, [] => []
  | steps + 1, first :: rest =>
    if first < 0x80 then Char.ofNat first.toNat :: decodeUtf8 steps rest
    else match continuation? first with
      | none => '\uFFFD' :: decodeUtf8 steps rest
      | some (low, high, count) =>
        let more := continuationBytes low high count rest
        let leading := first.toNat % (0x40 >>> count)
        let decoded :=
          if more.length = count then
            Char.ofNat (more.foldl (fun code byte => 64 * code + byte.toNat % 64) leading)
          else '\uFFFD'
        decoded :: decodeUtf8 steps (rest.drop more.length)

def decodePiece (piece : Text) : Text :=
  let bytes := unescape (String.ofList piece).toUTF8.toList
  decodeUtf8 bytes.length bytes

def pairs (query : Text) : List (Text × Text) :=
  ((query.splitOn '&').filter (!·.isEmpty)).map fun piece =>
    (decodePiece (piece.takeWhile (· != '=')), decodePiece ((piece.dropWhile (· != '=')).drop 1))

end TenantSearch.Http
