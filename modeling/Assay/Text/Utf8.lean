import Assay.Text.Quoted

/-!
# Decoding UTF-8

Bytes as text, with an exact account of where and why they are not UTF-8. Overlong forms,
surrogates and code points past `U+10FFFF` are refused at the first byte that rules them out, and
the bytes before it that could still have gone on are counted into the malformed stretch.

## Main definitions

* `Malformed`: The first stretch of bytes that is not UTF-8, and why.
* `decodeUtf8`: The characters of a byte string.
* `Malformed.message`: The report on a malformed stretch.
-/

namespace Assay.Text

/-- Why a stretch of bytes is not UTF-8. -/
inductive MalformedReason
  | startByte
  | continuationByte
  | truncated
  deriving DecidableEq, Repr

/-- The first stretch of bytes that is not UTF-8: its place, its length and its first byte. -/
structure Malformed where
  start : Nat
  length : Nat
  byte : UInt8
  reason : MalformedReason
  deriving DecidableEq, Repr

/-- Whether a byte continues a character. -/
def isTail (b : UInt8) : Bool :=
  0x80 ≤ b && b ≤ 0xBF

/-- Whether `b` may follow the first byte `a` of a character of three or four bytes. -/
def isSecond (a b : UInt8) : Bool :=
  isTail b &&
    (if a == 0xE0 then 0xA0 ≤ b
    else if a == 0xED then b < 0xA0
    else if a == 0xF0 then 0x90 ≤ b
    else if a == 0xF4 then b < 0x90
    else true)

/-- The character whose first byte carries `high` and whose further bytes are `tail`. -/
def charOfBytes (high : Nat) (tail : List UInt8) : Char :=
  Char.ofNat (tail.foldl (fun n b => n * 64 + (b.toNat - 0x80)) high)

/-- The characters of the bytes from position `n` on. -/
def decodeFrom (n : Nat) : List UInt8 → Except Malformed (List Char)
  | [] => .ok []
  | a :: r =>
    if a < 0x80 then (decodeFrom (n + 1) r).map (Char.ofNat a.toNat :: ·)
    -- These bytes begin no character: tails, overlong forms and what lies beyond the last code point.
    else if a < 0xC2 || 0xF4 < a then .error ⟨n, 1, a, .startByte⟩
    else match r with
    | [] => .error ⟨n, 1, a, .truncated⟩
    | b :: r =>
      if a < 0xE0 then
        if isTail b then (decodeFrom (n + 2) r).map (charOfBytes (a.toNat - 0xC0) [b] :: ·)
        else .error ⟨n, 1, a, .continuationByte⟩
      -- Longer characters restrict their second byte too, so that each has one form only.
      else if !isSecond a b then .error ⟨n, 1, a, .continuationByte⟩
      else match r with
      | [] => .error ⟨n, 2, a, .truncated⟩
      | c :: r =>
        if !isTail c then .error ⟨n, 2, a, .continuationByte⟩
        else if a < 0xF0 then
          (decodeFrom (n + 3) r).map (charOfBytes (a.toNat - 0xE0) [b, c] :: ·)
        else match r with
        | [] => .error ⟨n, 3, a, .truncated⟩
        | d :: r =>
          if isTail d then
            (decodeFrom (n + 4) r).map (charOfBytes (a.toNat - 0xF0) [b, c, d] :: ·)
          else .error ⟨n, 3, a, .continuationByte⟩

/-- The text of a byte string. -/
def decodeUtf8 (bytes : List UInt8) : Except Malformed String :=
  (decodeFrom 0 bytes).map String.ofList

/-- The wording of a reason. -/
def MalformedReason.message : MalformedReason → String
  | .startByte => "invalid start byte"
  | .continuationByte => "invalid continuation byte"
  | .truncated => "unexpected end of data"

/-- The report on a malformed stretch: one byte is named, a longer stretch is given by its first
    and last position. -/
def Malformed.message (m : Malformed) : String :=
  let place :=
    if m.length = 1 then
      "byte 0x" ++ String.ofList (hexadecimal 2 m.byte.toNat) ++ " in position " ++ toString m.start
    else "bytes in position " ++ toString m.start ++ "-" ++ toString (m.start + m.length - 1)
  "'utf-8' codec can't decode " ++ place ++ ": " ++ m.reason.message

end Assay.Text
