/-
This file decodes bytes as UTF-8. A fault tells where the valid start ends, and how many bytes make
up the invalid sequence, unless the bytes end inside it.
-/

namespace ApiContract.Text

structure Utf8Fault where
  validUpTo : Nat
  length : Option Nat
  deriving DecidableEq, Repr

def Utf8Fault.message (fault : Utf8Fault) : String :=
  match fault.length with
  | some length =>
      "invalid utf-8 sequence of " ++ toString length ++ " bytes from index " ++
        toString fault.validUpTo
  | none => "incomplete utf-8 byte sequence from index " ++ toString fault.validUpTo

def isContinuation (byte : Nat) : Bool := 0x80 ≤ byte && byte ≤ 0xBF

/-- The second bytes that may follow a first byte of three or four. -/
def isSecond (first second : Nat) : Bool :=
  match first with
  | 0xE0 => 0xA0 ≤ second && second ≤ 0xBF
  | 0xED => 0x80 ≤ second && second ≤ 0x9F
  | 0xF0 => 0x90 ≤ second && second ≤ 0xBF
  | 0xF4 => 0x80 ≤ second && second ≤ 0x8F
  | _ => isContinuation second

/-- Decodes bytes from an index on. -/
def decodeFrom : Nat → List Nat → Except Utf8Fault (List Char)
  | _, [] => .ok []
  | index, first :: rest =>
      let fault := fun length => Except.error (⟨index, length⟩ : Utf8Fault)
      if first < 0x80 then do return Char.ofNat first :: (← decodeFrom (index + 1) rest)
      else if 0xC2 ≤ first ∧ first ≤ 0xDF then
        match rest with
        | [] => fault none
        | second :: rest =>
            if isContinuation second then do
              let code := (first - 0xC0) * 64 + (second - 0x80)
              return Char.ofNat code :: (← decodeFrom (index + 2) rest)
            else fault (some 1)
      else if 0xE0 ≤ first ∧ first ≤ 0xEF then
        match rest with
        | [] => fault none
        | second :: rest =>
            if !isSecond first second then fault (some 1)
            else
              match rest with
              | [] => fault none
              | third :: rest =>
                  if isContinuation third then do
                    let code := ((first - 0xE0) * 64 + (second - 0x80)) * 64 + (third - 0x80)
                    return Char.ofNat code :: (← decodeFrom (index + 3) rest)
                  else fault (some 2)
      else if 0xF0 ≤ first ∧ first ≤ 0xF4 then
        match rest with
        | [] => fault none
        | second :: rest =>
            if !isSecond first second then fault (some 1)
            else
              match rest with
              | [] => fault none
              | third :: rest =>
                  if !isContinuation third then fault (some 2)
                  else
                    match rest with
                    | [] => fault none
                    | fourth :: rest =>
                        if isContinuation fourth then do
                          let code :=
                            (((first - 0xF0) * 64 + (second - 0x80)) * 64 + (third - 0x80)) * 64 +
                              (fourth - 0x80)
                          return Char.ofNat code :: (← decodeFrom (index + 4) rest)
                        else fault (some 3)
      else fault (some 1)

/-- The text of some bytes. -/
def decodeUtf8 (bytes : List Nat) : Except Utf8Fault String := do
  return String.ofList (← decodeFrom 0 bytes)

/-- The bytes of a text. -/
def encodeUtf8 (text : String) : List Nat := text.toUTF8.toList.map UInt8.toNat

end ApiContract.Text
