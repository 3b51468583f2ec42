/-!
# UTF-8

The bytes of a text, the text of well-formed bytes, and the text of any bytes, where what is not
well-formed is shown by the replacement character.
-/

namespace SupplyCatalog.Text

def utf8Bytes (text : String) : List UInt8 := text.toUTF8.toList

/-- A character written at the head of some bytes, with the number of bytes it takes; if none is
written there, the number of bytes that its longest unfinished beginning takes (at least one). -/
inductive Utf8Head
  | char (c : Char) (width : Nat)
  | malformed (width : Nat)

def isContinuation (byte : UInt8) : Bool := 0x80 ≤ byte && byte ≤ 0xBF

/-- The range that the second byte must keep to after a given first byte of a longer form; it
leaves out overlong forms, surrogates and values past the last code point. -/
def secondByteRange? (first : UInt8) : Option (UInt8 × UInt8) :=
  if 0xC2 ≤ first && first ≤ 0xDF then some (0x80, 0xBF)
  else if first == 0xE0 then some (0xA0, 0xBF)
  else if (0xE1 ≤ first && first ≤ 0xEC) || first == 0xEE || first == 0xEF then some (0x80, 0xBF)
  else if first == 0xED then some (0x80, 0x9F)
  else if first == 0xF0 then some (0x90, 0xBF)
  else if 0xF1 ≤ first && first ≤ 0xF3 then some (0x80, 0xBF)
  else if first == 0xF4 then some (0x80, 0x8F)
  else none

def utf8Head (first : UInt8) (rest : List UInt8) : Utf8Head :=
  if first < 0x80 then .char (Char.ofNat first.toNat) 1
  else
    match secondByteRange? first, rest with
    | none, _ => .malformed 1
    | some _, [] => .malformed 1
    | some (least, greatest), second :: rest =>
        if second < least || greatest < second then .malformed 1
        else
          let two := second.toNat % 64
          if first < 0xE0 then .char (Char.ofNat (first.toNat % 32 * 64 + two)) 2
          else
            match rest with
            | [] => .malformed 2
            | third :: rest =>
                if !isContinuation third then .malformed 2
                else
                  let three := third.toNat % 64
                  if first < 0xF0 then
                    .char (Char.ofNat (first.toNat % 16 * 4096 + two * 64 + three)) 3
                  else
                    match rest with
                    | [] => .malformed 3
                    | fourth :: _ =>
                        if !isContinuation fourth then .malformed 3
                        else
                          .char (Char.ofNat (first.toNat % 8 * 262144 + two * 4096 + three * 64 +
                            fourth.toNat % 64)) 4

/-- Reads characters while there are bytes; `skip` bytes belong to the character read last. -/
def decodeLossyFrom : (skip : Nat) → List UInt8 → List Char
  | _, [] => []
  | skip + 1, _ :: rest => decodeLossyFrom skip rest
  | 0, first :: rest =>
      match utf8Head first rest with
      | .char c width => c :: decodeLossyFrom (width - 1) rest
      | .malformed width => '\uFFFD' :: decodeLossyFrom (width - 1) rest

/-- One replacement character stands for each unfinished beginning of a character. -/
def decodeLossy (bytes : List UInt8) : String := String.ofList (decodeLossyFrom 0 bytes)

def decodeStrictFrom? : (skip : Nat) → List UInt8 → Option (List Char)
  | _, [] => some []
  | skip + 1, _ :: rest => decodeStrictFrom? skip rest
  | 0, first :: rest =>
      match utf8Head first rest with
      | .char c width => (decodeStrictFrom? (width - 1) rest).map (c :: ·)
      | .malformed _ => none

/-- The text of the bytes, if they are well-formed throughout. -/
def decodeStrict? (bytes : List UInt8) : Option String :=
  (decodeStrictFrom? 0 bytes).map String.ofList

end SupplyCatalog.Text
