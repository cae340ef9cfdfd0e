/-!
# Text/Base64 — octets written as letters, and the text they hold
-/

namespace TensorGraph.Text

/-- The value of a character of the alphabet. -/
def base64Value? (c : Char) : Option Nat :=
  if c.isUpper then some (c.toNat - 'A'.toNat)
  else if c.isLower then some (c.toNat - 'a'.toNat + 26)
  else if c.isDigit then some (c.toNat - '0'.toNat + 52)
  else if c == '+' then some 62
  else if c == '/' then some 63
  else none

/-- Decodes groups of four characters; the last group may be padded. -/
def base64Groups? : List Char → Option (List Nat)
  | [] => some []
  | a :: b :: c :: d :: rest =>
    match base64Value? a, base64Value? b, base64Value? c, base64Value? d with
    | some a, some b, some c, some d =>
      (base64Groups? rest).map fun more =>
        (a * 4 + b / 16) :: (b % 16 * 16 + c / 4) :: (c % 4 * 64 + d) :: more
    | some a, some b, some c, none =>
      if d == '=' && rest.isEmpty then some [a * 4 + b / 16, b % 16 * 16 + c / 4] else none
    | some a, some b, none, none =>
      if c == '=' && d == '=' && rest.isEmpty then some [a * 4 + b / 16] else none
    | _, _, _, _ => none
  | _ => none

/-- Decodes a text; line breaks in it do not count. -/
def base64? (s : String) : Option (List Nat) :=
  base64Groups? (s.toList.filter fun c => c != '\n' && c != '\r')

/-- Whether an octet continues a character. -/
def isContinuation (o : Nat) : Bool := 0x80 ≤ o && o < 0xC0

/-- The character that starts these octets and its width; none where they start no character. -/
def octetChar? : List Nat → Option (Char × Nat)
  | [] => none
  | a :: rest =>
    if a < 0x80 then some (Char.ofNat a, 1)
    else match rest with
      | b :: more =>
        if !isContinuation b then none
        else if 0xC2 ≤ a && a < 0xE0 then some (Char.ofNat ((a - 0xC0) * 64 + (b - 0x80)), 2)
        else match more with
          | c :: last =>
            let three := ((a - 0xE0) * 64 + (b - 0x80)) * 64 + (c - 0x80)
            if !isContinuation c then none
            else if 0xE0 ≤ a && a < 0xF0 then
              if 0x800 ≤ three && three.isValidChar then some (Char.ofNat three, 3) else none
            else match last with
              | d :: _ =>
                let four := (((a - 0xF0) * 64 + (b - 0x80)) * 64 + (c - 0x80)) * 64 + (d - 0x80)
                if isContinuation d && 0xF0 ≤ a && 0x10000 ≤ four && four.isValidChar then
                  some (Char.ofNat four, 4)
                else none
              | [] => none
          | [] => none
      | [] => none

/-- The characters of a list of octets, `skip` of which belong to the character before; each octet
that starts no character shows as a replacement character. -/
def octetChars (skip : Nat) : List Nat → List Char
  | [] => []
  | o :: rest =>
    match skip with
    | n + 1 => octetChars n rest
    | 0 =>
      match octetChar? (o :: rest) with
      | some (c, width) => c :: octetChars (width - 1) rest
      | none => Char.ofNat 0xFFFD :: octetChars 0 rest

/-- The text that octets hold. -/
def ofOctets (octets : List Nat) : String := String.ofList (octetChars 0 octets)

/-- The first `n` octets of a text; a character that is cut shows as a replacement character for
each octet left of it. -/
def firstOctets (n : Nat) : List Char → List Char
  | [] => []
  | c :: cs =>
    if c.utf8Size ≤ n then c :: firstOctets (n - c.utf8Size) cs
    else List.replicate n (Char.ofNat 0xFFFD)

end TensorGraph.Text
