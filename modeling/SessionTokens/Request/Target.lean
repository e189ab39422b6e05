import SessionTokens.Text.Utf8

/-!
# Request targets

The target of a request is a path with a query, an absolute address, the
authority of a server, or `*`.  Only path and query matter here; a fragment is
dropped.
-/

namespace SessionTokens.Request

structure Target where
  path : String
  query : Option String
  deriving DecidableEq, Repr

namespace Target

def maxSize : Nat := 65534

def inPath (octet : UInt8) : Bool :=
  let n := octet.toNat
  n = 0x21 || n = 0x22 || (0x24 ≤ n && n ≤ 0x3B) || n = 0x3D || (0x40 ≤ n && n ≤ 0x5F)
    || (0x61 ≤ n && n ≤ 0x7E) || 0x7F ≤ n

def inQuery (octet : UInt8) : Bool :=
  let n := octet.toNat
  n = 0x21 || (0x24 ≤ n && n ≤ 0x3B) || n = 0x3D || 0x3F ≤ n

/-- Reads a path with an optional query and fragment; an empty path is `/`. -/
def ofPath? (octets : Bytes) : Option Target := do
  let path := octets.takeWhile fun octet => octet ≠ 63 && octet ≠ 35
  let query : Option Bytes :=
    match octets.drop path.length with
    | 63 :: rest => some (rest.takeWhile (· ≠ 35))
    | _ => none
  if path.all inPath && (query.getD []).all inQuery then
    let pathText ← Utf8.decode? path
    let queryText ← Utf8.decode? (query.getD [])
    return {
      path := if pathText.isEmpty then "/" else String.ofList pathText
      query := query.map fun _ => String.ofList queryText }
  else none

def inScheme (octet : UInt8) : Bool :=
  let char := Char.ofNat octet.toNat
  char.isAlphanum || char = '+' || char = '-' || char = '.'

/-- The octets after a scheme and `://`; `some none` when there is no scheme. -/
def afterScheme? (octets : Bytes) : Option (Option Bytes) :=
  let scheme := octets.takeWhile inScheme
  match octets.drop scheme.length with
  | 58 :: 47 :: 47 :: rest =>
      if octets.length ≤ 3 then some none
      else if 64 < scheme.length then none
      else some (some rest)
  | _ => some none

def inAuthority (octet : UInt8) : Bool :=
  let char := Char.ofNat octet.toNat
  char.isAlphanum || "!$&'()*+,-.:;=@[]_~%".toList.contains char

structure Seen where
  colons : Nat := 0
  opened : Bool := false
  closed : Bool := false
  percent : Bool := false
  /-- Whether the last character is the end of user information. -/
  bare : Bool := false

/-- One more octet of an authority; `none` when it cannot stand there. -/
def Seen.next? (seen : Seen) (octet : UInt8) : Option Seen :=
  let seen := { seen with bare := false }
  if ¬ inAuthority octet then none
  else
    match Char.ofNat octet.toNat with
    | ':' => if 8 ≤ seen.colons then none else some { seen with colons := seen.colons + 1 }
    | '[' => if seen.percent || seen.opened then none else some { seen with opened := true }
    | ']' =>
        if !seen.opened || seen.closed then none
        else some { seen with closed := true, colons := 0, percent := false }
    | '@' => some { seen with colons := 0, percent := false, bare := true }
    | '%' => some { seen with percent := true }
    | _ => some seen

def isAuthority (octets : Bytes) : Bool :=
  match octets.foldlM Seen.next? {} with
  | none => false
  | some seen => seen.opened = seen.closed && seen.colons ≤ 1 && !seen.bare && !seen.percent

def parse? (text : String) : Option Target := do
  let octets := Utf8.ofString text
  if maxSize < octets.length ∨ octets.isEmpty then none
  else if octets = [42] then return ⟨"*", none⟩
  else if octets.head? = some 47 then ofPath? octets
  else
    match ← afterScheme? octets with
    | none => if isAuthority octets then return ⟨"", none⟩ else none
    | some rest =>
        let authority := rest.takeWhile fun octet => octet ≠ 47 && octet ≠ 63 && octet ≠ 35
        if authority.isEmpty ∨ ¬ isAuthority authority then none
        else ofPath? (rest.drop authority.length)

end Target

end SessionTokens.Request
