import SessionTokens.Armour.Der
import SessionTokens.Armour.Pem
import SessionTokens.Key.Error

/-!
# Armoured keys

A key file holds one armoured block.  Its label, and the first identifier of a
key type inside it, say what the key is; the octets that count are the whole
block or the first string inside it.
-/

namespace SessionTokens.ArmouredKey

inductive Kind where
  | rsa
  | curve
  | edwards
  deriving DecidableEq, Repr

def kind? (arcs : List Nat) : Option Kind :=
  if arcs = [1, 2, 840, 10045, 2, 1] then some .curve
  else if arcs = [1, 2, 840, 113549, 1, 1, 1] then some .rsa
  else if arcs = [1, 3, 101, 112] then some .edwards
  else none

/-- What a block is: bare numbers of a key, or a key wrapped with its type. -/
inductive Form where
  | bare
  | wrapped (kind : Kind) (isPrivate : Bool)
  deriving DecidableEq, Repr

structure Key where
  form : Form
  contents : Bytes
  blocks : List Der.Block

def read? (octets : Bytes) : Option Key := do
  let armour ← Pem.parse? octets
  let blocks ← Der.parse? armour.contents
  let form ←
    if armour.label = "RSA PRIVATE KEY" ∨ armour.label = "RSA PUBLIC KEY" then some Form.bare
    else if armour.label = "PRIVATE KEY" ∨ armour.label = "PUBLIC KEY"
        ∨ armour.label = "CERTIFICATE" then
      (Der.firstKnownOf? kind? blocks).map fun kind =>
        .wrapped kind (armour.label = "PRIVATE KEY")
    else none
  return ⟨form, armour.contents, blocks⟩

/-- The first string of a wrapped key. -/
def Key.inner (key : Key) : Except KeyFault Bytes :=
  match Der.firstStringOf? key.blocks with
  | some octets => .ok octets
  | none => .error .hollow

def rsa (octets : Bytes) : Except KeyFault Bytes :=
  match read? octets with
  | some key =>
      match key.form with
      | .bare => .ok key.contents
      | .wrapped .rsa _ => key.inner
      | _ => .error .format
  | none => .error .format

def curvePrivate (octets : Bytes) : Except KeyFault Bytes :=
  match read? octets with
  | some key => if key.form = .wrapped .curve true then .ok key.contents else .error .format
  | none => .error .format

def curvePublic (octets : Bytes) : Except KeyFault Bytes :=
  match read? octets with
  | some key => if key.form = .wrapped .curve false then key.inner else .error .format
  | none => .error .format

end SessionTokens.ArmouredKey
