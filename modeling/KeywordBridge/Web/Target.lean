import KeywordBridge.Text.Hexadecimal
import KeywordBridge.Text.Utf8

/-!
# The targets of requests

A request is directed to an address, of which the service looks at the path
alone: the scheme and the host in front of it and the query and the fragment
behind it are dropped. They are dropped twice, so a path that looks like an
address once more is read as one.

Octets may be written in a path by a percent sign and two hexadecimal digits, and
it does not matter with how many slashes a path starts.
-/

namespace KeywordBridge

namespace Web

namespace Target

/-- May the name of a scheme hold this character? -/
def isSchemePart (c : Char) : Bool :=
  c.isAlphanum || c == '+' || c == '-' || c == '.'

/-- Drop a scheme: a name that starts with a letter, and a colon. -/
def dropScheme (address : Text) : Text :=
  if address.head?.any Char.isAlpha then
    match address.dropWhile isSchemePart with
    | ':' :: rest => rest
    | _ => address
  else address

/-- Does a path end in front of this character? -/
def endsPath (c : Char) : Bool :=
  c == '?' || c == '#'

/-- Drop a host, which stands behind two slashes. -/
def dropHost : Text → Text
  | '/' :: '/' :: rest => rest.dropWhile fun c => c != '/' && !endsPath c
  | address => address

/-- Drop the control characters and spaces in front of an address. -/
def dropControls (address : Text) : Text :=
  address.dropWhile (·.toNat ≤ 0x20)

/-- The path in an address. Line ends and tabs do not count. -/
def pathOf (address : Text) : Text :=
  let plain := (dropControls address).filter fun c => c != '\t' && c != '\n' && c != '\r'
  (dropHost (dropScheme plain)).takeWhile (!endsPath ·)

/-- The path in an address whose path may be an address itself. Two slashes that
are left alone announce a host and lead nowhere. -/
def innerPath (address : Text) : Text :=
  match dropControls (pathOf (pathOf address)) with
  | ['/', '/'] => []
  | path => path

/-- The octets of a path. -/
def octets : Text → List UInt8
  | '%' :: high :: low :: rest =>
      match Text.hexValue? high, Text.hexValue? low with
      | some high, some low => UInt8.ofNat (high * 16 + low) :: octets rest
      | _, _ => Text.toUtf8 ['%'] ++ octets (high :: low :: rest)
  | c :: rest => Text.toUtf8 [c] ++ octets rest
  | [] => []

/-- The path that a request is directed to. It starts with one slash unless it is
empty. -/
def path (address : Text) : Text :=
  match Utf8.decode (octets (innerPath address)) with
  | [] => []
  | decoded => '/' :: decoded.dropWhile (· == '/')

/-- Let one slash stand for two in a row. -/
def mergeSlashes : Text → Text
  | '/' :: '/' :: rest => '/' :: mergeSlashes rest
  | c :: rest => c :: mergeSlashes rest
  | [] => []

/-- A path with no two slashes in a row is not changed. -/
theorem mergeSlashes_of_not_infix {path : Text} (single : ¬ ['/', '/'] <:+: path) :
    mergeSlashes path = path := by
  fun_induction mergeSlashes path with
  | case1 rest => exact absurd ⟨[], rest, rfl⟩ single
  | case2 c rest _ ih =>
      rw [ih fun inside => single (inside.trans (List.suffix_cons c rest).isInfix)]
  | case3 => rfl

end Target

end Web

end KeywordBridge
