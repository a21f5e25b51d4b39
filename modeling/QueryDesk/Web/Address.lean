import QueryDesk.Json.Reader
import QueryDesk.Text.Utf8

/-!
# Addresses

The path that an address leads to: without the host in front, the query and the fragment behind,
and the steps `.` and `..`; escaped bytes, `%` with two hexadecimal digits, are resolved.  They are
resolved twice, once where the request is sent and once where it is received, so `%2541` leads to
`A`.
-/

set_option autoImplicit false

namespace QueryDesk
namespace Address

/-- The bytes of a text, with escaped bytes resolved. -/
def bytes : Text → List Nat
  | [] => []
  | .char '%' :: a :: b :: rest =>
    match Json.hexValue? a, Json.hexValue? b with
    | some high, some low => (16 * high + low) :: bytes rest
    | _, _ => 0x25 :: bytes (a :: b :: rest)
  | g :: rest => Utf8.ofGlyph g ++ bytes rest

/-- The text with escaped bytes resolved. -/
def unescaped (t : Text) : Text := Utf8.read (bytes t)

/-- Takes one step of a path: the empty step in front cannot be taken back. -/
def step (taken : List Text) (name : Text) : List Text :=
  if name = Text.of "." then taken
  else if name = Text.of ".." then
    match taken with
    | [] => []
    | [last] => if last.isEmpty then taken else []
    | _ :: earlier => earlier
  else name :: taken

/-- The path without the steps `.` and `..`. -/
def withoutDots (path : Text) : Text :=
  Text.join (Text.of "/") ((Text.splitAt (.char '/') path).foldl step []).reverse

/-- The address without a host. -/
def withoutHost (address : Text) : Text :=
  if (Text.of "//").isPrefixOf address then (address.drop 2).dropWhile (· != .char '/')
  else address

/-- The path that an address leads to. -/
def path (address : Text) : Text :=
  let written := withoutHost (address.takeWhile fun g => !g.isOneOf ['?', '#'])
  let absolute := .char '/' :: written.dropWhile (· == .char '/')
  let found := unescaped (unescaped (withoutDots absolute))
  if found.isEmpty then Text.of "/" else found

end Address
end QueryDesk
