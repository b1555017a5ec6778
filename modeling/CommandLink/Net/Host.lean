import CommandLink.Bytes
import CommandLink.Net.Name
import CommandLink.Net.SocketAddress
import CommandLink.Text.Split
import CommandLink.Text.Utf8

/-!
# Hosts in addresses

The host of an address is an address of version 6 in brackets, an address of version 4, or a name.
What ends in a number is an address of version 4, whose numbers may be octal or hexadecimal and of
which the last fills all octets that are left.
-/

namespace CommandLink.Net

/-- What is wrong with the text of an address. -/
inductive UrlError where
  | noScheme
  | emptyHost
  | invalidName
  | invalidCharacter
  | invalidPort
  | invalidV4
  | invalidV6
  | unsupportedScheme (scheme : String)
  deriving DecidableEq, Repr

/-- The words for an error. -/
def UrlError.message : UrlError → String
  | .noScheme => "relative URL without a base"
  | .emptyHost => "empty host"
  | .invalidName => "invalid international domain name"
  | .invalidCharacter => "invalid domain character"
  | .invalidPort => "invalid port number"
  | .invalidV4 => "invalid IPv4 address"
  | .invalidV6 => "invalid IPv6 address"
  | .unsupportedScheme scheme => "unsupported scheme " ++ scheme

/-- A host. -/
inductive Host where
  | v4 (octets : List Nat)
  | v6 (groups : List Nat)
  | domain (name : String)
  deriving DecidableEq, Repr

/-- The text of a host. -/
def Host.text : Host → String
  | .v4 octets => octetsText octets
  | .v6 groups => "[" ++ compressedText groups ++ "]"
  | .domain name => name

/-- The bytes of a text, where a percent sign and two hexadecimal digits stand for one byte. -/
def percentDecode : List Char → Bytes
  | [] => []
  | '%' :: high :: low :: rest =>
    match Bytes.hexValue? high, Bytes.hexValue? low with
    | some h, some l => UInt8.ofNat (h * 16 + l) :: percentDecode rest
    | _, _ => 37 :: percentDecode (high :: low :: rest)
  | c :: rest => String.utf8EncodeChar c ++ percentDecode rest

namespace Host

/-! ## Addresses of version 4 -/

/-- A number in decimal, or in another base that its first characters tell. -/
def number? (cs : List Char) : Option Nat :=
  let inBase (base : Nat) (digits : List Char) : Option Nat :=
    (digits.mapM (digit? base)).map fun ds => ds.foldl (fun n d => n * base + d) 0
  match cs with
  | [] => none
  | '0' :: 'x' :: digits => inBase 16 digits
  | '0' :: 'X' :: digits => inBase 16 digits
  | '0' :: d :: digits => inBase 8 (d :: digits)
  | digits => inBase 10 digits

/-- The labels of a name without an empty one at the end. -/
def labels (name : List Char) : List (List Char) :=
  let labels := Text.splitOn '.' name
  if labels.getLast? = some [] then labels.dropLast else labels

/-- Whether the last label of a name is a number, so that the name is an address. -/
def endsInNumber (name : List Char) : Bool :=
  match (labels name).getLast? with
  | none => false
  | some last => (last ≠ [] && last.all Text.isDigit) || (number? last).isSome

/-- The address of version 4 that a name writes. -/
def parseV4 (name : List Char) : Except UrlError Host :=
  match (labels name).mapM number? with
  | none => .error .invalidV4
  | some numbers =>
    let front := numbers.dropLast
    let last := numbers.getLast?.getD 0
    let tail := Bytes.bigEndian (4 - front.length) last
    if 4 < numbers.length || front.any (fun n => 255 < n) || tail.toNat ≠ last then
      .error .invalidV4
    else .ok (.v4 (front ++ tail.map UInt8.toNat))

/-! ## Hosts -/

/-- The address of version 6 between brackets; the opening one has been read. -/
def parseV6 (cs : List Char) : Except UrlError Host :=
  match cs.getLast?, scanV6 cs.dropLast with
  | some ']', some (groups, []) => .ok (.v6 groups)
  | _, _ => .error .invalidV6

/-- The host that a text names. -/
def parse (cs : List Char) : Except UrlError Host :=
  match cs with
  | '[' :: cs => parseV6 cs
  | cs =>
    match (Text.Utf8.decode? (percentDecode cs)).bind Name.ascii? with
    | none => .error .invalidName
    | some [] => .error .emptyHost
    | some name => if endsInNumber name then parseV4 name else .ok (.domain (String.ofList name))

/-- The host that a text names where names have no meaning of their own: they may be empty, and some
characters may not stand in them. -/
def parseOpaque (cs : List Char) : Except UrlError Unit :=
  match cs with
  | '[' :: cs => (parseV6 cs).map fun _ => ()
  | cs =>
    if cs.any fun c => c.toNat = 0 || " #/:<>?@[\\]^|".toList.contains c then
      .error .invalidCharacter
    else .ok ()

end Host

end CommandLink.Net
